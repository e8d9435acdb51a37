import Manuscript.Shell.Digits
import Manuscript.Shell.Tool.Options
import Manuscript.Shell.Wildcard

/-!
Tools that work on the parts of lines: columns, and single characters.
-/

namespace Manuscript.Shell.Tool

/-! ### Cutting -/

/-- Positions, as closed ranges that count from one; an open one has no end. -/
abbrev Positions := List (Nat × Option Nat)

def Positions.has (ps : Positions) (n : Nat) : Bool :=
  ps.any fun (low, high) => low ≤ n && (match high with
    | some h => decide (n ≤ h)
    | none => true)

inductive PositionFault
  | zero
  | invalid (t : Text)
  | decreasing
  deriving DecidableEq, Repr

def positionRange (t : Text) : Except PositionFault (Nat × Option Nat) :=
  let number (d : Text) : Except PositionFault Nat :=
    match digits? d with
    | some 0 => .error .zero
    | some n => .ok n
    | none => .error (.invalid t)
  let low := t.takeWhile (· != '-')
  match t.drop low.length with
  | [] => (number low).map fun n => (n, some n)
  | _ :: high => do
    if low.isEmpty && high.isEmpty then throw (.invalid t)
    let a ← if low.isEmpty then pure 1 else number low
    if high.isEmpty then return (a, none)
    else
      let b ← number high
      if b < a then throw .decreasing
      else return (a, some b)

def positions (t : Text) : Except PositionFault Positions :=
  (Text.splitBy (fun c => c == ',' || c == ' ' || c == '\t') t).mapM positionRange

def pick {α : Type} (takes : Nat → Bool) (l : List α) : List α :=
  (l.zipIdx 1).filterMap fun (a, n) => if takes n then some a else none

def cutLine (os : List GivenOption) (takes : Nat → Bool) (delimiter : Char) (joint l : Text) :
    Option Text :=
  if isGiven os 'f' then
    let fields := partsAt delimiter l
    match fields with
    | [_] => if isGiven os 's' then none else some l
    | fields => some (Text.joinWith joint (pick takes fields))
  else some (pick takes l)

def cut : List Text → State → State :=
  withOptions ⟨"b:c:d:f:nsz", [("bytes", .value, 'b'), ("characters", .value, 'c'),
      ("fields", .value, 'f'), ("delimiter", .value, 'd'), ("only-delimited", .nothing, 's'),
      ("output-delimiter", .value, 'o'), ("complement", .nothing, 'm'),
      ("zero-terminated", .nothing, 'z')], false, 1⟩ fun os names s =>
    let usage (message : List Text) : State := hint 1 (complain message s)
    let delimiter := (lastValue? os 'd').getD ['\t']
    match os.filter fun o => o.1 == 'b' || o.1 == 'c' || o.1 == 'f' with
    | [] => usage ["you must specify a list of bytes, characters, or fields".toList]
    | [(kind, list)] =>
      if 1 < delimiter.length then usage ["the delimiter must be a single character".toList]
      else match positions (list.getD []) with
        | .error .zero =>
          usage [if kind == 'f' then "fields are numbered from 1".toList
            else "byte/character positions are numbered from 1".toList]
        | .error .decreasing => usage ["invalid decreasing range".toList]
        | .error (.invalid t) =>
          usage [if kind == 'f' then "invalid field value ".toList
            else "invalid byte/character position ".toList, curly t]
        | .ok ps =>
          if kind != 'f' && isGiven os 'd' then
            usage ["an input delimiter may be specified only when operating on fields".toList]
          else
            let d := delimiter.headD '\x00'
            let joint := (lastValue? os 'o').getD delimiter
            let takes (n : Nat) : Bool := ps.has n != isGiven os 'm'
            let parts (t : Text) : Text :=
              unlines ((linesOf t).1.filterMap (cutLine os takes d joint))
            throughEach (fun () t => (parts t, ())) (orInput names) () s.succeed
    | _ => usage ["only one list may be specified".toList]

/-! ### Putting columns together -/

def interleave (separators : Text) : List Text → Text
  | [] => []
  | first :: rest =>
    first ++ (rest.zipIdx).flatMap fun (t, n) =>
      (match separators[n % (max 1 separators.length)]? with
        | some c => if c == '\x00' then [] else [c]
        | none => []) ++ t

/-- The separators that a text with escapes names; a zero stands for none. -/
def separatorsOf : Text → Text
  | '\\' :: 'n' :: rest => '\n' :: separatorsOf rest
  | '\\' :: 't' :: rest => '\t' :: separatorsOf rest
  | '\\' :: '0' :: rest => '\x00' :: separatorsOf rest
  | '\\' :: c :: rest => c :: separatorsOf rest
  | c :: rest => c :: separatorsOf rest
  | [] => []

/-- Each next line of some inputs, where the input itself may be among them several times. -/
def rows : Nat → List (Sum Nat (List Text)) → List Text → List (List Text)
  | 0, _, _ => []
  | fuel + 1, sources, input =>
    let (row, sources, input) := sources.foldl (fun (row, left, input) source =>
      match source with
      | .inl n => (input.head? :: row, Sum.inl n :: left, input.drop 1)
      | .inr ls => (ls.head? :: row, Sum.inr (ls.drop 1) :: left, input))
      (([], [], input) : List (Option Text) × List (Sum Nat (List Text)) × List Text)
    if row.all Option.isNone then []
    else (row.reverse.map (·.getD [])) :: rows fuel sources.reverse input

def paste : List Text → State → State :=
  withOptions ⟨"d:sz", [("delimiters", .value, 'd'), ("serial", .nothing, 's')], false, 1⟩
    fun os names s =>
      let separators := separatorsOf ((lastValue? os 'd').getD ['\t'])
      let names := orInput names
      let (input, s) := if names.contains ['-'] then s.takeAllOf s.input else ([], s)
      let (sources, s) := names.foldl (fun (sources, s) name =>
        if name == ['-'] then (Sum.inl 0 :: sources, s)
        else match contentsOf name s with
          | .ok (t, s) => (Sum.inr (linesOf t).1 :: sources, s)
          | .error f => (sources, failBy [named name] f s))
        (([], s.succeed) : List (Sum Nat (List Text)) × State)
      let sources := sources.reverse
      if s.status ≠ 0 && !isGiven os 's' then s
      else
        let inputLines := (linesOf input).1
        let size := sources.foldl (fun n x => n + match x with
          | .inl _ => inputLines.length
          | .inr ls => ls.length) 1
        let all := if isGiven os 's' then sources.map fun
            | .inl _ => inputLines
            | .inr ls => ls
          else rows size sources inputLines
        s.out (unlines (all.map (interleave separators)))

/-! ### Characters -/

inductive SetFault
  | reversed (low high : Char)
  | unknownClass (t : Text)
  deriving DecidableEq, Repr

def setCharacter (t : Text) : Option (Char × Text) :=
  match t with
  | [] => none
  | '\\' :: c :: rest =>
    if Digits.isOctal c then
      let ds := (c :: rest.take 2).takeWhile Digits.isOctal
      some (Char.ofNat (Digits.valueIn 8 ds % 256), (c :: rest).drop ds.length)
    else
      let d := match c with
        | 'a' => '\x07'
        | 'b' => '\x08'
        | 'f' => '\x0c'
        | 'n' => '\n'
        | 'r' => '\r'
        | 't' => '\t'
        | 'v' => '\x0b'
        | c => c
      some (d, rest)
  | c :: rest => some (c, rest)

def allBytes : Text :=
  (List.range 256).map Char.ofNat

/-- The characters of a set, in order. One that is repeated fills the set up to a size. -/
def setOf (size : Nat) : Nat → Text → Except SetFault Text
  | 0, _ => .ok []
  | _, [] => .ok []
  | fuel + 1, t =>
    match t with
    | '[' :: ':' :: rest =>
      let name := rest.takeWhile Char.isLower
      match rest.drop name.length with
      | ':' :: ']' :: rest =>
        match (allBytes.filter fun c => (Wildcard.classOf? (String.ofList name) c).getD false) with
        | [] => .error (.unknownClass name)
        | cs => (setOf size fuel rest).map (cs ++ ·)
      | _ => (setOf size fuel (':' :: rest)).map ('[' :: ·)
    | '[' :: '=' :: c :: '=' :: ']' :: rest => (setOf size fuel rest).map (c :: ·)
    | _ =>
      let repeated : Option (Char × Nat × Text) := match t with
        | '[' :: rest =>
          match setCharacter rest with
          | some (c, '*' :: more) =>
            let ds := more.takeWhile Char.isDigit
            match more.drop ds.length with
            | ']' :: rest =>
              let (n, _) := Digits.number ds
              some (c, if ds.isEmpty then 0 else n, rest)
            | _ => none
          | _ => none
        | _ => none
      match repeated with
      | some (c, n, rest) => do
        let more ← setOf size fuel rest
        let n := if n = 0 then size - more.length else n
        return List.replicate n c ++ more
      | none =>
        match setCharacter t with
        | none => .ok []
        | some (low, '-' :: rest) =>
          match setCharacter rest with
          | some (high, rest) =>
            if high < low then .error (.reversed low high)
            else
              let cs := (List.range (high.toNat + 1 - low.toNat)).map fun n =>
                Char.ofNat (low.toNat + n)
              (setOf size fuel rest).map (cs ++ ·)
          | none => .ok [low, '-']
        | some (c, rest) => (setOf size fuel rest).map (c :: ·)

def squeeze (which : Char → Bool) (t : Text) : Text :=
  (t.foldl (fun (kept, last) c =>
    if some c == last && which c then (kept, last) else (c :: kept, some c))
    (([], none) : Text × Option Char)).1.reverse

/-- The table that sends each character of one set to the one of another in its place, and the last
one of that where it is too short. -/
def exchanges (old new : Text) : Array Char :=
  let last := new.getLastD '\x00'
  let (table, _) := old.foldl (fun ((table, left) : Array Char × Text) c =>
    (table.setIfInBounds c.toNat (left.headD last), left.drop 1)) (allBytes.toArray, new)
  table

def memberTable (set : Text) : Array Bool :=
  set.foldl (fun table c => table.setIfInBounds c.toNat true) (Array.replicate 256 false)

def isMember (table : Array Bool) (c : Char) : Bool :=
  table.getD c.toNat false

def tr : List Text → State → State :=
  withOptions ⟨"AcCdst", [("complement", .nothing, 'c'), ("delete", .nothing, 'd'),
      ("squeeze-repeats", .nothing, 's'), ("truncate-set1", .nothing, 't')], true, 1⟩
    fun os names s =>
      let deletes := isGiven os 'd'
      let squeezes := isGiven os 's'
      let complement := isGiven os 'c' || isGiven os 'C'
      let needed := if deletes == squeezes then 2 else 1
      let allowed := if deletes && !squeezes then 1 else 2
      let usage (lines : List (List Text)) : State :=
        hint 1 (lines.foldl (fun s l => s.tell l) s)
      let say (message : List Text) : List Text := s.self :: ": ".toList :: message
      match names with
      | [] => usage [say ["missing operand".toList]]
      | first :: more =>
        if names.length < needed then
          usage [say ["missing operand after ".toList, curly first],
            if squeezes then
              ["Two strings must be given when both deleting and squeezing repeats.".toList]
            else ["Two strings must be given when translating.".toList]]
        else match names.drop allowed with
          | extra :: _ =>
            let message := say ["extra operand ".toList, curly extra]
            usage (if names.length = 2 then [message,
              ["Only one string may be given when deleting without squeezing repeats.".toList]]
              else [message])
          | [] =>
            let second := more.headD []
            let set (size : Nat) (t : Text) := setOf size (t.length + 1) t
            match set 0 first with
            | .error f => refuse f s
            | .ok one =>
              let members := memberTable one
              let inOne (c : Char) : Bool := isMember members c != complement
              let old := if complement then allBytes.filter inOne else one
              match set old.length second with
              | .error f => refuse f s
              | .ok two =>
                let last := memberTable (if names.length = 2 then two else [])
                let inLast (c : Char) : Bool :=
                  if names.length = 2 then isMember last c else inOne c
                if deletes then
                  let (t, s) := s.takeAllOf s.input
                  let t := t.filter (!inOne ·)
                  (s.out (if squeezes then squeeze inLast t else t)).succeed
                else if names.length = 1 then
                  let (t, s) := s.takeAllOf s.input
                  (s.out (squeeze inLast t)).succeed
                else if two.isEmpty && !isGiven os 't' then
                  failWith ["when not truncating set1, string2 must be non-empty".toList] s
                else
                  let old := if isGiven os 't' then old.take two.length else old
                  let table := exchanges old two
                  let (t, s) := s.takeAllOf s.input
                  let t := t.map fun c => table.getD c.toNat c
                  (s.out (if squeezes then squeeze inLast t else t)).succeed
where
  refuse (f : SetFault) (s : State) : State :=
    match f with
    | .reversed low high =>
      failWith ["range-endpoints of '".toList, [low, '-', high],
        "' are in reverse collating sequence order".toList] s
    | .unknownClass t => failWith ["invalid character class ".toList, curly t] s

end Manuscript.Shell.Tool
