import Manuscript.Shell.Digits
import Manuscript.Shell.Wildcard

/-!
Regular expressions as tools read them: in the basic way, in which most signs
have a meaning behind a backslash, and in the extended way, in which they have it
without.

A match is the leftmost one, and the longest of those that begin there. Which
ends a match may have is found for all of them at once; the groups are found
afterwards, for the end that was chosen.
-/

namespace Manuscript.Shell

inductive SetItem
  | range (low high : Char)
  | cls (name : String)
  deriving DecidableEq, Repr

inductive Regular
  | empty
  | char (c : Char)
  | any
  | set (negated : Bool) (items : List SetItem)
  | textStart
  | textEnd
  | wordStart
  | wordEnd
  | wordEdge (negated : Bool)
  | group (n : Nat) (r : Regular)
  | back (n : Nat)
  | seq (a b : Regular)
  | alt (a b : Regular)
  | rep (r : Regular) (least : Nat) (most : Option Nat)
  deriving DecidableEq, Repr

namespace Regular

/-! ### Reading -/

inductive Fault
  | malformed
  | tooBig
  | unmatchedBracket
  | unmatchedOpening (extended : Bool)
  | unmatchedClosing (extended : Bool)
  | unmatchedBrace (extended : Bool)
  | badCount (extended : Bool)
  | trailingBackslash
  | badReference
  | badRange
  | badClass
  deriving DecidableEq, Repr

def Fault.message : Fault → String
  | malformed => "Invalid regular expression"
  | tooBig => "Regular expression too big"
  | unmatchedBracket => "Unmatched [, [^, [:, [., or [="
  | unmatchedOpening _ => "Unmatched ( or \\("
  | unmatchedClosing _ => "Unmatched ) or \\)"
  | unmatchedBrace _ => "Unmatched \\\x7b"
  | badCount _ => "Invalid content of \\\x7b\\\x7d"
  | trailingBackslash => "Trailing backslash"
  | badReference => "Invalid back reference"
  | badRange => "Invalid range end"
  | badClass => "Invalid character class name"

/-- What is being read: the text that is left, and how many groups have been opened. -/
structure Progress where
  rest : Text
  groups : Nat
  open_ : Nat

abbrev Reading := StateT Progress (Except Fault)

def rest : Reading Text := do
  return (← get).rest

def drop (n : Nat) : Reading Unit :=
  modify fun p => { p with rest := p.rest.drop n }

/-- The items of a set up to its closing bracket, which does not count where the first item is
due. -/
def setItems (escapes : Bool) : Nat → Bool → List SetItem → Reading (List SetItem)
  | 0, _, _ => throw .unmatchedBracket
  | fuel + 1, first, read => do
    match ← rest with
    | [] => throw .unmatchedBracket
    | ']' :: _ =>
      if first then
        drop 1
        range escapes fuel ']' read
      else
        drop 1
        return read.reverse
    | '[' :: ':' :: more =>
      let name := more.takeWhile Char.isLower
      match more.drop name.length with
      | ':' :: ']' :: _ =>
        if (Wildcard.classOf? (String.ofList name) 'a').isSome then
          drop (name.length + 4)
          setItems escapes fuel false (.cls (String.ofList name) :: read)
        else throw .badClass
      | _ => throw .unmatchedBracket
    | '[' :: '.' :: c :: '.' :: ']' :: _ =>
      drop 5
      range escapes fuel c read
    | '[' :: '=' :: c :: '=' :: ']' :: _ =>
      drop 5
      setItems escapes fuel false (.range c c :: read)
    | '\\' :: c :: _ =>
      let plain := match c with
        | 'n' => some '\n'
        | 't' => some '\t'
        | _ => none
      match if escapes then plain else none with
      | some d =>
        drop 2
        setItems escapes fuel false (.range d d :: read)
      | none =>
        drop 1
        range escapes fuel '\\' read
    | c :: _ =>
      drop 1
      range escapes fuel c read
where
  range (escapes : Bool) : Nat → Char → List SetItem → Reading (List SetItem)
    | 0, _, _ => throw .unmatchedBracket
    | fuel + 1, low, read => do
      match ← rest with
      | '-' :: ']' :: _ => setItems escapes fuel false (.range low low :: read)
      | '-' :: '[' :: '.' :: high :: '.' :: ']' :: _ =>
        drop 6
        setItems escapes fuel false (.range low high :: read)
      | '-' :: high :: _ =>
        drop 2
        if high < low then throw .badRange
        else setItems escapes fuel false (.range low high :: read)
      | _ => setItems escapes fuel false (.range low low :: read)

def readSet (escapes : Bool) : Reading Regular := do
  let negated := (← rest).head? == some '^'
  if negated then drop 1
  if (← rest).isEmpty then throw .malformed
  let items ← setItems escapes (2 * (← rest).length + 2) true []
  return .set negated items

def count? (extended : Bool) (t : Text) : Option (Nat × Option Nat × Text) :=
  let number (ds : Text) : Nat := Digits.valueIn 10 ds
  let low := t.takeWhile Char.isDigit
  let t := t.drop low.length
  let closing : Text := if extended then ['\x7d'] else ['\\', '\x7d']
  match t with
  | ',' :: more =>
    let high := more.takeWhile Char.isDigit
    (Text.dropBeginning? closing (more.drop high.length)).map fun rest =>
      (number low, if high.isEmpty then none else some (number high), rest)
  | t =>
    if low.isEmpty then none
    else (Text.dropBeginning? closing t).map fun rest => (number low, some (number low), rest)

def repetition? (extended : Bool) : Reading (Option (Nat × Option Nat)) := do
  let t ← rest
  let simple (n : Nat) (r : Nat × Option Nat) : Reading (Option (Nat × Option Nat)) := do
    drop n
    return some r
  let counted (low : Nat) (high : Option Nat) (behind : Text) :
      Reading (Option (Nat × Option Nat)) := do
    if high.any (· < low) then throw (.badCount extended)
    if 32767 < low || high.any (32767 < ·) then throw .tooBig
    modify fun p => { p with rest := behind }
    return some (low, high)
  match t with
  | '*' :: _ => simple 1 (0, none)
  | '+' :: _ => if extended then simple 1 (1, none) else return none
  | '?' :: _ => if extended then simple 1 (0, some 1) else return none
  | '\\' :: '+' :: _ => if extended then return none else simple 2 (1, none)
  | '\\' :: '?' :: _ => if extended then return none else simple 2 (0, some 1)
  | '\x7b' :: more =>
    if extended then
      match count? true more with
      | some (low, high, behind) => counted low high behind
      | none => return none
    else return none
  | '\\' :: '\x7b' :: more =>
    if extended then return none
    else match count? false more with
      | some (low, high, behind) => counted low high behind
      | none =>
        if Text.occursIn ['\\', '\x7d'] more then throw (.badCount extended)
        else throw (.unmatchedBrace extended)
  | _ => return none

/-- A piece with the repetitions behind it. -/
def repeated (extended : Bool) : Nat → Regular → Reading Regular
  | 0, r => return r
  | fuel + 1, r => do
    match ← repetition? extended with
    | some (low, high) => repeated extended fuel (.rep r low high)
    | none => return r

def isWordChar (c : Char) : Bool :=
  c.isAlphanum || c == '_' || 128 ≤ c.toNat

def escaped? (t : Text) : Option (Char × Nat) :=
  let coded (base limit : Nat) (isDigit : Char → Bool) (ds : Text) : Option (Char × Nat) :=
    let ds := (ds.take limit).takeWhile isDigit
    if ds.isEmpty then none else some (Char.ofNat (Digits.valueIn base ds % 256), ds.length + 1)
  match t with
  | 'n' :: _ => some ('\n', 1)
  | 't' :: _ => some ('\t', 1)
  | 'r' :: _ => some ('\r', 1)
  | 'f' :: _ => some ('\x0c', 1)
  | 'v' :: _ => some ('\x0b', 1)
  | 'a' :: _ => some ('\x07', 1)
  | 'x' :: ds => coded 16 2 Digits.isHex ds
  | 'o' :: ds => coded 8 3 Digits.isOctal ds
  | 'd' :: ds => coded 10 3 Char.isDigit ds
  | _ => none

/-- What a letter behind a backslash stands for, in both ways. -/
def lettered? (c : Char) : Option Regular :=
  let word : List SetItem := [.cls "alnum", .range '_' '_']
  match c with
  | 'w' => some (.set false word)
  | 'W' => some (.set true word)
  | 's' => some (.set false [.cls "space"])
  | 'S' => some (.set true [.cls "space"])
  | 'b' => some (.wordEdge false)
  | 'B' => some (.wordEdge true)
  | '<' => some .wordStart
  | '>' => some .wordEnd
  | '\'' => some .textEnd
  | _ => if c.toNat == 96 then some .textStart else none

mutual

def alternatives (extended escapes : Bool) : Nat → Reading Regular
  | 0 => return .empty
  | fuel + 1 => do
    let a ← branch extended escapes fuel .empty true
    match extended, ← rest with
    | true, '|' :: _ =>
      drop 1
      return .alt a (← alternatives extended escapes fuel)
    | false, '\\' :: '|' :: _ =>
      drop 2
      return .alt a (← alternatives extended escapes fuel)
    | _, _ => return a

def branch (extended escapes : Bool) : Nat → Regular → Bool → Reading Regular
  | 0, read, _ => return read
  | fuel + 1, read, first => do
    let append (r : Regular) : Regular := if read = .empty then r else .seq read r
    let add (r : Regular) : Reading Regular := do
      let r ← repeated extended fuel r
      branch extended escapes fuel (append r) false
    let closes (t : Text) : Bool :=
      if extended then t.head? == some '|' || (t.head? == some ')')
      else (['\\', '|'] : Text).isPrefixOf t || (['\\', ')'] : Text).isPrefixOf t
    match ← rest with
    | [] => return read
    | '\\' :: [] => throw .trailingBackslash
    | '\\' :: c :: more =>
      match if escapes then escaped? (c :: more) else none with
      | some (d, n) =>
        drop (n + 1)
        add (.char d)
      | none =>
      if extended then
        drop 2
        if c.isDigit && c != '0' then reference extended escapes fuel (c.toNat - 48) read
        else add ((lettered? c).getD (.char c))
      else if c == '|' then return read
      else if c == ')' then
        if (← get).open_ = 0 then throw (.unmatchedClosing extended)
        else return read
      else if c == '(' then
        drop 2
        let g ← grouped extended escapes fuel
        add g
      else if c == '\x7b' then
        if first then
          drop 2
          add (.char '\x7b')
        else
          let _ ← repetition? extended
          branch extended escapes fuel read false
      else if c.isDigit && c != '0' then
        drop 2
        reference extended escapes fuel (c.toNat - 48) read
      else
        drop 2
        add ((lettered? c).getD (.char c))
    | '.' :: _ =>
      drop 1
      add .any
    | '[' :: _ =>
      drop 1
      let r ← readSet escapes
      add r
    | '^' :: _ =>
      drop 1
      if extended then branch extended escapes fuel (append .textStart) true
      else if first then branch extended escapes fuel (append .textStart) true
      else add (.char '^')
    | '$' :: more =>
      drop 1
      if extended || more.isEmpty || closes more then
        branch extended escapes fuel (append .textEnd) false
      else add (.char '$')
    | '*' :: _ =>
      drop 1
      if first then add (.char '*')
      else branch extended escapes fuel read false
    | '(' :: _ =>
      drop 1
      if extended then
        let g ← grouped extended escapes fuel
        add g
      else add (.char '(')
    | ')' :: _ =>
      if extended && (← get).open_ ≠ 0 then return read
      else if extended && escapes then throw (.unmatchedClosing extended)
      else
        drop 1
        add (.char ')')
    | '|' :: _ =>
      if extended then return read
      else
        drop 1
        add (.char '|')
    | c :: _ =>
      drop 1
      add (.char c)

def reference (extended escapes : Bool) : Nat → Nat → Regular → Reading Regular
  | 0, _, read => return read
  | fuel + 1, n, read => do
    if (← get).groups < n then throw .badReference
    else
      let r ← repeated extended fuel (.back n)
      branch extended escapes fuel (if read = .empty then r else .seq read r) false

def grouped (extended escapes : Bool) : Nat → Reading Regular
  | 0 => throw (.unmatchedOpening extended)
  | fuel + 1 => do
    let n := (← get).groups + 1
    modify fun p => { p with groups := n, open_ := p.open_ + 1 }
    let r ← alternatives extended escapes fuel
    match extended, ← rest with
    | true, ')' :: _ => drop 1
    | false, '\\' :: ')' :: _ => drop 2
    | _, _ => throw (.unmatchedOpening extended)
    modify fun p => { p with open_ := p.open_ - 1 }
    return .group n r

end

/-- The expression that a text is, and how many groups it has. In a tool that edits, a backslash has
a meaning in sets too, and a closing parenthesis needs an opening one. -/
def ofText (extended escapes : Bool) (t : Text) : Except Fault (Regular × Nat) := do
  let (r, p) ← (alternatives extended escapes (6 * t.length + 10)).run ⟨t, 0, 0⟩
  if p.rest.isEmpty then return (r, p.groups)
  else throw (.unmatchedClosing extended)

def ofLiteral (t : Text) : Regular :=
  t.foldr (fun c r => if r = .empty then .char c else .seq (.char c) r) .empty

/-! ### Matching -/

structure Subject where
  text : Array Char
  folds : Bool

namespace Subject

def same (s : Subject) (a b : Char) : Bool :=
  a == b || (s.folds && a.toLower == b.toLower)

def itemTakes (c : Char) : SetItem → Bool
  | .range low high => low ≤ c && c ≤ high
  | .cls name =>
    if 128 ≤ c.toNat then name == "alpha" || name == "alnum" || name == "print" || name == "graph"
    else (Wildcard.classOf? name c).getD false

def takes (s : Subject) (negated : Bool) (items : List SetItem) (c : Char) : Bool :=
  let hit := items.any (itemTakes c) ||
    (s.folds && items.any fun i => itemTakes c.toLower i || itemTakes c.toUpper i)
  !Octets.isStray c && hit != negated

def isWordAt (s : Subject) (i : Nat) : Bool :=
  s.text[i]?.any isWordChar

def isWordBefore (s : Subject) (i : Nat) : Bool :=
  i ≠ 0 && s.isWordAt (i - 1)

end Subject

def refers : Regular → Bool
  | back _ => true
  | group _ r => r.refers
  | seq a b => a.refers || b.refers
  | alt a b => a.refers || b.refers
  | rep r _ _ => r.refers
  | _ => false

def merge (a b : List Nat) : List Nat :=
  a ++ b.filter (!a.contains ·)

/-- All places where a match from one of some places may end. -/
def ends (s : Subject) : Nat → Regular → List Nat → List Nat
  | 0, _, _ => []
  | fuel + 1, r, at_ =>
    let one (p : Char → Bool) : List Nat :=
      at_.filterMap fun i => if s.text[i]?.any p then some (i + 1) else none
    match r with
    | .empty => at_
    | .char c => one (s.same c)
    | .any => one (!Octets.isStray ·)
    | .set negated items => one (s.takes negated items)
    | .textStart => at_.filter (· == 0)
    | .textEnd => at_.filter (· == s.text.size)
    | .wordStart => at_.filter fun i => !s.isWordBefore i && s.isWordAt i
    | .wordEnd => at_.filter fun i => s.isWordBefore i && !s.isWordAt i
    | .wordEdge negated => at_.filter fun i => (s.isWordBefore i != s.isWordAt i) != negated
    | .group _ r => ends s fuel r at_
    | .back _ => at_
    | .seq a b => ends s fuel b (ends s fuel a at_)
    | .alt a b => merge (ends s fuel a at_) (ends s fuel b at_)
    | .rep r least most => endsRepeated s fuel r least most at_ (if least = 0 then at_ else [])
where
  endsRepeated (s : Subject) : Nat → Regular → Nat → Option Nat → List Nat → List Nat → List Nat
    | 0, _, _, _, _, found => found
    | fuel + 1, r, least, most, at_, found =>
      if at_.isEmpty || most = some 0 then found
      else
        let reached := ends s fuel r at_
        let next := most.map (· - 1)
        if 1 < least then endsRepeated s fuel r (least - 1) next reached found
        else
          let fresh := reached.filter (!found.contains ·)
          endsRepeated s fuel r 0 next fresh (merge found fresh)

/-- A place and the groups that have been matched before it. -/
structure Reached where
  place : Nat
  groups : List (Nat × Nat × Nat)

def sameAt (s : Subject) (a b : Nat) : Nat → Bool
  | 0 => true
  | n + 1 =>
    (match s.text[a]?, s.text[b]? with
      | some x, some y => s.same x y
      | _, _ => false) && sameAt s (a + 1) (b + 1) n

/-- A match from a place that goes on as the last argument asks, the longest repetitions first. -/
def track (s : Subject) :
    Nat → Regular → Reached → (Reached → Option Reached) → Option Reached
  | 0, _, _, _ => none
  | fuel + 1, r, at_, k =>
    let i := at_.place
    let one (p : Char → Bool) : Option Reached :=
      if s.text[i]?.any p then k { at_ with place := i + 1 } else none
    let here (b : Bool) : Option Reached := if b then k at_ else none
    match r with
    | .empty => k at_
    | .char c => one (s.same c)
    | .any => one (!Octets.isStray ·)
    | .set negated items => one (s.takes negated items)
    | .textStart => here (i == 0)
    | .textEnd => here (i == s.text.size)
    | .wordStart => here (!s.isWordBefore i && s.isWordAt i)
    | .wordEnd => here (s.isWordBefore i && !s.isWordAt i)
    | .wordEdge negated => here ((s.isWordBefore i != s.isWordAt i) != negated)
    | .group n r =>
      track s fuel r at_ fun b =>
        k { b with groups := (n, i, b.place) :: b.groups.filter (·.1 ≠ n) }
    | .back n =>
      match at_.groups.lookup n with
      | none => none
      | some (a, b) =>
        if sameAt s a i (b - a) then k { at_ with place := i + (b - a) } else none
    | .seq a b => track s fuel a at_ fun c => track s fuel b c k
    | .alt a b => (track s fuel a at_ k).orElse fun () => track s fuel b at_ k
    | .rep r least most =>
      let more : Option Reached :=
        if most = some 0 then none
        else track s fuel r at_ fun b =>
          if b.place = i && least = 0 then none
          else track s fuel (.rep r (least - 1) (most.map (· - 1))) b k
      match more with
      | some found => some found
      | none => if least = 0 then k at_ else none

structure Found where
  first : Nat
  last : Nat
  groups : List (Nat × Nat × Nat)

/-- The match that begins at a place, if one does whose end is accepted. -/
def matchAt? (r : Regular) (s : Subject) (accepts : Nat → Bool) (fuel : Nat) (i : Nat) :
    Option Found :=
  if r.refers then
    (track s fuel r ⟨i, []⟩ fun b => if accepts b.place then some b else none).map fun b =>
      ⟨i, b.place, b.groups⟩
  else
    match (ends s fuel r [i]).filter accepts with
    | [] => none
    | e :: es =>
      let last := es.foldl max e
      (track s fuel r ⟨i, []⟩ fun b => if b.place = last then some b else none).map fun b =>
        ⟨i, b.place, b.groups⟩

def size : Regular → Nat
  | group _ r => r.size + 1
  | seq a b => a.size + b.size + 1
  | alt a b => a.size + b.size + 1
  | rep r least most => (r.size + 2) * (max least (most.getD 0) + 1) + 1
  | _ => 1

/-- The first match from a place on, among so many beginnings. -/
def searchFrom (r : Regular) (s : Subject) (starts accepts : Nat → Bool) (fuel : Nat) :
    Nat → Nat → Option Found
  | 0, _ => none
  | n + 1, i =>
    match if starts i then r.matchAt? s accepts fuel i else none with
    | some f => some f
    | none => searchFrom r s starts accepts fuel n (i + 1)

/-- The first match from a place on, where only some places count as its beginning and its end. -/
def searchBetween (r : Regular) (s : Subject) (starts accepts : Nat → Bool) (first : Nat) :
    Option Found :=
  r.searchFrom s starts accepts (2 * r.size + 4 * s.text.size + 16) (s.text.size + 1 - first) first

def search (r : Regular) (s : Subject) (first : Nat) : Option Found :=
  r.searchBetween s (fun _ => true) (fun _ => true) first

def Found.text (f : Found) (s : Subject) : Text :=
  (s.text.extract f.first f.last).toList

def Found.group (f : Found) (s : Subject) (n : Nat) : Text :=
  if n = 0 then f.text s
  else match f.groups.lookup n with
    | some (a, b) => (s.text.extract a b).toList
    | none => []

end Regular

end Manuscript.Shell
