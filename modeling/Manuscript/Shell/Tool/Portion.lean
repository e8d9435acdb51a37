import Manuscript.Shell.System
import Manuscript.Shell.Tool.Options

/-!
The beginnings and the ends of files.

How much of a file is passed on is counted in lines or bytes. A count can also be
written as an option of its own, such as `-3`; the beginnings take it in front of
other options, the ends only where little else is asked for.
-/

namespace Manuscript.Shell.Tool

namespace Portion

inductive Side
  | beginning
  | ending
  deriving DecidableEq, Repr

structure Size where
  bytes : Bool := false
  count : Nat := 10
  /-- All but so many at the end of a file, or all from one of them on. -/
  rest : Bool := false

def count? (bytes : Bool) (t : Text) : Except (List Text) Nat :=
  let ds := if t.head? == some '+' then t.drop 1 else t
  let unit := ds.dropWhile Char.isDigit
  let number := if unit == ['c'] || unit == ['w'] then none else size? ds
  let shown := ["invalid number of ".toList, (if bytes then "bytes" else "lines").toList,
    ": ".toList, curly t]
  match number with
  | some n =>
    if n < 18446744073709551616 then .ok n
    else .error (shown ++ [": Value too large for defined data type".toList])
  | none => .error shown

def Size.add (side : Side) (z : Size) (o : GivenOption) : Except (List Text) Size :=
  match o with
  | (c, some t) =>
    if c == 'n' || c == 'c' then
      let bytes := c == 'c'
      let minus := t.head? == some '-'
      let ds := if minus then t.drop 1 else t
      (count? bytes ds).map fun count => match side with
        | .beginning => ⟨bytes, count, minus⟩
        | .ending => ⟨bytes, count, z.rest || t.head? == some '+'⟩
    else .ok z
  | (_, none) => .ok z

/-- The size that options ask for. -/
def sizeOf (side : Side) (os : List GivenOption) : Except (List Text) Size :=
  os.foldlM (Size.add side) {}

def check (side : Side) (o : GivenOption) (s : State) : Except State State :=
  match side, Size.add side {} o with
  | _, .error message => .error (failWith message s)
  | .beginning, .ok _ =>
    if o.1.isDigit then
      .error (hint 1 (complain ["invalid trailing option -- ".toList, [o.1]] s))
    else .ok s
  | .ending, .ok _ =>
    if o.1.isDigit then
      .error (failWith ["option used in invalid context -- ".toList, [o.1]] s)
    else .ok s

/-! ### Counts that look like options -/

def countLetters (kind : Text) (unit : Text) : Text → Except Char (Text × Text × List Text)
  | [] => .ok (kind, unit, [])
  | c :: cs =>
    match c with
    | 'c' => countLetters "-c".toList [] cs
    | 'b' => countLetters "-c".toList ['b'] cs
    | 'k' => countLetters "-c".toList ['k'] cs
    | 'm' => countLetters "-c".toList ['m'] cs
    | 'l' => countLetters "-n".toList unit cs
    | c =>
      if c == 'q' || c == 'v' || c == 'z' then
        (countLetters kind unit cs).map fun (kind, unit, os) => (kind, unit, ['-', c] :: os)
      else .error c

/-- Arguments for beginnings, with a count at their start written as an option; or a letter behind
the count that has no meaning. -/
def beginningArguments : List Text → Except Char (List Text)
  | ('-' :: d :: more) :: rest =>
    if d.isDigit then
      let ds := (d :: more).takeWhile Char.isDigit
      (countLetters "-n".toList [] ((d :: more).drop ds.length)).map fun (kind, unit, os) =>
        kind :: (ds ++ unit) :: os ++ rest
    else .ok (('-' :: d :: more) :: rest)
  | args => .ok args

def allowsCount : List Text → Bool
  | [] => true
  | [['-', '-'], _] => true
  | [['-', '-']] => true
  | [name] => name.head? != some '-' || name == ['-']
  | _ => false

def endingArguments : List Text → List Text
  | (sign :: more) :: rest =>
    if (sign == '+' || (sign == '-' && more ≠ [] && more ≠ ['c'])) && allowsCount rest then
      let ds := more.takeWhile Char.isDigit
      let (kind, unit, letters) := match more.drop ds.length with
        | 'b' :: cs => ("-c".toList, ['b'], cs)
        | 'c' :: cs => ("-c".toList, [], cs)
        | 'l' :: cs => ("-n".toList, [], cs)
        | cs => ("-n".toList, [], cs)
      let number := (if ds.isEmpty then ['1', '0'] else ds) ++ unit
      let given := [kind, if sign == '+' then '+' :: number else number]
      match letters with
      | [] => given ++ rest
      | ['f'] => given ++ ['-', 'f'] :: rest
      | _ => (sign :: more) :: rest
    else (sign :: more) :: rest
  | args => args

/-! ### Files -/

/-- The pieces of a text that end with some character, which the last one need not have. -/
def wholeLines (lineEnd : Char) (t : Text) : List Text :=
  match (partsAt lineEnd t).reverse with
  | [] => []
  | last :: rest =>
    (rest.map (· ++ [lineEnd])).reverse ++ if last.isEmpty then [] else [last]

def Size.units (z : Size) (lineEnd : Char) (t : Text) : List Text :=
  if z.bytes then t.map ([·]) else wholeLines lineEnd t

def header (shown first : Bool) (name : Text) : Text :=
  if shown then
    (if first then [] else ['\n']) ++ "==> ".toList ++
      (if name == ['-'] then "standard input".toList else name) ++ " <==\n".toList
  else []

def showsHeaders (os : List GivenOption) (names : List Text) : Bool :=
  match lastOf? os ['q', 'v'] with
  | some c => c == 'v'
  | none => 1 < names.length

def passOn (part : Handle → State → Text × State) (shows : Bool) : Bool → List Text → State → State
  | _, [], s => s
  | first, name :: names, s =>
    let opened : Except Fault (Handle × State) :=
      if name == ['-'] then .ok (s.input, s) else s.openNamed .read name
    match System.kindOf? s true name, opened with
    | some .directory, _ =>
      let s := s.out (header shows first name)
      passOn part shows false names
        (failBy ["error reading ".toList, quoted name] (.os .isDirectory) s)
    | _, .error e =>
      passOn part shows first names
        (failBy ["cannot open ".toList, quoted name, " for reading".toList] e s)
    | _, .ok (handle, s) =>
      let (t, s) := part handle (s.out (header shows first name))
      passOn part shows false names (s.out t)

def head (args : List Text) (s : State) : State :=
  match beginningArguments args with
  | .error c => hint 1 (complain ["invalid trailing option -- ".toList, [c]] s)
  | .ok args =>
    withCheckedOptions ⟨"c:n:qvz0123456789", [("bytes", .value, 'c'), ("lines", .value, 'n'),
        ("quiet", .nothing, 'q'), ("silent", .nothing, 'q'), ("verbose", .nothing, 'v'),
        ("zero-terminated", .nothing, 'z')], false, 1⟩ (check .beginning) (fun os names s =>
      match sizeOf .beginning os with
      | .error message => failWith message s
      | .ok z =>
        let lineEnd := if isGiven os 'z' then '\x00' else '\n'
        let part (h : Handle) (s : State) : Text × State :=
          if z.rest then
            let (t, s) := s.takeAllOf h
            let us := z.units lineEnd t
            ((us.take (us.length - z.count)).flatten, s)
          else if z.bytes then s.takeBytes h z.count
          else if h == .zeros then s.takeAllOf h
          else s.takePart h (State.lengthOfLines? lineEnd 0 z.count)
        passOn part (showsHeaders os names) true (orInput names) s.succeed) args s

def tail (args : List Text) : State → State :=
  withCheckedOptions ⟨"c:n:fFqvs:z0123456789", [("bytes", .value, 'c'), ("lines", .value, 'n'),
      ("quiet", .nothing, 'q'), ("silent", .nothing, 'q'), ("verbose", .nothing, 'v'),
      ("follow", .maybe, 'f'), ("zero-terminated", .nothing, 'z'), ("pid", .value, 'p'),
      ("retry", .nothing, 'r'), ("sleep-interval", .value, 's')], false, 1⟩ (check .ending)
    (fun os names s =>
      match sizeOf .ending os with
      | .error message => failWith message s
      | .ok z =>
        let part (h : Handle) (s : State) : Text × State :=
          let (t, s) := s.takeAllOf h
          let us := z.units (if isGiven os 'z' then '\x00' else '\n') t
          ((us.drop (if z.rest then z.count - 1 else us.length - z.count)).flatten, s)
        let waits := isGiven os 'f' || isGiven os 'F'
        let inputs := orInput names
        let isThere (name : Text) : Bool :=
          if name == ['-'] then match s.input with
            | .source _ => !names.isEmpty
            | _ => true
          else (System.kindOf? s true name).isSome
        let s := passOn part (showsHeaders os names) true inputs s.succeed
        if !waits then s
        else if inputs.any isThere then s.outOfTime
        else if names.isEmpty || isGiven os 'F' then s
        else failWith ["no files remaining".toList] s)
    (endingArguments args)

end Portion

end Manuscript.Shell.Tool
