import Manuscript.Expression.Size
import Manuscript.Text.Word

/-!
The written form of regular expressions.

A backslash makes the character after it literal, or with a letter names a
class, a control or an assertion; a letter that names nothing is refused.
Groups are numbered by their opening parenthesis unless they open with `(?:`.
A repetition `*`, `+`, `?` or a count in braces follows what it repeats and may
itself be followed by `?`, which makes it lazy. A class in brackets may hold
other classes and combine sets by `&&`, `--` and `~~`.

What is nested too deeply is refused: sequences, choices, groups, repetitions
and classes all count.
-/

namespace Manuscript.Expression

namespace Reader

open Text (Ranges)

def deepest : Nat := 250

/-- Something read, and how deeply it is nested. -/
structure Nested (α : Type) where
  value : α
  depth : Nat

/-- The text still to be read and the number of the next group. -/
structure State where
  rest : Text
  nextGroup : Nat

def digit : Ranges := [('0'.toNat, '9'.toNat)]

def blank : Ranges :=
  Text.blankRanges.map fun r => (r.1.toNat, r.2.toNat)

inductive Escape
  | literal (c : Char)
  | set (rs : Ranges)
  | assertion (a : Assertion)

def escape? (c : Char) : Option Escape :=
  match c with
  | 'n' => some (.literal '\n')
  | 't' => some (.literal '\t')
  | 'r' => some (.literal '\r')
  | 'f' => some (.literal '\x0c')
  | 'v' => some (.literal '\x0b')
  | 'a' => some (.literal '\x07')
  | 'd' => some (.set digit)
  | 'D' => some (.set digit.complement)
  | 's' => some (.set blank)
  | 'S' => some (.set blank.complement)
  | 'w' => some (.set Text.Word.table)
  | 'W' => some (.set (Ranges.complement Text.Word.table))
  | 'b' => some (.assertion .wordEdge)
  | 'B' => some (.assertion .noWordEdge)
  | 'A' => some (.assertion .textStart)
  | 'z' => some (.assertion .textEnd)
  | c =>
    if c.toNat < 128 && !c.isAlphanum && c != '<' && c != '>' then some (.literal c) else none

/-! ### Classes in brackets -/

inductive Combination
  | inter
  | diff
  | symmDiff

def Combination.apply : Combination → Ranges → Ranges → Ranges
  | inter, a, b => a.inter b
  | diff, a, b => a.diff b
  | symmDiff, a, b => (a.union b).diff (a.inter b)

def combination? (a b : Char) : Option Combination :=
  if a != b then none
  else match a with
    | '&' => some .inter
    | '-' => some .diff
    | '~' => some .symmDiff
    | _ => none

structure Items where
  ranges : List (Nat × Nat) := []
  count : Nat := 0
  depth : Nat := 0

namespace Items

def add (i : Items) (rs : List (Nat × Nat)) : Items :=
  ⟨rs ++ i.ranges, i.count + 1, i.depth⟩

def addSet (i : Items) (s : Nested Ranges) : Items :=
  ⟨s.value ++ i.ranges, i.count + 1, max s.depth i.depth⟩

/-- The set of the items; more than one count as nested. -/
def toSet (i : Items) : Nested Ranges :=
  ⟨.ofList i.ranges, if i.count ≤ 1 then i.depth else i.depth + 1⟩

end Items

/-- A set to which the one being read will be joined. -/
abbrev Pending := Option (Nested Ranges × Combination)

def combine (pending : Pending) (s : Nested Ranges) : Nested Ranges :=
  match pending with
  | some (a, c) => ⟨c.apply a.value s.value, max a.depth s.depth + 1⟩
  | none => s

def setItem? : Text → Option (Escape × Text)
  | '\\' :: c :: rest => (escape? c).map fun e => (e, rest)
  | '\\' :: [] => none
  | c :: rest => some (.literal c, rest)
  | [] => none

/-- The text behind a hyphen that makes a range, and not a character or a combination. -/
def afterHyphen? : Text → Option Text
  | '-' :: ']' :: _ => none
  | '-' :: '-' :: _ => none
  | '-' :: rest => some rest
  | _ => none

/-- One item of a set: a named set, a character, or the characters up to one behind a hyphen. -/
def item? (t : Text) : Option (Ranges × Text) := do
  let (e, rest) ← setItem? t
  match e, afterHyphen? rest with
  | .assertion _, _ => none
  | .set rs, none => some (rs, rest)
  | .set _, some _ => none
  | .literal c, none => some ([(c.toNat, c.toNat)], rest)
  | .literal c, some after =>
    match ← setItem? after with
    | (.literal d, after) => if c ≤ d then some ([(c.toNat, d.toNat)], after) else none
    | _ => none

def namedSet? (name : String) : Option Ranges :=
  match name with
  | "alnum" => some [(48, 57), (65, 90), (97, 122)]
  | "alpha" => some [(65, 90), (97, 122)]
  | "ascii" => some [(0, 127)]
  | "blank" => some [(9, 9), (32, 32)]
  | "cntrl" => some [(0, 31), (127, 127)]
  | "digit" => some [(48, 57)]
  | "graph" => some [(33, 126)]
  | "lower" => some [(97, 122)]
  | "print" => some [(32, 126)]
  | "punct" => some [(33, 47), (58, 64), (91, 96), (123, 126)]
  | "space" => some [(9, 13), (32, 32)]
  | "upper" => some [(65, 90)]
  | "word" => some [(48, 57), (65, 90), (95, 95), (97, 122)]
  | "xdigit" => some [(48, 57), (65, 70), (97, 102)]
  | _ => none

def bracketName? : Text → Option (Ranges × Text)
  | ':' :: rest =>
    let (negated, rest) := match rest with
      | '^' :: rest => (true, rest)
      | _ => (false, rest)
    match rest.dropWhile (· != ':') with
    | ':' :: ']' :: after =>
      (namedSet? (String.ofList (rest.takeWhile (· != ':')))).map fun rs =>
        (if negated then rs.complement else rs, after)
    | _ => none
  | _ => none

/-- What may come first in brackets: a caret, hyphens, and a bracket that does not close. -/
def opening (t : Text) : Bool × Items × Text :=
  let (negated, t) := match t with
    | '^' :: rest => (true, rest)
    | _ => (false, t)
  let hyphens := t.takeWhile (· == '-')
  let items : Items := hyphens.foldl (fun i c => i.add [(c.toNat, c.toNat)]) {}
  match hyphens, t.dropWhile (· == '-') with
  | [], ']' :: rest => (negated, items.add [(93, 93)], rest)
  | _, rest => (negated, items, rest)

def setRest : Nat → Bool → Pending → Items → Text → Option (Nested Ranges × Text)
  | 0, _, _, _, _ => none
  | _, _, _, _, [] => none
  | _ + 1, negated, pending, items, ']' :: rest =>
    let s := combine pending items.toSet
    some (⟨if negated then s.value.complement else s.value, s.depth + 1⟩, rest)
  | fuel + 1, negated, pending, items, '[' :: rest =>
    match bracketName? rest with
    | some (rs, rest) => setRest fuel negated pending (items.add rs) rest
    | none => do
      let (innerNegated, innerItems, rest) := opening rest
      let (s, rest) ← setRest fuel innerNegated none innerItems rest
      setRest fuel negated pending (items.addSet s) rest
  | fuel + 1, negated, pending, items, c :: rest =>
    match rest.head?.bind (combination? c) with
    | some k =>
      setRest fuel negated (some (combine pending items.toSet, k)) {} (rest.drop 1)
    | none => do
      let (rs, rest) ← item? (c :: rest)
      setRest fuel negated pending (items.add rs) rest

def set? (t : Text) : Option (Nested Ranges × Text) :=
  let (negated, items, rest) := opening t
  setRest (t.length + 1) negated none items rest

/-! ### Repetition -/

def countEnd : Nat := 4294967296

/-- A number, which may have blanks around it. -/
def number? (t : Text) : Option (Nat × Text) :=
  let t := t.trimStart
  let digits := t.takeWhile Char.isDigit
  let n := digits.foldl (fun n d => n * 10 + (d.toNat - '0'.toNat)) 0
  if digits.isEmpty || countEnd ≤ n then none
  else some (n, Text.trimStart (t.dropWhile Char.isDigit))

def counts? (t : Text) : Option ((Nat × Option Nat) × Text) := do
  let (least, rest) ← number? t
  match rest with
  | '\x7d' :: after => some ((least, some least), after)
  | ',' :: '\x7d' :: after => some ((least, none), after)
  | ',' :: rest =>
    match ← number? rest with
    | (most, '\x7d' :: after) => if least ≤ most then some ((least, some most), after) else none
    | _ => none
  | _ => none

/-- The counts of a repetition and the text behind them, or nothing if none stands there. -/
def repetition? (t : Text) : Option (Option ((Nat × Option Nat) × Text)) :=
  match t with
  | '*' :: rest => some (some ((0, none), rest))
  | '+' :: rest => some (some ((1, none), rest))
  | '?' :: rest => some (some ((0, some 1), rest))
  | '\x7b' :: rest => (counts? rest).map some
  | _ => some none

def repetitions : Nat → Nested Expression → Text → Option (Nested Expression × Text)
  | 0, _, _ => none
  | fuel + 1, e, t => do
    match ← repetition? t with
    | none => some (e, t)
    | some ((least, most), rest) =>
      let (greedy, rest) := match rest with
        | '?' :: rest => (false, rest)
        | _ => (true, rest)
      repetitions fuel ⟨e.value.times least most greedy, e.depth + 1⟩ rest

/-! ### Expressions -/

/-- Parts put together, which counts as nesting unless there is only one. -/
def joined (join : List Expression → Expression) (parts : List (Nested Expression)) :
    Nested Expression :=
  let depth := parts.foldl (fun n p => max n p.depth) 0
  ⟨join (parts.map (·.value)), if parts.length ≤ 1 then depth else depth + 1⟩

mutual

/-- Alternatives up to a closing parenthesis or the end, given those before them, the latest
first. -/
def alternatives : Nat → State → List (Nested Expression) → Option (Nested Expression × State)
  | 0, _, _ => none
  | fuel + 1, s, before => do
    let (e, s) ← items fuel s []
    match s.rest with
    | '|' :: rest => alternatives fuel { s with rest } (e :: before)
    | _ => some (joined choice (e :: before).reverse, s)

def items : Nat → State → List (Nested Expression) → Option (Nested Expression × State)
  | 0, _, _ => none
  | fuel + 1, s, before =>
    match s.rest with
    | [] => some (joined concat before.reverse, s)
    | '|' :: _ => some (joined concat before.reverse, s)
    | ')' :: _ => some (joined concat before.reverse, s)
    | _ => do
      let (e, s) ← item fuel s
      let (e, rest) ← repetitions (s.rest.length + 1) e s.rest
      items fuel { s with rest } (e :: before)

def item : Nat → State → Option (Nested Expression × State)
  | 0, _ => none
  | fuel + 1, s =>
    match s.rest with
    | '(' :: '?' :: ':' :: rest => do
      let (e, s) ← alternatives fuel { s with rest } []
      match s.rest with
      | ')' :: rest => some (⟨e.value, e.depth + 1⟩, { s with rest })
      | _ => none
    | '(' :: '?' :: _ => none
    | '(' :: rest => do
      let index := s.nextGroup
      let (e, s) ← alternatives fuel ⟨rest, index + 1⟩ []
      match s.rest with
      | ')' :: rest => some (⟨group index e.value, e.depth + 1⟩, { s with rest })
      | _ => none
    | '[' :: rest => do
      let (k, rest) ← set? rest
      some (⟨ofCodes k.value, k.depth⟩, { s with rest })
    | '.' :: rest => some (⟨oneOf (.noneOf ['\n']), 0⟩, { s with rest })
    | '^' :: rest => some (⟨check .textStart, 0⟩, { s with rest })
    | '$' :: rest => some (⟨check .textEnd, 0⟩, { s with rest })
    | '\\' :: c :: rest => do
      let e := match ← escape? c with
        | .literal c => char c
        | .set rs => ofCodes rs
        | .assertion a => check a
      some (⟨e, 0⟩, { s with rest })
    | '\\' :: [] => none
    | '*' :: _ => none
    | '+' :: _ => none
    | '?' :: _ => none
    | '\x7b' :: _ => none
    | c :: rest => some (⟨char c, 0⟩, { s with rest })
    | [] => none

end

end Reader

/-- The expression that a text writes, if it is one that is allowed. -/
def ofText? (t : Text) : Option Expression :=
  match Reader.alternatives (3 * t.length + 3) ⟨t, 1⟩ [] with
  | some (e, s) =>
    if s.rest.isEmpty && e.depth ≤ Reader.deepest && e.value.fits then some e.value else none
  | none => none

end Manuscript.Expression
