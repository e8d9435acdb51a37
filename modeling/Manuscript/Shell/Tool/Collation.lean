import Manuscript.Shell.Tool.Format
import Manuscript.Shell.Tool.Options

/-!
The orders in which texts can be put: by their bytes, as numbers, by months, or as
versions.
-/

namespace Manuscript.Shell.Tool

def isBlank (c : Char) : Bool :=
  c == ' ' || c == '\t'

def compareTexts : Text → Text → Ordering
  | [], [] => .eq
  | [], _ => .lt
  | _, [] => .gt
  | a :: as, b :: bs => if a < b then .lt else if b < a then .gt else compareTexts as bs

/-! ### Numbers -/

abbrev SignedFraction := Format.Fraction × Bool

def leadingNumber (t : Text) : SignedFraction :=
  let t := t.dropWhile isBlank
  let (negative, t) := match t with
    | '-' :: t => (true, t)
    | t => (false, t)
  let whole := t.takeWhile Char.isDigit
  let places := match t.drop whole.length with
    | '.' :: rest => rest.takeWhile Char.isDigit
    | _ => []
  (⟨Digits.valueIn 10 (whole ++ places), Nat.pow 10 places.length⟩, negative)

def compareNumbers (a b : SignedFraction) : Ordering :=
  let x : Int := if a.2 then -(a.1.numerator : Int) else a.1.numerator
  let y : Int := if b.2 then -(b.1.numerator : Int) else b.1.numerator
  compare (x * b.1.denominator) (y * a.1.denominator)

/-- How large the unit behind a number is, below zero for a negative number. -/
def unitScale (t : Text) : Int :=
  let (number, negative) := leadingNumber t
  let t := t.dropWhile isBlank
  let t := match t with
    | '-' :: t => t
    | t => t
  let t := t.dropWhile fun c => c.isDigit || c == '.'
  let n : Int := match t with
    | [] => 0
    | c :: _ =>
      let units := "KMGTPEZYRQ".toList
      if c == 'k' then 1
      else if units.contains c then (units.takeWhile (· != c)).length + 1
      else 0
  if number.numerator = 0 then 0 else if negative then -n else n

/-- The order of numbers with units: a larger unit counts for more than any number. -/
def compareScaled (a b : Text) : Ordering :=
  match compare (unitScale a) (unitScale b) with
  | .eq => compareNumbers (leadingNumber a) (leadingNumber b)
  | o => o

def generalNumber? (t : Text) : Option SignedFraction :=
  let t := Format.skipBlanks t
  let (negative, t) := match t with
    | '-' :: t => (true, t)
    | '+' :: t => (false, t)
    | t => (false, t)
  match t with
  | '0' :: x :: d :: rest =>
    if (x == 'x' || x == 'X') && Digits.isHex d then
      some (⟨Digits.valueIn 16 ((d :: rest).takeWhile Digits.isHex), 1⟩, negative)
    else (Format.decimal? t).map fun (f, _) => (f, negative)
  | t => (Format.decimal? t).map fun (f, _) => (f, negative)

/-- The order of numbers with exponents, before which comes what is none. -/
def compareGeneral (a b : Text) : Ordering :=
  match generalNumber? a, generalNumber? b with
  | none, none => .eq
  | none, some _ => .lt
  | some _, none => .gt
  | some x, some y => compareNumbers x y

/-! ### Months -/

def monthOf (t : Text) : Nat :=
  let name := ((t.dropWhile isBlank).take 3).map Char.toUpper
  let months := ["JAN", "FEB", "MAR", "APR", "MAY", "JUN", "JUL", "AUG", "SEP", "OCT", "NOV",
    "DEC"].map String.toList
  if months.contains name then (months.takeWhile (· != name)).length + 1 else 0

/-! ### Versions -/

/-- The weight of the first character of a text among those that are no digits: a tilde comes first,
then the end and the digits, then letters, and then the rest. -/
def versionWeight : Text → Int
  | [] => -1
  | c :: _ =>
    if c.isDigit then 0
    else if c.isAlpha then c.toNat
    else if c == '~' then -2
    else c.toNat + 256

def compareRuns : Nat → Text → Text → Ordering
  | 0, _, _ => .eq
  | _, [], [] => .eq
  | fuel + 1, a, b =>
    if (a.head?.any fun c => !c.isDigit) || (b.head?.any fun c => !c.isDigit) then
      match compare (versionWeight a) (versionWeight b) with
      | .eq => compareRuns fuel (a.drop 1) (b.drop 1)
      | o => o
    else
      let x := a.takeWhile Char.isDigit
      let y := b.takeWhile Char.isDigit
      match compare (Digits.valueIn 10 x) (Digits.valueIn 10 y) with
      | .eq => compareRuns fuel (a.drop x.length) (b.drop y.length)
      | o => o

def isEndings (t : Text) : Bool :=
  t.isEmpty || (t.head? == some '.' && ((Text.splitBy (· == '.') t).drop 1).all fun part =>
    (part.head?.any fun c => c.isAlpha || c == '~') && part.all fun c => c.isAlphanum || c == '~')

def withoutEndings : Text → Text
  | [] => []
  | c :: rest => c :: stem rest
where
  stem : Text → Text
    | [] => []
    | c :: rest => if isEndings (c :: rest) then [] else c :: stem rest

/-- The order of texts as names with versions: hidden ones come first, and endings count last. -/
def compareVersions (a b : Text) : Ordering :=
  let rank (t : Text) : Nat :=
    if t.isEmpty then 0 else if t == ['.'] then 1 else if t == ['.', '.'] then 2
    else if t.head? == some '.' then 3 else 4
  match compare (rank a) (rank b) with
  | .eq =>
    if rank a < 3 then .eq
    else match compareRuns (a.length + b.length + 1) (withoutEndings a) (withoutEndings b) with
      | .eq => compareRuns (a.length + b.length + 1) a b
      | o => o
  | o => o

end Manuscript.Shell.Tool
