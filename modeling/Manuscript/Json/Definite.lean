import Manuscript.Json.Record

/-!
Values that can be held as a whole: every string in them spells a text and every
number lies within the range of a double. How deeply values are nested.
-/

namespace Manuscript.Json

/-- A decimal number without its sign: a number of 64 bits times a power of ten. -/
structure Magnitude where
  significand : Nat
  shift : Int
  deriving DecidableEq, Repr

namespace Magnitude

def append (n : Nat) (digit : Char) : Nat :=
  n * 10 + (digit.toNat - '0'.toNat)

/-- The digits before the point. From the first one on that does not fit into 64 bits they only
count. -/
def readWhole : Nat → Text → Magnitude
  | n, [] => ⟨n, 0⟩
  | n, d :: ds =>
    if append n d < Text.countLimit then readWhole (append n d) ds
    else ⟨n, (d :: ds).length⟩

def readFraction (m : Magnitude) : Text → Magnitude
  | [] => m
  | d :: ds =>
    if append m.significand d < Text.countLimit then
      readFraction ⟨append m.significand d, m.shift - 1⟩ ds
    else m

def exponent : Text → Int
  | '-' :: ds => -((digitsValue? ds).getD 0 : Int)
  | '+' :: ds => (digitsValue? ds).getD 0
  | ds => (digitsValue? ds).getD 0

def ofLiteral (literal : Text) : Magnitude :=
  let unsigned := literal.dropWhile (· == '-')
  let whole := unsigned.takeWhile Char.isDigit
  let rest := unsigned.drop whole.length
  let fraction := match rest with
    | '.' :: more => more.takeWhile Char.isDigit
    | _ => []
  let marked := rest.dropWhile fun c => c == '.' || c.isDigit
  let m := readFraction (readWhole 0 whole) fraction
  { m with shift := m.shift + exponent (marked.drop 1) }

/-- A number with 53 significant bits at most: the nearest one, and between two the even one. -/
def toDouble (n : Nat) : Nat :=
  let bits := Nat.log2 n + 1
  if bits ≤ 53 then n
  else
    let step := 1 <<< (bits - 53)
    let kept := n / step
    let rest := n % step
    if step < 2 * rest ∨ (2 * rest = step ∧ kept % 2 = 1) then (kept + 1) * step else kept * step

/-- The least number that no double is near: half a step above the greatest one. -/
def tooGreat : Nat :=
  1 <<< 1024 - 1 <<< 970

/-- Whether the product of the significand and the power, both taken as doubles, is one too. -/
def inRange (m : Magnitude) : Bool :=
  if m.significand = 0 ∨ m.shift < 0 then true
  else if 308 < m.shift then false
  else toDouble m.significand * toDouble (Nat.pow 10 m.shift.toNat) < tooGreat

end Magnitude

mutual

def isDefinite : Json → Bool
  | .null => true
  | .bool _ => true
  | .number literal => (Magnitude.ofLiteral literal).inRange
  | .string _ => true
  | .garbled => false
  | .array items => itemsDefinite items
  | .object members => membersDefinite members

def itemsDefinite : List Json → Bool
  | [] => true
  | j :: js => isDefinite j && itemsDefinite js

def membersDefinite : List (String × Json) → Bool
  | [] => true
  | (_, j) :: ms => isDefinite j && membersDefinite ms

end

/-! ### Nesting -/

mutual

/-- How many arrays and objects are inside each other, the value itself counted. -/
def depth : Json → Nat
  | .array items => itemsDepth items + 1
  | .object members => membersDepth members + 1
  | _ => 0

def itemsDepth : List Json → Nat
  | [] => 0
  | j :: js => max (depth j) (itemsDepth js)

def membersDepth : List (String × Json) → Nat
  | [] => 0
  | (_, j) :: ms => max (depth j) (membersDepth ms)

end

end Manuscript.Json
