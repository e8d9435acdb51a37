import Manuscript.Json.Basic

/-!
Reading records from JSON.

A record is an object whose members are looked up by name, where unknown names
are ignored and known ones may not be repeated, or an array of the fields in
their order, where only the last fields may be left out. A plain choice is its
name as a string or an object with the name and null; a choice with fields is
an object with its name and the record of its fields.
-/

namespace Manuscript.Json

/-- The fields of a record by position; `none` for one that is left out. -/
def fields? (names : List String) : Json → Option (List (Option Json))
  | .object members =>
    if names.all fun n => (members.filter (·.1 == n)).length ≤ 1 then
      some (names.map fun n => members.lookup n)
    else none
  | .array items =>
    if items.length ≤ names.length then
      some (items.map some ++ List.replicate (names.length - items.length) none)
    else none
  | _ => none

/-! ### Values of fields -/

def digitsValue? (digits : Text) : Option Nat :=
  if digits.isEmpty || !digits.all Char.isDigit then none
  else some (digits.foldl (fun n d => n * 10 + (d.toNat - '0'.toNat)) 0)

def natBelow? (bound : Nat) : Json → Option Nat
  | .number literal => (digitsValue? literal).bind fun n => if n < bound then some n else none
  | _ => none

def nat? : Json → Option Nat :=
  natBelow? Text.countLimit

/-- A whole number of 32 bits with sign; a zero has none. -/
def int? : Json → Option Int
  | .number ('-' :: digits) =>
    (digitsValue? digits).bind fun n => if n = 0 ∨ 2147483648 < n then none else some (-(n : Int))
  | j => (natBelow? 2147483648 j).map Int.ofNat

def bool? : Json → Option Bool
  | .bool b => some b
  | _ => none

def string? : Json → Option String
  | .string s => some s
  | _ => none

def list? {α : Type} (item? : Json → Option α) : Json → Option (List α)
  | .array items => items.mapM item?
  | _ => none

def nullable? {α : Type} (value? : Json → Option α) : Json → Option (Option α)
  | .null => some none
  | j => (value? j).map some

/-! ### Fields that may be left out -/

def required? {α : Type} (value? : Json → Option α) (field : Option Json) : Option α :=
  field.bind value?

def orElse? {α : Type} (fallback : α) (value? : Json → Option α) : Option Json → Option α
  | some j => value? j
  | none => some fallback

/-! ### Choices

In data that is held as a whole before its fields are read, an empty object may stand for null
beside the name of a plain choice. -/

def choiceName? (held : Bool) : Json → Option String
  | .string s => some s
  | .object [(name, .null)] => some name
  | .object [(name, .object [])] => if held then some name else none
  | _ => none

end Manuscript.Json
