import Manuscript.Text.Basic

/-!
JSON values.

A number keeps its literal, so that none is ever rounded, and an object keeps
its members in order with repeated names. A string literal whose escapes spell
no text, as those with half of a surrogate pair do, is `garbled`, and so is an
object with such a name: it is well-formed JSON and may stand where its value is
not asked for.
-/

namespace Manuscript

inductive Json
  | null
  | bool (b : Bool)
  | number (literal : Text)
  | string (s : String)
  | garbled
  | array (items : List Json)
  | object (members : List (String × Json))
  deriving Repr

namespace Json

def ofNat (n : Nat) : Json :=
  .number (Text.ofNat n)

def ofInt (n : Int) : Json :=
  .number (Text.ofInt n)

def strings (ss : List String) : Json :=
  .array (ss.map .string)

def ofOption {α : Type} (f : α → Json) : Option α → Json
  | some a => f a
  | none => .null

end Json

end Manuscript
