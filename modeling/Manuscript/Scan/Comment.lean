import Manuscript.Text.Basic

/-!
Comments. A comment begins at the first percent sign that no backslash stands
directly before, and reaches to the end of the line.
-/

namespace Manuscript.Scan

/-- The code of a line, given the character before it. -/
def codeFrom : Option Char → Text → Text
  | _, [] => []
  | before, c :: rest =>
    if c = '%' ∧ before ≠ some '\\' then [] else c :: codeFrom (some c) rest

def code (line : Text) : Text :=
  codeFrom none line

/-- The offset in bytes at which the comment of a line begins, if it has one. -/
def commentStart? (line : Text) : Option Nat :=
  if code line = line then none else some (code line).byteSize

end Manuscript.Scan
