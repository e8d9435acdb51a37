import Manuscript.Text.Basic
import Manuscript.Text.Word.Table

/-!
Which characters make up words, for the boundaries between words and the rest.
-/

namespace Manuscript.Text

def isWord (c : Char) : Bool :=
  c.isAlphanum || c == '_' || (128 ≤ c.toNat && inTable Word.table c)

end Manuscript.Text
