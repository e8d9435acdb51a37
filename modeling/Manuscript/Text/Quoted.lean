import Manuscript.Text.Basic
import Manuscript.Text.Quoted.Table

/-!
Texts in double quotes, as messages show paths. Quotes, backslashes and the
common controls have short escapes; a character that would not show, or would
merge with the one before it, is shown by its code.
-/

namespace Manuscript.Text

namespace Quoted

def escape (c : Char) : Text :=
  if c = '"' then ['\\', '"']
  else if c = '\\' then ['\\', '\\']
  else if c = '\n' then ['\\', 'n']
  else if c = '\t' then ['\\', 't']
  else if c = '\r' then ['\\', 'r']
  else if c = '\x00' then ['\\', '0']
  else if inTable hidden c then ['\\', 'u', '\x7b'] ++ Nat.toDigits 16 c.toNat ++ ['\x7d']
  else [c]

end Quoted

def quoted (t : Text) : Text :=
  '"' :: t.flatMap Quoted.escape ++ ['"']

end Manuscript.Text
