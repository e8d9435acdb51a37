import Manuscript.Text.Basic

/-!
Numbers in digits of several bases.
-/

namespace Manuscript.Shell.Digits

def isOctal (c : Char) : Bool :=
  '0' ≤ c && c ≤ '7'

def hexValue? (c : Char) : Option Nat :=
  if c.isDigit then some (c.toNat - 48)
  else if 'a' ≤ c && c ≤ 'f' then some (c.toNat - 87)
  else if 'A' ≤ c && c ≤ 'F' then some (c.toNat - 55)
  else none

def isHex (c : Char) : Bool :=
  (hexValue? c).isSome

def valueIn (base : Nat) (digits : Text) : Nat :=
  digits.foldl (fun n c => n * base + (hexValue? c).getD 0) 0

/-- The number that a text begins with, in the base that its first digits name, with what
follows. -/
def number (t : Text) : Nat × Text :=
  let inBase (base : Nat) (t : Text) (p : Char → Bool) : Nat × Text :=
    let digits := t.takeWhile p
    (valueIn base digits, t.drop digits.length)
  match t with
  | '0' :: x :: d :: rest =>
    if (x == 'x' || x == 'X') && isHex d then inBase 16 (d :: rest) isHex else inBase 8 t isOctal
  | '0' :: _ => inBase 8 t isOctal
  | _ => inBase 10 t Char.isDigit

def largest : Nat := 9223372036854775807

end Manuscript.Shell.Digits
