import Manuscript.Text.Basic
import Manuscript.Text.Case.Table

/-!
Lower and upper case of characters and texts.

A character may have several characters as its image. In a text the capital
sigma goes to the final form of the small letter when a letter stands before
it and none after it, looking through marks and apostrophes.
-/

namespace Manuscript.Text

namespace Case

def Run.image? (r : Run) (n : Nat) : Option Nat :=
  if r.first ≤ n ∧ n ≤ r.last ∧ (n - r.first) % r.stride = 0 then some (n + r.shift).toNat else none

def image (runs : List Run) (long : List (Nat × List Nat)) (c : Char) : Text :=
  match long.lookup c.toNat with
  | some codes => codes.map Char.ofNat
  | none =>
    match runs.findSome? (·.image? c.toNat) with
    | some code => [Char.ofNat code]
    | none => [c]

/-- Whether the nearest character that is not ignorable has case. -/
def meetsLetter (t : Text) : Bool :=
  (t.dropWhile (inTable ignorable)).head?.any (inTable cased)

end Case

def lowerChar (c : Char) : Text :=
  Case.image Case.lowerRuns Case.lowerLong c

def upperChar (c : Char) : Text :=
  Case.image Case.upperRuns Case.upperLong c

/-- The lower case of a text that follows the given characters, nearest first. -/
def lowerFrom (before : Text) : Text → Text
  | [] => []
  | c :: rest =>
    (if c = 'Σ' then
      if Case.meetsLetter before && !Case.meetsLetter rest then ['ς'] else ['σ']
    else lowerChar c) ++ lowerFrom (c :: before) rest

def lower (t : Text) : Text :=
  lowerFrom [] t

end Manuscript.Text
