import Manuscript.Pattern.Basic

/-!
Searching a text for the matches of a pattern.

Matches are taken from the left and do not overlap. A match of nothing is not
taken where the match before it ended. `pieces` cuts the whole text into the
matches and the characters between them; what a match has read and the
characters passed over, put together again, are the text.
-/

namespace Manuscript.Pattern

structure Found where
  text : Text
  groups : List (Nat × Text)
  deriving DecidableEq, Repr

namespace Found

/-- The text of a group, nothing if the match did not go through it; group 0 is the match. -/
def group (m : Found) : Nat → Text
  | 0 => m.text
  | n + 1 => (m.groups.lookup (n + 1)).getD []

end Found

inductive Piece
  | kept (c : Char)
  | found (m : Found)
  deriving DecidableEq, Repr

def Piece.text : Piece → Text
  | .kept c => [c]
  | .found m => m.text

def endAt? (p : Pattern) (s : Place) : Option Place :=
  (ends p s).head?

def foundBetween (s e : Place) : Found :=
  ⟨s.rest.take (e.offset - s.offset), e.groups.map fun g => (g.1, g.2.text)⟩

/-- The pieces from a place on, added to those before it, the latest first. -/
def piecesFrom (p : Pattern) : Nat → Place → Option Nat → List Piece → List Piece
  | 0, s, _, done => (s.rest.map Piece.kept).reverse ++ done
  | fuel + 1, s, lastEnd, done =>
    match endAt? p s with
    | some e =>
      if s.offset < e.offset then
        piecesFrom p fuel { e with groups := [] } (some e.offset)
          (.found (foundBetween s e) :: done)
      else
        let done := if lastEnd = some s.offset then done else .found (foundBetween s e) :: done
        match s.rest with
        | [] => done
        | c :: rest => piecesFrom p fuel (s.past c rest) (some s.offset) (.kept c :: done)
    | none =>
      match s.rest with
      | [] => done
      | c :: rest => piecesFrom p fuel (s.past c rest) lastEnd (.kept c :: done)

def pieces (p : Pattern) (t : Text) : List Piece :=
  (piecesFrom p (t.length + 1) (.ofText t) none []).reverse

def findAll (p : Pattern) (t : Text) : List Found :=
  (pieces p t).filterMap fun
    | .found m => some m
    | .kept _ => none

end Manuscript.Pattern
