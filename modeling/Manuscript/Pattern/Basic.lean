import Manuscript.Text.Word

/-!
Patterns over texts: the syntax, and the places a pattern can reach from a
place in a text.

`ends p s` lists the places where a match of `p` that begins at `s` can end,
the preferred one first. An alternative prefers its left side, a greedy
repetition prefers to go on, a lazy one to stop. The first place of the list is
the match; the others matter only to what follows in a larger pattern, and that
depends on the place alone. A repetition therefore visits each place once,
which keeps the search polynomial.
-/

namespace Manuscript

/-- A set of characters given by ranges, or the complement of one. -/
structure CharClass where
  negated : Bool
  ranges : List (Char × Char)
  deriving DecidableEq, Repr

namespace CharClass

def has (k : CharClass) (c : Char) : Bool :=
  (k.ranges.any fun r => r.1 ≤ c && c ≤ r.2) != k.negated

def oneOf (cs : List Char) : CharClass :=
  ⟨false, cs.map fun c => (c, c)⟩

def noneOf (cs : List Char) : CharClass :=
  ⟨true, cs.map fun c => (c, c)⟩

def letter : CharClass :=
  ⟨false, [('a', 'z'), ('A', 'Z')]⟩

def blank : CharClass :=
  ⟨false, Text.blankRanges⟩

end CharClass

/-- What can be asked of a place without reading a character. -/
inductive Assertion
  | wordEdge
  | noWordEdge
  | textStart
  | textEnd
  deriving DecidableEq, Repr

inductive Pattern
  | empty
  | word (w : Text)
  | one (k : CharClass)
  | seq (p q : Pattern)
  | alt (p q : Pattern)
  | many (greedy : Bool) (k : CharClass)
  | star (greedy : Bool) (p : Pattern)
  | group (index : Nat) (p : Pattern)
  | check (a : Assertion)
  deriving DecidableEq, Repr

namespace Pattern

/-- What a group has read: the text from its beginning and how much of it. -/
structure Span where
  start : Text
  length : Nat
  deriving DecidableEq, Repr

def Span.text (s : Span) : Text :=
  s.start.take s.length

/-- A place in a text, with the groups read on the way, the latest first. -/
structure Place where
  offset : Nat
  before : Option Char
  rest : Text
  groups : List (Nat × Span)
  deriving DecidableEq, Repr

namespace Place

def ofText (t : Text) : Place :=
  ⟨0, none, t, []⟩

def past (s : Place) (c : Char) (rest : Text) : Place :=
  { s with offset := s.offset + 1, before := some c, rest := rest }

def word? : Text → Place → Option Place
  | [], s => some s
  | w :: ws, s =>
    match s.rest with
    | c :: rest => if w = c then word? ws (s.past c rest) else none
    | [] => none

def holds (s : Place) : Assertion → Bool
  | .wordEdge => s.before.any Text.isWord != s.rest.head?.any Text.isWord
  | .noWordEdge => s.before.any Text.isWord == s.rest.head?.any Text.isWord
  | .textStart => s.before.isNone
  | .textEnd => s.rest.isEmpty

/-- The places behind a run of characters of a class, the farthest first. -/
def runEnds (k : CharClass) (s : Place) : Text → List Place → List Place
  | [], found => s :: found
  | c :: rest, found =>
    if k.has c then runEnds k (s.past c rest) rest (s :: found) else s :: found

def close (s : Place) (index : Nat) (start : Place) : Place :=
  { s with groups := (index, ⟨start.rest, s.offset - start.offset⟩) :: s.groups }

end Place

/-- What is left to do in a repetition: go on from a place, or count it as an end. -/
inductive Task
  | visit (s : Place)
  | finish (s : Place)

/-- The tasks of one place of a repetition. A round that reads nothing ends the repetition. -/
def tasksAt (greedy : Bool) (round : Place → List Place) (s : Place) : List Task :=
  let more := (round s).map fun e => if s.offset < e.offset then Task.visit e else Task.finish e
  if greedy then more ++ [.finish s] else .finish s :: more

/-- Collects ends until a place is to be visited whose offset is not among those seen, which are
the bits of a number. -/
def nextVisit (seen : Nat) : List Task → List Place → Option (Place × List Task) × List Place
  | [], found => (none, found)
  | .finish s :: tasks, found => nextVisit seen tasks (s :: found)
  | .visit s :: tasks, found =>
    if seen.testBit s.offset then nextVisit seen tasks found else (some (s, tasks), found)

/-- Works off the tasks of a repetition, visiting at most `room` further places. -/
def drain (greedy : Bool) (round : Place → List Place) :
    Nat → Nat → List Task → List Place → List Place
  | 0, _, _, found => found
  | room + 1, seen, tasks, found =>
    match nextVisit seen tasks found with
    | (none, found) => found
    | (some (s, tasks), found) =>
      drain greedy round room (seen ||| 1 <<< s.offset) (tasksAt greedy round s ++ tasks) found

def starEnds (greedy : Bool) (round : Place → List Place) (s : Place) : List Place :=
  (drain greedy round (s.rest.length + 2) 0 [.visit s] []).reverse

/-- The places where a match from a place can end, the preferred one first. -/
def ends : Pattern → Place → List Place
  | .empty, s => [s]
  | .word w, s => (s.word? w).toList
  | .one k, s =>
    match s.rest with
    | c :: rest => if k.has c then [s.past c rest] else []
    | [] => []
  | .seq p q, s => (ends p s).flatMap (ends q)
  | .alt p q, s => ends p s ++ ends q s
  | .many greedy k, s =>
    if greedy then s.runEnds k s.rest [] else (s.runEnds k s.rest []).reverse
  | .star greedy p, s => starEnds greedy (ends p) s
  | .group index p, s => (ends p s).map fun e => e.close index s
  | .check a, s => if s.holds a then [s] else []

/-! ### Building patterns -/

def maybe (p : Pattern) : Pattern :=
  .alt p .empty

def many1 (k : CharClass) : Pattern :=
  .seq (.one k) (.many true k)

def concat (ps : List Pattern) : Pattern :=
  ps.foldr (fun p q => if q = .empty then p else .seq p q) .empty

/-- Any of the given words; the earlier one is preferred. -/
def anyWord : List Text → Pattern
  | [] => .one ⟨false, []⟩
  | [w] => .word w
  | w :: ws => .alt (.word w) (anyWord ws)

end Pattern

end Manuscript
