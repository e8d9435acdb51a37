import Manuscript.Expression.Automaton
import Manuscript.Pattern.Match

/-!
Searching texts with automata.

All ways through an automaton are followed at once, character by character. A
thread stands before a step that reads, and threads are kept in order of
preference. At each place in the text a step is taken by the first thread that
comes to it and by no other, since what can follow depends on the step and the
place alone; a loop that reads nothing therefore ends by itself. A thread that
has read the whole expression makes those behind it needless, those before it
may still find a match that is preferred.
-/

namespace Manuscript.Automaton

open Pattern (Place Span Found Piece)

/-- One way through an automaton: the step to take, where the match began, the groups that have
begun and those that have been read, the latest first. -/
structure Thread where
  step : Nat
  start : Place
  begun : List (Nat × Place)
  groups : List (Nat × Span)

namespace Thread

def goTo (t : Thread) (step : Nat) : Thread :=
  { t with step := step }

def opening (t : Thread) (index : Nat) (s : Place) : Thread :=
  { t with begun := (index, s) :: t.begun.filter (·.1 != index) }

def closing (t : Thread) (index : Nat) (s : Place) : Thread :=
  match t.begun.lookup index with
  | some b =>
    { t with groups := (index, ⟨b.rest, s.offset - b.offset⟩) :: t.groups.filter (·.1 != index) }
  | none => t

end Thread

/-- What becomes of the threads at a place: those that go on to read, and the one that accepts,
behind which there are none. -/
structure Settled where
  ready : List Thread
  accepted : Option Thread
  seen : Array Nat

/-- Takes steps that read nothing, for at most `fuel` threads. The number of a place, one more
than its offset, marks the steps that have been taken there. -/
def settle (m : Automaton) (s : Place) : Nat → List Thread → List Thread → Array Nat → Settled
  | 0, _, ready, seen => ⟨ready.reverse, none, seen⟩
  | _, [], ready, seen => ⟨ready.reverse, none, seen⟩
  | fuel + 1, t :: threads, ready, seen =>
    if seen.getD t.step 0 = s.offset + 1 then m.settle s fuel threads ready seen
    else
      let seen := seen.setIfInBounds t.step (s.offset + 1)
      match m.steps[t.step]? with
      | some (.read _ _) => m.settle s fuel threads (t :: ready) seen
      | some .accept => ⟨ready.reverse, some t, seen⟩
      | some (.check a next) =>
        m.settle s fuel (if s.holds a then t.goTo next :: threads else threads) ready seen
      | some (.fork ways) => m.settle s fuel (ways.map t.goTo ++ threads) ready seen
      | some (.opening i next) =>
        m.settle s fuel ((t.opening i s).goTo next :: threads) ready seen
      | some (.closing i next) =>
        m.settle s fuel ((t.closing i s).goTo next :: threads) ready seen
      | none => m.settle s fuel threads ready seen

def readChar? (m : Automaton) (c : Char) (t : Thread) : Option Thread :=
  match m.steps[t.step]? with
  | some (.read k next) => if k.has c then some (t.goTo next) else none
  | _ => none

/-- Follows the threads from a place on, whose text is given, and lets matches begin until one is
found. -/
def follow (m : Automaton) :
    Text → Place → List Thread → Array Nat → Option (Place × Place) → Option (Place × Place)
  | rest, s, threads, seen, found =>
    let threads := if found.isNone then threads ++ [⟨m.start, s, [], []⟩] else threads
    let settled := m.settle s (m.ways + threads.length) threads [] seen
    let found := match settled.accepted with
      | some t => some (t.start, { s with groups := t.groups })
      | none => found
    if settled.ready.isEmpty && found.isSome then found
    else match rest with
      | [] => found
      | c :: rest =>
        follow m rest (s.past c rest) (settled.ready.filterMap (m.readChar? c)) settled.seen found

def find? (m : Automaton) (s : Place) : Option (Place × Place) :=
  m.follow s.rest s [] (Array.replicate m.steps.size 0) none

def piecesFrom (m : Automaton) : Nat → Place → Option Nat → List Piece → List Piece
  | 0, s, _, done => (s.rest.map Piece.kept).reverse ++ done
  | fuel + 1, s, lastEnd, done =>
    match m.find? s with
    | none => (s.rest.map Piece.kept).reverse ++ done
    | some (b, e) =>
      let done := ((s.rest.take (b.offset - s.offset)).map Piece.kept).reverse ++ done
      if b.offset < e.offset then
        m.piecesFrom fuel { e with groups := [] } (some e.offset)
          (.found (Pattern.foundBetween b e) :: done)
      else
        let done :=
          if lastEnd = some b.offset then done else .found (Pattern.foundBetween b e) :: done
        match b.rest with
        | [] => done
        | c :: rest => m.piecesFrom fuel (b.past c rest) (some b.offset) (.kept c :: done)

def pieces (m : Automaton) (t : Text) : List Piece :=
  (m.piecesFrom (t.length + 1) (.ofText t) none []).reverse

end Manuscript.Automaton
