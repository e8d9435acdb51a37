import Manuscript.Expression.Basic

/-!
Automata: expressions as numbered steps.

A step reads a character, asks for an assertion, marks the beginning or the end
of a group, or forks into several ways to go on, the preferred one first. A
loop is a fork back to the beginning of what is repeated. What may be repeated
without reading anything is entered at least once or passed over as a whole:
`e*` has the steps of `(e+)?`, so that the first way through `e` is preferred
even if it reads nothing.
-/

namespace Manuscript

inductive Step
  | read (k : CharClass) (next : Nat)
  | check (a : Assertion) (next : Nat)
  | fork (ways : List Nat)
  | opening (index : Nat) (next : Nat)
  | closing (index : Nat) (next : Nat)
  | accept
  deriving DecidableEq, Repr

/-- The steps, the first one to take, and the number of all ways out of steps that read nothing. -/
structure Automaton where
  steps : Array Step
  start : Nat
  ways : Nat
  deriving DecidableEq, Repr

namespace Step

def outdegree : Step → Nat
  | read _ _ => 0
  | check _ _ => 1
  | fork ways => ways.length
  | opening _ _ => 1
  | closing _ _ => 1
  | accept => 0

/-- A fork between going into a repetition and leaving it. -/
def turn (greedy : Bool) (into out : Nat) : Step :=
  fork (if greedy then [into, out] else [out, into])

end Step

namespace Automaton

def add (step : Step) (steps : Array Step) : Nat × Array Step :=
  (steps.size, steps.push step)

/-- Steps that lead to the step with a given number, for what precedes it. -/
abbrev Emitter := Nat → Array Step → Nat × Array Step

namespace Emitter

def times (emit : Emitter) : Nat → Emitter
  | 0, next, steps => (next, steps)
  | n + 1, next, steps =>
    let (next, steps) := emit next steps
    times emit n next steps

def upTo (emit : Emitter) (greedy : Bool) (exit : Nat) : Nat → Emitter
  | 0, next, steps => (next, steps)
  | n + 1, next, steps =>
    let (into, steps) := emit next steps
    let (fork, steps) := add (.turn greedy into exit) steps
    upTo emit greedy exit n fork steps

/-- At least once. The fork is behind the steps that it may repeat. -/
def loop (emit : Emitter) (greedy : Bool) (next : Nat) (steps : Array Step) :
    Nat × Nat × Array Step :=
  let (fork, steps) := add (.fork []) steps
  let (into, steps) := emit fork steps
  (into, fork, steps.setIfInBounds fork (.turn greedy into next))

end Emitter

def emit : Expression → Emitter
  | .empty, next, steps => (next, steps)
  | .char c, next, steps => add (.read (.oneOf [c]) next) steps
  | .oneOf k, next, steps => add (.read k next) steps
  | .check a, next, steps => add (.check a next) steps
  | .seq e f, next, steps =>
    let (next, steps) := emit f next steps
    emit e next steps
  | .alt e f, next, steps =>
    let (second, steps) := emit f next steps
    let (first, steps) := emit e next steps
    add (.fork [first, second]) steps
  | .group index e, next, steps =>
    let (next, steps) := add (.closing index next) steps
    let (next, steps) := emit e next steps
    add (.opening index next) steps
  | .repeated least (some most) greedy e, next, steps =>
    let (next, steps) := Emitter.upTo (emit e) greedy next (most - least) next steps
    Emitter.times (emit e) least next steps
  | .repeated 0 none greedy e, next, steps =>
    let (into, fork, steps) := Emitter.loop (emit e) greedy next steps
    if e.canBeEmpty then add (.turn greedy into next) steps else (fork, steps)
  | .repeated (least + 1) none greedy e, next, steps =>
    let (into, _, steps) := Emitter.loop (emit e) greedy next steps
    Emitter.times (emit e) least into steps

def ofExpression (e : Expression) : Automaton :=
  let (start, steps) := emit e 0 #[.accept]
  ⟨steps, start, steps.foldl (fun n s => n + s.outdegree) 0⟩

end Automaton

end Manuscript
