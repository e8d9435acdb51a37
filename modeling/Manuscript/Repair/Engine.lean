import Manuscript.Repair.Standard
import Manuscript.Structure.Basic

/-!
The repair engine.

A pass applies every rule of the table once, in order. Passes repeat until one
makes no replacement or the bound on passes is reached. Nested escaping needs
more than one pass, since an outer wrapper only matches once the commands
inside it are active again. A text that needs exactly as many passes as the
bound allows is confirmed by one more pass, whose result is not kept.
-/

namespace Manuscript.Repair

inductive Warning
  | passBoundExhausted (maxPasses : Nat)
  | structural (issue : Structure.Issue)
  deriving DecidableEq, Repr

def Warning.message : Warning → String
  | .passBoundExhausted maxPasses =>
    s!"Escaping repair did not converge within {maxPasses} passes"
  | .structural issue => issue.message

/-- One rule applied to a text, added to the replacements counted so far. -/
def applyRule (state : Text × Tally) (rule : Rule) : Text × Tally :=
  let (t, hits) := rule.replacement.replaceIn (rule.finder.pieces state.1)
  (t, if hits = 0 then state.2 else state.2.add rule.category hits)

/-- Every rule once, in table order. -/
def pass (table : Table) (t : Text) : Text × Tally :=
  let (t, tally) := table.foldl applyRule (t, .zero)
  (t, tally.settle)

structure Progress where
  text : Text
  tally : Tally
  count : Nat
  passes : Nat
  converged : Bool

/-- Goes on for at most the given number of passes that change something. -/
def advance (table : Table) : Nat → Progress → Progress
  | bound, p =>
    let (t, tally) := pass table p.text
    if tally.total = 0 then { p with passes := p.passes + 1, converged := true }
    else match bound with
      | 0 => p
      | bound + 1 =>
        advance table bound
          ⟨t, (p.tally.plus tally).settle, p.count + tally.total, p.passes + 1, false⟩

structure Engine where
  table : Table := Standard.table
  maxPasses : Nat := 6
  validate : Bool := true

structure Outcome where
  text : Text
  tally : Tally
  count : Nat
  passes : Nat
  converged : Bool
  warnings : List Warning

def Outcome.changed (o : Outcome) : Bool :=
  o.count ≠ 0

def Engine.repair (e : Engine) (t : Text) : Outcome :=
  let p := advance e.table e.maxPasses ⟨t, .zero, 0, 0, false⟩
  { text := p.text
    tally := p.tally
    count := p.count
    passes := p.passes
    converged := p.converged
    warnings :=
      (if p.converged then [] else [.passBoundExhausted e.maxPasses]) ++
        if e.validate && p.count ≠ 0 then (Structure.validate p.text).map .structural else [] }

end Manuscript.Repair
