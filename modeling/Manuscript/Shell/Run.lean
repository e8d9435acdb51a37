import Manuscript.Shell.Condition.Brackets
import Manuscript.Shell.Run.Compound
import Manuscript.Shell.Run.Simple

/-!
Running commands and scripts.

A command works on the state; how it leaves the commands around it is part of
that state. A command that is run apart gets a session of its own, of which only
the status is kept. A run has a number of steps at its disposal; one that needs
more is a run that does not end, and so is out of time.
-/

namespace Manuscript.Shell

def runWith (exec : Exec) (c : Command) (s : State) : State :=
  match c with
  | .simple line assignments words redirects =>
    let s := runSimple exec assignments words redirects
      { s with session.line := line, session.substituted := 0 }
    checked exec { s with session.stages := [s.status] }
  | .sequence a b => exec b (exec a s)
  | .onSuccess a b =>
    let s := tested exec a s
    if s.halted || s.status ≠ 0 then s else exec b s
  | .onFailure a b =>
    let s := tested exec a s
    if s.halted || s.status = 0 then s else exec b s
  | .inverted c =>
    let s := tested exec c s
    if s.halted then s else if s.status = 0 then s.fail else s.succeed
  | .timed c =>
    let start := s.clock
    let s := match c with
      | some c => exec c s
      | none => s
    if s.halted then s else s.write 2 (timeTaken (s.clock - start))
  | .pipe stages => checked exec (runPipe exec stages pipeSizes s)
  | .background line c => runBeside exec c { s with session.line := line }
  | .apart line body redirects =>
    checked exec (runApart exec (fun s => runRedirected exec redirects (exec body) s)
      { s with session.line := line })
  | .redirected line c redirects =>
    runRedirected exec redirects (exec c) { s with session.line := line }
  | .branch test yes no =>
    let s := tested exec test s
    if s.halted then s
    else if s.status = 0 then exec yes s
    else match no with
      | some no => exec no s
      | none => s.succeed
  | .loop success test body =>
    let s := { s with session.loops := s.session.loops + 1 }
    let s := runLoop exec maxRounds success test body 0 s
    { s with session.loops := s.session.loops - 1 }
  | .each line name items body =>
    let s := { s with session.line := line }
    let (values, s) := match items with
      | none => (s.session.arguments, s)
      | some ws => expandEach (capture exec) ws s
    if s.halted then s
    else if s.isExtended && !Reading.isName name then Builtin.badName name s
    else
      let shown := "for".toList :: name :: (items.map fun ws =>
        "in".toList :: ws.map writtenWord).getD []
      let s := { s with session.loops := s.session.loops + 1 }
      let s := runEach exec name shown body values s.succeed
      { s with session.loops := s.session.loops - 1 }
  | .ask line name items body =>
    let s := { s with session.line := line }
    let (values, s) := match items with
      | none => (s.session.arguments, s)
      | some ws => expandEach (capture exec) ws s
    if s.halted || values.isEmpty then s
    else if !Reading.isName name then Builtin.badName name s
    else
      let s := { s with session.loops := s.session.loops + 1 }
      let s := runQuestions exec maxRounds name body values true s.succeed
      { s with session.loops := s.session.loops - 1 }
  | .counted line first test step body =>
    let (_, s) := calculated exec first { s with session.line := line }
    if s.halted then s
    else
      let s := { s with session.loops := s.session.loops + 1 }
      let s := runCounted exec maxRounds line test step body 0 s.succeed
      { s with session.loops := s.session.loops - 1 }
  | .choose line subject arms =>
    let (t, s) := expandWhole (capture exec) false subject { s with session.line := line }
    let s := s.traceExtended ["case".toList, writtenWord subject, "in".toList]
    if s.halted then s else runArms exec t false false arms s
  | .define _ name body =>
    let functions := (name, s.session.line, body) :: s.session.functions.filter (·.1 ≠ name)
    { s with session.functions := functions }.succeed
  | .arithmetic line expression =>
    let (n, s) := calculated exec expression { s with session.line := line }
    if s.halted then s
    else
      let s := if n = 0 then s.fail else s.succeed
      checked exec { s with session.stages := [s.status] }
  | .condition line words =>
    let s := Condition.Brackets.run (capture exec) words { s with session.line := line }
    checked exec { s with session.stages := [s.status] }

/-- Runs a command that is no deeper than so many others in one another. -/
def run : Nat → Command → State → State
  | 0, _, s => s.outOfTime
  | fuel + 1, c, s =>
    if s.halted then s
    else
      let s := s.spend 1
      if s.halted || s.hasOption 'n' then s else runWith (run fuel) c s

end Manuscript.Shell
