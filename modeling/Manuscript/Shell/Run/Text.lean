import Manuscript.Shell.Assigning
import Manuscript.Shell.Redirection
import Manuscript.Shell.Session

/-!
Running the commands of a text one after the other, and commands in a session of
their own.

How a single command is run is a parameter here and in the modules behind this
one.
-/

namespace Manuscript.Shell

/-- How a command is run. -/
abbrev Exec := Command → State → State

/-- More rounds than the steps of a run allow. -/
def maxRounds : Nat := 10000000

/-! ### Texts -/

def State.refuseSyntax (s : State) (e : SyntaxError) : State :=
  if s.isExtended then
    let isLineEnd := e.cause = Cause.token "newline".toList
    let s := { s with session.line := if isLineEnd then e.line - 1 else e.line }
    let shown := [Builtin.graved e.shown]
    let s := match e.cause with
      | .token t =>
        (s.warn ["syntax error near unexpected token ".toList, Builtin.graved t]).warn shown
      | .ending => s.warn ["syntax error: unexpected end of file".toList]
      | .unclosed sign line =>
        { s with session.line := line }.warn
          ["unexpected EOF while looking for matching ".toList, Builtin.graved [sign]]
      | .condition complaint t =>
        let s := match complaint with
          | some c => s.warn [c]
          | none => s
        (s.warn ["syntax error near ".toList, Builtin.graved t]).warn shown
      | .expression written =>
        (s.warn ["syntax error: arithmetic expression required".toList]).warn
          ["syntax error: ".toList, Builtin.graved written]
      | .other => s.warn [e.message]
    (s.setStatus 2).jump .abort
  else { s with session.line := e.line }.abort ["Syntax error: ".toList, e.message]

def runRead (exec : Exec) (c : Command) (s : State) : State :=
  let t := exec c { s with session.reading := [] }
  { t with session.reading := s.session.reading }

def shownRead (t : Text) (s : State) : State :=
  if s.hasOption 'v' then
    { s.write 2 t with unwritten := s.unwritten, unread := s.unread }
  else s

/-- Runs the commands of a source one after the other. -/
def runSource (exec : Exec) : Nat → Source → State → State
  | 0, _, s => s.outOfTime
  | fuel + 1, source, s =>
    if s.halted then s
    else
      let source := { source with
        documents := s.documents, aliases := s.aliases, groups := s.hasSwitch "extglob"
        warnings := [] }
      match Reading.next.run source with
      | .error e => s.refuseSyntax e
      | .ok ((c, done), behind) =>
        let s := if !source.isFile then s
          else shownRead (source.rest.take (source.rest.length - behind.rest.length)) s
        let source := behind
        let s := { s with documents := source.documents, session.lineRead := source.line }
        let s := if s.isExtended then source.warnings.foldl (fun s (line, message) =>
            { s with session.line := line }.warn [message]) s
          else s
        let s := match c with
          | some c => runRead exec c s
          | none => s
        let s := if s.session.jump = some Jump.discard then { s with session.jump := none } else s
        if done then s else runSource exec fuel source s

def runText (exec : Exec) (text : Text) (s : State) : State :=
  let line := s.session.line
  let start := if s.isExtended then line else 1
  let s := if s.isExtended then shownRead (text ++ ['\n']) s else s
  let s := runSource exec maxRounds { dialect := s.dialect, rest := text, line := start } s
  { s with session.line := if s.halted then s.session.line else line }

/-- Runs a command whose failure does not end the script. -/
def tested (exec : Exec) (c : Command) (s : State) : State :=
  let before := s.session.tested
  let s := exec c { s with session.tested := true }
  { s with session.tested := before }

/-! ### Ends -/

/-- Closes the streams that have been opened for a command beyond some that were there before, and
lets those who read what was written to them do so. -/
def settleChannels (exec : Exec) : Nat → Nat → State → State
  | 0, _, s => s.outOfTime
  | fuel + 1, before, s =>
    match s.session.channels with
    | [] => s
    | channel :: rest =>
      if rest.length < before then s
      else
        let s := { s.closeStream channel.number with session.channels := rest }
        let s := match channel.sink, channel.body with
          | some k, some c =>
            let text := (s.sink k).text
            let (h, s) := (s.dropSink k).addSupply ⟨text, false⟩
            let status := s.status
            let jump := s.session.jump
            let streams := s.session.streams
            let inner := { s with
              session.jump := none
              session.streams := channel.streams }.setStream 0 h
            let t := tested exec (.apart s.session.line c []) inner
            let t := { t with session.streams := streams }
            if t.halted then t else { t with session.jump := jump }.setStatus status
          | _, _ => s
        settleChannels exec fuel before s

/-- Does what a shell has been told to do at its end. -/
def atExit (exec : Exec) (s : State) : State :=
  match s.session.traps.lookup "EXIT" with
  | none => s
  | some action =>
    match State.jumpBeyond s.session.jump with
    | some _ => s
    | none =>
      let status := s.status
      let traps := s.session.traps.filter (·.1 ≠ "EXIT")
      let s := { s with
        session.traps := traps
        session.jump := none
        session.line := if s.isExtended then 1 else s.session.line
        session.reading := if s.isExtended then "exit trap: ".toList else [] }
      let s := runText exec action s
      if s.halted && s.session.jump ≠ some Jump.abort then s else s.setStatus status

def conclude (exec : Exec) (s : State) : State :=
  settleChannels exec maxRounds 0 (atExit exec s)

/-! ### Commands that are run apart -/

def runApart (exec : Exec) (body : State → State) (s : State) : State :=
  (conclude exec (body s.enterApart)).leaveApart s

def capture (exec : Exec) : Capture := fun body s =>
  match body with
  | none => ([], { s with session.substituted := 0 })
  | some c =>
    let (n, t) := s.addSink none
    let drops := s.isExtended && !s.hasSwitch "inherit_errexit"
    let inner := { t with
      session.tested := false
      session.depth := s.session.depth + 1
      session.options := if drops then s.session.options.filter (· != 'e')
        else s.session.options }.setStream 1 (.sink n)
    let after := conclude exec (exec c inner.enterApart)
    let written := (after.sink n).text
    let after := (after.leaveApart s).dropSink n
    let status := after.status
    let kept := if s.isExtended then status else s.status
    (written, { after.setStatus kept with session.substituted := status })

/-- Whether what a command writes does not go where the script writes. -/
def detaches : Command → Bool
  | .simple _ _ _ rs => covers rs
  | .apart _ _ rs => covers rs
  | .redirected _ _ rs => covers rs
  | _ => false
where
  covers (rs : List Redirect) : Bool :=
    let streams := rs.filterMap fun
      | .output n _ _ => some n
      | .copy n _ => some n
      | _ => none
    streams.contains 1 && streams.contains 2

def runBeside (exec : Exec) (c : Command) (s : State) : State :=
  let process := s.nextProcess
  let inner := { s with nextProcess := process + 1 }.setStream 0 .nothing
  let t := runApart exec (exec c) inner
  let unending := t.session.jump = some Jump.outOfTime
  let killed := match t.session.jump with
    | some (.killed n) => some (Jump.killed n)
    | _ => none
  let job : Job :=
    { process
      parent := s.session.process
      status := t.status
      endTime := if unending then s.deadline + 1 else t.clock
      attached := !detaches c }
  { t with
    session := { s.session with status := 0, lastBackground := some process, jump := killed }
    clock := s.clock
    steps := if unending then s.steps / 2 else t.steps
    jobs := job :: t.jobs }

/-! ### Signals and failures -/

/-- Does what is to be done on a failure; it is not done in functions, nor on its own failures. -/
def runFailure (exec : Exec) (s : State) : State :=
  match s.session.traps.lookup "ERR" with
  | none => s
  | some action =>
    if s.session.calls ≠ 0 && !s.hasOption 'E' then s
    else
      let traps := s.session.traps
      let status := s.status
      let inner := { s with session.traps := traps.filter (·.1 ≠ "ERR") }
      let s := runText exec action inner
      if s.halted then s else { s with session.traps := traps }.setStatus status

def runSignals (exec : Exec) : Nat → State → State
  | 0, s => s.outOfTime
  | fuel + 1, s =>
    match s.pendingSignals with
    | [] => s
    | n :: rest =>
      let s := { s with pendingSignals := rest }
      match s.session.traps.lookup (Signal.key n) with
      | some action =>
        let status := s.status
        let s := runText exec action s
        runSignals exec fuel (if s.halted then s else s.setStatus status)
      | none => runSignals exec fuel s

/-- Looks after a command whether its failure ends the script, and whether signals have come. -/
def checked (exec : Exec) (s : State) : State :=
  let s := if s.pendingSignals.isEmpty || s.halted then s else runSignals exec maxRounds s
  let s := if s.isExtended && !s.session.tested && s.status ≠ 0 && !s.halted then
      runFailure exec s
    else s
  if s.hasOption 'e' && !s.session.tested && s.status ≠ 0 && !s.halted then s.jump .exit else s

/-! ### Redirections -/

def runRedirected (exec : Exec) (redirects : List Redirect) (body : State → State) (s : State) :
    State :=
  let streams := s.session.streams
  match Redirect.carryOutAll (capture exec) redirects s with
  | (some message, s) =>
    let s := (s.warn message).setStatus (if s.isExtended then 1 else 2)
    { s with session.streams := streams }
  | (none, s) =>
    let s := if s.halted then s else body s
    { s with session.streams := streams }

end Manuscript.Shell
