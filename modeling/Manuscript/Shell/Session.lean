import Manuscript.Shell.Builtin.Surroundings

/-!
Going from one shell to another and back: what a command that is run apart keeps
from the session around it, what another program inherits, and what follows from
the output that a command leaves behind.
-/

namespace Manuscript.Shell

namespace State

/-! ### Sessions apart -/

def enterApart (s : State) : State :=
  { s with
    session.traps := s.session.traps.filter fun t => t.2.isEmpty
    session.level := s.session.level + 1
    session.loops := 0 }

/-- How a command that was run apart leaves the commands around it. -/
def jumpBeyond (j : Option Jump) : Option Jump :=
  match j with
  | some (.killed n) => some (.killed n)
  | some .outOfTime => some .outOfTime
  | _ => none

def leaveApart (s : State) (outer : State) : State :=
  { s with
    session := { outer.session with
      status := s.session.status
      jump := jumpBeyond s.session.jump }
    disk := { s.disk with cwd := outer.disk.cwd } }

/-- The session of another program: it has only what commands inherit. -/
def enterProgram (s : State) : State :=
  let traps := s.session.traps.filter fun t => t.2.isEmpty && t.1 ≠ "EXIT"
  { s with
    nextProcess := s.nextProcess + 1
    ancestors := s.session.process :: s.ancestors
    session := { s.session with
      bindings := s.session.bindings.filter fun b => b.2.exported && b.2.value.isSome
      functions := []
      aliases := []
      options := []
      switches := []
      traps
      line := 0
      command := none
      process := s.nextProcess
      lastBackground := none
      loops := 0
      calls := 0
      sourced := 0
      working := []
      stages := [0]
      depth := 0
      level := 0
      source := none
      reading := []
      isArgument := false
      channels := []
      directories := []
      tracked := []
      lists := []
      hidden := []
      tested := false
      optionOffset := 0 } }

def takeMail (s : State) : State :=
  let own := s.mail.filter (·.1 == s.session.process)
  own.foldl (fun s (process, n) => Builtin.signal n process s)
    { s with mail := s.mail.filter (·.1 ≠ s.session.process) }

/-- Goes back to a session from another program. One that was ended by a signal has a status of its
own, and a plain shell may say something about it. -/
def leaveProgram (s : State) (outer : State) : State :=
  let jump := s.session.jump
  let status := match jump with
    | some (.killed n) => 128 + n
    | _ => s.session.status
  let s := { s with
    self := outer.self
    ancestors := outer.ancestors
    session := { outer.session with
      status
      jump := if jump = some Jump.outOfTime then jump else none }
    disk := { s.disk with cwd := outer.disk.cwd } }
  let s := s.takeMail
  match jump with
  | some (.killed n) =>
    if s.isExtended then s
    else match Signal.epitaph? n with
      | some message => s.tell [message.toList]
      | none => s
  | _ => s

/-! ### What has become of the output -/

/-- What follows from the output of a command of the shell: one that nobody reads ends the shell. -/
def settleBuiltin (name : Text) (s : State) : State :=
  if s.unread then
    ({ s with unread := false }.setStatus 141).jump .exit
  else match s.unwritten with
    | none => s
    | some e =>
      let s := { s with unwritten := none }
      let message := if s.isExtended then ["write error: ".toList, e.text.toList]
        else [name, ": I/O error".toList]
      (s.warn message).setStatus 1

/-- What follows from the output and the input of a tool: one whose output nobody reads is ended,
and one that reads without end does not end otherwise. -/
def settleTool (s : State) : State :=
  if s.unread then { s with unread := false, endless := false, unwritten := none }.setStatus 141
  else if s.endless then { s with endless := false }.outOfTime
  else match s.unwritten with
    | none => s
    | some e =>
      (Tool.complain ["write error: ".toList, e.text.toList] { s with unwritten := none }).fail

end State

end Manuscript.Shell
