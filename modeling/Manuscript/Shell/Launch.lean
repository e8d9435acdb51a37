import Manuscript.Build.Launcher
import Manuscript.Shell.Run

/-!
Programs as they are started from outside of any shell, and what they come to.
-/

namespace Manuscript.Shell

def maxSteps : Nat := 400000

/-- More calls inside one another than the steps allow. -/
def maxDepth : Nat := 10000000

/-- What programs inherit, besides the working directory. -/
def surroundings : List (String × String) :=
  [("PATH", "/usr/local/sbin:/usr/local/bin:/usr/sbin:/usr/bin:/sbin:/bin"), ("HOME", "/root"),
    ("LANG", "C.UTF-8")]

/-- The state in which nothing runs yet, with the numbers of the sinks for the two outputs. -/
def initial (deadline : Nat) (d : Disk) : Nat × Nat × State :=
  let bindings := (surroundings.map fun (name, value) =>
    (name.toList, ({ value := some (.text value.toList), exported := true } : Binding)))
  let pwd : Binding :=
    { value := some (.text (Octets.encode (Disk.absolute d.cwd).text)), exported := true }
  let s : State :=
    { disk := d
      session :=
        { dialect := .plain
          name := "sh".toList
          arguments := []
          bindings := ("PWD".toList, pwd) :: bindings.reverse
          streams := [(0, .nothing)]
          process := 1000 }
      nextProcess := 1001
      deadline
      steps := maxSteps
      patience := 131072 }
  let (out, s) := s.addSink none
  let (err, s) := s.addSink none
  (out, err, (s.setStream 1 (.sink out)).setStream 2 (.sink err))

/-- What can be run by a name: one without a separator is looked for along the search path. -/
def runnable (s : State) (name : Text) : Except Errno Runnable :=
  if name.contains '/' then runnableAt s name name
  else if name == ['.'] || name == ['.', '.'] then .error .permission
  else if 255 < name.length then .error .nameTooLong
  else match System.path? s name with
    | some path => if name.isEmpty then .error .notFound else runnableAt s name path
    | none => .error .notFound

/-- A program ends only when all have ended that write where it does. -/
def awaitAttached (s : State) : State :=
  if s.jobs.any fun j => j.attached && s.deadline < j.endTime then s.outOfTime else s

def launch (name : Text) (args : List Text) (deadline : Nat) (d : Disk) :
    Except Errno (Launcher.Result × Disk) :=
  let (out, err, s) := initial deadline d
  let finished (s : State) : Launcher.Result × Disk :=
    let s := awaitAttached s
    let ending : Ending := match s.session.jump with
      | some .outOfTime => .outOfTime
      | some (.killed _) => .killed
      | _ => .exited s.status
    (⟨ending, Octets.toBytes (s.sink out).text, Octets.toBytes (s.sink err).text⟩, s.disk)
  let exec := run maxDepth
  (runnable s name).bind fun
    | .program (.shell dialect) self before =>
      .ok (finished (runShell exec dialect self (before ++ args) s))
    | .program (.tool tool) self before =>
      .ok (finished
        (runProgram exec (start exec maxRounds) (.tool tool) self (before ++ args) s))
    | .text _ => .error .badFormat

end Manuscript.Shell
