import Manuscript.Build.Check
import Manuscript.Build.Locator
import Manuscript.Text.Utf8

/-!
Programs that a project runs: the compiler and the package lookup.

What a program does is up to the system that it runs in. A launcher stands for
the system: it starts a program by its name, and tells how the program has ended
and what the disk is then. What a compiler and a lookup answer is made of that.
-/

namespace Manuscript

inductive Ending
  | exited (status : Nat)
  | killed
  | outOfTime
  deriving DecidableEq, Repr

namespace Launcher

structure Result where
  ending : Ending
  stdout : Bytes
  stderr : Bytes

inductive StartError
  | system (e : Errno)
  | nulCharacter
  deriving DecidableEq, Repr

def StartError.message : StartError → String
  | .system e => (Fault.os e).message
  | .nulCharacter => "nul byte found in provided data"

end Launcher

/-- Starts a program with arguments in the working directory of a disk, for at most so many
milliseconds. -/
structure Launcher where
  launch : String → List String → Nat → Disk → Except Errno (Launcher.Result × Disk)

namespace Launcher

/-- Starts a program in a directory; the directory is that of the program alone. -/
def start (l : Launcher) (program : String) (arguments : List String) (directory : Location)
    (deadline : Nat) (d : Disk) : Except StartError Result × Disk :=
  if (program :: arguments).any (·.toList.contains '\x00') then (.error .nulCharacter, d)
  else match l.launch program arguments deadline { d with cwd := directory } with
    | .error e => (.error (.system e), d)
    | .ok (result, after) => (.ok result, { after with cwd := d.cwd })

/-! ### The compiler -/

def compilerAnswer (program : String) (deadline : Nat) :
    Except StartError Result → Except CompileError CompileOutput
  | .error (.system .notFound) => .error (.notFound program)
  | .error e => .error (.io e.message)
  | .ok result =>
    let out := Text.ofBytes ⟨result.stdout.toArray⟩
    let err := Text.ofBytes ⟨result.stderr.toArray⟩
    match result.ending with
    | .exited status => .ok ⟨status = 0, some status, out, err⟩
    | .killed => .ok ⟨false, none, out, err⟩
    | .outOfTime => .error (.timedOut (deadline / 1000))

def compiler (l : Launcher) (program : String) (extraArgs : List String) : Compiler :=
  { name := program
    run := fun request d =>
      match d.at? request.workingDir with
      | some (directory, .directory) =>
        let (outcome, d) :=
          l.start program (request.arguments extraArgs) directory request.timeoutMs d
        (compilerAnswer program request.timeoutMs outcome, d)
      | _ =>
        (.error (.io (String.join
          ["Working directory does not exist: ", request.workingDir.quoted])), d) }

def compilerOf (l : Launcher) (c : Config.Compiler) : Compiler :=
  l.compiler c.program c.extraArgs

/-! ### The package lookup -/

/-- How long a lookup may take, in milliseconds. -/
def lookupTime : Nat := 10000

def lookupAnswer (program : String) : Except StartError Result → Lookup
  | .error (.system .notFound) => .unavailable (String.join ["'", program, "' not found"])
  | .error e => .unavailable e.message
  | .ok result =>
    let found := (Text.ofBytes ⟨result.stdout.toArray⟩).trim
    match result.ending with
    | .outOfTime => .unavailable (String.join ["'", program, "' timed out"])
    | .exited 0 => if found.isEmpty then .notFound else .found ⟨found⟩
    | _ => .notFound

def locator (l : Launcher) (program : String) : Locator :=
  ⟨fun name d =>
    let (outcome, d) := l.start program [String.join [name, ".sty"]] d.cwd lookupTime d
    (lookupAnswer program outcome, d)⟩

def locatorOf (l : Launcher) (c : Config.Build) : Option Locator :=
  c.packageLookup.map l.locator

end Launcher

end Manuscript
