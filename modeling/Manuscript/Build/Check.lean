import Manuscript.Build.BasicDocument
import Manuscript.Build.Result
import Manuscript.Config.Basic
import Manuscript.Disk.Files

/-!
Build checks.

The basic check compiles a copy of the root document without its content, the
full check the root document itself. A check passes only if the compiler
succeeded, the artifact is there afterwards and it is larger than the least
size. An artifact of an earlier run waits under another name meanwhile, so that
it cannot count as the outcome of this one; it is dropped if the compiler wrote
a new one and put back if not. Without a compiler the check passes vacuously.
-/

namespace Manuscript

structure Compiler where
  name : String
  run : CompileRequest → Disk → Except CompileError CompileOutput × Disk

structure Checker where
  compiler : Compiler
  /-- Artifacts of this size or less count as truncated. -/
  minArtifactBytes : Nat
  timeoutMs : Nat
  outputDir : Option Path
  keepBasicDocument : Bool

/-- A check, and what the compiler was asked in it if it came to that. -/
structure CheckRun where
  result : CheckResult
  request : Option CompileRequest

namespace Checker

def ofConfig (c : Config.Build) (compiler : Compiler) : Checker :=
  { compiler
    minArtifactBytes := c.minArtifactBytes
    timeoutMs := c.compiler.timeoutSecs * 1000
    outputDir := c.outputDir
    keepBasicDocument := c.keepBasicDocument }

def request (c : Checker) (document : Path) (d : Disk) : CompileRequest :=
  let directory := document.directory
  let workingDir := (d.canonical? directory).getD directory
  { document := ⟨document.fileName⟩
    workingDir
    outputDir := Config.artifactDirIn workingDir c.outputDir
    timeoutMs := c.timeoutMs }

/-! ### The artifact of an earlier run -/

def parkedPath (artifact : Path) : Path :=
  artifact.withSuffix ".previous".toList

/-- Moves an earlier artifact aside; says where it went. -/
def park (artifact : Path) (d : Disk) : Except FileError (Option Path) × Disk :=
  if d.holdsFile artifact then
    match d.moveFile artifact (parkedPath artifact) with
    | (.ok (), d) => (.ok (some (parkedPath artifact)), d)
    | (.error e, d) => (.error e, d)
  else (.ok none, d)

/-- Drops an earlier artifact if there is a new one, and puts it back if not. -/
def settle (artifact parked : Path) (d : Disk) : Disk :=
  if d.holdsFile artifact then (d.removeIfPresent parked).2
  else (d.moveFile parked artifact).2

def settleParked (artifact : Path) : Option Path → Disk → Disk
  | some parked, d => settle artifact parked d
  | none, d => d

/-! ### Running a check -/

/-- What a compiler's answer makes of a check, given the size of the artifact it left. -/
def judge (c : Checker) (pending : CheckResult) (size : Option Nat) :
    Except CompileError CompileOutput → CheckResult
  | .ok output =>
    let errors := output.evaluate pending.artifact size c.minArtifactBytes
    { pending with
      passed := errors.isEmpty
      artifactSize := size
      exitCode := output.exitCode
      errors
      logTail := output.logTail }
  | .error (.notFound program) =>
    { pending with
      passed := true
      vacuous := true
      warnings := [String.join ["Compiler '", program, "' not found; check skipped"]] }
  | .error e => { pending with errors := [e.message] }

def run (c : Checker) (kind : CheckKind) (document : Path) (d : Disk) : CheckRun × Disk :=
  let request := c.request document d
  let artifact := request.expectedArtifact
  let pending := CheckResult.pending kind document artifact
  match d.ensureDir request.outputDir with
  | (.error e, d) =>
    (⟨{ pending with
        errors := [String.join ["Could not create output directory: ", e.message]] }, none⟩, d)
  | (.ok (), d) =>
    match park artifact d with
    | (.error e, d) => (⟨{ pending with errors := [e.message] }, none⟩, d)
    | (.ok parked, d) =>
      let (answer, d) := c.compiler.run request d
      let result := c.judge pending (d.fileSize? artifact) answer
      (⟨result, some request⟩, settleParked artifact parked d)

def runFull (c : Checker) (root : Path) (d : Disk) : CheckRun × Disk :=
  c.run .full root d

/-- Compiles the packages alone, in a document that is removed afterwards unless it is kept. -/
def runBasic (c : Checker) (root : Path) (d : Disk) : CheckRun × Disk :=
  match d.loadText root with
  | .error e => (⟨.failed .basic root e.message, none⟩, d)
  | .ok rootText =>
    let document := BasicDocument.path root
    match d.storeText document (BasicDocument.text rootText) with
    | (.error e, d) => (⟨.failed .basic document e.message, none⟩, d)
    | (.ok (), d) =>
      let (check, d) := c.run .basic document d
      (check, if c.keepBasicDocument then d else (d.removeIfPresent document).2)

def runKind (c : Checker) : CheckKind → Path → Disk → CheckRun × Disk
  | .basic => c.runBasic
  | .full => c.runFull

end Checker

end Manuscript
