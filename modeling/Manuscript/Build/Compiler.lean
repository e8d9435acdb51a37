import Manuscript.Path

/-!
One run of a document compiler: what is asked of it, what it reports, and why
it may not have run at all.
-/

namespace Manuscript

structure CompileRequest where
  document : Path
  workingDir : Path
  outputDir : Path
  timeoutMs : Nat
  deriving DecidableEq, Repr

namespace CompileRequest

/-- What a compiler makes of the document: its stem with the extension `pdf`. -/
def expectedArtifact (r : CompileRequest) : Path :=
  r.outputDir.join ⟨r.document.fileStem ++ ".pdf".toList⟩

/-- The arguments of one run: never ask, stop at the first error, write to the output
directory. -/
def arguments (r : CompileRequest) (extraArgs : List String) : List String :=
  ["-interaction=nonstopmode", "-halt-on-error",
    String.ofList ("-output-directory=".toList ++ r.outputDir.text)] ++
    extraArgs ++ [r.document.toString]

end CompileRequest

structure CompileOutput where
  success : Bool
  /-- No code where a signal ended the run. -/
  exitCode : Option Int
  stdout : Text
  stderr : Text
  deriving DecidableEq, Repr

inductive CompileError
  | notFound (program : String)
  | timedOut (seconds : Nat)
  | io (message : String)
  deriving DecidableEq, Repr

def CompileError.message : CompileError → String
  | .notFound program => s!"Compiler binary '{program}' not found"
  | .timedOut seconds => s!"Compiler timed out after {seconds} seconds"
  | .io message => s!"Failed to run compiler: {message}"

namespace CompileOutput

def isBlankLine (line : Text) : Bool :=
  line.trim.isEmpty

def tailLines (t : Text) (count : Nat) : List Text :=
  let lines := t.lines.filter (!isBlankLine ·)
  lines.drop (lines.length - count)

def logLines : Nat := 20

/-- The end of the output; of the error output where the other is blank. -/
def logTail (o : CompileOutput) : List String :=
  (tailLines (if o.stdout.trim.isEmpty then o.stderr else o.stdout) logLines).map String.ofList

/-- What keeps a run from counting as a success, given the size of the artifact it left. -/
def evaluate (o : CompileOutput) (artifact : Path) (size : Option Nat) (minBytes : Nat) :
    List String :=
  let exit :=
    if o.success then []
    else match o.exitCode with
      | some code => [s!"Compiler exited with status {code}"]
      | none => ["Compiler terminated by signal"]
  let quoted := artifact.quoted
  let produced :=
    match size with
    | none => [s!"Expected artifact {quoted} was not produced"]
    | some size =>
      if size ≤ minBytes then
        [s!"Artifact {quoted} is only {size} bytes (must exceed {minBytes})"]
      else []
  exit ++ produced

end CompileOutput

end Manuscript
