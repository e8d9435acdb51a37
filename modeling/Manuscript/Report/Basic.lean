import Manuscript.Build.Result
import Manuscript.Project.Resolution
import Manuscript.Scan.Scanner
import Manuscript.Structure.Basic

/-!
The report of a run: an ordered log of the stages it went through.

A stage is recorded only after all stages that come before it in the order of
the pipeline, so each appears at most once and nothing recorded is replaced.
The run has passed when scanning, resolving and both build checks have.
-/

namespace Manuscript

inductive Stage
  | scanning
  | resolving
  | stubbing
  | basicBuildTest
  | fullBuildTest
  deriving DecidableEq, Repr

namespace Stage

def all : List Stage :=
  [scanning, resolving, stubbing, basicBuildTest, fullBuildTest]

def name : Stage → String
  | scanning => "Scanning"
  | resolving => "Resolving"
  | stubbing => "Stubbing"
  | basicBuildTest => "BasicBuildTest"
  | fullBuildTest => "FullBuildTest"

def ofName? (name : String) : Option Stage :=
  all.find? (·.name == name)

/-- Whether the run stops when the stage fails. -/
def isFatal : Stage → Bool
  | scanning => true
  | basicBuildTest => true
  | _ => false

def position (s : Stage) : Nat :=
  all.idxOf s

def required : List Stage :=
  [scanning, resolving, basicBuildTest, fullBuildTest]

end Stage

inductive StageData
  | scan (result : Scan.Result) (structural : List Structure.Issue)
  | resolve (resolution : Resolution)
  | stub (created : List Path) (failed : List String)
  | build (check : CheckResult)
  | nothing
  deriving DecidableEq, Repr

structure StageResult where
  stage : Stage
  passed : Bool
  errors : List String
  warnings : List String
  data : StageData
  durationMs : Nat
  deriving DecidableEq, Repr

namespace StageResult

def of (stage : Stage) (passed : Bool) (data : StageData) : StageResult :=
  ⟨stage, passed, [], [], data, 0⟩

def failure (stage : Stage) (error : String) : StageResult :=
  ⟨stage, false, [error], [], .nothing, 0⟩

def counts (r : StageResult) : String :=
  match r.data with
  | .scan result structural =>
    String.join
      [toString result.stylePackages.length, " style package(s), ",
        toString result.contentModules.length, " content module(s), ",
        toString result.externalPackages.length, " external, ",
        toString structural.length, " structure warning(s)"]
  | .resolve resolution =>
    String.join
      [toString resolution.records.length, " reference(s), ",
        toString resolution.missing.length, " missing, ",
        toString resolution.provided.length, " from the distribution"]
  | .stub created failed =>
    String.join [toString created.length, " created, ", toString failed.length, " failed"]
  | .build check =>
    if check.vacuous then "skipped, compiler not found"
    else match check.artifactSize with
      | some size =>
        String.join
          ["artifact ", toString size, " bytes in ", toString check.durationMs, " ms"]
      | none => String.join ["no artifact, ", toString check.durationMs, " ms"]
  | .nothing => ""

end StageResult

/-- The stages of a run, in the order in which they were recorded. -/
structure Report where
  stages : List StageResult
  deriving DecidableEq, Repr

namespace Report

def empty : Report :=
  ⟨[]⟩

def accepts (r : Report) (s : StageResult) : Bool :=
  r.stages.getLast?.all fun last => last.stage.position < s.stage.position

/-- Records a stage, unless that would break the order of the pipeline. -/
def push (r : Report) (s : StageResult) : Report :=
  if r.accepts s then ⟨r.stages ++ [s]⟩ else r

def stage? (r : Report) (s : Stage) : Option StageResult :=
  r.stages.find? (·.stage = s)

def passed (r : Report) : Bool :=
  Stage.required.all fun s => (r.stage? s).any (·.passed)

def exitCode (r : Report) : Nat :=
  if r.passed then 0 else 1

/-! ### Summary -/

def column (name : String) : Text :=
  name.toList ++ List.replicate (15 - name.length) ' '

def headline (s : StageResult) : Text :=
  let mark := if s.passed then "PASS" else "FAIL"
  let line := '[' :: mark.toList ++ "] ".toList ++ column s.stage.name ++ ' ' :: s.counts.toList
  let reason := match s.errors with
    | first :: _ => if s.passed then [] else " | ".toList ++ first.toList
    | [] => []
  Text.trimEnd (line ++ reason)

def details (s : StageResult) : List Text :=
  let output := match s.data with
    | .build check =>
      if check.logTail.isEmpty then []
      else "    compiler output (tail):".toList ::
        check.logTail.map fun line => "      ".toList ++ line.toList
    | _ => []
  (s.errors.map fun e => "    error: ".toList ++ e.toList) ++
    (s.warnings.map fun w => "    warning: ".toList ++ w.toList) ++ output

/-- A line for each stage and one for the verdict; with all details if verbose. -/
def summary (r : Report) (verbose : Bool) : String :=
  let stageLines := r.stages.flatMap fun s => headline s :: if verbose then details s else []
  let verdict := if r.passed then "Build check PASSED" else "Build check FAILED"
  String.ofList (Text.joinWith ['\n'] (stageLines ++ [verdict.toList]))

end Report

end Manuscript
