import Manuscript.Build.Check
import Manuscript.Build.Locator
import Manuscript.Project.Files
import Manuscript.Report.Basic

/-!
The pipeline that checks a project in five stages: scanning the root document,
resolving its references, writing placeholders for missing files, and the basic
and the full build check. It stops when scanning or the basic check fails;
every other failure is recorded and the run goes on. Each stage that is reached
leaves one result in the report.
-/

namespace Manuscript

structure Pipeline where
  config : Config.Build
  compiler : Compiler
  /-- Without a locator the distribution is not asked. -/
  locator : Option Locator
  date : String

/-- The report of a run, and what was asked of the compiler and of the locator. -/
structure PipelineRun where
  report : Report
  requests : List CompileRequest
  lookups : List String

namespace Pipeline

def scanner (p : Pipeline) : Scanner :=
  { external := p.config.externalPackages
    localBeginnings := p.config.localPackageBeginnings }

def checker (p : Pipeline) : Checker :=
  .ofConfig p.config p.compiler

/-! ### Scanning -/

def scanStage (p : Pipeline) (rootText : Text) : StageResult :=
  let structural := Structure.validate rootText
  { StageResult.of .scanning true (.scan (p.scanner.scan rootText) structural) with
    warnings := structural.map (·.message) }

/-! ### Resolving -/

/-- What the lookups have led to: the resolution, the names asked for, and the reason why no more
are asked for. -/
structure Asked where
  resolution : Resolution
  names : List String
  trouble : Option String

/-- Asks for packages one after the other, until the distribution turns out to be unavailable. -/
def askFor (l : Locator) : List String → Resolution → Disk → Asked × Disk
  | [], r, d => (⟨r, [], none⟩, d)
  | name :: names, r, d =>
    match l.locate name d with
    | (.unavailable reason, d) => (⟨r, [name], some reason⟩, d)
    | (.notFound, d) =>
      let (asked, d) := askFor l names r d
      ({ asked with names := name :: asked.names }, d)
    | (.found _, d) =>
      let (asked, d) := askFor l names (r.markProvided name) d
      ({ asked with names := name :: asked.names }, d)

def candidates (p : Pipeline) (r : Resolution) : List String :=
  r.missingPackages.filter (!p.scanner.isProjectPackage ·)

def lookUp (p : Pipeline) (r : Resolution) (d : Disk) : Asked × Disk :=
  match p.locator with
  | none => (⟨r, [], none⟩, d)
  | some l => askFor l (p.candidates r) r d

def troubleWarning (reason : String) : String :=
  String.join
    ["Package lookup unavailable (", reason, "); unlisted packages treated as project files"]

def missingWarning (m : MissingFile) : String :=
  String.join
    ["Missing ", m.reference.kind.label, " '", m.reference.path, "' (expected at ",
      m.expectedPath.quoted, ")"]

def resolveStage (asked : Asked) : StageResult :=
  { StageResult.of .resolving true (.resolve asked.resolution) with
    warnings :=
      (asked.trouble.map troubleWarning).toList ++ asked.resolution.missing.map missingWarning }

/-! ### Writing placeholders -/

def disabledWarning (r : Resolution) : String :=
  String.join
    ["Stub generation disabled; ", toString r.missing.length, " missing file(s) left in place"]

def stubStage (p : Pipeline) (r : Resolution) (d : Disk) : StageResult × Disk :=
  if p.config.generateStubs then
    let (outcome, d) := Stub.generateAll p.date r.missing d
    let failed := outcome.failed.map (·.message)
    ({ StageResult.of .stubbing failed.isEmpty (.stub outcome.created failed) with
       errors := failed }, d)
  else
    ({ StageResult.of .stubbing true (.stub [] []) with
       warnings := if r.isComplete then [] else [disabledWarning r] }, d)

/-! ### Build checks -/

def buildStage (stage : Stage) (check : CheckResult) : StageResult :=
  { StageResult.of stage check.passed (.build check) with
    errors := check.errors
    warnings := check.warnings }

def runScanned (p : Pipeline) (rootText : Text) (d : Disk) : PipelineRun × Disk :=
  let scan := p.scanner.scan rootText
  let report := Report.empty.push (p.scanStage rootText)
  let (asked, d) := p.lookUp (.resolve p.config.rootDir scan.references d) d
  let report := report.push (resolveStage asked)
  let (stubbed, d) := p.stubStage asked.resolution d
  let report := report.push stubbed
  let (basic, d) := p.checker.runBasic p.config.rootDocument d
  let report := report.push (buildStage .basicBuildTest basic.result)
  if basic.result.passed then
    let (full, d) := p.checker.runFull p.config.rootDocument d
    (⟨report.push (buildStage .fullBuildTest full.result),
      basic.request.toList ++ full.request.toList, asked.names⟩, d)
  else (⟨report, basic.request.toList, asked.names⟩, d)

def run (p : Pipeline) (d : Disk) : PipelineRun × Disk :=
  match readDocument p.config.rootDocument d with
  | .ok rootText => p.runScanned rootText d
  | .error u => (⟨Report.empty.push (.failure .scanning u.message), [], []⟩, d)

end Pipeline

end Manuscript
