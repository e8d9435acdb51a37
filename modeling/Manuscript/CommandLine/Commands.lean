import Manuscript.Build.Launcher
import Manuscript.CommandLine.Outcome
import Manuscript.Config.Files
import Manuscript.Pipeline
import Manuscript.Repair.Session
import Manuscript.Report.Json

/-!
The commands: `check` runs the pipeline on the root document and prints the
summary of its report, `fix` repairs the files below a directory.
-/

namespace Manuscript.CommandLine

def versionText : Text :=
  "texprep 1.0.0".toList

def defaultConfigPath : Path :=
  ⟨"texprep.json".toList⟩

def validationFailure (f : Config.Fault) : Failure :=
  .chain "Configuration validation failed" [f.message]

def print (t : Text) (d : Disk) : Disk :=
  d.speak 1 (.ofText (t ++ ['\n']))

/-! ### The two commands -/

def checkConfig (o : CheckOptions) (c : Config) : Config :=
  { c with
    build := { c.build with
      rootDocument := o.root.getD c.build.rootDocument
      generateStubs := c.build.generateStubs && !o.noStubs } }

def pipeline (l : Launcher) (date : String) (c : Config.Build) : Pipeline :=
  { config := c
    compiler := l.compilerOf c.compiler
    locator := l.locatorOf c
    date }

def writeReport (r : Report) (target : Option Path) (d : Disk) : Except Failure Unit × Disk :=
  match target with
  | none => (.ok (), d)
  | some p =>
    match d.write p (.ofText r.print) with
    | (.ok (), d) => (.ok (), d)
    | (.error f, d) =>
      (.error (.chain (String.join ["Failed to write report to ", p.quoted]) [f.message]), d)

def runCheck (l : Launcher) (date : String) (o : CheckOptions) (c : Config) (d : Disk) :
    Outcome × Disk :=
  let c := checkConfig o c
  match c.fault? with
  | some f => Outcome.failed (validationFailure f) d
  | none =>
    let (run, d) := (pipeline l date c.build).run d
    match writeReport run.report o.reportFile (print (run.report.summary o.verbose).toList d) with
    | (.ok (), d) => Outcome.done run.report.exitCode d
    | (.error f, d) => Outcome.failed f d

def fixConfig (o : FixOptions) (c : Config) : Config :=
  { c with
    escaping := { c.escaping with
      maxPasses := o.maxPasses.getD c.escaping.maxPasses
      backup := c.escaping.backup && !o.noBackup } }

def session (o : FixOptions) (c : Config.Escaping) : Repair.Session :=
  { Repair.Session.ofConfig c with dryRun := o.dryRun }

def fixLine (dryRun : Bool) (fix : Repair.FileFix) : Text :=
  (String.join
    [fix.path.quoted, if dryRun then ": would fix " else ": fixed ", toString fix.count,
      " replacement(s)"]).toList

def fixText (dryRun : Bool) (r : Repair.SessionReport) : Text :=
  Text.joinWith ['\n']
    ((r.results.filter (·.changed)).map (fixLine dryRun) ++ [r.summary.text.toList])

def fixOutcome (dryRun : Bool) (r : Repair.SessionReport) (d : Disk) : Outcome × Disk :=
  let d := print (fixText dryRun r) d
  if r.failed.isEmpty then Outcome.done 0 d
  else Outcome.failed
    (.chain (String.join [toString r.failed.length, " file(s) could not be repaired"]) []) d

def runFix (o : FixOptions) (c : Config) (d : Disk) : Outcome × Disk :=
  let c := fixConfig o c
  match c.fault? with
  | some f => Outcome.failed (validationFailure f) d
  | none =>
    if !d.holdsDirectory o.directory then
      Outcome.failed (.chain (String.join ["Directory does not exist: ", o.directory.quoted]) []) d
    else match (session o c.escaping).run o.directory d with
      | (.error e, d) => Outcome.failed (.ofChain e.chain) d
      | (.ok report, d) => fixOutcome o.dryRun report d

/-! ### The command line -/

def runCommand (l : Launcher) (date : String) (c : Config) : Command → Disk → Outcome × Disk
  | .check o => runCheck l date o c
  | .fix o => runFix o c

/-- Runs what a command line asks for. The settings are read first, or written. -/
def runWith (l : Launcher) (date : String) (words : List Text) (d : Disk) : Outcome × Disk :=
  let d := { d with spoken := [] }
  match request words with
  | .error e => Outcome.failed (.usage e) d
  | .ok .version => Outcome.done 0 (print versionText d)
  | .ok (.run shared command) =>
    match Config.loadOrCreate (shared.configPath.getD defaultConfigPath) d with
    | (.error e, d) => Outcome.failed (.ofChain e.chain) d
    | (.ok c, d) =>
      runCommand l date { c with logLevel := shared.logLevel.getD c.logLevel } command d

end Manuscript.CommandLine
