import Manuscript.Config.Basic
import Manuscript.Disk.Files
import Manuscript.Repair.Engine

/-!
Repairing the files below a directory.

Each file is read, repaired, backed up if that is asked for, and written. A
failure is noted with the file and does not stop the session; a file whose
backup failed is not touched.
-/

namespace Manuscript.Repair

structure FileFix where
  path : Path
  changed : Bool
  count : Nat
  passes : Nat
  backup : Option Path
  warnings : List Warning
  error : Option FileError
  deriving DecidableEq, Repr

structure Session where
  engine : Engine := {}
  backup : Bool := true
  backupSuffix : String := ".bak"
  extensions : List String := ["tex", "sty"]
  /-- Work out the results without writing anything. -/
  dryRun : Bool := false

structure Summary where
  scanned : Nat
  changed : Nat
  replacements : Nat
  deriving DecidableEq, Repr

namespace Summary

def zero : Summary :=
  ⟨0, 0, 0⟩

def add (s : Summary) (fix : FileFix) : Summary :=
  if fix.changed then ⟨s.scanned + 1, s.changed + 1, s.replacements + fix.count⟩
  else { s with scanned := s.scanned + 1 }

def text (s : Summary) : String :=
  String.join
    ["Escaping repair: ", toString s.scanned, " file(s) scanned, ", toString s.changed,
      " changed, ", toString s.replacements, " replacement(s)"]

end Summary

structure SessionReport where
  results : List FileFix
  summary : Summary
  /-- How many files were done of how many, after each file. -/
  progress : List (Nat × Nat)

namespace SessionReport

def empty : SessionReport :=
  ⟨[], .zero, []⟩

def note (r : SessionReport) (fix : FileFix) (done total : Nat) : SessionReport :=
  ⟨r.results ++ [fix], r.summary.add fix, r.progress ++ [(done, total)]⟩

def failed (r : SessionReport) : List FileFix :=
  r.results.filter (·.error.isSome)

end SessionReport

namespace Session

def ofConfig (c : Config.Escaping) : Session :=
  { engine := { maxPasses := c.maxPasses, validate := c.validateAfterFix }
    backup := c.backup
    backupSuffix := c.backupSuffix
    extensions := c.extensions }

/-- The files that a session visits below a directory; backups are left out. -/
def discover (s : Session) (directory : Path) (d : Disk) : Except FileError (List Path) :=
  match d.findFiles directory s.extensions with
  | .error e => .error e
  | .ok files => .ok (files.filter fun p => !s.backupSuffix.toList.isSuffixOf p.text)

def backUp (s : Session) (p : Path) (d : Disk) : Except FileError (Option Path) × Disk :=
  if s.backup then
    match d.writeBackup p s.backupSuffix.toList with
    | (.ok backup, d) => (.ok (some backup), d)
    | (.error e, d) => (.error e, d)
  else (.ok none, d)

/-- Writes the repaired text over a file, after its backup. -/
def overwrite (s : Session) (fix : FileFix) (t : Text) (d : Disk) : FileFix × Disk :=
  match s.backUp fix.path d with
  | (.error e, d) => ({ fix with error := some e }, d)
  | (.ok backup, d) =>
    match d.storeText fix.path t with
    | (.error e, d) => ({ fix with backup, error := some e }, d)
    | (.ok (), d) => ({ fix with backup }, d)

def fixFile (s : Session) (p : Path) (d : Disk) : FileFix × Disk :=
  match d.loadText p with
  | .error e => (⟨p, false, 0, 0, none, [], some e⟩, d)
  | .ok t =>
    let o := s.engine.repair t
    if !o.changed then (⟨p, false, 0, o.passes, none, o.warnings, none⟩, d)
    else
      let fix : FileFix := ⟨p, true, o.count, o.passes, none, o.warnings, none⟩
      if s.dryRun then (fix, d) else s.overwrite fix o.text d

/-- Repairs files one after the other, behind those of the report that are done. -/
def fixEach (s : Session) (total : Nat) :
    Nat → List Path → SessionReport → Disk → SessionReport × Disk
  | _, [], report, d => (report, d)
  | done, p :: ps, report, d =>
    let (fix, d) := s.fixFile p d
    s.fixEach total (done + 1) ps (report.note fix (done + 1) total) d

def run (s : Session) (directory : Path) (d : Disk) : Except FileError SessionReport × Disk :=
  match s.discover directory d with
  | .error e => (.error e, d)
  | .ok files =>
    let (report, d) := s.fixEach files.length 0 files .empty d
    (.ok report, d)

end Session

end Manuscript.Repair
