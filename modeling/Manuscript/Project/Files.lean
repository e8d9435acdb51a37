import Manuscript.Disk.Files
import Manuscript.Project.Resolution
import Manuscript.Project.Stub
import Manuscript.Scan.Scanner

/-!
References and the files of a project: reading the root document, looking for
the file of each reference, and writing placeholders for those that are missing.
-/

namespace Manuscript

structure Unreadable where
  path : Path
  reason : String
  deriving DecidableEq, Repr

def Unreadable.message (u : Unreadable) : String :=
  String.join ["Failed to read root document ", u.path.quoted, ": ", u.reason]

def readDocument (p : Path) (d : Disk) : Except Unreadable Text :=
  match d.readText p with
  | .ok t => .ok t
  | .error f => .error ⟨p, f.message⟩

def Scanner.scanFile (s : Scanner) (p : Path) (d : Disk) : Except Unreadable Scan.Result :=
  (readDocument p d).map s.scan

def Resolution.resolve (base : Path) (references : List Reference) (d : Disk) : Resolution :=
  Resolution.ofReferences d.holdsFile base references

namespace Stub

inductive Error
  | writeFailed (path : Path) (reason : String)
  | unsafePath (path : String)
  deriving DecidableEq, Repr

def Error.message : Error → String
  | .writeFailed path reason =>
    String.join ["Failed to write stub ", path.quoted, ": ", reason]
  | .unsafePath path => String.join ["Refusing to generate stub outside the project: ", path]

structure Outcome where
  created : List Path
  failed : List Error
  deriving DecidableEq, Repr

def Outcome.empty : Outcome :=
  ⟨[], []⟩

def generate (date : String) (m : MissingFile) (d : Disk) : Except Error Path × Disk :=
  if !isInside m.reference.path then (.error (.unsafePath m.reference.path), d)
  else match d.storeText m.expectedPath (text date m.reference).toList with
    | (.ok (), d) => (.ok m.expectedPath, d)
    | (.error e, d) => (.error (.writeFailed m.expectedPath e.message), d)

def generateAll (date : String) : List MissingFile → Disk → Outcome × Disk
  | [], d => (.empty, d)
  | m :: ms, d =>
    let (result, d) := generate date m d
    let (rest, d) := generateAll date ms d
    match result with
    | .ok p => ({ rest with created := p :: rest.created }, d)
    | .error e => ({ rest with failed := e :: rest.failed }, d)

end Stub

end Manuscript
