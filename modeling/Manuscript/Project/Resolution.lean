import Manuscript.Scan.Reference

/-!
What resolving the references of a project found: a record of each file looked
for, the references whose file is missing, and the packages that are missing
from the project but come with the distribution.
-/

namespace Manuscript

structure FileRecord where
  path : Path
  found : Bool
  deriving DecidableEq, Repr

/-- A reference without a file, and where the file was expected. -/
structure MissingFile where
  reference : Reference
  expectedPath : Path
  deriving DecidableEq, Repr

structure Resolution where
  records : List FileRecord
  missing : List MissingFile
  provided : List String
  deriving DecidableEq, Repr

namespace MissingFile

def isPackage (m : MissingFile) (name : String) : Bool :=
  m.reference.kind = .stylePackage ∧ m.reference.path = name

end MissingFile

namespace Resolution

def empty : Resolution :=
  ⟨[], [], []⟩

def isComplete (r : Resolution) : Bool :=
  r.missing.isEmpty

def missingPackages (r : Resolution) : List String :=
  (r.missing.filter (·.reference.kind = .stylePackage)).map (·.reference.path)

/-- Whether a package of the name is missing, so that marking it would remove an entry. -/
def lacksPackage (r : Resolution) (name : String) : Bool :=
  r.missing.any (·.isPackage name)

def markProvided (r : Resolution) (name : String) : Resolution :=
  { r with
    missing := r.missing.filter (!·.isPackage name)
    provided :=
      if r.lacksPackage name && !r.provided.contains name then r.provided ++ [name]
      else r.provided }

/-- A record for each reference that is not repeated, told which paths hold a file. -/
def ofReferences (holdsFile : Path → Bool) (base : Path) (references : List Reference) :
    Resolution :=
  let distinct := references.eraseDups
  { records := distinct.map fun r => ⟨r.expectedPath base, holdsFile (r.expectedPath base)⟩
    missing := (distinct.filter fun r => !holdsFile (r.expectedPath base)).map fun r =>
      ⟨r, r.expectedPath base⟩
    provided := [] }

end Resolution

end Manuscript
