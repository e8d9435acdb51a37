import Manuscript.Config.Json
import Manuscript.Disk.Operation

/-!
The file of the settings. Where there is none, one with the defaults is written.
-/

namespace Manuscript.Config

inductive LoadError
  | unreadable (path : Path) (fault : Manuscript.Fault)
  | malformed (path : Path)
  | notWritten (path : Path) (fault : Manuscript.Fault)
  deriving DecidableEq, Repr

def LoadError.chain : LoadError → List String
  | .unreadable path fault =>
    [String.join ["Failed to open config file: ", path.quoted], fault.message]
  | .malformed path => [String.join ["Failed to parse config file: ", path.quoted]]
  | .notWritten path fault =>
    [String.join ["Failed to write default config to file: ", path.quoted], fault.message]

/-- The settings in the file at a path, which may turn out to be a directory. -/
def readFrom (p : Path) (d : Disk) : Except LoadError Config :=
  match d.read p with
  | .ok bytes =>
    match ofBytes? ⟨bytes.toArray⟩ with
    | some c => .ok c
    | none => .error (.malformed p)
  | .error (.os .isDirectory) => .error (.malformed p)
  | .error f => .error (.unreadable p f)

/-- Reads the settings, or writes and takes the defaults if there is no file for them. -/
def loadOrCreate (p : Path) (d : Disk) : Except LoadError Config × Disk :=
  if d.holds p then (readFrom p d, d)
  else match d.write p (.ofText (print {})) with
    | (.ok (), d) => (.ok {}, d)
    | (.error f, d) => (.error (.notWritten p f), d)

end Manuscript.Config
