import Manuscript.CommandLine.Run
import Std.Time.Format

/-!
The program. It takes the tree of the working directory as a disk, runs the
command line on it, and carries out what has changed.
-/

namespace Manuscript.Program

/-- What is below a directory. A link stands for the place that it leads to, and every file
counts as executable. -/
partial def gather (directory : Location) (found : Array IO.FS.DirEntry) :
    IO (List (Location × Entry)) := do
  let mut below := []
  for e in found do
    let loc := directory ++ [e.fileName.toList]
    match (← e.path.symlinkMetadata).type with
    | .dir => below := below ++ (loc, .directory) :: (← gather loc (← e.path.readDir))
    | .symlink =>
      let target ← try pure (← IO.FS.realPath e.path).toString catch _ => pure e.path.toString
      below := below ++ [(loc, .link (.ofString target))]
    | .file => below := below ++ [(loc, .file (← IO.FS.readBinFile e.path).data.toList true)]
    | .other => pure ()
  return below

def pathOf (loc : Location) : String :=
  (Disk.absolute loc).toString

def carryOut (loc : Location) : Entry → IO Unit
  | .directory => IO.FS.createDirAll (pathOf loc)
  | .file bytes _ => IO.FS.writeBinFile (pathOf loc) ⟨bytes.toArray⟩
  | _ => pure ()

def apply (before after : Disk) : IO Unit := do
  for (loc, e) in before.entries do
    if Disk.isBelow before.cwd loc && (after.entry? loc).isNone && e ≠ .directory then
      IO.FS.removeFile (pathOf loc)
  for (loc, e) in after.entries do
    if Disk.isBelow before.cwd loc && before.entry? loc ≠ some e then carryOut loc e

end Manuscript.Program

open Manuscript in
def main (arguments : List String) : IO UInt32 := do
  let here ← IO.currentDir
  let cwd := Disk.names (.ofString here.toString)
  let before := Disk.ofSystem cwd (← Program.gather cwd (← here.readDir))
  let date := (← Std.Time.PlainDate.now).format "uuuu/MM/dd"
  let (outcome, after) := CommandLine.run date (arguments.map String.toList) before
  Program.apply before after
  IO.print (String.ofList outcome.stdout)
  if let some f := outcome.failure then IO.eprintln (String.ofList f.text)
  return outcome.status.toUInt32
