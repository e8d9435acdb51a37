import Manuscript.Disk.Basic

/-!
What a failed task on files was about, as a chain of causes from the outermost
in.
-/

namespace Manuscript

inductive WalkError
  | unreadable (path : Path) (fault : Fault)
  | cycle (path ancestor : Path)
  deriving DecidableEq, Repr

def WalkError.chain : WalkError → List String
  | .unreadable path fault =>
    [String.join ["IO error for operation on ", path.toString, ": ", fault.message],
      fault.message]
  | .cycle path ancestor =>
    [String.join
      ["File system loop found: ", path.toString, " points to an ancestor ", ancestor.toString]]

inductive FileError
  | bare (fault : Fault)
  | reading (path : Path) (fault : Fault)
  | writing (path : Path) (fault : Fault)
  | noSource (path : Path)
  | readingForBackup (path : Path) (fault : Fault)
  | creatingBackup (path : Path) (fault : Fault)
  | writingBackup (path : Path) (fault : Fault)
  | flushingBackup (path : Path) (fault : Fault)
  | moving (source target : Path) (fault : Fault)
  | removing (path : Path) (fault : Fault)
  | walking (error : WalkError)
  deriving DecidableEq, Repr

namespace FileError

def chain : FileError → List String
  | bare fault => [fault.message]
  | reading path fault => [String.join ["Failed to read file: ", path.quoted], fault.message]
  | writing path fault => [String.join ["Failed to write to file: ", path.quoted], fault.message]
  | noSource path => [String.join ["Source file does not exist: ", path.quoted]]
  | readingForBackup path fault =>
    [String.join ["Failed to read file for backup: ", path.quoted], fault.message]
  | creatingBackup path fault =>
    [String.join ["Failed to create backup file: ", path.quoted], fault.message]
  | writingBackup path fault =>
    [String.join ["Failed to write backup file: ", path.quoted], fault.message]
  | flushingBackup path fault =>
    [String.join ["Failed to flush backup file: ", path.quoted], fault.message]
  | moving source target fault =>
    [String.join ["Failed to move ", source.quoted, " to ", target.quoted], fault.message]
  | removing path fault => [String.join ["Failed to remove file: ", path.quoted], fault.message]
  | walking error => "Failed to read directory entry" :: error.chain

def message (e : FileError) : String :=
  ": ".intercalate e.chain

end FileError

end Manuscript
