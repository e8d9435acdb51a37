import Manuscript.Disk.Error
import Manuscript.Disk.Operation
import Manuscript.Text.Case

/-!
Tasks on files that take several operations, or that say what failed.
-/

namespace Manuscript.Disk

/-- Creates a directory and those above it, unless the path is there already. -/
def ensureDir (p : Path) (d : Disk) : Except FileError Unit × Disk :=
  if d.holds p then (.ok (), d)
  else match makeDirs (p.text.length + 1) p d with
    | (.ok (), d) => (.ok (), d)
    | (.error f, d) => (.error (.bare f), d)

def loadText (p : Path) (d : Disk) : Except FileError Text :=
  match d.readText p with
  | .ok t => .ok t
  | .error f => .error (.reading p f)

def ensureParent (p : Path) (d : Disk) : Except FileError Unit × Disk :=
  match p.parent? with
  | some ⟨c :: rest⟩ => ensureDir ⟨c :: rest⟩ d
  | _ => (.ok (), d)

def storeText (p : Path) (t : Text) (d : Disk) : Except FileError Unit × Disk :=
  match ensureParent p d with
  | (.error e, d) => (.error e, d)
  | (.ok (), d) =>
    match d.write p (.ofText t) with
    | (.ok (), d) => (.ok (), d)
    | (.error f, d) => (.error (.writing p f), d)

/-- Copies a file beside itself under its name with a suffix. The copy has reached the device
when this is done, so the file may be overwritten afterwards. -/
def writeBackup (p : Path) (suffix : Text) (d : Disk) : Except FileError Path × Disk :=
  if !d.holds p then (.error (.noSource p), d)
  else match d.read p with
    | .error f => (.error (.readingForBackup p f), d)
    | .ok bytes =>
      let backup := p.withSuffix suffix
      match d.create backup with
      | .error f => (.error (.creatingBackup backup f), d)
      | .ok (loc, d) =>
        match d.writeAt loc bytes with
        | .error f => (.error (.writingBackup backup f), d)
        | .ok d =>
          match d.syncAt loc with
          | .error f => (.error (.flushingBackup backup f), d)
          | .ok () => (.ok backup, d)

def moveFile (source target : Path) (d : Disk) : Except FileError Unit × Disk :=
  match d.rename source target with
  | .ok d => (.ok (), d)
  | .error f => (.error (.moving source target f), d)

/-- Removes a file; says whether there was one. -/
def removeIfPresent (p : Path) (d : Disk) : Except FileError Bool × Disk :=
  match d.remove p with
  | .ok d => (.ok true, d)
  | .error (.os .notFound) => (.ok false, d)
  | .error f => (.error (.removing p f), d)

/-! ### Listing -/

/-- What a walk reaches: an entry that is no link, and where it is. -/
structure Reached where
  location : Location
  entry : Entry

abbrev Ancestors := List (Path × Location)

/-- What an entry is that a walk has come to under a path. Only a link is looked up by the path; it
may not lead back to an ancestor. -/
def reach (d : Disk) (ancestors : Ancestors) (p : Path) (loc : Location) :
    Entry → Except WalkError Reached
  | .link _ =>
    match d.spot p true with
    | .error f => .error (.unreadable p f)
    | .ok (.vacant _ _) => .error (.unreadable p (.os .notFound))
    | .ok (.taken loc e) =>
      match ancestors.find? (·.2 = loc) with
      | some (ancestor, _) =>
        if e = .directory then .error (.cycle p ancestor) else .ok ⟨loc, e⟩
      | none => .ok ⟨loc, e⟩
  | e => .ok ⟨loc, e⟩

def listed (d : Disk) (p : Path) (loc : Location) : Except WalkError (List (Text × Entry)) :=
  match d.spot p true with
  | .error f => .error (.unreadable p f)
  | .ok _ => .ok (d.children loc)

/-- The files at or below an entry, through links, in the order of the disk. A file that cannot be
looked up by its path is passed over. -/
def filesFrom (d : Disk) : Nat → Ancestors → Path → Location → Entry → Except WalkError (List Path)
  | 0, _, _, _, _ => .ok []
  | fuel + 1, ancestors, p, loc, e =>
    match reach d ancestors p loc e with
    | .error e => .error e
    | .ok ⟨loc, .directory⟩ =>
      match d.listed p loc with
      | .error e => .error e
      | .ok children =>
        (children.mapM fun (name, e) =>
          filesFrom d fuel ((p, loc) :: ancestors) (p.join ⟨name⟩) (loc ++ [name]) e).map
            List.flatten
    | .ok _ => .ok (if d.holdsFile p then [p] else [])

/-- Enough levels for every walk that does not run in a circle. -/
def depthBound (d : Disk) : Nat :=
  (d.entries.length + 2) * (d.entries.length + 2)

def filesAt (d : Disk) (p : Path) : Except WalkError (List Path) :=
  match d.spot p false with
  | .error f => .error (.unreadable p f)
  | .ok (.vacant _ _) => .error (.unreadable p (.os .notFound))
  | .ok (.taken loc e) => d.filesFrom d.depthBound [] p loc e

/-- Whether a path has one of the extensions, which may be given with leading dots. -/
def hasExtension (extensions : List String) (p : Path) : Bool :=
  match p.extension? with
  | some ext =>
    extensions.any fun wanted => Text.lower (wanted.toList.dropWhile (· == '.')) == Text.lower ext
  | none => false

/-- The files below a directory with one of the extensions, in the order of their paths. -/
def findFiles (directory : Path) (extensions : List String) (d : Disk) :
    Except FileError (List Path) :=
  match d.filesAt directory with
  | .error e => .error (.walking e)
  | .ok files => .ok ((files.filter (hasExtension extensions)).mergeSort Path.le)

end Manuscript.Disk
