import Manuscript.Disk.Basic

/-!
The single operations on a disk. Each one either is done or fails without
changing anything.
-/

namespace Manuscript.Disk

def refused (d : Disk) (a : Access) (loc : Location) : Except Fault Unit :=
  match d.refuses a loc with
  | some e => .error (.os e)
  | none => .ok ()

/-- The names of a path before the last one, and the last one if it is the name of an entry. -/
def lastName (p : Path) : List Text × Option Text :=
  match (names p).getLast? with
  | some name =>
    ((names p).dropLast, if name = ['.'] ∨ name = ['.', '.'] then none else some name)
  | none => ([], none)

def holder (d : Disk) (p : Path) : Except Fault Location :=
  match usable p with
  | .error f => .error f
  | .ok () =>
    match walkNames d p (.reach true) true (lastName p).1 with
    | .ok (.taken loc .directory) => .ok loc
    | .ok (.taken _ _) => .error (.os .notDirectory)
    | .ok (.vacant _ _) => .error (.os .notFound)
    | .error f => .error f

/-! ### Files -/

def read (d : Disk) (p : Path) : Except Fault Bytes :=
  match d.spot p true with
  | .error f => .error f
  | .ok (.vacant _ _) => .error (.os .notFound)
  | .ok (.taken loc (.file bytes _)) => (d.refused .read loc).map fun () => bytes
  | .ok (.taken _ (.device v)) =>
    match v.read with
    | .ok bytes => .ok bytes
    | .error e => .error (.os e)
  | .ok (.taken _ _) => .error (.os .isDirectory)

def readText (d : Disk) (p : Path) : Except Fault Text :=
  match d.read p with
  | .error f => .error f
  | .ok bytes =>
    match bytes.text? with
    | some t => .ok t
    | none => .error .notUtf8

/-- Where the file is that a path would create or empty. A link that comes last is followed, also
to where nothing is. -/
def creationSpot (d : Disk) (p : Path) : Except Fault Location :=
  match d.spotFor .create p with
  | .error f => .error f
  | .ok (.vacant dir name) => .ok (dir ++ [name])
  | .ok (.taken loc _) => .ok loc

/-- Creates an empty file, or empties the one that is there. A device takes no notice of it. -/
def create (d : Disk) (p : Path) : Except Fault (Location × Disk) :=
  match d.creationSpot p with
  | .error f => .error f
  | .ok loc =>
    match d.entry? loc with
    | some (.device v) =>
      match v.openFault? with
      | some e => .error (.os e)
      | none => .ok (loc, d)
    | _ => (d.refused .create loc).map fun () => (loc, d.fill loc [])

def writeAt (d : Disk) (loc : Location) (bytes : Bytes) : Except Fault Disk :=
  match d.entry? loc with
  | some (.device v) =>
    match v.writeFault? bytes, v with
    | some e, _ => .error (.os e)
    | none, .stream number => .ok (d.speak number bytes)
    | none, _ => .ok d
  | _ => (d.refused .write loc).map fun () => d.fill loc bytes

/-- Makes sure that the bytes of an open file are kept, as those given to a device never are. -/
def syncAt (d : Disk) (loc : Location) : Except Fault Unit :=
  match d.entry? loc with
  | some (.device _) => .error (.os .invalid)
  | _ => d.refused .sync loc

def write (d : Disk) (p : Path) (bytes : Bytes) : Except Fault Unit × Disk :=
  match d.create p with
  | .error f => (.error f, d)
  | .ok (loc, created) =>
    match created.writeAt loc bytes with
    | .error f => (.error f, created)
    | .ok written => (.ok (), written)

def remove (d : Disk) (p : Path) : Except Fault Disk :=
  match d.holder p, (lastName p).2 with
  | .error f, _ => .error f
  | .ok _, none => .error (.os .isDirectory)
  | .ok dir, some name =>
    if maxNameBytes < name.byteSize then .error (.os .nameTooLong)
    else match d.entry? (dir ++ [name]) with
      | none => .error (.os .notFound)
      | some .directory => .error (.os .isDirectory)
      | some _ =>
        if endsInSeparator p then .error (.os .notDirectory)
        else (d.refused .remove (dir ++ [name])).map fun () => d.drop (dir ++ [name])

def tooLong (loc : Location) : Bool :=
  loc.getLast?.any fun name => maxNameBytes < name.byteSize

/-- Why something may not be moved over what stands at its new place, if it may not. -/
def moveFault? (d : Disk) (source target : Location) (moved : Entry) (separator : Bool) :
    Option Errno :=
  if moved ≠ .directory ∧ separator then some .notDirectory
  else if source = target then none
  else if moved = .directory ∧ isBelow source target then some .invalid
  else if isBelow target source then some .notEmpty
  else match d.entry? target with
    | none => none
    | some .directory =>
      if moved ≠ .directory then some .isDirectory
      else if (d.children target).isEmpty then none
      else some .notEmpty
    | some _ => if moved = .directory then some .notDirectory else none

def renameAt (d : Disk) (source target : Location) (separator : Bool) : Except Fault Disk :=
  if tooLong source then .error (.os .nameTooLong)
  else match d.entry? source with
    | none => .error (.os .notFound)
    | some moved =>
      if tooLong target then .error (.os .nameTooLong)
      else match d.moveFault? source target moved separator with
        | some e => .error (.os e)
        | none =>
          (d.refused .rename source).map fun () =>
            if source = target then d else (d.drop target).moveTree source target

/-- Moves a file, link or directory, in place of what may stand at its new place. -/
def rename (d : Disk) (source target : Path) : Except Fault Disk :=
  if target.text.contains '\x00' then .error .nulInPath
  else match d.holder source, d.holder target with
    | .error f, _ => .error f
    | .ok _, .error f => .error f
    | .ok sourceDir, .ok targetDir =>
      if d.mountOf sourceDir ≠ d.mountOf targetDir then .error (.os .crossDevice)
      else match (lastName source).2, (lastName target).2 with
      | some s, some t =>
        d.renameAt (sourceDir ++ [s]) (targetDir ++ [t])
          (endsInSeparator source || endsInSeparator target)
      | _, _ => .error (.os .busy)

/-! ### Directories -/

def makeDir (d : Disk) (p : Path) : Except Fault Disk :=
  match d.holder p, (lastName p).2 with
  | .error f, _ => .error f
  | .ok _, none => .error (.os .exists)
  | .ok dir, some name =>
    if maxNameBytes < name.byteSize then .error (.os .nameTooLong)
    else match d.entry? (dir ++ [name]) with
      | some _ => .error (.os .exists)
      | none => (d.refused .makeDir (dir ++ [name])).map fun () => d.put (dir ++ [name]) .directory

def makeDirs : Nat → Path → Disk → Except Fault Unit × Disk
  | 0, _, d => (.error (.os .notFound), d)
  | fuel + 1, p, d =>
    if p.components = [] then (.ok (), d)
    else match d.makeDir p with
      | .ok d => (.ok (), d)
      | .error f =>
        if f ≠ .os .notFound then (if d.holdsDirectory p then .ok () else .error f, d)
        else match p.parent? with
          | none => (.error f, d)
          | some parent =>
            match makeDirs fuel parent d with
            | (.error f, d) => (.error f, d)
            | (.ok (), d) =>
              match d.makeDir p with
              | .ok d => (.ok (), d)
              | .error f => (if d.holdsDirectory p then .ok () else .error f, d)

end Manuscript.Disk
