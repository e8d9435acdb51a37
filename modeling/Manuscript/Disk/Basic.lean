import Manuscript.Path

/-!
The tree of files that a program works on, as a value.

A location is the list of names from the root down. The tree holds files with
their bytes, directories, links and devices; the root is a directory and is not
listed. A disk may refuse an access at a location for a reason of its own; a
refused access changes nothing.
-/

namespace Manuscript

abbrev Bytes := List UInt8

namespace Bytes

def ofText (t : Text) : Bytes :=
  (String.ofList t).toUTF8.data.toList

def text? (b : Bytes) : Option Text :=
  (String.fromUTF8? ⟨b.toArray⟩).map String.toList

end Bytes

/-- What the system answers instead of doing what it was asked. -/
inductive Errno
  | notFound
  | ioFailure
  | noDevice
  | badFormat
  | badDescriptor
  | noMemory
  | permission
  | busy
  | exists
  | crossDevice
  | notDirectory
  | isDirectory
  | invalid
  | noSpace
  | nameTooLong
  | notEmpty
  | loop
  deriving DecidableEq, Repr

namespace Errno

def code : Errno → Nat
  | notFound => 2
  | ioFailure => 5
  | noDevice => 6
  | badFormat => 8
  | badDescriptor => 9
  | noMemory => 12
  | permission => 13
  | busy => 16
  | «exists» => 17
  | crossDevice => 18
  | notDirectory => 20
  | isDirectory => 21
  | invalid => 22
  | noSpace => 28
  | nameTooLong => 36
  | notEmpty => 39
  | loop => 40

def text : Errno → String
  | notFound => "No such file or directory"
  | ioFailure => "Input/output error"
  | noDevice => "No such device or address"
  | badFormat => "Exec format error"
  | badDescriptor => "Bad file descriptor"
  | noMemory => "Cannot allocate memory"
  | permission => "Permission denied"
  | busy => "Device or resource busy"
  | «exists» => "File exists"
  | crossDevice => "Invalid cross-device link"
  | notDirectory => "Not a directory"
  | isDirectory => "Is a directory"
  | invalid => "Invalid argument"
  | noSpace => "No space left on device"
  | nameTooLong => "File name too long"
  | notEmpty => "Directory not empty"
  | loop => "Too many levels of symbolic links"

end Errno

inductive Fault
  | os (e : Errno)
  | notUtf8
  | nulInPath
  deriving DecidableEq, Repr

def Fault.message : Fault → String
  | .os e => String.join [e.text, " (os error ", toString e.code, ")"]
  | .notUtf8 => "stream did not contain valid UTF-8"
  | .nulInPath => "file name contained an unexpected NUL byte"

/-- The names from the root down. -/
abbrev Location := List Text

/-- What gives bytes and takes them, but keeps none. -/
inductive Device
  | null
  | zeros
  /-- Gives zero bytes without end, and has no room for anything. -/
  | full
  | terminal
  | stream (number : Nat)
  deriving DecidableEq, Repr

namespace Device

def openFault? : Device → Option Errno
  | terminal => some .noDevice
  | _ => none

/-- Everything that a device gives. What has no end fits in no memory. -/
def read : Device → Except Errno Bytes
  | null => .ok []
  | stream _ => .ok []
  | terminal => .error .noDevice
  | zeros => .error .noMemory
  | full => .error .noMemory

def writeFault? (bytes : Bytes) : Device → Option Errno
  | full => if bytes = [] then none else some .noSpace
  | _ => none

end Device

inductive Entry
  | file (bytes : Bytes) (executable : Bool)
  | directory
  | link (target : Path)
  | device (d : Device)
  deriving DecidableEq, Repr

inductive Access
  | read
  | create
  | write
  | sync
  | makeDir
  | rename
  | remove
  deriving DecidableEq, Repr

structure Disk where
  entries : List (Location × Entry)
  /-- The working directory, from which relative paths start. -/
  cwd : Location
  refuses : Access → Location → Option Errno := fun _ _ => none
  /-- Where parts of the tree begin to and from which nothing can be moved. -/
  mounts : List Location := []
  /-- What was written to the streams of the program, by their numbers, in order. -/
  spoken : List (Nat × Bytes) := []

namespace Disk

/-- The directories on the way down to a location, and the one there. -/
def wayTo (loc : Location) : List (Location × Entry) :=
  (List.range loc.length).map fun n => (loc.take (n + 1), .directory)

def ofTree (cwd : Location) (below : List (Location × Entry)) : Disk :=
  { entries := wayTo cwd ++ below, cwd }

def entry? (d : Disk) : Location → Option Entry
  | [] => some .directory
  | loc => d.entries.lookup loc

def file? (d : Disk) (loc : Location) : Option Bytes :=
  match d.entry? loc with
  | some (.file bytes _) => some bytes
  | _ => none

/-- The entry at a location replaced, or added after all others. -/
def putIn (loc : Location) (e : Entry) : List (Location × Entry) → List (Location × Entry)
  | [] => [(loc, e)]
  | (l, old) :: rest => if l = loc then (loc, e) :: rest else (l, old) :: putIn loc e rest

def put (d : Disk) (loc : Location) (e : Entry) : Disk :=
  { d with entries := putIn loc e d.entries }

def drop (d : Disk) (loc : Location) : Disk :=
  { d with entries := d.entries.filter (·.1 ≠ loc) }

def isAtOrBelow (top loc : Location) : Bool :=
  top.isPrefixOf loc

def isBelow (top loc : Location) : Bool :=
  top.isPrefixOf loc && loc.length != top.length

def dropTree (d : Disk) (loc : Location) : Disk :=
  { d with entries := d.entries.filter fun e => !isAtOrBelow loc e.1 }

/-- The location that another one has once everything at or below a location was moved. -/
def afterMove (source target l : Location) : Location :=
  if isAtOrBelow source l then target ++ l.drop source.length else l

/-- Everything at or below a location, moved to another one. The working directory goes along. -/
def moveTree (d : Disk) (source target : Location) : Disk :=
  { d with
    entries := d.entries.map fun (l, e) => (afterMove source target l, e)
    cwd := afterMove source target d.cwd }

def children (d : Disk) (loc : Location) : List (Text × Entry) :=
  d.entries.filterMap fun (l, e) =>
    if l.length = loc.length + 1 ∧ loc.isPrefixOf l then l.getLast?.map (·, e) else none

def fill (d : Disk) (loc : Location) (bytes : Bytes) : Disk :=
  match d.entry? loc with
  | some (.file _ executable) => d.put loc (.file bytes executable)
  | _ => d.put loc (.file bytes false)

def speak (d : Disk) (number : Nat) (bytes : Bytes) : Disk :=
  { d with spoken := d.spoken ++ [(number, bytes)] }

def said (d : Disk) (number : Nat) : Bytes :=
  (d.spoken.filter (·.1 == number)).flatMap (·.2)

/-- Where the part of the tree begins that a location lies in. -/
def mountOf (d : Disk) (loc : Location) : Location :=
  (d.mounts.filter (isAtOrBelow · loc)).foldl
    (fun m n => if m.length < n.length then n else m) []

/-! ### Finding the place of a path -/

/-- Where a path leads: to an entry, or to a name that a directory does not hold. -/
inductive Spot
  | taken (loc : Location) (e : Entry)
  | vacant (directory : Location) (name : Text)
  deriving DecidableEq, Repr

def maxLinks : Nat := 40

def maxNameBytes : Nat := 255

def maxPathBytes : Nat := 4095

/-- The names of a path between its separators, with those that stand for places. -/
def names (p : Path) : List Text :=
  p.parts.filter (· ≠ [])

def endsInSeparator (p : Path) : Bool :=
  p.text.getLast? == some '/'

def startOf (base : Location) (p : Path) : Location :=
  if p.isAbsolute then [] else base

inductive Purpose
  /-- To come to what it leads to; a link that comes last may be meant itself. -/
  | reach (followLast : Bool)
  /-- To create or to empty a file, which no directory is. -/
  | create
  deriving DecidableEq, Repr

/-- Goes down from a directory. A link on the way is given to `follow` with the names behind it.
A path that is closed by a separator asks for a directory. -/
def descend (d : Disk) (purpose : Purpose) (closed : Bool)
    (follow : Location → Path → List Text → Except Errno Spot) :
    Location → List Text → Except Errno Spot
  | loc, [] =>
    if purpose = .create then .error .isDirectory
    else .ok (.taken loc ((d.entry? loc).getD .directory))
  | loc, name :: rest =>
    if name = ['.'] then descend d purpose closed follow loc rest
    else if name = ['.', '.'] then descend d purpose closed follow loc.dropLast rest
    else if purpose = .create ∧ closed ∧ rest = [] then .error .isDirectory
    else if maxNameBytes < name.byteSize then .error .nameTooLong
    else match d.entry? (loc ++ [name]) with
      | none => if rest = [] then .ok (.vacant loc name) else .error .notFound
      | some .directory => descend d purpose closed follow (loc ++ [name]) rest
      | some (.link target) =>
        if rest = [] ∧ purpose = .reach false ∧ !closed then
          .ok (.taken (loc ++ [name]) (.link target))
        else follow loc target rest
      | some e =>
        if rest = [] ∧ !closed then .ok (.taken (loc ++ [name]) e) else .error .notDirectory

/-- Goes down with at most the given number of links. The target of one that comes last may be
closed, too. -/
def walk (d : Disk) (purpose : Purpose) :
    Nat → Bool → Location → List Text → Except Errno Spot
  | 0, closed, loc, ns => descend d purpose closed (fun _ _ _ => .error .loop) loc ns
  | links + 1, closed, loc, ns =>
    descend d purpose closed
      (fun dir target rest =>
        if target.text = [] then .error .notFound
        else walk d purpose links (closed || (rest = [] && endsInSeparator target))
          (startOf dir target) (names target ++ rest))
      loc ns

def usable (p : Path) : Except Fault Unit :=
  if p.text.contains '\x00' then .error .nulInPath
  else if p.text = [] then .error (.os .notFound)
  else if maxPathBytes < p.text.byteSize then .error (.os .nameTooLong)
  else .ok ()

def walkNames (d : Disk) (p : Path) (purpose : Purpose) (closed : Bool) (ns : List Text) :
    Except Fault Spot :=
  match walk d purpose maxLinks closed (startOf d.cwd p) ns with
  | .ok s => .ok s
  | .error e => .error (.os e)

def spotFor (d : Disk) (purpose : Purpose) (p : Path) : Except Fault Spot :=
  match usable p with
  | .error f => .error f
  | .ok () => walkNames d p purpose (endsInSeparator p) (names p)

/-- Where a path leads. A separator at its end asks for a directory. -/
def spot (d : Disk) (p : Path) (followLast : Bool) : Except Fault Spot :=
  d.spotFor (.reach followLast) p

/-! ### Questions -/

/-- What a path leads to through all links, if it leads to anything. -/
def at? (d : Disk) (p : Path) : Option (Location × Entry) :=
  match d.spot p true with
  | .ok (.taken loc e) => some (loc, e)
  | _ => none

def holds (d : Disk) (p : Path) : Bool :=
  (d.at? p).isSome

def holdsFile (d : Disk) (p : Path) : Bool :=
  match d.at? p with
  | some (_, .file ..) => true
  | _ => false

def holdsDirectory (d : Disk) (p : Path) : Bool :=
  match d.at? p with
  | some (_, .directory) => true
  | _ => false

def fileSize? (d : Disk) (p : Path) : Option Nat :=
  match d.at? p with
  | some (_, .file bytes _) => some bytes.length
  | _ => none

def absolute (loc : Location) : Path :=
  ⟨'/' :: Text.joinWith ['/'] loc⟩

/-- The path from the root, without links, of what a path leads to. -/
def canonical? (d : Disk) (p : Path) : Option Path :=
  (d.at? p).map fun (loc, _) => absolute loc

end Disk

end Manuscript
