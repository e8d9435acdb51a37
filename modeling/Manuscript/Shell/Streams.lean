import Manuscript.Disk.Surroundings
import Manuscript.Shell.Digits
import Manuscript.Shell.State

/-!
Reading from streams and writing to them.

A command that reads something endless is given as much as is taken for all of
it. A reader that uses up a supply which was cut off is starved, and what it made
of it does not count.
-/

namespace Manuscript.Shell

namespace State

/-! ### What a stream leads to -/

def stream? (s : State) (n : Nat) : Option Handle :=
  s.session.streams.lookup n

def setStream (s : State) (n : Nat) (h : Handle) : State :=
  { s with session.streams := (n, h) :: s.session.streams.filter (·.1 ≠ n) }

def closeStream (s : State) (n : Nat) : State :=
  { s with session.streams := s.session.streams.filter (·.1 ≠ n) }

def input (s : State) : Handle :=
  (s.stream? 0).getD .nothing

/-! ### Numbered things -/

def replaceIn {α : Type} (n : Nat) (a : α) (l : List (Nat × α)) : List (Nat × α) :=
  (n, a) :: l.filter (·.1 ≠ n)

def addFile (s : State) (f : OpenFile) : Handle × State :=
  (.file s.nextNumber,
    { s with files := (s.nextNumber, f) :: s.files, nextNumber := s.nextNumber + 1 })

def addSink (s : State) (limit : Option Nat) : Nat × State :=
  (s.nextNumber,
    { s with
      sinks := (s.nextNumber, { limit }) :: s.sinks, nextNumber := s.nextNumber + 1 })

def addSupply (s : State) (k : Supply) : Handle × State :=
  (.source s.nextNumber,
    { s with supplies := (s.nextNumber, k) :: s.supplies, nextNumber := s.nextNumber + 1 })

def sink (s : State) (n : Nat) : Sink :=
  (s.sinks.lookup n).getD {}

def dropSink (s : State) (n : Nat) : State :=
  { s with sinks := s.sinks.filter (·.1 ≠ n) }

/-! ### Writing -/

def overwritten (old : Bytes) (position : Nat) (bytes : Bytes) : Bytes :=
  if position = old.length then old ++ bytes
  else old.take position ++ List.replicate (position - old.length) 0 ++ bytes ++
    old.drop (position + bytes.length)

def emit (s : State) (h : Handle) (t : Text) : State :=
  if t.isEmpty then s
  else match h with
    | .nothing => s
    | .zeros => s
    | .full => { s with unwritten := some .noSpace }
    | .source _ => { s with unwritten := some .badDescriptor }
    | .sink n =>
      let k := s.sink n
      if k.broken then { s with unread := true }
      else
        let size := k.size + t.length
        match k.limit with
        | some limit =>
          if limit < size then
            let k := { k with pieces := t.take (limit - k.size) :: k.pieces, size, broken := true }
            { s with sinks := replaceIn n k s.sinks, unread := true }
          else { s with sinks := replaceIn n { k with pieces := t :: k.pieces, size } s.sinks }
        | none => { s with sinks := replaceIn n { k with pieces := t :: k.pieces, size } s.sinks }
    | .file n =>
      match s.files.lookup n with
      | none => { s with unwritten := some .badDescriptor }
      | some f =>
        match if f.writes then s.disk.file? f.loc else none with
        | none => if f.writes then s else { s with unwritten := some .badDescriptor }
        | some old =>
          let position := if f.appends then old.length else f.position
          let bytes := Octets.toBytes t
          match s.disk.writeAt f.loc (overwritten old position bytes) with
          | .error (.os e) => { s with unwritten := some e }
          | .error _ => s
          | .ok disk =>
            { s with
              disk
              files := replaceIn n { f with position := position + bytes.length } s.files }

/-- Writes bytes to where a handle leads, and tells why that failed. -/
def tryEmit (s : State) (h : Handle) (t : Text) : Option Errno × State :=
  let after := { s with unwritten := none }.emit h t
  (after.unwritten, { after with unwritten := s.unwritten })

def write (s : State) (n : Nat) (t : Text) : State :=
  match s.stream? n with
  | some h => s.emit h t
  | none => if t.isEmpty then s else { s with unwritten := some .badDescriptor }

def out (s : State) (t : Text) : State :=
  s.write 1 t

def say (s : State) (message : List Text) : State :=
  s.write 1 (message.flatten ++ ['\n'])

/-- Writes a line made of texts to the stream for complaints. What goes wrong with that is nobody's
concern. -/
def tell (s : State) (message : List Text) : State :=
  { s.write 2 (message.flatten ++ ['\n']) with unwritten := s.unwritten }

def place (s : State) : Text :=
  let line := Text.ofNat s.session.line
  let named := match s.session.command with
    | some c => c ++ ": ".toList
    | none => []
  match s.dialect with
  | .plain => s.session.name ++ ": ".toList ++ line ++ ": ".toList ++ named
  | .extended =>
    s.session.source.getD s.session.name ++ ": ".toList ++ s.session.reading ++
      "line ".toList ++ line ++ ": ".toList ++ named

def warn (s : State) (message : List Text) : State :=
  s.tell (s.place :: message)

/-- A fault on which the shell gives up, unless a command of its own is at work that may fail. -/
def abort (s : State) (message : List Text) : State :=
  ((s.warn message).setStatus (if s.isExtended then 1 else 2)).jump .abort

/-! ### Reading -/

def takeAllOf (s : State) (h : Handle) : Text × State :=
  match h with
  | .nothing => ([], s)
  | .sink _ => ([], s)
  | .zeros => (List.replicate (s.patience + 1) '\x00', { s with endless := true })
  | .full => (List.replicate (s.patience + 1) '\x00', { s with endless := true })
  | .source n =>
    match s.supplies.lookup n with
    | none => ([], s)
    | some k =>
      (k.rest, { s with
        supplies := replaceIn n { k with rest := [] } s.supplies
        starved := if k.cut then n :: s.starved else s.starved })
  | .file n =>
    match s.files.lookup n with
    | none => ([], s)
    | some f =>
      let bytes := if f.reads then ((s.disk.file? f.loc).getD []).drop f.position else []
      (Octets.ofBytes bytes,
        { s with files := replaceIn n { f with position := f.position + bytes.length } s.files })

def pending (s : State) (h : Handle) : Text × Bool :=
  match h with
  | .source n =>
    match s.supplies.lookup n with
    | none => ([], false)
    | some k => (k.rest, k.cut)
  | .file n =>
    match s.files.lookup n with
    | none => ([], false)
    | some f =>
      let bytes := if f.reads then ((s.disk.file? f.loc).getD []).drop f.position else []
      (Octets.ofBytes bytes, false)
  | _ => ([], false)

def advance (s : State) (h : Handle) (count : Nat) : State :=
  match h with
  | .source n =>
    match s.supplies.lookup n with
    | none => s
    | some k => { s with supplies := replaceIn n { k with rest := k.rest.drop count } s.supplies }
  | .file n =>
    match s.files.lookup n with
    | none => s
    | some f => { s with files := replaceIn n { f with position := f.position + count } s.files }
  | _ => s

/-- Notes that a supply is used up which was cut off. -/
def starve (s : State) (h : Handle) (cut : Bool) : State :=
  match h, cut with
  | .source n, true => { s with starved := n :: s.starved }
  | _, _ => s

def blockSize : Nat := 8192

/-- The first part of what is left to read, where a function tells how many bytes it has, if it is
complete. Of a file no more is read than that; of a pipe, whole blocks. -/
def takePart (s : State) (h : Handle) (measure : Text → Option Nat) : Text × State :=
  let (t, cut) := s.pending h
  match measure t with
  | some n =>
    let taken := match h with
      | .source _ => (n + blockSize - 1) / blockSize * blockSize
      | _ => n
    (t.take n, s.advance h taken)
  | none => (t, (s.advance h t.length).starve h cut)

def takeBytes (s : State) (h : Handle) (count : Nat) : Text × State :=
  match h with
  | .zeros => (List.replicate count '\x00', s)
  | .full => (List.replicate count '\x00', s)
  | h => s.takePart h fun t => if count ≤ t.length then some count else none

/-- The length of the first lines of a text, if it has that many; some characters have been counted
before. -/
def lengthOfLines? (lineEnd : Char) (counted : Nat) : Nat → Text → Option Nat
  | 0, _ => some counted
  | _, [] => none
  | n + 1, c :: rest => lengthOfLines? lineEnd (counted + 1) (if c = lineEnd then n else n + 1) rest

/-- What comes before the next of some character, and whether there is one. Nothing behind it is
read. -/
def takeUntil (s : State) (h : Handle) (c : Char) : Text × Bool × State :=
  let (t, cut) := s.pending h
  let line := t.takeWhile (· != c)
  let ended := line.length < t.length
  (line, ended, (s.advance h (line.length + 1)).starve h (cut && !ended))

/-! ### Opening files -/

inductive OpenMode
  | read
  | write
  | append
  | both
  deriving DecidableEq, Repr

/-- The device that a path leads to. The streams of a shell stand where those of the program do. -/
def deviceAt? (s : State) (p : Path) : Option Device :=
  match s.disk.spot p true with
  | .ok (.taken _ (.device v)) => some v
  | .ok (.vacant dir name) =>
    if dir = Surroundings.streamDirectory && name.length ≤ 4 && name.all Char.isDigit then
      some (.stream (Digits.valueIn 10 name))
    else none
  | _ => none

def reopen (s : State) (mode : OpenMode) (loc : Location) : Handle × State :=
  let disk := if mode = OpenMode.write then s.disk.fill loc [] else s.disk
  { s with disk }.addFile
    ⟨loc, 0, mode = OpenMode.append, mode = OpenMode.read || mode = OpenMode.both,
      mode ≠ OpenMode.read⟩

def openDevice (s : State) (mode : OpenMode) : Device → Except Fault (Handle × State)
  | .null => .ok (.nothing, s)
  | .zeros => .ok (.zeros, s)
  | .full => .ok (.full, s)
  | .terminal => .error (.os .noDevice)
  | .stream n =>
    match s.stream? n with
    | none => .error (.os .notFound)
    | some (.file k) =>
      match s.files.lookup k with
      | some f =>
        .ok (if (s.disk.file? f.loc).isSome then s.reopen mode f.loc else (.file k, s))
      | none => .ok (.file k, s)
    | some h => .ok (h, s)

def openNamed (s : State) (mode : OpenMode) (name : Text) : Except Fault (Handle × State) :=
  let path := Octets.path name
  match s.deviceAt? path with
  | some v => s.openDevice mode v
  | none =>
    match mode with
    | .read =>
      match s.disk.spot path true with
      | .error f => .error f
      | .ok (.vacant _ _) => .error (.os .notFound)
      | .ok (.taken loc (.file ..)) => (s.disk.refused .read loc).map fun () => s.reopen mode loc
      | .ok (.taken _ _) => .ok (.nothing, s)
    | .write => (s.disk.create path).map fun (loc, disk) => { s with disk }.reopen .write loc
    | mode =>
      (s.disk.creationSpot path).bind fun loc =>
        match s.disk.file? loc with
        | some _ => .ok (s.reopen mode loc)
        | none => (s.disk.create path).map fun (loc, disk) => { s with disk }.reopen mode loc

/-- The whole contents under a name; a device that has no end gives as much as is taken for it. -/
def contents (s : State) (name : Text) : Except Fault (Text × State) :=
  let path := Octets.path name
  match s.deviceAt? path with
  | some v => (s.openDevice .read v).map fun (h, s) => s.takeAllOf h
  | none => (s.disk.read path).map fun bytes => (Octets.ofBytes bytes, s)

end State

end Manuscript.Shell
