import Manuscript.Shell.Streams

/-!
Programs of the system, and what stands under names.
-/

namespace Manuscript.Shell

namespace System

/-- A program of the system. -/
inductive Program
  | tool (name : String)
  | shell (dialect : Dialect)
  deriving DecidableEq, Repr

def shells : List (String × Dialect) :=
  [("dash", .plain), ("bash", .extended)]

def program? (bytes : Bytes) : Option Program :=
  (Surroundings.programName? bytes).bind fun name =>
    match shells.find? (·.1.toList == name) with
    | some (_, dialect) => some (.shell dialect)
    | none => (Surroundings.tools.find? (·.toList == name)).map .tool

inductive Kind
  | file (size : Nat) (executable : Bool)
  | directory
  | link
  | device
  | pipe
  deriving DecidableEq, Repr

def trimmed (name : Text) : Text :=
  match (name.reverse.dropWhile (· == '/')).reverse with
  | [] => if name.isEmpty then [] else ['/']
  | t => t

def kindOfEntry : Entry → Kind
  | .file bytes executable => .file bytes.length executable
  | .directory => .directory
  | .link _ => .link
  | .device _ => .device

def kindOfStream? (s : State) (n : Nat) : Option Kind :=
  (s.stream? n).map fun
    | .file k =>
      match (s.files.lookup k).bind fun f => s.disk.entry? f.loc with
      | some e => kindOfEntry e
      | none => .file 0 false
    | .sink _ => .pipe
    | .source _ => .pipe
    | _ => .device

def kindOf? (s : State) (follow : Bool) (name : Text) : Option Kind :=
  let path := Octets.path name
  match if follow then s.deviceAt? path else none with
  | some (.stream n) => kindOfStream? s n
  | some _ => some .device
  | none =>
    match s.disk.spot path follow with
    | .ok (.taken _ e) => some (kindOfEntry e)
    | _ => none

/-! ### Looking for programs -/

/-- The parts of the path along which programs are looked for. Without one, the extended dialect
takes names as they are. -/
def searchPath (s : State) : List Text :=
  match s.value? "PATH".toList with
  | some t => Text.splitBy (· == ':') t
  | none => if s.isExtended then [[]] else []

def under (directory name : Text) : Text :=
  if directory.isEmpty then name
  else if directory.getLast? == some '/' then directory ++ name
  else directory ++ '/' :: name

def candidates (s : State) (name : Text) : List Text :=
  (searchPath s).map (under · name)

def isFile (s : State) (path : Text) : Bool :=
  match kindOf? s true path with
  | some (.file ..) => true
  | _ => false

def isProgram (s : State) (path : Text) : Bool :=
  match kindOf? s true path with
  | some (.file _ executable) => executable
  | _ => false

def find? (s : State) (name : Text) : Option Text :=
  (candidates s name).find? (isFile s)

inductive Finding
  | program (path : Text)
  | other (path : Text)
  | nothing
  deriving DecidableEq, Repr

/-- What the name of a command leads to along the search path. The extended dialect takes a file
that cannot be run if there is nothing better. -/
def look (s : State) (name : Text) : Finding :=
  if name.contains '/' then .program name
  else if name.isEmpty then .nothing
  else match (candidates s name).find? (isProgram s) with
    | some path => .program path
    | none =>
      match (candidates s name).find? fun path =>
          if s.isExtended then isFile s path else (kindOf? s true path).isSome with
      | some path => .other path
      | none => .nothing

def path? (s : State) (name : Text) : Option Text :=
  match look s name with
  | .program path => some path
  | _ => none

def usualPath : Dialect → List Text
  | .plain => ["/usr/bin".toList, "/bin".toList]
  | .extended => ["/bin".toList, "/usr/bin".toList]

def usually {α : Type} (s : State) (f : State → α) : α :=
  f (s.setBinding "PATH".toList
    { value := some (.text (Text.joinWith [':'] (usualPath s.dialect))) })

end System

namespace State

/-- What other programs are told about the path to the working directory, if it is right. -/
def exportedPath? (s : State) : Option Text :=
  match s.binding? "PWD".toList with
  | some b =>
    match if b.exported then b.text? else none with
    | some ('/' :: t) =>
      match s.disk.spot (Octets.path ('/' :: t)) true with
      | .ok (.taken loc .directory) => if loc = s.disk.cwd then some ('/' :: t) else none
      | _ => none
    | _ => none
  | none => none

def track (s : State) (count : Nat) (name : Text) : State :=
  if name.contains '/' then s
  else if s.session.tracked.any (·.1 == name) then
    { s with
      session.tracked := s.session.tracked.map fun e =>
        if e.1 == name then (name, e.2.1, e.2.2 + count) else e }
  else match System.path? s name with
    | some path => { s with session.tracked := s.session.tracked ++ [(name, path, count)] }
    | none => s

end State

end Manuscript.Shell
