import Manuscript.Shell.System
import Manuscript.Shell.Tool.Options

/-!
Tools that make and remove files and directories.
-/

namespace Manuscript.Shell.Tool

def forEach (names : List Text) (f : Text → State → State) (s : State) : State :=
  names.foldl (fun s name => f name s) s

def withDisk (s : State) (d : Disk) : State :=
  { s with disk := d }

def trimEnd (name : Text) : Text :=
  System.trimmed name

def lastName (name : Text) : Text :=
  let t := trimEnd name
  if t == ['/'] then t
  else (t.reverse.takeWhile (· != '/')).reverse

def entryAt (s : State) (follow : Bool) (name : Text) : Except Fault (Location × Entry) :=
  match s.disk.spot (Octets.path name) follow with
  | .error f => .error f
  | .ok (.vacant _ _) => .error (.os .notFound)
  | .ok (.taken loc e) => .ok (loc, e)

def namesIn (s : State) (loc : Location) : List Text :=
  ((s.disk.children loc).map fun e => Octets.encode e.1).mergeSort Path.textLe

def consent (question : List Text) (s : State) : Bool × State :=
  let s := s.write 2 ((s.self :: ": ".toList :: question).flatten ++ ['?', ' '])
  let (answer, _, s) := s.takeUntil s.input '\n'
  (answer.head?.any fun c => c == 'y' || c == 'Y', s)

/-! ### Directories -/

def prefixesOf (name : Text) : List Text :=
  let ends := (List.range name.length).filter fun n =>
    name[n]? != some '/' && (name[n + 1]? == some '/' || n + 1 == name.length)
  ends.map fun n => name.take (n + 1)

/-- Creates a directory and those above it that are missing, telling of each if that is asked
for. -/
def makeWay (verbose : Bool) : List Text → State → State
  | [], s => s
  | p :: ps, s =>
    match entryAt s true p with
    | .ok (_, .directory) => makeWay verbose ps s
    | .ok _ =>
      let cause := if ps.isEmpty then Errno.exists else Errno.notDirectory
      failBy ["cannot create directory ".toList, curly p] (.os cause) s
    | .error _ =>
      match s.disk.makeDir (Octets.path p) with
      | .ok d =>
        let s := withDisk s d
        makeWay verbose ps
          (if verbose then s.say [s.self, ": created directory ".toList, quoted p] else s)
      | .error f => failBy ["cannot create directory ".toList, curly p] f s

def mkdir : List Text → State → State :=
  withOptions ⟨"pm:vZ", [("parents", .nothing, 'p'), ("mode", .value, 'm'),
    ("verbose", .nothing, 'v')],
      false, 1⟩ fun os names s =>
    if names.isEmpty then missingOperand 1 s
    else forEach names (fun name s =>
      if isGiven os 'p' then
        if name.isEmpty then
          failBy ["cannot create directory ".toList, curly name] (.os .notFound) s
        else makeWay (isGiven os 'v') (prefixesOf name) s
      else match s.disk.makeDir (Octets.path name) with
        | .ok d =>
          let s := withDisk s d
          if isGiven os 'v' then s.say [s.self, ": created directory ".toList, quoted name] else s
        | .error f => failBy ["cannot create directory ".toList, curly name] f s) s.succeed

def removeDirectory (s : State) (name : Text) : Except Fault Disk :=
  match entryAt s false name with
  | .error f => .error f
  | .ok (loc, .directory) =>
    if lastName name == ['.'] then .error (.os .invalid)
    else if (s.disk.children loc).isEmpty then .ok (s.disk.drop loc) else .error (.os .notEmpty)
  | .ok _ => .error (.os .notDirectory)

def rmdir : List Text → State → State :=
  withOptions ⟨"pv", [("parents", .nothing, 'p'), ("verbose", .nothing, 'v'),
      ("ignore-fail-on-non-empty", .nothing, 'i')], false, 1⟩ fun os names s =>
    if names.isEmpty then missingOperand 1 s
    else
      let one (name : Text) (s : State) : State :=
        let s := if isGiven os 'v' then s.say [s.self, ": removing directory, ".toList, quoted name]
          else s
        match removeDirectory s name with
        | .ok d => withDisk s d
        | .error f =>
          if isGiven os 'i' && f = .os .notEmpty then s
          else failBy ["failed to remove ".toList, quoted name] f s
      forEach names (fun name s =>
        if isGiven os 'p' then forEach (prefixesOf name).reverse one s else one name s) s.succeed

/-! ### Files -/

def touch : List Text → State → State :=
  withOptions ⟨"acd:fhmr:t:", [("no-create", .nothing, 'c'), ("date", .value, 'd'),
      ("no-dereference", .nothing, 'h'), ("reference", .value, 'r'), ("time", .value, 'T')],
      false, 1⟩ fun os names s =>
    if names.isEmpty then hint 1 (complain ["missing file operand".toList] s)
    else forEach names (fun name s =>
      if (System.kindOf? s true name).isSome then s
      else if isGiven os 'c' then s
      else match s.openNamed .append name with
        | .ok (_, s) => s
        | .error f =>
          if f = .os .isDirectory then
            failBy ["setting times of ".toList, quoted name]
              (.os (if (entryAt s true (trimEnd name)).isOk then .notDirectory else .notFound)) s
          else failBy ["cannot touch ".toList, quoted name] f s) s.succeed

structure Removal where
  force : Bool
  whole : Bool
  empties : Bool
  asks : Bool
  verbose : Bool

def Removal.consent (r : Removal) (question : List Text) (s : State) : Bool × State :=
  if r.asks then Tool.consent question s else (true, s)

def entryKind : Entry → Text
  | .directory => "directory".toList
  | .link _ => "symbolic link".toList
  | .device _ => "character special file".toList
  | .file bytes _ => (if bytes.isEmpty then "regular empty file" else "regular file").toList

def Removal.file (r : Removal) (name : Text) (loc : Location) (e : Entry) (s : State) : State :=
  let (allowed, s) := r.consent ["remove ".toList, entryKind e, [' '], quoted name] s
  if !allowed then s
  else
    let s := withDisk s (s.disk.drop loc)
    if r.verbose then s.say ["removed ".toList, quoted name] else s

def Removal.emptied (r : Removal) (name : Text) (loc : Location) (s : State) : State :=
  let (allowed, s) := r.consent ["remove directory ".toList, quoted name] s
  if !allowed then s
  else if !(s.disk.children loc).isEmpty then
    failBy ["cannot remove ".toList, quoted name] (.os .notEmpty) s
  else
    let s := withDisk s (s.disk.drop loc)
    if r.verbose then s.say ["removed directory ".toList, quoted name] else s

def Removal.tree (r : Removal) : Nat → Text → Location → State → State
  | 0, _, _, s => s
  | fuel + 1, name, loc, s =>
    let children := s.disk.children loc
    let (allowed, s) := if children.isEmpty then (true, s)
      else r.consent ["descend into directory ".toList, quoted name] s
    if !allowed then s
    else
      let s := children.foldl (fun s (child, e) =>
        let below := loc ++ [child]
        let childName := name ++ '/' :: Octets.encode child
        match e with
        | .directory => r.tree fuel childName below s
        | e => r.file childName below e s) s
      if r.asks && !(s.disk.children loc).isEmpty then s else r.emptied name loc s

def isDotOrDots (name : Text) : Bool :=
  lastName name == ['.'] || lastName name == ['.', '.']

def Removal.run (r : Removal) (name : Text) (s : State) : State :=
  match entryAt s false name with
  | .error f =>
    if r.force && (f = .os .notFound || f = .os .notDirectory) then s
    else failBy ["cannot remove ".toList, quoted name] f s
  | .ok (loc, .directory) =>
    if r.whole then
      if isDotOrDots name then
        failWith ["refusing to remove '.' or '..' directory: skipping ".toList, quoted name] s
      else r.tree 1000 (if trimEnd name == ['/'] then [] else name) loc s
    else if r.empties then r.emptied name loc s
    else failBy ["cannot remove ".toList, quoted name] (.os .isDirectory) s
  | .ok (loc, e) => r.file name loc e s

def rm : List Text → State → State :=
  withOptions ⟨"dfirvIR", [("force", .nothing, 'f'), ("recursive", .nothing, 'r'),
      ("verbose", .nothing, 'v'), ("dir", .nothing, 'd'), ("interactive", .maybe, 'i'),
      ("one-file-system", .nothing, 'x'), ("preserve-root", .maybe, 'x'),
      ("no-preserve-root", .nothing, 'x')], false, 1⟩ fun os names s =>
    let last := lastOf? os ['f', 'i', 'I']
    let r : Removal :=
      ⟨last == some 'f', isGiven os 'r' || isGiven os 'R', isGiven os 'd', last == some 'i',
        isGiven os 'v'⟩
    let n := names.length
    let once := last == some 'I' && (3 < n || (r.whole && 0 < n))
    let question := ["remove ".toList, Text.ofNat n,
      (if n = 1 then " argument" else " arguments").toList,
      (if r.whole then " recursively" else "").toList]
    let (allowed, s) := if once then consent question s else (true, s)
    if !allowed then s.succeed
    else if names.isEmpty then if r.force then s.succeed else missingOperand 1 s
    else forEach names r.run s.succeed

def unlink : List Text → State → State :=
  withOptions ⟨"", [], false, 1⟩ fun _ names s =>
    match names with
    | [] => missingOperand 1 s
    | [name] =>
      match s.disk.remove (Octets.path name) with
      | .ok d => (withDisk s d).succeed
      | .error f => failBy ["cannot unlink ".toList, quoted name] f s
    | _ :: extra :: _ => extraOperand extra 1 s

end Manuscript.Shell.Tool
