import Manuscript.Shell.Tool.Files

/-!
Tools that tell what there is: the names in directories, where links lead, the
parts of paths.
-/

namespace Manuscript.Shell.Tool

/-! ### Names in directories -/

abbrev Listed := Text × Option Entry

def classifier (os : List GivenOption) (e : Option Entry) : Text :=
  match e with
  | some .directory => if isGiven os 'F' || isGiven os 'p' then ['/'] else []
  | some (.link _) => if isGiven os 'F' then ['@'] else []
  | some (.file _ true) => if isGiven os 'F' then ['*'] else []
  | _ => []

def sizeOf : Option Entry → Nat
  | some (.file bytes _) => bytes.length
  | some (.link target) => (Octets.encode target.text).length
  | some .directory => 4096
  | some (.device _) => 0
  | none => 0

def details (e : Option Entry) : Text :=
  let rights := match e with
    | some .directory => "drwxr-xr-x"
    | some (.link _) => "lrwxrwxrwx"
    | some (.file _ true) => "-rwxr-xr-x"
    | some (.device _) => "crw-rw-rw-"
    | _ => "-rw-r--r--"
  rights.toList ++ " 1 root root ".toList ++ Text.ofNat (sizeOf e) ++ " Jan  1 00:00 ".toList

def shownList (os : List GivenOption) (l : List Listed) : Text :=
  let shown (x : Listed) : Text :=
    let name := if isGiven os 'Q' then '"' :: x.1 ++ ['"'] else x.1
    let long := isGiven os 'l' || isGiven os 'n' || isGiven os 'o' || isGiven os 'g'
    let arrow := match x.2 with
      | some (.link target) => if long then " -> ".toList ++ Octets.encode target.text else []
      | _ => []
    (if long then details x.2 else []) ++ name ++ classifier os x.2 ++ arrow
  if isGiven os 'm' then
    if l.isEmpty then [] else Text.joinWith ", ".toList (l.map shown) ++ ['\n']
  else unlines (l.map shown)

def ordered (os : List GivenOption) (l : List Listed) : List Listed :=
  let byName := if isGiven os 'U' || isGiven os 'f' then l
    else l.mergeSort fun a b => Path.textLe a.1 b.1
  let sorted := if isGiven os 'S' then byName.mergeSort fun a b => sizeOf b.2 ≤ sizeOf a.2
    else byName
  if isGiven os 'r' then sorted.reverse else sorted

/-- What is listed for a directory. -/
def within (os : List GivenOption) (loc : Location) (s : State) : List Listed :=
  let all := (s.disk.children loc).map fun (n, e) => (Octets.encode n, some e)
  let dots : List Listed := [(['.'], some .directory), (['.', '.'], some .directory)]
  let every := isGiven os 'a' || isGiven os 'f'
  let shown := if every then dots ++ all
    else if isGiven os 'A' then all
    else all.filter fun x => x.1.head? != some '.'
  ordered os shown

def listDirectory (os : List GivenOption) : Nat → Bool → Text → Location → State → State
  | 0, _, _, _, s => s
  | fuel + 1, header, name, loc, s =>
    let s := if header then s.out (name ++ ":\n".toList) else s
    let l := within os loc s
    let s := if isGiven os 'l' then s.out "total 0\n".toList else s
    let s := s.out (shownList os l)
    if isGiven os 'R' then
      let directories := l.filter fun x =>
        x.2 == some .directory && x.1 != ['.'] && x.1 != ['.', '.']
      directories.foldl (fun s x =>
        listDirectory os fuel true (System.under name x.1) (loc ++ [Octets.decode x.1])
          (s.out ['\n'])) s
    else s

def ls : List Text → State → State :=
  withOptions ⟨"abcdfghiklmnopqrstuvw:xABCDFGHI:LNQRST:UXZ1", [("all", .nothing, 'a'),
      ("almost-all", .nothing, 'A'), ("directory", .nothing, 'd'), ("recursive", .nothing, 'R'),
      ("reverse", .nothing, 'r'), ("classify", .maybe, 'F'), ("size", .nothing, 's'),
      ("color", .maybe, '1'), ("inode", .nothing, 'i'), ("human-readable", .nothing, 'h'),
      ("dereference", .nothing, 'L'), ("quote-name", .nothing, 'Q'), ("format", .value, '1'),
      ("sort", .value, '1'), ("group-directories-first", .nothing, '1')], false, 2⟩
    fun os names s =>
      let s := s.succeed
      let names := if names.isEmpty then [['.']] else names
      let long := isGiven os 'l' || isGiven os 'F' || isGiven os 'd'
      let (found, s) := names.foldl (fun (found, s) name =>
        match entryAt s (!long || isGiven os 'L') name, entryAt s false name with
        | .ok (loc, e), _ => ((name, loc, some e) :: found, s)
        | .error _, .ok (loc, e) => ((name, loc, some e) :: found, s)
        | .error f, .error _ =>
          match System.kindOf? s true name with
          | some .directory => ((name, [], some Entry.directory) :: found, s)
          | some _ => ((name, [], none) :: found, s)
          | none =>
            (found, (failBy ["cannot access ".toList, quoted name] f s).setStatus 2))
        (([], s) : List (Text × Location × Option Entry) × State)
      let isDirectory (x : Text × Location × Option Entry) : Bool :=
        x.2.2 == some .directory && !isGiven os 'd'
      let files := ordered os ((found.filter (!isDirectory ·)).map fun x => (x.1, x.2.2))
      let directories := (found.filter isDirectory).mergeSort fun a b => Path.textLe a.1 b.1
      let directories := if isGiven os 'r' then directories.reverse else directories
      let s := s.out (shownList os files)
      let header := 1 < names.length || isGiven os 'R'
      let (s, _) := directories.foldl (fun (s, apart) x =>
        let s := if apart then s.out ['\n'] else s
        (listDirectory os 1000 header x.1 x.2.1 s, true)) (s, !files.isEmpty)
      s

/-! ### Paths -/

/-- The text without links of a path, of which all, all but the last, or no names have to be
there. -/
def resolved (s : State) (last others : Bool) (name : Text) : Except Fault Text :=
  let shown (loc : Location) : Text := Octets.encode (Disk.absolute loc).text
  match s.disk.spot (Octets.path name) true with
  | .ok (.taken loc _) => .ok (shown loc)
  | .ok (.vacant dir n) =>
    if (System.kindOf? s true name).isSome then .ok (trimEnd name)
    else if last then .error (.os .notFound)
    else .ok (shown (dir ++ [n]))
  | .error f =>
    if (System.kindOf? s true name).isSome then .ok (trimEnd name)
    else if others then .error f
    else
      let base := if name.head? == some '/' then [] else s.disk.cwd
      .ok (shown ((Disk.names (Octets.path name)).foldl (fun loc n =>
        if n == ['.'] then loc else if n == ['.', '.'] then loc.dropLast else loc ++ [n]) base))

def readlink : List Text → State → State :=
  withOptions ⟨"efmnqsvz", [("canonicalize", .nothing, 'f'),
    ("canonicalize-existing", .nothing, 'e'),
      ("canonicalize-missing", .nothing, 'm'), ("no-newline", .nothing, 'n'),
      ("quiet", .nothing, 'q'), ("silent", .nothing, 's'), ("verbose", .nothing, 'v'),
      ("zero", .nothing, 'z')], false, 1⟩ fun os names s =>
    if names.isEmpty then missingOperand 1 s
    else
      let ending : Text := if isGiven os 'z' then ['\x00']
        else if isGiven os 'n' && names.length = 1 then [] else ['\n']
      forEach names (fun name s =>
        let result : Except Fault Text := match lastOf? os ['e', 'f', 'm'] with
          | some c => resolved s (c == 'e') (c != 'm') name
          | none =>
            match entryAt s false name with
            | .ok (_, .link target) => .ok (Octets.encode target.text)
            | .ok _ => .error (.os .invalid)
            | .error f => .error f
        match result with
        | .ok t => s.out (t ++ ending)
        | .error f => if isGiven os 'v' then failBy [named name] f s else s.fail) s.succeed

def realpath : List Text → State → State :=
  withOptions ⟨"eLmPqsz", [("canonicalize-existing", .nothing, 'e'),
      ("canonicalize-missing", .nothing, 'm'), ("quiet", .nothing, 'q'), ("strip", .nothing, 's'),
      ("relative-to", .value, 'r'), ("zero", .nothing, 'z')], false, 1⟩ fun os names s =>
    if names.isEmpty then missingOperand 1 s
    else forEach names (fun name s =>
      match resolved s (isGiven os 'e') (!isGiven os 'm') name with
      | .error f => if isGiven os 'q' then s.fail else failBy [named name] f s
      | .ok t =>
        match (lastValue? os 'r').map (resolved s false false) with
        | some (.ok base) =>
          s.say [relative base t]
        | _ => s.say [t]) s.succeed
where
  relative (base t : Text) : Text :=
    let a := Disk.names (Octets.path base)
    let b := Disk.names (Octets.path t)
    let common := ((a.zip b).takeWhile fun (x, y) => x == y).length
    match List.replicate (a.length - common) ['.', '.'] ++ (b.drop common).map Octets.encode with
    | [] => ['.']
    | names => Text.joinWith ['/'] names

/-- The last name of a path without an ending, unless that is all of it. -/
def baseOf (ending name : Text) : Text :=
  let base := lastName name
  match Text.dropEnding? ending base with
  | some t => if t.isEmpty || base == ['/'] then base else t
  | none => base

def basename : List Text → State → State :=
  withOptions ⟨"as:z", [("multiple", .nothing, 'a'), ("suffix", .value, 's'),
    ("zero", .nothing, 'z')],
      true, 1⟩ fun os names s =>
    let ending : Text := if isGiven os 'z' then ['\x00'] else ['\n']
    match isGiven os 'a' || isGiven os 's', names with
    | _, [] => missingOperand 1 s
    | true, names =>
      (s.out (names.flatMap fun n => baseOf ((lastValue? os 's').getD []) n ++ ending)).succeed
    | false, [name] => (s.out (baseOf [] name ++ ending)).succeed
    | false, [name, suffix] => (s.out (baseOf suffix name ++ ending)).succeed
    | false, _ :: _ :: extra :: _ => extraOperand extra 1 s

def directoryOf (name : Text) : Text :=
  let t := trimEnd name
  if t == ['/'] then t
  else
    let before := (t.reverse.dropWhile (· != '/')).reverse
    if before.isEmpty then ['.'] else trimEnd before

def dirname : List Text → State → State :=
  withOptions ⟨"z", [("zero", .nothing, 'z')], true, 1⟩ fun os names s =>
    let ending : Text := if isGiven os 'z' then ['\x00'] else ['\n']
    if names.isEmpty then missingOperand 1 s
    else (s.out (names.flatMap fun n => directoryOf n ++ ending)).succeed

def pwd : List Text → State → State :=
  withOptions ⟨"LP", [("logical", .nothing, 'L'), ("physical", .nothing, 'P')], false, 1⟩
    fun os names s =>
      let s := if names.isEmpty then s else complain ["ignoring non-option arguments".toList] s
      let isPlain (t : Text) : Bool :=
        (Text.splitBy (· == '/') t).all fun n => n ≠ ['.'] && n ≠ ['.', '.']
      let path := match lastOf? os ['L', 'P'], s.exportedPath? with
        | some 'L', some t => if isPlain t then t else s.location
        | _, _ => s.location
      (s.say [path]).succeed

/-! ### Properties -/

def kindName : Option System.Kind → Text
  | some (.file 0 _) => "regular empty file".toList
  | some (.file ..) => "regular file".toList
  | some .directory => "directory".toList
  | some .link => "symbolic link".toList
  | some .device => "character special file".toList
  | some .pipe => "fifo".toList
  | none => []

def properties (s : State) (follow : Bool) (name : Text) : Text → Text
  | '%' :: c :: rest =>
    let kind := System.kindOf? s follow name
    let shown := match c, kind with
      | 'n', _ => name
      | 'N', _ => quoted name
      | 's', some (.file size _) => Text.ofNat size
      | 's', some .directory => "4096".toList
      | 's', _ =>
        match entryAt s false name with
        | .ok (_, e) => Text.ofNat (sizeOf (some e))
        | .error _ => ['0']
      | 'F', kind => kindName kind
      | 'a', some (.file _ true) => "755".toList
      | 'a', some (.file _ false) => "644".toList
      | 'a', some .directory => "755".toList
      | 'a', some .device => "666".toList
      | 'a', some .pipe => "600".toList
      | 'a', _ => "777".toList
      | 'U', _ => "root".toList
      | 'G', _ => "root".toList
      | 'u', _ => ['0']
      | 'g', _ => ['0']
      | 'h', _ => ['1']
      | '%', _ => ['%']
      | _, _ => ['?']
    shown ++ properties s follow name rest
  | c :: rest => c :: properties s follow name rest
  | [] => []

def stat : List Text → State → State :=
  withOptions ⟨"c:fLt", [("format", .value, 'c'), ("printf", .value, 'p'),
      ("dereference", .nothing, 'L'), ("terse", .nothing, 't')], false, 1⟩ fun os names s =>
    if names.isEmpty then missingOperand 1 s
    else
      let follow := isGiven os 'L'
      forEach names (fun name s =>
        match System.kindOf? s follow name with
        | none =>
          let cause := match entryAt s follow name with
            | .error f => f
            | .ok _ => .os .notFound
          failBy ["cannot statx ".toList, quoted name] cause s
        | some _ =>
          match lastValue? os 'c' with
          | some f => s.say [properties s follow name f]
          | none => s.out (properties s follow name ((lastValue? os 'p').getD "%n\n".toList)))
        s.succeed

def which (args : List Text) (s : State) : State :=
  let usage (s : State) : State :=
    let self := (System.find? s s.self).getD s.self
    (s.say ["Usage: ".toList, self, " [-as] args".toList]).setStatus 2
  match (OptionTable.mk "as" [] true 2).readAll args with
  | .error (.unknownLetter c) => usage (s.tell ["Illegal option -".toList, [c]])
  | .error _ => usage (s.tell ["Illegal option --".toList])
  | .ok (os, names) =>
    let isProgram (path : Text) : Bool := match System.kindOf? s true path with
      | some (.file _ true) => true
      | _ => false
    let directories := (System.searchPath s).map fun d => if d.isEmpty then ['.'] else d
    if names.isEmpty then s.fail
    else forEach names (fun name s =>
      let found := (if name.contains '/' then [name]
        else directories.map (System.under · name)).filter isProgram
      if found.isEmpty then s.fail
      else if isGiven os 's' then s
      else (if isGiven os 'a' then found else found.take 1).foldl (fun s path => s.say [path]) s)
      s.succeed

end Manuscript.Shell.Tool
