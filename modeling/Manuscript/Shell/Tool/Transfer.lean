import Manuscript.Shell.Tool.Files

/-!
Tools that copy, move and link files and directories.
-/

namespace Manuscript.Shell.Tool

/-! ### Sending files somewhere -/

/-- Where files go: under one name, or into a directory. -/
inductive Destination
  | name (t : Text)
  | into (directory : Text)

def destinationOf (os : List GivenOption) (names : List Text) (s : State) :
    Except (State → State) (List Text × Destination) :=
  let isDirectory (t : Text) : Bool := System.kindOf? s true t == some .directory
  let refuse (what t : Text) : State → State := fun s =>
    let cause := match entryAt s true t with
      | .ok _ => Errno.notDirectory
      | .error (.os e) => e
      | .error _ => .notFound
    failBy [what, quoted t] (.os cause) s
  match lastValue? os 't' with
  | some t =>
    if names.isEmpty then .error fun s => hint 1 (complain ["missing file operand".toList] s)
    else if isDirectory t then .ok (names, .into t)
    else .error (refuse "target directory ".toList t)
  | none =>
    match names.reverse with
    | [] => .error fun s => hint 1 (complain ["missing file operand".toList] s)
    | [name] =>
      .error fun s => hint 1
        (complain ["missing destination file operand after ".toList, quoted name] s)
    | [target, source] =>
      if !isGiven os 'T' && isDirectory target then .ok ([source], .into target)
      else .ok ([source], .name target)
    | target :: sources =>
      if isGiven os 'T' then
        .error fun s => hint 1 (complain ["extra operand ".toList, quoted target] s)
      else if isDirectory target then .ok (sources.reverse, .into target)
      else .error (refuse "target ".toList target)

def Destination.of (d : Destination) (source : Text) : Text :=
  match d with
  | .name t => t
  | .into directory => System.under directory (lastName source)

/-- The bytes of a file put under a name, which keeps what it is if it is there already. -/
def putBytes (bytes : Bytes) (executable : Bool) (target : Text) (s : State) :
    Except Fault State :=
  let path := Octets.path target
  match s.deviceAt? path with
  | some v => (s.openDevice .write v).map fun (h, s) => s.emit h (Octets.ofBytes bytes)
  | none =>
    match s.disk.at? path with
    | some (loc, .file _ kept) => .ok (withDisk s (s.disk.put loc (.file bytes kept)))
    | _ =>
      match s.disk.create path with
      | .ok (loc, d) => .ok (withDisk s (d.put loc (.file bytes executable)))
      | .error f =>
        .error
          (if f = .os .isDirectory && target.getLast? == some '/' then .os .notDirectory else f)

/-- Whether nothing but a link that leads nowhere stands under a name. -/
def isDangling (s : State) (name : Text) : Bool :=
  match entryAt s false name, entryAt s true name with
  | .ok (_, .link _), .error _ => true
  | _, _ => false

structure Manner where
  whole : Bool := false
  follow : Bool := false
  keep : Bool := false
  asks : Bool := false
  verbose : Bool := false
  force : Bool := false

def copyNote (verbose : Bool) (source target : Text) (s : State) : State :=
  if verbose then s.say [quoted source, " -> ".toList, quoted target] else s

def deliver (m : Manner) (source target : Text) (bytes : Bytes) (executable : Bool) (s : State) :
    State :=
  let s := copyNote m.verbose source target s
  match putBytes bytes executable target s with
  | .error f => failBy ["cannot create regular file ".toList, quoted target] f s
  | .ok t =>
    match t.unwritten with
    | some e =>
      failBy ["error writing ".toList, quoted target] (.os e) { t with unwritten := s.unwritten }
    | none => t

def deliverEntry (m : Manner) (source target : Text) (e : Entry) (s : State) : State :=
  match s.disk.spot (Octets.path target) false with
  | .ok (.vacant dir name) =>
    copyNote m.verbose source target (withDisk s (s.disk.put (dir ++ [name]) e))
  | .ok (.taken loc _) => copyNote m.verbose source target (withDisk s (s.disk.put loc e))
  | .error f =>
    let kind := match e with
      | .link _ => "symbolic link ".toList
      | _ => "special file ".toList
    failBy ["cannot create ".toList, kind, quoted target] f s

def copy (m : Manner) : Nat → Text → Text → State → State
  | 0, _, _, s => s
  | fuel + 1, source, target, s =>
    match if m.whole then none else s.deviceAt? (Octets.path source) with
    | some v =>
      match s.openDevice .read v with
      | .error f => failBy ["cannot open ".toList, quoted source, " for reading".toList] f s
      | .ok (h, s) =>
        let (t, s) := s.takeAllOf h
        deliver m source target (Octets.toBytes t) false s
    | none =>
      match entryAt s m.follow source with
      | .error f => failBy ["cannot stat ".toList, quoted source] f s
      | .ok (loc, .file bytes executable) =>
        match entryAt s true target with
        | .ok (other, .directory) =>
          if other.isEmpty then s
          else failWith ["cannot overwrite directory ".toList, quoted target,
            " with non-directory".toList] s
        | .ok (other, _) =>
          if other = loc then
            failWith [quoted source, " and ".toList, quoted target, " are the same file".toList] s
          else if m.keep then s
          else
            let (allowed, s) := if m.asks then
                consent ["overwrite ".toList, quoted target] s else (true, s)
            if !allowed then s.fail
            else deliver m source target bytes executable s
        | .error (.os .notDirectory) =>
          if target.getLast? == some '/' then
            failBy ["cannot create regular file ".toList, quoted target] (.os .notDirectory) s
          else failBy ["cannot stat ".toList, quoted target] (.os .notDirectory) s
        | .error _ =>
          if isDangling s target && !m.force then
            failWith ["not writing through dangling symlink ".toList, quoted target] s
          else deliver m source target bytes executable s
      | .ok (_, .link path) => deliverEntry m source target (.link path) s
      | .ok (_, .device v) => deliverEntry m source target (.device v) s
      | .ok (loc, .directory) =>
        if !m.whole then
          failWith ["-r not specified; omitting directory ".toList, quoted source] s
        else
          let below := s.disk.children loc
          let made : Except (State → State) (State × Bool) := match entryAt s true target with
            | .ok (_, .directory) => .ok (s, false)
            | .ok _ =>
              .error (failWith ["cannot overwrite non-directory ".toList, quoted target,
                " with directory ".toList, quoted source])
            | .error _ =>
              match s.disk.makeDir (Octets.path target) with
              | .ok d => .ok (withDisk s d, true)
              | .error f => .error (failBy ["cannot create directory ".toList, quoted target] f)
          match made with
          | .error complaint => complaint s
          | .ok (s, isNew) =>
            let inside := match s.disk.at? (Octets.path target) with
              | some (other, _) => Disk.isAtOrBelow loc other
              | none => false
            if inside then
              failWith ["cannot copy a directory, ".toList, quoted source, ", into itself, ".toList,
                quoted target] s
            else
              let s := if isNew then copyNote m.verbose source target s else s
              below.foldl (fun s (name, _) =>
                copy { m with follow := false } fuel (System.under source (Octets.encode name))
                  (System.under target (Octets.encode name)) s) s

def cp : List Text → State → State :=
  withCheckedOptions ⟨"abdfHilLnprst:uvxPRS:TZ", [("archive", .nothing, 'a'),
    ("force", .nothing, 'f'),
      ("recursive", .nothing, 'r'), ("verbose", .nothing, 'v'), ("no-clobber", .nothing, 'n'),
      ("target-directory", .value, 't'), ("no-target-directory", .nothing, 'T'),
      ("update", .maybe, 'u'), ("preserve", .maybe, 'p'), ("dereference", .nothing, 'L'),
      ("no-dereference", .nothing, 'P'), ("interactive", .nothing, 'i'), ("link", .nothing, 'l'),
      ("symbolic-link", .nothing, 's'), ("parents", .nothing, 'q'), ("backup", .maybe, 'b')],
      false, 1⟩
    (fun o s => .ok (if o.1 == 'n' then
      complain [("warning: behavior of -n is non-portable and may change in future; " ++
        "use --update=none instead").toList] s else s))
    fun os names s =>
    match destinationOf os names s with
    | .error complaint => complaint s
    | .ok (sources, d) =>
      let whole := isGiven os 'r' || isGiven os 'R' || isGiven os 'a'
      let follow := match lastOf? os ['L', 'P', 'd', 'a', 'H'] with
        | some c => c == 'L' || c == 'H'
        | none => !whole
      let m : Manner :=
        { whole, follow, verbose := isGiven os 'v', force := isGiven os 'f'
          keep := lastOf? os ['n', 'i'] == some 'n', asks := lastOf? os ['n', 'i'] == some 'i' }
      forEach sources (fun source s => copy m 1000 source (d.of source) s) s.succeed

def moveComplaint (source target : Text) (moved : Entry) (s : State) : Option (List Text) :=
  match entryAt s false source, entryAt s false target with
  | .ok (a, _), .ok (b, e) =>
    if a = b then
      some [quoted source, " and ".toList, quoted target, " are the same file".toList]
    else if moved = .directory && e ≠ .directory then
      some ["cannot overwrite non-directory ".toList, quoted target, " with directory ".toList,
        quoted source]
    else if moved ≠ .directory && e = .directory then
      some ["cannot overwrite directory ".toList, quoted target, " with non-directory".toList]
    else none
  | _, _ => none

/-- Moves something, by a copy if need be. -/
def moveAnywhere (source target : Path) (d : Disk) : Except Fault Disk :=
  let whole : Disk := { d with mounts := [] }
  (whole.rename source target).map fun (moved : Disk) => { moved with mounts := d.mounts }

def mv : List Text → State → State :=
  withOptions ⟨"bfint:uvS:TZ", [("force", .nothing, 'f'), ("verbose", .nothing, 'v'),
      ("no-clobber", .nothing, 'n'), ("target-directory", .value, 't'),
      ("no-target-directory", .nothing, 'T'), ("update", .maybe, 'u'),
      ("interactive", .nothing, 'i'), ("backup", .maybe, 'b')], false, 1⟩ fun os names s =>
    match destinationOf os names s with
    | .error complaint => complaint s
    | .ok (sources, d) =>
      forEach sources (fun source s =>
        let target := d.of source
        let blocked := target.getLast? == some '/' && match entryAt s true (trimEnd target) with
          | .ok (_, .directory) => false
          | .ok _ => true
          | .error _ => false
        match entryAt s false source with
        | .error f => failBy ["cannot stat ".toList, quoted source] f s
        | .ok (_, moved) =>
          if blocked then failBy ["cannot stat ".toList, quoted target] (.os .notDirectory) s else
          if lastOf? os ['n', 'f', 'i'] == some 'n' && (entryAt s false target).isOk then
            failWith ["not replacing ".toList, quoted target] s
          else match moveComplaint source target moved s with
            | some message => failWith message s
            | none =>
              let asks := lastOf? os ['n', 'f', 'i'] == some 'i' && (entryAt s false target).isOk
              let (allowed, s) := if asks then
                  consent ["overwrite ".toList, quoted target] s else (true, s)
              if !allowed then s.fail
              else match moveAnywhere (Octets.path source) (Octets.path target) s.disk with
              | .ok disk =>
                let s := withDisk s disk
                if isGiven os 'v' then
                  s.say ["renamed ".toList, quoted source, " -> ".toList, quoted target]
                else s
              | .error (.os .invalid) =>
                failWith ["cannot move ".toList, quoted source,
                  " to a subdirectory of itself, ".toList, quoted target] s
              | .error f =>
                failBy ["cannot move ".toList, quoted source, " to ".toList, quoted target] f s)
        s.succeed

/-! ### Links -/

def relativePath (directory target : Location) : Text :=
  let common := ((directory.zip target).takeWhile fun (a, b) => a == b).length
  let up := List.replicate (directory.length - common) ['.', '.']
  match up ++ (target.drop common).map Octets.encode with
  | [] => ['.']
  | names => Text.joinWith ['/'] names

def linkOne (os : List GivenOption) (source target : Text) (s : State) : State :=
  let symbolic := isGiven os 's'
  let kind := if symbolic then "symbolic link ".toList else "hard link ".toList
  let made : Except (State → State) Entry :=
    if symbolic then
      if isGiven os 'r' then
        match s.disk.holder (Octets.path target), s.disk.holder (Octets.path source) with
        | .ok dir, .ok from_ =>
          .ok (.link (Octets.path (relativePath dir (from_ ++ [Octets.decode (lastName source)]))))
        | _, _ => .ok (.link (Octets.path source))
      else .ok (.link (Octets.path source))
    else match entryAt s (isGiven os 'L') source with
      | .error f => .error (failBy ["failed to access ".toList, quoted source] f)
      | .ok (_, .directory) =>
        .error (failWith [source, ": hard link not allowed for directory".toList])
      | .ok (_, e) => .ok e
  match made with
  | .error complaint => complaint s
  | .ok e =>
    let refuse (f : Fault) : State :=
      let arrow := if symbolic then " -> ".toList else " => ".toList
      let isPlain := if symbolic then f ≠ .os .nameTooLong && !source.isEmpty
        else f = .os .exists || f = .os .noSpace
      failBy ("failed to create ".toList :: kind :: quoted target ::
        if isPlain then [] else [arrow, quoted source]) f s
    let done (d : Disk) : State :=
      let s := withDisk s d
      if isGiven os 'v' then
        let shown := match symbolic, e with
          | true, .link path => Octets.encode path.text
          | _, _ => source
        s.say [quoted target, if symbolic then " -> ".toList else " => ".toList, quoted shown]
      else s
    match s.disk.spot (Octets.path target) false with
    | .error f => refuse f
    | .ok (.vacant dir name) =>
      let crosses := !symbolic && match entryAt s (isGiven os 'L') source with
        | .ok (from_, _) => s.disk.mountOf from_.dropLast ≠ s.disk.mountOf dir
        | .error _ => false
      if crosses then refuse (.os .crossDevice)
      else if target.getLast? == some '/' then refuse (.os .notFound)
      else done (s.disk.put (dir ++ [name]) e)
    | .ok (.taken loc old) =>
      if isGiven os 'f' && old ≠ .directory then
        match entryAt s false source with
        | .ok (from_, _) =>
          if from_ = loc then
            failWith [quoted source, " and ".toList, quoted target, " are the same file".toList] s
          else done ((s.disk.drop loc).put loc e)
        | .error _ => done ((s.disk.drop loc).put loc e)
      else refuse (.os .exists)

def ln : List Text → State → State :=
  withCheckedOptions ⟨"bdfinrst:vFLPS:T", [("symbolic", .nothing, 's'), ("force", .nothing, 'f'),
      ("no-dereference", .nothing, 'n'), ("verbose", .nothing, 'v'), ("relative", .nothing, 'r'),
      ("target-directory", .value, 't'), ("no-target-directory", .nothing, 'T'),
      ("logical", .nothing, 'L'), ("physical", .nothing, 'P')], false, 1⟩
    (fun o s => match o with
      | ('t', some t) => match System.kindOf? s true t with
        | some .directory => .ok s
        | some _ => .error (failWith ["target ".toList, quoted t, " is not a directory".toList] s)
        | none => .error (failBy ["failed to access ".toList, quoted t] (.os .notFound) s)
      | _ => .ok s)
    fun os names s =>
    let s := s.succeed
    let isDirectory (t : Text) : Bool :=
      System.kindOf? s (!isGiven os 'n') t == some .directory
    match lastValue? os 't', names with
    | none, [] => hint 1 (complain ["missing file operand".toList] s)
    | none, [name] => linkOne os name (System.under ['.'] (lastName name)) s
    | none, [a, b] =>
      if !isGiven os 'T' && isDirectory b then linkOne os a (System.under b (lastName a)) s
      else linkOne os a b s
    | none, names =>
      match destinationOf os names s with
      | .error complaint => complaint s
      | .ok (sources, d) => forEach sources (fun a s => linkOne os a (d.of a) s) s
    | some t, names =>
      if isDirectory t then
        forEach names (fun a s => linkOne os a (System.under t (lastName a)) s) s
      else failBy ["target directory ".toList, quoted t] (.os .notDirectory) s

end Manuscript.Shell.Tool
