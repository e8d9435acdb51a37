import Manuscript.Shell.Digits
import Manuscript.Shell.Tool.Transfer

/-!
Tools that change the rights and the sizes of files, and that make files of a
size or with a name of their own.
-/

namespace Manuscript.Shell.Tool

/-! ### Rights -/

/-- What a mode makes of the right to be run, given whether a directory is meant. -/
inductive ModeChange
  | set (executable : Bool)
  | letters (clauses : List (Char × Text))
  deriving DecidableEq, Repr

def clauseParts : Nat → Text → Option (List (Char × Text))
  | 0, _ => none
  | _, [] => some []
  | fuel + 1, c :: rest =>
    if c == '+' || c == '-' || c == '=' then
      let letters := rest.takeWhile fun c => "rwxXstugo".toList.contains c
      (clauseParts fuel (rest.drop letters.length)).map ((c, letters) :: ·)
    else none

def modeOf? (t : Text) : Option ModeChange :=
  if t.isEmpty then none
  else if t.all Digits.isOctal then
    let n := Digits.valueIn 8 t
    if 4095 < n then none else some (.set (n % 8 % 2 = 1 || n / 8 % 2 = 1 || n / 64 % 2 = 1))
  else
    let clauses := (Text.splitBy (· == ',') t).mapM fun clause =>
      let who := clause.takeWhile fun c => "ugoa".toList.contains c
      let rest := clause.drop who.length
      if rest.isEmpty then none else clauseParts (rest.length + 1) rest
    clauses.map fun cs => .letters cs.flatten

def ModeChange.apply (m : ModeChange) (executable : Bool) : Bool :=
  match m with
  | set x => x
  | letters clauses => clauses.foldl (fun x (o, ls) =>
    let named := ls.contains 'x' || (ls.contains 'X' && x)
    if o == '+' then x || named else if o == '-' then x && !named else named) executable

/-- Changes rights below a directory. -/
def changeTree (m : ModeChange) (loc : Location) (d : Disk) : Disk :=
  { d with
    entries := d.entries.map fun (l, e) =>
      match e with
      | .file bytes x => if Disk.isAtOrBelow loc l then (l, .file bytes (m.apply x)) else (l, e)
      | e => (l, e) }

def modeOptions (os : List GivenOption) : List Text :=
  (os.filter fun o => !"RFvfc".toList.contains o.1).map fun (c, more) => '-' :: c :: more.getD []

def chmod : List Text → State → State :=
  withOptions ⟨"Rcfvr::w::x::X::s::t::u::g::o::a::,::+::=::0::1::2::3::4::5::6::7::",
      [("recursive", .nothing, 'R'), ("reference", .value, 'F'), ("verbose", .nothing, 'v'),
      ("silent", .nothing, 'f'), ("quiet", .nothing, 'f'), ("changes", .nothing, 'c')],
      false, 1⟩ fun os names s =>
    let modes := modeOptions os
    let asked : Except (State → State) (ModeChange × List Text) :=
      match lastValue? os 'F', modes, names with
      | some r, [], names =>
        match entryAt s true r with
        | .ok (_, .file _ x) => .ok (.set x, names)
        | .ok _ => .ok (.set true, names)
        | .error f => .error (failBy ["failed to get attributes of ".toList, quoted r] f)
      | some _, _ :: _, _ =>
        .error fun s => hint 1 (complain ["cannot combine mode and --reference options".toList] s)
      | none, [], [] => .error (missingOperand 1)
      | none, [], [m] => .error fun s => hint 1
        (complain ["missing operand after ".toList, curly m] s)
      | none, m :: ms, names => modeChange (Text.joinWith [','] (m :: ms)) names
      | none, [], m :: names => modeChange m names
    match asked with
    | .error complaint => complaint s
    | .ok (_, []) => missingOperand 1 s
    | .ok (m, names) =>
      forEach names (fun name s =>
        match entryAt s true name with
        | .error f =>
          if isGiven os 'f' then s.fail
          else if isDangling s name then
            failWith ["cannot operate on dangling symlink ".toList, quoted name] s
          else failBy ["cannot access ".toList, quoted name] f s
        | .ok (loc, .file bytes x) => withDisk s (s.disk.put loc (.file bytes (m.apply x)))
        | .ok (loc, _) =>
          if isGiven os 'R' then withDisk s (changeTree m loc s.disk) else s) s.succeed
where
  modeChange (m : Text) (names : List Text) : Except (State → State) (ModeChange × List Text) :=
    match modeOf? m with
    | some c => .ok (c, names)
    | none => .error fun s => hint 1 (complain ["invalid mode: ".toList, curly m] s)

/-! ### Sizes -/

def newSize? (t : Text) (old : Nat) : Option Nat :=
  let t := t.dropWhile fun c => c == ' ' || c == '\t'
  match t with
  | '+' :: t => (size? t).map (old + ·)
  | '-' :: t => (size? t).map (old - ·)
  | '<' :: t => (size? t).map (min old)
  | '>' :: t => (size? t).map (max old)
  | '/' :: t => (size? t).bind fun n => if n = 0 then none else some (old / n * n)
  | '%' :: t => (size? t).bind fun n => if n = 0 then none else some ((old + n - 1) / n * n)
  | t => size? t

def truncate : List Text → State → State :=
  withOptions ⟨"cor:s:", [("size", .value, 's'), ("no-create", .nothing, 'c'),
      ("reference", .value, 'r'), ("io-blocks", .nothing, 'o')], false, 1⟩ fun os names s =>
    let reference := (lastValue? os 'r').map fun r => ((s.disk.fileSize? (Octets.path r)).getD 0)
    match lastValue? os 's', reference with
    | none, none =>
      hint 1 (complain ["you must specify either ".toList, curly "--size".toList, " or ".toList,
        curly "--reference".toList] s)
    | asked, reference =>
      if (asked.any fun t => (newSize? t 1).isNone) then
        failWith ["Invalid number: ".toList, curly (asked.getD [])] s
      else if names.isEmpty then hint 1 (complain ["missing file operand".toList] s)
      else forEach names (fun name s =>
        let path := Octets.path name
        if isGiven os 'c' && (s.disk.at? path).isNone then s
        else match s.openNamed .append name with
          | .error f =>
            failBy ["cannot open ".toList, quoted name, " for writing".toList] f s
          | .ok (_, s) =>
            match s.disk.at? path with
            | some (loc, .file bytes x) =>
              let base := reference.getD bytes.length
              let n := match asked with
                | some t => (newSize? t base).getD base
                | none => base
              let bytes := bytes.take n ++ List.replicate (n - bytes.length) 0
              withDisk s (s.disk.put loc (.file bytes x))
            | _ =>
              let n := Text.ofNat ((asked.bind (newSize? · 0)).getD 0)
              failBy ["failed to truncate ".toList, quoted name, " at ".toList, n,
                " bytes".toList] (.os .invalid) s) s.succeed

def mktemp : List Text → State → State :=
  withOptions ⟨"dp:qtuV", [("directory", .nothing, 'd'), ("dry-run", .nothing, 'u'),
      ("tmpdir", .maybe, 'p'), ("suffix", .value, 's'), ("quiet", .nothing, 'q')], false, 1⟩
    fun os names s =>
      let template := (names.head?).getD "tmp.XXXXXXXXXX".toList
      let marks := (template.reverse.takeWhile (· == 'X')).length
      if marks < 3 then
        failWith ["too few X's in template ".toList, curly template] s
      else
        let digits := Text.ofNat (s.nextNumber + 1000)
        let fill := ((List.replicate marks 'a') ++ digits).reverse.take marks
        let name := template.take (template.length - marks) ++ fill.reverse
        let directory := (lastValue? os 'p').getD "/tmp".toList
        let inside := names.isEmpty || isGiven os 'p' || isGiven os 't'
        let path := if inside then System.under directory name else name
        let s := { s with nextNumber := s.nextNumber + 1 }
        let made : Except Fault State :=
          if isGiven os 'u' then .ok s
          else if isGiven os 'd' then (s.disk.makeDir (Octets.path path)).map (withDisk s)
          else (s.openNamed .write path).map (·.2)
        match made with
        | .ok s => (s.say [path]).succeed
        | .error f =>
          failBy ["failed to create ".toList,
            if isGiven os 'd' then "directory".toList else "file".toList, " via template ".toList,
            curly (if inside then System.under directory template else template)] f s

end Manuscript.Shell.Tool
