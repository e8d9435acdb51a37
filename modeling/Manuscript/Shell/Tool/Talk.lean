import Manuscript.Shell.Condition
import Manuscript.Shell.Tool.Files
import Manuscript.Shell.Tool.Format

/-!
Tools that say what they are told, wait, compare, or tell where they are.
-/

namespace Manuscript.Shell

namespace State

def wait (s : State) (milliseconds : Nat) : State :=
  let clock := s.clock + milliseconds
  if s.deadline < clock then { s with clock := s.deadline }.outOfTime else { s with clock }

end State

namespace Tool

def echo (args : List Text) (s : State) : State :=
  (s.out (Format.echoWithFlags .tool args)).succeed

def printf (args : List Text) (s : State) : State :=
  match if args.head? == some ['-', '-'] then args.drop 1 else args with
  | [] => missingOperand 1 s
  | format :: args =>
    let p := Format.run .tool format args
    let s := p.complaints.reverse.foldl (fun s m => complain m s) s
    let unused := !p.consumes && !p.left.isEmpty && !p.stopped
    let s := if unused then
        complain ["warning: ignoring excess arguments, starting with ".toList,
          curly (p.left.headD [])] s
      else s
    let s := s.out p.text
    if p.failed then s.fail else s.succeed

def succeed (_ : List Text) (s : State) : State := s.succeed

def fail (_ : List Text) (s : State) : State := s.fail

def test (inBrackets : Bool) (args : List Text) (s : State) : State :=
  match Condition.holds .tool inBrackets s args with
  | .ok true => s.succeed
  | .ok false => s.fail
  | .error f => (complain (f.message .tool) s).setStatus 2

/-- Writes a line again and again, which ends only where nobody reads on. -/
def yes (args : List Text) : State → State :=
  withOptions ⟨"", [], true, 1⟩ (fun _ words s =>
    let line := (if words.isEmpty then ['y'] else Text.joinWith [' '] words) ++ ['\n']
    match s.stream? 1 with
    | some (.sink n) =>
      match (s.sink n).limit with
      | some limit =>
        s.out ((List.replicate (limit / line.length + 1) line).flatten)
      | none => s.outOfTime
    | some .full =>
      (complain ["standard output: ".toList, causeText (.os .noSpace)] s).fail
    | some _ => s.outOfTime
    | none => (complain ["standard output: ".toList, causeText (.os .badDescriptor)] s).fail)
    (if args.head? == some ['-', '-'] then args.drop 1 else args)

def interval? (t : Text) : Option Nat :=
  if t == "infinity".toList || t == "inf".toList then some (Nat.pow 10 15)
  else
    let ds := t.takeWhile Char.isDigit
    let rest := t.drop ds.length
    let places := match rest with
      | '.' :: more => more.takeWhile Char.isDigit
      | _ => []
    let rest := match rest with
      | '.' :: more => more.drop places.length
      | rest => rest
    let unit : Option Nat := match rest with
      | [] => some 1
      | ['s'] => some 1
      | ['m'] => some 60
      | ['h'] => some 3600
      | ['d'] => some 86400
      | _ => none
    if ds.isEmpty && places.isEmpty then none
    else unit.map fun u =>
      Digits.valueIn 10 (ds ++ places) * u * 1000 / Nat.pow 10 places.length

def sleep : List Text → State → State :=
  withOptions ⟨"", [], false, 1⟩ fun _ texts s =>
    if texts.isEmpty then missingOperand 1 s
    else
      match texts.filter fun t => (interval? t).isNone with
      | [] => (s.wait ((texts.filterMap interval?).foldl (· + ·) 0)).succeed
      | bad =>
        hint 1 (bad.foldl (fun s t =>
          complain ["invalid time interval ".toList, curly t] s) s)

/-! ### Surroundings -/

def environment (s : State) : List (Text × Text) :=
  s.session.bindings.reverse.filterMap fun (name, b) =>
    match b.exported, b.value with
    | true, some (.text t) => some (name, t)
    | _, _ => none

def printenv (args : List Text) (s : State) : State :=
  match (OptionTable.mk "0iu:" [("null", .nothing, '0')] true 2).readAll args with
  | .error e => hint 2 (complain e.message s)
  | .ok (os, names) =>
    let all := environment s
    let ending := if isGiven os '0' then ['\x00'] else ['\n']
    if isGiven os 'i' || isGiven os 'u' then hint 2 s
    else if names.isEmpty then
      (all.foldl (fun s (name, value) => s.out (name ++ '=' :: value ++ ending)) s).succeed
    else names.foldl (fun s name =>
      match all.lookup name with
      | some value => s.out (value ++ ending)
      | none => s.fail) s.succeed

def whoami : List Text → State → State :=
  withOptions ⟨"", [], false, 1⟩ fun _ operands s =>
    match operands with
    | [] => (s.say ["root".toList]).succeed
    | extra :: _ => extraOperand extra 1 s

def uname : List Text → State → State :=
  withOptions ⟨"asnrvmpio", [("all", .nothing, 'a'), ("kernel-name", .nothing, 's'),
      ("machine", .nothing, 'm')], false, 1⟩ fun os operands s =>
    match operands with
    | extra :: _ => extraOperand extra 1 s
    | [] =>
      let parts := [('s', "Linux"), ('n', "localhost"), ('m', "x86_64"), ('p', "x86_64"),
        ('i', "x86_64"), ('o', "GNU/Linux")]
      let wanted := parts.filter fun (c, _) =>
        isGiven os c || isGiven os 'a' || (os.isEmpty && c == 's')
      (s.say [Text.joinWith [' '] (wanted.map fun p => p.2.toList)]).succeed

def id : List Text → State → State :=
  withOptions ⟨"agGnruz", [("user", .nothing, 'u'), ("group", .nothing, 'g'),
      ("groups", .nothing, 'G'), ("real", .nothing, 'r'), ("zero", .nothing, 'z'),
      ("name", .nothing, 'n')], false, 1⟩ fun os users s =>
    let kinds := ['u', 'g', 'G'].filter (isGiven os)
    let named := isGiven os 'n'
    if 1 < kinds.length then
      failWith ["cannot print \"only\" of more than one choice".toList] s
    else if kinds.isEmpty && (named || isGiven os 'r') then
      failWith ["cannot print only names or real IDs in default format".toList] s
    else if kinds.isEmpty && isGiven os 'z' then
      failWith ["option --zero not permitted in default format".toList] s
    else
      let line := if kinds.isEmpty then "uid=0(root) gid=0(root) groups=0(root)".toList
        else if named then "root".toList else ['0']
      let ending := if isGiven os 'z' then ['\x00'] else ['\n']
      forEach (if users.isEmpty then ["root".toList] else users) (fun user s =>
        if user == "root".toList || user == ['0'] then s.out (line ++ ending)
        else failWith [curly user, ": no such user".toList] s) s.succeed

def tty : List Text → State → State :=
  withOptions ⟨"s", [("silent", .nothing, 's'), ("quiet", .nothing, 's')], false, 2⟩
    fun os operands s =>
      match operands with
      | extra :: _ => extraOperand extra 2 s
      | [] => (if isGiven os 's' then s else s.say ["not a tty".toList]).fail

def sync : List Text → State → State :=
  withOptions ⟨"df", [("data", .nothing, 'd'), ("file-system", .nothing, 'f')], false, 1⟩
    fun _ names s =>
      forEach names (fun name s =>
        match System.kindOf? s true name with
        | some _ => s
        | none => failBy ["error opening ".toList, quoted name] (.os .notFound) s) s.succeed

end Tool

end Manuscript.Shell
