import Manuscript.Shell.Builtin.Directory
import Manuscript.Shell.Builtin.Meaning
import Manuscript.Shell.Builtin.Signals

/-!
Commands of the shell itself that print, and those that have to do with rights,
limits and aliases.
-/

namespace Manuscript.Shell.Builtin

/-! ### Printing -/

def echo (args : List Text) (s : State) : State :=
  (s.out (if s.isExtended then Format.echoWithFlags .extended args else Format.echo args)).succeed

def printf (args : List Text) (s : State) : State :=
  let who : Format.Printer := if s.isExtended then .extended else .shell
  match if args.head? == some ['-', '-'] then args.drop 1 else args with
  | [] =>
    if s.isExtended then
      (s.tell ["printf: usage: printf [-v var] format [arguments]".toList]).setStatus 2
    else s.abort ["usage: printf format [arg ...]".toList]
  | format :: args =>
    let (name, format, args) := match s.isExtended, format, args with
      | true, ['-', 'v'], name :: format :: args => (some name, format, args)
      | _, _, _ => (none, format, args)
    if s.isExtended && format.head? == some '-' && 1 < format.length then
      ((s.warn [format.take 2, ": invalid option".toList]).tell
        ["printf: usage: printf [-v var] format [arguments]".toList]).setStatus 2
    else
      let p := Format.run who format args
      let s := p.complaints.reverse.foldl (fun s m => s.warn m) s
      let s := match name with
        | some name =>
          match given? true name with
          | some g => give { g with value := some p.text } s
          | none => badName name s
        | none => s.out p.text
      if !p.failed then s.succeed
      else if p.stopped && !s.isExtended then s.setStatus 2
      else s.fail

def test (inBrackets : Bool) (args : List Text) (s : State) : State :=
  let who : Condition.Examiner := if s.isExtended then .extended else .shell
  match Condition.holds who inBrackets s args with
  | .ok true => s.succeed
  | .ok false => s.fail
  | .error f =>
    if s.isExtended then refuse 2 (f.message who) s else s.abort (f.message who)

/-! ### Others -/

def umask (args : List Text) (s : State) : State :=
  match args with
  | [] =>
    let digits := Nat.toDigits 8 s.session.mask
    (s.say [List.replicate (4 - digits.length) '0', digits]).succeed
  | [['-', 'S']] =>
    let rights (n : Nat) : Text :=
      (if n / 4 % 2 = 0 then ['r'] else []) ++ (if n / 2 % 2 = 0 then ['w'] else []) ++
        if n % 2 = 0 then ['x'] else []
    let m := s.session.mask
    (s.say ["u=".toList, rights (m / 64), ",g=".toList, rights (m / 8), ",o=".toList,
      rights m]).succeed
  | t :: _ =>
    if t.all Digits.isOctal then { s with session.mask := Digits.valueIn 8 t % 512 }.succeed
    else if t.all fun c => "ugoarwx=+-,".toList.contains c then s.succeed
    else fault 1 ["Illegal mode: ".toList, t]
      [graved t, ": invalid symbolic mode operator".toList] s

def ulimit (args : List Text) (s : State) : State :=
  match args.filter fun a => a.head? != some '-' with
  | [] =>
    let answer := match args.getLast? with
      | some ['-', 'c'] => "0"
      | some ['-', 'n'] => "1024"
      | some ['-', 's'] => "8192"
      | _ => "unlimited"
    (s.say [answer.toList]).succeed
  | t :: _ =>
    if (number? t).isSome || t == "unlimited".toList then s.succeed
    else fault 1 ["bad number".toList] [t, ": invalid number".toList] s

def times (_ : List Text) (s : State) : State :=
  let line := if s.isExtended then "0m0.000s 0m0.000s" else "0m0.000000s 0m0.000000s"
  ((s.say [line.toList]).say [line.toList]).succeed

/-- The aliases in the order in which they are listed: by their names, or in the plain dialect by a
number that the characters of the names add up to. -/
def listedAliases (s : State) : List (Text × Text) :=
  let key (t : Text) : Nat :=
    t.foldl (fun n c => n + c.toNat) (16 * (t.head?.map Char.toNat).getD 0) % 39
  if s.isExtended then s.session.aliases.mergeSort fun a b => Path.textLe a.1 b.1
  else s.session.aliases.mergeSort fun a b => key a.1 ≤ key b.1

def giveAliases (args : List Text) (s : State) : State :=
  let shown (a : Text × Text) (s : State) : State :=
    s.say [if s.isExtended then "alias ".toList else [], aliasLine s a.1 a.2]
  let lists := args.isEmpty || (s.isExtended && args.head? == some ['-', 'p'])
  let s := if lists then (listedAliases s).foldl (fun s a => shown a s) s else s
  (if s.isExtended then behind ["-p"] args else args).foldl (fun s t =>
    let name := t.take (1 + ((t.drop 1).takeWhile (· != '=')).length)
    match t.drop name.length with
    | _ :: text =>
      let others := s.session.aliases
      let aliases := if others.any (·.1 == name) then
          others.map fun a => if a.1 == name then (name, text) else a
        else others ++ [(name, text)]
      { s with session.aliases := aliases }
    | [] =>
      match s.session.aliases.lookup name with
      | some text => shown (name, text) s
      | none =>
        if s.isExtended then refuse 1 [name, ": not found".toList] s
        else (s.tell ["alias: ".toList, name, " not found".toList]).fail) s.succeed

def unalias (args : List Text) (s : State) : State :=
  match args with
  | ['-', 'a'] :: _ => { s with session.aliases := [] }.succeed
  | args => args.foldl (fun s name =>
    if s.session.aliases.any (·.1 == name) then
      { s with session.aliases := s.session.aliases.filter (·.1 ≠ name) }
    else if s.isExtended then refuse 1 [name, ": not found".toList] s
    else (s.tell ["unalias: ".toList, name, " not found".toList]).fail) s.succeed

def let_ (args : List Text) (s : State) : State :=
  if args.isEmpty then refuse 1 ["expression expected".toList] s
  else
    let (n, s) := args.foldl (fun (n, s) t => if s.halted then (n, s) else s.calculate t)
      ((0, s) : Int × State)
    if s.halted then s else if n = 0 then s.fail else s.succeed

/-- Commands of the shell cannot be switched off here. -/
def enable (args : List Text) (s : State) : State :=
  (behind ["-n", "-a", "-p", "-s"] args).foldl (fun s name =>
    if isBuiltin s name then s else refuse 1 [name, ": not a shell builtin".toList] s) s.succeed

def table : List (String × Body) :=
  [(":", fun _ s => s.succeed), ("true", fun _ s => s.succeed), ("false", fun _ s => s.fail),
    ("export", export_), ("readonly", readonly), ("local", local_), ("unset", unset), ("set", set_),
    ("shift", shift), ("getopts", getopts), ("read", read), ("trap", trap), ("kill", kill),
    ("wait", wait), ("fg", foreground), ("bg", foreground), ("cd", cd), ("pwd", pwd),
    ("echo", echo),
    ("printf", printf), ("test", test false), ("[", test true), ("type", type), ("hash", hash),
    ("umask", umask), ("ulimit", ulimit), ("times", times), ("unalias", unalias),
    ("alias", giveAliases), ("jobs", fun _ s => s.succeed), ("declare", declare),
    ("typeset", declare), ("let", let_), ("shopt", shopt), ("mapfile", mapfile),
    ("readarray", mapfile), ("dirs", dirs), ("pushd", pushd), ("popd", popd),
    ("enable", enable), ("disown", fun _ s => s.succeed)]

def find? (name : Text) : Option Body :=
  (table.find? (·.1.toList == name)).map (·.2)

end Manuscript.Shell.Builtin
