import Manuscript.Shell.Builtin.Options
import Manuscript.Shell.Tool.Files

/-!
Commands of the shell that have to do with the working directory.

A shell remembers the path by which it came to a directory. A path from there
goes on from this path: what leaves a directory that was come to by a link goes
back to where the link is.
-/

namespace Manuscript.Shell.Builtin

/-! ### Going to directories -/

/-- The names of a path from a directory on, of which those that stand for places are carried out
as they are written; and whether each directory that is left again is there. -/
def plainNames (s : State) (start : List Text) (path : Text) : Bool × List Text :=
  let isThere (ns : List Text) : Bool :=
    s.disk.holdsDirectory (Octets.path ('/' :: Text.joinWith ['/'] ns))
  (Text.splitBy (· == '/') path).foldl (fun (sound, ns) n =>
    if n.isEmpty || n == ['.'] then (sound, ns)
    else if n == ['.', '.'] then (sound && isThere ns, ns.dropLast)
    else (sound, ns ++ [n])) (true, start)

/-- Whether a path begins with two separators, which is not the same as one. -/
def isDouble : Text → Bool
  | '/' :: '/' :: c :: _ => c != '/'
  | ['/', '/'] => true
  | _ => false

/-- The path that another one leads to from the working directory, as they are written; and whether
all of it is there. -/
def plainPath (s : State) (path : Text) : Bool × Text :=
  let isWhole := path.head? == some '/'
  let start := if isWhole then [] else (plainNames s [] s.here).2
  let (sound, ns) := plainNames s start path
  let double := isDouble (if isWhole then path else s.here)
  (sound, (if double then ['/', '/'] else ['/']) ++ Text.joinWith ['/'] ns)

def enter (name : Text) (s : State) : Except Fault Location :=
  match Tool.entryAt s true name with
  | .ok (loc, .directory) => .ok loc
  | .ok _ => .error (.os .notDirectory)
  | .error f => .error f

def settle (loc : Location) (way : Text) (s : State) : State :=
  let old := if s.isExtended then (s.value? "PWD".toList).getD s.here else s.here
  let s := { s with disk := { s.disk with cwd := loc }, session.way := way }
  let exported (name t : Text) (s : State) : State :=
    s.setBinding name { s.bindingOf name with value := some (.text t), exported := true }
  (exported "PWD".toList s.here (exported "OLDPWD".toList old s)).succeed

/-- Goes to a directory, by the path as it is written or by what it leads to. The extended dialect
takes the latter where the former fails. -/
def goTo (follows : Bool) (name : Text) (s : State) : Except Fault State :=
  let byPlace : Except Fault State := (enter name s).map fun loc => settle loc [] s
  if follows then byPlace
  else
    let (sound, path) := plainPath s name
    let isKept := sound || !s.isExtended
    match enter (if isKept then path else name) s with
    | .ok loc => .ok (settle loc (if isKept then path else []) s)
    | .error f =>
      if !s.isExtended then .error f
      else if s.disk.holdsDirectory (Octets.path s.here) then
        match byPlace with
        | .ok s => .ok s
        | .error _ => .error f
      else match byPlace with
        | .ok t =>
          .ok { s.tell ["cd: error retrieving current directory: getcwd: ".toList,
            "cannot access parent directories: No such file or directory".toList] with
            disk := t.disk }.succeed
        | .error _ => .error f

def isSearched (name : Text) : Bool :=
  !(['/'].isPrefixOf name || name == ['.'] || name == ['.', '.'] ||
    ['.', '/'].isPrefixOf name || ['.', '.', '/'].isPrefixOf name)

/-- The paths under which a directory is looked for, each with whether it is told that it was found
there. -/
def pathsTo (s : State) (name : Text) : List (Bool × Text) :=
  match if isSearched name then s.value? "CDPATH".toList else none with
  | some t =>
    let parts := if t.isEmpty then [] else Text.splitBy (· == ':') t
    parts.map fun d => (!d.isEmpty, System.under d name)
  | none => []

def goAlong (follows : Bool) (name : Text) (s : State) : Except Fault State :=
  match (pathsTo s name).findSome? fun (told, path) =>
      if System.kindOf? s true path == some .directory then
        match goTo follows path s with
        | .ok s => some (if told then s.say [s.here] else s)
        | .error _ => none
      else none with
  | some s => .ok s
  | none => goTo follows name s

def cd (args : List Text) (s : State) : State :=
  match optionsOf (if s.isExtended then "LPe@" else "LP") args with
  | .error f => misuse "cd [-L|[-P [-e]] [-@]] [dir]" f s
  | .ok (os, operands) =>
    let follows := Tool.lastOf? os ['L', 'P'] == some 'P'
    let fail (name : Text) (f : Fault) : State :=
      if s.isExtended then refuse 1 [name, ": ".toList, Tool.causeText f] s
      else s.abort ["can't cd to ".toList, name]
    let go (name : Text) : State :=
      match goAlong follows name s with
      | .ok s => s
      | .error f => fail name f
    match operands with
    | [] =>
      match s.value? "HOME".toList with
      | some home => if home.isEmpty then s.succeed else go home
      | none => if s.isExtended then refuse 1 ["HOME not set".toList] s else s.succeed
    | name :: others =>
      if s.isExtended && !others.isEmpty then refuse 1 ["too many arguments".toList] s
      else if name.isEmpty then s.succeed
      else if name == ['-'] then
        match s.value? "OLDPWD".toList with
        | some old =>
          match goTo follows old s with
          | .ok s => s.say [s.here]
          | .error f => fail old f
        | none => if s.isExtended then refuse 1 ["OLDPWD not set".toList] s else go []
      else go name

def pwd (args : List Text) (s : State) : State :=
  match optionsOf "LP" args with
  | .error f => misuse "pwd [-LP]" f s
  | .ok (os, _) =>
    (s.say [if Tool.lastOf? os ['L', 'P'] == some 'P' then s.location else s.here]).succeed

/-! ### Directories to go back to -/

def shortened (s : State) (path : Text) : Text :=
  match s.value? "HOME".toList with
  | some home =>
    match Text.dropBeginning? home path with
    | some [] => ['~']
    | some ('/' :: rest) => '~' :: '/' :: rest
    | _ => path
  | none => path

def showStack (s : State) : State :=
  (s.say [Text.joinWith [' '] (s.stack.map (shortened s))]).succeed

/-- A place among some, which is counted from the first or from the last, behind a sign. -/
def placeOf? (count : Nat) (t : Text) : Option (Option Nat) :=
  match t with
  | sign :: digits =>
    (number? digits).map fun n =>
      if count ≤ n then none else some (if sign == '-' then count - 1 - n else n)
  | [] => none

def outOfRange (s : State) (place : Text) : State :=
  refuse 1 (if s.session.directories.isEmpty then ["directory stack empty".toList]
    else [place, ": directory stack index out of range".toList]) s

def isSigned (t : Text) : Bool :=
  t.head? == some '+' || t.head? == some '-'

structure StackView where
  isLong : Bool := false
  clears : Bool := false
  inLines : Bool := false
  isNumbered : Bool := false
  place : Option (Text × Option Nat) := none

def stackUsage : String := "dirs [-clpv] [+N] [-N]"

def stackView : List Text → StackView → State → Except State StackView
  | [], v, _ => .ok v
  | a :: rest, v, s =>
    match a with
    | ['-', 'l'] => stackView rest { v with isLong := true } s
    | ['-', 'c'] => stackView rest { v with clears := true } s
    | ['-', 'p'] => stackView rest { v with inLines := true } s
    | ['-', 'v'] => stackView rest { v with isNumbered := true } s
    | ['-', '-'] => .ok v
    | a =>
      if !isSigned a then .error (misused stackUsage [a, ": invalid option".toList] s)
      else match placeOf? s.stack.length a with
        | some place => stackView rest { v with place := some (a, place) } s
        | none => .error (misused stackUsage [a, ": invalid number".toList] s)

def dirs (args : List Text) (s : State) : State :=
  match stackView args {} s with
  | .error s => s
  | .ok v =>
    let shown (d : Text) : Text := if v.isLong then d else shortened s d
    let line (n : Nat) (d : Text) : Text :=
      if v.isNumbered then
        let digits := Text.ofNat n
        List.replicate (2 - digits.length) ' ' ++ digits ++ [' ', ' '] ++ shown d
      else shown d
    let separator := if v.inLines || v.isNumbered then ['\n'] else [' ']
    if v.clears then { s with session.directories := [] }.succeed
    else match v.place with
      | some (t, none) => outOfRange s (t.drop 1)
      | some (_, some n) => (s.say [line n (s.stack.getD n [])]).succeed
      | none =>
        (s.say [Text.joinWith separator (s.stack.mapIdx line)]).succeed

def goKeeping (name : Text) (others : List Text) (s : State) : State :=
  match goTo false name s with
  | .ok s => showStack { s with session.directories := others }
  | .error f => refuse 1 [name, ": ".toList, Tool.causeText f] s

def pushUsage : String := "pushd [-n] [+N | -N | dir]"

def pushd (args : List Text) (s : State) : State :=
  let stays := args.head? == some ['-', 'n']
  let rest := if stays then args.drop 1 else args
  let rest := if rest.head? == some ['-', '-'] then rest.drop 1 else rest
  match rest, s.session.directories with
  | [], name :: others => if stays then s.succeed else goKeeping name (s.here :: others) s
  | [], [] => if stays then s.succeed else refuse 1 ["no other directory".toList] s
  | a :: more, others =>
    if isSigned a && a != ['-'] then
      match placeOf? s.stack.length a with
      | none => misused pushUsage [a, ": invalid number".toList] s
      | some none => outOfRange s a
      | some (some n) =>
        match s.stack.drop n ++ s.stack.take n with
        | [] => s.succeed
        | first :: others =>
          if stays then { s with session.directories := others }.succeed
          else goKeeping first others s
    else if !more.isEmpty then refuse 1 ["too many arguments".toList] s
    else if stays then showStack { s with session.directories := a :: others }
    else if a == ['-'] then goKeeping ((s.value? "OLDPWD".toList).getD []) (s.here :: others) s
    else goKeeping a (s.here :: others) s

def popUsage : String := "popd [-n] [+N | -N]"

def popd (args : List Text) (s : State) : State :=
  let stays := args.head? == some ['-', 'n']
  let rest := if stays then args.drop 1 else args
  let a := rest.headD ['+', '0']
  if !isSigned a then misused popUsage [a, ": invalid argument".toList] s
  else match placeOf? s.stack.length a, s.session.directories with
    | none, _ => misused popUsage [a, ": invalid number".toList] s
    | some none, _ => outOfRange s a
    | some (some _), [] => outOfRange s a
    | some (some 0), first :: others =>
      if stays then showStack { s with session.directories := others }
      else goKeeping first others s
    | some (some (n + 1)), others =>
      showStack { s with session.directories := others.eraseIdx n }

end Manuscript.Shell.Builtin
