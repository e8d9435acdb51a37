import Manuscript.Shell.Builtin.Options
import Manuscript.Shell.System

/-!
What names of commands mean, and the commands of the shell that tell.

A shell keeps the paths of the programs that were looked for. The plain dialect
keeps those that it was asked about as well; the extended one counts how often
each path was needed.
-/

namespace Manuscript.Shell.Builtin

/-- Commands of the shell after whose faults the plain dialect gives up. -/
def specials : List String :=
  [".", ":", "break", "continue", "eval", "exec", "exit", "export", "local", "readonly", "return",
    "set", "shift", "times", "trap", "unset"]

def others : List String :=
  ["[", "alias", "bg", "cd", "command", "echo", "false", "fg", "getopts", "hash", "jobs", "kill",
    "printf", "pwd", "read", "test", "true", "type", "ulimit", "umask", "unalias",
    "wait"]

def extras : List String :=
  ["builtin", "declare", "dirs", "disown", "enable", "let", "mapfile", "popd", "pushd",
    "readarray", "shopt", "source", "typeset"]

def isSpecial (name : Text) : Bool :=
  specials.any (·.toList == name)

def isBuiltin (s : State) (name : Text) : Bool :=
  isSpecial name || others.any (·.toList == name) ||
    (s.isExtended && extras.any (·.toList == name))

def aliasLine (s : State) (name text : Text) : Text :=
  name ++ '=' :: if s.isExtended then inQuotes text else singleQuoted text

/-- The commands of the plain shell that look for options, with the letters they know; a colon
stands behind one that takes a value. -/
def knownOptions : List (String × String) :=
  [(".", ""), ("cd", "LP"), ("command", "pvV"), ("exec", ""), ("export", "p"), ("hash", "rv"),
    ("jobs", "lp"), ("local", ""), ("printf", ""), ("pwd", "LP"), ("read", "p:r"),
    ("readonly", "p"), ("trap", ""), ("umask", "S"), ("unset", "fv"), ("wait", "")]

def unknownOption? (letters : Text) : List Text → Option Char
  | [] => none
  | a :: rest =>
    match a with
    | ['-', '-'] => none
    | '-' :: c :: cs =>
      match (c :: cs).find? fun c => c == ':' || !letters.contains c with
      | some bad => some bad
      | none => if letters.contains ':' && (c :: cs).contains 'p' then none
        else unknownOption? letters rest
    | _ => none

def illegalOption? (s : State) (name : Text) (args : List Text) : Option Char :=
  if s.isExtended then none
  else (knownOptions.find? (·.1.toList == name)).bind fun (_, letters) =>
    unknownOption? letters.toList args

/-! ### Meanings -/

inductive Meaning
  | keyword
  | abbreviation (text : Text)
  | special
  | function
  | builtin
  | file (path : Text)
  | tracked (path : Text)
  deriving DecidableEq, Repr

def keywords (s : State) : List String :=
  reservedWords s.dialect ++ if s.isExtended then ["]]"] else []

def filesFor (s : State) (name : Text) : List Text :=
  if name.contains '/' then
    let isThere := if s.isExtended then System.isProgram s name
      else (System.kindOf? s true name).isSome
    if isThere then [name] else []
  else match System.look s name with
    | .program _ => (System.candidates s name).filter (System.isProgram s)
    | .other path => if s.isExtended then [path] else []
    | .nothing => []

def ownMeanings (s : State) (name : Text) : List Meaning :=
  let keyword := if (keywords s).any (·.toList == name) then [Meaning.keyword] else []
  let abbreviation := (s.aliases.lookup name).toList.map Meaning.abbreviation
  let function := if s.session.functions.any (·.1 == name) then [Meaning.function] else []
  let special := isSpecial name && !s.isExtended
  let builtin := if isBuiltin s name then [Meaning.builtin] else []
  (if s.isExtended then abbreviation ++ keyword else keyword ++ abbreviation) ++
    (if special then [Meaning.special] else function ++ builtin)

/-- The files that a name means, where the path that is kept goes first. -/
def fileMeanings (s : State) (name : Text) : List Meaning :=
  match s.session.tracked.lookup name with
  | some (path, _) => [.tracked path]
  | none => (filesFor s name).map Meaning.file

def meaning? (s : State) (name : Text) : Option Meaning :=
  (ownMeanings s name ++ fileMeanings s name).head?

def sentence (s : State) (name : Text) : Meaning → List Text
  | .keyword => [name, " is a shell keyword".toList]
  | .abbreviation t =>
    if s.isExtended then [name, " is aliased to ".toList, graved t]
    else [name, " is an alias for ".toList, t]
  | .special => [name, " is a special shell builtin".toList]
  | .function =>
    [name, if s.isExtended then " is a function".toList else " is a shell function".toList]
  | .builtin => [name, " is a shell builtin".toList]
  | .file path => [name, " is ".toList, path]
  | .tracked path =>
    if s.isExtended then [name, " is hashed (".toList, path, [')']]
    else [name, " is a tracked alias for ".toList, path]

def kindWord : Meaning → String
  | .keyword => "keyword"
  | .abbreviation _ => "alias"
  | .special => "builtin"
  | .function => "function"
  | .builtin => "builtin"
  | .file _ => "file"
  | .tracked _ => "file"

def synonym (s : State) (name : Text) : Meaning → Text
  | .file path => path
  | .tracked path => path
  | .abbreviation t => "alias ".toList ++ aliasLine s name t
  | _ => name

def asked (m : Meaning) (name : Text) (s : State) : State :=
  match m with
  | .tracked _ => s.track 1 name
  | .file _ => if s.isExtended then s else s.track 1 name
  | _ => s

/-! ### Telling -/

def describe (names : List Text) (s : State) : State :=
  names.foldl (fun s name =>
    match meaning? s name with
    | some m => asked m name (s.say (sentence s name m))
    | none =>
      if s.isExtended then refuse 1 [name, ": not found".toList] s
      else (s.say [name, ": not found".toList]).setStatus 127) s.succeed

structure Inquiry where
  isFull : Bool
  isOfFiles : Bool
  skipsFunctions : Bool
  form : Option Char

def Inquiry.meanings (q : Inquiry) (s : State) (name : Text) : List Meaning :=
  let own := if q.isOfFiles then []
    else (ownMeanings s name).filter fun m => !(q.skipsFunctions && m = .function)
  let files := if q.isFull && !q.isOfFiles then (filesFor s name).map Meaning.file
    else (fileMeanings s name).take (if q.isFull then 100 else 1)
  if q.isFull then own ++ files else (own ++ files).take 1

def Inquiry.answer (q : Inquiry) (name : Text) (s : State) : State :=
  let ms := q.meanings s name
  let s := ms.foldl (fun s m =>
    let s := asked m name s
    match q.form, m with
    | some 't', m => s.say [(kindWord m).toList]
    | some _, .file path => s.say [path]
    | some _, .tracked path => s.say [path]
    | some _, _ => s
    | none, m => s.say (sentence s name m)) s
  if !ms.isEmpty then s
  else if q.form.isNone then refuse 1 [name, ": not found".toList] s
  else s.fail

def type (args : List Text) (s : State) : State :=
  if !s.isExtended then describe args s
  else match optionsOf "afptP" args with
    | .error f => misuse "type [-afptP] name [name ...]" f s
    | .ok (os, names) =>
      let has (c : Char) : Bool := os.any (·.1 == c)
      let q : Inquiry :=
        { isFull := has 'a', isOfFiles := has 'P', skipsFunctions := has 'f'
          form := Tool.lastOf? os ['t', 'p', 'P'] }
      names.foldl (fun s name => q.answer name s) s.succeed

/-- Tells in short what names mean; the plain dialect looks at one only. -/
def locate (names : List Text) (s : State) : State :=
  let names := if s.isExtended then names else names.take 1
  let (found, s) := names.foldl (fun (found, s) name =>
    match meaning? s name with
    | some m => (true, asked m name (s.say [synonym s name m]))
    | none => (found, s)) ((false, s) : Bool × State)
  s.setStatus (if found then 0 else if !s.isExtended then 127 else if names.isEmpty then 0 else 1)

def describeAny (names : List Text) (s : State) : State :=
  if s.isExtended then
    let t := describe names s
    if names.isEmpty || names.any fun n => (meaning? s n).isSome then t.succeed else t
  else if names.isEmpty then s.setStatus 127
  else describe (names.take 1) s

/-! ### Paths that are kept -/

/-- The paths that are kept, in the order in which they are listed: by numbers that are mixed from
the names. -/
def listedPaths (s : State) : List (Text × Text × Nat) :=
  if s.isExtended then
    s.session.tracked.reverse.mergeSort fun a b =>
      Value.bucket a.1 % 256 ≤ Value.bucket b.1 % 256
  else
    let key (t : Text) : Nat :=
      t.foldl (fun n c => n + c.toNat) (16 * (t.head?.map Char.toNat).getD 0) % 32768 % 31
    s.session.tracked.mergeSort fun a b => key a.1 ≤ key b.1

def forget (name : Text) (s : State) : State :=
  { s with session.tracked := s.session.tracked.filter (·.1 ≠ name) }

def keepPath (name : Text) (s : State) : State :=
  let isOwn := s.isExtended && (isBuiltin s name || s.session.functions.any (·.1 == name))
  if isOwn || name.contains '/' then s
  else match System.path? s name with
    | some _ => (forget name s).track 0 name
    | none =>
      if isBuiltin s name || s.session.functions.any (·.1 == name) then s
      else refuse 1 [name, ": not found".toList] s

def hashUsage : String := "hash [-lr] [-p pathname] [-dt] [name ...]"

def eachKept (names : List Text) (f : Text → Text → State → State) (s : State) : State :=
  names.foldl (fun s name =>
    match s.session.tracked.lookup name with
    | some (path, _) => f name path s
    | none => refuse 1 [name, ": not found".toList] s) s.succeed

def hash (args : List Text) (s : State) : State :=
  match optionsOf (if s.isExtended then "lrp:dt" else "rv") args with
  | .error f => misuse hashUsage f s
  | .ok (os, names) =>
    let has (c : Char) : Bool := os.any (·.1 == c)
    let s := if has 'r' then { s with session.tracked := [] } else s
    let reusable (name path : Text) (s : State) : State :=
      s.say ["builtin hash -p ".toList, path, [' '], name]
    let s := s.succeed
    if has 't' && names.isEmpty then misuse hashUsage (.missingValue 't') s
    else match names, Tool.lastValue? os 'p' with
      | [], _ =>
        if !s.isExtended then
          if has 'r' then s else (listedPaths s).foldl (fun s e => s.say [e.2.1]) s
        else if has 'l' then (listedPaths s).foldl (fun s e => reusable e.1 e.2.1 s) s
        else if has 'r' then s
        else if s.session.tracked.isEmpty then s.say ["hash: hash table empty".toList]
        else
          (listedPaths s).foldl (fun s e =>
            let count := Text.ofNat e.2.2
            s.say [List.replicate (4 - count.length) ' ', count, ['\t'], e.2.1])
            (s.say ["hits\tcommand".toList])
      | names, some path =>
        names.foldl (fun s name =>
          { s with session.tracked := (forget name s).session.tracked ++ [(name, path, 0)] }) s
      | names, none =>
        if has 't' then
          eachKept names (fun name path s =>
            if has 'l' then reusable name path s
            else s.say (if 1 < names.length then [name, ['\t'], path] else [path])) s
        else if has 'd' then
          if s.session.tracked.isEmpty then s else eachKept names (fun name _ s => forget name s) s
        else names.foldl (fun s name => keepPath name s) s

end Manuscript.Shell.Builtin
