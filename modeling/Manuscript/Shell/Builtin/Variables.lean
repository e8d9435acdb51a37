import Manuscript.Shell.Expansion

/-!
Commands of the shell itself that work on its parameters and options.
-/

namespace Manuscript.Shell.Builtin

abbrev Body := List Text → State → State

/-! ### Complaints -/

def refuse (status : Nat) (message : List Text) (s : State) : State :=
  (s.warn message).setStatus status

/-- What shells of the two dialects do with a fault: the plain one gives up, the other one goes on
with a status. -/
def fault (status : Nat) (message extended : List Text) (s : State) : State :=
  if s.isExtended then refuse status extended s else s.abort message

def graved (t : Text) : Text :=
  Arithmetic.Complaint.graved t

def number? (t : Text) : Option Nat :=
  if t.isEmpty || !t.all Char.isDigit then none else some (Digits.valueIn 10 t)

def singleQuoted (t : Text) : Text :=
  let parts := Text.splitBy (· == '\'') t
  Text.joinWith "\"'\"".toList (parts.map fun p => '\'' :: p ++ ['\''])

/-! ### Assignments in arguments -/

structure Given where
  name : Text
  place : Option Text := none
  adds : Bool := false
  value : Option Text := none
  deriving DecidableEq, Repr

/-- What stands behind a name, or behind its place. -/
def Given.behind? (extended : Bool) (g : Given) (t : Text) : Option Given :=
  match t, extended with
  | [], _ => some g
  | '=' :: v, _ => some { g with value := some v }
  | '+' :: '=' :: v, true => some { g with adds := true, value := some v }
  | _, _ => none

/-- What an argument means if it is of that form; places are only in the extended dialect. -/
def given? (extended : Bool) (t : Text) : Option Given :=
  let name := t.takeWhile Reading.isNameChar
  if !Reading.isName name then none
  else match t.drop name.length, extended with
    | '[' :: rest, true =>
      (Arithmetic.place? 0 [] rest).bind fun (place, rest) =>
        Given.behind? extended { name, place := some place } rest
    | rest, _ => Given.behind? extended { name } rest

def namesItself (s : State) : Bool :=
  (s.session.command.map String.ofList).any ["declare", "typeset", "local"].contains

def fixed (name : Text) (s : State) : State :=
  if s.isExtended then
    let before := s.session.command
    let s := if namesItself s then s else { s with session.command := none }
    { refuse 1 [name, ": readonly variable".toList] s with session.command := before }
  else s.abort [name, ": is read only".toList]

def give (g : Given) (s : State) : State :=
  match g.value with
  | none => s
  | some v =>
    if s.isFixed g.name then fixed g.name s
    else match g.place with
      | none => s.put g.name none g.adds v
      | some p =>
        match s.place? g.name p with
        | (some p, s) => s.put g.name (some p) g.adds v
        | (none, s) =>
          if s.halted then s else refuse 1 [g.name, ": bad array subscript".toList] s

def badName (name : Text) (s : State) : State :=
  fault 1 [name, ": bad variable name".toList] [graved name, ": not a valid identifier".toList] s

/-- Does something with the names among some arguments, each behind the text it is given. -/
def eachName (mark : Text → State → State) : List Text → State → State
  | [], s => s
  | a :: rest, s =>
    match given? s.isExtended a with
    | none =>
      let s := badName (if s.isExtended then a else a.takeWhile (· != '=')) s
      if s.halted then s else eachName mark rest s
    | some g =>
      let s := give g s
      if s.halted then s else eachName mark rest (mark g.name s)

/-! ### Lists of bindings -/

def sortedBindings (s : State) : List (Text × Binding) :=
  s.session.bindings.mergeSort fun a b => Path.textLe a.1 b.1

def doubleQuoted (t : Text) : Text :=
  if t.any fun c => c.toNat < 32 || c.toNat = 127 then inQuotes t
  else '"' :: (t.flatMap fun c =>
    if "\"\\$".toList.contains c || c = Reading.backquote then ['\\', c] else [c]) ++ ['"']

def shownKey (t : Text) : Text :=
  if !t.isEmpty && t.all fun c => c.isAlphanum || "_-./:@%+,=".toList.contains c || 128 ≤ c.toNat
  then t else doubleQuoted t

def shownValue : Value → Text
  | .text t => doubleQuoted t
  | .list items =>
    '(' :: Text.joinWith [' '] (items.map fun (n, t) =>
      '[' :: Text.ofNat n ++ "]=".toList ++ doubleQuoted t) ++ [')']
  | .table entries =>
    '(' :: (entries.flatMap fun (k, t) =>
      '[' :: shownKey k ++ "]=".toList ++ doubleQuoted t ++ [' ']) ++ [')']

def lettersOf (b : Binding) : Text :=
  (match b.value with
    | some (.list _) => ['a']
    | some (.table _) => ['A']
    | _ => []) ++ b.marks.filter (· == 'i') ++ (if b.fixed then ['r'] else []) ++
    (if b.exported then ['x'] else []) ++ b.marks.filter (· != 'i')

def definition (name : Text) (b : Binding) : Text :=
  let letters := lettersOf b
  "declare -".toList ++ (if letters.isEmpty then ['-'] else letters) ++ ' ' :: name ++
    match b.value with
    | some v => '=' :: shownValue v
    | none => []

def listBindings (verb : String) (p : Binding → Bool) (s : State) : State :=
  (sortedBindings s).foldl (fun s (name, b) =>
    if !p b then s
    else if s.isExtended then s.say [definition name b]
    else s.say [verb.toList, [' '], name, match b.text? with
      | some v => '=' :: singleQuoted v
      | none => []]) s

/-! ### Marks -/

def behind (options : List String) : List Text → List Text
  | [] => []
  | a :: rest =>
    if a == ['-', '-'] then rest
    else if options.any (·.toList == a) then behind options rest
    else a :: rest

def export_ (args : List Text) (s : State) : State :=
  match behind ["-p", "-n", "-f"] args with
  | [] => listBindings "export" (·.exported) s.succeed
  | names =>
    let on := !args.any (· == ['-', 'n'])
    eachName (fun name s => s.setBinding name { s.bindingOf name with exported := on }) names
      s.succeed

def readonly (args : List Text) (s : State) : State :=
  match behind ["-p", "-f", "-a", "-A"] args with
  | [] => listBindings "readonly" (·.fixed) s.succeed
  | args =>
    eachName (fun name s => s.setBinding name { s.bindingOf name with fixed := true }) args
      s.succeed

def lettersBehind (sign : Char) (args : List Text) : Text :=
  ((args.takeWhile fun a => (a.head? == some '-' || a.head? == some '+') && 1 < a.length).filter
    (·.head? == some sign)).flatMap (·.drop 1)

/-- What a name stands for when letters are on or off: a list, a table, or what it is. -/
def shaped (on : Text) (v : Option Value) : Option Value :=
  if on.contains 'A' then
    match v with
    | some (.table entries) => some (.table entries)
    | _ => some (.table [])
  else if on.contains 'a' then
    match v with
    | none => some (.list [])
    | some (.text t) => some (.list [(0, t)])
    | v => v
  else v

def markedBy (on off marks : Text) : Text :=
  let kept := marks.filter fun c => !off.contains c &&
    !(c == 'l' && on.contains 'u') && !(c == 'u' && on.contains 'l')
  kept ++ (on.filter fun c => "ilu".toList.contains c && !kept.contains c)

def declareOne (own : Bool) (on off : Text) (a : Text) (s : State) : State :=
  match given? true a with
  | none => badName a s
  | some g =>
    if s.isFixed g.name && (g.value.isSome || own) then fixed g.name s
    else
      let isNew := own && !(s.session.hidden.headD []).any (·.1 == g.name)
      let exported := (s.bindingOf g.name).exported
      let s := if own then s.hide g.name else s
      let s := if isNew then s.setBinding g.name { exported } else s
      let b := s.bindingOf g.name
      let s := s.setBinding g.name
        { b with value := shaped on b.value, marks := markedBy on off b.marks }
      let s := give g s
      let b := s.bindingOf g.name
      s.setBinding g.name
        { b with
          exported := (b.exported || on.contains 'x') && !off.contains 'x'
          fixed := b.fixed || on.contains 'r' }

def showNames (names : List Text) (s : State) : State :=
  names.foldl (fun s name =>
    match s.binding? name with
    | some b => s.say [definition name b]
    | none => refuse 1 [name, ": not found".toList] s) s

def showFunctions (names : List Text) (s : State) : State :=
  if names.isEmpty then
    ((s.session.functions.map (·.1)).mergeSort Path.textLe).foldl (fun s name =>
      s.say ["declare -f ".toList, name]) s
  else names.foldl (fun s name =>
    if s.session.functions.any (·.1 == name) then s.say [name] else s.fail) s

def declareIn (own : Bool) (args : List Text) (s : State) : State :=
  let on := lettersBehind '-' args
  let off := lettersBehind '+' args
  let operands := args.dropWhile fun a =>
    (a.head? == some '-' || a.head? == some '+') && 1 < a.length
  if on.contains 'F' || on.contains 'f' then showFunctions operands s.succeed
  else if on.contains 'p' && !operands.isEmpty then showNames operands s.succeed
  else if operands.isEmpty then
    listBindings "declare" (fun b => (on.filter (· != 'p')).all (lettersOf b).contains) s.succeed
  else operands.foldl (fun s a => if s.halted then s else declareOne own on off a s) s.succeed

def declare (args : List Text) (s : State) : State :=
  declareIn (s.session.calls ≠ 0 && !(lettersBehind '-' args).contains 'g') args s

def local_ (args : List Text) (s : State) : State :=
  if s.session.calls = 0 then
    fault 1 ["not in a function".toList] ["can only be used in a function".toList] s
  else if s.isExtended then declareIn true args s
  else
    let s := args.foldl (fun s a =>
      let name := a.takeWhile (· != '=')
      if Reading.isName name && !s.isFixed name then s.hide name else s) s
    eachName (fun _ s => s) (behind ["-r", "-x", "-i", "-a"] args) s.succeed

def withoutPlace (place : Text) : Value → Value
  | .list items => .list (items.filter (·.1 ≠ State.countOf place))
  | .table entries => .table (entries.filter (·.1 ≠ place))
  | v => v

def unsetName (names : Bool) (t : Text) (s : State) : State :=
  let dropFunction : State :=
    { s with session.functions := s.session.functions.filter (·.1 ≠ t) }
  match given? s.isExtended t with
  | some ⟨name, place, false, none⟩ =>
    if s.isFixed name then
      fault 1 [name, ": is read only".toList]
        [name, ": cannot unset: readonly variable".toList] s
    else match place with
      | none =>
        if (s.binding? name).isSome then s.dropBinding name
        else if s.isExtended && !names then dropFunction
        else s
      | some ['@'] => s.dropBinding name
      | some p =>
        match s.place? name p, (s.bindingOf name).value with
        | (some p, s), some v => s.setValue name (withoutPlace p v)
        | (_, s), _ => s
  | _ => if s.isExtended && !names then dropFunction else badName t s

def unset (args : List Text) (s : State) : State :=
  let functions := args.head? == some ['-', 'f']
  let names := args.head? == some ['-', 'v']
  (behind ["-v", "-f", "-n"] args).foldl (fun s t =>
    if s.halted then s
    else if functions then
      { s with session.functions := s.session.functions.filter (·.1 ≠ t) }
    else unsetName names t s) s.succeed

/-! ### Options -/

def optionWords : List (String × Char) :=
  [("errexit", 'e'), ("noglob", 'f'), ("ignoreeof", 'I'), ("interactive", 'i'), ("monitor", 'm'),
    ("noexec", 'n'), ("stdin", 's'), ("xtrace", 'x'), ("verbose", 'v'), ("vi", 'V'),
    ("emacs", 'E'), ("noclobber", 'C'), ("allexport", 'a'), ("notify", 'b'), ("nounset", 'u'),
    ("nolog", 'L'), ("debug", 'D')]

/-- The options of the extended dialect with words as names, in order; those without a letter have
digits here. -/
def extendedOptionWords : List (String × Char) :=
  [("allexport", 'a'), ("braceexpand", 'B'), ("emacs", '1'), ("errexit", 'e'), ("errtrace", 'E'),
    ("functrace", 'T'), ("hashall", 'h'), ("histexpand", 'H'), ("history", '2'),
    ("ignoreeof", '3'), ("interactive-comments", '4'), ("keyword", 'k'), ("monitor", 'm'),
    ("noclobber", 'C'), ("noexec", 'n'), ("noglob", 'f'), ("nolog", '5'), ("notify", 'b'),
    ("nounset", 'u'), ("onecmd", 't'), ("physical", '6'), ("pipefail", 'P'), ("posix", '7'),
    ("privileged", 'p'), ("verbose", 'v'), ("vi", '8'), ("xtrace", 'x')]

def optionWordsOf (s : State) : List (String × Char) :=
  if s.isExtended then extendedOptionWords else optionWords

def optionLetters (s : State) : Text :=
  if s.isExtended then "abefhkmnptuvxBCEHT".toList else "efImnsxvVECabui".toList

def setOption (on : Bool) (c : Char) (s : State) : State :=
  let rest := s.session.options.filter (· != c)
  { s with session.options := if on then rest ++ [c] else rest }

/-- The letters behind a sign; an option given by its word may be among them. The answer tells
which arguments are left, unless one is at fault. -/
def setLetters (on : Bool) : Text → List Text → State → Except (List Text) (List Text × State)
  | [], rest, s => .ok (rest, s)
  | 'o' :: cs, rest, s =>
    match rest with
    | [] => setLetters on cs [] s
    | word :: rest =>
      match (optionWordsOf s).find? (·.1.toList == word) with
      | some (_, c) => setLetters on cs rest (setOption on c s)
      | none =>
        .error (if s.isExtended then [word, ": invalid option name".toList]
          else ["Illegal option -o ".toList, word])
  | c :: cs, rest, s =>
    if (optionLetters s).contains c then setLetters on cs rest (setOption on c s)
    else .error (if s.isExtended then
        [[if on then '-' else '+', c], ": invalid option\nset: usage: set ".toList,
          "[-abefhkmnptuvxBCEHPT] [-o option-name] [--] [-] [arg ...]".toList]
      else ["Illegal option ".toList, [if on then '-' else '+', c]])

/-- The options at the beginning of arguments, at most so many of them, and the arguments behind
them; none if nothing stands there that ends them. -/
def setOptions : Nat → List Text → State → Except (List Text) (Option (List Text) × State)
  | 0, args, s => .ok (some args, s)
  | fuel + 1, args, s =>
    match args with
    | [] => .ok (none, s)
    | ['-', '-'] :: rest => .ok (some rest, s)
    | ['-'] :: rest =>
      .ok (if rest.isEmpty then none else some rest, setOption false 'x' (setOption false 'v' s))
    | ('-' :: cs) :: rest => do
      let (rest, s) ← setLetters true cs rest s
      setOptions fuel rest s
    | ['+'] :: rest => .ok (some rest, s)
    | ('+' :: cs) :: rest => do
      let (rest, s) ← setLetters false cs rest s
      setOptions fuel rest s
    | args => .ok (some args, s)

def set_ (args : List Text) (s : State) : State :=
  match args with
  | [] =>
    (sortedBindings s).foldl (fun s (name, b) =>
      match b.value with
      | some (.text v) =>
        s.say [name, ['='], if !s.isExtended then singleQuoted v
          else if v.all fun c => c.isAlphanum || "_-./:@%+,=".toList.contains c then v
          else inQuotes v]
      | some v => s.say [name, ['='], shownValue v]
      | none => s) s.succeed
  | [['-', 'o']] =>
    let s := if s.isExtended then s else s.say ["Current option settings".toList]
    (optionWordsOf s).foldl (fun s (word, c) =>
      let gap := if s.isExtended then List.replicate (15 - word.length) ' ' ++ ['\t']
        else List.replicate (16 - word.length) ' '
      s.say [word.toList, gap, if s.hasOption c then "on".toList else "off".toList]) s.succeed
  | [['+', 'o']] =>
    (optionWordsOf s).foldl (fun s (word, c) =>
      s.say [if s.hasOption c then "set -o ".toList else "set +o ".toList, word.toList]) s.succeed
  | args =>
    match setOptions (args.length + 1) args s with
    | .error message => fault 2 message message s
    | .ok (none, s) => s.succeed
    | .ok (some args, s) => { s with session.arguments := args }.succeed

def switchWords : List String :=
  ["autocd", "assoc_expand_once", "cdable_vars", "cdspell", "checkhash", "checkjobs",
    "checkwinsize", "cmdhist", "compat31", "compat32", "compat40", "compat41", "compat42",
    "compat43", "compat44", "complete_fullquote", "direxpand", "dirspell", "dotglob", "execfail",
    "expand_aliases", "extdebug", "extglob", "extquote", "failglob", "force_fignore",
    "globasciiranges", "globskipdots", "globstar", "gnu_errfmt", "histappend", "histreedit",
    "histverify", "hostcomplete", "huponexit", "inherit_errexit", "interactive_comments",
    "lastpipe", "lithist", "localvar_inherit", "localvar_unset", "login_shell", "mailwarn",
    "no_empty_cmd_completion", "nocaseglob", "nocasematch", "noexpand_translation", "nullglob",
    "patsub_replacement", "progcomp", "progcomp_alias", "promptvars", "restricted_shell",
    "shift_verbose", "sourcepath", "varredir_close", "xpg_echo"]

def firstSwitches : List String :=
  ["checkwinsize", "cmdhist", "complete_fullquote", "extquote", "force_fignore",
    "globasciiranges", "globskipdots", "hostcomplete", "interactive_comments",
    "patsub_replacement", "progcomp", "promptvars", "sourcepath"]

def setSwitch (on : Bool) (word : String) (s : State) : State :=
  let rest := s.session.switches.filter (· != word)
  { s with session.switches := if on then rest ++ [word] else rest }

def shopt (args : List Text) (s : State) : State :=
  let letters := lettersBehind '-' args
  let names := args.dropWhile fun a => a.head? == some '-'
  match letters.find? fun c => !"squpo".toList.contains c with
  | some c =>
    ((s.warn [['-', c], ": invalid option".toList]).tell
      ["shopt: usage: shopt [-pqsu] [-o] [optname ...]".toList]).setStatus 2
  | none =>
    let line (word : String) (isOn : Bool) : List Text :=
      if letters.contains 'p' then
        [if isOn then "shopt -s ".toList else "shopt -u ".toList, word.toList]
      else [word.toList, List.replicate (15 - word.length) ' ', ['\t'],
        if isOn then "on".toList else "off".toList]
    let sets := letters.contains 's' || letters.contains 'u'
    if letters.contains 'o' then
      names.foldl (fun s t =>
        match extendedOptionWords.find? (·.1.toList == t) with
        | some (_, c) =>
          if sets then setOption (letters.contains 's') c s
          else if s.hasOption c then s else s.fail
        | none => refuse 1 [t, ": invalid option name".toList] s) s.succeed
    else if names.isEmpty then
      switchWords.foldl (fun s word =>
        let isOn := s.hasSwitch word
        let isWanted := !sets || isOn == letters.contains 's'
        if isWanted && !letters.contains 'q' then s.say (line word isOn) else s) s.succeed
    else names.foldl (fun s t =>
      match switchWords.find? (·.toList == t) with
      | none => refuse 1 [t, ": invalid shell option name".toList] s
      | some word =>
        if sets then setSwitch (letters.contains 's') word s
        else
          let isOn := s.hasSwitch word
          let s := if letters.contains 'q' then s else s.say (line word isOn)
          if isOn then s else s.fail) s.succeed

/-! ### Arguments -/

def shift (args : List Text) (s : State) : State :=
  match args.head?.map number? with
  | some none =>
    let t := args.headD []
    fault 1 ["Illegal number: ".toList, t] [t, ": numeric argument required".toList] s
  | n =>
    let n := (n.getD (some 1)).getD 1
    if s.session.arguments.length < n then
      if s.isExtended then s.fail else s.abort ["can't shift that many".toList]
    else { s with session.arguments := s.session.arguments.drop n }.succeed

/-- The option that arguments hold at a place, if they hold one there, and the place behind it. A
place is the number of an argument and how many of its characters have been read. -/
def optionAt? (args : List Text) (index offset : Nat) : Option (Char × Text × Nat × Nat) :=
  let a := args.getD index []
  if offset ≠ 0 && offset < a.length then
    let rest := a.drop (offset + 1)
    some (a.getD offset ' ', rest, index, if rest.isEmpty then 0 else offset + 1)
  else
    let index := if offset ≠ 0 then index + 1 else index
    match args[index]? with
    | some ('-' :: '-' :: []) => none
    | some ('-' :: c :: rest) => some (c, rest, index, if rest.isEmpty then 0 else 2)
    | _ => none

def getopts (args : List Text) (s : State) : State :=
  match args with
  | letters :: name :: given =>
    let given := if given.isEmpty then s.session.arguments else given
    let inside := s.session.optionOffset ≠ 0
    -- The plain dialect already counts an argument whose letters are still being read.
    let ahead := if s.isExtended then 0 else 1
    let start := ((s.value? "OPTIND".toList).bind number?).getD 1 - 1 - if inside then ahead else 0
    let silent := letters.head? == some ':'
    let finish (status index offset : Nat) (option : Text) (value : Option Text) (s : State) :
        State :=
      let shown := index + 1 + if offset ≠ 0 then ahead else 0
      let s := s.assign "OPTIND".toList (Text.ofNat shown)
      let s := match value with
        | some v => s.assign "OPTARG".toList v
        | none =>
          if s.isExtended then s.dropBinding "OPTARG".toList else s.assign "OPTARG".toList []
      let s := { s with session.optionOffset := offset }
      if Reading.isName name then (s.assign name option).setStatus status
      else badName name s
    match optionAt? given start s.session.optionOffset with
    | none =>
      let index := if given[start]? == some ['-', '-'] then start + 1 else start
      finish 1 index 0 ['?'] none s
    | some (c, rest, index, offset) =>
      let next := if offset = 0 then index + 1 else index
      match if c == ':' then [] else letters.dropWhile (· != c) with
      | [] =>
        let s := if silent then s
          else if s.isExtended then
            s.tell [s.session.name, ": illegal option -- ".toList, [c]]
          else s.tell ["Illegal option -".toList, [c]]
        finish 0 next offset ['?'] (if silent then some [c] else none) s
      | _ :: ':' :: _ =>
        if !rest.isEmpty then finish 0 (index + 1) 0 [c] (some rest) s
        else match given[index + 1]? with
          | some value => finish 0 (index + 2) 0 [c] (some value) s
          | none =>
            let s := if silent then s
              else if s.isExtended then
                s.tell [s.session.name, ": option requires an argument -- ".toList, [c]]
              else s.tell ["No arg for -".toList, [c], " option".toList]
            finish 0 (index + 1) 0 (if silent then [':'] else ['?'])
              (if silent then some [c] else none) s
      | _ => finish 0 next offset [c] none s
  | _ =>
    if s.isExtended then
      (s.tell ["getopts: usage: getopts optstring name [arg ...]".toList]).setStatus 2
    else s.abort ["Usage: getopts optstring var [arg...]".toList]

/-! ### Reading -/

/-- A line with its escapes read: characters, and whether each was escaped. The line goes on where
its end is escaped. -/
def readLine (delimiter : Char) (raw : Bool) :
    Nat → Handle → Marked → State → Marked × Bool × State
  | 0, _, read, s => (read, false, s)
  | fuel + 1, h, read, s =>
    let (line, ended, s) := s.takeUntil h delimiter
    if raw then (read ++ line.map (·, false), ended, s)
    else
      let rec unescape : Text → Marked → Marked × Bool
        | [], made => (made.reverse, false)
        | ['\\'], made => (made.reverse, true)
        | '\\' :: c :: rest, made => unescape rest ((c, true) :: made)
        | c :: rest, made => unescape rest ((c, false) :: made)
      let (m, goesOn) := unescape line []
      if goesOn && ended then readLine delimiter raw fuel h (read ++ m) s
      else (read ++ m, ended, s)

def isBlankSeparator (separators : Text) (e : Char × Bool) : Bool :=
  !e.2 && separators.contains e.1 && (e.1 == ' ' || e.1 == '\t' || e.1 == '\n')

def isSeparator (separators : Text) (e : Char × Bool) : Bool :=
  !e.2 && separators.contains e.1

/-- The values of so many names, the last of which gets all that is left. -/
def distributed (separators : Text) : Nat → Marked → List Text
  | 0, _ => []
  | 1, m =>
    let m := m.dropWhile (isBlankSeparator separators)
    let trimmed := (m.reverse.dropWhile (isBlankSeparator separators)).reverse
    let field := m.takeWhile (!isSeparator separators ·)
    let behind := (m.drop field.length).dropWhile (isBlankSeparator separators)
    match behind with
    | [e] => [if isSeparator separators e then unmark field else unmark trimmed]
    | _ => [unmark trimmed]
  | n + 1, m =>
    let m := m.dropWhile (isBlankSeparator separators)
    let field := m.takeWhile (!isSeparator separators ·)
    let behind := (m.drop field.length).dropWhile (isBlankSeparator separators)
    let behind := match behind with
      | e :: rest =>
        if isSeparator separators e && !isBlankSeparator separators e then rest else behind
      | [] => []
    unmark field :: distributed separators n behind

structure ReadRequest where
  raw : Bool := false
  list : Option Text := none
  delimiter : Char := '\n'
  limit : Option Nat := none
  exact : Bool := false
  stream : Nat := 0
  names : List Text := []

def readRequest (extended : Bool) : Nat → ReadRequest → List Text → ReadRequest
  | 0, r, args => { r with names := args }
  | _, r, [] => r
  | fuel + 1, r, a :: rest =>
    match a with
    | ['-', '-'] => { r with names := rest }
    | '-' :: c :: cs =>
      let letters := c :: cs
      let raw := r.raw || letters.contains 'r'
      match letters.find? "pntdiuaN".toList.contains with
      | some option =>
        let inside := (letters.dropWhile (· != option)).drop 1
        let (value, rest) := if inside.isEmpty then (rest.headD [], rest.drop 1) else (inside, rest)
        let r := { r with raw }
        let r := if !extended then r else match option with
          | 'a' => { r with list := some value }
          | 'd' => { r with delimiter := value.headD '\x00' }
          | 'n' => { r with limit := number? value }
          | 'N' => { r with limit := number? value, exact := true }
          | 'u' => { r with stream := (number? value).getD 0 }
          | _ => r
        readRequest extended fuel r rest
      | none => readRequest extended fuel { r with raw } rest
    | _ => { r with names := a :: rest }

/-- The first field of a line that does not begin with blanks, and what stands behind its
separator. -/
def firstField (separators : Text) (m : Marked) : Text × Marked :=
  let field := m.takeWhile (!isSeparator separators ·)
  let behind := (m.drop field.length).dropWhile (isBlankSeparator separators)
  match behind with
  | e :: rest =>
    if isSeparator separators e then (unmark field, rest.dropWhile (isBlankSeparator separators))
    else (unmark field, behind)
  | [] => (unmark field, [])

def fieldsIn (separators : Text) : Nat → Marked → List Text
  | 0, _ => []
  | _, [] => []
  | fuel + 1, m =>
    let (t, rest) := firstField separators m
    t :: fieldsIn separators fuel rest

def read (args : List Text) (s : State) : State :=
  let r := readRequest s.isExtended (args.length + 1) {} args
  let names := if r.names.isEmpty && s.isExtended then ["REPLY".toList] else r.names
  if names.isEmpty then s.abort ["arg count".toList]
  else match names.find? (!Reading.isName ·) with
    | some name => badName name s
    | none =>
      match s.stream? r.stream with
      | none =>
        if s.isExtended && r.stream ≠ 0 then
          refuse 1 [Text.ofNat r.stream, ": invalid file descriptor: Bad file descriptor".toList] s
        else s.fail
      | some h =>
        let (m, ended, s) := match r.limit with
          | some n =>
            let (t, s) := s.takeBytes h n
            let line := if r.exact then t else t.takeWhile (· != r.delimiter)
            (line.map (·, false), t.length = n || line.length < t.length, s)
          | none => readLine r.delimiter r.raw 100000 h [] s
        let status := if ended then 0 else 1
        match r.list with
        | some name =>
          let s := s.setValue name (.list [])
          let start := m.dropWhile (isBlankSeparator s.separators)
          let items := (fieldsIn s.separators (m.length + 1) start).map fun t =>
            ((none : Option Text), t)
          let s := s.putList name false items
          if s.halted then s else s.setStatus status
        | none =>
          let values := if r.names.isEmpty || r.exact then [unmark m]
            else distributed s.separators names.length m
          (names.zip values).foldl (fun s (name, v) =>
            if s.halted then s else give { name, value := some v } s) (s.setStatus status)

structure LinesRequest where
  drops : Bool := false
  most : Nat := 0
  skipped : Nat := 0
  delimiter : Char := '\n'
  name : Text := "MAPFILE".toList

def linesRequest : Nat → LinesRequest → List Text → LinesRequest
  | 0, r, _ => r
  | _, r, [] => r
  | fuel + 1, r, a :: rest =>
    match a with
    | '-' :: letters =>
      let value := rest.headD []
      let r := { r with drops := r.drops || letters.contains 't' }
      match letters.getLast? with
      | some 'n' => linesRequest fuel { r with most := (number? value).getD 0 } (rest.drop 1)
      | some 's' => linesRequest fuel { r with skipped := (number? value).getD 0 } (rest.drop 1)
      | some 'd' => linesRequest fuel { r with delimiter := value.headD '\x00' } (rest.drop 1)
      | _ => linesRequest fuel r rest
    | name => linesRequest fuel { r with name } rest

def mapfile (args : List Text) (s : State) : State :=
  let r := linesRequest (args.length + 1) {} args
  let (t, s) := s.takeAllOf s.input
  let parts := Text.splitBy (· == r.delimiter) t
  let ended := parts.dropLast.map fun l => if r.drops then l else l ++ [r.delimiter]
  let lines := (ended ++ parts.getLast?.toList.filter (!·.isEmpty)).drop r.skipped
  (s.setValue r.name (State.numbered (if r.most = 0 then lines else lines.take r.most))).succeed

end Manuscript.Shell.Builtin
