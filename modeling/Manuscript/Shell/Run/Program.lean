import Manuscript.Shell.Program
import Manuscript.Shell.Run.Text
import Manuscript.Shell.Tool.Table

/-!
Running programs in sessions of their own: tools, shells, and scripts that name
one of them.
-/

namespace Manuscript.Shell

def State.started (d : Dialect) (self : Text) (s : State) : State :=
  let s := { s with
    session.dialect := d
    session.name := self
    session.arguments := []
    session.way :=
      let way := s.exportedPath?.getD []
      if d = Dialect.extended && !way.isEmpty then (Builtin.plainPath s way).2 else way
    session.options := if d = Dialect.extended then ['h', 'B', '4'] else []
    session.switches := if d = Dialect.extended then Builtin.firstSwitches else [] }
  s.setBinding "PWD".toList { value := some (.text s.here), exported := true }

def runShell (exec : Exec) (dialect : Dialect) (self : Text) (args : List Text) (s : State) :
    State :=
  let s := s.started dialect self
  let script (text : Text) (s : State) : State :=
    let s := (s.assign "OPTIND".toList ['1']).assign "IFS".toList [' ', '\t', '\n']
    let s := s.assign "PS4".toList "+ ".toList
    let s := s.assign "PPID".toList (Text.ofNat (s.ancestors.headD (s.session.process - 1)))
    let s := if dialect = .plain then
        (s.assign "PS1".toList "# ".toList).assign "PS2".toList "> ".toList
      else s
    let s := s.setStatus 0
    let source : Source :=
      { dialect, rest := withoutEnds text, line := 1, isFile := !s.session.isArgument }
    conclude exec (runSource exec maxRounds source s)
  let complain (status : Nat) (message : List Text) : State :=
    let s := if dialect = .extended then s.tell (self :: ": ".toList :: message)
      else s.warn message
    (s.setStatus status).jump .exit
  match invocation (args.length + 1) args {} s with
  | .error message => complain 2 message
  | .ok (v, s) =>
    match v.isText, v.readsInput, v.operands with
    | true, _, [] =>
      complain 2 (if dialect = .extended then ["-c: option requires an argument".toList]
        else ["-c requires an argument".toList])
    | true, _, [text] => script text { s with session.isArgument := true }
    | true, _, text :: name :: arguments =>
      script text { s with
        session.name := name, session.arguments := arguments, session.isArgument := true }
    | false, false, path :: arguments =>
      match s.contents path with
      | .ok (text, s) =>
        if dialect = .extended && isBinary dialect (text.take 80) then
          ((s.tell [path, ": ".toList, path, ": cannot execute binary file".toList]).setStatus
            126).jump .exit
        else script text { s with session.name := path, session.arguments := arguments }
      | .error (.os .isDirectory) =>
        if dialect = .extended then
          (s.tell [path, ": ".toList, path, ": Is a directory".toList]).setStatus 126
        else s.succeed
      | .error f =>
        if dialect = .extended then complain 127 [path, ": ".toList, Tool.causeText f]
        else complain 2 (Redirect.complaint false false path f)
    | false, _, operands =>
      let (text, s) := s.takeAllOf s.input
      script text { s with session.arguments := operands }

def runProgram (exec : Exec) (start : Tool.Runner) (p : System.Program) (self : Text)
    (args : List Text) (s : State) : State :=
  match p with
  | .tool tool =>
    match Tool.find? start tool with
    | some f => { State.settleTool (f args { s with self }) with self := s.self }
    | none => s.setStatus 127
  | .shell dialect => (runShell exec dialect self args s.enterProgram).leaveProgram s

/-- Runs a program given by its name and arguments in a session of its own, or tells why it cannot
be started. A text that does not say what it is for is given to the plain shell. -/
def start (exec : Exec) : Nat → List Text → State → Except Errno State
  | 0, _, s => .ok s.outOfTime
  | fuel + 1, words, s =>
    let name := words.headD []
    let args := words.drop 1
    let hasPath := (s.value? "PATH".toList).isSome
    let usual := if hasPath then none else System.usually s (System.path? · name)
    match (System.path? s name).or usual with
    | none => .error .notFound
    | some path =>
      match runnableAt s name path with
      | .error e => .error e
      | .ok (.program p self before) =>
        .ok (runProgram exec (start exec fuel) p self (before ++ args) s)
      | .ok (.text _) =>
        .ok (runProgram exec (start exec fuel) (.shell .plain) "sh".toList (path :: args) s)

/-- Runs what stands at a path for a shell, under a name. A text that does not say what it is for is
given to a shell of the same kind if it looks like commands. -/
def startAt (exec : Exec) (path name : Text) (args : List Text) (s : State) :
    Except Errno State :=
  match runnableAt s name path with
  | .error e => .error e
  | .ok (.program p self before) =>
    .ok (runProgram exec (start exec maxRounds) p self (before ++ args) s)
  | .ok (.text head) =>
    let shell := runProgram exec (start exec maxRounds) (.shell s.dialect) "sh".toList
    if isBinary s.dialect head then .error .badFormat else .ok (shell (path :: args) s)

/-! ### Commands that cannot be run -/

def State.refusalStatus (s : State) (e : Errno) : Nat :=
  let isMissing := e = .notFound ||
    (!s.isExtended && (e = .notDirectory || e = .loop || e = .nameTooLong))
  if isMissing then 127 else 126

/-- What a plain shell says of a command that cannot be run. -/
def plainRefusal (e : Errno) : Text :=
  if e = .notFound || e = .notDirectory then "not found".toList else e.text.toList

def State.refusePath (path : Text) (e : Errno) (s : State) : State :=
  let told (cause : Text) : State := s.warn [path, ": ".toList, cause]
  if System.kindOf? s true path == some .directory then told Errno.isDirectory.text.toList
  else match executableAt s path with
    | .error _ => told e.text.toList
    | .ok bytes =>
      if e = .notFound then told "cannot execute: required file not found".toList
      else if e = .badFormat then
        told ("cannot execute binary file: ".toList ++ e.text.toList)
      else
        let program := ((interpreter? (Octets.ofBytes (bytes.take headSize))).map (·.1)).getD []
        s.tell [s.session.source.getD s.session.name, ": ".toList, path, ": ".toList, program,
          ": bad interpreter: ".toList, e.text.toList]

def shownName (name : Text) : Text :=
  if name.any fun c => c.toNat < 32 || c.toNat = 127 then inQuotes name else name

def runFound (exec : Exec) (found : System.Finding) (name : Text) (args : List Text) (s : State) :
    State :=
  match found with
  | .program path =>
    match startAt exec path name args s with
    | .ok s => s
    | .error e =>
      (if s.isExtended then s.refusePath path e
        else s.warn [name, ": ".toList, plainRefusal e]).setStatus (s.refusalStatus e)
  | .other path =>
    if s.isExtended then
      (s.warn [path, ": ".toList, Errno.permission.text.toList]).setStatus 126
    else (s.warn [name, ": ".toList, Errno.permission.text.toList]).setStatus 127
  | .nothing =>
    let isBare := ((s.value? "PATH".toList).getD []).isEmpty
    let cause := if !s.isExtended then ": not found".toList
      else if isBare && !name.isEmpty then ": No such file or directory".toList
      else ": command not found".toList
    (s.warn [if s.isExtended then shownName name else name, cause]).setStatus 127

def runExternal (exec : Exec) (name : Text) (args : List Text) (s : State) : State :=
  runFound exec (System.look s name) name args (s.track 1 name)

/-! ### Taking the place of the shell -/

/-- How a program is to take the place of a shell. -/
structure Replacement where
  name : Option Text := none
  isLogin : Bool := false
  isBare : Bool := false

def State.fullPath (s : State) (path : Text) : Text :=
  if path.head? == some '/' then path
  else
    let name := (Text.dropBeginning? "./".toList path).getD path
    System.under s.here name

def State.refuseReplacement (path name : Text) (e : Errno) (s : State) : State :=
  let told := if s.isExtended then
      let t := { s with session.command := none }.refusePath path e
      let t := { t with session.command := s.session.command }
      if e = .notFound then t
      else match executableAt s path with
        | .ok _ => { t with session.command := none }.warn [path, ": Success".toList]
        | .error _ =>
          let cause := if System.kindOf? s true path == some .directory then Errno.isDirectory
            else e
          t.warn [path, ": cannot execute: ".toList, cause.text.toList]
    else s.warn [name, ": ".toList, plainRefusal e]
  (told.setStatus (s.refusalStatus e)).jump .exit

def Replacement.run (r : Replacement) (exec : Exec) (name : Text) (args : List Text) (s : State) :
    State :=
  let called := r.name.getD name
  let called := if r.isLogin then '-' :: called else called
  let inner := { s with session.command := none }
  let inner := if r.isBare then { inner with session.bindings := [] } else inner
  let go (path : Text) : State :=
    match startAt exec path called args inner with
    | .ok t => if t.halted then t else { t with session.traps := [] }.jump .exit
    | .error e => s.refuseReplacement path name e
  match System.look s name with
  | .program path => go (if s.isExtended then s.fullPath path else path)
  | .other path =>
    if s.isExtended then go (s.fullPath path)
    else ((s.warn [name, ": ".toList, Errno.permission.text.toList]).setStatus 126).jump .exit
  | .nothing => ((s.warn [name, ": not found".toList]).setStatus 127).jump .exit

/-- Puts a program in the place of the shell; without one only the redirections stay. -/
def replace (exec : Exec) (args : List Text) (s : State) : State :=
  match Builtin.optionsOf (if s.isExtended then "a:cl" else "") args with
  | .error f =>
    Builtin.misuse "exec [-cl] [-a name] [command [argument ...]] [redirection ...]" f s
  | .ok (_, []) => s.succeed
  | .ok (os, name :: args) =>
    let r : Replacement :=
      { name := Tool.lastValue? os 'a'
        isLogin := os.any (·.1 == 'l')
        isBare := os.any (·.1 == 'c') }
    r.run exec name args s

end Manuscript.Shell
