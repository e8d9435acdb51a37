import Manuscript.Shell.Leaving
import Manuscript.Shell.Run.Program

/-!
Running commands made of words: those of the shell itself, functions and
programs.
-/

namespace Manuscript.Shell

/-! ### Texts as commands -/

def maxTexts : Nat := 1000

def runEval (exec : Exec) (args : List Text) (s : State) : State :=
  let text := Text.joinWith [' '] args
  if s.isExtended then
    let before := s.session.reading
    let s := runText exec text
      { s with session.command := none, session.reading := "eval: ".toList }
    let s := { s with session.reading := before }
    if s.session.jump = some Jump.abort && s.status = 2 then { s with session.jump := none } else s
  else runText exec text s.succeed

def runFile (exec : Exec) (special : Bool) (self : Text) (args : List Text) (s : State) : State :=
  match args with
  | [] =>
    if s.isExtended then
      ((s.warn ["filename argument required".toList]).tell
        [self, ": usage: ".toList, self, " filename [arguments]".toList]).setStatus 2
    else s.setStatus 0
  | name :: rest =>
    let path :=
      if name.contains '/' then some name
      else match System.find? s name with
        | some path => some path
        | none => if s.isExtended then some name else none
    match path with
    | none => afterFault special (s.abort [name, ": not found".toList])
    | some path =>
      match s.contents path with
      | .error f =>
        if s.isExtended then
          ({ s with session.command := none }.warn [name, ": ".toList, Tool.causeText f]).fail
        else afterFault special (s.abort (Redirect.complaint false false name f))
      | .ok (text, s) =>
        let outer := s.session
        let arguments := if s.isExtended && !rest.isEmpty then rest else outer.arguments
        let inner := { s with
          session.arguments := arguments
          session.sourced := outer.sourced + 1
          session.source := if s.isExtended then some name else none
          session.reading := []
          session.command := if s.isExtended then none else some path }
        let t := if maxTexts ≤ outer.sourced then inner.outOfTime
          else
            let source : Source :=
              { dialect := s.dialect, rest := withoutEnds text, line := 1, isFile := true }
            runSource exec maxRounds source inner.succeed
        let t := { t with
          session.arguments := if rest.isEmpty || !s.isExtended then t.session.arguments
            else outer.arguments
          session.sourced := outer.sourced
          session.source := outer.source
          session.reading := outer.reading
          session.line := outer.line }
        let isRefused := s.isExtended && t.session.jump = some Jump.abort && t.status = 2
        if t.session.jump = some Jump.leaveFunction || isRefused then
          { t with session.jump := none }
        else t

/-! ### Commands of the shell -/

def runBuiltin (exec : Exec) : Nat → Bool → Text → List Text → State → State
  | 0, _, _, _, s => s.outOfTime
  | fuel + 1, special, name, args, s =>
    let before := s.session.command
    let s := { s with session.command := some name }
    let back (t : State) : State := { t with session.command := before }
    match Builtin.illegalOption? s name args with
    | some c => back (afterFault special (s.abort ["Illegal option -".toList, [c]]))
    | none =>
    match String.ofList name with
    | "eval" => back (runEval exec args s)
    | "." => back (runFile exec special name args s)
    | "source" => back (runFile exec special name args s)
    | "exec" => back (replace exec args s)
    | "exit" => back (exit args s)
    | "return" => back (afterFault special (return_ args s))
    | "break" => back (afterFault special (leaveLoops name false args s))
    | "continue" => back (afterFault special (leaveLoops name true args s))
    | "command" =>
      match Builtin.optionsOf "pvV" args with
      | .error f => back (Builtin.misuse "command [-pVv] command [arg ...]" f s)
      | .ok (os, words) =>
        let usual := os.any (·.1 == 'p')
        let asks := if s.isExtended then Tool.lastOf? os ['v', 'V']
          else if os.any (·.1 == 'V') then some 'V' else Tool.lastOf? os ['v']
        match asks, words with
        | some c, names =>
          let tell (s : State) : State :=
            if c == 'v' then Builtin.locate names s else Builtin.describeAny names s
          if usual then
            let t := System.usually s tell
            back { t with
              session.bindings := s.session.bindings, session.tracked := s.session.tracked }
          else back (tell s)
        | none, [] => back s.succeed
        | none, name :: args =>
          let s := back s
          if Builtin.isBuiltin s name then
            afterFault false (runBuiltin exec fuel false name args s)
          else if usual then runFound exec (System.usually s (System.look · name)) name args s
          else runExternal exec name args s
    | "builtin" =>
      match args with
      | [] => back s.succeed
      | name :: args =>
        if Builtin.isBuiltin s name then runBuiltin exec fuel false name args (back s)
        else back (Builtin.refuse 1 [name, ": not a shell builtin".toList] s)
    | _ =>
      match Builtin.find? name with
      | some f => back (State.settleBuiltin name (afterFault special (f args s)))
      | none => back s.succeed

/-! ### Functions -/

def maxCalls : Nat := 1000

def call (exec : Exec) (name : Text) (body : Command) (args : List Text) (s : State) : State :=
  if maxCalls ≤ s.session.calls then
    if s.isExtended then s.jump (.killed 11)
    else s.abort ["Maximum function recursion depth (".toList, Text.ofNat maxCalls,
      ") reached".toList]
  else
    let inner := { s.beginScope with
      session.arguments := args
      session.calls := s.session.calls + 1
      session.loops := 0
      session.working := (name, s.session.line) :: s.session.working }
    let t := exec body inner
    let t := { t.endScope with
      session.arguments := s.session.arguments
      session.calls := s.session.calls
      session.loops := s.session.loops
      session.working := s.session.working }
    match t.session.jump with
    | some .leaveFunction => { t with session.jump := none }
    | some (.leaveLoops ..) => { t with session.jump := none }
    | _ => t

/-! ### Words -/

/-- Runs a command with its arguments, after giving values to names for it. -/
def invoke (exec : Exec) (error : Option Handle) (assignments : List Assignment) (name : Text)
    (args : List Text) (s : State) : State :=
  let special := Builtin.isSpecial name && !s.isExtended
  let function := s.session.functions.lookup name
  let isOwn := special || function.isSome || Builtin.isBuiltin s name
  let before := assignments.map fun a => (a.name, s.binding? a.name)
  let (given, s) :=
    assignEach (capture exec) true (!isOwn || function.isSome) assignments s
  let restore (t : State) : State :=
    if special then t
    else before.foldl (fun t (n, b) => t.restore n b) t
  if s.halted then s
  else
    let s := if s.isExtended then
        (given.foldl (fun s t => s.trace error [t]) s).trace error
          ((name :: args).map tracedWord)
      else s.trace error (given ++ name :: args)
    match if special then none else function with
    | some (_, body) => restore (call exec name body args s)
    | none =>
      if isOwn then restore (runBuiltin exec maxRounds special name args s)
      else restore (runExternal exec name args s)

def runSimple (exec : Exec) (assignments : List Assignment) (words : List Word)
    (redirects : List Redirect) (s : State) : State :=
  let streams := s.session.streams
  let opened := s.session.channels.length
  let (words, s) := expandWords (capture exec) words s
  if s.halted then s
  else
    let s := s.spend (words.foldl (fun n w => n + w.length) 0 / 64)
    let isExec := words.head? == some "exec".toList
    let (complaint, s) := Redirect.carryOutAll (capture exec) redirects s
    let back (t : State) : State :=
      if isExec && !t.halted then t
      else
        let t := { t with session.streams := streams }
        if t.session.channels.length = opened then t else settleChannels exec maxRounds opened t
    if s.halted then back s
    else match complaint with
      | some message =>
        let status := if s.isExtended then 1 else 2
        let special := words.head?.any Builtin.isSpecial && !s.isExtended
        let s := (s.warn message).setStatus status
        { (if special then s.jump .abort else s) with session.streams := streams }
      | none =>
        let error := streams.lookup 2
        match words with
        | [] =>
          let (shown, s) := assignEach (capture exec) false false assignments s
          if s.halted then back s
          else
            let s := if shown.isEmpty then s
              else if s.isExtended then shown.foldl (fun s t => s.trace error [t]) s
              else s.trace error shown
            back (s.setStatus s.session.substituted)
        | name :: args => back (withLists (invoke exec error assignments name args s))

end Manuscript.Shell
