import Manuscript.Shell.Leaving
import Manuscript.Shell.Run.Text

/-!
Running commands that are made of others: loops, choices and pipes.
-/

namespace Manuscript.Shell

/-! ### Loops -/

def runLoop (exec : Exec) : Nat → Bool → Command → Command → Nat → State → State
  | 0, _, _, _, _, s => s.outOfTime
  | fuel + 1, success, test, body, last, s =>
    let s := tested exec test s
    match s.session.jump with
    | some (.leaveLoops n goOn) =>
      if 1 < n then s.jump (.leaveLoops (n - 1) goOn)
      else
        let s := { s with session.jump := none }
        if goOn then runLoop exec fuel success test body last s else s.setStatus last
    | some _ => s
    | none =>
      if (s.status == 0) != success then s.setStatus last
      else
        let s := exec body s
        match s.session.jump with
        | some (.leaveLoops n goOn) =>
          if 1 < n then s.jump (.leaveLoops (n - 1) goOn)
          else
            let s := { s with session.jump := none }
            if goOn then runLoop exec fuel success test body s.status s else s
        | some _ => s
        | none => runLoop exec fuel success test body s.status s

def runEach (exec : Exec) (name : Text) (shown : List Text) (body : Command) :
    List Text → State → State
  | [], s => s
  | v :: rest, s =>
    if s.isFixed name then
      if s.isExtended then Builtin.refuse 1 [name, ": readonly variable".toList] s
      else s.refuseFixed name
    else
      let s := exec body ((s.traceExtended shown).put name none false v)
      match s.session.jump with
      | some (.leaveLoops n goOn) =>
        if 1 < n then s.jump (.leaveLoops (n - 1) goOn)
        else
          let s := { s with session.jump := none }
          if goOn then runEach exec name shown body rest s else s
      | some _ => s
      | none => runEach exec name shown body rest s

/-- The value of an expression between double parentheses; a fault in it counts as zero. -/
def calculated (exec : Exec) (expression : Word) (s : State) : Int × State :=
  let (t, s) := expandWhole (capture exec) false expression s
  if s.halted then (0, s)
  else if expression.isEmpty then (1, s)
  else
    let s := s.traceExtended ["((".toList, t.dropWhile Arithmetic.isBlank, "))".toList]
    let before := s.session.command
    let (n, s) := { s with session.command := some "((".toList }.calculate t
    (n, afterFault false { s with session.command := before })

def runCounted (exec : Exec) : Nat → Nat → Word → Word → Command → Nat → State → State
  | 0, _, _, _, _, _, s => s.outOfTime
  | fuel + 1, line, test, step, body, last, s =>
    let (n, s) := calculated exec test { s.spend 1 with session.line := line }
    if s.halted then s
    else if n = 0 then s.setStatus last
    else
      let s := exec body s
      let further (s : State) : State :=
        let status := s.status
        let (_, s) := calculated exec step s
        if s.halted then s else runCounted exec fuel line test step body status s
      match s.session.jump with
      | some (.leaveLoops n goOn) =>
        if 1 < n then s.jump (.leaveLoops (n - 1) goOn)
        else
          let s := { s with session.jump := none }
          if goOn then further s else s
      | some _ => s
      | none => further s

def runQuestions (exec : Exec) : Nat → Text → Command → List Text → Bool → State → State
  | 0, _, _, _, _, s => s.outOfTime
  | fuel + 1, name, body, values, shows, s =>
    let s := s.spend 1
    let s := if shows then values.zipIdx.foldl (fun s (v, n) =>
        s.tell [Text.ofNat (n + 1), ") ".toList, v]) s
      else s
    let s := s.write 2 ((s.value? "PS3".toList).getD "#? ".toList)
    let (line, ended, s) := s.takeUntil s.input '\n'
    if s.halted then s
    else if line.isEmpty && !ended then (s.out ['\n']).fail
    else
      let answer := unmark (((line.map (·, false)).dropWhile fun e => Fields.isFieldBlank e.1))
      let s := s.assign "REPLY".toList line
      if answer.isEmpty then runQuestions exec fuel name body values true s
      else
        let chosen := (Builtin.number? answer).bind fun n =>
          if n = 0 then none else values[n - 1]?
        let s := exec body (s.assign name (chosen.getD []))
        match s.session.jump with
        | some (.leaveLoops n goOn) =>
          if 1 < n then s.jump (.leaveLoops (n - 1) goOn)
          else
            let s := { s with session.jump := none }
            if goOn then runQuestions exec fuel name body values false s else s
        | some _ => s
        | none => runQuestions exec fuel name body values false s

/-! ### Choices -/

def coversOne (exec : Exec) (t : Text) : List Word → State → Bool × State
  | [], s => (false, s)
  | p :: rest, s =>
    let (m, s) := expandPattern (capture exec) p s
    if s.halted then (false, s)
    else if Wildcard.matchesText s.style m t then (true, s)
    else coversOne exec t rest s

/-- Runs the first arm with a pattern that covers a text, or the very first one, and then perhaps
others behind it. -/
def runArms (exec : Exec) (t : Text) :
    Bool → Bool → List (List Word × Option Command × After) → State → State
  | _, found, [], s => if found then s else s.succeed
  | falls, found, (patterns, body, after) :: rest, s =>
    let (hit, s) := if falls then (true, s) else coversOne exec t patterns s
    if s.halted then s
    else if hit then
      let s := match body with
        | some c => exec c s.succeed
        | none => s.succeed
      if s.halted then s
      else match after with
        | .leave => s
        | .next => runArms exec t true true rest s
        | .others => runArms exec t false true rest s
    else runArms exec t false found rest s

/-! ### Pipes -/

/-- How much readers of pipes take, one try after the other. -/
def pipeSizes : List Nat :=
  [131072, 1048576, 8388608]

/-- Runs the stages of a pipe from one on, whose input is given. All of them begin at the same
time. -/
def runStages (exec : Exec) (size : Nat) :
    List Command → Option Supply → List Nat → State → State
  | [], _, _, s => s
  | stage :: rest, input, statuses, s =>
    let supplied := match input with
      | some k =>
        let (h, s) := s.addSupply k
        s.setStream 0 h
      | none => s
    let back (t : State) : State := { t with session.streams := s.session.streams }
    if rest.isEmpty then
      let t := back (runApart exec (exec stage) supplied)
      { t with clock := max t.clock s.clock, session.stages := statuses ++ [t.status] }
    else
      let (n, inner) := supplied.addSink (some size)
      let t := back (runApart exec (exec stage) (inner.setStream 1 (.sink n)))
      let k := t.sink n
      let t := t.dropSink n
      if t.halted then t
      else
        let failed := t.status
        let after := runStages exec size rest (some ⟨k.text, k.broken⟩) (statuses ++ [failed])
          { t with clock := s.clock }
        let after := { after with clock := max after.clock t.clock }
        if s.hasOption 'P' && after.status = 0 && !after.halted then after.setStatus failed
        else after

/-- Runs the stages of a pipe, with the first size that is enough for its readers. -/
def runPipe (exec : Exec) (stages : List Command) : List Nat → State → State
  | [], s => s.outOfTime
  | size :: larger, s =>
    let t := runStages exec size stages none [] { s with patience := size }
    if t.starved.any (s.nextNumber ≤ ·) then runPipe exec stages larger s
    else { t with patience := s.patience }

/-- What is said about the time that a command has taken, in milliseconds. -/
def timeTaken (n : Nat) : Text :=
  let digits := Text.ofNat (1000 + n % 1000)
  "\nreal\t".toList ++ Text.ofNat (n / 60000) ++ 'm' :: Text.ofNat (n / 1000 % 60) ++ '.' ::
    digits.drop 1 ++ "s\nuser\t0m0.000s\nsys\t0m0.000s\n".toList

end Manuscript.Shell
