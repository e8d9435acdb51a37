import Manuscript.Shell.Builtin.Variables
import Manuscript.Shell.Tool.Talk

/-!
Commands of the shell itself that have to do with signals and with commands
that run on their own.
-/

namespace Manuscript.Shell

namespace Signal

def all : List (Nat × String) :=
  [(1, "HUP"), (2, "INT"), (3, "QUIT"), (4, "ILL"), (5, "TRAP"), (6, "ABRT"), (7, "BUS"),
   (8, "FPE"),
    (9, "KILL"), (10, "USR1"), (11, "SEGV"), (12, "USR2"), (13, "PIPE"), (14, "ALRM"), (15, "TERM"),
    (16, "STKFLT"), (17, "CHLD"), (18, "CONT"), (19, "STOP"), (20, "TSTP"), (21, "TTIN"),
    (22, "TTOU"), (23, "URG"), (24, "XCPU"), (25, "XFSZ"), (26, "VTALRM"), (27, "PROF"),
    (28, "WINCH"), (29, "POLL"), (30, "PWR"), (31, "SYS")]

def name? (n : Nat) : Option String :=
  (all.find? (·.1 == n)).map (·.2)

/-- The signal that a text stands for, by its number or its name; in the extended dialect names may
have a longer form. Zero is the end of the shell. -/
def ofText? (extended : Bool) (t : Text) : Option Nat :=
  if !t.isEmpty && t.all Char.isDigit then
    let n := Digits.valueIn 10 t
    if n = 0 || (name? n).isSome then some n else none
  else
    let t := if extended then t.map Char.toUpper else t
    let short := if extended then (Text.dropBeginning? "SIG".toList t).getD t else t
    if short == "EXIT".toList then some 0
    else (all.find? (·.2.toList == short)).map (·.1)

def key (n : Nat) : String :=
  if n = 0 then "EXIT" else (name? n).getD ""

def isHarmless (n : Nat) : Bool :=
  [0, 17, 18, 23, 28].contains n

def epitaph? (n : Nat) : Option String :=
  match n with
  | 1 => some "Hangup"
  | 3 => some "Quit"
  | 4 => some "Illegal instruction"
  | 5 => some "Trace/breakpoint trap"
  | 6 => some "Aborted"
  | 7 => some "Bus error"
  | 8 => some "Floating point exception"
  | 9 => some "Killed"
  | 10 => some "User defined signal 1"
  | 11 => some "Segmentation fault"
  | 12 => some "User defined signal 2"
  | 14 => some "Alarm clock"
  | 15 => some "Terminated"
  | _ => none

end Signal

namespace Builtin

/-! ### What is done on signals -/

/-- What the extended dialect can do something on besides signals. -/
def occasions : List String :=
  ["DEBUG", "ERR", "RETURN"]

def trapKey? (extended : Bool) (t : Text) : Option String :=
  match Signal.ofText? extended t with
  | some n => some (Signal.key n)
  | none =>
    if extended then occasions.find? (·.toList == t.map Char.toUpper) else none

def listTraps (wanted : List String) (s : State) : State :=
  ((0, "EXIT") :: Signal.all ++ occasions.map fun o => (99, o)).foldl (fun s (n, name) =>
    let key := if n = 99 then name else Signal.key n
    match s.session.traps.lookup key with
    | some action =>
      if !wanted.isEmpty && !wanted.contains key then s
      else
        let shown := if s.isExtended && n ≠ 0 && n ≠ 99 then String.join ["SIG", name] else name
        s.say ["trap -- ".toList, if s.isExtended then inQuotes action else singleQuoted action,
          [' '], shown.toList]
    | none => s) s

def setTrap (action : Option Text) (t : Text) (s : State) : State :=
  match trapKey? s.isExtended t with
  | some key =>
    let rest := s.session.traps.filter (·.1 ≠ key)
    { s with session.traps := match action with
      | some a => (key, a) :: rest
      | none => rest }
  | none =>
    if s.isExtended then refuse 1 [t, ": invalid signal specification".toList] s
    else (s.tell ["trap: ".toList, t, ": bad trap".toList]).setStatus 1

def trap (args : List Text) (s : State) : State :=
  match behind [] args with
  | [] => listTraps [] s.succeed
  | [['-', 'p']] => listTraps [] s.succeed
  | ['-', 'p'] :: names => listTraps (names.filterMap (trapKey? s.isExtended)) s.succeed
  | first :: names =>
    let isSignal := (number? first).isSome
    if names.isEmpty || isSignal then
      (first :: names).foldl (fun s t => setTrap none t s) s.succeed
    else
      let action := if first == ['-'] then none else some first
      names.foldl (fun s t => setTrap action t s) s.succeed

/-! ### Signals -/

def signal (n process : Nat) (s : State) : State :=
  if process = s.session.process || process = 0 then
    if n = 0 then s
    else match if n = 9 then none else s.session.traps.lookup (Signal.key n) with
      | some [] => s
      | some _ => { s with pendingSignals := s.pendingSignals ++ [n] }
      | none => if Signal.isHarmless n then s else s.jump (.killed n)
  else if s.ancestors.contains process then
    if n = 0 then s else { s with mail := s.mail ++ [(process, n)] }
  else match s.jobs.find? fun j => j.process == process && s.clock < j.endTime with
    | some j =>
      if n = 0 || Signal.isHarmless n then s
      else
        let ended : Job := { j with status := 128 + n, endTime := s.clock }
        { s with jobs := ended :: s.jobs.filter (·.process ≠ process) }
    | none =>
      let message := if s.isExtended then
          [['('], Text.ofNat process, ") - No such process".toList]
        else ["No such process\n".toList]
      refuse 1 message s

def process? (s : State) (t : Text) : Option Nat :=
  match t with
  | '%' :: rest =>
    let jobs := s.jobs.reverse
    match rest with
    | [] => s.jobs.head?.map (·.process)
    | ['%'] => s.jobs.head?.map (·.process)
    | ['+'] => s.jobs.head?.map (·.process)
    | ds => (number? ds).bind fun n => (jobs[n - 1]?).map (·.process)
  | t => number? t

def killUsage (s : State) : State :=
  if s.isExtended then
    (s.tell [("kill: usage: kill [-s sigspec | -n signum | -sigspec] pid | jobspec ... " ++
      "or kill -l [sigspec]").toList]).setStatus 2
  else
    s.abort ["Usage: kill [-s sigspec | -signum | -sigspec] [pid | job]... or\n".toList,
      "kill -l [exitstatus]".toList]

def sendTo (n : Nat) (targets : List Text) (s : State) : State :=
  if targets.isEmpty then killUsage s
  else targets.foldl (fun s t =>
    if s.halted then s
    else match process? s t with
      | some p => signal n p s
      | none =>
        if s.isExtended then refuse 1 [t, ": arguments must be process or job IDs".toList] s
        else if t.head? == some '%' then s.abort ["No such job: ".toList, t]
        else s.abort ["Illegal number: ".toList, t]) s.succeed

def kill (args : List Text) (s : State) : State :=
  let badSignal (t : Text) : State :=
    if s.isExtended then refuse 1 [t, ": invalid signal specification".toList] s
    else s.abort ["invalid signal number or name: ".toList, t]
  let named (t : Text) (targets : List Text) : State :=
    match Signal.ofText? s.isExtended t with
    | some n => sendTo n targets s
    | none => badSignal t
  match args with
  | [] => killUsage s
  | ['-', 'l'] :: [] =>
    (Signal.all.foldl (fun s (_, name) => s.say [name.toList]) s).succeed
  | ['-', 'l'] :: numbers =>
    numbers.foldl (fun s t =>
      match (number? t).bind fun n => Signal.name? (if 128 < n then n - 128 else n) with
      | some name => s.say [name.toList]
      | none => badSignal t) s.succeed
  | ['-', 's'] :: t :: targets => named t targets
  | ['-', 'n'] :: t :: targets => named t targets
  | ['-', '-'] :: targets => sendTo 15 targets s
  | ('-' :: t) :: targets =>
    if !s.isExtended && (Signal.ofText? false t).isNone then
      s.abort ["Illegal option -".toList, t.take 1]
    else named t targets
  | targets => sendTo 15 targets s

/-! ### Commands that run on their own -/

def awaitJob (j : Job) (s : State) : State :=
  let s := if s.clock < j.endTime then s.wait (j.endTime - s.clock) else s
  s.setStatus j.status

def wait (args : List Text) (s : State) : State :=
  match args with
  | [] =>
    let (own, rest) := s.jobs.partition (·.parent == s.session.process)
    { own.foldl (fun s j => awaitJob j s) s with jobs := rest }.succeed
  | args => args.foldl (fun s t =>
    if s.halted then s
    else match process? s t with
      | none =>
        if s.isExtended then
          if t.head? == some '%' then refuse 127 [t, ": no such job".toList] s
          else refuse 1 [graved t, ": not a pid or valid job spec".toList] s
        else if t.head? == some '%' then s.abort ["No such job: ".toList, t]
        else s.abort ["Illegal number: ".toList, t]
      | some p =>
        match s.jobs.find? fun j => j.process == p && j.parent == s.session.process with
        | some j => awaitJob j s
        | none =>
          if s.isExtended then
            refuse 127 ["pid ".toList, t, " is not a child of this shell".toList] s
          else s.setStatus 127) s.succeed

/-- There are no jobs that could be brought to the front or sent to the back. -/
def foreground (_ : List Text) (s : State) : State :=
  if s.isExtended then refuse 1 ["no job control".toList] s else s.abort ["No current job".toList]

end Builtin

end Manuscript.Shell
