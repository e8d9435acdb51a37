import Manuscript.Shell.Builtin.Surroundings

/-!
Commands of the shell that leave others: loops, functions, files of commands and
the shell itself; and what a fault in a command of the shell leaves.
-/

namespace Manuscript.Shell

def countArgument (args : List Text) : Option (Option Nat) :=
  args.head?.map Builtin.number?

/-- What follows a fault in a command of the shell: the plain dialect gives up if the command is
special, and goes on otherwise. -/
def afterFault (special : Bool) (s : State) : State :=
  if s.session.jump = some Jump.discard ||
      (s.session.jump = some Jump.abort && !(special && !s.isExtended)) then
    { s with session.jump := none }
  else s

/-- Leaves loops, or goes on to the next round of one. -/
def leaveLoops (name : Text) (goOn : Bool) (args : List Text) (s : State) : State :=
  let leave (n : Nat) (goOn : Bool) : State :=
    s.succeed.jump (.leaveLoops (min n s.session.loops) goOn)
  if s.session.loops = 0 && s.isExtended then
    (s.warn ["only meaningful in a ".toList, Builtin.graved "for".toList, ", ".toList,
      Builtin.graved "while".toList, ", or ".toList, Builtin.graved "until".toList,
      " loop".toList]).succeed
  else match countArgument args with
    | some none =>
      let t := args.headD []
      if s.isExtended then
        ((s.warn [t, ": numeric argument required".toList]).setStatus 128).jump .exit
      else s.abort ["Illegal number: ".toList, t]
    | some (some 0) =>
      let t := args.headD name
      if s.isExtended then
        ((s.warn [t, ": loop count out of range".toList]).setStatus 1).jump
          (.leaveLoops s.session.loops false)
      else s.abort ["Illegal number: ".toList, t]
    | some (some n) => if s.session.loops = 0 then s.succeed else leave n goOn
    | none => if s.session.loops = 0 then s.succeed else leave 1 goOn

def statusArgument (args : List Text) (s : State) : Except Text Nat :=
  match args with
  | [] => .ok s.status
  | t :: _ =>
    match t with
    | '-' :: ds =>
      if s.isExtended && (Builtin.number? ds).isSome then
        .ok ((256 - Digits.valueIn 10 ds % 256) % 256)
      else .error t
    | t =>
      match Builtin.number? t with
      | some n => .ok (n % 256)
      | none => .error t

def exit (args : List Text) (s : State) : State :=
  match statusArgument args s with
  | .ok n => (s.setStatus n).jump .exit
  | .error t =>
    if s.isExtended then
      ((s.warn [t, ": numeric argument required".toList]).setStatus 2).jump .exit
    else s.abort ["Illegal number: ".toList, t]

def return_ (args : List Text) (s : State) : State :=
  if s.isExtended && s.session.calls = 0 && s.session.sourced = 0 then
    (s.warn ["can only ".toList, Builtin.graved "return".toList,
      " from a function or sourced script".toList]).setStatus 2
  else match statusArgument args s with
    | .ok n => (s.setStatus n).jump .leaveFunction
    | .error t =>
      if s.isExtended then
        ((s.warn [t, ": numeric argument required".toList]).setStatus 2).jump .leaveFunction
      else s.abort ["Illegal number: ".toList, t]

end Manuscript.Shell
