import Manuscript.Shell.Arithmetic
import Manuscript.Shell.Streams

/-!
What parameters stand for: the special ones, names, and the places of lists and
tables; and how places are given texts.
-/

namespace Manuscript.Shell

namespace State

/-! ### Values -/

def separators (s : State) : Text :=
  (s.value? "IFS".toList).getD [' ', '\t', '\n']

def joint (s : State) : Text :=
  match s.value? "IFS".toList with
  | some t => t.take 1
  | none => [' ']

def joinedArguments (s : State) : Text :=
  Text.joinWith s.joint s.session.arguments

def countOf (t : Text) : Nat :=
  Digits.valueIn 10 t

def workingNames (s : State) : List Text :=
  if s.session.working.isEmpty then []
  else s.session.working.map (·.1) ++ ["main".toList]

def numbered (ts : List Text) : Value :=
  .list (ts.zipIdx.map fun (t, n) => (n, t))

/-- The texts that names of the extended dialect stand for although nobody gave them one. -/
def constants : List (String × String) :=
  [("BASH", "/bin/bash"), ("BASH_VERSION", "5.2.21(1)-release"), ("OSTYPE", "linux-gnu"),
    ("HOSTTYPE", "x86_64"), ("MACHTYPE", "x86_64-pc-linux-gnu"), ("HOSTNAME", "localhost"),
    ("UID", "0"), ("EUID", "0"), ("SHLVL", "1"), ("OPTERR", "1"), ("BASHOPTS", "cmdhist"),
    ("SHELLOPTS", "braceexpand:hashall:interactive-comments"), ("PS2", "> "), ("PS4", "+ ")]

def ownNames : List String :=
  ["LINENO", "SECONDS", "RANDOM", "BASHPID", "BASH_SUBSHELL", "PIPESTATUS", "FUNCNAME",
    "BASH_SOURCE", "BASH_LINENO", "BASH_VERSINFO", "BASH_ARGV0", "DIRSTACK",
    "GROUPS"] ++ constants.map (·.1)

def own? (s : State) (name : Text) : Option Value :=
  match String.ofList name with
  | "LINENO" => some (.text (Text.ofNat s.session.line))
  | "SECONDS" => some (.text (Text.ofNat (s.clock / 1000)))
  | "RANDOM" => some (.text (Text.ofNat ((s.steps * 7919 + 12345) % 32768)))
  | "BASHPID" => some (.text (Text.ofNat s.session.process))
  | "BASH_SUBSHELL" => some (.text (Text.ofNat s.session.level))
  | "PIPESTATUS" => some (numbered (s.session.stages.map Text.ofNat))
  | "FUNCNAME" => if s.session.working.isEmpty then none else some (numbered s.workingNames)
  | "BASH_SOURCE" =>
    if s.session.isArgument then none
    else
      let name := s.session.source.getD s.session.name
      some (numbered (name :: s.session.working.map fun _ => name))
  | "BASH_LINENO" =>
    some (numbered (s.session.working.map (fun w => Text.ofNat w.2) ++
      if s.session.isArgument then [] else [['0']]))
  | "BASH_VERSINFO" =>
    some (numbered (["5", "2", "21", "1", "release", "x86_64-pc-linux-gnu"].map String.toList))
  | "BASH_ARGV0" => some (.text s.session.name)
  | "DIRSTACK" => some (numbered s.stack)
  | "GROUPS" => some (numbered [['0']])
  | n => (constants.lookup n).map fun t => .text t.toList

def whole? (s : State) (name : Text) : Option Value :=
  match (s.binding? name).bind (·.value) with
  | some v => some v
  | none => if s.isExtended then s.own? name else none

def optionLetters (s : State) : Text :=
  if s.isExtended then "abefhkmnptuvxBCEHT".toList.filter s.hasOption else s.session.options

def parameter? (s : State) (name : Text) : Option Text :=
  match name with
  | ['?'] => some (Text.ofNat s.status)
  | ['#'] => some (Text.ofNat s.session.arguments.length)
  | ['$'] => some (Text.ofNat s.session.process)
  | ['!'] => s.session.lastBackground.map Text.ofNat
  | ['-'] => some s.optionLetters
  | ['0'] => some s.session.name
  | ['@'] => if s.session.arguments.isEmpty then none else some s.joinedArguments
  | ['*'] => if s.session.arguments.isEmpty then none else some s.joinedArguments
  | _ =>
    if name.all Char.isDigit then
      match countOf name with
      | 0 => some s.session.name
      | n + 1 => s.session.arguments[n]?
    else (s.whole? name).bind (·.text?)

def isList (name : Text) : Bool :=
  name == ['@'] || name == ['*']

def isTable (s : State) (name : Text) : Bool :=
  ((s.binding? name).bind (·.value)).any (·.isTable)

/-- The text at a place, where the places of lists are numbers. -/
def textAt? (s : State) (name place : Text) : Option Text :=
  match s.whole? name with
  | some (.table entries) => entries.lookup place
  | some (.list items) => items.lookup (countOf place)
  | some (.text t) => if countOf place = 0 then some t else none
  | none => none

def textOf? (s : State) (name : Text) (place : Option Text) : Option Text :=
  match place with
  | none => s.parameter? name
  | some place => s.textAt? name place

def endOf (s : State) (name : Text) : Nat :=
  match s.whole? name with
  | some (.list items) => ((items.getLast?).map (·.1 + 1)).getD 0
  | some (.text _) => 1
  | _ => 0

def lengthOf (s : State) (t : Text) : Nat :=
  if s.isExtended then (Octets.characters t).length else t.length

/-! ### Faults -/

/-- A fault on which the rest of what was read together is left out. -/
def discard (s : State) (message : List Text) : State :=
  ((s.warn message).setStatus 1).jump (if s.hasOption 'e' then .exit else .discard)

def refuseFixed (s : State) (name : Text) : State :=
  if s.isExtended then s.discard [name, ": readonly variable".toList]
  else s.abort [name, ": is read only".toList]

def refuseUnset (s : State) (shown : Text) : State :=
  if s.isExtended then
    ((s.warn [shown, ": unbound variable".toList]).setStatus
      (if s.session.isArgument then 127 else 1)).jump .abort
  else s.abort [shown, ": parameter not set".toList]

/-! ### Giving -/

def assignAt (s : State) (name : Text) (place : Option Text) (t : Text) : State :=
  match place with
  | none => s.assign name t
  | some place =>
    s.setValue name (match (s.bindingOf name).value with
      | some (.table entries) => .table (Value.withEntry place t entries)
      | some (.list items) => .list (Value.withItem (countOf place) t items)
      | some (.text u) => .list (Value.withItem (countOf place) t [(0, u)])
      | none => .list [(countOf place, t)])

def assignAll (s : State) : List ((Text × Option Text) × Text) → State
  | [] => s
  | ((name, place), t) :: rest => (s.assignAll rest).assignAt name place t

/-- The value of an expression; a fault in it ends the script or the line. -/
def calculate (s : State) (expression : Text) : Int × State :=
  let names : Arithmetic.Names :=
    { value? := s.textOf?
      isTable := s.isTable
      isFixed := s.isFixed
      extended := s.isExtended
      strict := s.isExtended && s.hasOption 'u' }
  match Arithmetic.evaluate names expression with
  | .ok (n, given) => (n, s.assignAll given)
  | .error (.malformed c expression behind) =>
    if s.isExtended then
      (0, s.discard [expression, ": ".toList, c.extended, " (error token is \"".toList, behind,
        "\")".toList])
    else
      (0, s.abort ["arithmetic expression: ".toList, c.plain.toList, ": \"".toList, expression,
        ['"']])
  | .error (.notANumber value) => (0, s.abort ["Illegal number: ".toList, value])
  | .error (.fixedName name) => (0, s.refuseFixed name)
  | .error (.unbound name) => (0, s.refuseUnset name)

/-- The place that a text means among the places of a name: a key, or the number that an expression
is; a negative one is counted from the end. There may be none. -/
def place? (s : State) (name t : Text) : Option Text × State :=
  if s.isTable name then (some t, s)
  else
    let (n, s) := s.calculate t
    if s.halted then (none, s)
    else if 0 ≤ n then (some (Text.ofInt n), s)
    else
      let n := n + s.endOf name
      (if n < 0 then none else some (Text.ofInt n), s)

def marked (marks : Text) (t : Text) : Text :=
  if marks.contains 'l' then t.map Char.toLower
  else if marks.contains 'u' then t.map Char.toUpper
  else t

def put (s : State) (name : Text) (place : Option Text) (adds : Bool) (t : Text) : State :=
  let marks := (s.bindingOf name).marks
  let before := if adds then (s.textOf? name place).getD [] else []
  if marks.contains 'i' then
    let (n, s) := s.calculate t
    let (m, s) := if adds then s.calculate before else (0, s)
    if s.halted then s else s.assignAt name place (Text.ofInt (Arithmetic.wrap (m + n)))
  else s.assignAt name place (marked marks (before ++ t))

end State

end Manuscript.Shell
