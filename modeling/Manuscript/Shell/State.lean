import Manuscript.Disk.Operation
import Manuscript.Shell.Octets
import Manuscript.Shell.Script

/-!
The state of a running script.

A session is what belongs to one shell: its parameters, its streams, the place
it has come to. A command that is run apart works on a copy of the session.
Everything else is shared by all that run: the disk, the files that are open,
what was written, and the time that has passed.
-/

namespace Manuscript.Shell

/-! ### Streams -/

/-- What a stream leads to. -/
inductive Handle
  | nothing
  | zeros
  | full
  | file (number : Nat)
  | sink (number : Nat)
  | source (number : Nat)
  deriving DecidableEq, Repr

structure OpenFile where
  loc : Location
  position : Nat
  appends : Bool
  reads : Bool
  writes : Bool
  deriving DecidableEq, Repr

structure Sink where
  pieces : List Text := []
  size : Nat := 0
  limit : Option Nat := none
  broken : Bool := false

def Sink.text (k : Sink) : Text :=
  k.pieces.reverse.flatten

structure Supply where
  rest : Text
  cut : Bool

/-! ### Sessions -/

/-- What a name stands for. -/
inductive Value
  | text (t : Text)
  | list (items : List (Nat × Text))
  | table (entries : List (Text × Text))
  deriving DecidableEq, Repr

namespace Value

/-- The number by which the entries of a table are ordered: a mix of the bytes of the key, one after
the other. -/
def bucket (key : Text) : Nat :=
  key.foldl (fun n c =>
    let n := n + 2 * n + 16 * n + 128 * n + 256 * n + 16777216 * n
    (n % 4294967296) ^^^ c.toNat) 2166136261 % 1024

def entered (key t : Text) : List (Text × Text) → List (Text × Text)
  | [] => [(key, t)]
  | (k, u) :: rest =>
    if bucket key ≤ bucket k then (key, t) :: (k, u) :: rest else (k, u) :: entered key t rest

def withEntry (key t : Text) (entries : List (Text × Text)) : List (Text × Text) :=
  if entries.any (·.1 == key) then
    entries.map fun e => if e.1 == key then (key, t) else e
  else entered key t entries

def withItem (place : Nat) (t : Text) : List (Nat × Text) → List (Nat × Text)
  | [] => [(place, t)]
  | (n, u) :: rest =>
    if place < n then (place, t) :: (n, u) :: rest
    else if place = n then (place, t) :: rest
    else (n, u) :: withItem place t rest

/-- The text that stands for all of a value: that at the first place, or under the key zero. -/
def text? : Value → Option Text
  | text t => some t
  | list items => items.lookup 0
  | table entries => entries.lookup ['0']

def texts : Value → List Text
  | text t => [t]
  | list items => items.map (·.2)
  | table entries => entries.map (·.2)

def keys : Value → List Text
  | text _ => [['0']]
  | list items => items.map fun e => Text.ofNat e.1
  | table entries => entries.map (·.1)

def withText (t : Text) : Value → Value
  | text _ => .text t
  | list items => .list (withItem 0 t items)
  | table entries => .table (withEntry ['0'] t entries)

def isTable : Value → Bool
  | table _ => true
  | _ => false

end Value

structure Binding where
  value : Option Value := none
  exported : Bool := false
  fixed : Bool := false
  marks : Text := []
  deriving DecidableEq, Repr

def Binding.text? (b : Binding) : Option Text :=
  b.value.bind (·.text?)

/-- How a command leaves the ones around it. -/
inductive Jump
  | leaveLoops (count : Nat) (goOn : Bool)
  | leaveFunction
  | discard
  | exit
  | abort
  | killed (signal : Nat)
  | outOfTime
  deriving DecidableEq, Repr

/-- A stream that has been opened for a command under a name of its own, with the sink that takes
what it is given and the command that is to read that, which finds the other streams as they were.
The command is run when the stream is no longer needed. -/
structure Channel where
  number : Nat
  sink : Option Nat
  body : Option Command
  streams : List (Nat × Handle)

structure Session where
  dialect : Dialect
  name : Text
  arguments : List Text
  bindings : List (Text × Binding)
  functions : List (Text × Nat × Command) := []
  aliases : List (Text × Text) := []
  options : Text := []
  switches : List String := []
  traps : List (String × Text) := []
  streams : List (Nat × Handle)
  status : Nat := 0
  substituted : Nat := 0
  line : Nat := 0
  lineRead : Nat := 0
  command : Option Text := none
  process : Nat
  lastBackground : Option Nat := none
  loops : Nat := 0
  calls : Nat := 0
  sourced : Nat := 0
  /-- The names of the functions that are at work, the last one first, and the lines of their
  calls. -/
  working : List (Text × Nat) := []
  stages : List Nat := [0]
  depth : Nat := 0
  level : Nat := 0
  source : Option Text := none
  reading : Text := []
  isArgument : Bool := false
  channels : List Channel := []
  /-- What names stood for before each call made them its own. -/
  hidden : List (List (Text × Option Binding)) := []
  jump : Option Jump := none
  tested : Bool := false
  optionOffset : Nat := 0
  mask : Nat := 18
  way : Text := []
  directories : List Text := []
  tracked : List (Text × Text × Nat) := []
  lists : List (Text × Bool × List (Option Text × Text)) := []

/-- A command that runs on its own. -/
structure Job where
  process : Nat
  parent : Nat
  status : Nat
  endTime : Nat
  attached : Bool

structure State where
  disk : Disk
  session : Session
  files : List (Nat × OpenFile) := []
  sinks : List (Nat × Sink) := []
  supplies : List (Nat × Supply) := []
  nextNumber : Nat := 0
  nextProcess : Nat
  self : Text := []
  jobs : List Job := []
  documents : Array Word := #[]
  /-- The time that has passed and the time there is, in milliseconds. -/
  clock : Nat := 0
  deadline : Nat
  steps : Nat
  /-- How many bytes of something endless are taken for all of it. -/
  patience : Nat
  endless : Bool := false
  /-- The supplies that were used up although they had been cut off. -/
  starved : List Nat := []
  pendingSignals : List Nat := []
  ancestors : List Nat := []
  mail : List (Nat × Nat) := []
  unread : Bool := false
  unwritten : Option Errno := none

namespace State

def status (s : State) : Nat :=
  s.session.status

def setStatus (s : State) (n : Nat) : State :=
  { s with session.status := n }

def succeed (s : State) : State := s.setStatus 0

def fail (s : State) : State := s.setStatus 1

def jump (s : State) (j : Jump) : State :=
  { s with session.jump := some j }

def halted (s : State) : Bool :=
  s.session.jump.isSome

def outOfTime (s : State) : State :=
  s.jump .outOfTime

/-- Takes some steps, if there are any left. -/
def spend (s : State) (n : Nat) : State :=
  if s.steps < n then { s with steps := 0 }.outOfTime else { s with steps := s.steps - n }

def dialect (s : State) : Dialect :=
  s.session.dialect

def isExtended (s : State) : Bool :=
  s.session.dialect = .extended

def hasOption (s : State) (o : Char) : Bool :=
  s.session.options.contains o

/-! ### The working directory -/

def location (s : State) : Text :=
  Octets.encode (Disk.absolute s.disk.cwd).text

/-- The path by which the working directory was come to. -/
def here (s : State) : Text :=
  if s.session.way.isEmpty then s.location else s.session.way

def stack (s : State) : List Text :=
  s.here :: s.session.directories

/-! ### Parameters -/

def binding? (s : State) (name : Text) : Option Binding :=
  s.session.bindings.lookup name

def value? (s : State) (name : Text) : Option Text :=
  (s.binding? name).bind (·.text?)

/-- What is known of the paths of programs when a name stands for something else. -/
def trackedAfter (s : State) (name : Text) : List (Text × Text × Nat) :=
  if name = "PATH".toList then [] else s.session.tracked

def setBinding (s : State) (name : Text) (b : Binding) : State :=
  { s with
    session.bindings := (name, b) :: s.session.bindings.filter (·.1 ≠ name)
    session.tracked := s.trackedAfter name }

def dropBinding (s : State) (name : Text) : State :=
  { s with
    session.bindings := s.session.bindings.filter (·.1 ≠ name)
    session.tracked := s.trackedAfter name }

def bindingOf (s : State) (name : Text) : Binding :=
  (s.binding? name).getD {}

def setValue (s : State) (name : Text) (v : Value) : State :=
  let b := s.bindingOf name
  s.setBinding name { b with value := some v, exported := b.exported || s.hasOption 'a' }

def assign (s : State) (name t : Text) : State :=
  let s := if name = "OPTIND".toList then { s with session.optionOffset := 0 } else s
  s.setValue name (match (s.bindingOf name).value with
    | some v => v.withText t
    | none => .text t)

def hasSwitch (s : State) (word : String) : Bool :=
  s.session.switches.contains word

def aliases (s : State) : List (Text × Text) :=
  if s.session.dialect = .plain || s.hasSwitch "expand_aliases" then s.session.aliases else []

def isFixed (s : State) (name : Text) : Bool :=
  (s.binding? name).any (·.fixed)

/-- Makes a name the function's own, to be given back when the call is over. -/
def hide (s : State) (name : Text) : State :=
  match s.session.hidden with
  | [] => s
  | top :: rest =>
    if top.any (·.1 == name) then s
    else { s with session.hidden := ((name, s.binding? name) :: top) :: rest }

def restore (s : State) (name : Text) (b : Option Binding) : State :=
  match b with
  | some b => s.setBinding name b
  | none => s.dropBinding name

def beginScope (s : State) : State :=
  { s with session.hidden := [] :: s.session.hidden }

def endScope (s : State) : State :=
  match s.session.hidden with
  | [] => s
  | top :: rest =>
    top.foldl (fun s (name, b) => s.restore name b) { s with session.hidden := rest }

end State

end Manuscript.Shell
