import Manuscript.Shell.Builtin.Surroundings
import Manuscript.Shell.Reader.Command
import Manuscript.Shell.Trace

/-!
Assignments: in front of a command, as a command of their own, and among the
arguments of commands that declare names.
-/

namespace Manuscript.Shell

/-- Words that assign among the arguments of some commands are not made into fields. -/
def declares (s : State) (w : Word) : Bool :=
  match Part.literal? w with
  | some t =>
    ["export", "readonly", "local"].any (·.toList == t) ||
      (s.isExtended && ["declare", "typeset"].any (·.toList == t))
  | none => false

def looksAssigning (s : State) (w : Word) : Bool :=
  if s.isExtended then (Reading.assignment? true w).isSome
  else match w with
    | .text t false :: _ =>
      let name := t.takeWhile (· != '=')
      name.length < t.length && Reading.isName name
    | _ => false

/-- A word that is given a list becomes the name alone; the list is kept for later. -/
def expandListed (capture : Capture) (w : Word) (items : List (Option Word × Word)) (s : State) :
    List Text × State :=
  match Reading.assignment? true w with
  | some a =>
    let (texts, s) := expandItems capture items s
    ([a.name], { s with session.lists := s.session.lists ++ [(a.name, a.adds, texts)] })
  | none => ([], s)

/-- The words of a command, where those that assign are not made into fields. -/
def expandDeclaration (capture : Capture) : List Word → State → List Text × State
  | [], s => ([], s)
  | w :: ws, s =>
    if s.halted then ([], s)
    else
      let (first, s) := match w.getLast? with
        | some (.list items) => expandListed capture w items s
        | _ =>
          if looksAssigning s w then
            let (t, s) := expandWhole capture true w s
            ([t], s)
          else expand capture w s
      let (rest, s) := expandDeclaration capture ws s
      (first ++ rest, s)

def expandWords (capture : Capture) (ws : List Word) (s : State) : List Text × State :=
  match ws with
  | [] => ([], s)
  | w :: rest =>
    if declares s w then
      let (first, s) := expand capture w s
      let (rest, s) := expandDeclaration capture rest s
      (first ++ rest, s)
    else expandEach capture ws s

def exported (name : Text) (s : State) : State :=
  s.setBinding name { s.bindingOf name with exported := true }

def assignOne (capture : Capture) (a : Assignment) (s : State) : Text × State :=
  let shown (sign value : Text) : Text :=
    a.name ++ sign ++ (if a.adds then "+=".toList else ['=']) ++ value
  match a.value with
  | [.list items] =>
    let (texts, s) := expandItems capture items s
    (shown [] (writtenWord a.value), if s.halted then s else s.putList a.name a.adds texts)
  | value =>
    let (t, s) := expandWhole capture true value s
    let s := if s.halted then s else s.spend (t.length / 64)
    let v := if !s.isExtended then t else if t.isEmpty then [] else tracedWord t
    match a.place with
    | none => (shown [] v, if s.halted then s else s.put a.name none a.adds t)
    | some p =>
      let (p, s) := if s.halted then ([], s) else expandWhole capture false p s
      if s.halted then ([], s)
      else
        let written := '[' :: p ++ [']']
        match if p.isEmpty then (none, s) else s.place? a.name p with
        | (some place, s) => (shown written v, s.put a.name (some place) a.adds t)
        | (none, s) =>
          ([], if s.halted then s else
            s.discard [a.name, written, ": bad array subscript".toList])

/-- Carries out assignments one after the other, for a command or for good; the answer shows them.
Those for a command are marked for those who inherit if that is asked for. -/
def assignEach (capture : Capture) (forCommand exports : Bool) :
    List Assignment → State → List Text × State
  | [], s => ([], s)
  | a :: rest, s =>
    if s.halted then ([], s)
    else if s.isFixed a.name then
      let (_, s) := if s.isExtended then ([], s) else expandWhole capture true a.value s
      if s.halted then ([], s)
      else if forCommand && s.isExtended then
        assignEach capture forCommand exports rest (s.warn [a.name, ": readonly variable".toList])
      else ([], s.refuseFixed a.name)
    else
      let (t, s) := assignOne capture a s
      if s.halted then ([], s)
      else
        let s := if exports then exported a.name s else s
        let (shown, s) := assignEach capture forCommand exports rest s
        (t :: shown, s)

def withLists (s : State) : State :=
  let lists := s.session.lists
  let s := { s with session.lists := [] }
  if lists.isEmpty || s.halted then s
  else lists.foldl (fun s (name, adds, items) =>
    if s.halted then s else s.putList name adds items) s

end Manuscript.Shell
