import Manuscript.Shell.Trace

/-!
Redirections: opening what they name, and the words of complaints about what
cannot be opened.
-/

namespace Manuscript.Shell

namespace Redirect

/-- What a shell says when a name cannot be opened. -/
def complaint (extended creates : Bool) (name : Text) (f : Fault) : List Text :=
  let cause : Text := match f with
    | .os e =>
      if (e = .notFound || e = .notDirectory) && !extended then
        (if creates then "Directory nonexistent" else "No such file").toList
      else e.text.toList
    | f => f.message.toList
  if extended then [name, ": ".toList, cause]
  else [(if creates then "cannot create " else "cannot open ").toList, name, ": ".toList, cause]

def isProtected (s : State) (name : Text) : Bool :=
  s.hasOption 'C' &&
    match s.disk.spot (Octets.path name) true with
    | .ok (.taken _ (.file ..)) => true
    | _ => false

def opened (stream : Nat) (mode : State.OpenMode) (name : Text) (s : State) :
    Option (List Text) × State :=
  let creates := mode ≠ State.OpenMode.read
  if mode = State.OpenMode.write && isProtected s name then
    (some (if s.isExtended then [name, ": cannot overwrite existing file".toList]
      else ["cannot create ".toList, name, ": File exists".toList]), s)
  else match s.openNamed mode name with
    | .ok (h, s) => (none, s.setStream stream h)
    | .error f => (some (complaint s.isExtended creates name f), s)

def copied (stream : Nat) (other : Text) (s : State) : Option (List Text) × State :=
  if other == ['-'] then (none, s.closeStream stream)
  else if other.all Char.isDigit && (other.length = 1 || (s.isExtended && !other.isEmpty)) then
    match s.stream? (Digits.valueIn 10 other) with
    | some h => (none, s.setStream stream h)
    | none => (some [other, ": Bad file descriptor".toList], s)
  else if s.isExtended then opened stream .write other s
  else
    (none, { s with session.line := s.session.lineRead }.abort
      ["Syntax error: Bad fd number".toList])

def supplied (stream : Nat) (t : Text) (s : State) : Option (List Text) × State :=
  let (h, s) := s.addSupply ⟨t, false⟩
  (none, s.setStream stream h)

/-- The name that a word stands for. In the extended dialect there has to be exactly one. -/
def nameOf (capture : Capture) (w : Word) (s : State) : Except (List Text) Text × State :=
  if s.isExtended then
    match expand capture w s with
    | ([t], s) => (.ok t, s)
    | (_, s) => (.error [writtenWord w, ": ambiguous redirect".toList], s)
  else
    let (t, s) := expandWhole capture false w s
    (.ok t, s)

def carryOut (capture : Capture) (r : Redirect) (s : State) : Option (List Text) × State :=
  let named (w : Word) (f : Text → State → Option (List Text) × State) :
      Option (List Text) × State :=
    match nameOf capture w s with
    | (.ok t, s) => if s.halted then (none, s) else f t s
    | (.error message, s) => (if s.halted then none else some message, s)
  let whole (stream : Nat) (w : Word) (ending : Text) : Option (List Text) × State :=
    let (t, s) := expandWhole capture false w s
    if s.halted then (none, s) else supplied stream (t ++ ending) s
  match r with
  | .input n w => named w (opened n .read)
  | .output n append w => named w (opened n (if append then .append else .write))
  | .both n w => named w (opened n .both)
  | .copy n w => named w (copied n)
  | .document n number => whole n (s.documents.getD number []) []
  | .word n w => whole n w ['\n']

def carryOutAll (capture : Capture) : List Redirect → State → Option (List Text) × State
  | [], s => (none, s)
  | r :: rs, s =>
    match r.carryOut capture s with
    | (some message, s) => (some message, s)
    | (none, s) => if s.halted then (none, s) else carryOutAll capture rs s

end Redirect

end Manuscript.Shell
