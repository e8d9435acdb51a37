import Manuscript.Text.Quoted

/-!
Paths as they are written, and their parts.

A path keeps its spelling. Its components leave out empty parts and the parts
`.` that do not come first; two spellings with the same components name the
same place. A join puts a relative path behind a separator and lets an absolute
path replace what it is joined to.
-/

namespace Manuscript

/-- A path in the spelling it was given in. -/
structure Path where
  text : Text
  deriving DecidableEq, Repr

namespace Path

def ofString (s : String) : Path :=
  ⟨s.toList⟩

def toString (p : Path) : String :=
  String.ofList p.text

instance : ToString Path := ⟨toString⟩

def quoted (p : Path) : String :=
  String.ofList p.text.quoted

inductive Component
  | root
  | current
  | parent
  | normal (name : Text)
  deriving DecidableEq, Repr

def Component.text : Component → Text
  | .root => ['/']
  | .current => ['.']
  | .parent => ['.', '.']
  | .normal name => name

def isAbsolute (p : Path) : Bool :=
  p.text.head? == some '/'

/-- The component of a part between separators, if it counts as one. -/
def component? (part : Text) : Option Component :=
  if part = [] ∨ part = ['.'] then none
  else if part = ['.', '.'] then some .parent
  else some (.normal part)

def parts (p : Path) : List Text :=
  p.text.splitBy (· == '/')

def lead (p : Path) : Option Component × List Text :=
  match p.parts with
  | [] :: part :: body => (some .root, part :: body)
  | ['.'] :: body => (some .current, body)
  | body => (none, body)

def components (p : Path) : List Component :=
  p.lead.1.toList ++ p.lead.2.filterMap component?

/-- The last component, if it is a name. -/
def fileName? (p : Path) : Option Text :=
  match p.components.getLast? with
  | some (.normal name) => some name
  | _ => none

def fileName (p : Path) : Text :=
  p.fileName?.getD []

/-- A name cut at its last dot; a dot that comes first does not cut. -/
def cutAtDot (name : Text) : Text × Option Text :=
  match name.reverse.dropWhile (· != '.') with
  | '.' :: before =>
    if before.isEmpty then (name, none)
    else (before.reverse, some (name.reverse.takeWhile (· != '.')).reverse)
  | _ => (name, none)

def fileStem (p : Path) : Text :=
  (cutAtDot p.fileName).1

def extension? (p : Path) : Option Text :=
  p.fileName?.bind fun name => (cutAtDot name).2

/-! ### Joining and taking apart -/

def join (p q : Path) : Path :=
  if q.isAbsolute then q
  else if p.text = [] ∨ p.text.getLast? = some '/' then ⟨p.text ++ q.text⟩
  else ⟨p.text ++ '/' :: q.text⟩

def ofLead : Option Component → List Text → Path
  | some .root, body => ⟨'/' :: Text.joinWith ['/'] body⟩
  | some c, [] => ⟨c.text⟩
  | some c, body => ⟨c.text ++ '/' :: Text.joinWith ['/'] body⟩
  | none, body => ⟨Text.joinWith ['/'] body⟩

/-- Parts without those at the end that are no component. -/
def dropIdle (body : List Text) : List Text :=
  (body.reverse.dropWhile (component? · |>.isNone)).reverse

/-- The path without its last component; the root and the empty path have no parent. -/
def parent? (p : Path) : Option Path :=
  match dropIdle p.lead.2 with
  | [] => if p.lead.1 = some .current then some ⟨[]⟩ else none
  | part :: body => some (ofLead p.lead.1 (dropIdle (part :: body).dropLast))

/-- The directory of a path: the parent, or `.` if that is not spelled out. -/
def directory (p : Path) : Path :=
  match p.parent? with
  | some ⟨c :: rest⟩ => ⟨c :: rest⟩
  | _ => ⟨['.']⟩

/-- The path with its name replaced, or added if it ends in no name. -/
def withFileName (p : Path) (name : Text) : Path :=
  match p.fileName?, p.parent? with
  | some _, some parent => parent.join ⟨name⟩
  | _, _ => p.join ⟨name⟩

def withSuffix (p : Path) (suffix : Text) : Path :=
  p.withFileName (p.fileName ++ suffix)

/-! ### Order -/

def textLe : Text → Text → Bool
  | [], _ => true
  | _ :: _, [] => false
  | a :: as, b :: bs => a < b || (a == b && textLe as bs)

def Component.rank : Component → Nat
  | .root => 0
  | .current => 1
  | .parent => 2
  | .normal _ => 3

def Component.le (a b : Component) : Bool :=
  a.rank < b.rank || (a.rank == b.rank && textLe a.text b.text)

def componentsLe : List Component → List Component → Bool
  | [], _ => true
  | _ :: _, [] => false
  | a :: as, b :: bs => if a = b then componentsLe as bs else a.le b

def le (p q : Path) : Bool :=
  componentsLe p.components q.components

end Path

end Manuscript
