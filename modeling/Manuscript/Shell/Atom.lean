import Manuscript.Shell.Script

/-!
Words taken apart, for what is decided before anything in them is expanded: which
of their characters stand without quotes, and where.
-/

namespace Manuscript.Shell

/-- A character that is not quoted, or a part of another kind. -/
inductive Atom
  | char (c : Char)
  | solid (p : Part)

namespace Atom

def ofPart : Part → List Atom
  | .text t false => t.map .char
  | p => [.solid p]

def ofWord (w : Word) : List Atom :=
  w.flatMap ofPart

def toWord : List Atom → Word
  | [] => []
  | .char c :: rest =>
    match toWord rest with
    | .text t false :: ps => .text (c :: t) false :: ps
    | ps => .text [c] false :: ps
  | .solid p :: rest => p :: toWord rest

def text? : List Atom → Option Text
  | [] => some []
  | .char c :: rest => (text? rest).map (c :: ·)
  | .solid _ :: _ => none

end Atom

end Manuscript.Shell
