import Manuscript.Path

/-!
References: what a root document asks for, and the file that would supply it.
-/

namespace Manuscript

inductive ReferenceKind
  | stylePackage
  | contentModule
  deriving DecidableEq, Repr

namespace ReferenceKind

def extension : ReferenceKind → String
  | stylePackage => "sty"
  | contentModule => "tex"

def label : ReferenceKind → String
  | stylePackage => "style package"
  | contentModule => "content module"

def name : ReferenceKind → String
  | stylePackage => "StylePackage"
  | contentModule => "ContentModule"

end ReferenceKind

/-- A file that a root document declares, by its path as written there. -/
structure Reference where
  path : String
  kind : ReferenceKind
  deriving DecidableEq, Repr

namespace Reference

/-- The declared path, with the extension of its kind if it has none. -/
def fileName (r : Reference) : Path :=
  let p := Path.ofString r.path
  if p.extension?.isSome then p else ⟨p.text ++ '.' :: r.kind.extension.toList⟩

/-- Where the file of a reference is expected when references start from a directory. -/
def expectedPath (r : Reference) (base : Path) : Path :=
  base.join r.fileName

end Reference

end Manuscript
