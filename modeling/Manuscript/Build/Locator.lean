import Manuscript.Disk.Basic

/-!
Asking the distribution whether it has a package.
-/

namespace Manuscript

inductive Lookup
  | found (path : Path)
  | notFound
  | unavailable (reason : String)
  deriving DecidableEq, Repr

/-- Answers for the name of a package; asking may have effects on the disk. -/
structure Locator where
  locate : String → Disk → Lookup × Disk

namespace Locator

def ofInstalled (packages : List String) : Locator :=
  ⟨fun name d =>
    (if packages.contains name then
      .found (.ofString (String.join ["/texmf/tex/latex/", name, "/", name, ".sty"]))
    else .notFound, d)⟩

def silent (reason : String) : Locator :=
  ⟨fun _ d => (.unavailable reason, d)⟩

end Locator

end Manuscript
