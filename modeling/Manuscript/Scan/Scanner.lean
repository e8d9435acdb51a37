import Manuscript.Pattern.Match
import Manuscript.Scan.Comment
import Manuscript.Scan.Reference

/-!
Scanning a root document for the packages it loads and the content it includes.

A package belongs to the project when its name has a slash or begins with one
of the project's own beginnings. Any other package is external if it is listed
as such. Each list keeps the order in which its entries were first seen.
-/

namespace Manuscript

namespace Scan

/-- A package declaration; the first group holds the list of names. -/
def packagePattern : Pattern :=
  .concat [.word ['\\'], .anyWord ["usepackage".toList, "RequirePackage".toList],
    .many true .blank,
    .maybe (.concat [.word ['['], .many true (.noneOf [']']), .word [']']]),
    .many true .blank, .word ['\x7b'], .group 1 (.many1 (.noneOf ['\x7d'])), .word ['\x7d']]

/-- A declaration of included content; the first group holds the path. -/
def contentPattern : Pattern :=
  .concat [.word ['\\'], .anyWord ["input".toList, "include".toList, "subfile".toList],
    .many true .blank, .word ['\x7b'], .group 1 (.many1 (.noneOf ['\x7d'])), .word ['\x7d']]

def packageNames (code : Text) : List String :=
  (packagePattern.findAll code).flatMap fun m =>
    (((m.group 1).splitBy (· == ',')).map Text.trim).filter (!·.isEmpty) |>.map String.ofList

def contentPaths (code : Text) : List String :=
  ((contentPattern.findAll code).map fun m => (m.group 1).trim).filter (!·.isEmpty)
    |>.map String.ofList

/-- What one scan found, in the order of first sight. -/
structure Result where
  stylePackages : List String
  contentModules : List String
  externalPackages : List String
  deriving DecidableEq, Repr

namespace Result

def empty : Result :=
  ⟨[], [], []⟩

/-- The references of the project, packages first. -/
def references (r : Result) : List Reference :=
  r.stylePackages.map (⟨·, .stylePackage⟩) ++ r.contentModules.map (⟨·, .contentModule⟩)

def total (r : Result) : Nat :=
  r.stylePackages.length + r.contentModules.length

end Result

def addNew (seen : List String) (name : String) : List String :=
  if seen.contains name then seen else seen ++ [name]

end Scan

/-- Which packages are external, and how the names of the project's own packages begin. -/
structure Scanner where
  external : List String := []
  localBeginnings : List String := []

namespace Scanner

open Scan

/-- Whether a package name can only mean a file of the project. -/
def isProjectPackage (s : Scanner) (name : String) : Bool :=
  name.toList.contains '/' ||
    s.localBeginnings.any fun b => b ≠ "" && b.toList.isPrefixOf name.toList

def isExternal (s : Scanner) (name : String) : Bool :=
  !s.isProjectPackage name && s.external.contains name

def addPackage (s : Scanner) (r : Result) (name : String) : Result :=
  if s.isExternal name then { r with externalPackages := addNew r.externalPackages name }
  else { r with stylePackages := addNew r.stylePackages name }

def addContent (r : Result) (path : String) : Result :=
  { r with contentModules := addNew r.contentModules path }

def scanLine (s : Scanner) (r : Result) (line : Text) : Result :=
  let code := Scan.code line
  (contentPaths code).foldl addContent ((packageNames code).foldl s.addPackage r)

def scan (s : Scanner) (t : Text) : Result :=
  t.lines.foldl s.scanLine .empty

end Scanner

namespace Scan

/-- A line without its comment and without the content it includes. Nothing stays of a line that
held nothing else; a line that includes no content stays as it is. -/
def removeContent (line : Text) : Option Text :=
  let found := contentPattern.pieces (code line)
  if found.any (fun | .found _ => true | .kept _ => false) then
    let rest := found.filterMap fun
      | .kept c => some c
      | .found _ => none
    if (Text.trim rest).isEmpty then none else some (Text.trimEnd rest)
  else some line

end Scan

end Manuscript
