import Manuscript.Scan.Scanner

/-!
The document of the basic check: the root document without the content it
includes and with a placeholder for its body, so that a failure to compile it
lies with the packages.
-/

namespace Manuscript.BasicDocument

def bodyMark : Text :=
  "\\begin\x7bdocument\x7d".toList

def beginsBody (line : Text) : Bool :=
  bodyMark.occursIn (Scan.code line)

def header : Text :=
  "% Generated for the basic build check: content modules removed\n".toList

def body : Text :=
  "\\begin\x7bdocument\x7d\nBasic build check.\n\\end\x7bdocument\x7d\n".toList

def styleLines (root : Text) : List Text :=
  (root.lines.takeWhile (!beginsBody ·)).filterMap Scan.removeContent

def text (root : Text) : Text :=
  header ++ (styleLines root).flatMap (· ++ ['\n']) ++ body

def suffix : Text :=
  "_basic_check".toList

/-- Where the document is written: beside the root document. -/
def path (root : Path) : Path :=
  root.withFileName (root.fileStem ++ suffix ++ ".tex".toList)

end Manuscript.BasicDocument
