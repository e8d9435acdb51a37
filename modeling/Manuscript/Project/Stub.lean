import Manuscript.Text.Case
import Manuscript.Scan.Reference

/-!
Placeholders for missing files. A package gets a header that declares it, a
content module a heading made from its file name; both carry a marker that says
what is still to be written.
-/

namespace Manuscript.Stub

def marker : String :=
  "AUTO-GENERATED STUB: manual completion required"

def titleWord : Text → Text
  | [] => []
  | c :: rest => Text.upperChar c ++ rest.flatMap Text.lowerChar

/-- A heading from the stem of a file name: its words, each with a capital. -/
def title (path : String) : String :=
  let words := (Path.ofString path).fileStem.splitBy fun c => c == '-' || c == '_' || Text.isBlank c
  String.ofList <| Text.joinWith [' '] <| (words.filter (!·.isEmpty)).map titleWord

def packageText (date : String) (path : String) : String :=
  let name := String.ofList (Text.dropEndings ".sty".toList path.toList)
  String.join
    ["% ", marker, "\n",
      "% Package '", name, "' was referenced by the root document but did not exist.\n",
      "\\NeedsTeXFormat\x7bLaTeX2e\x7d\n",
      "\\ProvidesPackage\x7b", name, "\x7d[", date, " placeholder package]\n",
      "\n",
      "\\endinput\n"]

def contentText (path : String) : String :=
  String.join
    ["% ", marker, "\n",
      "\\section\x7b", title path, "\x7d\n",
      "\n",
      "% Content for '", path, "' goes here.\n"]

def text (date : String) (r : Reference) : String :=
  match r.kind with
  | .stylePackage => packageText date r.path
  | .contentModule => contentText r.path

/-- Whether a declared path stays below the directory it is resolved from. -/
def isInside (path : String) : Bool :=
  (Path.ofString path).components.all fun
    | .normal _ => true
    | .current => true
    | _ => false

end Manuscript.Stub
