import Manuscript.Pattern.Match
import Manuscript.Repair.Standard
import Manuscript.Scan.Comment

/-!
Structural issues of a document: braces and environments that do not close,
escape markers left in front of a command name, and arguments whose two braces
are of different kinds.

All checks read the text line by line and look at the code of a line only. In
the brace check a backslash takes the character after it out of account.
-/

namespace Manuscript

namespace Structure

inductive Issue
  | unexpectedClosingBrace (line : Nat)
  | unclosedBraces (count : Nat)
  | mismatchedEnvironment (line : Nat) (expected : Option String) (found : String)
  | unclosedEnvironment (name : String) (line : Nat)
  | residualEscapeMarker (line : Nat) (snippet : String)
  | mixedDelimiters (line : Nat) (command : String)
  deriving DecidableEq, Repr

def Issue.message : Issue → String
  | .unexpectedClosingBrace line =>
    s!"Line {line}: closing brace without matching opening brace"
  | .unclosedBraces count => s!"{count} opening brace(s) never closed"
  | .mismatchedEnvironment line (some expected) found =>
    s!"Line {line}: \\end\x7b{found}\x7d does not match open environment '{expected}'"
  | .mismatchedEnvironment line none found => s!"Line {line}: \\end\x7b{found}\x7d without \\begin"
  | .unclosedEnvironment name line => s!"Environment '{name}' opened on line {line} is never closed"
  | .residualEscapeMarker line snippet => s!"Line {line}: residual escape marker '{snippet}'"
  | .mixedDelimiters line command =>
    s!"Line {line}: command \\{command} mixes active and escaped braces"

def codeLines (t : Text) : List (Nat × Text) :=
  t.lines.zipIdx.map fun (line, i) => (i + 1, Scan.code line)

/-! ### Braces -/

/-- Reads one line at a depth of open braces; adds the issues found, the latest first. -/
def readBraces (line : Nat) : Text → Nat → List Issue → Nat × List Issue
  | [], depth, found => (depth, found)
  | '\\' :: [], depth, found => (depth, found)
  | '\\' :: _ :: rest, depth, found => readBraces line rest depth found
  | '\x7b' :: rest, depth, found => readBraces line rest (depth + 1) found
  | '\x7d' :: rest, 0, found => readBraces line rest 0 (.unexpectedClosingBrace line :: found)
  | '\x7d' :: rest, depth + 1, found => readBraces line rest depth found
  | _ :: rest, depth, found => readBraces line rest depth found

def checkBraces (t : Text) : List Issue :=
  let (depth, found) := (codeLines t).foldl
    (fun (depth, found) (line, code) => readBraces line code depth found) (0, [])
  found.reverse ++ if depth = 0 then [] else [.unclosedBraces depth]

/-! ### Environments -/

inductive Delimiter
  | opens (name : String) (line : Nat)
  | closes (name : String) (line : Nat)
  deriving DecidableEq, Repr

def delimiterPattern : Pattern :=
  .concat [.word ['\\'], .group 1 (.anyWord ["begin".toList, "end".toList]), .many true .blank,
    .word ['\x7b'], .group 2 (.many1 (.noneOf ['\x7d'])), .word ['\x7d']]

def delimiters (t : Text) : List Delimiter :=
  (codeLines t).flatMap fun (line, code) =>
    (delimiterPattern.findAll code).map fun m =>
      let name := String.ofList (m.group 2).trim
      if m.group 1 = "begin".toList then .opens name line else .closes name line

/-- Reads the delimiters with the environments open before them, innermost first. -/
def checkDelimiters : List (String × Nat) → List Delimiter → List Issue
  | openings, [] => openings.reverse.map fun (name, line) => .unclosedEnvironment name line
  | openings, .opens name line :: rest => checkDelimiters ((name, line) :: openings) rest
  | [], .closes name line :: rest =>
    .mismatchedEnvironment line none name :: checkDelimiters [] rest
  | (inner, opened) :: openings, .closes name line :: rest =>
    if inner = name then checkDelimiters openings rest
    else .mismatchedEnvironment line (some inner) name ::
      checkDelimiters ((inner, opened) :: openings) rest

def checkEnvironments (t : Text) : List Issue :=
  checkDelimiters [] (delimiters t)

/-! ### Residual markers and mixed braces -/

def residualPattern : Pattern :=
  .concat [.word Repair.Standard.marker, .many1 .letter]

def checkResidualEscapes (t : Text) : List Issue :=
  (codeLines t).flatMap fun (line, code) =>
    (residualPattern.findAll code).map fun m => .residualEscapeMarker line (String.ofList m.text)

/-- A command whose argument opens with a brace and closes with an escaped one. -/
def activeOpensPattern : Pattern :=
  .concat [.word ['\\'], .group 1 (.many1 .letter), .word ['\x7b'],
    .many true (.noneOf ['\x7b', '\x7d', '\n']), .word ['\\', '\x7d']]

/-- A command whose argument opens with an escaped brace and closes with a plain one. -/
def escapedOpensPattern : Pattern :=
  .concat [.word ['\\'], .group 1 (.many1 .letter), .word ['\\', '\x7b'],
    .many true (.noneOf ['\x7b', '\x7d', '\n']), .word ['\x7d']]

/-- Commands that take escaped braces as delimiters, and the marker itself. -/
def delimiterCommands : List Text :=
  ["textbackslash", "left", "right", "big", "Big", "bigg", "Bigg", "bigl", "bigr", "Bigl",
    "Bigr"].map String.toList

def checkCommandDelimiters (t : Text) : List Issue :=
  (codeLines t).flatMap fun (line, code) =>
    ((activeOpensPattern.findAll code ++ escapedOpensPattern.findAll code).map (·.group 1)).filter
        (!delimiterCommands.contains ·) |>.map fun command =>
      .mixedDelimiters line (String.ofList command)

/-- All checks, in the order braces, environments, residual markers, argument braces. -/
def validate (t : Text) : List Issue :=
  checkBraces t ++ checkEnvironments t ++ checkResidualEscapes t ++ checkCommandDelimiters t

end Structure

end Manuscript
