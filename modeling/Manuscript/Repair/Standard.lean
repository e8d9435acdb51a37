import Manuscript.Repair.Rule

/-!
The standard rules.

Conversion tools often write an active command such as `\section{Title}` as
literal text: the backslash becomes the marker `\textbackslash{}` and the
braces are escaped. Each rule matches one such shape, always from a marker on,
and writes the active form. The rules of a category stand together, and the
more special shapes come before the general ones.
-/

namespace Manuscript.Repair.Standard

open Pattern (concat word group many many1 maybe anyWord)

/-- What an escaped backslash looks like. -/
def marker : Text :=
  "\\textbackslash\x7b\x7d".toList

def escapedOpen : Text := ['\\', '\x7b']

def escapedClose : Text := ['\\', '\x7d']

/-- Characters of an argument that holds no markup. -/
def plain : CharClass :=
  .noneOf ['\x7b', '\x7d', '\\']

def argument (index : Nat) : Pattern :=
  concat [word escapedOpen, group index (many true plain), word escapedClose]

def options : Pattern :=
  concat [word ['['], many true (.noneOf [']']), word [']']]

def name : Pattern :=
  group 1 (many1 .letter)

def names (ws : List String) : Pattern :=
  group 1 (anyWord (ws.map String.toList))

def marked (ps : List Pattern) : Finder :=
  .pattern (concat (word marker :: ps))

/-! ### Replacements -/

def text (s : String) : Template.Part :=
  .fixed s.toList

def braced (index : Nat) : Template :=
  [text "\x7b", .group index, text "\x7d"]

def command (rest : Template) : Template :=
  text "\\" :: .group 1 :: rest

/-! ### Rules by shape -/

/-- A command of one of the names with one plain argument. -/
def oneArgument (category : Category) (ws : List String) (description : String) : Rule :=
  ⟨category, marked [names ws, argument 2], command (braced 2), description⟩

def switch (category : Category) (ws : List String) (description : String) : Rule :=
  ⟨category, marked [names ws, .check .wordEdge], command [], description⟩

def layoutSwitches : List String :=
  ["hline", "toprule", "midrule", "bottomrule", "centering", "raggedright", "raggedleft",
    "newline", "linebreak", "noindent", "clearpage", "newpage", "pagebreak"]

def fontSwitches : List String :=
  ["tiny", "scriptsize", "footnotesize", "small", "normalsize", "large", "Large", "LARGE",
    "huge", "Huge", "bfseries", "itshape", "ttfamily", "sffamily", "rmfamily", "scshape",
    "mdseries", "upshape", "normalfont"]

def outlineSwitches : List String :=
  ["maketitle", "tableofcontents", "listoffigures", "listoftables", "appendix",
    "printbibliography", "frontmatter", "mainmatter", "backmatter"]

def headings : List String :=
  ["part", "chapter", "section", "subsection", "subsubsection", "paragraph", "subparagraph"]

def star : Pattern :=
  group 2 (maybe (word ['*']))

def unbraced : CharClass :=
  .noneOf ['\x7b', '\x7d']

def inBraces (p : Pattern) : Pattern :=
  concat [word ['\x7b'], p, word ['\x7d']]

/-- Text with braces of one level in it. -/
def shallow : Pattern :=
  .star true (.alt (.one unbraced) (inBraces (many true unbraced)))

/-- Text without markup, commands and balanced braces down to two levels. -/
def nested : Pattern :=
  .star true (.alt (.one plain)
    (.alt (concat [word ['\\'], many1 .letter, maybe (word ['*'])]) (inBraces shallow)))

def special : Table :=
  [⟨.basicCommand, marked [name, word (marker ++ ['\x7b'])], command [text "\x7b"],
    "escaped command with escaped opening brace"⟩,
   ⟨.basicCommand, marked [name, word ['\x7b', '\x7d']], command [text "\x7b\x7d"],
    "escaped command with empty group"⟩,
   ⟨.sectionHeading, marked [names headings, star, argument 3], command (.group 2 :: braced 3),
    "escaped heading with escaped braces"⟩,
   ⟨.sectionHeading,
    marked [names headings, star, word ['['], group 3 (many true (.noneOf [']'])), word [']'],
      argument 4],
    command (.group 2 :: text "[" :: .group 3 :: text "]" :: braced 4),
    "escaped heading with short title"⟩,
   ⟨.sectionHeading, marked [names headings, word ('*' :: marker ++ ['\x7b'])],
    command [text "*\x7b"], "escaped starred heading with escaped opening brace"⟩,
   ⟨.environment,
    marked [word ("begin".toList ++ escapedOpen),
      group 1 (.alt (concat [word "tabular".toList, maybe (word ['*'])])
        (anyWord ["tabularx".toList, "longtable".toList, "array".toList])),
      word escapedClose, argument 2],
    text "\\begin" :: braced 1 ++ braced 2, "escaped tabular environment with column spec"⟩,
   ⟨.environment,
    marked [names ["begin", "end"], word escapedOpen,
      group 2 (many1 ⟨false, [('a', 'z'), ('A', 'Z'), ('*', '*')]⟩), word escapedClose],
    command (braced 2), "escaped environment delimiter"⟩,
   ⟨.environment, marked [word "item".toList, .check .wordEdge], [text "\\item"],
    "escaped list item"⟩,
   oneArgument .textFormatting
    ["textbf", "textit", "emph", "underline", "texttt", "textsc", "textsf", "textrm", "textsl",
      "textup", "textmd", "textnormal", "uline", "mbox"]
    "escaped text formatting command",
   ⟨.crossReference, marked [word "href".toList, argument 1, argument 2],
    text "\\href" :: braced 1 ++ braced 2, "escaped hyperlink"⟩,
   oneArgument .crossReference
    ["ref", "eqref", "pageref", "autoref", "cref", "Cref", "nameref", "label", "cite", "citep",
      "citet", "footnote", "url"]
    "escaped reference command",
   ⟨.specialCharacter, marked [word marker], [text "\\\\"], "escaped line break"⟩,
   ⟨.specialCharacter,
    marked [word ['\\'],
      group 1 (.one (.oneOf ['%', '&', '$', '#', '_', '\x7b', '\x7d', '~', '^']))],
    command [], "double-escaped special character"⟩,
   switch .tableFigure layoutSwitches "escaped table rule or layout command",
   ⟨.tableFigure, marked [word "includegraphics".toList, maybe (group 1 options), argument 2],
    text "\\includegraphics" :: .group 1 :: braced 2, "escaped graphics inclusion"⟩,
   oneArgument .tableFigure ["caption", "cline"] "escaped caption or partial rule",
   ⟨.tableFigure, marked [word "multicolumn".toList, argument 1, argument 2, argument 3],
    text "\\multicolumn" :: braced 1 ++ braced 2 ++ braced 3, "escaped multicolumn cell"⟩,
   ⟨.fontColor, marked [names ["textcolor", "colorbox"], argument 2, argument 3],
    command (braced 2 ++ braced 3), "escaped two-argument color command"⟩,
   oneArgument .fontColor ["color", "pagecolor"] "escaped color switch",
   switch .fontColor fontSwitches "escaped font size or shape switch",
   ⟨.packageSpecific,
    marked [names ["usepackage", "documentclass"], maybe (group 2 options), argument 3],
    command (.group 2 :: braced 3), "escaped package or class declaration"⟩,
   oneArgument .packageSpecific
    ["input", "include", "subfile", "includeonly", "bibliography", "bibliographystyle"]
    "escaped file inclusion",
   oneArgument .packageSpecific ["tcbset", "hypersetup", "geometry"]
    "escaped package setup command",
   switch .packageSpecific outlineSwitches "escaped document structure command"]

def general : Rule :=
  ⟨.compoundNested, marked [name, argument 2], command (braced 2),
    "escaped command not covered above"⟩

/-- A command of any name whose argument holds active commands. -/
def wrapping : Rule :=
  ⟨.compoundNested, marked [name, word escapedOpen, group 2 nested, word escapedClose],
    command (braced 2), "escaped command wrapping already-active commands"⟩

def stray : Rule :=
  ⟨.compoundNested,
    marked [group 1 (concat [word ['\\'], many1 ⟨false, [('a', 'z'), ('A', 'Z'), ('@', '@')]⟩])],
    [.group 1], "escape marker in front of an active command"⟩

def table : Table :=
  special ++ [general, wrapping, stray]

end Manuscript.Repair.Standard
