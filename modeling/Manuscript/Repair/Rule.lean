import Manuscript.Expression.Reader
import Manuscript.Expression.Search
import Manuscript.Pattern.Template

/-!
Repair rules: what over-escaped markup looks like, and what to write instead.
-/

namespace Manuscript.Repair

/-- The categories of rules, in the order of the table. -/
inductive Category
  | basicCommand
  | sectionHeading
  | environment
  | textFormatting
  | crossReference
  | specialCharacter
  | tableFigure
  | fontColor
  | packageSpecific
  | compoundNested
  deriving DecidableEq, Repr

namespace Category

def all : List Category :=
  [basicCommand, sectionHeading, environment, textFormatting, crossReference, specialCharacter,
    tableFigure, fontColor, packageSpecific, compoundNested]

def label : Category → String
  | basicCommand => "basic command escaping"
  | sectionHeading => "section/heading escaping"
  | environment => "environment delimiters"
  | textFormatting => "text formatting commands"
  | crossReference => "cross-reference commands"
  | specialCharacter => "special characters"
  | tableFigure => "table/figure commands"
  | fontColor => "font/color commands"
  | packageSpecific => "package-specific commands"
  | compoundNested => "compound/nested escaping"

def name : Category → String
  | basicCommand => "BasicCommand"
  | sectionHeading => "SectionHeading"
  | environment => "Environment"
  | textFormatting => "TextFormatting"
  | crossReference => "CrossReference"
  | specialCharacter => "SpecialCharacter"
  | tableFigure => "TableFigure"
  | fontColor => "FontColor"
  | packageSpecific => "PackageSpecific"
  | compoundNested => "CompoundNested"

def ofName? (name : String) : Option Category :=
  all.find? (·.name == name)

def position (c : Category) : Nat :=
  all.idxOf c

end Category

/-- How the places of a rule are found: by a pattern, or by the automaton of an expression,
which takes no more time for an intricate expression than for a simple one of its size. -/
inductive Finder
  | pattern (p : Pattern)
  | automaton (m : Automaton)
  deriving DecidableEq, Repr

namespace Finder

/-- The text cut into matches and the characters between them. -/
def pieces : Finder → Text → List Pattern.Piece
  | pattern p => p.pieces
  | automaton m => m.pieces

def ofText? (t : Text) : Option Finder :=
  (Expression.ofText? t).map fun e => automaton (.ofExpression e)

end Finder

structure Rule where
  category : Category
  finder : Finder
  replacement : Template
  description : String
  deriving DecidableEq, Repr

/-- Rules in the order in which a pass applies them. -/
abbrev Table := List Rule

def Table.ofCategory (table : Table) (c : Category) : List Rule :=
  table.filter (·.category = c)

structure Tally where
  count : Category → Nat

namespace Tally

def zero : Tally :=
  ⟨fun _ => 0⟩

def plus (a b : Tally) : Tally :=
  ⟨fun c => a.count c + b.count c⟩

def add (t : Tally) (c : Category) (n : Nat) : Tally :=
  ⟨fun d => if d = c then t.count d + n else t.count d⟩

def total (t : Tally) : Nat :=
  Category.all.foldr (fun c n => t.count c + n) 0

/-- The categories with replacements, in table order. -/
def entries (t : Tally) : List (Category × Nat) :=
  (Category.all.map fun c => (c, t.count c)).filter (·.2 ≠ 0)

/-- The same counts, each computed once. -/
def settle (t : Tally) : Tally :=
  let entries := t.entries
  ⟨fun c => (entries.lookup c).getD 0⟩

end Tally

end Manuscript.Repair
