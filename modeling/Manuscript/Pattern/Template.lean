import Manuscript.Pattern.Match

/-!
What to write in place of a match: fixed text and the texts of groups.

In the written form a dollar sign begins a reference to a group, either
`$name` with as many letters, digits and underscores as there are or the name
in braces; two dollar signs stand for one, and a dollar sign before anything
else for itself. A name that is no number refers to no group.
-/

namespace Manuscript

inductive Template.Part
  | fixed (t : Text)
  | group (index : Nat)
  deriving DecidableEq, Repr

abbrev Template := List Template.Part

namespace Template

def fill (t : Template) (m : Pattern.Found) : Text :=
  t.flatMap fun
    | .fixed text => text
    | .group index => m.group index

def isNameChar (c : Char) : Bool :=
  c.isAlphanum || c == '_'

/-- The number that a name is, if it is one; a plus sign may stand before it. -/
def groupNumber? (name : Text) : Option Nat :=
  let digits := match name with
    | '+' :: rest => rest
    | _ => name
  if digits.isEmpty || !digits.all Char.isDigit then none
  else
    let n := digits.foldl (fun n d => n * 10 + (d.toNat - '0'.toNat)) 0
    if n < Text.countLimit then some n else none

def part (name : Text) : Part :=
  match groupNumber? name with
  | some n => .group n
  | none => .fixed []

/-- The name behind a dollar sign and the text behind the reference. -/
def reference? : Text → Option (Text × Text)
  | '\x7b' :: rest =>
    match rest.dropWhile (· != '\x7d') with
    | _ :: after => some (rest.takeWhile (· != '\x7d'), after)
    | [] => none
  | rest =>
    let name := rest.takeWhile isNameChar
    if name.isEmpty then none else some (name, rest.dropWhile isNameChar)

def partsFrom : Nat → Text → Template
  | 0, _ => []
  | _, [] => []
  | fuel + 1, '$' :: rest =>
    match rest with
    | '$' :: after => .fixed ['$'] :: partsFrom fuel after
    | _ =>
      match reference? rest with
      | some (name, after) => part name :: partsFrom fuel after
      | none => .fixed ['$'] :: partsFrom fuel rest
  | fuel + 1, c :: rest => .fixed [c] :: partsFrom fuel rest

def ofText (t : Text) : Template :=
  partsFrom t.length t

/-- The text of pieces with every match replaced, and the number of matches whose replacement
differs from them. -/
def replaceIn (t : Template) (pieces : List Pattern.Piece) : Text × Nat :=
  pieces.foldr
    (fun piece (out, hits) =>
      match piece with
      | .kept c => (c :: out, hits)
      | .found m =>
        let new := t.fill m
        (new ++ out, if new = m.text then hits else hits + 1))
    ([], 0)

end Template

end Manuscript
