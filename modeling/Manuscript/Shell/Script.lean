import Manuscript.Text.Basic

/-!
Commands of the command language: what a program in a project's tree may be
written in.

The characters of a script stand for bytes. A word is made of parts that are
expanded when a command is run; a part in quotes is neither split into fields
nor read as a pattern. A command remembers the line on which it begins, for what
is said about it.
-/

namespace Manuscript.Shell

inductive After
  | leave
  | next
  | others
  deriving DecidableEq, Repr

mutual

inductive Part
  | text (t : Text) (quoted : Bool)
  | value (p : Parameter) (use : Use) (quoted : Bool)
  | number (expression : List Part) (quoted : Bool)
  | output (body : Option Command) (quoted : Bool)
  | channel (reads : Bool) (body : Option Command)
  | list (items : List (Option (List Part) × List Part))

inductive Parameter
  | named (name : Text)
  | element (name : Text) (index : Index)
  | indirect (p : Parameter)
  | keys (name : Text) (starred : Bool)
  | names (beginning : Text) (starred : Bool)

/-- Which elements of a list are meant. A star puts all of them together. -/
inductive Index
  | all (starred : Bool)
  | single (place : List Part)

/-- What is made of the value of a parameter. Where a word stands in for a missing value, it may
also stand in for an empty one. -/
inductive Use
  | plain
  | length
  | fallback (orEmpty : Bool) (w : List Part)
  | replacement (orEmpty : Bool) (w : List Part)
  | assign (orEmpty : Bool) (w : List Part)
  | demand (orEmpty : Bool) (w : List Part)
  | trim (atEnd longest : Bool) (pattern : List Part)
  | exchange (all : Bool) (pattern replaced : List Part)
  | slice (start : List Part) (count : Option (List Part))
  | letters (upper all : Bool) (pattern : Option (List Part))
  | form (letter : Char)
  | unknown (written : Text)

inductive Redirect
  | input (stream : Nat) (source : List Part)
  | output (stream : Nat) (append : Bool) (target : List Part)
  | both (stream : Nat) (target : List Part)
  | copy (stream : Nat) (other : List Part)
  | document (stream : Nat) (number : Nat)
  | word (stream : Nat) (w : List Part)

/-- A name, or an element of a list, and what it is given; perhaps behind what it has. -/
inductive Assignment
  | mk (name : Text) (place : Option (List Part)) (adds : Bool) (value : List Part)

inductive Command
  | simple (line : Nat) (assignments : List Assignment) (words : List (List Part))
      (redirects : List Redirect)
  | sequence (first second : Command)
  | onSuccess (first second : Command)
  | onFailure (first second : Command)
  | pipe (stages : List Command)
  | inverted (c : Command)
  | timed (c : Option Command)
  | background (line : Nat) (c : Command)
  | apart (line : Nat) (body : Command) (redirects : List Redirect)
  | redirected (line : Nat) (c : Command) (redirects : List Redirect)
  | branch (test yes : Command) (no : Option Command)
  | loop (success : Bool) (test body : Command)
  | each (line : Nat) (name : Text) (items : Option (List (List Part))) (body : Command)
  | ask (line : Nat) (name : Text) (items : Option (List (List Part))) (body : Command)
  | counted (line : Nat) (first test step : List Part) (body : Command)
  | choose (line : Nat) (subject : List Part)
      (arms : List (List (List Part) × Option Command × After))
  | define (line : Nat) (name : Text) (body : Command)
  | arithmetic (line : Nat) (expression : List Part)
  | condition (line : Nat) (words : List (List Part))

end

abbrev Word := List Part

namespace Assignment

def name : Assignment → Text
  | mk name _ _ _ => name

def place : Assignment → Option Word
  | mk _ place _ _ => place

def adds : Assignment → Bool
  | mk _ _ adds _ => adds

def value : Assignment → Word
  | mk _ _ _ value => value

end Assignment

def Part.literal? : Word → Option Text
  | [.text t false] => some t
  | _ => none

/-- The languages that scripts are written in: the plain one, and the one with more features. -/
inductive Dialect
  | plain
  | extended
  deriving DecidableEq, Repr

end Manuscript.Shell
