import Manuscript.Shell.Regular
import Manuscript.Shell.Tool.Options

/-!
Scripts of the tool that edits lines: what they consist of, and how they are
read.

A script is a list of instructions, each for the lines that its addresses
choose. Blocks are marked by instructions of their own, which tell where they
end.
-/

namespace Manuscript.Shell.Tool.Sed

/-- An expression; none stands for the one that was used last. -/
abbrev Pattern := Option Regular

structure Test where
  pattern : Pattern
  folds : Bool

inductive Address
  | line (n : Nat)
  | last
  | every (first step : Nat)
  | lines (t : Test)

inductive Ending
  | at_ (a : Address)
  | later (count : Nat)
  | multiple (n : Nat)

inductive Piece
  | text (t : Text)
  | group (n : Nat)
  /-- Changes the case of what follows: `U` and `L` of all of it until `E`, `u` and `l` of one
  letter. -/
  | letters (how : Char)
  deriving DecidableEq, Repr

structure Substitution where
  test : Test
  replaced : List Piece
  global : Bool := false
  first : Nat := 1
  prints : Bool := false
  target : Option Text := none

inductive Action
  | blockStart
  | blockEnd
  | label (name : Text)
  | jump (label : Text)
  | jumpIf (label : Text)
  | jumpUnless (label : Text)
  | substitute (s : Substitution)
  | exchange (pairs : List (Char × Char))
  | append (t : Text)
  | insert (t : Text)
  | change (t : Text)
  | appendContents (name : Text)
  | writeTo (name : Text)
  | writeFirstTo (name : Text)
  | print
  | printFirst
  | delete
  | deleteFirst
  | next
  | appendNext
  | hold
  | appendHold
  | recall
  | appendRecall
  | swap
  | quit (status : Nat) (silently : Bool)
  | number
  | name
  | list (width : Option Nat)
  | clear
  | nothing

structure Instruction where
  first : Option Address := none
  last : Option Ending := none
  negated : Bool := false
  action : Action

/-! ### Reading -/

/-- What is left of a script, how many of its characters have been read, and how many blocks are
open. -/
structure Progress where
  rest : Text
  read : Nat := 0
  blocks : Nat := 0

structure Fault where
  message : Text
  place : Option Nat

abbrev Reading := StateT Progress (Except Fault)

def fault {α : Type} (message : String) : Reading α := do
  throw ⟨message.toList, some (← get).read⟩

def rest : Reading Text := do
  return (← get).rest

def drop (n : Nat) : Reading Unit :=
  modify fun p => { p with rest := p.rest.drop n, read := p.read + min n p.rest.length }

def take? : Reading (Option Char) := do
  let c := (← rest).head?
  drop 1
  return c

def takeWhile (f : Char → Bool) : Reading Text := do
  let t := (← rest).takeWhile f
  drop t.length
  return t

def isBlank (c : Char) : Bool :=
  c == ' ' || (9 ≤ c.toNat && c.toNat ≤ 13)

def number : Reading Nat := do
  return Digits.valueIn 10 (← takeWhile Char.isDigit)

def setLength (t : Text) : Nat :=
  let caret := if t.head? == some '^' then 1 else 0
  let bracket := if (t.drop caret).head? == some ']' then 1 else 0
  let rec go : Nat → Text → Nat
    | n, '[' :: ':' :: rest => go (n + 2) rest
    | n, ':' :: ']' :: rest => go (n + 2) rest
    | n, ']' :: _ => n + 1
    | n, _ :: rest => go (n + 1) rest
    | _, [] => 0
  match go 0 (t.drop (caret + bracket)) with
  | 0 => 0
  | n => caret + bracket + n

/-- A text up to a delimiter that no backslash protects; a protected one loses its backslash. In an
expression a set in brackets may hold the delimiter. What has been read is in reverse. -/
def upTo (delimiter : Char) (isExpression : Bool) : Nat → Text → Reading (Option Text)
  | 0, _ => return none
  | fuel + 1, read => do
    match ← rest with
    | [] => return none
    | '\\' :: c :: _ =>
      drop 2
      if c == delimiter then upTo delimiter isExpression fuel (c :: read)
      else upTo delimiter isExpression fuel (c :: '\\' :: read)
    | '\n' :: more =>
      if isExpression then return none
      else
        let _ := more
        drop 1
        upTo delimiter isExpression fuel ('\n' :: read)
    | c :: more =>
      if c == delimiter then
        drop 1
        return some read.reverse
      else if c == '[' && isExpression then
        let n := setLength more
        drop (n + 1)
        upTo delimiter isExpression fuel ((more.take n).reverse ++ '[' :: read)
      else
        drop 1
        upTo delimiter isExpression fuel (c :: read)

def delimited (delimiter : Char) (isExpression : Bool) : Reading (Option Text) := do
  upTo delimiter isExpression ((← rest).length + 1) []

/-- The expression that a text is, and how many groups it has; a fault is told by a word of its
own. -/
def expression (extended : Bool) (t : Text) : Reading (Pattern × Nat) := do
  if t.isEmpty then return (none, 9)
  else match Regular.ofText extended true (Octets.characters t) with
    | .ok (r, groups) => return (some r, groups)
    | .error f => fault f.message

def address? (extended : Bool) : Reading (Option Address) := do
  let test (delimiter : Char) : Reading (Option Address) := do
    match ← delimited delimiter true with
    | none => fault "unterminated address regex"
    | some t =>
      let flags ← takeWhile fun c => c == 'I' || c == 'M'
      let (r, _) ← expression extended t
      return some (.lines ⟨r, flags.contains 'I'⟩)
  match ← rest with
  | '$' :: _ =>
    drop 1
    return some .last
  | '/' :: _ =>
    drop 1
    test '/'
  | '\\' :: c :: _ =>
    drop 2
    test c
  | c :: _ =>
    if c.isDigit then
      let n ← number
      if (← rest).head? == some '~' then
        drop 1
        return some (.every n (← number))
      else return some (.line n)
    else return none
  | [] => return none

def skipBlanks : Reading Unit := do
  let _ ← takeWhile isBlank

def ending (extended : Bool) : Reading Ending := do
  match ← rest with
  | '+' :: _ =>
    drop 1
    return .later (← number)
  | '~' :: _ =>
    drop 1
    return .multiple (← number)
  | _ =>
    match ← address? extended with
    | some a => return .at_ a
    | none => fault "unexpected `,'"

def close : Reading Unit := do
  let _ ← takeWhile fun c => isBlank c && c != '\n'
  match ← rest with
  | [] => return ()
  | '\x7d' :: _ => return ()
  | '#' :: _ => return ()
  | '\n' :: _ => drop 1
  | ';' :: _ => drop 1
  | _ =>
    drop 1
    fault "extra characters after command"

/-- The text of an instruction that writes one, up to the end of a line that no backslash protects.
What has been read is in reverse. -/
def textLines : Nat → Text → Reading Text
  | 0, read => return read.reverse
  | fuel + 1, read => do
    match ← rest with
    | [] => return read.reverse
    | '\\' :: '\n' :: _ =>
      drop 2
      textLines fuel ('\n' :: read)
    | '\\' :: c :: more =>
      match if c == 'n' then none else Regular.escaped? (c :: more) with
      | some (d, n) =>
        drop (n + 1)
        textLines fuel (d :: read)
      | none =>
        drop 2
        textLines fuel (c :: read)
    | '\n' :: _ =>
      drop 1
      return read.reverse
    | c :: _ =>
      drop 1
      textLines fuel (c :: read)

def textToWrite : Reading Text := do
  let _ ← takeWhile fun c => c == ' ' || c == '\t'
  match ← rest with
  | [] => fault "expected \\ after `a', `c' or `i'"
  | '\n' :: _ => fault "expected \\ after `a', `c' or `i'"
  | ['\\'] =>
    drop 1
    return []
  | '\\' :: more =>
    let blanks := more.takeWhile fun c => c == ' ' || c == '\t'
    if (more.drop blanks.length).head? == some '\n' then drop (blanks.length + 2)
    else drop 1
    if (← rest).isEmpty then return []
    let t ← textLines ((← rest).length + 1) []
    return t ++ ['\n']
  | _ =>
    let t ← textLines ((← rest).length + 1) []
    return t ++ ['\n']

def fileName : Reading Text := do
  let _ ← takeWhile fun c => c == ' ' || c == '\t'
  let t ← takeWhile (· != '\n')
  if t.isEmpty then fault "missing filename in r/R/w/W commands"
  drop 1
  return t

def labelName : Reading Text := do
  let _ ← takeWhile fun c => c == ' ' || c == '\t'
  takeWhile fun c => !isBlank c && c != ';' && c != '\x7d'

def replacement : Nat → Text → Text → List Piece
  | 0, read, _ => [.text read.reverse]
  | fuel + 1, read, t =>
    let plain : List Piece := if read.isEmpty then [] else [.text read.reverse]
    match t with
    | [] => plain
    | '&' :: more => plain ++ .group 0 :: replacement fuel [] more
    | '\\' :: c :: more =>
      if c.isDigit then plain ++ .group (c.toNat - 48) :: replacement fuel [] more
      else if "ULEul".toList.contains c then plain ++ .letters c :: replacement fuel [] more
      else match Regular.escaped? (c :: more) with
        | some (d, n) => replacement fuel (d :: read) ((c :: more).drop n)
        | none => replacement fuel (c :: read) more
    | c :: more => replacement fuel (c :: read) more

def flags : Nat → Bool → Substitution → Reading Substitution
  | 0, _, s => return s
  | fuel + 1, numbered, s => do
    match ← rest with
    | 'g' :: _ =>
      drop 1
      if s.global then fault "multiple `g' options to `s' command"
      flags fuel numbered { s with global := true }
    | 'p' :: _ =>
      drop 1
      if s.prints then fault "multiple `p' options to `s' command"
      flags fuel numbered { s with prints := true }
    | 'i' :: _ =>
      drop 1
      flags fuel numbered { s with test.folds := true }
    | 'I' :: _ =>
      drop 1
      flags fuel numbered { s with test.folds := true }
    | 'm' :: _ =>
      drop 1
      flags fuel numbered s
    | 'M' :: _ =>
      drop 1
      flags fuel numbered s
    | 'w' :: _ =>
      drop 1
      return { s with target := some (← fileName) }
    | ' ' :: _ =>
      drop 1
      flags fuel numbered s
    | c :: _ =>
      if c.isDigit then
        let n ← number
        if n = 0 then fault "number option to `s' command may not be zero"
        if numbered then fault "multiple number options to `s' command"
        flags fuel true { s with first := n }
      else if c == '\n' || c == ';' || c == '\x7d' || c == '#' then
        close
        return s
      else
        drop 1
        fault "unknown option to `s'"
    | [] => return s

def substitution (extended : Bool) : Reading Action := do
  match ← take? with
  | none => fault "unterminated `s' command"
  | some delimiter =>
    match ← delimited delimiter true with
    | none => fault "unterminated `s' command"
    | some pattern =>
      match ← delimited delimiter false with
      | none => fault "unterminated `s' command"
      | some replaced =>
        let pieces := replacement (replaced.length + 1) [] replaced
        let s ← flags ((← rest).length + 1) false
          { test := ⟨none, false⟩, replaced := pieces }
        let (r, groups) ← expression extended pattern
        match pieces.filterMap fun
            | .group n => if groups < n then some n else none
            | _ => none with
        | n :: _ =>
          throw ⟨"invalid reference \\".toList ++ Text.ofNat n ++ " on `s' command's RHS".toList,
            some (← get).read⟩
        | [] => return .substitute { s with test := ⟨r, s.test.folds⟩ }

def listed : Text → Text
  | '\\' :: '\\' :: rest => '\\' :: listed rest
  | '\\' :: 'n' :: rest => '\n' :: listed rest
  | '\\' :: 't' :: rest => '\t' :: listed rest
  | c :: rest => c :: listed rest
  | [] => []

def exchange : Reading Action := do
  match ← take? with
  | none => fault "unterminated `y' command"
  | some delimiter =>
    match ← delimited delimiter false with
    | none => fault "unterminated `y' command"
    | some a =>
      match ← delimited delimiter false with
      | none => fault "unterminated `y' command"
      | some b =>
        let a := Octets.characters (listed a)
        let b := Octets.characters (listed b)
        if a.length ≠ b.length then fault "strings for `y' command are different lengths"
        close
        return .exchange (a.zip b)

def optionalNumber : Reading (Option Nat) := do
  let _ ← takeWhile fun c => c == ' ' || c == '\t'
  match ← rest with
  | c :: _ =>
    if c.isDigit then
      let n ← number
      close
      return some n
    else
      close
      return none
  | [] => return none

def action (extended : Bool) (c : Char) : Reading Action := do
  let plain (a : Action) : Reading Action := do
    close
    return a
  match c with
  | '\x7b' =>
    modify fun p => { p with blocks := p.blocks + 1 }
    return .blockStart
  | '\x7d' =>
    if (← get).blocks = 0 then fault "unexpected `\x7d'"
    modify fun p => { p with blocks := p.blocks - 1 }
    plain .blockEnd
  | ':' =>
    let name ← labelName
    if name.isEmpty then fault "\":\" lacks a label"
    close
    return .label name
  | 'b' =>
    let name ← labelName
    plain (.jump name)
  | 't' =>
    let name ← labelName
    plain (.jumpIf name)
  | 'T' =>
    let name ← labelName
    plain (.jumpUnless name)
  | 's' => substitution extended
  | 'y' => exchange
  | 'a' => return .append (← textToWrite)
  | 'i' => return .insert (← textToWrite)
  | 'c' => return .change (← textToWrite)
  | 'r' => return .appendContents (← fileName)
  | 'w' => return .writeTo (← fileName)
  | 'W' => return .writeFirstTo (← fileName)
  | 'p' => plain .print
  | 'P' => plain .printFirst
  | 'd' => plain .delete
  | 'D' => plain .deleteFirst
  | 'n' => plain .next
  | 'N' => plain .appendNext
  | 'h' => plain .hold
  | 'H' => plain .appendHold
  | 'g' => plain .recall
  | 'G' => plain .appendRecall
  | 'x' => plain .swap
  | '=' => plain .number
  | 'F' => plain .name
  | 'z' => plain .clear
  | 'q' => return .quit ((← optionalNumber).getD 0) false
  | 'Q' => return .quit ((← optionalNumber).getD 0) true
  | 'l' => return .list (← optionalNumber)
  | 'v' =>
    let _ ← labelName
    plain .nothing
  | c =>
    throw ⟨"unknown command: `".toList ++ [c, '\''], some (← get).read⟩

def instruction (extended : Bool) : Reading Instruction := do
  let first ← address? extended
  let last ←
    if first.isSome then
      skipBlanks
      if (← rest).head? == some ',' then
        drop 1
        skipBlanks
        pure (some (← ending extended))
      else pure none
    else pure none
  match first, last with
  | some (.line 0), some (.at_ (.lines _)) => pure ()
  | some (.line 0), _ => fault "invalid usage of line address 0"
  | _, _ => pure ()
  skipBlanks
  let negated := (← rest).head? == some '!'
  if negated then
    drop 1
    skipBlanks
    if (← rest).head? == some '!' then
      drop 1
      fault "multiple `!'s"
  match ← take? with
  | none => fault "missing command"
  | some c =>
    if c == ':' && first.isSome then fault ": doesn't want any addresses"
    let a ← action extended c
    return { first, last, negated, action := a }

def instructions (extended : Bool) : Nat → List Instruction → Reading (List Instruction)
  | 0, read => return read.reverse
  | fuel + 1, read => do
    let _ ← takeWhile fun c => isBlank c || c == ';'
    match ← rest with
    | [] =>
      if 0 < (← get).blocks then throw ⟨"unmatched `\x7b'".toList, some 0⟩
      else return read.reverse
    | '#' :: _ =>
      let _ ← takeWhile (· != '\n')
      instructions extended fuel read
    | _ =>
      let i ← instruction extended
      instructions extended fuel (i :: read)

def labelsOf (is : List Instruction) : List (Text × Nat) :=
  is.zipIdx.filterMap fun (i, n) =>
    match i.action with
    | .label name => some (name, n)
    | _ => none

def missingLabel? (is : List Instruction) : Option Text :=
  let labels := labelsOf is
  is.findSome? fun i =>
    let check (name : Text) : Option Text :=
      if name.isEmpty || labels.any (·.1 == name) then none else some name
    match i.action with
    | .jump name => check name
    | .jumpIf name => check name
    | .jumpUnless name => check name
    | _ => none

def ofText (extended : Bool) (t : Text) : Except Fault (List Instruction) := do
  let (is, _) ← (instructions extended (t.length + 1) []).run { rest := t }
  match missingLabel? is with
  | some name => .error ⟨"can't find label for jump to `".toList ++ name ++ ['\''], none⟩
  | none => return is

end Manuscript.Shell.Tool.Sed
