import Manuscript.Shell.Script

/-!
Where commands are read from: the text that is left, the line it is on, the
token that was looked at and given back, and the documents that commands have
announced. A document is text of the script itself that begins on the line after
its announcement.
-/

namespace Manuscript.Shell

inductive Cause
  | token (written : Text)
  | ending
  | unclosed (sign : Char) (line : Nat)
  | condition (complaint : Option Text) (written : Text)
  | expression (written : Text)
  | other
  deriving DecidableEq, Repr

/-- Why a text is no command. -/
structure SyntaxError where
  line : Nat
  message : Text
  cause : Cause
  shown : Text
  deriving DecidableEq, Repr

inductive Token
  | finish
  | newline
  | operator (o : String)
  /-- The sign of a redirection, with the stream before it if there is one. -/
  | redirect (stream : Option Nat) (sign : String)
  | word (w : Word) (quoted : Bool) (start stop : Text)
  | reserved (w : String)

def Token.written : Token → Text
  | .finish => []
  | .newline => "newline".toList
  | .operator o => o.toList
  | .redirect _ sign => sign.toList
  | .word _ _ start stop => start.take (start.length - stop.length)
  | .reserved w => w.toList

def Token.name : Token → Text
  | .finish => "end of file".toList
  | .newline => "newline".toList
  | .operator o => '"' :: o.toList ++ ['"']
  | .redirect .. => "redirection".toList
  | .word .. => "word".toList
  | .reserved w => '"' :: w.toList ++ ['"']

def reservedWords (d : Dialect) : List String :=
  ["!", "case", "do", "done", "elif", "else", "esac", "fi", "for", "if", "in", "then", "until",
    "while", "\x7b", "\x7d"] ++
    match d with
    | .plain => []
    | .extended => ["function", "select", "time", "[["]

/-- Whether a sequence of commands ends before a token. -/
def Token.endsSequence : Token → Bool
  | .finish => true
  | .operator o => [")", ";;", ";&", ";;&"].contains o
  | .reserved w => ["do", "done", "elif", "else", "esac", "fi", "then", "\x7d"].contains w
  | _ => false

/-- A document that is still to be read. -/
structure Announcement where
  number : Nat
  line : Nat
  marker : Text
  dropsTabs : Bool
  verbatim : Bool
  deriving DecidableEq, Repr

structure OpenAlias where
  name : Text
  behind : Nat
  goesOn : Bool
  deriving DecidableEq, Repr

structure Source where
  dialect : Dialect
  rest : Text
  line : Nat
  present : Text := rest
  previous : Text := []
  wordLine : Nat := 0
  given : Option Token := none
  announced : List Announcement := []
  documents : Array Word := #[]
  aliases : List (Text × Text) := []
  unfolding : List OpenAlias := []
  groups : Bool := false
  isFile : Bool := false
  warnings : List (Nat × Text) := []

namespace Source

def isExtended (s : Source) : Bool :=
  s.dialect = .extended

def lineAt (t : Text) : Text :=
  t.takeWhile (· != '\n')

end Source

abbrev Reading := StateT Source (Except SyntaxError)

namespace Reading

def refuseFor {α : Type} (cause : Cause) (message : Text) : Reading α := do
  let s ← get
  let shown := match cause with
    | .token written => if written == "newline".toList then s.previous else s.present
    | _ => s.present
  throw ⟨s.line, message, cause, Source.lineAt shown⟩

def refuse {α : Type} (message : Text) : Reading α :=
  refuseFor .other message

def unclosed {α : Type} (sign : Char) (line : Nat) (message : Text) : Reading α :=
  refuseFor (.unclosed sign line) message

def unexpected {α : Type} (t : Token) (due : Option Token) : Reading α :=
  let cause : Cause := match t with
    | .finish => .ending
    | t => .token t.written
  refuseFor cause (t.name ++ " unexpected".toList ++ match due with
    | some d => " (expecting ".toList ++ d.name ++ [')']
    | none => [])

/-- Reads another text than the one that is left, and goes back to that. -/
def within {α : Type} (text : Text) (line : Nat) (step : Reading α) : Reading α := do
  let before ← get
  set { before with
    rest := text, line, present := text, previous := [], given := none, announced := []
    unfolding := [] }
  let a ← step
  modify fun s => { s with
    rest := before.rest, line := before.line, present := before.present
    previous := before.previous, given := before.given, announced := before.announced
    unfolding := before.unfolding }
  return a

/-- A source behind the line ends that a backslash hides, where so much is left to read. -/
def joined : Text → Source → Source
  | '\\' :: '\n' :: rest, s =>
    joined rest { s with rest, line := s.line + 1, present := rest, previous := s.present }
  | _, s => s

def join : Reading Unit :=
  modify fun s => joined s.rest s

/-- The next character. -/
def peek : Reading (Option Char) := do
  join
  return (← get).rest.head?

def peekBare : Reading (Option Char) := do
  return (← get).rest.head?

def skip : Reading Unit :=
  modify fun s =>
    match s.rest with
    | '\n' :: rest =>
      { s with rest, line := s.line + 1, present := rest, previous := s.present }
    | _ :: rest => { s with rest }
    | [] => s

def skipIf (c : Char) : Reading Bool := do
  if (← peek) == some c then
    skip
    return true
  else return false

def span (p : Char → Bool) : Nat → Text → Reading Text
  | 0, read => return read.reverse
  | fuel + 1, read => do
    match ← peek with
    | some c =>
      if p c then
        skip
        span p fuel (c :: read)
      else return read.reverse
    | none => return read.reverse

/-- At least as many steps as reading the rest needs. -/
def size : Reading Nat := do
  let s ← get
  return s.aliases.foldl (fun n a => n * (a.2.length + 2)) (s.rest.length + 1)

def giveBack (t : Token) : Reading Unit :=
  modify fun s => { s with given := some t }

end Reading

end Manuscript.Shell
