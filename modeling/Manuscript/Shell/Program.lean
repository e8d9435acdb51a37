import Manuscript.Shell.Builtin.Surroundings
import Manuscript.Shell.Reader.Source

/-!
What can be run at a path or by a name, and what the arguments of a shell ask
for.
-/

namespace Manuscript.Shell

def headSize : Nat := 256

/-- The words of the line that names the interpreter of a script: a program and what it is given.
A name that goes on behind what is looked at is none. -/
def interpreter? (head : Text) : Option (Text × Option Text) :=
  match head with
  | '#' :: '!' :: rest =>
    let blank (c : Char) : Bool := c == ' ' || c == '\t'
    let ends (c : Char) : Bool := blank c || c == '\x00'
    let isWhole := rest.contains '\n'
    let isCut := !isWhole && headSize ≤ head.length
    let line := if isWhole then rest.takeWhile (· != '\n')
      else if isCut then rest.dropLast
      else rest
    let line := if isWhole then (line.reverse.dropWhile blank).reverse else line
    let words := line.dropWhile blank
    let program := words.takeWhile (!ends ·)
    let argument := match words.drop program.length with
      | '\x00' :: _ => []
      | more => (more.dropWhile blank).takeWhile (· != '\x00')
    if program.isEmpty || (isCut && !(rest.dropWhile blank).any ends) then none
    else some (program, if argument.isEmpty then none else some argument)
  | _ => none

/-- What a path leads to that can be run. -/
inductive Runnable
  | program (p : System.Program) (self : Text) (before : List Text)
  | text (head : Text)

def executableAt (s : State) (path : Text) : Except Errno Bytes :=
  match s.disk.spot (Octets.path path) true with
  | .ok (.taken _ (.file bytes true)) => .ok bytes
  | .ok (.taken _ _) => .error .permission
  | .ok (.vacant _ _) => .error .notFound
  | .error (.os e) => .error e
  | .error _ => .error .notFound

/-- How many scripts may be run by one another. -/
def maxInterpreters : Nat := 5

/-- What runs the bytes at a path that is called with some words first. A script is run by what it
names, which is given the path in place of the first word. -/
def runnableBytes (s : State) : Nat → Text → List Text → Bytes → Except Errno Runnable
  | left, path, words, bytes =>
    match System.program? bytes with
    | some p => .ok (.program p (words.headD []) (words.drop 1))
    | none =>
      let head := Octets.ofBytes (bytes.take headSize)
      match interpreter? head with
      | none => .ok (.text head)
      | some (program, argument) =>
        match executableAt s program, left with
        | .error e, _ => .error e
        | .ok _, 0 => .error .loop
        | .ok bytes, left + 1 =>
          runnableBytes s left program (program :: argument.toList ++ path :: words.drop 1) bytes

def runnableAt (s : State) (name path : Text) : Except Errno Runnable :=
  (executableAt s path).bind fun bytes => runnableBytes s maxInterpreters path [name] bytes

def isBinary (d : Dialect) (head : Text) : Bool :=
  match d with
  | .plain =>
    let isControl (n : Nat) : Bool := n < 9 || (15 < n && n < 32 && n ≠ 27) || n = 127
    ((head.take 128).takeWhile (· != '\n')).any fun c => isControl c.toNat
  | .extended =>
    let lines := Text.splitBy (· == '\n') (head.take 128)
    let isNamed := "#!".toList.isPrefixOf head
    "\x7fELF".toList.isPrefixOf head ||
      (lines.take (if isNamed then 2 else 1)).any fun l => l.contains '\x00'

/-- The text of a file as a shell reads it: characters that end texts are left out. -/
def withoutEnds (t : Text) : Text :=
  if t.contains '\x00' then t.filter (· != '\x00') else t

/-! ### Arguments of a shell -/

structure Invocation where
  isText : Bool := false
  readsInput : Bool := false
  operands : List Text := []

def invocation : Nat → List Text → Invocation → State → Except (List Text) (Invocation × State)
  | 0, args, v, s => .ok ({ v with operands := args }, s)
  | fuel + 1, args, v, s =>
    match args with
    | [] => .ok ({ v with operands := [] }, s)
    | ['-', '-'] :: rest => .ok ({ v with operands := rest }, s)
    | ['-'] :: rest => .ok ({ v with operands := rest }, s)
    | ('-' :: '-' :: word) :: rest =>
      if s.isExtended then
        if ["norc", "noprofile", "posix", "login", "noediting"].any (·.toList == word) then
          invocation fuel rest v s
        else .error ["--".toList, word, ": invalid option".toList]
      else .error ["Illegal option --".toList]
    | ('-' :: c :: cs) :: rest =>
      let letters := (c :: cs).filter fun c => c != 'c' && c != 'l'
      let v := { v with
        isText := v.isText || (c :: cs).contains 'c'
        readsInput := v.readsInput || (c :: cs).contains 's' }
      (Builtin.setLetters true (letters.filter (· != 's')) rest s).bind fun (rest, s) =>
        invocation fuel rest v s
    | ('+' :: c :: cs) :: rest =>
      (Builtin.setLetters false (c :: cs) rest s).bind fun (rest, s) => invocation fuel rest v s
    | args => .ok ({ v with operands := args }, s)

end Manuscript.Shell
