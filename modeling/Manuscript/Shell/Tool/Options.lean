import Manuscript.Shell.Streams

/-!
How tools read their arguments and complain about them.

Options are letters behind a dash, or words behind two. They may stand among the
operands, up to an argument of two dashes; some tools read none behind their
first operand.
-/

namespace Manuscript.Shell.Tool

inductive Takes
  | nothing
  | value
  | maybe
  deriving DecidableEq, Repr

/-- The options of a tool: its letters, each with colons behind it if it takes a value, and its
words with the letters that they stand for. -/
structure OptionTable where
  letters : String
  words : List (String × Takes × Char) := []
  stopsEarly : Bool := false
  status : Nat := 1

inductive OptionFault
  | unknownLetter (c : Char)
  | missingValue (c : Char)
  | unknownWord (w : Text)
  | ambiguousWord (w : Text) (choices : List String)
  | unwantedValue (w : String)
  | missingWordValue (w : String)
  deriving DecidableEq, Repr

abbrev GivenOption := Char × Option Text

def takes? (letters : Text) (c : Char) : Option Takes :=
  if c == ':' then none
  else match letters.dropWhile (· != c) with
    | _ :: ':' :: ':' :: _ => some .maybe
    | _ :: ':' :: _ => some .value
    | _ :: _ => some .nothing
    | [] => none

namespace OptionTable

/-- The options in the letters of one argument, up to the first fault; the argument behind them is
at hand for a value. The last answer tells whether it was used. -/
def letterOptions (t : OptionTable) (next : Option Text) :
    Text → List GivenOption × Except OptionFault Bool
  | [] => ([], .ok false)
  | c :: rest =>
    match takes? t.letters.toList c with
    | none => ([], .error (.unknownLetter c))
    | some .nothing =>
      let (os, ending) := letterOptions t next rest
      ((c, none) :: os, ending)
    | some .maybe => ([(c, if rest.isEmpty then none else some rest)], .ok false)
    | some .value =>
      if rest.isEmpty then
        match next with
        | some v => ([(c, some v)], .ok true)
        | none => ([], .error (.missingValue c))
      else ([(c, some rest)], .ok false)

/-- The option that a word stands for; a beginning is enough if it is that of one option only. -/
def wordOption (t : OptionTable) (next : Option Text) (w : Text) :
    Except OptionFault (GivenOption × Bool) :=
  let name := w.takeWhile (· != '=')
  let value := if name.length < w.length then some (w.drop (name.length + 1)) else none
  let exact := t.words.filter fun e => e.1.toList == name
  let found := if exact.isEmpty then t.words.filter fun e => name.isPrefixOf e.1.toList else exact
  match found with
  | [] => .error (.unknownWord w)
  | (word, takes, c) :: others =>
    if others.all fun e => e.2.2 == c then
      match takes, value, next with
      | .nothing, some _, _ => .error (.unwantedValue word)
      | .nothing, none, _ => .ok ((c, none), false)
      | .maybe, v, _ => .ok ((c, v), false)
      | .value, some v, _ => .ok ((c, some v), false)
      | .value, none, some v => .ok ((c, some v), true)
      | .value, none, none => .error (.missingWordValue word)
    else .error (.ambiguousWord w (found.map (·.1)))

def read (t : OptionTable) : List Text → List GivenOption × Except OptionFault (List Text)
  | [] => ([], .ok [])
  | ['-', '-'] :: rest => ([], .ok rest)
  | ('-' :: '-' :: w) :: rest =>
    match t.wordOption rest.head? w with
    | .error e => ([], .error e)
    | .ok (o, true) =>
      match rest with
      | _ :: rest =>
        let (os, ending) := read t rest
        (o :: os, ending)
      | [] => ([o], .ok [])
    | .ok (o, false) =>
      let (os, ending) := read t rest
      (o :: os, ending)
  | ('-' :: c :: more) :: rest =>
    match t.letterOptions rest.head? (c :: more) with
    | (given, .error e) => (given, .error e)
    | (given, .ok true) =>
      match rest with
      | _ :: rest =>
        let (os, ending) := read t rest
        (given ++ os, ending)
      | [] => (given, .ok [])
    | (given, .ok false) =>
      let (os, ending) := read t rest
      (given ++ os, ending)
  | p :: rest =>
    if t.stopsEarly then ([], .ok (p :: rest))
    else
      let (os, ending) := read t rest
      (os, ending.map (p :: ·))

def readAll (t : OptionTable) (args : List Text) :
    Except OptionFault (List GivenOption × List Text) :=
  let (os, ending) := t.read args
  ending.map (os, ·)

end OptionTable

/-! ### Quotations in complaints -/

def curly (t : Text) : Text :=
  Octets.encode ['\u2018'] ++ t ++ Octets.encode ['\u2019']

def needsQuotes (t : Text) : Bool :=
  t.isEmpty || t == ['\x7b'] || t == ['\x7d'] || t.head? == some '#' || t.head? == some '~' ||
    t.any fun c => " !\"$&'()*;<=>?[\\^|\t\n".toList.contains c || c.toNat == 96 || c.toNat < 32

/-- A name between straight quotes; double ones if it holds a single one. -/
def quoted (t : Text) : Text :=
  if t.contains '\'' && !t.any (fun c => "\"$\\!".toList.contains c || c.toNat == 96) then
    '"' :: t ++ ['"']
  else
    '\'' :: (t.flatMap fun c =>
      if c == '\'' then "'\\''".toList
      else if c == '\n' then "'$'\\n''".toList
      else if c == '\t' then "'$'\\t''".toList
      else [c]) ++ ['\'']

def named (t : Text) : Text :=
  if needsQuotes t then quoted t else t

/-! ### Complaints -/

def causeText : Fault → Text
  | .os e => e.text.toList
  | f => f.message.toList

def complain (message : List Text) (s : State) : State :=
  s.tell (s.self :: ": ".toList :: message)

def failWith (message : List Text) (s : State) : State :=
  (complain message s).fail

def failBy (message : List Text) (f : Fault) (s : State) : State :=
  failWith (message ++ [": ".toList, causeText f]) s

def hint (status : Nat) (s : State) : State :=
  (s.tell ["Try '".toList, s.self, " --help' for more information.".toList]).setStatus status

def OptionFault.message : OptionFault → List Text
  | unknownLetter c => ["invalid option -- '".toList, [c], ['\'']]
  | missingValue c => ["option requires an argument -- '".toList, [c], ['\'']]
  | unknownWord w => ["unrecognized option '--".toList, w, ['\'']]
  | ambiguousWord w choices =>
    ["option '--".toList, w, "' is ambiguous; possibilities:".toList,
      choices.flatMap fun c => " '--".toList ++ c.toList ++ ['\'']]
  | unwantedValue w => ["option '--".toList, w.toList, "' doesn't allow an argument".toList]
  | missingWordValue w => ["option '--".toList, w.toList, "' requires an argument".toList]

def missingOperand (status : Nat) (s : State) : State :=
  hint status (complain ["missing operand".toList] s)

def extraOperand (p : Text) (status : Nat) (s : State) : State :=
  hint status (complain ["extra operand ".toList, curly p] s)

/-- A tool with its options and operands, which looks at each option as it is met: an option can
make it say something, or end it. -/
def withCheckedOptions (t : OptionTable) (check : GivenOption → State → Except State State)
    (f : List GivenOption → List Text → State → State) (args : List Text) (s : State) : State :=
  let (os, ending) := t.read args
  match os.foldlM (fun s o => check o s) s with
  | .error s => s
  | .ok s =>
    match ending with
    | .error e => hint t.status (complain e.message s)
    | .ok ps => f os ps s

def withOptions (t : OptionTable) : (List GivenOption → List Text → State → State) →
    List Text → State → State :=
  withCheckedOptions t fun _ s => .ok s

def isGiven (os : List GivenOption) (c : Char) : Bool :=
  os.any (·.1 == c)

def lastValue? (os : List GivenOption) (c : Char) : Option Text :=
  (os.reverse.find? (·.1 == c)).bind (·.2)

def lastOf? (os : List GivenOption) (cs : List Char) : Option Char :=
  (os.reverse.find? fun o => cs.contains o.1).map (·.1)

/-! ### Numbers -/

def digits? (t : Text) : Option Nat :=
  if t.isEmpty || !t.all Char.isDigit then none
  else some (t.foldl (fun n c => n * 10 + (c.toNat - 48)) 0)

def integer? (t : Text) : Option Int :=
  match t with
  | '-' :: ds => (digits? ds).map fun n => -(n : Int)
  | '+' :: ds => (digits? ds).map Int.ofNat
  | ds => (digits? ds).map Int.ofNat

def unit? (t : Text) : Option Nat :=
  let power (c : Char) : Option Nat :=
    match c with
    | 'K' => some 1
    | 'k' => some 1
    | 'M' => some 2
    | 'G' => some 3
    | 'T' => some 4
    | _ => none
  match t with
  | [] => some 1
  | ['b'] => some 512
  | ['c'] => some 1
  | ['w'] => some 2
  | [c] => (power c).map fun n => Nat.pow 1024 n
  | [c, 'B'] => (power c).map fun n => Nat.pow 1000 n
  | [c, 'i', 'B'] => (power c).map fun n => Nat.pow 1024 n
  | _ => none

def size? (t : Text) : Option Nat :=
  let ds := t.takeWhile Char.isDigit
  match digits? ds, unit? (t.drop ds.length) with
  | some n, some u => some (n * u)
  | none, some u => if t.isEmpty then none else some u
  | _, none => none

/-! ### Inputs -/

/-- The contents under a name, where a dash stands for the input. -/
def contentsOf (name : Text) (s : State) : Except Fault (Text × State) :=
  if name = ['-'] then .ok (s.takeAllOf s.input) else s.contents name

def orInput (names : List Text) : List Text :=
  if names.isEmpty then [['-']] else names

def throughEach {α : Type} (step : α → Text → Text × α) : List Text → α → State → State
  | [], _, s => s
  | name :: names, a, s =>
    match contentsOf name s with
    | .ok (t, s) =>
      let (shown, a) := step a t
      throughEach step names a (s.out shown)
    | .error e => throughEach step names a (failBy [named name] e s)

/-- How far the file under a name has been read and how far the output has been written, if both
are the same file. -/
def metOutput? (name : Text) (s : State) : Option (Nat × Nat) :=
  let file? (s : State) : Handle → Option OpenFile
    | .file n => s.files.lookup n
    | _ => none
  let read := if name = ['-'] then file? s s.input
    else match s.openNamed .read name with
      | .ok (h, s) => file? s h
      | .error _ => none
  match read, (s.stream? 1).bind (file? s) with
  | some f, some g =>
    let written := if g.appends then ((s.disk.file? g.loc).getD []).length else g.position
    if f.loc = g.loc then some (f.position, written) else none
  | _, _ => none

def partsAt (separator : Char) (t : Text) : List Text :=
  let (first, rest) := t.foldr (fun c (current, done) =>
    if c == separator then ([], current :: done) else (c :: current, done)) ([], [])
  first :: rest

def linesOf (t : Text) : List Text × Bool :=
  let lines := partsAt '\n' t
  match lines.getLast? with
  | some [] => (lines.dropLast, true)
  | _ => (lines, false)

def unlines (lines : List Text) : Text :=
  lines.flatMap (· ++ ['\n'])

end Manuscript.Shell.Tool
