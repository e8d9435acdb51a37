import Manuscript.Shell.Parameter
import Manuscript.Shell.System

/-!
Conditions: what a test of files, texts and numbers says, and how it complains
about conditions that make no sense. The plain shell reads them in its own way,
other programs in another.
-/

namespace Manuscript.Shell.Condition

inductive Examiner
  | shell
  | extended
  | tool
  deriving DecidableEq, Repr

/-! ### Single questions -/

def unaryLetters : Text :=
  "rwxefdcbpugkstznhOGLSN".toList

def isUnary (t : Text) : Bool :=
  match t with
  | ['-', c] => unaryLetters.contains c
  | _ => false

def numericOperators : List String :=
  ["-eq", "-ne", "-gt", "-ge", "-lt", "-le"]

def fileOperators : List String :=
  ["-nt", "-ot", "-ef"]

def isBinary (who : Examiner) (t : Text) : Bool :=
  let texts := match who with
    | .shell => ["=", "!=", "<", ">"]
    | .extended => ["=", "==", "!=", "<", ">"]
    | .tool => ["=", "==", "!="]
  (texts ++ numericOperators ++ fileOperators).any (·.toList == t)

def isExtraUnary (t : Text) : Bool :=
  match t with
  | ['-', c] => "avoR".toList.contains c
  | _ => false

/-- Whether a name, or a place of it, has a text. -/
def hasValue (s : State) (t : Text) : Bool :=
  let name := t.takeWhile (· != '[')
  match t.drop name.length with
  | [] => (s.parameter? t).isSome
  | _ :: rest =>
    match rest.dropLast with
    | ['@'] => ((s.whole? name).map (·.texts)).any (!·.isEmpty)
    | place => (s.textAt? name place).isSome

def unary (s : State) (c : Char) (t : Text) : Bool :=
  let kind := System.kindOf? s true t
  match c with
  | 'z' => t.isEmpty
  | 'n' => !t.isEmpty
  | 't' => false
  | 'f' =>
    match kind with
    | some (.file ..) => true
    | _ => false
  | 'd' => kind == some .directory
  | 'c' => kind == some .device
  | 'x' =>
    match kind with
    | some (.file _ executable) => executable
    | some .directory => true
    | _ => false
  | 's' =>
    match kind with
    | some (.file size _) => 0 < size
    | some .directory => true
    | _ => false
  | 'h' => System.kindOf? s false t == some .link
  | 'L' => System.kindOf? s false t == some .link
  | 'b' => false
  | 'p' => kind == some .pipe
  | 'S' => false
  | 'u' => false
  | 'g' => false
  | 'k' => false
  | 'v' => hasValue s t
  | 'R' => false
  | 'o' => false
  | _ => kind.isSome

def number? (t : Text) : Option Int :=
  let blank (c : Char) : Bool := c == ' ' || (9 ≤ c.toNat && c.toNat ≤ 13)
  let t := ((t.dropWhile blank).reverse.dropWhile blank).reverse
  let (negative, ds) := match t with
    | '-' :: ds => (true, ds)
    | '+' :: ds => (false, ds)
    | ds => (false, ds)
  if ds.isEmpty || !ds.all Char.isDigit then none
  else
    let n : Int := Digits.valueIn 10 ds
    some (if negative then -n else n)

inductive Fault
  | missingBracket
  | notANumber (t : Text)
  | missingArgument (behind : Text)
  | unexpectedOperator (t : Text)
  | notBinary (t : Text)
  | notUnary (t : Text)
  | extra (t : Text)
  | tooMany
  | missingParenthesis
  | otherThanParenthesis (t : Text)
  deriving DecidableEq, Repr

def quote (t : Text) : Text :=
  Octets.encode ['\u2018'] ++ t ++ Octets.encode ['\u2019']

def Fault.message (who : Examiner) : Fault → List Text
  | missingBracket =>
    match who with
    | .shell => ["missing ]".toList]
    | .extended => ["missing ".toList, ['\x60'], "]'".toList]
    | .tool => ["missing ".toList, quote [']']]
  | notANumber t =>
    match who with
    | .shell => ["Illegal number: ".toList, t]
    | .extended => [t, ": integer expression expected".toList]
    | .tool => ["invalid integer ".toList, quote t]
  | missingArgument t =>
    match who with
    | .shell => [t, ": argument expected".toList]
    | .extended => ["argument expected".toList]
    | .tool => ["missing argument after ".toList, quote t]
  | unexpectedOperator t => if t.isEmpty then ["unexpected operator".toList]
    else [t, ": unexpected operator".toList]
  | notBinary t =>
    [if who == .tool then quote t else t, ": binary operator expected".toList]
  | notUnary t => [if who == .tool then quote t else t, ": unary operator expected".toList]
  | extra t => ["extra argument ".toList, quote t]
  | tooMany => ["too many arguments".toList]
  | missingParenthesis =>
    match who with
    | .shell => ["closing paren expected".toList]
    | .extended => ["".toList, ['\x60'], ")' expected".toList]
    | .tool => [quote [')'], " expected".toList]
  | otherThanParenthesis t =>
    match who with
    | .tool => [quote [')'], " expected, found ".toList, quote t]
    | _ => [['\x60'], ")' expected, found ".toList, t]

def numberOr (t : Text) : Except Fault Int :=
  match number? t with
  | some n => .ok n
  | none => .error (.notANumber t)

/-- What an operator says about what stands on its sides. A file counts as newer than one that is
missing, but not in the plain shell. -/
def binary (who : Examiner) (s : State) (operator a b : Text) : Except Fault Bool :=
  let location (t : Text) : Option Location := (s.disk.at? (Octets.path t)).map (·.1)
  match String.ofList operator with
  | "=" => .ok (a == b)
  | "==" => .ok (a == b)
  | "!=" => .ok (a != b)
  | "<" => .ok (a < b)
  | ">" => .ok (b < a)
  | "-nt" => .ok (who ≠ .shell && (location a).isSome && (location b).isNone)
  | "-ot" => .ok (who ≠ .shell && (location a).isNone && (location b).isSome)
  | "-ef" => .ok ((location a).isSome && location a == location b)
  | o => do
    let x ← numberOr a
    let y ← numberOr b
    return match o with
      | "-eq" => x == y
      | "-ne" => x != y
      | "-gt" => y < x
      | "-ge" => y ≤ x
      | "-lt" => x < y
      | _ => x ≤ y

/-! ### Conditions of the plain shell -/

namespace Plain

inductive Role
  | finish
  | operand
  | unary
  | binary
  | negation
  | both
  | either
  | opening
  | closing
  deriving DecidableEq, Repr

def role (args : List Text) : Role :=
  match args with
  | [] => .finish
  | t :: rest =>
    if isUnary t && t != ['-', 'N'] then
      match rest with
      | [] => .operand
      | u :: _ :: _ => if isBinary .shell u then .operand else .unary
      | [_] => .unary
    else if isBinary .shell t then .binary
    else match t with
      | ['!'] => .negation
      | ['-', 'a'] => .both
      | ['-', 'o'] => .either
      | ['('] => if rest.isEmpty then .operand else .opening
      | [')'] => .closing
      | _ => .operand

mutual

/-- Alternatives from the first argument on; the answer begins with the last argument that was
used. -/
def alternatives (s : State) : Nat → Role → List Text → Except Fault (Bool × List Text)
  | 0, _, args => .ok (false, args)
  | fuel + 1, r, args => do
    let (a, args) ← conjunction s fuel r args
    if role (args.drop 1) = .either then
      let (b, args) ← alternatives s fuel (role (args.drop 2)) (args.drop 2)
      return (a || b, args)
    else return (a, args)

def conjunction (s : State) : Nat → Role → List Text → Except Fault (Bool × List Text)
  | 0, _, args => .ok (false, args)
  | fuel + 1, r, args => do
    let (a, args) ← negation s fuel r args
    if role (args.drop 1) = .both then
      let (b, args) ← conjunction s fuel (role (args.drop 2)) (args.drop 2)
      return (a && b, args)
    else return (a, args)

def negation (s : State) : Nat → Role → List Text → Except Fault (Bool × List Text)
  | 0, _, args => .ok (false, args)
  | fuel + 1, r, args => do
    if r = .negation then
      let next := role (args.drop 1)
      let (a, args) ← negation s fuel next (if next = .finish then args else args.drop 1)
      return (!a, args)
    else primary s fuel r args

def primary (s : State) : Nat → Role → List Text → Except Fault (Bool × List Text)
  | 0, _, args => .ok (false, args)
  | fuel + 1, r, args => do
    match r, args with
    | .finish, args => return (false, args)
    | _, [] => return (false, [])
    | .opening, _ :: rest =>
      if role rest = .closing then return (false, rest)
      else
        let (a, args) ← alternatives s fuel (role rest) rest
        if role (args.drop 1) = .closing then return (a, args.drop 1)
        else throw .missingParenthesis
    | .unary, t :: rest =>
      match rest with
      | [] => throw (.missingArgument t)
      | u :: _ =>
        if t = ['-', 't'] && (number? u).isNone then throw (.notANumber u)
        else return (unary s (t.getLastD ' ') u, rest)
    | _, t :: rest =>
      match rest with
      | o :: rest' =>
        if role rest = .binary then
          match rest' with
          | [] => throw (.missingArgument o)
          | u :: _ => return (← binary .shell s o t u, rest')
        else return (!t.isEmpty, t :: rest)
      | [] => return (!t.isEmpty, [t])

end

def holds (s : State) : Nat → List Text → Except Fault Bool
  | 0, _ => .ok false
  | fuel + 1, args => do
    let evaluate (r : Role) (args : List Text) : Except Fault Bool := do
      let (a, args) ← alternatives s (4 * args.length + 8) r args
      match args with
      | t :: _ :: _ => throw (.unexpectedOperator t)
      | _ => return a
    match args with
    | [] => return false
    | [a, o, b] =>
      if isBinary .shell o then evaluate .operand [a, o, b]
      else if a = ['('] && b = [')'] then evaluate (role [o]) [o]
      else if a = ['!'] then return !(← holds s fuel [o, b])
      else evaluate (role args) args
    | [a, x, y, b] =>
      if a = ['('] && b = [')'] then evaluate (role [x, y]) [x, y]
      else if a = ['!'] then return !(← holds s fuel [x, y, b])
      else evaluate (role args) args
    | args => evaluate (role args) args

end Plain

/-! ### Conditions of others -/

namespace Counted

def single (t : Text) : Bool :=
  !t.isEmpty

def looksUnary (t : Text) : Bool :=
  match t with
  | ['-', _] => true
  | _ => false

def ask (s : State) (t u : Text) : Except Fault Bool :=
  if isUnary t || (s.isExtended && isExtraUnary t) then .ok (unary s (t.getLastD ' ') u)
  else .error (.notUnary t)

def beyond {α : Type} (args : List Text) : Except Fault α :=
  .error (.missingArgument (args.getLastD []))

def two (who : Examiner) (s : State) (a b : Text) : Except Fault Bool :=
  if a = ['!'] then .ok (!single b)
  else if looksUnary a then ask s a b
  else if who = .extended then .error (.notUnary a)
  else .error (.missingArgument b)

mutual

def alternatives (who : Examiner) (s : State) (all : List Text) :
    Nat → List Text → Except Fault (Bool × List Text)
  | 0, args => .ok (false, args)
  | fuel + 1, args => do
    let (a, args) ← conjunction who s all fuel args
    match args with
    | ['-', 'o'] :: rest =>
      let (b, args) ← alternatives who s all fuel rest
      return (a || b, args)
    | args => return (a, args)

def conjunction (who : Examiner) (s : State) (all : List Text) :
    Nat → List Text → Except Fault (Bool × List Text)
  | 0, args => .ok (false, args)
  | fuel + 1, args => do
    let (a, args) ← term who s all fuel args
    match args with
    | ['-', 'a'] :: rest =>
      let (b, args) ← conjunction who s all fuel rest
      return (a && b, args)
    | args => return (a, args)

def term (who : Examiner) (s : State) (all : List Text) :
    Nat → List Text → Except Fault (Bool × List Text)
  | 0, args => .ok (false, args)
  | fuel + 1, args => do
    match args with
    | [] => beyond all
    | ['!'] :: rest =>
      if rest.isEmpty then beyond all
      else
        let (a, args) ← term who s all fuel rest
        return (!a, args)
    | ['('] :: rest =>
      if rest.isEmpty then beyond all
      else
        let inner := rest.takeWhile (· != [')'])
        let (a, args) ← if inner.length ≤ 4 && inner.length < rest.length then
            do
              let a ← holds who s all fuel inner
              pure (a, rest.drop inner.length)
          else alternatives who s all fuel rest
        match args with
        | [] => throw .missingParenthesis
        | [')'] :: rest => return (a, rest)
        | t :: _ => throw (.otherThanParenthesis t)
    | a :: o :: b :: rest =>
      if isBinary who o then return (← binary who s o a b, rest)
      else if looksUnary a then return (← ask s a o, b :: rest)
      else return (single a, o :: b :: rest)
    | [a, b] =>
      if looksUnary a then return (← ask s a b, [])
      else return (single a, [b])
    | [a] => return (single a, [])

/-- Whether a condition holds; how it is read goes by the number of its arguments. -/
def holds (who : Examiner) (s : State) (all : List Text) : Nat → List Text → Except Fault Bool
  | 0, _ => .ok false
  | fuel + 1, args => do
    let whole : Except Fault Bool := do
      let (a, rest) ← alternatives who s all fuel args
      match rest with
      | [] => return a
      | t :: _ => if who = .extended then throw .tooMany else throw (.extra t)
    match args with
    | [] => return false
    | [a] => return single a
    | [a, b] => two who s a b
    | [a, o, b] =>
      if isBinary who o then binary who s o a b
      else if a = ['!'] then return !(← two who s o b)
      else if a = ['('] && b = [')'] then return single o
      else if o = ['-', 'a'] || o = ['-', 'o'] then whole
      else throw (.notBinary o)
    | [a, x, y, b] =>
      if a = ['!'] then return !(← holds who s all fuel [x, y, b])
      else if a = ['('] && b = [')'] then two who s x y
      else whole
    | _ => whole

end

end Counted

def holds (who : Examiner) (inBrackets : Bool) (s : State) (args : List Text) :
    Except Fault Bool :=
  if inBrackets && args.getLast? != some [']'] then .error .missingBracket
  else
    let args := if inBrackets then args.dropLast else args
    let fuel := 4 * args.length + 8
    match who with
    | .shell => Plain.holds s fuel args
    | who => Counted.holds who s args fuel args

end Manuscript.Shell.Condition
