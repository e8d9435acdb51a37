import Manuscript.Shell.Reader.Word

/-!
Arithmetic in scripts: whole numbers of 64 bits, with the operators of C and
parameters by their names.

Evaluation goes from left to right, and what an operator does not need is read
but not evaluated. Values that names were given on the way are part of the
answer. In the extended dialect the value of a name is an expression itself, and
a name may be that of a list, with a place in brackets behind it.
-/

namespace Manuscript.Shell.Arithmetic

/-! ### Faults -/

inductive Complaint
  | operandExpected
  | trailing
  | colonExpected
  | parenthesisExpected
  | divisionByZero
  | notAssignable
  | valueTooGreat
  | invalidNumber
  | invalidBase
  | invalidOperator
  | negativeExponent
  | expressionExpected
  | badSubscript
  | tooDeep
  deriving DecidableEq, Repr

namespace Complaint

def plain : Complaint → String
  | trailing => "expecting EOF"
  | colonExpected => "expecting ':'"
  | parenthesisExpected => "expecting ')'"
  | divisionByZero => "division by zero"
  | _ => "expecting primary"

def graved (t : Text) : Text :=
  Char.ofNat 96 :: t ++ ['\'']

def extended : Complaint → Text
  | operandExpected => "syntax error: operand expected".toList
  | trailing => "syntax error in expression".toList
  | colonExpected => graved [':'] ++ " expected for conditional expression".toList
  | parenthesisExpected => "missing ".toList ++ graved [')']
  | divisionByZero => "division by 0".toList
  | notAssignable => "attempted assignment to non-variable".toList
  | valueTooGreat => "value too great for base".toList
  | invalidNumber => "invalid number".toList
  | invalidBase => "invalid arithmetic base".toList
  | invalidOperator => "syntax error: invalid arithmetic operator".toList
  | negativeExponent => "exponent less than 0".toList
  | expressionExpected => "expression expected".toList
  | badSubscript => "bad array subscript".toList
  | tooDeep => "expression recursion level exceeded".toList

end Complaint

inductive Fault
  /-- An expression is not well made; the last text is what stands from the fault on. -/
  | malformed (c : Complaint) (expression behind : Text)
  | notANumber (value : Text)
  | fixedName (name : Text)
  | unbound (name : Text)
  deriving DecidableEq, Repr

/-! ### Tokens -/

inductive Token
  | number (n : Int)
  | name (t : Text) (place : Option Text)
  | sign (o : String)
  | wrong (c : Complaint)
  deriving DecidableEq, Repr

def wrap (n : Int) : Int :=
  Int.bmod n 18446744073709551616

/-- The signs, such that none comes behind one that it begins with. -/
def signs : List String :=
  ["<<=", ">>=", "==", "!=", "<=", ">=", "<<", ">>", "&&", "||", "+=", "-=", "*=", "/=", "%=", "&=",
    "|=", "^=", "+", "-", "*", "/", "%", "<", ">", "=", "!", "&", "|", "^", "~", "?", ":", "(",
    ")"]

def extraSigns : List String :=
  ["**", "++", "--", ","]

def sign? (extended : Bool) (t : Text) : Option (String × Text) :=
  ((if extended then extraSigns else []) ++ signs).findSome? fun o =>
    (Text.dropBeginning? o.toList t).map (o, ·)

def digit? (base : Nat) (c : Char) : Option Nat :=
  if c.isDigit then some (c.toNat - 48)
  else if c.isLower then some (c.toNat - 87)
  else if c.isUpper then some (if base ≤ 36 then c.toNat - 55 else c.toNat - 29)
  else if c = '@' then some 62
  else if c = '_' then some 63
  else none

def numberIn (base : Nat) (digits : Text) : Except Complaint Int := do
  let n ← digits.foldlM (fun n c =>
    match digit? base c with
    | some d => if d < base then .ok (n * base + d) else .error .valueTooGreat
    | none => .error .invalidNumber) 0
  return wrap n

/-- The number that a text is, which may name its base. -/
def numeral (t : Text) : Except Complaint Int :=
  let base := t.takeWhile (· != '#')
  match t.drop base.length with
  | _ :: digits => do
    let b ← numberIn 10 base
    if b < 2 || 64 < b then throw .invalidBase
    else if digits.isEmpty then throw .invalidNumber
    else numberIn b.toNat digits
  | [] =>
    match t with
    | '0' :: x :: digits =>
      if x = 'x' || x = 'X' then numberIn 16 digits else numberIn 8 (x :: digits)
    | t => numberIn 10 t

def place? : Nat → Text → Text → Option (Text × Text)
  | _, _, [] => none
  | depth, read, '[' :: rest => place? (depth + 1) ('[' :: read) rest
  | 0, read, ']' :: rest => some (read.reverse, rest)
  | depth + 1, read, ']' :: rest => place? depth (']' :: read) rest
  | depth, read, c :: rest => place? depth (c :: read) rest

/-- The tokens of an expression, each with all that stands from it on. -/
def tokens (extended : Bool) : Nat → Text → List (Token × Text)
  | 0, _ => []
  | _, [] => []
  | fuel + 1, c :: rest =>
    if c == ' ' || c == '\t' || c == '\n' then tokens extended fuel rest
    else if c.isDigit then
      if extended then
        let t := (c :: rest).takeWhile fun c => c.isAlphanum || c == '#' || c == '@' || c == '_'
        let token : Token := match numeral t with
          | .ok n => .number n
          | .error f => .wrong f
        (token, c :: rest) :: tokens extended fuel ((c :: rest).drop t.length)
      else
        let (n, behind) := Digits.number (c :: rest)
        (.number (min n Digits.largest), c :: rest) :: tokens extended fuel behind
    else if Reading.isNameStart c then
      let name := (c :: rest).takeWhile Reading.isNameChar
      match (c :: rest).drop name.length, extended with
      | '[' :: t, true =>
        match place? 0 [] t with
        | some (place, behind) =>
          (.name name (some place), c :: rest) :: tokens extended fuel behind
        | none => [(.wrong .badSubscript, c :: rest)]
      | behind, _ => (.name name none, c :: rest) :: tokens extended fuel behind
    else match sign? extended (c :: rest) with
      | some (o, behind) => (.sign o, c :: rest) :: tokens extended fuel behind
      | none => [(.wrong .invalidOperator, c :: rest)]

/-! ### Evaluation -/

structure Progress where
  expression : Text
  rest : List (Token × Text)
  last : Text
  wantsOperand : Bool := true
  level : Nat := 0
  given : List ((Text × Option Text) × Text)

/-- What names stand for, and which of them stand for it forever. -/
structure Names where
  value? : Text → Option Text → Option Text
  isTable : Text → Bool
  isFixed : Text → Bool
  extended : Bool
  strict : Bool

abbrev Evaluation := StateT Progress (Except Fault)

def behind : Evaluation Text := do
  let p ← get
  return match p.rest with
    | (_, t) :: _ => t
    | [] => p.last

def fault {α : Type} (c : Complaint) : Evaluation α := do
  throw (.malformed c (← get).expression (← behind))

def inspect : Evaluation Unit := do
  let p ← get
  match p.rest with
  | (.wrong .invalidOperator, _) :: _ =>
    fault (if p.wantsOperand then .operandExpected else .invalidOperator)
  | (.wrong c, _) :: _ => fault c
  | _ => return

def peek : Evaluation (Option Token) := do
  return (← get).rest.head?.map (·.1)

def skip : Evaluation Unit := do
  modify fun p =>
    match p.rest with
    | (token, t) :: rest =>
      let wantsOperand := match token with
        | .sign o => o != ")"
        | _ => false
      { p with rest, last := t, wantsOperand }
    | [] => p
  inspect

def skipIf (o : String) : Evaluation Bool := do
  if (← peek) = some (.sign o) then
    skip
    return true
  else return false

def isBlank (c : Char) : Bool :=
  c == ' ' || c == '\t' || c == '\n'

/-- The number that a whole text is, in the base that its first digits name; blanks are it too. -/
def numberOf? (t : Text) : Option Int :=
  let t := t.dropWhile isBlank
  let (negative, t) := match t with
    | '-' :: t => (true, t)
    | '+' :: t => (false, t)
    | t => (false, t)
  if t.isEmpty then some 0
  else if !(t.head?.any Char.isDigit) then none
  else
    let (n, rest) := Digits.number t
    if rest.all isBlank then
      let n : Int := min n Digits.largest
      some (if negative then -n else n)
    else none

def decimal? (t : Text) : Option Int :=
  let (negative, digits) := match t with
    | '-' :: t => (true, t)
    | t => (false, t)
  if digits.isEmpty || 18 < digits.length || digits.head? == some '0' && 1 < digits.length ||
      !digits.all Char.isDigit then none
  else
    let n : Int := Digits.valueIn 10 digits
    some (if negative then -n else n)

def give (names : Names) (name : Text) (place : Option Text) (n : Int) : Evaluation Unit := do
  if names.isFixed name then throw (.fixedName name)
  else modify fun p => { p with given := ((name, place), Text.ofInt n) :: p.given }

def truth (b : Bool) : Int :=
  if b then 1 else 0

/-- How tightly an operator binds; the tightest bind with the highest number. -/
def tightness? (o : String) : Option Nat :=
  match o with
  | "**" => some 11
  | "*" => some 10
  | "/" => some 10
  | "%" => some 10
  | "+" => some 9
  | "-" => some 9
  | "<<" => some 8
  | ">>" => some 8
  | "<" => some 7
  | "<=" => some 7
  | ">" => some 7
  | ">=" => some 7
  | "==" => some 6
  | "!=" => some 6
  | "&" => some 5
  | "^" => some 4
  | "|" => some 3
  | _ => none

def bits (n : Int) : BitVec 64 :=
  BitVec.ofInt 64 n

def power : Nat → Int → Nat → Int
  | 0, _, _ => 1
  | width + 1, a, n =>
    let squared := power width (wrap (a * a)) (n / 2)
    if n % 2 = 0 then squared else wrap (squared * a)

/-- The value of an operator; a fault stands at the second operand. -/
def outcome (o : String) (a b : Int) (second : Text) : Evaluation Int :=
  let shift := b.toNat % 64
  let refuse (c : Complaint) : Evaluation Int := do
    throw (.malformed c (← get).expression second)
  match o with
  | "*" => return wrap (a * b)
  | "/" => if b = 0 then refuse .divisionByZero else return wrap (a.tdiv b)
  | "%" => if b = 0 then refuse .divisionByZero else return wrap (a.tmod b)
  | "+" => return wrap (a + b)
  | "-" => return wrap (a - b)
  | "<<" => return (bits a <<< shift).toInt
  | ">>" => return ((bits a).sshiftRight shift).toInt
  | "<" => return truth (a < b)
  | "<=" => return truth (a ≤ b)
  | ">" => return truth (b < a)
  | ">=" => return truth (b ≤ a)
  | "==" => return truth (a = b)
  | "!=" => return truth (a ≠ b)
  | "&" => return (bits a &&& bits b).toInt
  | "^" => return (bits a ^^^ bits b).toInt
  | "|" => return (bits a ||| bits b).toInt
  | "**" => if b < 0 then fault .negativeExponent else return power 64 a b.toNat
  | _ => fault .trailing

def assignment? (o : String) : Option (Option String) :=
  match o with
  | "=" => some none
  | "+=" => some (some "+")
  | "-=" => some (some "-")
  | "*=" => some (some "*")
  | "/=" => some (some "/")
  | "%=" => some (some "%")
  | "&=" => some (some "&")
  | "|=" => some (some "|")
  | "^=" => some (some "^")
  | "<<=" => some (some "<<")
  | ">>=" => some (some ">>")
  | _ => none

mutual

def inner (names : Names) : Nat → Text → Evaluation Int
  | 0, _ => fault .tooDeep
  | fuel + 1, t => do
    let before ← get
    if 1024 ≤ before.level then fault .tooDeep
    else
      let rest := tokens true (t.length + 1) t
      if rest.isEmpty then return 0
      else
        set { before with
          expression := t, rest, last := [], wantsOperand := true, level := before.level + 1 }
        inspect
        let n ← sequence names fuel true
        if !(← get).rest.isEmpty then fault .trailing
        else
          let given := (← get).given
          set { before with given }
          return n

/-- The place that a text means: the key of a table, or the number that an expression is. -/
def placeOf (names : Names) : Nat → Text → Option Text → Evaluation (Option Text)
  | 0, _, _ => return none
  | fuel + 1, name, place => do
    match place with
    | none => return none
    | some t =>
      if names.isTable name then return some t
      else return some (Text.ofInt (← inner names fuel t))

def valueOf (names : Names) : Nat → Text → Option Text → Evaluation Int
  | 0, _, _ => fault .tooDeep
  | fuel + 1, name, place => do
    match ((← get).given.lookup (name, place)).or (names.value? name place) with
    | none => if names.strict then throw (.unbound name) else return 0
    | some value =>
      if names.extended then
        match decimal? value with
        | some n => return n
        | none => inner names fuel value
      else match numberOf? value with
        | some n => return n
        | none => throw (.notANumber value)

/-- An expression at the start of the tokens. Where it does not count, nothing in it is done. -/
def assignment (names : Names) : Nat → Bool → Evaluation Int
  | 0, _ => fault .operandExpected
  | fuel + 1, counts => do
    match (← get).rest with
    | (.name name place, _) :: (.sign o, _) :: _ =>
      match assignment? o with
      | some operator =>
        skip
        skip
        let second ← behind
        let b ← assignment names fuel counts
        if counts then
          let place ← placeOf names fuel name place
          let result ← match operator with
            | some o => do outcome o (← valueOf names fuel name place) b second
            | none => pure b
          give names name place result
          return result
        else return b
      | none => unassigned names fuel counts
    | _ => unassigned names fuel counts

/-- An expression to which nothing can be assigned. -/
def unassigned (names : Names) : Nat → Bool → Evaluation Int
  | 0, _ => fault .operandExpected
  | fuel + 1, counts => do
    let n ← conditional names fuel counts
    match ← peek with
    | some (.sign o) =>
      if names.extended && (assignment? o).isSome then fault .notAssignable else return n
    | _ => return n

def conditional (names : Names) : Nat → Bool → Evaluation Int
  | 0, _ => fault .operandExpected
  | fuel + 1, counts => do
    let a ← disjunction names fuel counts
    if ← skipIf "?" then
      let b ← if names.extended then sequence names fuel (counts && a ≠ 0)
        else assignment names fuel (counts && a ≠ 0)
      if ← skipIf ":" then
        let c ← conditional names fuel (counts && a = 0)
        return if a ≠ 0 then b else c
      else fault .colonExpected
    else return a

def disjunction (names : Names) : Nat → Bool → Evaluation Int
  | 0, _ => fault .operandExpected
  | fuel + 1, counts => do
    let a ← conjunction names fuel counts
    if ← skipIf "||" then
      let b ← disjunction names fuel (counts && a = 0)
      return truth (a ≠ 0 || b ≠ 0)
    else return a

def conjunction (names : Names) : Nat → Bool → Evaluation Int
  | 0, _ => fault .operandExpected
  | fuel + 1, counts => do
    let first ← operand names fuel counts
    let a ← operation names fuel counts 0 first
    if ← skipIf "&&" then
      let b ← conjunction names fuel (counts && a ≠ 0)
      return truth (a ≠ 0 && b ≠ 0)
    else return a

/-- An operand with the operators behind it that bind at least so tightly. -/
def operation (names : Names) : Nat → Bool → Nat → Int → Evaluation Int
  | 0, _, _, a => return a
  | fuel + 1, counts, least, a => do
    match ← peek with
    | some (.sign o) =>
      match tightness? o with
      | some n =>
        if n < least then return a
        else
          skip
          let second ← behind
          let first ← operand names fuel counts
          let b ← operation names fuel counts (if o == "**" then n else n + 1) first
          let c ← if counts then outcome o a b second else pure b
          operation names fuel counts least c
      | none => return a
    | _ => return a

def operand (names : Names) : Nat → Bool → Evaluation Int
  | 0, _ => fault .operandExpected
  | fuel + 1, counts => do
    match ← peek with
    | some (.number n) =>
      skip
      return n
    | some (.name name place) =>
      skip
      let place ← if counts then placeOf names fuel name place else pure none
      let n ← if counts then valueOf names fuel name place else pure 0
      if ← skipIf "++" then
        if counts then give names name place (wrap (n + 1))
        return n
      else if ← skipIf "--" then
        if counts then give names name place (wrap (n - 1))
        return n
      else return n
    | some (.sign "(") =>
      skip
      let n ← sequence names fuel counts
      if ← skipIf ")" then return n
      else fault .parenthesisExpected
    | some (.sign "+") =>
      skip
      operand names fuel counts
    | some (.sign "-") =>
      skip
      return wrap (-(← operand names fuel counts))
    | some (.sign "!") =>
      skip
      return truth ((← operand names fuel counts) = 0)
    | some (.sign "~") =>
      skip
      return (~~~(bits (← operand names fuel counts))).toInt
    | some (.sign "++") => step names fuel counts 1
    | some (.sign "--") => step names fuel counts (-1)
    | _ => fault .operandExpected

/-- A name whose value is changed by a little first. -/
def step (names : Names) : Nat → Bool → Int → Evaluation Int
  | 0, _, _ => fault .operandExpected
  | fuel + 1, counts, amount => do
    skip
    match ← peek with
    | some (.name name place) =>
      skip
      if counts then
        let place ← placeOf names fuel name place
        let n := wrap ((← valueOf names fuel name place) + amount)
        give names name place n
        return n
      else return 0
    | _ => operand names fuel counts

def sequence (names : Names) : Nat → Bool → Evaluation Int
  | 0, _ => fault .operandExpected
  | fuel + 1, counts => do
    let n ← assignment names fuel counts
    if ← skipIf "," then sequence names fuel counts
    else return n

end

/-- The value of an expression, and the values that places of names were given. -/
def evaluate (names : Names) (t : Text) :
    Except Fault (Int × List ((Text × Option Text) × Text)) := do
  let ts := tokens names.extended (t.length + 1) t
  if names.extended && ts.isEmpty then return (0, [])
  else
    let expression := if names.extended then t.dropWhile isBlank else t
    let whole : Evaluation Int := do
      if names.extended then inspect
      let n ← sequence names (16 * ts.length + 50000) true
      if (← get).rest.isEmpty then return n else fault .trailing
    let (n, p) ← whole.run { expression, rest := ts, last := [], given := [] }
    return (n, p.given)

end Manuscript.Shell.Arithmetic
