import Manuscript.Shell.Condition
import Manuscript.Shell.Regular
import Manuscript.Shell.Trace

/-!
Conditions in double brackets, whose words are expanded only as far as they
count.
-/

namespace Manuscript.Shell.Condition.Brackets

/-- A regular expression in which what was quoted has no meaning. -/
def expressionText (m : Marked) : Text :=
  m.flatMap fun e =>
    if e.2 && "\\.[]()*+?\x7b\x7d|^$".toList.contains e.1 then ['\\', e.1] else [e.1]

def searched (m : Marked) (t : Text) (s : State) : Bool × State :=
  let keep (ts : List Text) (s : State) : State :=
    s.setValue "BASH_REMATCH".toList (State.numbered ts)
  match Regular.ofText true false (Octets.characters (expressionText m)) with
  | .ok (r, groups) =>
    let subject : Regular.Subject := ⟨(Octets.characters t).toArray, false⟩
    match r.search subject 0 with
    | some f =>
      let covered := (List.range (groups + 1)).map fun n => Octets.ofCharacters (f.group subject n)
      (true, keep covered s)
    | none => (false, keep [] s)
  | .error _ => (false, s.setStatus 2)

/-- The number that an expression is. A fault makes the condition fail. -/
def number (t : Text) (s : State) : Option Int × State :=
  let before := s.session.command
  let (n, s) := { s with session.command := some "[[".toList }.calculate t
  let s := { s with session.command := before }
  if s.session.jump = some Jump.discard then (none, { s with session.jump := none })
  else (some n, s)

def shown (inverted : Bool) (words : List Text) (s : State) : State :=
  s.traceExtended ((if inverted then ["[[ !".toList] else ["[[".toList]) ++ words ++ ["]]".toList])

/-- A word of a condition as it is shown. -/
def shownText (t : Text) : Text :=
  if t.isEmpty then "''".toList else t

def shownPattern (m : Marked) : Text :=
  shownText (m.flatMap fun e => if e.2 then ['\\', e.1] else [e.1])

def compared (capture : Capture) (inverted : Bool) (sign : String) (a b : Word) (s : State) :
    Bool × State :=
  let (t, s) := expandWhole capture false a s
  let show_ (u : Text) (s : State) : State :=
    shown inverted [shownText t, sign.toList, u] s
  let plain (f : Text → State → Bool × State) : Bool × State :=
    let (u, s) := expandWhole capture false b s
    f u (show_ (shownText u) s)
  let matching : Bool × State :=
    let (m, s) := expandPattern capture b s
    let s := show_ (shownPattern m) s
    let (m, t) := if s.hasSwitch "nocasematch" then
        (m.map fun e => (e.1.toLower, e.2), t.map Char.toLower)
      else (m, t)
    (Wildcard.matchesText { s.style with groups := true } m t, s)
  match sign with
  | "=" => matching
  | "==" => matching
  | "!=" => (!matching.1, matching.2)
  | "=~" =>
    let (m, s) := expandPattern capture b s
    searched m t (show_ (shownPattern m) s)
  | "<" => plain fun u s => (t ≠ u && Path.textLe t u, s)
  | ">" => plain fun u s => (t ≠ u && Path.textLe u t, s)
  | sign => plain fun u s =>
    if numericOperators.contains sign then
      match number t s with
      | (none, s) => (false, s)
      | (some x, s) =>
        match number u s with
        | (none, s) => (false, s)
        | (some y, s) =>
          (match sign with
            | "-eq" => x == y
            | "-ne" => x != y
            | "-lt" => x < y
            | "-le" => x ≤ y
            | "-gt" => y < x
            | _ => y ≤ x, s)
    else match Condition.binary .extended s sign.toList t u with
      | .ok b => (b, s)
      | .error _ => (false, s)

def sign? (w : Word) : Option String :=
  (Part.literal? w).bind fun t =>
    (["=", "==", "!=", "=~", "<", ">"] ++ numericOperators ++ fileOperators).find? (·.toList == t)

def isLiteral (w : Word) (t : String) : Bool :=
  Part.literal? w == some t.toList

mutual

def alternatives (capture : Capture) : Nat → Bool → List Word → State → Bool × List Word × State
  | 0, _, ws, s => (false, ws, s)
  | fuel + 1, counts, ws, s =>
    let (a, rest, s) := conjunction capture fuel counts ws s
    match rest with
    | w :: rest =>
      if isLiteral w "||" then
        let (b, rest, s) := alternatives capture fuel (counts && !a) rest s
        (a || b, rest, s)
      else (a, w :: rest, s)
    | [] => (a, [], s)

def conjunction (capture : Capture) : Nat → Bool → List Word → State → Bool × List Word × State
  | 0, _, ws, s => (false, ws, s)
  | fuel + 1, counts, ws, s =>
    let (a, rest, s) := negation capture fuel false counts ws s
    match rest with
    | w :: rest =>
      if isLiteral w "&&" then
        let (b, rest, s) := conjunction capture fuel (counts && a) rest s
        (a && b, rest, s)
      else (a, w :: rest, s)
    | [] => (a, [], s)

def negation (capture : Capture) :
    Nat → Bool → Bool → List Word → State → Bool × List Word × State
  | 0, _, _, ws, s => (false, ws, s)
  | fuel + 1, inverted, counts, ws, s =>
    match ws with
    | [] => (false, [], s)
    | w :: rest =>
      if isLiteral w "!" then
        let (a, rest, s) := negation capture fuel (!inverted) counts rest s
        (!a, rest, s)
      else if isLiteral w "(" then
        let (a, rest, s) := alternatives capture fuel counts rest s
        (a, rest.drop 1, s)
      else primary capture inverted counts w rest s

def primary (capture : Capture) (inverted counts : Bool) (w : Word) (rest : List Word) (s : State) :
    Bool × List Word × State :=
  let isEnd (w : Word) : Bool := isLiteral w "&&" || isLiteral w "||" || isLiteral w ")"
  match rest with
  | [] => single w [] s
  | v :: behind =>
    match sign? v, behind with
    | some sign, u :: behind =>
      if counts then
        let (b, s) := compared capture inverted sign w u s
        (b, behind, s)
      else (false, behind, s)
    | _, _ =>
      match Part.literal? w with
      | some ['-', c] =>
        if (isUnary ['-', c] || isExtraUnary ['-', c]) && !isEnd v then
          if counts then
            let (t, s) := expandWhole capture false v s
            let s := shown inverted [['-', c], shownText t] s
            (unary s c t, behind, s)
          else (false, behind, s)
        else single w rest s
      | _ => single w rest s
where
  single (w : Word) (rest : List Word) (s : State) : Bool × List Word × State :=
    if counts then
      let (t, s) := expandWhole capture false w s
      (!t.isEmpty, rest, shown inverted ["-n".toList, shownText t] s)
    else (false, rest, s)

end

def run (capture : Capture) (ws : List Word) (s : State) : State :=
  let (b, _, s) := alternatives capture (4 * ws.length + 8) true ws (s.setStatus 0)
  if s.halted then s
  else if s.status = 2 then s
  else if b then s.succeed else s.fail

end Manuscript.Shell.Condition.Brackets
