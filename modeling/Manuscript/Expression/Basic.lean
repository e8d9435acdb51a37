import Manuscript.Pattern.Basic
import Manuscript.Text.Ranges

/-!
Regular expressions as they are written in rule tables.

The functions that build an expression keep it in a simple form: a sequence has
no empty parts, alternatives that are all single characters are one class, a
class of one character is that character, and a repetition of what can read
nothing but nothing happens at most once.
-/

namespace Manuscript

inductive Expression
  | empty
  | char (c : Char)
  | oneOf (k : CharClass)
  | check (a : Assertion)
  | seq (e f : Expression)
  | alt (e f : Expression)
  | group (index : Nat) (e : Expression)
  | repeated (least : Nat) (most : Option Nat) (greedy : Bool) (e : Expression)
  deriving DecidableEq, Repr

namespace CharClass

def codes (k : CharClass) : Text.Ranges :=
  let rs := Text.Ranges.ofList (k.ranges.map fun r => (r.1.toNat, r.2.toNat))
  if k.negated then rs.complement else rs

/-- A range of code points without the surrogates at its ends, as characters. -/
def charRange? (r : Nat × Nat) : Option (Char × Char) :=
  let first := if 0xd800 ≤ r.1 && r.1 ≤ 0xdfff then 0xe000 else r.1
  let last := if 0xd800 ≤ r.2 && r.2 ≤ 0xdfff then 0xd7ff else r.2
  if first ≤ last then some (Char.ofNat first, Char.ofNat last) else none

def ofCodes (rs : Text.Ranges) : CharClass :=
  ⟨false, rs.filterMap charRange?⟩

end CharClass

namespace Expression

def canBeEmpty : Expression → Bool
  | empty => true
  | char _ => false
  | oneOf _ => false
  | check _ => true
  | seq e f => e.canBeEmpty && f.canBeEmpty
  | alt e f => e.canBeEmpty || f.canBeEmpty
  | group _ e => e.canBeEmpty
  | repeated least _ _ e => least == 0 || e.canBeEmpty

/-- Whether no other text than the empty one can fit. -/
def readsNothing : Expression → Bool
  | empty => true
  | char _ => false
  | oneOf _ => false
  | check _ => true
  | seq e f => e.readsNothing && f.readsNothing
  | alt e f => e.readsNothing && f.readsNothing
  | group _ e => e.readsNothing
  | repeated _ _ _ e => e.readsNothing

/-! ### Building expressions -/

def ofCodes (rs : Text.Ranges) : Expression :=
  match (CharClass.ofCodes rs).ranges with
  | [(a, b)] => if a = b then char a else oneOf ⟨false, [(a, b)]⟩
  | ranges => oneOf ⟨false, ranges⟩

def concat (es : List Expression) : Expression :=
  es.foldr
    (fun e f => match e, f with
      | empty, f => f
      | e, empty => e
      | e, f => seq e f)
    empty

def alternatives : Expression → List Expression
  | alt e f => e.alternatives ++ f.alternatives
  | e => [e]

def codes? : Expression → Option Text.Ranges
  | char c => some [(c.toNat, c.toNat)]
  | oneOf k => some k.codes
  | _ => none

def ofAlternatives : List Expression → Expression
  | [] => empty
  | [e] => e
  | e :: es => alt e (ofAlternatives es)

/-- A choice, the earlier alternatives preferred. -/
def choice (es : List Expression) : Expression :=
  let es := es.flatMap alternatives
  match es with
  | [e] => e
  | _ =>
    match es.mapM codes? with
    | some sets => ofCodes (Text.Ranges.ofList sets.flatten)
    | none => ofAlternatives es

def times (least : Nat) (most : Option Nat) (greedy : Bool) (e : Expression) : Expression :=
  let (least, most) := if e.readsNothing then (min least 1, some (min 1 (most.getD 1)))
    else (least, most)
  if most = some 0 then empty
  else if least = 1 && most = some 1 then e
  else repeated least most greedy e

end Expression

end Manuscript
