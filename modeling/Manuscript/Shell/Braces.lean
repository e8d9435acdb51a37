import Manuscript.Shell.Atom

/-!
Words with braces, each of which stands for several words: one for each of the
items between commas, or for each member of a sequence. Nothing else in a word is
looked at yet.
-/

namespace Manuscript.Shell.Braces

/-- What stands between a brace that has been opened and the one that closes it, and what stands
behind that. Between them there has to be a comma or the sign of a sequence. -/
def closed? : Nat → Bool → List Atom → List Atom → Option (List Atom × List Atom)
  | _, _, _, [] => none
  | level, divided, read, .char c :: rest =>
    if c = '\x7d' && level = 0 && divided then some (read.reverse, rest)
    else
      let divides := level = 0 && (c = ',' || (c = '.' && match rest with
        | .char '.' :: .char d :: _ => d != '\x7d'
        | .char '.' :: .solid _ :: _ => true
        | _ => false))
      let level := if c = '\x7b' then level + 1 else if c = '\x7d' then level - 1 else level
      closed? level (divided || divides) (.char c :: read) rest
  | level, divided, read, a :: rest => closed? level divided (a :: read) rest

def first? : List Atom → List Atom → Option (List Atom × List Atom × List Atom)
  | _, [] => none
  | read, .char '\x7b' :: rest =>
    match closed? 0 false [] rest with
    | some (inside, behind) => some (read.reverse, inside, behind)
    | none => first? (.char '\x7b' :: read) rest
  | read, a :: rest => first? (a :: read) rest

def items : Nat → List Atom → List Atom → List (List Atom)
  | _, current, [] => [current.reverse]
  | level, current, .char c :: rest =>
    if c = ',' && level = 0 then current.reverse :: items 0 [] rest
    else
      let level := if c = '\x7b' then level + 1 else if c = '\x7d' then level - 1 else level
      items level (.char c :: current) rest
  | level, current, a :: rest => items level (a :: current) rest

def isComma : Atom → Bool
  | .char ',' => true
  | _ => false

/-! ### Sequences -/

def integer? (t : Text) : Option Int :=
  let (negative, digits) := match t with
    | '-' :: t => (true, t)
    | '+' :: t => (false, t)
    | t => (false, t)
  if digits.isEmpty || 18 < digits.length || !digits.all Char.isDigit then none
  else
    let n : Nat := digits.foldl (fun n c => n * 10 + (c.toNat - 48)) 0
    some (if negative then -(n : Int) else n)

/-- The width of the numbers of a sequence that begins or ends with a text, if that has zeros in
front of it. -/
def widthOf (t : Text) : Nat :=
  match t with
  | '0' :: _ :: _ => t.length
  | '-' :: '0' :: _ :: _ => t.length
  | _ => 0

def padded (width : Nat) (n : Int) : Text :=
  let digits := Text.ofNat n.natAbs
  let signed := if n < 0 then width - 1 else width
  (if n < 0 then ['-'] else []) ++ List.replicate (signed - digits.length) '0' ++ digits

def maxMembers : Nat := 300000

def range? (first last step : Int) : Option (List Int) :=
  let size := if step = 0 then 1 else step.natAbs
  let count := (last - first).natAbs / size + 1
  if maxMembers < count then none
  else
    let offsets : List Nat := (List.range count).map (· * size)
    some (offsets.map fun (d : Nat) => if first ≤ last then first + d else first - d)

def ends (current : Text) : Text → List Text
  | '.' :: '.' :: rest => current.reverse :: ends [] rest
  | c :: rest => ends (c :: current) rest
  | [] => [current.reverse]

/-- The members of a sequence, given by its ends and perhaps by its steps. -/
def sequence? (t : Text) : Option (List Text) :=
  let parts := ends [] t
  let step? : Option Int := match parts with
    | [_, _] => some 1
    | [_, _, s] => integer? s
    | _ => none
  step?.bind fun step =>
    match parts with
    | a :: b :: _ =>
      match integer? a, integer? b with
      | some first, some last =>
        let padding := max (widthOf a) (widthOf b)
        let width := if padding = 0 then 0 else max a.length b.length
        (range? first last step).map (·.map (padded width))
      | _, _ =>
        match a, b with
        | [c], [d] =>
          if c.isAlpha && d.isAlpha then
            (range? c.toNat d.toNat step).map (·.map fun n => [Char.ofNat n.toNat])
          else none
        | _, _ => none
    | _ => none

/-! ### Words -/

def expandFrom : Nat → List Atom → List (List Atom)
  | 0, w => [w]
  | fuel + 1, w =>
    match first? [] w with
    | none => [w]
    | some (front, inside, behind) =>
      let members :=
        if inside.any isComma then (items 0 [] inside).flatMap (expandFrom fuel)
        else match (Atom.text? inside).bind sequence? with
          | some ts => ts.map (·.map .char)
          | none => [.char '\x7b' :: inside ++ [.char '\x7d']]
      let rests := expandFrom fuel behind
      members.flatMap fun m => rests.map fun r => front ++ m ++ r

def hasBraces (w : Word) : Bool :=
  w.any fun
    | .text t false => t.contains '\x7b'
    | _ => false

def expand (w : Word) : List Word :=
  if hasBraces w then
    let atoms := Atom.ofWord w
    (expandFrom (atoms.length + 1) atoms).map Atom.toWord
  else [w]

end Manuscript.Shell.Braces
