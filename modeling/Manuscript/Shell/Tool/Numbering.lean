import Manuscript.Shell.Regular
import Manuscript.Shell.Tool.Format
import Manuscript.Shell.Tool.Lines

/-!
Numbering the lines of pages, which have a head, a body and a foot.
-/

namespace Manuscript.Shell.Tool.Numbering

inductive Style
  | all
  | full
  | none
  | matching (r : Regular)

inductive Part
  | head
  | body
  | foot
  deriving DecidableEq, Repr

inductive Alignment
  | left
  | right
  | zeros
  deriving DecidableEq, Repr

structure Layout where
  head : Style := .none
  body : Style := .full
  foot : Style := .none
  first : Int := 1
  step : Int := 1
  emptyLines : Nat := 1
  width : Nat := 6
  separator : Text := ['\t']
  alignment : Alignment := .right
  keepsCounting : Bool := false
  delimiter : Text := ['\\', ':']

abbrev Complaint := List Text × Bool

def styleOf (part : String) (t : Text) : Except Complaint Style :=
  match t with
  | ['a'] => .ok .all
  | ['t'] => .ok .full
  | ['n'] => .ok .none
  | 'p' :: pattern =>
    match Regular.ofText false false (Octets.characters pattern) with
    | .ok (r, _) => .ok (.matching r)
    | .error _ => .error (["Invalid regular expression".toList], false)
  | t => .error (["invalid ".toList, part.toList, " numbering style: ".toList, curly t], true)

def alignmentOf (t : Text) : Except Complaint Alignment :=
  if t == "ln".toList then .ok .left
  else if t == "rn".toList then .ok .right
  else if t == "rz".toList then .ok .zeros
  else .error (["invalid line numbering format: ".toList, curly t], true)

def numberOf (what : String) (least : Option Int) (t : Text) : Except Complaint Int :=
  let start := ["invalid ".toList, what.toList, ": ".toList, curly t]
  match integer? t with
  | none => .error (start, false)
  | some n =>
    if least.any (n < ·) then .error (start ++ [": Numerical result out of range".toList], false)
    else .ok n

def Layout.add (l : Layout) : GivenOption → Except Complaint Layout
  | ('b', some t) => (styleOf "body" t).map fun b => { l with body := b }
  | ('h', some t) => (styleOf "header" t).map fun h => { l with head := h }
  | ('f', some t) => (styleOf "footer" t).map fun f => { l with foot := f }
  | ('v', some t) => (numberOf "starting line number" none t).map fun n => { l with first := n }
  | ('i', some t) => (numberOf "line number increment" none t).map fun n => { l with step := n }
  | ('l', some t) => (numberOf "line number of blank lines" (some 1) t).map fun n =>
    { l with emptyLines := n.toNat }
  | ('w', some t) => (numberOf "line number field width" (some 1) t).map fun n =>
    { l with width := n.toNat }
  | ('n', some t) => (alignmentOf t).map fun a => { l with alignment := a }
  | ('s', some t) => .ok { l with separator := t }
  | ('d', some [c]) => .ok { l with delimiter := [c, ':'] }
  | ('d', some t) => .ok { l with delimiter := t }
  | ('p', _) => .ok { l with keepsCounting := true }
  | _ => .ok l

def Layout.styleIn (l : Layout) : Part → Style
  | .head => l.head
  | .body => l.body
  | .foot => l.foot

def Layout.opens? (l : Layout) (line : Text) : Option Part :=
  let d := l.delimiter
  if d.isEmpty then none
  else if line == d ++ d ++ d then some .head
  else if line == d ++ d then some .body
  else if line == d then some .foot
  else none

structure Place where
  part : Part := .body
  next : Int
  empty : Nat := 0

def Layout.numberText (l : Layout) (n : Int) : Text :=
  let ds := Text.ofNat n.natAbs
  let signed := if n < 0 then '-' :: ds else ds
  match l.alignment with
  | .right => column l.width signed
  | .left => signed ++ List.replicate (l.width - signed.length) ' '
  | .zeros =>
    if n < 0 then '-' :: Format.padded (l.width - 1) ds else Format.padded l.width ds

/-- Whether a line gets a number, and how many empty lines now wait for one. -/
def Layout.numbers (l : Layout) (p : Place) (line : Text) : Bool × Nat :=
  match l.styleIn p.part with
  | .all =>
    if line.isEmpty && 1 < l.emptyLines then
      if p.empty + 1 = l.emptyLines then (true, 0) else (false, p.empty + 1)
    else (true, 0)
  | .full => (!line.isEmpty, 0)
  | .none => (false, 0)
  | .matching r => ((r.search ⟨(Octets.characters line).toArray, false⟩ 0).isSome, 0)

def Layout.show (l : Layout) (p : Place) (line : Text) : Text × Place :=
  match l.opens? line with
  | some part =>
    (['\n'], { p with part, next := if l.keepsCounting then p.next else l.first })
  | none =>
    let (numbered, empty) := l.numbers p line
    if numbered then
      (l.numberText p.next ++ l.separator ++ line ++ ['\n'],
        { p with next := p.next + l.step, empty })
    else
      (List.replicate (l.width + l.separator.length) ' ' ++ line ++ ['\n'], { p with empty })

def layoutOf : List GivenOption → Layout → State → Except State (Layout × Bool × State)
  | [], l, s => .ok (l, true, s)
  | o :: os, l, s =>
    match l.add o with
    | .ok l => layoutOf os l s
    | .error (message, false) => .error (failWith message s)
    | .error (message, true) =>
      (layoutOf os l (complain message s)).map fun (l, _, s) => (l, false, s)

def table : OptionTable where
  letters := "b:d:f:h:i:l:n:ps:v:w:"
  words := [("body-numbering", .value, 'b'), ("section-delimiter", .value, 'd'),
    ("footer-numbering", .value, 'f'), ("header-numbering", .value, 'h'),
    ("line-increment", .value, 'i'), ("join-blank-lines", .value, 'l'),
    ("number-format", .value, 'n'), ("no-renumber", .nothing, 'p'),
    ("number-separator", .value, 's'), ("starting-line-number", .value, 'v'),
    ("number-width", .value, 'w')]

def nl (args : List Text) (s : State) : State :=
  let (os, ending) := table.read args
  match layoutOf os {} s with
  | .error s => s
  | .ok (l, good, s) =>
    match ending with
    | .error e => hint 1 (complain e.message s)
    | .ok names =>
      if !good then hint 1 s
      else
        let step (p : Place) (t : Text) : Text × Place :=
          let (shown, p) := (linesOf t).1.foldl (fun (shown, p) line =>
            let (text, p) := l.show p line
            (text :: shown, p)) (([], p) : List Text × Place)
          (shown.reverse.flatten, p)
        throughEach step (orInput names) { next := l.first } s.succeed

end Manuscript.Shell.Tool.Numbering
