import Manuscript.Proofs.Pattern.Shape
import Manuscript.Repair.Standard
import Mathlib.Algebra.BigOperators.Group.Multiset.Basic
import Mathlib.Algebra.Order.Group.Multiset
import Mathlib.Tactic.Abel

/-!
What a rule takes away from a text.

A standard rule writes what it has matched again and leaves out two things:
the name of a marker, which is all of it but the backslash, and backslashes.
`Strips a b t u` states this for texts. Whether a rule keeps to it can be
computed from the shape of its pattern and its replacement, and the standard
rules do.
-/

namespace Manuscript

theorem Text.byteSize_eq_sum (t : Text) : t.byteSize = (t.map Char.utf8Size).sum := by
  induction t with
  | nil => rfl
  | cons c t ih => simp [byteSize, ih]

namespace Repair

/-- A marker without its backslash. -/
def markerName : Text :=
  "textbackslash\x7b\x7d".toList

/-- `u` is `t` without `a` times the characters of a marker name, and without `b` backslashes. -/
structure Strips (a b : Nat) (t u : Text) : Prop where
  sublist : u.Sublist t
  deleted : (t : Multiset Char) = u + (a • (markerName : Multiset Char) + .replicate b '\\')

namespace Strips

theorem refl (t : Text) : Strips 0 0 t t :=
  ⟨.refl t, by simp⟩

theorem trans {a b c d : Nat} {t u v : Text} (h : Strips a b t u) (k : Strips c d u v) :
    Strips (a + c) (b + d) t v where
  sublist := k.sublist.trans h.sublist
  deleted := by
    rw [h.deleted, k.deleted, add_nsmul, Multiset.replicate_add]
    abel

theorem append {a b c d : Nat} {t u v w : Text} (h : Strips a b t u) (k : Strips c d v w) :
    Strips (a + c) (b + d) (t ++ v) (u ++ w) where
  sublist := h.sublist.append k.sublist
  deleted := by
    rw [← Multiset.coe_add, ← Multiset.coe_add, h.deleted, k.deleted, add_nsmul,
      Multiset.replicate_add]
    abel

theorem name : Strips 1 0 markerName [] :=
  ⟨List.nil_sublist _, by
    rw [one_nsmul, Multiset.replicate_zero, add_zero, Multiset.coe_nil, zero_add]⟩

theorem backslash : Strips 0 1 ['\\'] [] :=
  ⟨List.nil_sublist _, by simp⟩

/-- What a measure of characters loses. -/
theorem sum_map {a b : Nat} {t u : Text} (h : Strips a b t u) (f : Char → Nat) :
    (t.map f).sum = (u.map f).sum + (a * (markerName.map f).sum + b * f '\\') := by
  have := congrArg (fun m => (Multiset.map f m).sum) h.deleted
  simpa [Multiset.map_add, Multiset.map_nsmul, Multiset.sum_nsmul] using this

/-- The characters outside markers survive in their order. -/
theorem filter_eq {a b : Nat} {t u : Text} (h : Strips a b t u) {keep : Char → Bool}
    (hname : ∀ c ∈ markerName, keep c = false) (hback : keep '\\' = false) :
    u.filter keep = t.filter keep := by
  refine (h.sublist.filter keep).eq_of_length ?_
  have hcount := congrArg (Multiset.countP fun c => keep c) h.deleted
  have hzero : Multiset.countP (fun c => keep c) (markerName : Multiset Char) = 0 := by
    simpa [Multiset.countP_eq_zero] using hname
  have hrep : Multiset.countP (fun c => keep c) (.replicate b '\\') = 0 := by
    rw [Multiset.countP_eq_zero]
    intro c hc
    rw [Multiset.eq_of_mem_replicate hc, hback]
    exact Bool.false_ne_true
  rw [Multiset.countP_add, Multiset.countP_add, Multiset.countP_nsmul, hzero, hrep] at hcount
  simpa [← List.countP_eq_length_filter] using hcount.symm

theorem count_eq {a b : Nat} {t u : Text} (h : Strips a b t u) (c : Char) :
    t.count c = u.count c + (a * markerName.count c + if c = '\\' then b else 0) := by
  have := congrArg (Multiset.count c) h.deleted
  simpa [Multiset.count_nsmul, Multiset.count_replicate, eq_comm] using this

theorem byteSize_eq {a b : Nat} {t u : Text} (h : Strips a b t u) :
    t.byteSize = u.byteSize + (15 * a + b) := by
  have hsum := h.sum_map Char.utf8Size
  have hname : (markerName.map Char.utf8Size).sum = 15 := by decide
  have hback : '\\'.utf8Size = 1 := by decide
  rw [hname, hback] at hsum
  rw [Text.byteSize_eq_sum, Text.byteSize_eq_sum, hsum]
  omega

/-- A text that loses a marker name is another text. -/
theorem ne {a b : Nat} {t u : Text} (h : Strips a b t u) (ha : 1 ≤ a) : u ≠ t := by
  rintro rfl
  have := h.byteSize_eq
  omega

end Strips

/-! ### Rules judged by their shape -/

/-- A text as a template of single characters. -/
def spelled (t : Text) : Template :=
  t.map fun c => .fixed [c]

def spellOut (t : Template) : Template :=
  t.flatMap fun
    | .fixed u => spelled u
    | .group i => [.group i]

@[simp] theorem length_spelled (t : Text) : (spelled t).length = t.length := by
  simp [spelled]

@[simp] theorem fill_spelled (t : Text) (m : Pattern.Found) : (spelled t).fill m = t := by
  induction t with
  | nil => rfl
  | cons c t ih =>
      rw [spelled, List.map_cons, Template.fill_fixed]
      exact congrArg (c :: ·) ih

@[simp] theorem fill_spellOut (t : Template) (m : Pattern.Found) :
    (spellOut t).fill m = t.fill m := by
  induction t with
  | nil => rfl
  | cons part t ih =>
      rw [spellOut, List.flatMap_cons, Template.fill_append]
      cases part with
      | fixed u => rw [fill_spelled, Template.fill_fixed, ← ih, spellOut]
      | group i => rw [Template.fill_group, Template.fill_group, ← ih, spellOut,
          Template.fill_nil, List.append_nil]

/-- How many marker names and backslashes the second template leaves out of the first, if it
leaves out nothing else. Both are spelled out, and the fuel is the length of the first. -/
def omissions? : Nat → Template → Template → Option (Nat × Nat)
  | _, [], [] => some (0, 0)
  | 0, _, _ => none
  | _ + 1, [], _ :: _ => none
  | fuel + 1, x :: xs, ys =>
    if ys.head? = some x then omissions? fuel xs ys.tail
    else if (spelled markerName).isPrefixOf (x :: xs) then
      (omissions? fuel ((x :: xs).drop markerName.length) ys).map fun n => (n.1 + 1, n.2)
    else if x = .fixed ['\\'] then (omissions? fuel xs ys).map fun n => (n.1, n.2 + 1)
    else none

theorem strips_of_omissions? {fuel a b : Nat} {xs ys : Template}
    (h : omissions? fuel xs ys = some (a, b)) (m : Pattern.Found) :
    Strips a b (xs.fill m) (ys.fill m) := by
  induction fuel generalizing xs ys a b with
  | zero =>
      match xs, ys with
      | [], [] =>
          obtain ⟨rfl, rfl⟩ : 0 = a ∧ 0 = b := by simpa [omissions?] using h
          exact .refl _
      | [], y :: ys => simp [omissions?] at h
      | x :: xs, ys => simp [omissions?] at h
  | succ fuel ih =>
      match xs, ys with
      | [], [] =>
          obtain ⟨rfl, rfl⟩ : 0 = a ∧ 0 = b := by simpa [omissions?] using h
          exact .refl _
      | [], y :: ys => simp [omissions?] at h
      | x :: xs, ys =>
          rw [omissions?] at h
          split at h
          next hhead =>
            obtain ⟨ys, rfl⟩ := List.head?_eq_some_iff.mp hhead
            have := (Strips.refl (Template.fill [x] m)).append (ih h)
            rwa [Nat.zero_add, Nat.zero_add, ← Template.fill_append, ← Template.fill_append] at this
          next =>
            split at h
            next hpre =>
              obtain ⟨rest, hrest⟩ := List.isPrefixOf_iff_prefix.mp hpre
              obtain ⟨⟨c, d⟩, hcd, hab⟩ := Option.map_eq_some_iff.mp h
              obtain ⟨rfl, rfl⟩ : c + 1 = a ∧ d = b := by simpa using hab
              rw [← hrest] at hcd ⊢
              rw [List.drop_left' (length_spelled _)] at hcd
              have := Strips.name.append (ih hcd)
              rw [Nat.add_comm, Nat.zero_add] at this
              simpa using this
            next =>
              split at h
              next hx =>
                obtain ⟨⟨c, d⟩, hcd, hab⟩ := Option.map_eq_some_iff.mp h
                obtain ⟨rfl, rfl⟩ : c = a ∧ d + 1 = b := by simpa using hab
                have := Strips.backslash.append (ih hcd)
                rw [Nat.zero_add, Nat.add_comm] at this
                simpa [hx] using this
              next => simp at h

/-- Every match of the rule loses the name of a marker, and at most backslashes besides. -/
def Rule.Strips (rule : Rule) : Prop :=
  ∃ p, rule.finder = .pattern p ∧ ∀ b t r g, p.Reads b t r g →
    ∃ a c, 1 ≤ a ∧ Repair.Strips a c t (rule.replacement.fill ⟨t, g⟩)

def Rule.strips? (rule : Rule) : Bool :=
  match rule.finder with
  | .automaton _ => false
  | .pattern p =>
    match p.shape? with
    | none => false
    | some shape =>
      decide (p.indices.Nodup ∧ 0 ∉ p.indices) &&
        match omissions? (spellOut shape).length (spellOut shape) (spellOut rule.replacement) with
        | none => false
        | some (a, _) => decide (1 ≤ a)

theorem Rule.strips_of_strips? {rule : Rule} (h : rule.strips?) : rule.Strips := by
  rw [strips?] at h
  split at h
  next => exact absurd h Bool.false_ne_true
  next p hp =>
    split at h
    next => exact absurd h Bool.false_ne_true
    next shape hshape =>
      obtain ⟨hindices, h⟩ := Bool.and_eq_true_iff.mp h
      obtain ⟨hnodup, hzero⟩ := of_decide_eq_true hindices
      split at h
      next => exact absurd h Bool.false_ne_true
      next a c hac =>
        refine ⟨p, hp, fun b t r g hreads => ⟨a, c, of_decide_eq_true h, ?_⟩⟩
        have := strips_of_omissions? hac ⟨t, g⟩
        rwa [fill_spellOut, fill_spellOut,
          hreads.fill_shape hshape hnodup hzero ⟨t, g⟩ fun _ _ => rfl] at this

theorem Standard.strips : ∀ rule ∈ Standard.table, rule.Strips := by
  have h : Standard.table.all Rule.strips? = true := by decide +kernel
  exact fun rule hrule => Rule.strips_of_strips? (List.all_eq_true.mp h rule hrule)

end Repair

end Manuscript
