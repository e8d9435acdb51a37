import Manuscript.Proofs.Pattern.Building
import Manuscript.Proofs.Repair.Iteration
import Mathlib.Logic.Relation

/-!
A repair taken apart into small steps.

All that the standard rules do comes about by four steps: a marker gives its
backslash to the letter behind it, two markers become a line break, a marker
goes away before a backslash or an opening brace, and a pair of escaped braces
becomes active. That a rule keeps to them can be computed from the shape of its
pattern and its replacement. Whatever the steps keep, a repair keeps.
-/

namespace Manuscript

namespace Pattern

def isSolid : Pattern → Bool
  | .word w => !w.isEmpty
  | .one _ => true
  | .seq p q => p.isSolid || q.isSolid
  | .alt p q => p.isSolid && q.isSolid
  | .group _ p => p.isSolid
  | _ => false

/-- No text that the pattern reads ends with a backslash. -/
def isTame : Pattern → Bool
  | .empty => true
  | .word w => w.getLast? != some '\\'
  | .one k => !k.has '\\'
  | .seq p q => q.isTame && (p.isTame || q.isSolid)
  | .alt p q => p.isTame && q.isTame
  | .many _ k => !k.has '\\'
  | .star _ p => p.isTame
  | .group _ p => p.isTame
  | .check _ => true

def isTameAt (i : Nat) : Pattern → Bool
  | .seq p q => p.isTameAt i && q.isTameAt i
  | .alt p q => p.isTameAt i && q.isTameAt i
  | .star _ p => p.isTameAt i
  | .group j p => (i != j || p.isTame) && p.isTameAt i
  | _ => true

/-- Every text that the pattern reads begins with a character of the class. -/
def leads (k : CharClass) : Pattern → Bool
  | .word w => w.head?.any k.has
  | .one l => k = l
  | .seq p _ => p.leads k
  | .alt p q => p.leads k && q.leads k
  | .group _ p => p.leads k
  | _ => false

section

variable {p : Pattern} {b : Option Char} {t r : Text} {g : Groups}

theorem Reads.ne_nil (hp : p.isSolid = true) (h : p.Reads b t r g) : t ≠ [] := by
  induction p generalizing b t r g with
  | empty => cases hp
  | word w =>
      obtain ⟨rfl, -⟩ := h
      simpa [isSolid] using hp
  | one k =>
      obtain ⟨⟨c, -, rfl⟩, -⟩ := h
      exact List.cons_ne_nil _ _
  | seq p q ihp ihq =>
      obtain ⟨t, u, g, k, rfl, rfl, hreadp, hreadq⟩ := h
      rcases Bool.or_eq_true_iff.mp hp with hp | hq
      · exact List.append_ne_nil_of_left_ne_nil (ihp hp hreadp) _
      · exact List.append_ne_nil_of_right_ne_nil _ (ihq hq hreadq)
  | alt p q ihp ihq =>
      obtain ⟨hp, hq⟩ := Bool.and_eq_true_iff.mp hp
      rcases h with h | h
      · exact ihp hp h
      · exact ihq hq h
  | many greedy k => cases hp
  | star greedy p => cases hp
  | group i p ih =>
      obtain ⟨k, rfl, h⟩ := h
      exact ih hp h
  | check a => cases hp

theorem getLast?_append_ne {t u : Text} (hu : u.getLast? ≠ some '\\')
    (h : t.getLast? ≠ some '\\' ∨ u ≠ []) : (t ++ u).getLast? ≠ some '\\' := by
  cases hlast : u.getLast? with
  | some c =>
      rw [List.getLast?_append, hlast, Option.some_or]
      rwa [hlast] at hu
  | none =>
      have hnil : u = [] := List.getLast?_eq_none_iff.mp hlast
      rw [hnil, List.append_nil]
      exact h.resolve_right fun hne => hne hnil

theorem getLast?_ne_of_all {k : CharClass} (hk : (!k.has '\\') = true) (h : k.All t) :
    t.getLast? ≠ some '\\' := by
  intro hlast
  have := h '\\' (List.mem_of_getLast? hlast)
  simp [this] at hk

theorem Reads.getLast?_ne (hp : p.isTame = true) (h : p.Reads b t r g) :
    t.getLast? ≠ some '\\' := by
  induction p generalizing b t r g with
  | empty =>
      obtain ⟨rfl, -⟩ := h
      exact nofun
  | word w =>
      obtain ⟨rfl, -⟩ := h
      simpa [isTame] using hp
  | one k =>
      obtain ⟨⟨c, hc, rfl⟩, -⟩ := h
      exact getLast?_ne_of_all hp (by simpa [CharClass.All] using hc)
  | seq p q ihp ihq =>
      obtain ⟨t, u, g, k, rfl, rfl, hreadp, hreadq⟩ := h
      obtain ⟨hq, hp⟩ := Bool.and_eq_true_iff.mp hp
      refine getLast?_append_ne (ihq hq hreadq) ?_
      rcases Bool.or_eq_true_iff.mp hp with hp | hsolid
      · exact .inl (ihp hp hreadp)
      · exact .inr (hreadq.ne_nil hsolid)
  | alt p q ihp ihq =>
      obtain ⟨hp, hq⟩ := Bool.and_eq_true_iff.mp hp
      rcases h with h | h
      · exact ihp hp h
      · exact ihq hq h
  | many greedy k => exact getLast?_ne_of_all hp h.1
  -- what the rounds have read ends as the last of them that read something
  | star greedy p ih =>
      change Rounds p.Reads b t r g at h
      induction h with
      | stop => exact nofun
      | pause => exact nofun
      | round hR _ _ ihR => exact getLast?_append_ne ihR (.inl (ih hp hR))
  | group i p ih =>
      obtain ⟨k, rfl, h⟩ := h
      exact ih hp h
  | check a =>
      obtain ⟨rfl, -, -⟩ := h
      exact nofun

theorem Reads.getLast?_group_ne {i : Nat} {x : Text} (hp : p.isTameAt i = true)
    (h : p.Reads b t r g) (hx : (i, x) ∈ g) : x.getLast? ≠ some '\\' := by
  induction p generalizing b t r g with
  | empty => simp [h.2] at hx
  | word w => simp [h.2] at hx
  | one k => simp [h.2] at hx
  | many greedy k => simp [h.2] at hx
  | check a => simp [h.2.1] at hx
  | seq p q ihp ihq =>
      obtain ⟨t, u, g, k, rfl, rfl, hreadp, hreadq⟩ := h
      obtain ⟨hp, hq⟩ := Bool.and_eq_true_iff.mp hp
      rcases List.mem_append.mp hx with hx | hx
      · exact ihq hq hreadq hx
      · exact ihp hp hreadp hx
  | alt p q ihp ihq =>
      obtain ⟨hp, hq⟩ := Bool.and_eq_true_iff.mp hp
      rcases h with h | h
      · exact ihp hp h hx
      · exact ihq hq h hx
  | star greedy p ih =>
      change Rounds p.Reads b t r g at h
      induction h with
      | stop => cases hx
      | pause hR => exact ih hp hR hx
      | round hR _ _ ihR =>
          rcases List.mem_append.mp hx with hx | hx
          · exact ihR hx
          · exact ih hp hR hx
  | group j p ih =>
      obtain ⟨k, rfl, h⟩ := h
      obtain ⟨hj, hp⟩ := Bool.and_eq_true_iff.mp hp
      rcases List.mem_cons.mp hx with hx | hx
      · obtain ⟨rfl, rfl⟩ := Prod.mk.inj hx
        exact h.getLast?_ne (by simpa using hj)
      · exact ih hp h hx

theorem Reads.exists_cons {k : CharClass} (hp : p.leads k = true) (h : p.Reads b t r g) :
    ∃ c u, k.has c = true ∧ t = c :: u := by
  induction p generalizing b t r g with
  | word w =>
      obtain ⟨rfl, -⟩ := h
      cases t with
      | nil => cases hp
      | cons c u => exact ⟨c, u, hp, rfl⟩
  | one l =>
      obtain ⟨⟨c, hc, rfl⟩, -⟩ := h
      obtain rfl : k = l := by simpa [leads] using hp
      exact ⟨c, [], hc, rfl⟩
  | seq p q ihp _ =>
      obtain ⟨t, u, g, k, rfl, rfl, hread, -⟩ := h
      obtain ⟨c, v, hc, rfl⟩ := ihp hp hread
      exact ⟨c, v ++ u, hc, rfl⟩
  | alt p q ihp ihq =>
      obtain ⟨hp, hq⟩ := Bool.and_eq_true_iff.mp hp
      rcases h with h | h
      · exact ihp hp h
      · exact ihq hq h
  | group i p ih =>
      obtain ⟨k, rfl, h⟩ := h
      exact ih hp h
  | empty => cases hp
  | many greedy k => cases hp
  | star greedy p => cases hp
  | check a => cases hp

end

end Pattern

namespace Repair

open Standard (marker escapedOpen escapedClose)

theorem ne_backslash_of_letter {c : Char} (hc : CharClass.letter.has c = true) : c ≠ '\\' := by
  rintro rfl
  cases hc

/-! ### Steps -/

/-- One step of making markup active, somewhere in a text. -/
inductive Unescapes : Text → Text → Prop
  | command (before : Text) {c : Char} (after : Text) : CharClass.letter.has c = true →
      Unescapes (before ++ (marker ++ c :: after)) (before ++ '\\' :: c :: after)
  | lineBreak (before after : Text) :
      Unescapes (before ++ (marker ++ (marker ++ after))) (before ++ '\\' :: '\\' :: after)
  | stray (before : Text) {c : Char} (after : Text) : c = '\\' ∨ c = '\x7b' →
      Unescapes (before ++ (marker ++ c :: after)) (before ++ c :: after)
  /-- The braces may not be active already, which a backslash before them would make them. -/
  | braces (before : Text) {c : Char} (inner after : Text) : c ≠ '\\' →
      inner.getLast? ≠ some '\\' →
      Unescapes (before ++ c :: (escapedOpen ++ (inner ++ (escapedClose ++ after))))
        (before ++ c :: '\x7b' :: (inner ++ '\x7d' :: after))

abbrev UnescapesTo : Text → Text → Prop :=
  Relation.ReflTransGen Unescapes

theorem Unescapes.within {t u : Text} (h : Unescapes t u) (before after : Text) :
    Unescapes (before ++ (t ++ after)) (before ++ (u ++ after)) := by
  cases h with
  | command left right hc =>
      simpa using Unescapes.command (before ++ left) (right ++ after) hc
  | lineBreak left right =>
      simpa using Unescapes.lineBreak (before ++ left) (right ++ after)
  | stray left right hc =>
      simpa using Unescapes.stray (before ++ left) (right ++ after) hc
  | braces left inner right hc hinner =>
      simpa using Unescapes.braces (before ++ left) inner (right ++ after) hc hinner

namespace UnescapesTo

variable {t u v w : Text}

theorem within (h : UnescapesTo t u) (before after : Text) :
    UnescapesTo (before ++ (t ++ after)) (before ++ (u ++ after)) :=
  h.lift (fun x => before ++ (x ++ after)) fun _ _ hstep => hstep.within before after

theorem append (h : UnescapesTo t u) (k : UnescapesTo v w) : UnescapesTo (t ++ v) (u ++ w) := by
  have hleft := h.within [] v
  have hright := k.within u []
  rw [List.append_nil, List.append_nil] at hright
  exact hleft.trans hright

/-- What every step keeps is kept. -/
theorem keeps {motive : Text → Prop} (hstep : ∀ {x y}, Unescapes x y → motive x → motive y)
    (h : UnescapesTo t u) (ht : motive t) : motive u := by
  induction h with
  | refl => exact ht
  | tail _ hlast ih => exact hstep hlast ih

end UnescapesTo

/-! ### Rules judged by their shape -/

def escapedArgument (i : Nat) : Template :=
  spelled escapedOpen ++ .group i :: spelled escapedClose

def activeArgument (i : Nat) : Template :=
  [.fixed ['\x7b'], .group i, .fixed ['\x7d']]

/-- Whether no backslash stands right behind a part, if none does before it. -/
def staysFree (tame : Nat → Bool) (free : Bool) : Template.Part → Bool
  | .fixed t => t.getLast? != some '\\' && (free || !t.isEmpty)
  | .group i => free && tame i

/-- The second template is the first one with arguments in active braces and without markers
before braces. Both are spelled out; `tame` tells the groups that end in no backslash, and the
truth value whether none stands right before the templates. -/
inductive Activates (tame : Nat → Bool) : Bool → Template → Template → Prop
  | done {free : Bool} : Activates tame free [] []
  | same {free : Bool} (x : Template.Part) {xs ys : Template} :
      Activates tame (staysFree tame free x) xs ys → Activates tame free (x :: xs) (x :: ys)
  | marked {free : Bool} {xs ys : Template} : Activates tame true xs ys →
      Activates tame free (spelled (marker ++ ['\x7b']) ++ xs) (.fixed ['\x7b'] :: ys)
  | argument {i : Nat} {xs ys : Template} : tame i = true → Activates tame true xs ys →
      Activates tame true (escapedArgument i ++ xs) (activeArgument i ++ ys)

/-- Whether the second template comes about from the first one; the fuel is the length of the
first. -/
def activates? (tame : Nat → Bool) : Nat → Bool → Template → Template → Bool
  | _, _, [], [] => true
  | 0, _, _, _ => false
  | _ + 1, _, [], _ :: _ => false
  | fuel + 1, free, x :: xs, ys =>
    if ys.head? = some x then activates? tame fuel (staysFree tame free x) xs ys.tail
    else if (spelled (marker ++ ['\x7b'])).isPrefixOf (x :: xs) ∧
        ys.head? = some (.fixed ['\x7b']) then
      activates? tame fuel true ((x :: xs).drop (marker.length + 1)) ys.tail
    else match ys.tail.head? with
      | some (.group i) =>
        free && tame i && (escapedArgument i).isPrefixOf (x :: xs) &&
          (activeArgument i).isPrefixOf ys &&
          activates? tame fuel true ((x :: xs).drop 5) (ys.drop 3)
      | _ => false

theorem activates_of_activates? {tame : Nat → Bool} {fuel : Nat} {free : Bool} {xs ys : Template}
    (h : activates? tame fuel free xs ys = true) : Activates tame free xs ys := by
  induction fuel generalizing free xs ys with
  | zero =>
      match xs, ys with
      | [], [] => exact .done
      | [], y :: ys => simp [activates?] at h
      | x :: xs, ys => simp [activates?] at h
  | succ fuel ih =>
      match xs, ys with
      | [], [] => exact .done
      | [], y :: ys => simp [activates?] at h
      | x :: xs, ys =>
          rw [activates?] at h
          split at h
          next hhead =>
            obtain ⟨ys, rfl⟩ := List.head?_eq_some_iff.mp hhead
            exact .same x (ih h)
          next =>
            split at h
            next hmarked =>
              obtain ⟨hpre, hhead⟩ := hmarked
              obtain ⟨rest, hrest⟩ := List.isPrefixOf_iff_prefix.mp hpre
              obtain ⟨ys, rfl⟩ := List.head?_eq_some_iff.mp hhead
              have hdrop : (x :: xs).drop (marker.length + 1) = rest := by
                rw [← hrest]
                exact List.drop_left' (by simp)
              rw [hdrop] at h
              rw [← hrest]
              exact .marked (ih h)
            next =>
              split at h
              next i _ =>
                simp only [Bool.and_eq_true] at h
                obtain ⟨⟨⟨⟨rfl, hi⟩, hpre⟩, hform⟩, h⟩ := h
                obtain ⟨rest, hrest⟩ := List.isPrefixOf_iff_prefix.mp hpre
                obtain ⟨ys, rfl⟩ := List.isPrefixOf_iff_prefix.mp hform
                rw [← hrest] at h ⊢
                exact .argument hi (ih h)
              next => cases h

/-- The text ends, and not with a backslash. -/
def EndsFree (t : Text) : Prop :=
  ∃ before c, t = before ++ [c] ∧ c ≠ '\\'

theorem EndsFree.append {t u : Text} (h : EndsFree t) (hu : u.getLast? ≠ some '\\') :
    EndsFree (t ++ u) := by
  cases hlast : u.getLast? with
  | none =>
      rw [List.getLast?_eq_none_iff.mp hlast, List.append_nil]
      exact h
  | some c =>
      obtain ⟨v, rfl⟩ := List.getLast?_eq_some_iff.mp hlast
      refine ⟨t ++ v, c, (List.append_assoc _ _ _).symm, ?_⟩
      rintro rfl
      exact hu hlast

theorem endsFree_of_getLast? {t u : Text} (hu : u ≠ []) (hlast : u.getLast? ≠ some '\\') :
    EndsFree (t ++ u) := by
  obtain ⟨v, c, rfl⟩ := List.eq_nil_or_concat u |>.resolve_left hu
  refine ⟨t ++ v, c, by simp, ?_⟩
  rintro rfl
  simp at hlast

theorem endsFree_staysFree {tame : Nat → Bool} {m : Pattern.Found}
    (hm : ∀ i, tame i = true → (m.group i).getLast? ≠ some '\\') {free : Bool} {w : Text}
    (hw : free = true → EndsFree w) {x : Template.Part} (h : staysFree tame free x = true) :
    EndsFree (w ++ Template.fill [x] m) := by
  cases x with
  | fixed t =>
      obtain ⟨hlast, hne⟩ := Bool.and_eq_true_iff.mp h
      have hlast : t.getLast? ≠ some '\\' := by simpa using hlast
      rw [Template.fill_fixed, Template.fill_nil, List.append_nil]
      rcases Bool.or_eq_true_iff.mp hne with hfree | hne
      · exact (hw hfree).append hlast
      · exact endsFree_of_getLast? (by simpa using hne) hlast
  | group i =>
      obtain ⟨hfree, hi⟩ := Bool.and_eq_true_iff.mp h
      rw [Template.fill_group, Template.fill_nil, List.append_nil]
      exact (hw hfree).append (hm i hi)

@[simp] theorem fill_escapedArgument (i : Nat) (m : Pattern.Found) :
    (escapedArgument i).fill m = escapedOpen ++ (m.group i ++ escapedClose) := by
  rw [escapedArgument, Template.fill_append, Template.fill_group, fill_spelled, fill_spelled]

@[simp] theorem fill_activeArgument (i : Nat) (m : Pattern.Found) :
    (activeArgument i).fill m = '\x7b' :: (m.group i ++ ['\x7d']) := rfl

/-- Behind text that ends in no backslash, the first template becomes the second one. -/
theorem Activates.unescapesTo {tame : Nat → Bool} {m : Pattern.Found} {free : Bool}
    {xs ys : Template} (h : Activates tame free xs ys)
    (hm : ∀ i, tame i = true → (m.group i).getLast? ≠ some '\\') {w : Text}
    (hw : free = true → EndsFree w) : UnescapesTo (w ++ xs.fill m) (w ++ ys.fill m) := by
  induction h generalizing w with
  | done => exact .refl
  | @same free x xs ys _ ih =>
      have hrest := ih (w := w ++ Template.fill [x] m) fun hfree => endsFree_staysFree hm hw hfree
      rwa [List.append_assoc, List.append_assoc, ← Template.fill_append,
        ← Template.fill_append] at hrest
  | @marked free xs ys _ ih =>
      have hrest := ih (w := w ++ ['\x7b']) fun _ => ⟨w, '\x7b', rfl, by decide⟩
      have hfill : Template.fill (spelled (marker ++ ['\x7b']) ++ xs) m =
          marker ++ '\x7b' :: xs.fill m := by
        rw [Template.fill_append, fill_spelled, List.append_assoc]
        rfl
      rw [List.append_assoc, List.append_assoc] at hrest
      rw [hfill]
      exact .head (.stray w _ (.inr rfl)) hrest
  | @argument i xs ys hi _ ih =>
      -- the character before the argument is what keeps its braces from being active already
      obtain ⟨before, c, rfl, hc⟩ := hw rfl
      have hstep := Unescapes.braces before (m.group i) (Template.fill xs m) hc (hm i hi)
      have hrest := ih (w := before ++ c :: '\x7b' :: (m.group i ++ ['\x7d']))
        fun _ => ⟨before ++ c :: '\x7b' :: m.group i, '\x7d', by simp, by decide⟩
      simp only [List.append_assoc, List.cons_append, List.nil_append] at hrest
      simp only [Template.fill_append, fill_escapedArgument, fill_activeArgument,
        List.append_assoc, List.cons_append, List.nil_append]
      exact .head hstep hrest

/-- Only markers and escaped arguments are taken away, so another character that comes first
stays there. -/
theorem Activates.exists_cons {tame : Nat → Bool} {m : Pattern.Found} {free : Bool}
    {xs ys : Template} (h : Activates tame free xs ys) {c : Char} {t : Text} (hc : c ≠ '\\')
    (hfill : xs.fill m = c :: t) : ∃ u, ys.fill m = c :: u := by
  induction h generalizing t with
  | done => cases hfill
  | @same free x xs ys _ ih =>
      have happend : ∀ zs : Template, Template.fill (x :: zs) m =
          Template.fill [x] m ++ zs.fill m := fun zs => Template.fill_append [x] zs m
      rw [happend] at hfill ⊢
      cases hx : Template.fill [x] m with
      | nil =>
          rw [hx, List.nil_append] at hfill
          exact ih hfill
      | cons d v =>
          rw [hx, List.cons_append] at hfill
          obtain rfl : d = c := (List.cons.inj hfill).1
          exact ⟨_, rfl⟩
  | marked =>
      rw [Template.fill_append, fill_spelled] at hfill
      exact absurd (List.cons.inj hfill).1.symm hc
  | argument =>
      rw [Template.fill_append, fill_escapedArgument] at hfill
      exact absurd (List.cons.inj hfill).1.symm hc

/-- Every match of the rule is replaced by steps. -/
def Rule.Unescapes (rule : Rule) : Prop :=
  ∃ p, rule.finder = .pattern p ∧ p.ReadsSome ∧ ∀ b t r g, p.Reads b t r g →
    UnescapesTo t (rule.replacement.fill ⟨t, g⟩)

def Rule.unescapes? (rule : Rule) : Bool :=
  match rule.finder with
  | .pattern (.seq (.word w) p) =>
    decide (w = marker) &&
      match p.shape? with
      | none => false
      | some shape =>
        decide (p.indices.Nodup ∧ 0 ∉ p.indices) &&
          (spellOut shape == spelled marker && spellOut rule.replacement == spelled ['\\', '\\'] ||
            p.leads (.oneOf ['\\']) && spellOut shape == spellOut rule.replacement ||
            p.leads .letter && (spellOut rule.replacement).head? == some (.fixed ['\\']) &&
              activates? (fun i => decide (i ∈ p.indices) && p.isTameAt i) (spellOut shape).length
                true (spellOut shape) (spellOut rule.replacement).tail)
  | _ => false

/-- A group that is tame in the pattern is so in what the pattern has read. -/
theorem group_getLast?_ne {p : Pattern} {b : Option Char} {t r : Text} {g : Pattern.Groups}
    (hreads : p.Reads b t r g) (hzero : 0 ∉ p.indices) {i : Nat}
    (hi : (decide (i ∈ p.indices) && p.isTameAt i) = true) (text : Text) :
    (Pattern.Found.group ⟨text, g⟩ i).getLast? ≠ some '\\' := by
  obtain ⟨hmem, htame⟩ := Bool.and_eq_true_iff.mp hi
  have hne : i ≠ 0 := fun h => hzero (h ▸ of_decide_eq_true hmem)
  rw [Pattern.Found.group_of_ne_zero _ hne]
  cases hlookup : g.lookup i with
  | none => exact nofun
  | some x =>
      obtain ⟨before, after, hg, -⟩ := List.lookup_eq_some_iff.mp hlookup
      exact hreads.getLast?_group_ne htame (by simp [hg])

theorem Rule.unescapes_of_unescapes? {rule : Rule} (h : rule.unescapes?) : rule.Unescapes := by
  rw [unescapes?] at h
  split at h
  next w p hp =>
    obtain ⟨hw, hform⟩ := Bool.and_eq_true_iff.mp h
    obtain rfl := of_decide_eq_true hw
    split at hform
    next => exact absurd hform Bool.false_ne_true
    next shape hshape =>
      obtain ⟨hindices, hcases⟩ := Bool.and_eq_true_iff.mp hform
      obtain ⟨hnodup, hzero⟩ := of_decide_eq_true hindices
      refine ⟨_, hp, ?_, ?_⟩
      · rintro b t r g ⟨t, u, g, k, rfl, rfl, ⟨rfl, rfl⟩, hreads⟩ hnil
        cases hnil
      rintro b t r g ⟨t, u, g, k, rfl, rfl, ⟨rfl, rfl⟩, hreads⟩
      rw [List.append_nil]
      have hfill := hreads.fill_shape hshape hnodup hzero ⟨marker ++ u, k⟩ fun _ _ => rfl
      rw [← fill_spellOut] at hfill
      rw [← fill_spellOut]
      simp only [Bool.or_eq_true, Bool.and_eq_true, beq_iff_eq] at hcases
      obtain (⟨hold, hnew⟩ | ⟨hlead, hsame⟩) | ⟨⟨hlead, hhead⟩, hsteps⟩ := hcases
      · rw [hold, fill_spelled] at hfill
        rw [hnew, fill_spelled, ← hfill]
        exact .single (Unescapes.lineBreak [] [])
      · rw [← hsame, hfill]
        obtain ⟨c, v, hc, rfl⟩ := hreads.exists_cons hlead
        have hc : '\\' ≤ c ∧ c ≤ '\\' := by simpa [CharClass.has, CharClass.oneOf] using hc
        exact .single (Unescapes.stray [] v (.inl (Char.le_antisymm hc.2 hc.1)))
      · obtain ⟨new, hnew⟩ := List.head?_eq_some_iff.mp hhead
        rw [hnew, List.tail_cons] at hsteps
        obtain ⟨c, v, hc, rfl⟩ := hreads.exists_cons hlead
        -- the arguments first, while the marker stands before them, and the command at last
        have hactivates := activates_of_activates? hsteps
        have hargs := hactivates.unescapesTo
          (fun i hi => group_getLast?_ne hreads hzero hi (marker ++ c :: v)) (w := marker)
          fun _ => ⟨marker.dropLast, '\x7d', rfl, by decide⟩
        obtain ⟨x, hx⟩ := hactivates.exists_cons (ne_backslash_of_letter hc) hfill
        rw [hfill, hx] at hargs
        rw [hnew, Template.fill_fixed, hx]
        exact hargs.tail (Unescapes.command [] x hc)
  next => exact absurd h Bool.false_ne_true

/-- What is checked of the rules of the table in three parts holds of all of them. The kernel can
forget what one part took before it goes on to the next. -/
theorem Standard.forall_mem_table {p : Rule → Bool} (hfirst : (table.take 9).all p = true)
    (hnext : ((table.drop 9).take 9).all p = true)
    (hlast : ((table.drop 9).drop 9).all p = true) : ∀ rule ∈ table, p rule = true := by
  have h : table.all p = true := by
    rw [← List.take_append_drop 9 table, List.all_append, hfirst, Bool.true_and,
      ← List.take_append_drop 9 (table.drop 9), List.all_append, hnext, hlast, Bool.true_and]
  exact List.all_eq_true.mp h

theorem Standard.unescapes : ∀ rule ∈ Standard.table, rule.Unescapes := by
  have h : ∀ rule ∈ table, rule.unescapes? = true :=
    forall_mem_table (by decide +kernel) (by decide +kernel) (by decide +kernel)
  exact fun rule hrule => Rule.unescapes_of_unescapes? (h rule hrule)

/-! ### From a match to a repair -/

theorem Rule.Unescapes.rewrite {rule : Rule} (h : rule.Unescapes) (t : Text) :
    UnescapesTo t (rule.rewrite t).1 := by
  obtain ⟨p, hp, hsome, hmatch⟩ := h
  suffices H : ∀ s : Pattern.Place, s.groups = [] →
      UnescapesTo s.rest (rule.replacement.replaceIn (p.cut s)).1 by
    rw [Rule.rewrite, hp]
    exact H (.ofText t) rfl
  intro s hs
  induction s using Pattern.cut_induction hsome with
  | stop s hrest =>
      rw [Pattern.cut_stop hsome hrest, hrest]
      exact .refl
  | kept s c rest hrest hnone ih =>
      rw [Pattern.cut_kept hsome hrest hnone, hrest, replaceIn_kept]
      exact UnescapesTo.append (t := [c]) .refl (ih hs)
  | found s e he ih =>
      obtain ⟨u, g, hreach, hreads, hfound⟩ := Pattern.foundBetween_eq hs he
      rw [Pattern.cut_found hsome he, hfound, replaceIn_found, hreach.rest]
      exact (hmatch _ _ _ _ hreads).append (ih rfl)

section

variable {table : Table} (htable : ∀ rule ∈ table, rule.Unescapes)
include htable

theorem foldl_unescapes (state : Text × Tally) :
    UnescapesTo state.1 (table.foldl applyRule state).1 := by
  induction table generalizing state with
  | nil => exact .refl
  | cons rule table ih =>
      have hfirst := (htable rule List.mem_cons_self).rewrite state.1
      have hrest := ih (fun r hr => htable r (List.mem_cons_of_mem _ hr)) (applyRule state rule)
      exact hfirst.trans hrest

theorem afterPasses_unescapes (k : Nat) (t : Text) : UnescapesTo t (afterPasses table k t) := by
  induction k with
  | zero => exact .refl
  | succ k ih =>
      rw [afterPasses_add, afterPasses_one, pass_eq]
      exact ih.trans (foldl_unescapes htable (afterPasses table k t, .zero))

end

/-- A repair by rules that go by steps goes by steps. -/
theorem Engine.repair_unescapes (e : Engine) (htable : ∀ rule ∈ e.table, rule.Unescapes)
    (t : Text) : UnescapesTo t (e.repair t).text := by
  obtain ⟨k, -, hafter⟩ := repair_keeps e t
  rw [hafter.text]
  exact afterPasses_unescapes htable k t

end Repair

end Manuscript
