import Manuscript.Proofs.Pattern.Reading

/-!
Classes of characters, where a run of them ends, and what the built patterns
read.
-/

namespace Manuscript

namespace CharClass

theorem has_noneOf {cs : List Char} {c : Char} :
    (noneOf cs).has c = true ↔ c ∉ cs := by
  simp only [has, noneOf, List.any_map, bne_iff_ne, ne_eq, Bool.not_eq_true, List.any_eq_false,
    Function.comp_apply, Bool.and_eq_true, decide_eq_true_eq, not_and]
  constructor
  · exact fun h hc => h c hc (Char.le_refl c) (Char.le_refl c)
  · intro h d hd hdc hcd
    exact h (Char.le_antisymm hcd hdc ▸ hd)

theorem isWord_of_letter {c : Char} (h : letter.has c = true) : Text.isWord c = true := by
  have h : 'a' ≤ c ∧ c ≤ 'z' ∨ 'A' ≤ c ∧ c ≤ 'Z' := by simpa [has, letter] using h
  have halpha : c.isAlpha = true := by
    rcases h with ⟨ha, hz⟩ | hupper
    · have hlower : c.isLower = true :=
        Bool.and_eq_true_iff.mpr ⟨decide_eq_true ha, decide_eq_true hz⟩
      exact Bool.or_eq_true_iff.mpr (.inr hlower)
    · exact Bool.or_eq_true_iff.mpr (.inl (decide_eq_true hupper))
  have halphanum : c.isAlphanum = true := Bool.or_eq_true_iff.mpr (.inl halpha)
  rw [Text.isWord, halphanum, Bool.true_or, Bool.true_or]

def All (k : CharClass) (t : Text) : Prop :=
  ∀ c ∈ t, k.has c = true

instance (k : CharClass) (t : Text) : Decidable (k.All t) :=
  decidable_of_iff (t.all k.has) List.all_eq_true

@[simp] theorem all_nil (k : CharClass) : k.All [] :=
  List.forall_mem_nil _

@[simp] theorem all_cons {k : CharClass} {c : Char} {t : Text} :
    k.All (c :: t) ↔ k.has c = true ∧ k.All t :=
  List.forall_mem_cons

@[simp] theorem all_append {k : CharClass} {t u : Text} :
    k.All (t ++ u) ↔ k.All t ∧ k.All u :=
  List.forall_mem_append

def Stops (k : CharClass) (t : Text) : Prop :=
  ∀ c ∈ t.head?, k.has c = false

theorem stops_cons {k : CharClass} {c : Char} (h : k.has c = false) (t : Text) :
    k.Stops (c :: t) := by
  rintro _ ⟨⟩
  exact h

/-- Two ways to cut a text behind a run of characters of a class are one. -/
theorem run_unique {k : CharClass} {u v r s : Text} (hu : k.All u) (hv : k.All v)
    (hr : k.Stops r) (hs : k.Stops s) (h : u ++ r = v ++ s) : u = v ∧ r = s := by
  induction u generalizing v with
  | nil =>
      cases v with
      | nil => exact ⟨rfl, h⟩
      | cons d v =>
          obtain rfl : r = d :: (v ++ s) := h
          have := hr d rfl
          simp [hv d List.mem_cons_self] at this
  | cons c u ih =>
      cases v with
      | nil =>
          obtain rfl : c :: (u ++ r) = s := h
          have := hs c rfl
          simp [hu c List.mem_cons_self] at this
      | cons d v =>
          obtain ⟨rfl, hrest⟩ := List.cons.inj h
          obtain ⟨rfl, rfl⟩ := ih (all_cons.mp hu).2 (all_cons.mp hv).2 hrest
          exact ⟨rfl, rfl⟩

end CharClass

namespace Pattern

section

variable {b : Option Char} {t r : Text} {g : Groups}

theorem reads_word {w : Text} : (word w).Reads b t r g ↔ t = w ∧ g = [] := Iff.rfl

theorem reads_one {k : CharClass} :
    (one k).Reads b t r g ↔ (∃ c, k.has c ∧ t = [c]) ∧ g = [] := Iff.rfl

theorem reads_seq {p q : Pattern} : (seq p q).Reads b t r g ↔
    ∃ t₁ t₂ g₁ g₂, t = t₁ ++ t₂ ∧ g = g₂ ++ g₁ ∧ p.Reads b t₁ (t₂ ++ r) g₁ ∧
      q.Reads (behind b t₁) t₂ r g₂ := Iff.rfl

theorem reads_group {i : Nat} {p : Pattern} :
    (group i p).Reads b t r g ↔ ∃ h, g = (i, t) :: h ∧ p.Reads b t r h := Iff.rfl

theorem reads_check {a : Assertion} : (check a).Reads b t r g ↔
    t = [] ∧ g = [] ∧ (Place.mk 0 b r []).holds a := Iff.rfl

theorem reads_maybe {p : Pattern} :
    (maybe p).Reads b t r g ↔ p.Reads b t r g ∨ t = [] ∧ g = [] := Iff.rfl

theorem reads_many1 {k : CharClass} :
    (many1 k).Reads b t r g ↔ t ≠ [] ∧ k.All t ∧ g = [] := by
  rw [many1, reads_seq]
  constructor
  · rintro ⟨_, u, _, _, rfl, rfl, ⟨⟨c, hc, rfl⟩, rfl⟩, hu, rfl⟩
    exact ⟨by simp, CharClass.all_cons.mpr ⟨hc, hu⟩, rfl⟩
  · rintro ⟨hne, hk, rfl⟩
    obtain ⟨c, u, rfl⟩ := List.exists_cons_of_ne_nil hne
    obtain ⟨hc, hu⟩ := CharClass.all_cons.mp hk
    exact ⟨[c], u, [], [], rfl, rfl, ⟨⟨c, hc, rfl⟩, rfl⟩, hu, rfl⟩

theorem reads_anyWord {ws : List Text} : (anyWord ws).Reads b t r g ↔ t ∈ ws ∧ g = [] := by
  induction ws with
  | nil => simp [anyWord, reads_one, CharClass.has]
  | cons w ws ih =>
      cases ws with
      | nil => simp [anyWord, reads_word]
      | cons v ws =>
          change (word w).Reads b t r g ∨ (anyWord (v :: ws)).Reads b t r g ↔ _
          rw [ih, reads_word, List.mem_cons (a := t) (b := w), or_and_right]

/-- A concatenation reads with its first pattern and then with the others. -/
theorem reads_concat_cons {p : Pattern} {ps : List Pattern} : (concat (p :: ps)).Reads b t r g ↔
    ∃ t₁ t₂ g₁ g₂, t = t₁ ++ t₂ ∧ g = g₂ ++ g₁ ∧ p.Reads b t₁ (t₂ ++ r) g₁ ∧
      (concat ps).Reads (behind b t₁) t₂ r g₂ := by
  have hconcat : concat (p :: ps) = if concat ps = .empty then p else .seq p (concat ps) := rfl
  rw [hconcat]
  split
  next hempty =>
    rw [hempty]
    constructor
    · intro h
      exact ⟨t, [], g, [], by simp, rfl, by simpa using h, rfl, rfl⟩
    · rintro ⟨t, _, g, _, rfl, rfl, h, rfl, rfl⟩
      simpa using h
  next => exact reads_seq

end

end Pattern

end Manuscript
