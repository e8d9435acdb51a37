import Manuscript.Proofs.Structure.Braces

/-!
Bracketed words.

A word is bracketed if it is empty, or begins with two letters that make a pair,
a bracketed word between them and one behind them. A part of a word that is read
from the left has opened letters which the rest has to close, the innermost
first. `Closing` describes such a rest; what it says of the next letter is all
that a check has to keep track of.
-/

namespace Manuscript.Structure

inductive Bracketed {α : Type} (Pair : α → α → Prop) : List α → Prop
  | nil : Bracketed Pair []
  | pair {a b : α} {u v : List α} : Pair a b → Bracketed Pair u → Bracketed Pair v →
      Bracketed Pair (a :: (u ++ b :: v))

/-- The word closes the open letters, innermost first, and is bracketed in between. -/
inductive Closing {α : Type} (Pair : α → α → Prop) : List α → List α → Prop
  | last {u : List α} : Bracketed Pair u → Closing Pair [] u
  | next {a b : α} {opened u v : List α} : Bracketed Pair u → Pair a b → Closing Pair opened v →
      Closing Pair (a :: opened) (u ++ b :: v)

namespace Closing

variable {α : Type} {Pair : α → α → Prop} {x : α} {opened w : List α}

theorem bracketed_iff : Bracketed Pair w ↔ Closing Pair [] w := by
  constructor
  · exact .last
  · rintro (h | _)
    exact h

theorem nil_iff : Closing Pair opened [] ↔ opened = [] := by
  constructor
  · intro h
    cases opened with
    | nil => rfl
    | cons a opened =>
        exfalso
        generalize hw : ([] : List α) = word at h
        cases h with
        | next => simp at hw
  · rintro rfl
    exact .last .nil

/-- A letter that closes nothing is one more to be closed. -/
theorem opens_iff (hopens : ∀ a, ¬Pair a x) :
    Closing Pair opened (x :: w) ↔ Closing Pair (x :: opened) w := by
  constructor
  · intro h
    generalize hw : x :: w = word at h
    cases h with
    | last hbracketed =>
        cases hbracketed with
        | nil => cases hw
        | pair hpair hu hv =>
            cases hw
            exact .next hu hpair (.last hv)
    | next hbracketed hpair hrest =>
        cases hbracketed with
        | nil =>
            cases hw
            exact absurd hpair (hopens _)
        | pair hinner hu hv =>
            rw [List.cons_append, List.cons.injEq] at hw
            obtain ⟨rfl, rfl⟩ := hw
            rw [List.append_assoc, List.cons_append]
            exact .next hu hinner (.next hv hpair hrest)
  · intro h
    cases h with
    | next hu hpair hrest =>
        cases hrest with
        | last hv => exact .last (.pair hpair hu hv)
        | next hv houter hrest =>
            have hword := Closing.next (.pair hpair hu hv) houter hrest
            rwa [List.cons_append, List.append_assoc, List.cons_append] at hword

/-- A letter that opens nothing closes the innermost one. -/
theorem closes_iff (hcloses : ∀ b, ¬Pair x b) : Closing Pair opened (x :: w) ↔
    ∃ a outer, opened = a :: outer ∧ Pair a x ∧ Closing Pair outer w := by
  constructor
  · intro h
    generalize hw : x :: w = word at h
    cases h with
    | last hbracketed =>
        cases hbracketed with
        | nil => cases hw
        | pair hpair =>
            cases hw
            exact absurd hpair (hcloses _)
    | next hbracketed hpair hrest =>
        cases hbracketed with
        | nil =>
            cases hw
            exact ⟨_, _, rfl, hpair, hrest⟩
        | pair hinner =>
            cases hw
            exact absurd hinner (hcloses _)
  · rintro ⟨a, outer, rfl, hpair, hrest⟩
    exact .next .nil hpair hrest

end Closing

/-! ### Braces -/

def BracePair (a b : Char) : Prop :=
  a = '\x7b' ∧ b = '\x7d'

theorem mem_activeBraces {p : Bool} {c : Char} {t : Text} (h : c ∈ activeBraces p t) :
    c = '\x7b' ∨ c = '\x7d' := by
  induction t generalizing p with
  | nil => simp at h
  | cons d t ih =>
      cases p with
      | true => exact ih h
      | false =>
          rw [activeBraces] at h
          split at h
          next => exact ih h
          next =>
            split at h
            next hbrace =>
              rcases List.mem_cons.mp h with rfl | h
              · exact hbrace
              · exact ih h
            next => exact ih h

theorem depthBehind?_eq_zero_iff {n : Nat} {u : Text} (hu : ∀ c ∈ u, c = '\x7b' ∨ c = '\x7d') :
    depthBehind? n u = some 0 ↔ Closing BracePair (List.replicate n '\x7b') u := by
  induction u generalizing n with
  | nil => simp [Closing.nil_iff]
  | cons c u ih =>
      obtain ⟨hc, hrest⟩ := List.forall_mem_cons.mp hu
      rcases hc with rfl | rfl
      · rw [depthBehind?_open, ih hrest, List.replicate_succ, Closing.opens_iff]
        rintro a ⟨-, hclose⟩
        cases hclose
      · rw [Closing.closes_iff (by rintro b ⟨hopen, -⟩; cases hopen)]
        cases n with
        | zero => simp
        | succ n => simp [ih hrest, List.replicate_succ, BracePair]

end Manuscript.Structure
