import Manuscript.Proofs.Repair.Convergence
import Manuscript.Proofs.Repair.Unescaping

/-!
Texts that a repair leaves as they are.

Whatever a standard rule matches begins with a marker, and behind the marker
stands a letter or a backslash: the name of a command, or a second escape. That
can be read off the patterns of the table. Where markers stand before other
characters only, as in prose about backslashes, no rule has anything to do.
-/

namespace Manuscript.Repair

open Standard (marker)

/-- What follows a marker that a rule may take: a letter or a backslash. -/
def Wakes (c : Char) : Prop :=
  CharClass.letter.has c = true ∨ c = '\\'

instance (c : Char) : Decidable (Wakes c) :=
  inferInstanceAs (Decidable (_ ∨ _))

/-- No marker of the text stands right before a letter or a backslash. -/
def MarkersIdle (t : Text) : Prop :=
  ∀ before c after, t = before ++ (marker ++ c :: after) → ¬Wakes c

theorem MarkersIdle.of_no_marker {t : Text} (h : ¬marker <:+: t) : MarkersIdle t := by
  rintro before c after rfl
  exact absurd ⟨before, c :: after, by simp⟩ h

theorem markersIdle_iff_places (t : Text) : MarkersIdle t ↔
    ∀ i ∈ List.range (t.length + 1), marker <+: t.drop i →
      ((t.drop i).drop marker.length).head?.all (fun c => !decide (Wakes c)) = true := by
  constructor
  · rintro h i - ⟨after, hafter⟩
    rw [← hafter, List.drop_left]
    cases after with
    | nil => rfl
    | cons c after => simpa using h (t.take i) c after (by rw [hafter, List.take_append_drop])
  · rintro h before c after rfl
    have hmem : before.length ∈ List.range ((before ++ (marker ++ c :: after)).length + 1) := by
      simp
    simpa using h before.length hmem

instance (t : Text) : Decidable (MarkersIdle t) :=
  decidable_of_iff' _ (markersIdle_iff_places t)

/-! ### Rules judged by their patterns -/

/-- Whether the pattern begins with a marker and goes on with a letter or a backslash. -/
def takesMarker : Pattern → Bool
  | .seq (.word w) p => w == marker && (p.leads .letter || p.leads (.oneOf ['\\']))
  | _ => false

theorem exists_of_takesMarker {p : Pattern} (hp : takesMarker p = true) {b : Option Char}
    {t r : Text} {g : Pattern.Groups} (h : p.Reads b t r g) :
    ∃ c u, Wakes c ∧ t = marker ++ c :: u := by
  rw [takesMarker.eq_def] at hp
  split at hp
  next w q =>
    obtain ⟨hw, hlead⟩ := Bool.and_eq_true_iff.mp hp
    obtain ⟨_, v, _, k, rfl, -, ⟨rfl, -⟩, hread⟩ := Pattern.reads_seq.mp h
    rw [beq_iff_eq] at hw
    rcases Bool.or_eq_true_iff.mp hlead with hletter | hback
    · obtain ⟨c, u, hc, rfl⟩ := hread.exists_cons hletter
      exact ⟨c, u, .inl hc, by rw [hw]⟩
    · obtain ⟨c, u, hc, rfl⟩ := hread.exists_cons hback
      obtain rfl : c = '\\' := by
        have hrange : '\\' ≤ c ∧ c ≤ '\\' := by simpa [CharClass.has, CharClass.oneOf] using hc
        exact Char.le_antisymm hrange.2 hrange.1
      exact ⟨_, u, .inr rfl, by rw [hw]⟩
  next => cases hp

/-- What the rule matches begins with a marker before a letter or a backslash. -/
def Rule.takesMarker? (rule : Rule) : Bool :=
  match rule.finder with
  | .pattern p => takesMarker p
  | .automaton _ => false

theorem Rule.not_occurs_of_idle {rule : Rule} (hrule : rule.takesMarker? = true) {t : Text}
    (h : MarkersIdle t) : ¬rule.finder.Occurs t := by
  rw [Rule.takesMarker?] at hrule
  split at hrule
  next p hp =>
    rw [hp]
    rintro ⟨before, _, rfl, _, r, g, rfl, hread⟩
    obtain ⟨c, u, hc, rfl⟩ := exists_of_takesMarker hrule hread
    exact h before c (u ++ r) (by simp) hc
  next => cases hrule

theorem Standard.takesMarker : ∀ rule ∈ Standard.table, rule.takesMarker? = true :=
  forall_mem_table (by decide +kernel) (by decide +kernel) (by decide +kernel)

/-! ### The repair -/

theorem pass_of_idle {t : Text} (h : MarkersIdle t) : pass Standard.table t = (t, .zero) := by
  rw [pass_eq]
  exact foldl_eq_of_not_occurs Standard.strips fun rule hrule =>
    rule.not_occurs_of_idle (Standard.takesMarker rule hrule) h

/-- A text whose markers all stand before other characters comes back unchanged from one pass. -/
theorem repair_idle (n : Nat) (v : Bool) {t : Text} (h : MarkersIdle t) :
    let o := Engine.repair { maxPasses := n, validate := v } t
    o.text = t ∧ o.changed = false ∧ o.count = 0 ∧ o.tally.entries = [] ∧ o.converged = true ∧
      o.passes = 1 ∧ o.warnings = [] := by
  intro o
  have hpass := pass_of_idle h
  have hsilent : (pass Standard.table t).2.total = 0 := by
    rw [hpass]
    rfl
  obtain ⟨htext, hcount, hconv, hpasses⟩ : o.text = t ∧ o.count = 0 ∧ o.converged = true ∧
      o.passes = 1 := repair_silent hsilent
  have htally : o.tally = .zero := by
    rw [Engine.repair_tally, advance_silent n (p := .start t) hsilent]
    rfl
  refine ⟨htext, ?_, hcount, ?_, hconv, hpasses, ?_⟩
  · rw [Outcome.changed, hcount]
    rfl
  · rw [htally]
    rfl
  · rw [Engine.repair_warnings, hconv, hcount]
    simp

def proseAboutEscapes : Text :=
  "A \\textbackslash\x7b\x7d\x7b in \\texttt\x7bC:\\textbackslash\x7b\x7d\x7d".toList

theorem repair_idle_proseAboutEscapes :
    let o := Engine.repair { maxPasses := 0, validate := true } proseAboutEscapes
    MarkersIdle proseAboutEscapes ∧ Structure.validate proseAboutEscapes ≠ [] ∧
      o.text = proseAboutEscapes ∧ o.changed = false ∧ o.count = 0 ∧ o.tally.entries = [] ∧
      o.converged = true ∧ o.passes = 1 ∧ o.warnings = [] := by
  intro o
  obtain ⟨hidle, hinvalid⟩ : MarkersIdle proseAboutEscapes ∧
      Structure.validate proseAboutEscapes ≠ [] := by
    decide +kernel
  exact ⟨hidle, hinvalid, repair_idle 0 true hidle⟩

end Manuscript.Repair
