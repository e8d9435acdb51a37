import Manuscript.Path

/-!
The order of paths.

Texts and lists of components are compared at the first place where they differ,
and the shorter one comes first if there is none. Such an order is linear if that
of the members is. So the order of paths is linear, up to spellings with the same
components. What comes strictly before in it comes before in the lexicographic
order of components.
-/

namespace Manuscript.Path

variable {α : Type} [DecidableEq α]

/-- Lists compared at the first place where they differ. -/
def lexLe (le : α → α → Bool) : List α → List α → Bool
  | [], _ => true
  | _ :: _, [] => false
  | a :: as, b :: bs => if a = b then lexLe le as bs else le a b

/-- An order in which any two members can be compared. -/
structure IsLinear (le : α → α → Bool) : Prop where
  total : ∀ a b, (le a b || le b a) = true
  antisymm : ∀ a b, le a b = true → le b a = true → a = b
  trans : ∀ a b c, le a b = true → le b c = true → le a c = true

section

variable {le : α → α → Bool} {a b : α} {as bs cs : List α}

theorem lexLe_cons_iff : lexLe le (a :: as) (b :: bs) = true ↔
    a = b ∧ lexLe le as bs = true ∨ a ≠ b ∧ le a b = true := by
  rw [lexLe]
  by_cases hab : a = b
  · simp [hab]
  · simp [hab]

theorem lexLe_total (h : IsLinear le) (as bs : List α) :
    (lexLe le as bs || lexLe le bs as) = true := by
  induction as generalizing bs with
  | nil => rfl
  | cons a as ih =>
      cases bs with
      | nil => rfl
      | cons b bs =>
          have hmembers := h.total a b
          have hrest := ih bs
          rw [Bool.or_eq_true] at hmembers hrest ⊢
          rw [lexLe_cons_iff, lexLe_cons_iff]
          by_cases hab : a = b
          · exact hrest.imp (fun h => .inl ⟨hab, h⟩) fun h => .inl ⟨hab.symm, h⟩
          · exact hmembers.imp (fun h => .inr ⟨hab, h⟩) fun h => .inr ⟨Ne.symm hab, h⟩

theorem lexLe_antisymm (h : IsLinear le) (hab : lexLe le as bs = true)
    (hba : lexLe le bs as = true) : as = bs := by
  induction as generalizing bs with
  | nil =>
      cases bs with
      | nil => rfl
      | cons b bs => cases hba
  | cons a as ih =>
      cases bs with
      | nil => cases hab
      | cons b bs =>
          rcases lexLe_cons_iff.mp hab with ⟨rfl, hrest⟩ | ⟨hne, hab⟩
          · rw [ih hrest ((lexLe_cons_iff.mp hba).resolve_right fun hne => hne.1 rfl).2]
          · have hba := ((lexLe_cons_iff.mp hba).resolve_left fun hsame => hne hsame.1.symm).2
            exact absurd (h.antisymm a b hab hba) hne

theorem lexLe_trans (h : IsLinear le) (hab : lexLe le as bs = true)
    (hbc : lexLe le bs cs = true) : lexLe le as cs = true := by
  induction as generalizing bs cs with
  | nil => rfl
  | cons a as ih =>
      cases bs with
      | nil => cases hab
      | cons b bs =>
          cases cs with
          | nil => cases hbc
          | cons c cs =>
              -- where the first members are not all the same, two of them decide
              rcases lexLe_cons_iff.mp hab with ⟨rfl, hrest⟩ | ⟨hne, hab⟩
              · exact lexLe_cons_iff.mpr
                  ((lexLe_cons_iff.mp hbc).imp_left fun hbc => ⟨hbc.1, ih hrest hbc.2⟩)
              · refine lexLe_cons_iff.mpr (.inr ?_)
                rcases lexLe_cons_iff.mp hbc with ⟨rfl, -⟩ | ⟨-, hbc⟩
                · exact ⟨hne, hab⟩
                · refine ⟨?_, h.trans a b c hab hbc⟩
                  rintro rfl
                  exact hne (h.antisymm a b hab hbc)

theorem IsLinear.lexLe (h : IsLinear le) : IsLinear (lexLe le) where
  total := lexLe_total h
  antisymm := fun _ _ => lexLe_antisymm h
  trans := fun _ _ _ => lexLe_trans h

end

theorem textLe_eq_lexLe (t u : Text) : textLe t u = lexLe (fun a b => decide (a ≤ b)) t u := by
  induction t generalizing u with
  | nil => cases u <;> rfl
  | cons a t ih =>
      cases u with
      | nil => rfl
      | cons b u =>
          rw [textLe, lexLe, ih]
          by_cases hab : a = b
          · simp [hab]
          · have hlt : a < b ↔ a ≤ b :=
              ⟨fun h => Char.not_lt.mp (Char.lt_asymm h),
                fun h => Char.not_le.mp fun h' => hab (Char.le_antisymm h h')⟩
            simp [hab, hlt]

theorem componentsLe_eq_lexLe (cs ds : List Component) :
    componentsLe cs ds = lexLe Component.le cs ds := by
  induction cs generalizing ds with
  | nil => cases ds <;> rfl
  | cons c cs ih =>
      cases ds with
      | nil => rfl
      | cons d ds => rw [componentsLe, lexLe, ih]

theorem isLinear_textLe : IsLinear textLe := by
  have hchars : IsLinear fun a b : Char => decide (a ≤ b) := by
    refine ⟨fun a b => ?_, fun a b hab hba => ?_, fun a b c hab hbc => ?_⟩
    · simpa using Char.le_total a b
    · exact Char.le_antisymm (of_decide_eq_true hab) (of_decide_eq_true hba)
    · exact decide_eq_true (Char.le_trans (of_decide_eq_true hab) (of_decide_eq_true hbc))
  have heq : textLe = lexLe fun a b : Char => decide (a ≤ b) :=
    funext fun t => funext fun u => textLe_eq_lexLe t u
  rw [heq]
  exact hchars.lexLe

theorem Component.le_iff (a b : Component) :
    a.le b = true ↔ a.rank < b.rank ∨ a.rank = b.rank ∧ textLe a.text b.text = true := by
  simp [Component.le]

/-- A component is known by its rank and its spelling. -/
theorem Component.eq_of_text {a b : Component} (hrank : a.rank = b.rank) (htext : a.text = b.text) :
    a = b := by
  cases a <;> cases b
  all_goals first | rfl | exact congrArg normal htext | cases hrank

theorem isLinear_componentLe : IsLinear Component.le := by
  refine ⟨fun a b => ?_, fun a b hab hba => ?_, fun a b c hab hbc => ?_⟩
  · have htext := isLinear_textLe.total a.text b.text
    rw [Bool.or_eq_true] at htext ⊢
    rw [Component.le_iff, Component.le_iff]
    rcases Nat.lt_trichotomy a.rank b.rank with hlt | heq | hlt
    · exact .inl (.inl hlt)
    · exact htext.imp (fun h => .inr ⟨heq, h⟩) fun h => .inr ⟨heq.symm, h⟩
    · exact .inr (.inl hlt)
  · rw [Component.le_iff] at hab hba
    have hrank : a.rank = b.rank := by omega
    refine Component.eq_of_text hrank (isLinear_textLe.antisymm _ _ ?_ ?_)
    · exact (hab.resolve_left (by omega)).2
    · exact (hba.resolve_left (by omega)).2
  · rw [Component.le_iff] at hab hbc ⊢
    rcases hab with hab | ⟨hab, htext⟩
    · exact .inl (by omega)
    · rcases hbc with hbc | ⟨hbc, htext'⟩
      · exact .inl (by omega)
      · exact .inr ⟨hab.trans hbc, isLinear_textLe.trans _ _ _ htext htext'⟩

theorem isLinear_componentsLe : IsLinear componentsLe := by
  have heq : componentsLe = lexLe Component.le :=
    funext fun cs => funext fun ds => componentsLe_eq_lexLe cs ds
  rw [heq]
  exact isLinear_componentLe.lexLe

/-! ### Strict order -/

/-- A component comes before another by its kind, and among names by the code points. -/
def Component.Precedes (a b : Component) : Prop :=
  a.rank < b.rank ∨ a.rank = b.rank ∧ a.text < b.text

/-- A path comes before another at the first component in which they differ, or where it ends. -/
def Precedes (p q : Path) : Prop :=
  List.Lex Component.Precedes p.components q.components

theorem lexLe_and_ne_iff {le : α → α → Bool} {as bs : List α} :
    lexLe le as bs = true ∧ as ≠ bs ↔ List.Lex (fun a b => le a b = true ∧ a ≠ b) as bs := by
  induction as generalizing bs with
  | nil => cases bs <;> simp [lexLe]
  | cons a as ih =>
      cases bs with
      | nil => simp [lexLe]
      | cons b bs =>
          rw [List.cons_lex_cons_iff, ← ih, lexLe]
          by_cases hab : a = b
          · simp [hab]
          · simp [hab]

theorem textLe_and_ne_iff {t u : Text} : textLe t u = true ∧ t ≠ u ↔ t < u := by
  have hchars : (fun a b : Char => decide (a ≤ b) = true ∧ a ≠ b) = (· < ·) := by
    funext a b
    rw [decide_eq_true_eq, eq_iff_iff]
    constructor
    · rintro ⟨hle, hne⟩
      exact Char.not_le.mp fun hge => hne (Char.le_antisymm hle hge)
    · intro hlt
      exact ⟨Char.not_lt.mp (Char.lt_asymm hlt), Char.ne_of_lt hlt⟩
  rw [textLe_eq_lexLe, lexLe_and_ne_iff, hchars]
  rfl

theorem Component.le_and_ne_iff {a b : Component} : a.le b = true ∧ a ≠ b ↔ a.Precedes b := by
  rw [Component.le_iff, Precedes, ← textLe_and_ne_iff]
  constructor
  · rintro ⟨hlt | ⟨hrank, htext⟩, hne⟩
    · exact .inl hlt
    · exact .inr ⟨hrank, htext, fun hsame => hne (eq_of_text hrank hsame)⟩
  · rintro (hlt | ⟨hrank, htext, hne⟩)
    · exact ⟨.inl hlt, fun hsame => Nat.ne_of_lt hlt (congrArg rank hsame)⟩
    · exact ⟨.inr ⟨hrank, htext⟩, fun hsame => hne (congrArg text hsame)⟩

theorem le_and_ne_iff {p q : Path} :
    p.le q = true ∧ p.components ≠ q.components ↔ p.Precedes q := by
  rw [le, componentsLe_eq_lexLe, lexLe_and_ne_iff, Precedes]
  simp only [Component.le_and_ne_iff]

/-! ### Sorted paths -/

theorem le_antisymm_components {p q : Path} (hpq : p.le q = true) (hqp : q.le p = true) :
    p.components = q.components :=
  isLinear_componentsLe.antisymm _ _ hpq hqp

theorem pairwise_mergeSort (paths : List Path) : (paths.mergeSort le).Pairwise (le · · = true) :=
  List.pairwise_mergeSort
    (fun p q r => isLinear_componentsLe.trans p.components q.components r.components)
    (fun p q => isLinear_componentsLe.total p.components q.components) paths

/-- Sorted lists of the same paths are the same, if each place is spelled in one way only. -/
theorem eq_of_sorted {ps qs : List Path} (hps : ps.Pairwise (le · · = true))
    (hqs : qs.Pairwise (le · · = true)) (hperm : ps.Perm qs)
    (hspelled : ∀ p ∈ ps, ∀ q ∈ ps, p.components = q.components → p = q) : ps = qs :=
  List.Perm.eq_of_pairwise
    (fun p q hp hq hpq hqp =>
      hspelled p hp q (hperm.mem_iff.mpr hq) (le_antisymm_components hpq hqp))
    hps hqs hperm

end Manuscript.Path
