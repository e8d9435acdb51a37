import Manuscript.Proofs.Repair.Passes

/-!
What a repair by the standard rules keeps of a text.

Nothing is added and nothing changes its place. All that goes are the names of
markers, at least one for each replacement counted, and backslashes. A marker
name has one opening and one closing brace, so the balance of braces stays.
-/

namespace Manuscript.Repair

/-- `u` is what is left of `t` after a number of replacements. -/
structure Conserved (count : Nat) (t u : Text) : Prop where
  strips : ∃ a b, count ≤ a ∧ Strips a b t u
  survivors : ∀ keep : Char → Bool, (∀ c ∈ '\\' :: markerName, keep c = false) →
    u.filter keep = t.filter keep
  balance : (u.count '\x7b' : Int) - u.count '\x7d' = t.count '\x7b' - t.count '\x7d'

theorem Conserved.of_strips {count : Nat} {t u : Text}
    (h : ∃ a b, count ≤ a ∧ Strips a b t u) : Conserved count t u where
  strips := h
  survivors := by
    obtain ⟨a, b, -, hstrip⟩ := h
    intro keep hkeep
    exact hstrip.filter_eq (fun c hc => hkeep c (List.mem_cons_of_mem _ hc))
      (hkeep '\\' List.mem_cons_self)
  balance := by
    obtain ⟨a, b, -, hstrip⟩ := h
    have hopen := hstrip.count_eq '\x7b'
    have hclose := hstrip.count_eq '\x7d'
    have hname : markerName.count '\x7b' = 1 ∧ markerName.count '\x7d' = 1 := by decide
    have hback : '\x7b' ≠ '\\' ∧ '\x7d' ≠ '\\' := by decide
    rw [hname.1, if_neg hback.1] at hopen
    rw [hname.2, if_neg hback.2] at hclose
    omega

theorem repair_strips (n : Nat) (v : Bool) (t : Text) :
    ∃ a b, (Engine.repair { maxPasses := n, validate := v } t).count ≤ a ∧
      Strips a b t (Engine.repair { maxPasses := n, validate := v } t).text := by
  obtain ⟨a, b, ha, hstrip⟩ := advance_strips Standard.strips n (.start t)
  rw [Engine.repair_count, Engine.repair_text]
  exact ⟨a, b, by simpa using ha, hstrip⟩

/-- A repair, and every pass of it, conserves the text. -/
theorem repair_conserved (n : Nat) (v : Bool) (t : Text) :
    let o := Engine.repair { maxPasses := n, validate := v } t
    Conserved o.count t o.text ∧
      Conserved (pass Standard.table t).2.total t (pass Standard.table t).1 :=
  ⟨.of_strips (repair_strips n v t), .of_strips (pass_strips Standard.strips t)⟩

end Manuscript.Repair
