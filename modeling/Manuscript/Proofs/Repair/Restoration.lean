import Manuscript.Proofs.Repair.Convergence
import Manuscript.Proofs.Repair.Nesting

/-!
Escaped markup is restored.

A pass activates the innermost commands first, by the rules for plain
arguments, and then those around active commands. From there every pass gains
one level, down to the depth that the pattern for active arguments can read.
-/

namespace Manuscript.Repair

open Markup (Rendered)

section

variable {lo hi lo' hi' n : Nat} {d : Markup}

theorem applyRule_rendered {rule : Rule} {ps : List Pattern} {state : Text × Tally}
    (hrule : rule.finder = Standard.marked ps) (hps : Unwraps ps rule.replacement lo hi lo' hi')
    (h : Rendered lo hi d state.1 (n + state.2.total)) :
    Rendered lo' hi' d (applyRule state rule).1 (n + (applyRule state rule).2.total) := by
  have hrewrite := hps.rewrite hrule h
  rwa [total_applyRule, ← Nat.add_assoc]

/-- Rules for plain arguments keep a rendering whose innermost commands may be active. -/
theorem foldl_rendered {rules : Table} (hrules : ∀ rule ∈ rules, rule.UnwrapsPlain)
    (hhi : 1 ≤ hi) {state : Text × Tally} (h : Rendered lo hi d state.1 (n + state.2.total)) :
    Rendered lo hi d (rules.foldl applyRule state).1
      (n + (rules.foldl applyRule state).2.total) := by
  induction rules generalizing state with
  | nil => exact h
  | cons rule rules ih =>
      obtain ⟨hrule, hrules⟩ := List.forall_mem_cons.mp hrules
      obtain ⟨ps, hfinder, hplain⟩ := hrule
      have hps := hplain.unwraps lo hi
      rw [max_eq_left hhi] at hps
      exact ih hrules (applyRule_rendered hfinder hps h)

/-- A pass over a rendering in which at most innermost commands are left open. -/
theorem pass_rendered {k : Nat} (hk : max lo 1 = k) {t : Text} (h : Rendered lo k d t n) :
    Rendered (min (k + 1) 3) (k + 1) d (pass Standard.table t).1
      (n + (pass Standard.table t).2.total) := by
  have hpos : 1 ≤ k := by omega
  have hstart : Rendered lo k d (t, Tally.zero).1 (n + (t, Tally.zero).2.total) := h
  -- the special rules may leave innermost commands open, and the general one closes that gap
  have hspecial := foldl_rendered unwrapsPlain_special hpos hstart
  have hgeneral := applyRule_rendered rfl (unwraps_general lo k) hspecial
  rw [hk, max_eq_left hpos] at hgeneral
  have hwrapping := applyRule_rendered rfl (unwraps_wrapping k) hgeneral
  have hlast : ∀ rule ∈ [Standard.stray], rule.UnwrapsPlain := by
    simpa using unwrapsPlain_stray
  have hstray := foldl_rendered hlast (Nat.le_add_left 1 k) hwrapping
  rw [pass_eq, Standard.table, List.foldl_append, List.foldl_cons, List.foldl_cons]
  exact hstray

end

theorem pass_text {d : Markup} (hd : d.depth ≤ 3) : (pass Standard.table d.text).2.total = 0 := by
  have htext : Rendered 3 3 d d.text d.commands := .text 3 hd
  have hpass := pass_rendered rfl htext
  have := hpass.le_commands
  omega

/-- The loop over passes activates every command, level by level. -/
theorem advance_escaped {d : Markup} (hd : d.depth ≤ 3) (hpos : 0 < d.depth) (n : Nat) :
    ∃ tally : Tally, advance Standard.table (n + 2) (.start d.escaped) =
      ⟨d.text, tally, d.commands, if d.depth ≤ 2 then 2 else 3, true⟩ := by
  have hstart : Rendered 0 1 d d.escaped 0 := .escaped 1 d
  obtain ⟨t, first, hpass⟩ : ∃ t first, pass Standard.table d.escaped = (t, first) := ⟨_, _, rfl⟩
  have hfirst : Rendered 2 2 d t first.total := by
    have := pass_rendered rfl hstart
    rwa [hpass, Nat.zero_add] at this
  have hhits : first.total ≠ 0 := Nat.pos_iff_ne_zero.mp (hfirst.active_pos (by decide) hpos)
  have hloop : advance Standard.table (n + 2) (.start d.escaped) = _ :=
    advance_pass (n + 1) hpass hhits
  have hsilent := pass_text hd
  by_cases hdepth : d.depth ≤ 2
  · obtain ⟨rfl, htotal⟩ := hfirst.eq_text hdepth
    refine ⟨Tally.zero.plus first, ?_⟩
    rw [hloop, if_pos hdepth, Nat.zero_add, htotal]
    exact advance_silent _ hsilent
  · have hlt := hfirst.lt_commands (by omega)
    obtain ⟨u, second, hagain⟩ : ∃ u second, pass Standard.table t = (u, second) := ⟨_, _, rfl⟩
    have hsecond : Rendered 3 3 d u (first.total + second.total) := by
      have := pass_rendered rfl hfirst
      rwa [hagain] at this
    obtain ⟨rfl, htotal⟩ := hsecond.eq_text hd
    refine ⟨(Tally.zero.plus first).plus second, ?_⟩
    rw [hloop, advance_pass n hagain (by omega), if_neg hdepth, Nat.zero_add, htotal]
    exact advance_silent _ hsilent

theorem repair_escaped (d : Markup) (hd : d.depth ≤ 3) (n : Nat) (hn : 2 ≤ n) (v : Bool) :
    let o := Engine.repair { maxPasses := n, validate := v } d.escaped
    o.text = d.text ∧ o.converged = true ∧ o.count = d.commands ∧
      o.passes = if d.commands = 0 then 1 else if d.depth ≤ 2 then 2 else 3 := by
  intro o
  by_cases hzero : d.commands = 0
  · have hdepth : d.depth = 0 := by
      by_contra hne
      exact d.depth_pos_iff.mp (Nat.pos_of_ne_zero hne) hzero
    have hstart : Rendered 0 0 d d.escaped 0 := .escaped 0 d
    obtain ⟨htext, -⟩ := hstart.eq_text (Nat.le_of_eq hdepth)
    have hsilent : (pass Standard.table d.escaped).2.total = 0 := by
      rw [htext]
      exact pass_text hd
    obtain ⟨ho, hcount, hconv, hpasses⟩ : o.text = d.escaped ∧ o.count = 0 ∧ o.converged = true ∧
        o.passes = 1 := repair_silent hsilent
    exact ⟨ho.trans htext, hconv, hcount.trans hzero.symm, by rw [hpasses, if_pos hzero]⟩
  · obtain ⟨n, rfl⟩ : ∃ m, n = m + 2 := ⟨n - 2, by omega⟩
    obtain ⟨tally, hloop⟩ := advance_escaped hd (d.depth_pos_iff.mpr hzero) n
    rw [if_neg hzero]
    rw [Engine.repair_text, Engine.repair_converged, Engine.repair_count, Engine.repair_passes,
      hloop]
    exact ⟨rfl, rfl, rfl, rfl⟩

def note : Markup :=
  .command ⟨"footnote".toList, by decide, by decide, by decide, by decide +kernel⟩
    (.run ⟨"see ".toList, by decide⟩
      (.command ⟨"textbf".toList, by decide, by decide, by decide, by decide +kernel⟩
        (.command ⟨"emph".toList, by decide, by decide, by decide, by decide +kernel⟩
          (.run ⟨"below".toList, by decide⟩ .done) .done) .done)) .done

theorem repair_escaped_note :
    note.depth ≤ 3 ∧ 2 ≤ 2 ∧
      let o := Engine.repair { maxPasses := 2 } note.escaped
      o.text = "\\footnote\x7bsee \\textbf\x7b\\emph\x7bbelow\x7d\x7d\x7d".toList ∧
        o.converged = true ∧ o.count = 3 ∧ o.passes = 3 := by
  refine ⟨by decide, by decide, ?_⟩
  obtain ⟨htext, hconv, hcount, hpasses⟩ := repair_escaped note (by decide) 2 (by decide) true
  have hnote : note.text =
      "\\footnote\x7bsee \\textbf\x7b\\emph\x7bbelow\x7d\x7d\x7d".toList := by decide
  exact ⟨htext.trans hnote, hconv, hcount, hpasses⟩

end Manuscript.Repair
