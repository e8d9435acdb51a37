import Mathlib.Data.List.Nodup
import Mathlib.Data.List.Induction

/-!
The distinct entries of a list.

`l.eraseDups` has each entry of `l` where it first occurs. A new entry at the
end of a list comes to its distinct entries if it is none of them. From this
follows what becomes of the distinct entries when lists are filtered, mapped
and put together.
-/

namespace Manuscript

variable {α β : Type} [BEq α] [LawfulBEq α] [BEq β] [LawfulBEq β]

theorem eraseDups_concat (l : List α) (a : α) :
    (l ++ [a]).eraseDups = if a ∈ l then l.eraseDups else l.eraseDups ++ [a] := by
  rw [List.eraseDups_append, List.removeAll]
  split
  next h => simp [h]
  next h => simp [h, List.eraseDups_cons]

theorem nodup_eraseDups (l : List α) : l.eraseDups.Nodup := by
  induction l using List.reverseRecOn with
  | nil => simp
  | append_singleton l a ih =>
      rw [eraseDups_concat]
      split
      next => exact ih
      next h =>
        rw [List.nodup_append]
        refine ⟨ih, List.nodup_singleton a, ?_⟩
        rintro b hb c hc rfl
        exact h (List.mem_singleton.mp hc ▸ List.mem_eraseDups.mp hb)

theorem eraseDups_eq_self_iff {l : List α} : l.eraseDups = l ↔ l.Nodup := by
  refine ⟨fun h => h ▸ nodup_eraseDups l, fun h => ?_⟩
  induction l with
  | nil => simp
  | cons a l ih =>
      obtain ⟨ha, hl⟩ := List.nodup_cons.mp h
      have hfilter : (l.filter fun b => !b == a) = l :=
        List.filter_eq_self.mpr fun b hb => by simp [ne_of_mem_of_not_mem hb ha]
      rw [List.eraseDups_cons, hfilter, ih hl]

theorem filter_eraseDups (p : α → Bool) (l : List α) :
    l.eraseDups.filter p = (l.filter p).eraseDups := by
  induction l using List.reverseRecOn with
  | nil => simp
  | append_singleton l a ih =>
      rw [eraseDups_concat, List.filter_append]
      by_cases hp : p a = true
      · rw [List.filter_cons_of_pos hp, List.filter_nil, eraseDups_concat]
        by_cases ha : a ∈ l
        · simp [ha, hp, ih]
        · simp [ha, hp, ih]
      · rw [List.filter_cons_of_neg hp, List.filter_nil, List.append_nil, ← ih]
        split
        next => rfl
        next => simp [hp]

/-- Repetitions need not be left out before the entries are mapped. -/
theorem eraseDups_map_eraseDups (f : α → β) (l : List α) :
    (l.eraseDups.map f).eraseDups = (l.map f).eraseDups := by
  induction l using List.reverseRecOn with
  | nil => simp
  | append_singleton l a ih =>
      rw [eraseDups_concat, List.map_append, List.map_singleton, eraseDups_concat]
      split
      next ha => rw [if_pos (List.mem_map_of_mem ha), ih]
      next ha =>
        have hmem : f a ∈ l.eraseDups.map f ↔ f a ∈ l.map f := by
          simp only [List.mem_map, List.mem_eraseDups]
        rw [List.map_append, List.map_singleton, eraseDups_concat, ih]
        simp only [hmem]

/-- Behind a list, only what is not in it is new. -/
theorem eraseDups_append (l m : List α) :
    (l ++ m).eraseDups = l.eraseDups ++ m.eraseDups.filter (· ∉ l.eraseDups) := by
  rw [List.eraseDups_append, filter_eraseDups, List.removeAll]
  refine congrArg (fun p => l.eraseDups ++ (m.filter p).eraseDups) (funext fun a => ?_)
  simp

end Manuscript
