import Manuscript.Text.Basic
import Mathlib.Data.List.Basic

/-!
Lines written one after another, and read again.

A line that is written with a line feed behind it is read as that line, but for
a carriage return at its end, which then belongs to the ending. A text that
goes on from there is read as if it stood alone.
-/

namespace Manuscript.Text

/-- The text in which every line is followed by a line feed. -/
def unlines (ls : List Text) : Text :=
  ls.flatMap (· ++ ['\n'])

/-- What is read of a line that a line feed follows. -/
def reread (l : Text) : Text :=
  endLine l.reverse

theorem linesFrom_nil (begun : Text) :
    linesFrom begun [] = if begun.isEmpty then [] else [begun.reverse] := rfl

theorem linesFrom_cons (begun : Text) (c : Char) (t : Text) : linesFrom begun (c :: t) =
    if c = '\n' then endLine begun :: linesFrom [] t else linesFrom (c :: begun) t := rfl

theorem lines_nil : lines [] = [] := rfl

@[simp] theorem unlines_nil : unlines [] = [] := rfl

@[simp] theorem unlines_cons (l : Text) (ls : List Text) :
    unlines (l :: ls) = l ++ '\n' :: unlines ls := by
  simp [unlines]

theorem reread_concat_return (l : Text) : reread (l ++ ['\r']) = l := by
  simp [reread, endLine]

theorem reread_of_getLast?_ne {l : Text} (h : l.getLast? ≠ some '\r') : reread l = l := by
  obtain rfl | ⟨l, c, rfl⟩ := List.eq_nil_or_concat' l
  · rfl
  · have hc : c ≠ '\r' := by simpa using h
    rw [reread, endLine.eq_def, List.reverse_append, List.reverse_singleton]
    split
    next heq => exact absurd (List.cons.inj heq).1 hc
    next => simp

theorem reread_cases (l : Text) : reread l = l ∨ l = reread l ++ ['\r'] := by
  by_cases h : l.getLast? = some '\r'
  · obtain ⟨u, rfl⟩ := List.getLast?_eq_some_iff.mp h
    exact .inr (by rw [reread_concat_return])
  · exact .inl (reread_of_getLast?_ne h)

theorem reread_isPrefix (l : Text) : reread l <+: l := by
  rcases reread_cases l with h | h
  · exact ⟨[], by rw [List.append_nil, h]⟩
  · exact ⟨['\r'], h.symm⟩

theorem linesFrom_append_newline {u : Text} (h : '\n' ∉ u) (begun t : Text) :
    linesFrom begun (u ++ '\n' :: t) = endLine (u.reverse ++ begun) :: lines t := by
  induction u generalizing begun with
  | nil => rfl
  | cons c u ih =>
      obtain ⟨hc, hu⟩ := not_or.mp (List.mem_cons.not.mp h)
      rw [List.cons_append, linesFrom_cons, if_neg (Ne.symm hc), ih hu, List.reverse_cons,
        List.append_assoc, List.singleton_append]

theorem lines_append_newline {l : Text} (h : '\n' ∉ l) (t : Text) :
    lines (l ++ '\n' :: t) = reread l :: lines t := by
  rw [lines, linesFrom_append_newline h, List.append_nil, reread]

/-- Lines are read as they were written, each but for a carriage return at its end. -/
theorem lines_unlines_append {ls : List Text} (h : ∀ l ∈ ls, '\n' ∉ l) (t : Text) :
    lines (unlines ls ++ t) = ls.map reread ++ lines t := by
  induction ls with
  | nil => rfl
  | cons l ls ih =>
      obtain ⟨hl, hls⟩ := List.forall_mem_cons.mp h
      rw [unlines_cons, List.append_assoc, List.cons_append, lines_append_newline hl, ih hls,
        List.map_cons, List.cons_append]

theorem lines_unlines {ls : List Text} (h : ∀ l ∈ ls, '\n' ∉ l ∧ '\r' ∉ l) :
    lines (unlines ls) = ls := by
  have hlines := lines_unlines_append (fun l hl => (h l hl).1) []
  have hreread : ∀ l ∈ ls, reread l = l := fun l hl =>
    reread_of_getLast?_ne fun hlast => (h l hl).2 (List.mem_of_getLast? hlast)
  rwa [List.append_nil, lines_nil, List.append_nil, List.map_congr_left hreread,
    List.map_id''] at hlines
  exact fun _ => rfl

theorem notMem_of_mem_linesFrom {begun t l : Text} (h : '\n' ∉ begun)
    (hl : l ∈ linesFrom begun t) : '\n' ∉ l := by
  induction t generalizing begun with
  | nil =>
      rw [linesFrom_nil] at hl
      split at hl
      next => cases hl
      next => rwa [List.mem_singleton.mp hl, List.mem_reverse]
  | cons c t ih =>
      rw [linesFrom_cons] at hl
      split at hl
      next =>
        rcases List.mem_cons.mp hl with rfl | hl
        · intro hmem
          have hbegin := reread_isPrefix begun.reverse
          rw [reread, List.reverse_reverse] at hbegin
          exact h (List.mem_reverse.mp (hbegin.subset hmem))
        · exact ih List.not_mem_nil hl
      next hc => exact ih (List.not_mem_cons_of_ne_of_not_mem (Ne.symm hc) h) hl

theorem notMem_of_mem_lines {t l : Text} (h : l ∈ lines t) : '\n' ∉ l :=
  notMem_of_mem_linesFrom List.not_mem_nil h

/-! ### Reading line by line

What is read of a line is a list that the carriage return of its ending adds nothing to, and of an
empty line nothing. -/

def AtLineStart (t : Text) : Prop :=
  t = [] ∨ t.getLast? = some '\n'

def AtLineEnd (t : Text) : Prop :=
  t = [] ∨ ['\n'] <+: t ∨ ['\r', '\n'] <+: t

section

variable {α : Type} {f : Text → List α} (hreread : ∀ l, f (reread l) = f l)
  (hnil : f [] = [])
include hreread hnil

theorem flatMap_linesFrom_append_newline (begun u v : Text) :
    (linesFrom begun (u ++ '\n' :: v)).flatMap f =
      (linesFrom begun u).flatMap f ++ (lines v).flatMap f := by
  induction u generalizing begun with
  | nil =>
      have hend : f (endLine begun) = f begun.reverse := by
        rw [← hreread begun.reverse, reread, List.reverse_reverse]
      have hfeed : linesFrom begun ('\n' :: v) = endLine begun :: lines v := rfl
      rw [List.nil_append, hfeed, List.flatMap_cons, hend, linesFrom_nil]
      split
      next h => simp [List.isEmpty_iff.mp h, hnil]
      next => simp
  | cons c u ih =>
      rw [List.cons_append, linesFrom_cons, linesFrom_cons]
      split
      next => rw [List.flatMap_cons, ih, List.flatMap_cons, List.append_assoc]
      next => exact ih (c :: begun)

/-- Behind a line feed a text is read as if it stood alone, and in front of it too. -/
theorem flatMap_lines_append_newline (u v : Text) :
    (lines (u ++ '\n' :: v)).flatMap f = (lines u).flatMap f ++ (lines v).flatMap f :=
  flatMap_linesFrom_append_newline hreread hnil [] u v

theorem flatMap_lines_of_notMem {l : Text} (h : '\n' ∉ l) : (lines l).flatMap f = f l := by
  have happend := flatMap_lines_append_newline hreread hnil l []
  rw [lines_append_newline h] at happend
  simpa [lines_nil, hreread] using happend.symm

theorem flatMap_lines_append_of_atLineEnd {l t : Text} (hl : '\n' ∉ l) (ht : AtLineEnd t) :
    (lines (l ++ t)).flatMap f = f l ++ (lines t).flatMap f := by
  rcases ht with rfl | ⟨t, rfl⟩ | ⟨t, rfl⟩
  · rw [List.append_nil, flatMap_lines_of_notMem hreread hnil hl]
    simp [lines_nil]
  · have hempty := flatMap_lines_append_newline hreread hnil [] t
    rw [List.singleton_append, lines_append_newline hl, List.flatMap_cons, hreread]
    exact congrArg (f l ++ ·) hempty.symm
  · -- the carriage return belongs to the ending, with and without the line in front of it
    have hreturn : '\n' ∉ l ++ ['\r'] := by simp [hl]
    have hending := lines_append_newline (l := ['\r']) (by decide) t
    have hline := lines_append_newline hreturn t
    rw [List.append_assoc, List.singleton_append, reread_concat_return] at hline
    rw [List.cons_append, List.singleton_append, hline, List.flatMap_cons]
    refine congrArg (f l ++ ·) ?_
    rw [← List.singleton_append, hending]
    exact (congrArg (· ++ _) hnil).symm

/-- What is read of a text with a line at a place. -/
theorem flatMap_lines_around {before l after : Text} (hbefore : AtLineStart before)
    (hafter : AtLineEnd after) (hl : '\n' ∉ l) :
    (lines (before ++ (l ++ after))).flatMap f =
      (lines before).flatMap f ++ (f l ++ (lines after).flatMap f) := by
  rw [← flatMap_lines_append_of_atLineEnd hreread hnil hl hafter]
  rcases hbefore with rfl | hlast
  · rfl
  · obtain ⟨before, rfl⟩ := List.getLast?_eq_some_iff.mp hlast
    have hfront := flatMap_lines_append_newline hreread hnil before []
    rw [List.append_assoc, List.singleton_append, flatMap_lines_append_newline hreread hnil, hfront]
    simp [lines_nil]

end

end Manuscript.Text
