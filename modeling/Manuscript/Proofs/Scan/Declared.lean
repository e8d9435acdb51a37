import Manuscript.Proofs.Lists.Distinct
import Manuscript.Proofs.Scan.Searching
import Manuscript.Proofs.Text.Lines

/-!
What a text declares.

A scan goes through the declared names in order, tells the external ones from
the others, and keeps each at its first sight. So it depends on the text
through two lists only, the names of packages and the paths of content, and
these are put together line by line.
-/

namespace Manuscript

namespace Scan

/-- The names of the packages that a text declares, repetitions included. -/
def declaredPackages (t : Text) : List String :=
  t.lines.flatMap fun line => packageNames (code line)

def includedContent (t : Text) : List String :=
  t.lines.flatMap fun line => contentPaths (code line)

/-- Each entry of a list where it is first seen. -/
def firstSeen (names : List String) : List String :=
  names.foldl addNew []

theorem firstSeen_eq (names : List String) : firstSeen names = names.eraseDups := by
  induction names using List.reverseRecOn with
  | nil => rfl
  | append_singleton names name ih =>
      rw [firstSeen, List.foldl_append, ← firstSeen, ih, eraseDups_concat, List.foldl_cons,
        List.foldl_nil, addNew]
      simp only [List.contains_iff_mem, List.mem_eraseDups]

theorem firstSeen_eq_nil_iff {names : List String} : firstSeen names = [] ↔ names = [] := by
  simp only [firstSeen_eq, List.eq_nil_iff_forall_not_mem, List.mem_eraseDups]

end Scan

namespace Scanner

open Scan

theorem foldl_addPackage (s : Scanner) (names : List String) (r : Result) :
    names.foldl s.addPackage r =
      { r with
        stylePackages := (names.filter (!s.isExternal ·)).foldl addNew r.stylePackages
        externalPackages := (names.filter s.isExternal).foldl addNew r.externalPackages } := by
  induction names generalizing r with
  | nil => rfl
  | cons name names ih =>
      rw [List.foldl_cons, ih, addPackage]
      cases h : s.isExternal name <;> simp [h]

theorem foldl_addContent (paths : List String) (r : Result) :
    paths.foldl addContent r =
      { r with contentModules := paths.foldl addNew r.contentModules } := by
  induction paths generalizing r with
  | nil => rfl
  | cons path paths ih => rw [List.foldl_cons, ih]; rfl

/-- What a scan finds, by the names a text declares. -/
theorem scan_eq (s : Scanner) (t : Text) : s.scan t =
    { stylePackages := firstSeen ((declaredPackages t).filter (!s.isExternal ·))
      contentModules := firstSeen (includedContent t)
      externalPackages := firstSeen ((declaredPackages t).filter s.isExternal) } := by
  suffices H : ∀ (lines : List Text) (r : Result), lines.foldl s.scanLine r =
      { stylePackages := ((lines.flatMap fun line => packageNames (code line)).filter
          (!s.isExternal ·)).foldl addNew r.stylePackages
        contentModules :=
          (lines.flatMap fun line => contentPaths (code line)).foldl addNew r.contentModules
        externalPackages := ((lines.flatMap fun line => packageNames (code line)).filter
          s.isExternal).foldl addNew r.externalPackages } from H t.lines .empty
  intro lines
  induction lines with
  | nil => exact fun r => rfl
  | cons line lines ih =>
      intro r
      rw [List.foldl_cons, ih, scanLine, foldl_addContent, foldl_addPackage]
      simp only [List.flatMap_cons, List.filter_append, List.foldl_append]

end Scanner

namespace Scan

/-! ### The code of a line -/

theorem codeFrom_cons (b : Option Char) (c : Char) (line : Text) : codeFrom b (c :: line) =
    if c = '%' ∧ b ≠ some '\\' then [] else c :: codeFrom (some c) line := rfl

theorem codeFrom_isPrefix (b : Option Char) (line : Text) : codeFrom b line <+: line := by
  induction line generalizing b with
  | nil => exact List.prefix_rfl
  | cons c line ih =>
      rw [codeFrom_cons]
      split
      next => exact List.nil_prefix
      next => exact List.cons_prefix_cons.mpr ⟨rfl, ih _⟩

theorem code_isPrefix (line : Text) : code line <+: line :=
  codeFrom_isPrefix none line

theorem codeFrom_mono {l m : Text} (h : l <+: m) (b : Option Char) :
    codeFrom b l <+: codeFrom b m := by
  obtain ⟨r, rfl⟩ := h
  induction l generalizing b with
  | nil => exact List.nil_prefix
  | cons c l ih =>
      rw [List.cons_append, codeFrom_cons, codeFrom_cons]
      split
      next => exact List.nil_prefix
      next => exact List.cons_prefix_cons.mpr ⟨rfl, ih _⟩

theorem code_mono {l m : Text} (h : l <+: m) : code l <+: code m :=
  codeFrom_mono h none

/-- Text behind a line belongs to the code as far as it does after the line's last character,
unless the line has a comment already. -/
theorem codeFrom_append (b : Option Char) (l m : Text) : codeFrom b (l ++ m) =
    if codeFrom b l = l then l ++ codeFrom (Pattern.behind b l) m else codeFrom b l := by
  induction l generalizing b with
  | nil => rfl
  | cons c l ih =>
      rw [List.cons_append, codeFrom_cons, codeFrom_cons]
      split
      next => rfl
      next =>
        rw [ih, Pattern.behind_cons]
        simp only [List.cons.injEq, true_and]
        split
        · rfl
        · rfl

theorem code_append (l m : Text) : code (l ++ m) =
    if code l = l then l ++ codeFrom (Pattern.behind none l) m else code l :=
  codeFrom_append none l m

/-- A percent sign behind a line without a comment begins one, unless a backslash stands there. -/
theorem code_append_comment {l : Text} (h : code l = l) (hlast : l.getLast? ≠ some '\\')
    (comment : Text) : code (l ++ '%' :: comment) = l := by
  have hbehind : Pattern.behind none l ≠ some '\\' := by
    rwa [Pattern.behind, Option.or_none]
  rw [code_append, if_pos h, codeFrom_cons, if_pos ⟨rfl, hbehind⟩, List.append_nil]

/-- The code of a line loses at most a carriage return when the line is read again. -/
theorem code_reread (l : Text) : code l = code l.reread ∨ code l = code l.reread ++ ['\r'] := by
  rcases l.reread_cases with h | h
  · exact .inl (by rw [h])
  · have hcode : code l = code (l.reread ++ ['\r']) := congrArg code h
    rw [hcode, code_append]
    split
    next hall => exact .inr (by rw [hall]; rfl)
    next => exact .inl rfl

theorem ReadsCommands.findAll_reread {p : Pattern} {kind : Command → Prop}
    (hp : ReadsCommands p kind) (l : Text) : p.findAll (code l.reread) = p.findAll (code l) := by
  rcases code_reread l with h | h
  · rw [h]
  · rw [h, hp.findAll_append (by decide)]

theorem packageNames_reread (l : Text) :
    packageNames (code l.reread) = packageNames (code l) := by
  rw [packageNames, packageNames, readsCommands_packagePattern.findAll_reread]

theorem contentPaths_reread (l : Text) :
    contentPaths (code l.reread) = contentPaths (code l) := by
  rw [contentPaths, contentPaths, readsCommands_contentPattern.findAll_reread]

/-! ### Texts put together from lines -/

theorem declaredPackages_unlines_append {ls : List Text} (h : ∀ l ∈ ls, '\n' ∉ l) (t : Text) :
    declaredPackages (Text.unlines ls ++ t) =
      (ls.flatMap fun l => packageNames (code l)) ++ declaredPackages t := by
  rw [declaredPackages, Text.lines_unlines_append h, List.flatMap_append, List.flatMap_map]
  simp only [packageNames_reread, declaredPackages]

theorem declaredPackages_unlines {ls : List Text} (h : ∀ l ∈ ls, '\n' ∉ l) :
    declaredPackages (Text.unlines ls) = ls.flatMap fun l => packageNames (code l) := by
  rw [← List.append_nil (Text.unlines ls), declaredPackages_unlines_append h]
  exact List.append_nil _

theorem includedContent_unlines_append {ls : List Text} (h : ∀ l ∈ ls, '\n' ∉ l) (t : Text) :
    includedContent (Text.unlines ls ++ t) =
      (ls.flatMap fun l => contentPaths (code l)) ++ includedContent t := by
  rw [includedContent, Text.lines_unlines_append h, List.flatMap_append, List.flatMap_map]
  simp only [contentPaths_reread, includedContent]

end Scan

end Manuscript
