import Manuscript.Proofs.Scan.Declared

/-!
Scanning a text in parts.

A scan reads each line by itself and keeps what it has found at its first
sight. So two texts with a line feed between them are scanned one after the
other, and a comment that is put behind a line of code is not read.
-/

namespace Manuscript

namespace Scan

/-- What is found in a text and another one behind it, from what is found in each. -/
def Result.followedBy (r later : Result) : Result where
  stylePackages := r.stylePackages ++ later.stylePackages.filter (· ∉ r.stylePackages)
  contentModules := r.contentModules ++ later.contentModules.filter (· ∉ r.contentModules)
  externalPackages := r.externalPackages ++ later.externalPackages.filter (· ∉ r.externalPackages)

/-- Nothing is listed twice, and no package under both kinds. -/
structure Result.Distinct (r : Result) : Prop where
  stylePackages : r.stylePackages.Nodup
  contentModules : r.contentModules.Nodup
  externalPackages : r.externalPackages.Nodup
  apart : r.stylePackages.Disjoint r.externalPackages

theorem packageNames_nil : packageNames (code []) = [] := by
  rw [packageNames, show code [] = [] from rfl, readsCommands_packagePattern.findAll_nil]
  rfl

theorem contentPaths_nil : contentPaths (code []) = [] := by
  rw [contentPaths, show code [] = [] from rfl, readsCommands_contentPattern.findAll_nil]
  rfl

theorem commentStart?_eq_none_iff {l : Text} : commentStart? l = none ↔ code l = l := by
  rw [commentStart?]
  split <;> simp [*]

theorem declaredPackages_append_newline (a b : Text) :
    declaredPackages (a ++ '\n' :: b) = declaredPackages a ++ declaredPackages b :=
  Text.flatMap_lines_append_newline (f := fun l => packageNames (code l)) packageNames_reread
    packageNames_nil a b

theorem includedContent_append_newline (a b : Text) :
    includedContent (a ++ '\n' :: b) = includedContent a ++ includedContent b :=
  Text.flatMap_lines_append_newline (f := fun l => contentPaths (code l)) contentPaths_reread
    contentPaths_nil a b

section

variable {before l m after : Text} (hbefore : Text.AtLineStart before)
  (hafter : Text.AtLineEnd after) (hl : '\n' ∉ l) (hm : '\n' ∉ m) (hcode : code l = code m)
include hbefore hafter hl hm hcode

theorem declaredPackages_congr_line :
    declaredPackages (before ++ (l ++ after)) = declaredPackages (before ++ (m ++ after)) := by
  have hread := @Text.flatMap_lines_around _ (fun l => packageNames (code l)) packageNames_reread
    packageNames_nil
  rw [declaredPackages, declaredPackages, hread hbefore hafter hl, hread hbefore hafter hm, hcode]

theorem includedContent_congr_line :
    includedContent (before ++ (l ++ after)) = includedContent (before ++ (m ++ after)) := by
  have hread := @Text.flatMap_lines_around _ (fun l => contentPaths (code l)) contentPaths_reread
    contentPaths_nil
  rw [includedContent, includedContent, hread hbefore hafter hl, hread hbefore hafter hm, hcode]

end

end Scan

namespace Scanner

open Scan

theorem scan_append_newline (s : Scanner) (a b : Text) :
    s.scan (a ++ '\n' :: b) = (s.scan a).followedBy (s.scan b) := by
  simp only [scan_eq, declaredPackages_append_newline, includedContent_append_newline,
    List.filter_append, firstSeen_eq, eraseDups_append, Result.followedBy]

theorem scan_distinct (s : Scanner) (t : Text) : (s.scan t).Distinct := by
  rw [scan_eq]
  simp only [firstSeen_eq]
  refine ⟨nodup_eraseDups _, nodup_eraseDups _, nodup_eraseDups _, fun name hstyle hexternal => ?_⟩
  have hnot := (List.mem_filter.mp (List.mem_eraseDups.mp hstyle)).2
  rw [(List.mem_filter.mp (List.mem_eraseDups.mp hexternal)).2] at hnot
  exact absurd hnot (by decide)

/-- A scan reads texts on both sides of a line feed one after the other and lists nothing twice.
A comment put behind a line that has none, and that ends in no backslash, changes nothing. -/
theorem scan_composes (s : Scanner) :
    (∀ a b, s.scan (a ++ '\n' :: b) = (s.scan a).followedBy (s.scan b)) ∧
      (∀ t, (s.scan t).Distinct) ∧
      ∀ before l comment after, Text.AtLineStart before → Text.AtLineEnd after → '\n' ∉ l →
        '\n' ∉ comment → commentStart? l = none → l.getLast? ≠ some '\\' →
        s.scan (before ++ (l ++ '%' :: comment ++ after)) = s.scan (before ++ (l ++ after)) := by
  refine ⟨s.scan_append_newline, s.scan_distinct, ?_⟩
  intro before l comment after hbefore hafter hl hcomment hnone hlast
  have hall := commentStart?_eq_none_iff.mp hnone
  have hcode : code (l ++ '%' :: comment) = code l := by
    rw [code_append_comment hall hlast, hall]
  have hline : '\n' ∉ l ++ '%' :: comment := by simp [hl, hcomment]
  rw [scan_eq, scan_eq, declaredPackages_congr_line hbefore hafter hline hl hcode,
    includedContent_congr_line hbefore hafter hline hl hcode]

theorem scan_composes_returns :
    let s : Scanner := { external := ["b"] }
    let before := "\\usepackage\x7ba,b\x7d\r\n".toList
    let l := "50\\% \\input\x7bc\x7d".toList
    let comment := " \\input\x7bd\x7d\r".toList
    let after := "\r\n\\usepackage\x7bb\x7d\\input\x7bc\x7d".toList
    Text.AtLineStart before ∧ Text.AtLineEnd after ∧ '\n' ∉ l ∧ '\n' ∉ comment ∧
      commentStart? l = none ∧ l.getLast? ≠ some '\\' ∧
      s.scan (before ++ (l ++ '%' :: comment ++ after)) = ⟨["a"], ["c"], ["b"]⟩ := by
  intro s before l comment after
  have hbefore : Text.AtLineStart before := .inr (by decide)
  have hafter : Text.AtLineEnd after := .inr (.inr (by decide))
  obtain ⟨hl, hcomment, hnone, hlast, hscanned⟩ : '\n' ∉ l ∧ '\n' ∉ comment ∧
      commentStart? l = none ∧ l.getLast? ≠ some '\\' ∧
      s.scan (before ++ (l ++ after)) = ⟨["a"], ["c"], ["b"]⟩ := by
    -- the kernel is slow to decode a literal, so the texts are spelled out first
    rw [show before = _ from String.toList_ofList, show l = _ from String.toList_ofList,
      show comment = _ from String.toList_ofList, show after = _ from String.toList_ofList]
    decide +kernel
  refine ⟨hbefore, hafter, hl, hcomment, hnone, hlast, ?_⟩
  rw [s.scan_composes.2.2 before l comment after hbefore hafter hl hcomment hnone hlast, hscanned]

end Scanner

end Manuscript
