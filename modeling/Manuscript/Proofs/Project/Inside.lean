import Manuscript.Proofs.Disk.Directory
import Manuscript.Proofs.Project.Reporting

/-!
References that lead inside a project.

The file of such a reference is below the directory that references start from.
So a place where it comes to be expected is one where it was expected before, if
there was a file.
-/

namespace Manuscript

namespace Path

variable {p : Path} {before : List Text} {name suffix : Text}

/-- A suffix that is no separator goes to the last part. -/
theorem parts_append (hparts : p.parts = before ++ [name]) (hsuffix : '/' ∉ suffix) :
    parts ⟨p.text ++ suffix⟩ = before ++ [name ++ suffix] := by
  have hslash : ∀ part ∈ before ++ [name], '/' ∉ part := fun part hpart =>
    slash_not_mem_parts (hparts ▸ hpart)
  have hname : '/' ∉ name ++ suffix := by
    simp [hslash name (by simp), hsuffix]
  have htext := text_eq_joinWith p
  rw [hparts] at htext
  by_cases hbefore : before = []
  · subst hbefore
    rw [htext]
    exact parts_of_slash_not_mem hname
  · rw [htext, Text.joinWith_concat hbefore, List.append_assoc, List.append_assoc]
    change parts ⟨Text.joinWith ['/'] before ++ '/' :: (name ++ suffix)⟩ = _
    rw [parts_slash, parts_of_slash_not_mem hname,
      parts_joinWith hbefore fun part hpart => hslash part (by simp [hpart])]

theorem exists_parts (p : Path) : ∃ before name, p.parts = before ++ [name] := by
  obtain hnil | ⟨before, name, hparts⟩ := List.eq_nil_or_concat p.parts
  · exact absurd hnil (Text.splitBy_ne_nil _ _)
  · exact ⟨before, name, hparts.trans List.concat_eq_append⟩

theorem mem_components_of_mem_parts {part : Text} {c : Component} (hpart : part ∈ p.parts)
    (hc : component? part = some c) : c ∈ p.components := by
  have hbody : ∀ body : List Text, part ∈ body → c ∈ body.filterMap component? :=
    fun body hmem => List.mem_filterMap.mpr ⟨part, hmem, hc⟩
  have hempty : part ≠ [] := by
    rintro rfl
    cases hc
  have hdot : part ≠ ['.'] := by
    rintro rfl
    cases hc
  rw [components, lead]
  split
  next next body hparts =>
    rw [hparts] at hpart
    exact List.mem_append_right _ (hbody _ ((List.mem_cons.mp hpart).resolve_left hempty))
  next body hparts =>
    rw [hparts] at hpart
    exact List.mem_append_right _ (hbody _ ((List.mem_cons.mp hpart).resolve_left hdot))
  next => exact List.mem_append_right _ (hbody _ hpart)

theorem root_mem_components (h : p.isAbsolute = true) : .root ∈ p.components := by
  obtain ⟨part, body, hparts⟩ := isAbsolute_iff.mp h
  rw [components, lead, hparts]
  exact List.mem_append_left _ (List.mem_singleton_self _)

end Path

open Disk

namespace Reference

variable {r : Reference}

theorem slash_notMem_ending (kind : ReferenceKind) : '/' ∉ '.' :: kind.extension.toList := by
  cases kind with
  | stylePackage => decide
  | contentModule => decide

/-- With an ending the last part is a name, whatever it was. -/
theorem component?_ending (name : Text) (kind : ReferenceKind) :
    Path.component? (name ++ '.' :: kind.extension.toList) =
      some (.normal (name ++ '.' :: kind.extension.toList)) := by
  have hlong : 4 ≤ (name ++ '.' :: kind.extension.toList).length := by
    rw [List.length_append, List.length_cons, kind.length_extension]
    exact Nat.le_add_left ..
  refine Path.component?_eq_normal_iff.mpr ⟨?_, ?_, ?_⟩ <;> intro heq <;> simp [heq] at hlong

theorem exists_parts_fileName (h : ¬r.IsSpelledOut) :
    ∃ before name, (Path.ofString r.path).parts = before ++ [name] ∧
      r.fileName.parts = before ++ [name ++ '.' :: r.kind.extension.toList] := by
  obtain ⟨before, name, hparts⟩ := (Path.ofString r.path).exists_parts
  rw [fileName_of_not_isSpelledOut h]
  exact ⟨before, name, hparts, Path.parts_append hparts (slash_notMem_ending r.kind)⟩

theorem exists_name_fileName (r : Reference) :
    ∃ name ∈ r.fileName.parts, Path.component? name = some (.normal name) := by
  by_cases h : r.IsSpelledOut
  · rw [fileName_of_isSpelledOut h]
    cases hname : (Path.ofString r.path).fileName? with
    | none => simp [IsSpelledOut, Path.extension?, hname] at h
    | some name =>
        exact ⟨name, Path.mem_parts_of_mem_components (Path.mem_components_of_fileName? hname)⟩
  · obtain ⟨before, name, -, hparts⟩ := exists_parts_fileName h
    exact ⟨_, by simp [hparts], component?_ending name r.kind⟩

theorem parent_notMem_parts (h : Stub.isInside r.path = true) : ['.', '.'] ∉ r.fileName.parts := by
  have hup : ['.', '.'] ∉ (Path.ofString r.path).parts := fun hmem => by
    simpa using List.all_eq_true.mp h _ (Path.mem_components_of_mem_parts hmem rfl)
  by_cases hspelled : r.IsSpelledOut
  · rwa [fileName_of_isSpelledOut hspelled]
  · obtain ⟨before, name, hbefore, hparts⟩ := exists_parts_fileName hspelled
    rw [hparts, List.mem_append, List.mem_singleton, not_or]
    refine ⟨fun hmem => hup (hbefore ▸ List.mem_append_left _ hmem), fun heq => ?_⟩
    exact (Path.component?_eq_normal_iff.mp (component?_ending name r.kind)).2.2 heq.symm

theorem goesDown_fileName (h : Stub.isInside r.path = true) : GoesDown r.fileName where
  relative := by
    rw [isAbsolute_fileName]
    by_contra hroot
    simpa using List.all_eq_true.mp h _ (Path.root_mem_components (by simpa using hroot))
  names_ne_nil := by
    obtain ⟨name, hpart, hname⟩ := r.exists_name_fileName
    have hne := (Path.component?_eq_normal_iff.mp hname).1
    exact List.ne_nil_of_mem (List.mem_filter.mpr ⟨hpart, by simpa using hne⟩)
  down hmem := parent_notMem_parts h (List.mem_of_mem_filter hmem)

end Reference

variable {d d₁ : Disk} {base : Path} {loc l : Location} {r : Reference}

/-- Where a placeholder comes to be written there was no file. -/
theorem Stub.file?_eq_none (h : d.LinkFree) (hd : d.Extends d₁) (hbase : d.Enters base loc)
    (hinside : isInside r.path = true) (hmissing : d.holdsFile (r.expectedPath base) = false)
    (hleads : d₁.LeadsTo (r.expectedPath base) l) : d.file? l = none := by
  by_contra hfile
  have hbefore := h.leadsTo_of_later hd hbase (Reference.goesDown_fileName hinside) hleads hfile
  have hholds : d.holdsFile (r.expectedPath base) = true := h.holdsFile_of_leadsTo hbefore hfile
  cases hmissing.symm.trans hholds

end Manuscript
