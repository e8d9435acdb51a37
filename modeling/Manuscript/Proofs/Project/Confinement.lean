import Manuscript.Proofs.Project.Inside
import Manuscript.Proofs.Project.Stubbing

/-!
Placeholders below the directory of the project.

Whether a reference leads inside is read off the path it declares, but the
placeholder is written elsewhere: at that path with an ending that it may have
got, behind the directory. A relative path adds its components behind those of
what it is joined to. An ending makes a name of the last part, whatever that
was, and leaves the others as they are. So behind the components of the
directory there are only names and `.`.
-/

namespace Manuscript

namespace Path

variable {p q : Path} {first part : Text} {rest : List Text} {c : Component}

/-- The component that the first part of a path is, unless there is nothing else. -/
def firstComponent? (part : Text) : Option Component :=
  if part = [] then some .root
  else if part = ['.'] then some .current
  else component? part

theorem components_cons (hparts : p.parts = first :: rest) (hspelled : p.text ≠ []) :
    p.components = (firstComponent? first).toList ++ rest.filterMap component? := by
  rw [components, lead, hparts, firstComponent?]
  by_cases hroot : first = []
  · subst hroot
    cases rest with
    | nil => exact absurd ((text_eq_joinWith p).trans (by rw [hparts]; rfl)) hspelled
    | cons part body => rfl
  · by_cases hcurrent : first = ['.']
    · subst hcurrent
      rfl
    · simp only [hroot, hcurrent, if_false]
      cases hfirst : component? first with
      | none => simp [hroot, hcurrent, hfirst]
      | some c => simp [hroot, hcurrent, hfirst]

theorem components_of_text_eq_nil (h : p.text = []) : p.components = [] := by
  obtain ⟨t⟩ := p
  cases h
  rfl

/-- A relative path adds its components behind those of what it is joined to. -/
theorem components_join (hrelative : q.isAbsolute = false) : (p.join q).components =
    if p.text = [] then q.components else p.components ++ q.parts.filterMap component? := by
  rw [join, if_neg (by simp [hrelative])]
  split_ifs with hjoin hnil hnil
  · rw [hnil, List.nil_append]
  · obtain ⟨t, ht⟩ := List.getLast?_eq_some_iff.mp (hjoin.resolve_left hnil)
    obtain ⟨first, rest, hfirst⟩ :=
      List.exists_cons_of_ne_nil (Text.splitBy_ne_nil (· == '/') t)
    -- the empty part behind the last separator gives way to the parts that come
    have hp : p.parts = first :: (rest ++ [[]]) := by
      have hslash := parts_slash t []
      rw [← ht] at hslash
      exact hslash.trans (congrArg (· ++ [[]]) hfirst)
    have hq : parts ⟨p.text ++ q.text⟩ = first :: (rest ++ q.parts) := by
      rw [ht, List.append_assoc, List.singleton_append, parts_slash]
      exact congrArg (· ++ q.parts) hfirst
    rw [components_cons hq (by simp [hnil]), components_cons hp hnil, List.filterMap_append,
      List.filterMap_append, List.append_assoc, List.append_assoc]
    rfl
  · exact absurd (.inl hnil) hjoin
  · obtain ⟨first, rest, hp⟩ := List.exists_cons_of_ne_nil (Text.splitBy_ne_nil (· == '/') p.text)
    have hq : parts ⟨p.text ++ '/' :: q.text⟩ = first :: (rest ++ q.parts) := by
      rw [parts_slash]
      exact congrArg (· ++ q.parts) hp
    rw [components_cons hq (by simp), components_cons hp hnil, List.filterMap_append,
      List.append_assoc]

/-- A part other than the parent's is a name if it is a component. -/
theorem eq_normal_of_component? (hne : part ≠ ['.', '.']) (h : component? part = some c) :
    c = .normal part := by
  rw [component?, if_neg hne] at h
  split at h
  next => cases h
  next => exact (Option.some.inj h).symm

end Path

namespace Reference

variable {r : Reference}

/-- Behind the components of the directory the file of a reference inside has names and `.`. -/
theorem components_expectedPath (h : Stub.isInside r.path = true) (base : Path) :
    ∃ rest, (r.expectedPath base).components = base.components ++ rest ∧
      (∀ c ∈ rest, c = .current ∨ ∃ name, c = .normal name) ∧ ∃ name, .normal name ∈ rest := by
  have hdown := goesDown_fileName h
  have hnormal : ∀ part ∈ r.fileName.parts, ∀ c, Path.component? part = some c →
      ∃ name, c = .normal name := by
    intro part hpart c hc
    refine ⟨part, Path.eq_normal_of_component? (fun heq => ?_) hc⟩
    exact parent_notMem_parts h (heq ▸ hpart)
  obtain ⟨name, hpart, hname⟩ := r.exists_name_fileName
  rw [expectedPath, Path.components_join hdown.relative]
  split
  next hempty =>
    refine ⟨r.fileName.components, by rw [Path.components_of_text_eq_nil hempty, List.nil_append],
      fun c hc => ?_, name, Path.mem_components_of_mem_parts hpart hname⟩
    obtain ⟨-, habsolute⟩ | hcurrent | ⟨part, hpart, hc⟩ := Path.mem_components hc
    · cases habsolute.symm.trans hdown.relative
    · exact .inl hcurrent
    · exact .inr (hnormal part hpart c hc)
  next =>
    refine ⟨_, rfl, fun c hc => ?_, name, List.mem_filterMap.mpr ⟨name, hpart, hname⟩⟩
    obtain ⟨part, hpart, hc⟩ := List.mem_filterMap.mp hc
    exact .inr (hnormal part hpart c hc)

end Reference

namespace Stub

/-- A placeholder is written, or tried, behind the components of the directory that its reference
starts from, unless the reference is refused; then nothing is touched. -/
theorem generate_stays_inside (date : String) (base : Path) (r : Reference) (d : Disk) :
    let m : MissingFile := ⟨r, r.expectedPath base⟩
    (∀ references before, ∀ missing ∈ (Resolution.resolve base references before).missing,
        missing.reference = r → missing = m) ∧
      ((∀ path, (generate date m d).1 ≠ .error (.unsafePath path)) →
        ∃ p rest, p.components = base.components ++ rest ∧
          (∀ c ∈ rest, c = .current ∨ ∃ name, c = .normal name) ∧ (∃ name, .normal name ∈ rest) ∧
          (generate date m d).2 = (d.storeText p (text date r).toList).2 ∧
          ((generate date m d).1 = .ok p ∨
            ∃ reason, (generate date m d).1 = .error (.writeFailed p reason))) ∧
      ((Path.ofString r.path).isAbsolute = true ∨ .parent ∈ (Path.ofString r.path).components →
        generate date m d = (.error (.unsafePath r.path), d)) := by
  intro m
  refine ⟨fun references before missing hmissing hr => ?_, fun hsafe => ?_, fun hleaves => ?_⟩
  · obtain ⟨-, hexpected, -⟩ := Resolution.mem_missing_resolve hmissing
    subst hr
    obtain ⟨reference, expectedPath⟩ := missing
    exact congrArg (MissingFile.mk reference) hexpected
  · by_cases hinside : isInside r.path = true
    · obtain ⟨rest, hcomponents, hrest, hname⟩ := r.components_expectedPath hinside base
      refine ⟨m.expectedPath, rest, hcomponents, hrest, hname, ?_⟩
      rw [generate, if_neg (by simp [m, hinside])]
      cases d.storeText m.expectedPath (text date r).toList with
      | mk result d₁ =>
          cases result with
          | ok u => exact ⟨rfl, .inl rfl⟩
          | error e => exact ⟨rfl, .inr ⟨e.message, rfl⟩⟩
    · refine absurd ?_ (hsafe r.path)
      rw [generate, if_pos (by simpa [m] using hinside)]
  · have hinside : isInside r.path = false := by
      rw [isInside, List.all_eq_false]
      obtain hroot | hparent := hleaves
      · exact ⟨_, Path.root_mem_components hroot, by simp⟩
      · exact ⟨_, hparent, by simp⟩
    rw [generate, if_pos (by simp [m, hinside])]

theorem generate_stays_inside_bareProject :
    let base := Path.ofString "."
    let inside : Reference := ⟨"parts//./intro", .contentModule⟩
    let outside : Reference := ⟨"parts/../../intro", .contentModule⟩
    let written := generate "2024/05/01" ⟨inside, inside.expectedPath base⟩ bareProject
    written.1 = .ok (.ofString "./parts//./intro.tex") ∧
      (∃ p rest, p.components = base.components ++ rest ∧
        (∀ c ∈ rest, c = .current ∨ ∃ name, c = .normal name) ∧ (∃ name, .normal name ∈ rest) ∧
        written.2 = (bareProject.storeText p (text "2024/05/01" inside).toList).2 ∧
        (written.1 = .ok p ∨ ∃ reason, written.1 = .error (.writeFailed p reason))) ∧
      .parent ∈ (Path.ofString outside.path).components ∧
      generate "2024/05/01" ⟨outside, outside.expectedPath base⟩ bareProject =
        (.error (.unsafePath outside.path), bareProject) := by
  intro base inside outside written
  have hwritten : written.1 = .ok (.ofString "./parts//./intro.tex") := by decide +kernel
  have hparent : .parent ∈ (Path.ofString outside.path).components := by decide +kernel
  obtain ⟨-, hinside, -⟩ := generate_stays_inside "2024/05/01" base inside bareProject
  obtain ⟨-, -, hleaves⟩ := generate_stays_inside "2024/05/01" base outside bareProject
  refine ⟨hwritten, hinside fun path herror => ?_, hparent, hleaves (.inr hparent)⟩
  cases hwritten.symm.trans herror

end Stub

end Manuscript
