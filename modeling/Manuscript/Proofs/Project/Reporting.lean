import Manuscript.Project.Files
import Manuscript.Proofs.Lists.Distinct

/-!
What a resolution reports.

A resolution looks for the file of each reference once. References are told
apart by what is declared, but files by where they are expected, and a
declaration may spell out the extension that another one leaves to its kind.
So an absent path is reported as often as different references ask for it.
-/

namespace Manuscript

theorem Path.join_inj {base p q : Path} (h : p.isAbsolute = q.isAbsolute) :
    base.join p = base.join q ↔ p = q := by
  refine ⟨fun hjoin => ?_, fun hpq => hpq ▸ rfl⟩
  rw [join, join, ← h] at hjoin
  split at hjoin
  next => exact hjoin
  next =>
    split at hjoin
    next => exact congrArg Path.mk (by simpa using hjoin)
    next => exact congrArg Path.mk (by simpa using hjoin)

namespace ReferenceKind

theorem length_extension (k : ReferenceKind) : k.extension.toList.length = 3 := by
  cases k <;> exact congrArg List.length String.toList_ofList

theorem extension_inj {k l : ReferenceKind} (h : k.extension = l.extension) : k = l := by
  cases k <;> cases l <;> simp [extension] at h ⊢

end ReferenceKind

namespace Reference

/-- The declaration spells out the extension of the file. -/
def IsSpelledOut (r : Reference) : Prop :=
  (Path.ofString r.path).extension?.isSome = true

/-- The other reference declares the file of this one by its name, extension included. -/
def NamedBy (r s : Reference) : Prop :=
  s.IsSpelledOut ∧ Path.ofString s.path = r.fileName

theorem fileName_of_isSpelledOut {r : Reference} (h : r.IsSpelledOut) :
    r.fileName = Path.ofString r.path :=
  if_pos h

theorem fileName_of_not_isSpelledOut {r : Reference} (h : ¬r.IsSpelledOut) :
    r.fileName = ⟨r.path.toList ++ '.' :: r.kind.extension.toList⟩ :=
  if_neg h

/-- References share a file name only if one of them names the file of the other. -/
theorem fileName_eq_iff {r s : Reference} :
    r.fileName = s.fileName ↔ r = s ∨ r.NamedBy s ∨ s.NamedBy r := by
  constructor
  · intro h
    by_cases hs : s.IsSpelledOut
    · exact .inr (.inl ⟨hs, by rw [h, fileName_of_isSpelledOut hs]⟩)
    by_cases hr : r.IsSpelledOut
    · exact .inr (.inr ⟨hr, by rw [← h, fileName_of_isSpelledOut hr]⟩)
    rw [fileName_of_not_isSpelledOut hr, fileName_of_not_isSpelledOut hs, Path.mk.injEq] at h
    obtain ⟨hpath, hextension⟩ := List.append_inj' h (by simp [ReferenceKind.length_extension])
    have hkind := ReferenceKind.extension_inj (String.toList_inj.mp (List.cons.inj hextension).2)
    have hdeclared := String.toList_inj.mp hpath
    cases r
    cases s
    cases hdeclared
    cases hkind
    exact .inl rfl
  · rintro (rfl | ⟨hs, hname⟩ | ⟨hr, hname⟩)
    · rfl
    · rw [← hname, fileName_of_isSpelledOut hs]
    · rw [fileName_of_isSpelledOut hr, hname]

theorem isAbsolute_fileName (r : Reference) :
    r.fileName.isAbsolute = (Path.ofString r.path).isAbsolute := by
  by_cases h : r.IsSpelledOut
  · rw [fileName_of_isSpelledOut h]
  · rw [fileName_of_not_isSpelledOut h, Path.isAbsolute, Path.isAbsolute, Path.ofString]
    cases r.path.toList <;> rfl

/-- References share an expected path only if one of them names the file of the other, or one path
is absolute and the other is not. -/
theorem expectedPath_eq_iff {r s : Reference}
    (h : (Path.ofString r.path).isAbsolute = (Path.ofString s.path).isAbsolute) (base : Path) :
    r.expectedPath base = s.expectedPath base ↔ r = s ∨ r.NamedBy s ∨ s.NamedBy r := by
  rw [← r.isAbsolute_fileName, ← s.isAbsolute_fileName] at h
  rw [expectedPath, expectedPath, Path.join_inj h, fileName_eq_iff]

end Reference

namespace Resolution

variable {α : Type} [DecidableEq α] (place : Path → α) (base : Path)
  (references : List Reference) (d : Disk)

def absent : List Reference :=
  references.filter fun x => !d.holdsFile (x.expectedPath base)

theorem missing_eq : (resolve base references d).missing =
    (absent base references d).eraseDups.map fun x => ⟨x, x.expectedPath base⟩ := by
  rw [absent, ← filter_eraseDups]
  rfl

/-- The distinct references, each with its record. -/
theorem zip_records : references.eraseDups.zip (resolve base references d).records =
    references.eraseDups.map fun x =>
      (x, ⟨x.expectedPath base, d.holdsFile (x.expectedPath base)⟩) := by
  rw [resolve, ofReferences]
  exact (congrArg (List.zip · _) (List.map_id _).symm).trans List.zip_map'

/-- No two references are expected at one absent place. -/
def Apart : Prop :=
  ∀ x ∈ absent base references d, ∀ y ∈ absent base references d,
    place (x.expectedPath base) = place (y.expectedPath base) → x = y

/-- What a resolution says of references, if paths are told apart by their places. -/
structure Reports (r : Resolution) : Prop where
  /-- The paths reported are the absent ones, in the order in which they occur first. -/
  paths : (r.missing.map fun m => place m.expectedPath).eraseDups =
    ((absent base references d).map fun x => place (x.expectedPath base)).eraseDups
  nodup_iff : (r.missing.map fun m => place m.expectedPath).Nodup ↔ Apart place base references d
  /-- There is one record for each distinct reference, in the order in which these occur first. -/
  records : r.records.map (·.path) = references.eraseDups.map (·.expectedPath base)
  found : ∀ record ∈ r.records, record.found = d.holdsFile record.path
  /-- What is missing is what the records do not say is found. -/
  missing : r.missing = ((references.eraseDups.zip r.records).filter (!·.2.found)).map fun x =>
    ⟨x.1, x.2.path⟩

theorem Reports.of_resolve : Reports place base references d (resolve base references d) := by
  have hmissing := missing_eq base references d
  refine ⟨?_, ?_, ?_, fun record hrecord => ?_, ?_⟩
  · rw [hmissing, List.map_map]
    exact eraseDups_map_eraseDups _ _
  · rw [hmissing, List.map_map, List.nodup_map_iff_inj_on (nodup_eraseDups _)]
    simp only [List.mem_eraseDups]
    rfl
  · rw [resolve, ofReferences, List.map_map]
    rfl
  · obtain ⟨x, -, rfl⟩ := List.mem_map.mp hrecord
    rfl
  · rw [zip_records, List.filter_map, List.map_map]
    rfl

/-- A resolution reports the absent paths in the order in which they occur first. It reports each of
them once, exactly if no two references are expected at one absent path, which they are only if one
names the file of the other, extension included. -/
theorem resolve_reports :
    Reports place base references d (resolve base references d) ∧
      (Apart place base references d →
        ((resolve base references d).missing.map fun m => place m.expectedPath) =
          ((absent base references d).map fun x => place (x.expectedPath base)).eraseDups) ∧
      ∀ x y : Reference,
        (Path.ofString x.path).isAbsolute = (Path.ofString y.path).isAbsolute →
        (x.expectedPath base = y.expectedPath base ↔ x = y ∨ x.NamedBy y ∨ y.NamedBy x) := by
  have hreports := Reports.of_resolve place base references d
  refine ⟨hreports, fun hapart => ?_, fun x y h => Reference.expectedPath_eq_iff h base⟩
  rw [← hreports.paths]
  exact (eraseDups_eq_self_iff.mpr (hreports.nodup_iff.mpr hapart)).symm

def oneChapter : Disk :=
  .ofTree ["w".toList] [(["w".toList, "one.tex".toList], .file [] false)]

def chapterReferences : List Reference :=
  [⟨"two", .stylePackage⟩, ⟨"one.tex", .contentModule⟩, ⟨"two", .contentModule⟩,
    ⟨"one", .contentModule⟩, ⟨"two", .stylePackage⟩]

theorem resolve_reports_chapters :
    let r := resolve (.ofString ".") chapterReferences oneChapter
    Apart Path.components (.ofString ".") chapterReferences oneChapter ∧
      r.records.map (·.found) = [false, true, false, true] ∧
      (r.missing.map fun m => m.expectedPath.components) =
        [.ofString "two.sty", .ofString "two.tex"].map (.current :: Path.components ·) := by
  intro r
  have hdecided : Apart Path.components (.ofString ".") chapterReferences oneChapter ∧
      r.records.map (·.found) = [false, true, false, true] ∧
      ((absent (.ofString ".") chapterReferences oneChapter).map fun x =>
        (x.expectedPath (.ofString ".")).components).eraseDups =
        [.ofString "two.sty", .ofString "two.tex"].map (.current :: Path.components ·) := by
    unfold Apart
    decide +kernel
  obtain ⟨hapart, hfound, hpaths⟩ := hdecided
  refine ⟨hapart, hfound, ?_⟩
  rw [← hpaths]
  exact (resolve_reports Path.components (.ofString ".") chapterReferences oneChapter).2.1 hapart

/-- The extension of a chapter is left to its kind, and then it is written. -/
def twiceDeclared : List Reference :=
  [⟨"two", .contentModule⟩, ⟨"two.tex", .contentModule⟩]

/-- Its path is reported twice. -/
theorem resolve_repeats_path :
    let r := resolve (.ofString ".") twiceDeclared oneChapter
    (r.missing.map (·.expectedPath)) = [.ofString "./two.tex", .ofString "./two.tex"] ∧
      ¬(r.missing.map (·.expectedPath)).Nodup := by
  decide +kernel

end Resolution

end Manuscript
