import Manuscript.Project.Files
import Manuscript.Proofs.Lists.Distinct

/-!
Packages that turn out to come with the distribution.

`r.providing names` is the resolution in which packages have gone from the
missing ones to the provided ones. Marking packages one after the other comes to
this, as long as each of them is missing when its turn comes.

`r.markAll names` is what becomes of any resolution and any names, missing or
not. Every entry of the packages goes, however many there are, but a name comes
to the provided ones at most once. In a resolution that comes from references no
package has two entries, so that none is lost.
-/

namespace Manuscript

theorem MissingFile.any_isPackage_iff {m : MissingFile} {names : List String} :
    names.any m.isPackage = true ↔
      m.reference.kind = .stylePackage ∧ m.reference.path ∈ names := by
  simp only [List.any_eq_true, isPackage, decide_eq_true_eq]
  exact ⟨fun ⟨_, hmem, hkind, hpath⟩ => ⟨hkind, hpath ▸ hmem⟩,
    fun ⟨hkind, hmem⟩ => ⟨_, hmem, hkind, rfl⟩⟩

namespace Resolution

variable {r : Resolution} {name : String} {names : List String}

def providing (r : Resolution) (names : List String) : Resolution :=
  { r with
    missing := r.missing.filter fun m => !names.any m.isPackage
    provided := r.provided ++ names }

@[simp] theorem providing_nil (r : Resolution) : r.providing [] = r := by
  have hall : (r.missing.filter fun m => !List.any [] m.isPackage) = r.missing :=
    List.filter_eq_self.mpr fun _ _ => rfl
  rw [providing, hall, List.append_nil]

theorem mem_missingPackages :
    name ∈ r.missingPackages ↔ ∃ m ∈ r.missing, m.isPackage name = true := by
  simp only [missingPackages, MissingFile.isPackage, List.mem_map, List.mem_filter,
    decide_eq_true_eq, and_assoc]

/-- Marking a missing package moves it behind the packages that are provided. -/
theorem providing_markProvided (hmissing : name ∈ r.missingPackages) (hnew : name ∉ r.provided)
    (names : List String) :
    (r.markProvided name).providing names = r.providing (name :: names) := by
  have hlacks : r.lacksPackage name = true := List.any_eq_true.mpr (mem_missingPackages.mp hmissing)
  simp only [providing, markProvided, hlacks, List.filter_filter, List.any_cons, Bool.not_or,
    Bool.true_and, mk.injEq, true_and]
  constructor
  · exact List.filter_congr fun m _ => Bool.and_comm _ _
  · simp [hnew]

theorem provided_markProvided (hmissing : name ∈ r.missingPackages) (hnew : name ∉ r.provided) :
    (r.markProvided name).provided = r.provided ++ [name] := by
  rw [← (r.markProvided name).providing_nil, providing_markProvided hmissing hnew, providing]

theorem missingPackages_resolve (base : Path) (references : List Reference) (d : Disk) :
    (resolve base references d).missingPackages =
      (references.eraseDups.filter fun r =>
        r.kind = .stylePackage && !d.holdsFile (r.expectedPath base)).map (·.path) := by
  simp only [missingPackages, resolve, ofReferences, List.filter_map, List.map_map,
    List.filter_filter]
  rfl

theorem nodup_missingPackages (base : Path) (references : List Reference) (d : Disk) :
    (resolve base references d).missingPackages.Nodup := by
  rw [missingPackages_resolve]
  refine List.pairwise_map.mpr (((nodup_eraseDups references).filter _).imp_of_mem ?_)
  intro r s hr hs hne hpath
  simp only [List.mem_filter, Bool.and_eq_true, decide_eq_true_eq] at hr hs
  -- packages of one path are one reference
  have hkind : r.kind = s.kind := hr.2.1.trans hs.2.1.symm
  cases r
  cases s
  exact hne (by simp_all)

/-! ### Any names in any resolution -/

def markAll (r : Resolution) (names : List String) : Resolution :=
  names.foldl markProvided r

/-- The names whose marking removed an entry although they were not provided, in order. -/
def gained (r : Resolution) (names : List String) : List String :=
  (names.zipIdx.filter fun call =>
    let s := r.markAll (names.take call.2)
    (s.markProvided call.1).missing.length ≠ s.missing.length ∧ call.1 ∉ s.provided).map Prod.fst

@[simp] theorem markAll_nil (r : Resolution) : r.markAll [] = r := rfl

theorem markAll_concat (r : Resolution) (names : List String) (name : String) :
    r.markAll (names ++ [name]) = (r.markAll names).markProvided name :=
  List.foldl_concat ..

theorem lacksPackage_iff : r.lacksPackage name = true ↔ name ∈ r.missingPackages := by
  rw [lacksPackage, List.any_eq_true, mem_missingPackages]

theorem missingPackages_markProvided (r : Resolution) (name : String) :
    (r.markProvided name).missingPackages = r.missingPackages.filter (· ≠ name) := by
  rw [missingPackages, missingPackages, markProvided, List.filter_map, List.filter_filter,
    List.filter_filter]
  refine congrArg _ (List.filter_congr fun m _ => ?_)
  by_cases hkind : m.reference.kind = .stylePackage
  · simp [MissingFile.isPackage, hkind]
  · simp [hkind]

theorem length_missing_markProvided (r : Resolution) (name : String) :
    r.missing.length = (r.markProvided name).missing.length + r.missingPackages.count name := by
  have hcount : r.missingPackages.count name = r.missing.countP (·.isPackage name) := by
    rw [missingPackages, List.count, List.countP_map, List.countP_filter]
    refine List.countP_congr fun m _ => ?_
    simp [MissingFile.isPackage, and_comm]
  rw [hcount, markProvided, ← List.countP_eq_length_filter, Nat.add_comm,
    List.length_eq_countP_add_countP fun m : MissingFile => m.isPackage name]
  exact congrArg _ (List.countP_congr fun m _ => by simp)

theorem lacksPackage_iff_length_ne : r.lacksPackage name = true ↔
    (r.markProvided name).missing.length ≠ r.missing.length := by
  have hlength := r.length_missing_markProvided name
  rw [lacksPackage_iff, ← List.count_pos_iff]
  omega

theorem missing_markAll (r : Resolution) (names : List String) :
    (r.markAll names).missing = r.missing.filter fun m => !names.any m.isPackage := by
  induction names using List.reverseRecOn with
  | nil => exact (List.filter_eq_self.mpr fun _ _ => rfl).symm
  | append_singleton names name ih =>
      rw [markAll_concat, markProvided, ih, List.filter_filter]
      refine List.filter_congr fun m _ => ?_
      simp [Bool.and_comm]

theorem records_markAll (r : Resolution) (names : List String) :
    (r.markAll names).records = r.records := by
  induction names using List.reverseRecOn with
  | nil => rfl
  | append_singleton names name ih => rw [markAll_concat, markProvided, ih]

theorem gained_concat (r : Resolution) (names : List String) (name : String) :
    r.gained (names ++ [name]) = r.gained names ++
      if (r.markAll names).lacksPackage name && !(r.markAll names).provided.contains name then
        [name]
      else [] := by
  have hearlier : ∀ call ∈ names.zipIdx, (names ++ [name]).take call.2 = names.take call.2 := by
    intro call hcall
    exact List.take_append_of_le_length (Nat.le_of_lt (List.snd_lt_of_mem_zipIdx hcall))
  have hall : (names ++ [name]).take (0 + names.length) = names := by
    rw [Nat.zero_add, List.take_left]
  rw [gained, gained, List.zipIdx_append, List.filter_append, List.map_append]
  congr 1
  · refine congrArg _ (List.filter_congr fun call hcall => ?_)
    rw [hearlier call hcall]
  · simp only [List.zipIdx_singleton, List.filter_cons, List.filter_nil, hall,
      ← lacksPackage_iff_length_ne]
    by_cases hlacks : (r.markAll names).lacksPackage name = true <;>
      by_cases hmem : name ∈ (r.markAll names).provided <;> simp [hlacks, hmem]

theorem provided_markAll (r : Resolution) (names : List String) :
    (r.markAll names).provided = r.provided ++ r.gained names := by
  induction names using List.reverseRecOn with
  | nil => exact (List.append_nil _).symm
  | append_singleton names name ih =>
      rw [markAll_concat, gained_concat, ← List.append_assoc, ← ih, markProvided]
      split
      next => rfl
      next => rw [List.append_nil]

/-- No package is missing or provided twice, or both. -/
structure Settled (r : Resolution) : Prop where
  missing : r.missingPackages.Nodup
  provided : r.provided.Nodup
  apart : ∀ name ∈ r.provided, name ∉ r.missingPackages

theorem settled_resolve (base : Path) (references : List Reference) (d : Disk) :
    Settled (resolve base references d) where
  missing := nodup_missingPackages base references d
  provided := .nil
  apart := List.forall_mem_nil _

namespace Settled

theorem notMem_provided (h : r.Settled) (hlacks : r.lacksPackage name = true) :
    name ∉ r.provided :=
  fun hmem => h.apart name hmem (lacksPackage_iff.mp hlacks)

theorem markProvided (h : r.Settled) (name : String) : (r.markProvided name).Settled where
  missing := by
    rw [missingPackages_markProvided]
    exact h.missing.filter _
  provided := by
    by_cases hlacks : r.lacksPackage name = true
    · have hnew := h.notMem_provided hlacks
      rw [provided_markProvided (lacksPackage_iff.mp hlacks) hnew]
      exact List.concat_eq_append ▸ h.provided.concat hnew
    · simp only [Resolution.markProvided, hlacks, Bool.false_and, Bool.false_eq_true, if_false]
      exact h.provided
  apart := by
    intro other hother hmem
    rw [missingPackages_markProvided, List.mem_filter] at hmem
    have hne : other ≠ name := by simpa using hmem.2
    rw [Resolution.markProvided] at hother
    have : other ∈ r.provided := by
      split at hother
      next => exact (List.mem_append.mp hother).resolve_right (by simpa using hne)
      next => exact hother
    exact h.apart other this hmem.1

theorem markAll (h : r.Settled) (names : List String) : (r.markAll names).Settled := by
  induction names using List.reverseRecOn with
  | nil => exact h
  | append_singleton names name ih =>
      rw [markAll_concat]
      exact ih.markProvided name

/-- One entry goes and one name comes, or none of both. -/
theorem length_markProvided (h : r.Settled) (name : String) :
    (r.markProvided name).missing.length + (r.markProvided name).provided.length =
      r.missing.length + r.provided.length := by
  have hlength := r.length_missing_markProvided name
  by_cases hlacks : r.lacksPackage name = true
  · have hmissing := lacksPackage_iff.mp hlacks
    have hone : r.missingPackages.count name = 1 := List.count_eq_one_of_mem h.missing hmissing
    rw [provided_markProvided hmissing (h.notMem_provided hlacks), List.length_append,
      List.length_singleton]
    omega
  · have hzero : r.missingPackages.count name = 0 :=
      List.count_eq_zero.mpr (mt lacksPackage_iff.mpr hlacks)
    have hprovided : (r.markProvided name).provided = r.provided := by
      rw [Resolution.markProvided, if_neg (by simp [hlacks])]
    rw [hprovided]
    omega

end Settled

/-- Marking takes the entries of the packages out of the missing ones and gives their names to the
provided ones. If the resolution comes from references, no name is given twice and none is lost. -/
theorem marking_moves (r : Resolution) (names : List String) :
    let s := r.markAll names
    s.missing = r.missing.filter
        (fun m => ¬(m.reference.kind = .stylePackage ∧ m.reference.path ∈ names)) ∧
      (∀ others : List String, (∀ name, name ∈ others ↔ name ∈ names) →
        (r.markAll others).missing = s.missing) ∧
      s.records = r.records ∧
      s.provided = r.provided ++ r.gained names ∧
      ∀ name, (s.lacksPackage name = true ↔
          (s.markProvided name).missing.length ≠ s.missing.length) ∧
        ∀ base references d, r = resolve base references d →
          (s.markProvided name).provided.Nodup ∧
          (s.markProvided name).provided.Disjoint (s.markProvided name).missingPackages ∧
          (s.markProvided name).missing.length + (s.markProvided name).provided.length =
            s.missing.length + s.provided.length := by
  have hmissing : ∀ names, (r.markAll names).missing = r.missing.filter
      (fun m => ¬(m.reference.kind = .stylePackage ∧ m.reference.path ∈ names)) := by
    intro names
    rw [missing_markAll]
    refine List.filter_congr fun m _ => ?_
    rw [Bool.eq_iff_iff, Bool.not_eq_true', ← Bool.not_eq_true, MissingFile.any_isPackage_iff,
      decide_eq_true_iff]
  intro s
  refine ⟨hmissing names, fun others hothers => ?_, records_markAll r names,
    provided_markAll r names, fun name => ⟨lacksPackage_iff_length_ne, ?_⟩⟩
  · rw [hmissing, hmissing]
    simp only [hothers]
  · rintro base references d rfl
    have hsettled : s.Settled := (settled_resolve base references d).markAll names
    have hnext := hsettled.markProvided name
    exact ⟨hnext.provided, fun other => hnext.apart other, hsettled.length_markProvided name⟩

end Resolution

end Manuscript
