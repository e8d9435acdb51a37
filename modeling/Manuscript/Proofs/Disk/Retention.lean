import Manuscript.Proofs.Disk.Orderly
import Manuscript.Proofs.Disk.Plan

/-!
What every plan retains.

No operation of a plan takes a file away, and none lists an entry twice. So
wherever a plan comes to, disturbed or not, there is a file wherever there was
one, and the entries are listed once if they were.
-/

namespace Manuscript.Disk

variable {d d₁ d' : Disk} {p : Path} {loc : Location} {e : Entry} {bytes : Bytes}

/-- From one disk to the other no file goes, and no entry comes to be listed twice. -/
structure Retains (d d' : Disk) : Prop where
  distinct : (d.entries.map (·.1)).Nodup → (d'.entries.map (·.1)).Nodup
  file : ∀ l, d.file? l ≠ none → d'.file? l ≠ none

namespace Retains

theorem refl (d : Disk) : d.Retains d :=
  ⟨id, fun _ => id⟩

theorem trans (h : d.Retains d₁) (k : d₁.Retains d') : d.Retains d' :=
  ⟨k.distinct ∘ h.distinct, fun l hl => k.file l (h.file l hl)⟩

end Retains

/-- Files come under proper names, so an orderly disk stays so. -/
theorem Orderly.of_alters (h : d.Orderly) {ps : List Path} (hd : d.Alters d' ps)
    (hr : d.Retains d') : d'.Orderly where
  toLinkFree := h.of_changesFiles hd.changes
  named := by
    intro loc name hentry
    rcases hd.entry (loc ++ [name]) with hsame | ⟨p, -, o, last, hleads, hloc⟩
    · exact h.named loc name (hsame ▸ hentry)
    · obtain ⟨-, hname⟩ := List.append_inj' hloc rfl
      rw [List.head_eq_of_cons_eq hname]
      exact hleads.properName
  distinct := hr.distinct h.distinct

/-! ### Operations -/

theorem keys_putIn (entries : List (Location × Entry)) : (putIn loc e entries).map (·.1) =
    if loc ∈ entries.map (·.1) then entries.map (·.1) else entries.map (·.1) ++ [loc] := by
  induction entries with
  | nil => rfl
  | cons x entries ih =>
      rw [putIn]
      by_cases hx : x.1 = loc
      · rw [if_pos hx, if_pos (by simp [hx]), List.map_cons, List.map_cons, hx]
      · rw [if_neg hx, List.map_cons, List.map_cons, ih]
        simp only [List.mem_cons, Ne.symm hx, false_or]
        split
        next => rfl
        next => rfl

theorem distinct_put (h : (d.entries.map (·.1)).Nodup) :
    ((d.put loc e).entries.map (·.1)).Nodup := by
  rw [put, keys_putIn]
  split
  next => exact h
  next hnew => exact List.nodup_append'.mpr ⟨h, List.nodup_singleton _, by simpa using hnew⟩

theorem Retains.fill (d : Disk) (loc : Location) (bytes : Bytes) :
    d.Retains (d.fill loc bytes) := by
  constructor
  · obtain ⟨x, hfill⟩ := d.fill_eq_put loc bytes
    rw [hfill]
    exact distinct_put
  · intro l hl
    by_cases hloc : loc = []
    · obtain ⟨x, hfill⟩ := d.fill_eq_put loc bytes
      have hne : l ≠ [] := by
        rintro rfl
        exact hl rfl
      have hsame : entry? (d.fill loc bytes) l = d.entry? l := by
        rw [hfill, hloc, entry?_of_ne_nil hne, entry?_of_ne_nil hne, put, lookup_putIn, if_neg hne]
      rwa [file?_congr hsame]
    · obtain ⟨x, hentry⟩ := d.entry?_fill hloc bytes
      by_cases heq : l = loc
      · rw [file?, hentry, if_pos heq]
        exact Option.some_ne_none _
      · have hsame := hentry l
        rw [if_neg heq] at hsame
        rwa [file?_congr hsame]

theorem create_retains (h : d.create p = .ok (loc, d')) : d.Retains d' := by
  rw [create] at h
  cases hspot : d.creationSpot p with
  | error f => simp [hspot] at h
  | ok l =>
      simp only [hspot] at h
      split at h
      next v hv =>
        split at h
        next => cases h
        next => exact (Prod.mk.inj (Except.ok.inj h)).2 ▸ .refl d
      next =>
        obtain ⟨-, hdone⟩ := map_refused_eq_ok_iff.mp h
        exact (Prod.mk.inj hdone).2 ▸ .fill d l []

theorem writeAt_retains (h : d.writeAt loc bytes = .ok d') : d.Retains d' := by
  rw [writeAt] at h
  split at h
  next v hv =>
    split at h
    next => cases h
    next => exact Except.ok.inj h ▸ ⟨id, fun _ => id⟩
    next => exact Except.ok.inj h ▸ .refl d
  next =>
    obtain ⟨-, rfl⟩ := map_refused_eq_ok_iff.mp h
    exact .fill d loc bytes

theorem makeDir_retains (h : d.makeDir p = .ok d') : d.Retains d' := by
  rw [makeDir] at h
  cases hholder : d.holder p with
  | error f => simp [hholder] at h
  | ok dir =>
      cases hlast : (lastName p).2 with
      | none => simp [hholder, hlast] at h
      | some name =>
          simp only [hholder, hlast] at h
          split at h
          next => cases h
          next =>
            cases hentry : d.entry? (dir ++ [name]) with
            | some e => simp [hentry] at h
            | none =>
                simp only [hentry] at h
                obtain ⟨-, rfl⟩ := map_refused_eq_ok_iff.mp h
                exact ⟨distinct_put, fun l hl => by rwa [file?_putDirectory hentry]⟩

/-! ### Plans -/

namespace Plan

variable {α : Type} {t t' : Plan α}

theorem Step.retains (h : Step t d t' d') : d.Retains d' := by
  cases h with
  | create hcreate => exact create_retains hcreate
  | write hwrite => exact writeAt_retains hwrite
  | writeStops f _ hwrite => exact writeAt_retains hwrite
  | makeDir hmake => exact makeDir_retains hmake
  | look | read | readFails | createFails | writeFails | sync | syncFails | makeDirFails =>
      exact .refl d

theorem Reaches.retains (h : Reaches t d t' d') : d.Retains d' := by
  induction h with
  | here t d => exact .refl d
  | step hstep _ ih => exact hstep.retains.trans ih

end Plan

end Manuscript.Disk
