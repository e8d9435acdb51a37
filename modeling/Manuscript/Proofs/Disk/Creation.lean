import Manuscript.Proofs.Disk.Operation

/-!
What is created where nothing was is found there, also through links.

A path is followed to create a file as it is followed to reach one, up to the
name that no directory holds. So once the file is there, the path leads to it.
-/

namespace Manuscript.Disk

variable {d d' : Disk} {p : Path} {bytes : Bytes}

/-- Where a path leads once what was vacant may have been taken. -/
def seen (d : Disk) : Spot → Spot
  | .taken loc e => .taken loc e
  | .vacant dir name => (d.entry? (dir ++ [name])).elim (.vacant dir name) (.taken (dir ++ [name]))

/-- All that was there still is, and no link has come. -/
structure Gains (d d' : Disk) : Prop where
  keeps : ∀ loc e, d.entry? loc = some e → d'.entry? loc = some e
  no_link : ∀ loc target, d.entry? loc = none → d'.entry? loc ≠ some (.link target)
  cwd : d'.cwd = d.cwd

theorem Gains.refl (d : Disk) : Gains d d where
  keeps := fun _ _ h => h
  no_link := by
    intro loc target hnone
    simp [hnone]
  cwd := rfl

section

variable {closed : Bool} {follow follow' : Location → Path → List Text → Except Errno Spot}

/-- At a name that was vacant the descent comes to what is there by now. -/
theorem Gains.descend_vacant (hd : Gains d d') {loc : Location} {name : Text}
    (hname : EntryName name) (hnone : d.entry? (loc ++ [name]) = none) :
    d'.descend (.reach true) false follow' loc [name] = .ok (d'.seen (.vacant loc name)) := by
  rw [seen]
  cases hnew : d'.entry? (loc ++ [name]) with
  | none => exact Finds.descend (.vacant hname (by simp) hnew)
  | some e =>
      by_cases hdir : e = .directory
      · subst hdir
        refine Finds.descend (.onward (.down hname hnew) ?_)
        rw [Disk.descend_nil, if_neg (by simp), hnew]
        rfl
      · refine Finds.descend (.taken hname rfl hnew hdir fun target he => ?_)
        exact absurd (he ▸ hnew) (hd.no_link _ target hnone)

/-- The descent to what may be created goes as that to what is reached later. -/
theorem Gains.descend (hd : Gains d d')
    (hfollow : ∀ loc target rest s, follow loc target rest = .ok s →
      follow' loc target rest = .ok (d'.seen s))
    {loc : Location} {ns : List Text} {s : Spot}
    (h : d.descend .create closed follow loc ns = .ok s) :
    d'.descend (.reach true) closed follow' loc ns = .ok (d'.seen s) := by
  induction ns generalizing loc with
  | nil =>
      rw [Disk.descend_nil, if_pos rfl] at h
      cases h
  | cons name rest ih =>
      cases finds_of_descend h with
      | onward hpass hgo => exact Finds.descend (.onward (hpass.mono (hd.keeps _ _)) (ih hgo))
      | vacant hname hopen hentry =>
          obtain rfl : closed = false := by simpa using hopen
          exact hd.descend_vacant hname hentry
      | followed hname _ hentry _ hgo =>
          exact Finds.descend (.followed hname (by simp) (hd.keeps _ _ hentry) (by simp)
            (hfollow _ _ _ _ hgo))
      | taken hname hunclosed hentry hdir hlink =>
          -- who creates something follows each link
          exact Finds.descend (.taken hname hunclosed (hd.keeps _ _ hentry) hdir
            fun target he => absurd (hlink target he) (by simp))

end

theorem Gains.walk (hd : Gains d d') {links : Nat} {closed : Bool} {loc : Location}
    {ns : List Text} {s : Spot} (h : d.walk .create links closed loc ns = .ok s) :
    d'.walk (.reach true) links closed loc ns = .ok (d'.seen s) := by
  induction links generalizing closed loc ns s with
  | zero =>
      rw [Disk.walk] at h ⊢
      refine hd.descend (fun _ _ _ s hs => ?_) h
      cases hs
  | succ links ih =>
      rw [Disk.walk] at h ⊢
      refine hd.descend (fun dir target rest s hs => ?_) h
      by_cases hempty : target.text = []
      · rw [if_pos hempty] at hs
        cases hs
      · rw [if_neg hempty] at hs ⊢
        exact ih hs

theorem Gains.spot (hd : Gains d d') {s : Spot} (h : d.spotFor .create p = .ok s) :
    d'.spot p true = .ok (d'.seen s) := by
  rw [Disk.spot, spotFor]
  rw [spotFor] at h
  cases husable : usable p with
  | error f => simp [husable] at h
  | ok _ =>
      simp only [husable, walkNames] at h ⊢
      rw [hd.cwd]
      cases hwalk : d.walk .create maxLinks (endsInSeparator p) (startOf d.cwd p) (names p) with
      | error e => simp [hwalk] at h
      | ok spot =>
          rw [hwalk] at h
          obtain rfl : spot = s := by simpa using h
          rw [hd.walk hwalk]

/-- A path at which nothing is can only be created at a name that a directory does not hold. -/
theorem creationSpot_of_not_holds (hp : d.holds p = false) {loc : Location}
    (h : d.creationSpot p = .ok loc) :
    ∃ dir name, loc = dir ++ [name] ∧ d.entry? loc = none ∧
      d.spotFor .create p = .ok (.vacant dir name) := by
  rw [creationSpot] at h
  cases hspot : d.spotFor .create p with
  | error f => simp [hspot] at h
  | ok spot =>
      have hsame := (Gains.refl d).spot hspot
      cases spot with
      | taken loc e =>
          -- a file or device that is there
          rw [holds, at?, hsame] at hp
          cases hp
      | vacant dir name =>
          rw [hspot] at h
          obtain rfl : dir ++ [name] = loc := by simpa using h
          refine ⟨dir, name, rfl, ?_, rfl⟩
          cases hentry : d.entry? (dir ++ [name]) with
          | none => rfl
          | some e =>
              rw [holds, at?, hsame, seen, hentry] at hp
              cases hp

theorem Gains.of_file {loc : Location} {x : Bool} (hnone : d.entry? loc = none)
    (hcwd : d'.cwd = d.cwd)
    (hentry : ∀ l, d'.entry? l = if l = loc then some (.file bytes x) else d.entry? l) :
    Gains d d' := by
  refine ⟨fun l e he => ?_, fun l target hl => ?_, hcwd⟩
  · have hne : l ≠ loc := by
      rintro rfl
      simp [hnone] at he
    rw [hentry, if_neg hne, he]
  · rw [hentry]
    split
    · simp
    · simp [hl]

theorem spot_of_at? {loc : Location} {e : Entry} (h : d.at? p = some (loc, e)) :
    d.spot p true = .ok (.taken loc e) := by
  rw [at?] at h
  split at h
  next l k hspot =>
    obtain ⟨rfl, rfl⟩ := Prod.mk.inj (Option.some.inj h)
    exact hspot
  next => cases h

/-- What is written at a vacant place is the only thing that is new. -/
theorem write_vacant {dir : Location} {name : Text}
    (hspot : d.creationSpot p = .ok (dir ++ [name])) (hnone : d.entry? (dir ++ [name]) = none)
    (h : d.write p bytes = (.ok (), d')) :
    d'.cwd = d.cwd ∧ d'.refuses = d.refuses ∧ ∃ x, ∀ l, d'.entry? l =
      if l = dir ++ [name] then some (.file bytes x) else d.entry? l := by
  rw [write] at h
  cases hcreate : d.create p with
  | error f => simp [hcreate] at h
  | ok created =>
      obtain ⟨loc, d₁⟩ := created
      simp only [hcreate] at h
      simp only [create, hspot, hnone] at hcreate
      obtain ⟨-, hmade⟩ := map_refused_eq_ok_iff.mp hcreate
      obtain ⟨rfl, rfl⟩ := Prod.mk.inj hmade
      have hloc : dir ++ [name] ≠ [] := by simp
      -- the file is made empty first and filled then
      obtain ⟨x, hempty⟩ := d.entry?_fill hloc []
      obtain ⟨y, hfilled⟩ := (d.fill (dir ++ [name]) []).entry?_fill hloc bytes
      have hfile : (d.fill (dir ++ [name]) []).file? (dir ++ [name]) ≠ none := by
        rw [file?_eq_some_iff.mpr ⟨x, (hempty _).trans (if_pos rfl)⟩]
        exact Option.some_ne_none _
      rw [writeAt_of_file hfile, refused, refuses_fill] at h
      cases hrefuses : d.refuses .write (dir ++ [name]) with
      | some e => simp [hrefuses, Except.map] at h
      | none =>
          simp only [hrefuses, Except.map, Prod.mk.injEq, true_and] at h
          subst h
          refine ⟨by simp, by simp, y, fun l => ?_⟩
          rw [hfilled]
          split
          next => rfl
          next hl => rw [hempty, if_neg hl]

theorem at?_of_write (hp : d.holds p = false) (h : d.write p bytes = (.ok (), d')) :
    ∃ loc x, d'.at? p = some (loc, .file bytes x) ∧ d'.refuses = d.refuses := by
  cases hspot : d.creationSpot p with
  | error f => simp [write, create, hspot] at h
  | ok loc =>
      obtain ⟨dir, name, rfl, hnone, hvacant⟩ := creationSpot_of_not_holds hp hspot
      obtain ⟨hcwd, hrefuses, x, hentry⟩ := write_vacant hspot hnone h
      have hgains : Gains d d' := .of_file hnone hcwd hentry
      refine ⟨dir ++ [name], x, ?_, hrefuses⟩
      rw [at?, hgains.spot hvacant, seen, hentry, if_pos rfl]
      rfl

end Manuscript.Disk
