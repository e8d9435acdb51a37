import Manuscript.Proofs.Disk.Footprint
import Manuscript.Disk.Files

/-!
What the operations do to a disk without links.

Each operation on a file is given by its outcome where the path leads to a name
in a directory. It is done or refused, and afterwards the disk has changed files
only. Making directories changes no file.
-/

namespace Manuscript

theorem Bytes.text?_ofText (t : Text) : (ofText t).text? = some t := by
  have hbytes : (⟨(ofText t).toArray⟩ : ByteArray) = (String.ofList t).toUTF8 := rfl
  rw [text?, hbytes, String.toUTF8_eq_toByteArray, String.fromUTF8?,
    dif_pos (String.ofList t).isValidUTF8]
  change some (String.ofList t).toList = some t
  rw [String.toList_ofList]

namespace Disk

variable {d d' : Disk} {p q : Path} {o loc : Location} {name m n : Text} {bytes : Bytes}

/-- Nothing is moved to a path that cannot be looked up. -/
theorem rename_of_unusable (d : Disk) (p : Path) {f : Fault} (hq : usable q = .error f) :
    ∃ f, d.rename p q = .error f := by
  have hholder : d.holder q = .error f := by rw [holder, hq]
  rw [rename]
  split
  next => exact ⟨_, rfl⟩
  next =>
    cases d.holder p with
    | error f => exact ⟨_, rfl⟩
    | ok o =>
        rw [hholder]
        exact ⟨_, rfl⟩

/-! ### What is refused or else done -/

@[simp] theorem Plain.refused_eq (h : d.Plain) (a : Access) (loc : Location) :
    d.refused a loc = .ok () := by
  rw [refused, h.refuses]

theorem map_refused_eq_ok_iff {α : Type} {a : Access} {f : Unit → α} {x : α} :
    (d.refused a loc).map f = .ok x ↔ d.refuses a loc = none ∧ f () = x := by
  rw [refused]
  cases d.refuses a loc with
  | none => simp [Except.map]
  | some e => simp [Except.map]

theorem map_refused_of_none {α : Type} {a : Access} (f : Unit → α) (h : d.refuses a loc = none) :
    (d.refused a loc).map f = .ok (f ()) :=
  map_refused_eq_ok_iff.mpr ⟨h, rfl⟩

/-! ### Files -/

/-- Every file that may be created or emptied also takes its bytes. -/
def TakesWrites (d : Disk) : Prop :=
  ∀ loc, d.refuses .create loc = none → d.refuses .write loc = none

theorem TakesWrites.congr (h : d.TakesWrites) (hd : d'.refuses = d.refuses) : d'.TakesWrites := by
  rw [TakesWrites, hd]
  exact h

/-- From one disk to the other the file at a location came to hold the bytes, and nothing else
changed. -/
structure Filled (d d' : Disk) (loc : Location) (bytes : Bytes) : Prop where
  changes : d.ChangesFiles d'
  here : d'.file? loc = some bytes
  elsewhere : ∀ l, l ≠ loc → d'.entry? l = d.entry? l

theorem Filled.fill (ho : d.entry? o = some .directory)
    (hfile : d.entry? (o ++ [name]) ≠ some .directory) (bytes : Bytes) :
    Filled d (d.fill (o ++ [name]) bytes) (o ++ [name]) bytes := by
  obtain ⟨x, hentry⟩ := d.entry?_fill (by simp : o ++ [name] ≠ []) bytes
  refine ⟨.fill ho hfile bytes, file?_eq_some_iff.mpr ⟨x, ?_⟩, fun l hl => ?_⟩
  · rw [hentry, if_pos rfl]
  · rw [hentry, if_neg hl]

theorem Filled.trans {d₁ d₂ : Disk} {first : Bytes} (h : Filled d d₁ loc first)
    (k : Filled d₁ d₂ loc bytes) : Filled d d₂ loc bytes :=
  ⟨h.changes.trans k.changes, k.here, fun l hl => (k.elsewhere l hl).trans (h.elsewhere l hl)⟩

theorem Filled.alters (hp : d.LeadsTo p loc) (hd : Filled d d' loc bytes) : d.Alters d' [p] := by
  refine ⟨hd.changes, fun l => ?_⟩
  by_cases hl : l = loc
  · exact .inr ⟨p, List.mem_singleton_self p, hl ▸ hp⟩
  · exact .inl (hd.elsewhere l hl)

theorem Filled.touches (h : d.LinkFree) (hp : d.LeadsTo p loc) (hd : Filled d d' loc bytes) :
    d.Touches d' [p] :=
  (hd.alters hp).touches h

theorem Filled.file_ne_none (hd : Filled d d' loc bytes) {l : Location} (hl : d.file? l ≠ none) :
    d'.file? l ≠ none := by
  by_cases heq : l = loc
  · rw [heq, hd.here]
    exact Option.some_ne_none _
  · rwa [file?_congr (hd.elsewhere l heq)]

theorem writeAt_of_file (hfile : d.file? loc ≠ none) :
    d.writeAt loc bytes = (d.refused .write loc).map fun () => d.fill loc bytes := by
  obtain ⟨old, hold⟩ := Option.ne_none_iff_exists'.mp hfile
  obtain ⟨x, hentry⟩ := file?_eq_some_iff.mp hold
  rw [writeAt, hentry]

namespace LinkFree

theorem create_of_leads (h : d.LinkFree) (hp : d.Leads p o name)
    (hfile : d.entry? (o ++ [name]) ≠ some .directory) :
    d.create p = (d.refused .create (o ++ [name])).map fun () =>
      (o ++ [name], d.fill (o ++ [name]) []) := by
  have hspot := h.spotFor_of_leads hp .create
  rw [create, creationSpot, hspot]
  cases hentry : d.entry? (o ++ [name]) with
  | none => simp only [hentry]
  | some e =>
      rcases h.kind _ _ hentry with rfl | ⟨old, x, rfl⟩
      · exact absurd hentry hfile
      · simp only [hentry, reduceCtorEq, false_and, if_false]

theorem create_ok (h : d.LinkFree) (hc : d.create p = .ok (loc, d')) :
    d.LeadsTo p loc ∧ d.refuses .create loc = none ∧ Filled d d' loc [] := by
  cases hspot : d.spotFor .create p with
  | error f => simp [create, creationSpot, hspot] at hc
  | ok spot =>
      obtain ⟨o, name, hleads⟩ := h.leads_of_creation hspot
      have hfile : d.entry? (o ++ [name]) ≠ some .directory := by
        intro hdir
        rw [h.spotFor_of_leads hleads, hdir] at hspot
        simp at hspot
      rw [h.create_of_leads hleads hfile] at hc
      obtain ⟨hrefuses, hdone⟩ := map_refused_eq_ok_iff.mp hc
      obtain ⟨rfl, rfl⟩ := Prod.mk.inj hdone
      exact ⟨hleads.leadsTo, hrefuses, .fill (h.directory_of_leads hleads) hfile []⟩

theorem writeAt_ok (h : d.LinkFree) (hfile : d.file? loc ≠ none)
    (hw : d.writeAt loc bytes = .ok d') : Filled d d' loc bytes := by
  obtain ⟨old, hold⟩ := Option.ne_none_iff_exists'.mp hfile
  obtain ⟨x, hentry⟩ := file?_eq_some_iff.mp hold
  rw [writeAt_of_file hfile] at hw
  obtain ⟨-, rfl⟩ := map_refused_eq_ok_iff.mp hw
  rcases List.eq_nil_or_concat loc with rfl | ⟨o, name, rfl⟩
  · cases hentry
  · rw [List.concat_eq_append] at hentry ⊢
    exact .fill (h.above o name _ hentry) (by simp [hentry]) bytes

/-- A write puts its bytes where the path leads, or fails; in the worst case the file has been
emptied by then. -/
theorem write_cases (h : d.LinkFree) (p : Path) (bytes : Bytes) :
    (∃ f, d.write p bytes = (.error f, d)) ∨
      ∃ loc d', d.LeadsTo p loc ∧
        (d.write p bytes = (.ok (), d') ∧ Filled d d' loc bytes ∨
          (∃ f, d.write p bytes = (.error f, d')) ∧ Filled d d' loc [] ∧ ¬d.TakesWrites) := by
  rw [write]
  cases hcreate : d.create p with
  | error f => exact .inl ⟨f, rfl⟩
  | ok created =>
      obtain ⟨loc, d₁⟩ := created
      obtain ⟨hleads, hcreation, hempty⟩ := h.create_ok hcreate
      have h₁ := h.of_changesFiles hempty.changes
      refine .inr ⟨loc, ?_⟩
      cases hwrite : d₁.writeAt loc bytes with
      | ok d₂ =>
          have hfull := h₁.writeAt_ok (by simp [hempty.here]) hwrite
          exact ⟨d₂, hleads, .inl ⟨by simp only [hwrite], hempty.trans hfull⟩⟩
      | error f =>
          refine ⟨d₁, hleads, .inr ⟨⟨f, by simp only [hwrite]⟩, hempty, fun htakes => ?_⟩⟩
          have hnone : d₁.refuses .write loc = none := by
            rw [hempty.changes.refuses]
            exact htakes loc hcreation
          rw [writeAt_of_file (by simp [hempty.here]), map_refused_of_none _ hnone] at hwrite
          cases hwrite

theorem write_touches (h : d.LinkFree) (p : Path) (bytes : Bytes) :
    d.Touches (d.write p bytes).2 [p] := by
  rcases h.write_cases p bytes with
    ⟨f, hw⟩ | ⟨loc, d', hleads, ⟨hw, hfilled⟩ | ⟨⟨f, hw⟩, hfilled, -⟩⟩
  · rw [hw]
    exact (Touches.refl h).mono (List.nil_subset _)
  · rw [hw]
    exact hfilled.touches h hleads
  · rw [hw]
    exact hfilled.touches h hleads

theorem write_ok (h : d.LinkFree) (hw : d.write p bytes = (.ok (), d')) :
    ∃ loc, d.LeadsTo p loc ∧ Filled d d' loc bytes := by
  rcases h.write_cases p bytes with
    ⟨f, hfails⟩ | ⟨loc, d₁, hleads, ⟨hdone, hfilled⟩ | ⟨⟨f, hfails⟩, -⟩⟩
  · cases hfails.symm.trans hw
  · obtain rfl := (Prod.mk.inj (hdone.symm.trans hw)).2
    exact ⟨loc, hleads, hfilled⟩
  · cases hfails.symm.trans hw

theorem remove_ok (hr : d.remove p = .ok d') :
    ∃ o name, d.Leads p o name ∧ d.entry? (o ++ [name]) ≠ some .directory ∧
      d' = d.drop (o ++ [name]) := by
  rw [remove] at hr
  cases hholder : d.holder p with
  | error f => simp [hholder] at hr
  | ok o =>
      cases hlast : (lastName p).2 with
      | none => simp [hholder, hlast] at hr
      | some name =>
          simp only [hholder, hlast] at hr
          split at hr
          next => cases hr
          next hshort =>
            split at hr
            next => cases hr
            next => cases hr
            next e hfile hentry =>
              split at hr
              next => cases hr
              next hopen =>
                obtain ⟨-, hdrop⟩ := map_refused_eq_ok_iff.mp hr
                refine ⟨o, name, ⟨⟨hlast, by simpa using hopen⟩, hholder, hshort⟩, ?_, hdrop.symm⟩
                rw [hentry]
                exact fun hdir => hfile (Option.some.inj hdir)

theorem removeIfPresent_touches (h : d.LinkFree) (p : Path) :
    d.Touches (d.removeIfPresent p).2 [p] := by
  have hrefl := (Touches.refl h).mono (List.nil_subset [p])
  rw [removeIfPresent]
  cases hremove : d.remove p with
  | error f =>
      split
      next heq => cases heq
      next => exact hrefl
      next => exact hrefl
  | ok d' =>
      obtain ⟨o, name, hleads, hfile, rfl⟩ := remove_ok hremove
      refine Alters.touches h ⟨.drop (by simp) hfile, fun l => ?_⟩
      rw [entry?_drop (by simp)]
      split
      next hl => exact .inr ⟨p, List.mem_singleton_self p, hl ▸ hleads.leadsTo⟩
      next => exact .inl rfl

/-- A file is moved to another name in its directory, unless the name is too long or stands for a
directory. -/
theorem rename_of_leads (h : d.LinkFree) (hp : d.Leads p o m) (hq : Names q n)
    (ho : d.holder q = .ok o) (hne : m ≠ n)
    (hfile : ∃ bytes x, d.entry? (o ++ [m]) = some (.file bytes x)) :
    d.rename p q =
      if maxNameBytes < n.byteSize then .error (.os .nameTooLong)
      else if d.entry? (o ++ [n]) = some .directory then .error (.os .isDirectory)
      else (d.refused .rename (o ++ [m])).map fun () =>
        (d.drop (o ++ [n])).moveTree (o ++ [m]) (o ++ [n]) := by
  obtain ⟨bytes, x, hfile⟩ := hfile
  obtain ⟨husable, -⟩ := h.holder_eq_ok_iff.mp ho
  have hnul : q.text.contains '\x00' = false := by
    rw [usable] at husable
    split at husable
    next => cases husable
    next hno => simpa using hno
  have hlong : ∀ k : Text, tooLong (o ++ [k]) = decide (maxNameBytes < k.byteSize) := by
    intro k
    simp [tooLong]
  have hloc : o ++ [m] ≠ o ++ [n] := by simpa using hne
  have hbelow : isBelow (o ++ [n]) (o ++ [m]) = false := by
    simp [isBelow]
  rw [rename, hnul, hp.holder, ho]
  simp only [ne_eq, not_true_eq_false, if_false, hp.names.last, hq.last, hp.names.unclosed,
    hq.unclosed, renameAt, hlong, hp.short, hfile, moveFault?, hloc, hbelow]
  by_cases hn : maxNameBytes < n.byteSize
  · simp [hn]
  · cases hentry : d.entry? (o ++ [n]) with
    | none => simp [hn]
    | some e =>
        rcases h.kind _ _ hentry with rfl | ⟨old, y, rfl⟩
        · simp [hn]
        · simp [hn]

theorem rename_ok (h : d.LinkFree) (hp : d.Leads p o m) (hq : Names q n) (ho : d.holder q = .ok o)
    (hne : m ≠ n) (hfile : d.file? (o ++ [m]) = some bytes) (hr : d.rename p q = .ok d') :
    d.Touches d' [p, q] ∧ d.Leads q o n ∧ d'.file? (o ++ [n]) = some bytes := by
  obtain ⟨x, hentry⟩ := file?_eq_some_iff.mp hfile
  rw [h.rename_of_leads hp hq ho hne ⟨bytes, x, hentry⟩] at hr
  split at hr
  next => cases hr
  next hshort =>
    split at hr
    next => cases hr
    next htarget =>
      obtain ⟨-, rfl⟩ := map_refused_eq_ok_iff.mp hr
      have hq : d.Leads q o n := ⟨hq, ho, hshort⟩
      obtain ⟨hchanges, -, hmoved, -⟩ := h.replace (h.directory_of_leads hp) hne hentry htarget
      refine ⟨Alters.touches h ⟨hchanges, fun l => ?_⟩, hq, file?_eq_some_iff.mpr ⟨x, hmoved⟩⟩
      rw [entry?_replace h (by simp) (by simp) (by simpa using hne) (by simp [hentry])]
      split
      next hl => exact .inr ⟨q, by simp, hl ▸ hq.leadsTo⟩
      next =>
        split
        next hl => exact .inr ⟨p, by simp, hl ▸ hp.leadsTo⟩
        next => exact .inl rfl

end LinkFree

/-! ### Directories -/

namespace LinkFree

theorem makeDir_ok (h : d.LinkFree) (hm : d.makeDir p = .ok d') : d.Touches d' [] := by
  rw [makeDir] at hm
  cases hholder : d.holder p with
  | error f => simp [hholder] at hm
  | ok o =>
      cases hlast : (lastName p).2 with
      | none => simp [hholder, hlast] at hm
      | some name =>
          simp only [hholder, hlast] at hm
          split at hm
          next => cases hm
          next =>
            split at hm
            next => cases hm
            next hnew =>
              obtain ⟨-, rfl⟩ := map_refused_eq_ok_iff.mp hm
              have ho := h.enter_directory (h.start p) (h.holder_eq_ok_iff.mp hholder).2
              refine ⟨⟨h.putDirectory hnew ho, rfl, rfl, fun l hl => ?_⟩, fun l => ?_⟩
              · rw [entry?_put (by simp)]
                split
                next => rfl
                next => exact hl
              · exact .inl (file?_putDirectory hnew)

theorem makeDirs_touches (h : d.LinkFree) (fuel : Nat) (p : Path) :
    d.Touches (makeDirs fuel p d).2 [] := by
  induction fuel generalizing p d with
  | zero => exact .refl h
  | succ fuel ih =>
      rw [makeDirs]
      split
      next => exact .refl h
      next =>
        cases hmake : d.makeDir p with
        | ok d₁ => exact h.makeDir_ok hmake
        | error f =>
            simp only
            split
            next => exact .refl h
            next =>
              cases p.parent? with
              | none => exact .refl h
              -- the directory above is made, and this one tried again
              | some parent =>
                  have habove := ih h parent
                  rcases hdirs : makeDirs fuel parent d with ⟨f | ⟨⟩, d₁⟩
                  · simp only [hdirs] at habove ⊢
                    exact habove
                  · simp only [hdirs] at habove ⊢
                    cases hagain : d₁.makeDir p with
                    | error f => exact habove
                    | ok d₂ => exact habove.trans (habove.growth.linkFree.makeDir_ok hagain)

theorem ensureDir_touches (h : d.LinkFree) (p : Path) : d.Touches (d.ensureDir p).2 [] := by
  rw [ensureDir]
  split
  next => exact .refl h
  next =>
    have htouches := h.makeDirs_touches (p.text.length + 1) p
    rcases hdirs : makeDirs (p.text.length + 1) p d with ⟨f | ⟨⟩, d₁⟩
    · rwa [hdirs] at htouches
    · rwa [hdirs] at htouches

end LinkFree

/-! ### Texts that are loaded and stored -/

/-- A text is loaded if the path leads to a file that may be read and that spells it. -/
theorem LinkFree.loadText_eq_ok_iff (h : d.LinkFree) {t : Text} : d.loadText p = .ok t ↔
    ∃ loc bytes, d.LeadsTo p loc ∧ d.refuses .read loc = none ∧ d.content? p = some bytes ∧
      bytes.text? = some t := by
  rw [loadText, readText]
  constructor
  · intro hload
    cases hread : d.read p with
    | error f => simp [hread] at hload
    | ok bytes =>
        simp only [hread] at hload
        obtain ⟨o, name, x, hleads, hentry⟩ := h.leads_of_read hread
        rw [h.read_of_file hleads hentry] at hread
        obtain ⟨hrefuses, -⟩ := map_refused_eq_ok_iff.mp hread
        refine ⟨_, bytes, hleads.leadsTo, hrefuses, ?_, ?_⟩
        · rw [h.content?_of_leadsTo hleads.leadsTo, file?_eq_some_iff.mpr ⟨x, hentry⟩]
        · cases htext : bytes.text? with
          | none => simp [htext] at hload
          | some u => simpa [htext] using hload
  · rintro ⟨loc, bytes, ⟨o, name, hleads, rfl⟩, hrefuses, hcontent, htext⟩
    rw [h.content?_of_leadsTo hleads.leadsTo] at hcontent
    obtain ⟨x, hentry⟩ := file?_eq_some_iff.mp hcontent
    rw [h.read_of_file hleads hentry, map_refused_of_none _ hrefuses]
    simp only [htext]

section

variable (h : d.LinkFree) (p : Path) (t : Text)
include h

theorem LinkFree.ensureParent_touches : d.Touches (d.ensureParent p).2 [] := by
  rw [ensureParent]
  split
  next => exact h.ensureDir_touches _
  next => exact .refl h

/-- A text is stored once its directory is there; or the directory cannot be made, or the file not
written. -/
theorem LinkFree.storeText_cases : ∃ d₁, d.Touches d₁ [] ∧
    ((∃ e, d.storeText p t = (.error e, d₁)) ∨
      ∃ loc d₂, d₁.LeadsTo p loc ∧
        (d.storeText p t = (.ok (), d₂) ∧ Filled d₁ d₂ loc (.ofText t) ∨
          (∃ e, d.storeText p t = (.error e, d₂)) ∧ Filled d₁ d₂ loc [] ∧ ¬d.TakesWrites)) := by
  have hparent := h.ensureParent_touches p
  rw [storeText]
  rcases hensure : d.ensureParent p with ⟨e | ⟨⟩, d₁⟩
  · rw [hensure] at hparent
    exact ⟨d₁, hparent, .inl ⟨e, rfl⟩⟩
  · rw [hensure] at hparent
    refine ⟨d₁, hparent, ?_⟩
    rcases hparent.growth.linkFree.write_cases p (.ofText t) with ⟨f, hwrite⟩ |
        ⟨loc, d₂, hleads, ⟨hwrite, hfilled⟩ | ⟨⟨f, hwrite⟩, hfilled, hrefuses⟩⟩
    · exact .inl ⟨.writing p f, by simp only [hwrite]⟩
    · exact .inr ⟨loc, d₂, hleads, .inl ⟨by simp only [hwrite], hfilled⟩⟩
    · refine .inr ⟨loc, d₂, hleads, .inr ⟨⟨.writing p f, by simp only [hwrite]⟩, hfilled, ?_⟩⟩
      exact fun htakes => hrefuses (htakes.congr hparent.growth.refuses)

theorem LinkFree.storeText_touches : d.Touches (d.storeText p t).2 [p] := by
  obtain ⟨d₁, hparent, ⟨e, hstore⟩ | ⟨loc, d₂, hleads, hcases⟩⟩ := h.storeText_cases p t
  · rw [hstore]
    exact hparent.mono (List.nil_subset _)
  · have hd : d.Touches d₂ [p] := by
      have hlink := hparent.growth.linkFree
      refine (hparent.mono (List.nil_subset _)).trans ?_
      rcases hcases with ⟨-, hfilled⟩ | ⟨-, hfilled, -⟩
      · exact hfilled.touches hlink hleads
      · exact hfilled.touches hlink hleads
    rcases hcases with ⟨hstore, -⟩ | ⟨⟨e, hstore⟩, -⟩
    · rw [hstore]
      exact hd
    · rw [hstore]
      exact hd

theorem LinkFree.storeText_stays {l : Location} (hl : d.file? l ≠ none) :
    (d.storeText p t).2.file? l ≠ none := by
  obtain ⟨d₁, hparent, ⟨e, hstore⟩ | ⟨loc, d₂, hleads, hcases⟩⟩ := h.storeText_cases p t
  · rwa [hstore, hparent.file_nil]
  · rw [← hparent.file_nil] at hl
    rcases hcases with ⟨hstore, hfilled⟩ | ⟨⟨e, hstore⟩, hfilled, -⟩
    · rw [hstore]
      exact hfilled.file_ne_none hl
    · rw [hstore]
      exact hfilled.file_ne_none hl

end

theorem LinkFree.storeText_ok (h : d.LinkFree) {t : Text} (hs : d.storeText p t = (.ok (), d')) :
    ∃ loc, d'.LeadsTo p loc ∧ d'.file? loc = some (.ofText t) := by
  obtain ⟨d₁, hparent, ⟨e, hstore⟩ | ⟨loc, d₂, hleads, ⟨hstore, hfilled⟩ | ⟨⟨e, hstore⟩, -⟩⟩⟩ :=
    h.storeText_cases p t
  · cases hstore.symm.trans hs
  · obtain rfl := (Prod.mk.inj (hstore.symm.trans hs)).2
    have hlink := hparent.growth.linkFree
    have hgrowth := (hfilled.touches hlink hleads).growth
    exact ⟨loc, hgrowth.leadsTo hlink hleads, hfilled.here⟩
  · cases hstore.symm.trans hs

theorem LinkFree.storeText_error (h : d.LinkFree) (htakes : d.TakesWrites) {t : Text}
    {e : FileError} (hs : d.storeText p t = (.error e, d')) (l : Location) :
    d'.file? l = d.file? l := by
  obtain ⟨d₁, hparent, ⟨e, hstore⟩ | ⟨loc, d₂, -, ⟨hstore, -⟩ | ⟨-, -, hrefuses⟩⟩⟩ :=
    h.storeText_cases p t
  · obtain rfl := (Prod.mk.inj (hstore.symm.trans hs)).2
    exact hparent.file_nil l
  · cases hstore.symm.trans hs
  · exact absurd htakes hrefuses

/-! ### Where nothing is refused -/

namespace Plain

theorem remove_of_leads (h : d.Plain) (hp : d.Leads p o name)
    (hfile : ∃ bytes x, d.entry? (o ++ [name]) = some (.file bytes x)) :
    d.remove p = .ok (d.drop (o ++ [name])) := by
  obtain ⟨bytes, x, hfile⟩ := hfile
  rw [remove, hp.holder, hp.names.last]
  simp only [if_neg hp.short, hfile, hp.names.unclosed, h.refused_eq]
  rfl

theorem rename_of_leads (h : d.Plain) (hp : d.Leads p o m) (hq : Names q n)
    (ho : d.holder q = .ok o) (hne : m ≠ n)
    (hfile : ∃ bytes x, d.entry? (o ++ [m]) = some (.file bytes x)) :
    d.rename p q =
      if maxNameBytes < n.byteSize then .error (.os .nameTooLong)
      else if d.entry? (o ++ [n]) = some .directory then .error (.os .isDirectory)
      else .ok ((d.drop (o ++ [n])).moveTree (o ++ [m]) (o ++ [n])) := by
  rw [h.linkFree.rename_of_leads hp hq ho hne hfile, map_refused_of_none _ (h.refuses _ _)]

theorem ensureDir_spec (h : d.Plain) (p : Path) :
    (d.ensureDir p).2.Plain ∧ ∀ l, (d.ensureDir p).2.file? l = d.file? l := by
  have htouches := h.linkFree.ensureDir_touches p
  have h' := htouches.growth.linkFree
  refine ⟨⟨h'.kind, h'.above, h'.cwd, fun a l => ?_⟩, htouches.file_nil⟩
  rw [htouches.growth.refuses, h.refuses]

end Plain

end Disk

end Manuscript
