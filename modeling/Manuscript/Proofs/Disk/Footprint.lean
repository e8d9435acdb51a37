import Manuscript.Proofs.Disk.Walk

/-!
What a change of a disk leaves as it was.

From one disk to a later one directories may come, but none goes, so a path that
leads to a location goes on leading there. A change touches some paths if no
file comes, goes or gets other bytes but where one of them leads. Changes in a
row touch what each of them touches.
-/

namespace Manuscript.Disk

variable {d d₁ d₂ : Disk} {p q : Path} {ps qs : List Path} {o loc loc' : Location} {name : Text}

/-! ### Files at paths -/

/-- The location that a path leads to, whether there is an entry or not. -/
def LeadsTo (d : Disk) (p : Path) (loc : Location) : Prop :=
  ∃ o name, d.Leads p o name ∧ loc = o ++ [name]

def content? (d : Disk) (p : Path) : Option Bytes :=
  match d.at? p with
  | some (_, .file bytes _) => some bytes
  | _ => none

theorem Leads.leadsTo (h : d.Leads p o name) : d.LeadsTo p (o ++ [name]) :=
  ⟨o, name, h, rfl⟩

theorem Leads.unique {o' : Location} {name' : Text} (h : d.Leads p o name)
    (h' : d.Leads p o' name') : o = o' ∧ name = name' :=
  ⟨Except.ok.inj (h.holder.symm.trans h'.holder),
    Option.some.inj (h.names.last.symm.trans h'.names.last)⟩

theorem LeadsTo.unique (h : d.LeadsTo p loc) (h' : d.LeadsTo p loc') : loc = loc' := by
  obtain ⟨o, name, hleads, rfl⟩ := h
  obtain ⟨o', name', hleads', rfl⟩ := h'
  obtain ⟨rfl, rfl⟩ := hleads.unique hleads'
  rfl

theorem file?_eq_some_iff {bytes : Bytes} :
    d.file? loc = some bytes ↔ ∃ x, d.entry? loc = some (.file bytes x) := by
  rw [file?]
  rcases d.entry? loc with _ | e
  · simp
  · cases e <;> simp

theorem entry?_ne_none_of_file? (h : d.file? loc ≠ none) : d.entry? loc ≠ none := by
  intro hnone
  exact h (by rw [file?, hnone])

theorem file?_of_directory (h : d.entry? loc = some .directory) : d.file? loc = none := by
  rw [file?, h]

theorem file?_congr (h : d₁.entry? loc = d.entry? loc) : d₁.file? loc = d.file? loc := by
  rw [file?, file?, h]

theorem holdsFile_eq_isSome (d : Disk) (p : Path) : d.holdsFile p = (d.content? p).isSome := by
  rw [holdsFile, content?]
  rcases d.at? p with _ | ⟨loc, e⟩
  · rfl
  · cases e <;> rfl

namespace LinkFree

theorem content?_of_leadsTo (h : d.LinkFree) (hp : d.LeadsTo p loc) :
    d.content? p = d.file? loc := by
  obtain ⟨o, name, hleads, rfl⟩ := hp
  rw [content?, file?, h.at?_of_leads hleads]
  cases hentry : d.entry? (o ++ [name]) with
  | none => rfl
  | some e =>
      rcases h.kind _ _ hentry with rfl | ⟨bytes, x, rfl⟩
      · rfl
      · rfl

theorem leadsTo_of_content (h : d.LinkFree) {bytes : Bytes} (hcontent : d.content? p = some bytes) :
    ∃ loc, d.LeadsTo p loc ∧ d.file? loc = some bytes := by
  have hfound : ∃ l x, d.spot p true = .ok (.taken l (.file bytes x)) := by
    rw [content?, at?] at hcontent
    split at hcontent
    next l b x hat =>
      obtain rfl := Option.some.inj hcontent
      split at hat
      next hspot =>
        obtain ⟨rfl, rfl⟩ := Prod.mk.inj (Option.some.inj hat)
        exact ⟨_, _, hspot⟩
      next => cases hat
    next => cases hcontent
  obtain ⟨l, x, hspot⟩ := hfound
  obtain ⟨o, name, hleads, -, -⟩ := h.leads_of_taken (by simp) hspot
  refine ⟨_, hleads.leadsTo, ?_⟩
  rw [← h.content?_of_leadsTo hleads.leadsTo, hcontent]

theorem exists_leadsTo_of_holdsFile (h : d.LinkFree) (hp : d.holdsFile p = true) :
    ∃ loc bytes, d.LeadsTo p loc ∧ d.file? loc = some bytes := by
  rw [holdsFile_eq_isSome, Option.isSome_iff_exists] at hp
  obtain ⟨bytes, hcontent⟩ := hp
  obtain ⟨loc, hleads, hfile⟩ := h.leadsTo_of_content hcontent
  exact ⟨loc, bytes, hleads, hfile⟩

theorem holdsFile_of_leadsTo (h : d.LinkFree) (hp : d.LeadsTo p loc)
    (hfile : d.file? loc ≠ none) : d.holdsFile p = true := by
  rw [holdsFile_eq_isSome, h.content?_of_leadsTo hp]
  exact Option.isSome_iff_ne_none.mpr hfile

end LinkFree

/-- Changes of files do not change where a path leads. -/
theorem leadsTo_changesFiles (h : d.LinkFree) (hd : d.ChangesFiles d₁) :
    d₁.LeadsTo p loc ↔ d.LeadsTo p loc := by
  simp only [LeadsTo, leads_changesFiles h hd]

/-! ### Directories stay -/

/-- From one disk to the other directories may come, but none goes. -/
structure Extends (d d' : Disk) : Prop where
  linkFree : d'.LinkFree
  cwd : d'.cwd = d.cwd
  refuses : d'.refuses = d.refuses
  directory : ∀ l, d.entry? l = some .directory → d'.entry? l = some .directory

namespace Extends

theorem refl (h : d.LinkFree) : d.Extends d :=
  ⟨h, rfl, rfl, fun _ => id⟩

theorem trans (h : d.Extends d₁) (k : d₁.Extends d₂) : d.Extends d₂ where
  linkFree := k.linkFree
  cwd := k.cwd.trans h.cwd
  refuses := k.refuses.trans h.refuses
  directory := fun l hl => k.directory l (h.directory l hl)

theorem of_changesFiles (h : d.LinkFree) (hd : d.ChangesFiles d₁) : d.Extends d₁ :=
  ⟨h.of_changesFiles hd, hd.cwd, hd.refuses, fun l => (hd.directory l).mpr⟩

theorem enter (h : d.Extends d₁) {ns : List Text} (ho : d.enter loc ns = some o) :
    d₁.enter loc ns = some o := by
  induction ns generalizing loc with
  | nil => exact ho
  | cons name rest ih =>
      obtain ⟨l, hpass, ho⟩ := enter_cons_eq_some_iff.mp ho
      exact enter_cons_eq_some_iff.mpr ⟨l, hpass.mono (h.directory l), ih ho⟩

theorem start (h : d.Extends d₁) (p : Path) : d₁.start p = d.start p := by
  rw [Disk.start, Disk.start, h.cwd]

theorem leads (h : d.LinkFree) (hd : d.Extends d₁) (hp : d.Leads p o name) :
    d₁.Leads p o name := by
  obtain ⟨husable, henter⟩ := h.holder_eq_ok_iff.mp hp.holder
  refine ⟨hp.names, hd.linkFree.holder_eq_ok_iff.mpr ⟨husable, ?_⟩, hp.short⟩
  rw [hd.start]
  exact hd.enter henter

theorem leadsTo (h : d.LinkFree) (hd : d.Extends d₁) (hp : d.LeadsTo p loc) :
    d₁.LeadsTo p loc := by
  obtain ⟨o, name, hleads, rfl⟩ := hp
  exact (hd.leads h hleads).leadsTo

end Extends

/-! ### Paths that are touched -/

/-- From one disk to the other only files come, go or change, and only where one of the paths
leads. -/
structure Alters (d d' : Disk) (ps : List Path) : Prop where
  changes : d.ChangesFiles d'
  entry : ∀ l, d'.entry? l = d.entry? l ∨ ∃ p ∈ ps, d.LeadsTo p l

/-- From one disk to the other directories may come, and files come, go or change only where one
of the paths leads. -/
structure Touches (d d' : Disk) (ps : List Path) : Prop where
  growth : d.Extends d'
  file : ∀ l, d'.file? l = d.file? l ∨ ∃ p ∈ ps, d'.LeadsTo p l

namespace Alters

theorem refl (d : Disk) (ps : List Path) : d.Alters d ps :=
  ⟨.refl d, fun _ => .inl rfl⟩

theorem mono (h : d.Alters d₁ ps) (hps : ps ⊆ qs) : d.Alters d₁ qs := by
  refine ⟨h.changes, fun l => ?_⟩
  rcases h.entry l with hsame | ⟨p, hp, hleads⟩
  · exact .inl hsame
  · exact .inr ⟨p, hps hp, hleads⟩

theorem trans (h : d.LinkFree) (hd : d.Alters d₁ ps) (hk : d₁.Alters d₂ ps) : d.Alters d₂ ps := by
  refine ⟨hd.changes.trans hk.changes, fun l => ?_⟩
  rcases hk.entry l with hsame | ⟨p, hp, hleads⟩
  · rw [hsame]
    exact hd.entry l
  · exact .inr ⟨p, hp, (leadsTo_changesFiles h hd.changes).mp hleads⟩

/-- What is altered at other places only leaves the file of a path. -/
theorem content? (h : d.LinkFree) (hd : d.Alters d₁ ps)
    (hps : ∀ q ∈ ps, ∀ l, d.LeadsTo p l → ¬d.LeadsTo q l) : d₁.content? p = d.content? p := by
  have h₁ := h.of_changesFiles hd.changes
  have hleads : ∀ l, d₁.LeadsTo p l ↔ d.LeadsTo p l := fun l => leadsTo_changesFiles h hd.changes
  by_cases hp : ∃ l, d.LeadsTo p l
  · obtain ⟨l, hp⟩ := hp
    rw [h.content?_of_leadsTo hp, h₁.content?_of_leadsTo ((hleads l).mpr hp)]
    rcases hd.entry l with hsame | ⟨q, hq, hq'⟩
    · exact file?_congr hsame
    · exact absurd hq' (hps q hq l hp)
  -- a path that leads nowhere holds no file
  · have hnone : ∀ {d₂ : Disk}, d₂.LinkFree → (∀ l, d₂.LeadsTo p l ↔ d.LeadsTo p l) →
        d₂.content? p = none := by
      intro d₂ h₂ hsame
      by_contra hsome
      obtain ⟨bytes, hbytes⟩ := Option.ne_none_iff_exists'.mp hsome
      obtain ⟨l, hl, -⟩ := h₂.leadsTo_of_content hbytes
      exact hp ⟨l, (hsame l).mp hl⟩
    rw [hnone h₁ hleads, hnone h fun l => Iff.rfl]

theorem touches (h : d.LinkFree) (hd : d.Alters d₁ ps) : d.Touches d₁ ps := by
  have hgrowth := Extends.of_changesFiles h hd.changes
  refine ⟨hgrowth, fun l => ?_⟩
  rcases hd.entry l with hsame | ⟨p, hp, hleads⟩
  · exact .inl (file?_congr hsame)
  · exact .inr ⟨p, hp, hgrowth.leadsTo h hleads⟩

end Alters

namespace Touches

theorem refl (h : d.LinkFree) : d.Touches d [] :=
  ⟨.refl h, fun _ => .inl rfl⟩

theorem mono (h : d.Touches d₁ ps) (hps : ps ⊆ qs) : d.Touches d₁ qs := by
  refine ⟨h.growth, fun l => ?_⟩
  rcases h.file l with hsame | ⟨p, hp, hleads⟩
  · exact .inl hsame
  · exact .inr ⟨p, hps hp, hleads⟩

theorem trans (h : d.Touches d₁ ps) (k : d₁.Touches d₂ ps) : d.Touches d₂ ps := by
  refine ⟨h.growth.trans k.growth, fun l => ?_⟩
  rcases k.file l with hsame | htouched
  · rcases h.file l with hsame' | ⟨p, hp, hleads⟩
    · exact .inl (hsame.trans hsame')
    · exact .inr ⟨p, hp, k.growth.leadsTo h.growth.linkFree hleads⟩
  · exact .inr htouched

theorem file_nil (h : d.Touches d₁ []) (l : Location) : d₁.file? l = d.file? l := by
  rcases h.file l with hsame | ⟨p, hp, -⟩
  · exact hsame
  · exact absurd hp List.not_mem_nil

end Touches

end Manuscript.Disk
