import Manuscript.Proofs.Disk.Plan
import Manuscript.Repair.Session

/-!
No moment at which a repaired file is lost.

The repair of a file with a backup is a plan of single steps, any of which may
fail, or be the last one. The backup is beside the file under another name, so
the file stays untouched until the backup is complete, and the backup stays
complete while the file is overwritten. At every point one of the two holds what
the file held at first.
-/

namespace Manuscript

open Disk

namespace Disk

variable {d d₁ d' : Disk} {p : Path} {o : Location} {name : Text}

theorem Names.apart_withSuffix (h : Names p name) {suffix : Text} (hne : suffix ≠ [])
    (hslash : '/' ∉ suffix) : Apart (p.withSuffix suffix) p := by
  obtain ⟨before, hparts, hname⟩ := h.exists_parts
  refine .of_fileName fun heq => hne ?_
  rw [Path.fileName_withSuffix hparts hname hslash, Path.fileName,
    Path.fileName?_of_parts hparts hname, Option.getD_some] at heq
  exact List.append_right_eq_self.mp heq

theorem Filled.content? {bytes : Bytes} (h : d.LinkFree) {loc loc' : Location}
    (hd : Filled d d' loc bytes) (hp : d.LeadsTo p loc') (hne : loc' ≠ loc) :
    d'.content? p = d.content? p := by
  have hgrowth := Extends.of_changesFiles h hd.changes
  rw [h.content?_of_leadsTo hp, hgrowth.linkFree.content?_of_leadsTo (hgrowth.leadsTo h hp)]
  exact file?_congr (hd.elsewhere loc' hne)

end Disk

namespace Repair.Session

variable (s : Session) (p : Path)

/-! ### The plan of a repair -/

def backUpPlan : Plan (Except FileError (Option Path)) :=
  if s.backup then
    (Plan.writeBackup p s.backupSuffix.toList).bind fun
      | .ok backup => .done (.ok (some backup))
      | .error e => .done (.error e)
  else .done (.ok none)

def overwritePlan (fix : FileFix) (t : Text) : Plan FileFix :=
  (s.backUpPlan fix.path).bind fun
    | .error e => .done { fix with error := some e }
    | .ok backup => (Plan.storeText fix.path t).bind fun
      | .error e => .done { fix with backup, error := some e }
      | .ok () => .done { fix with backup }

def plan : Plan FileFix :=
  (Plan.loadText p).bind fun
    | .error e => .done ⟨p, false, 0, 0, none, [], some e⟩
    | .ok t =>
      let o := s.engine.repair t
      if !o.changed then .done ⟨p, false, 0, o.passes, none, o.warnings, none⟩
      else
        let fix : FileFix := ⟨p, true, o.count, o.passes, none, o.warnings, none⟩
        if s.dryRun then .done fix else s.overwritePlan fix o.text

theorem run_backUpPlan (d : Disk) : (s.backUpPlan p).run d = s.backUp p d := by
  rw [backUpPlan, backUp]
  split
  next =>
    rw [Plan.run_bind, Plan.run_writeBackup]
    rcases d.writeBackup p s.backupSuffix.toList with ⟨e | backup, d'⟩
    · rfl
    · rfl
  next => rfl

theorem run_overwritePlan (fix : FileFix) (t : Text) (d : Disk) :
    (s.overwritePlan fix t).run d = s.overwrite fix t d := by
  rw [overwritePlan, overwrite, Plan.run_bind, run_backUpPlan]
  rcases s.backUp fix.path d with ⟨e | backup, d₁⟩
  · rfl
  · simp only [Plan.run_bind, Plan.run_storeText]
    rcases d₁.storeText fix.path t with ⟨e | ⟨⟩, d₂⟩
    · rfl
    · rfl

theorem run_plan (d : Disk) : (s.plan p).run d = s.fixFile p d := by
  rw [plan, fixFile, Plan.run_bind, Plan.run_loadText]
  cases d.loadText p with
  | error e => rfl
  | ok t =>
      simp only
      split
      next => rfl
      next =>
        split
        next => rfl
        next => exact s.run_overwritePlan _ _ d

/-! ### Every point of a repair -/

section

variable {s p} {d : Disk} {o : Location} {name : Text} {bytes : Bytes}

/-- What the file held is held by it or by its backup, and nothing else is altered. -/
structure Holds (d : Disk) (p backup : Path) (d' : Disk) : Prop where
  held : ∀ bytes, d.content? p = some bytes →
    d'.content? p = some bytes ∨ d'.content? backup = some bytes
  alters : d.Alters d' [p, backup]

/-- An error leaves the file as it was, unless it came while the file was overwritten; then the
backup is complete. -/
def FailsSafely (d : Disk) (p backup : Path) (fix : FileFix) (d' : Disk) : Prop :=
  ∀ e, fix.error = some e → d'.content? p = d.content? p ∨
    (∃ f, e = .writing p f) ∧ d'.content? backup = d.content? p

theorem backUpPlan_always (hbackup : s.backup = true) (hsuffix : s.backupSuffix.toList ≠ [])
    (hslash : '/' ∉ s.backupSuffix.toList) (h : d.LinkFree) (hp : d.Leads p o name)
    (hfile : d.file? (o ++ [name]) = some bytes) :
    let backup := p.withSuffix s.backupSuffix.toList
    Plan.Always (Holds d p backup)
      (fun r d' => d.Alters d' [backup] ∧ d'.content? p = some bytes ∧
        ∀ done, r = .ok done → d'.content? backup = some bytes)
      (s.backUpPlan p) d := by
  intro backup
  have hapart := hp.names.apart_withSuffix hsuffix hslash
  have hcontent : d.content? p = some bytes := (h.content?_of_leadsTo hp.leadsTo).trans hfile
  have hkept : ∀ d', d.Alters d' [backup] → d'.content? p = some bytes :=
    fun d' hd => (hd.content? h
      (by simpa using fun l hpl hql => hapart.places d l hql hpl)).trans hcontent
  have hholds : ∀ d', d.Alters d' [backup] → Holds d p backup d' := by
    refine fun d' hd => ⟨fun bytes' h' => .inl ((hkept d' hd).trans ?_),
      hd.mono (List.subset_cons_self _ _)⟩
    exact hcontent.symm.trans h'
  rw [backUpPlan, if_pos hbackup]
  refine Plan.Always.bind
    (Plan.Always.imp (Plan.writeBackup_always h hp hfile s.backupSuffix.toList) hholds ?_)
  intro r d' hd hr
  cases r with
  | error e => exact ⟨hholds d' hd, hd, hkept d' hd, nofun⟩
  | ok b =>
      obtain ⟨rfl, hsaved⟩ := hr b rfl
      exact ⟨hholds d' hd, hd, hkept d' hd, fun _ _ => hsaved⟩

/-- While a file is filled that has its backup, the backup stays complete. -/
theorem Holds.of_filled (h : d.LinkFree) (hp : d.Leads p o name)
    (hcontent : d.content? p = some bytes) {backup : Path} (hapart : Apart backup p) {d₁ : Disk}
    (halters : d.Alters d₁ [backup]) (hsaved : d₁.content? backup = some bytes) {part : Bytes}
    {d' : Disk} (hd : Filled d₁ d' (o ++ [name]) part) :
    Holds d p backup d' ∧ d'.content? backup = some bytes := by
  have hgrowth := (halters.touches h).growth
  obtain ⟨loc, hbackup, -⟩ := hgrowth.linkFree.leadsTo_of_content hsaved
  have hne : loc ≠ o ++ [name] := by
    rintro rfl
    exact hapart.places d₁ _ hbackup (hgrowth.leadsTo h hp.leadsTo)
  have hstays := (hd.content? hgrowth.linkFree hbackup hne).trans hsaved
  refine ⟨⟨fun bytes' h' => .inr (hstays.trans (hcontent.symm.trans h')),
    halters.changes.trans hd.changes, fun l => ?_⟩, hstays⟩
  by_cases hl : l = o ++ [name]
  · exact .inr ⟨p, by simp, hl ▸ hp.leadsTo⟩
  · rw [hd.elsewhere l hl]
    exact (halters.mono (List.subset_cons_self _ _)).entry l

theorem overwritePlan_always (hbackup : s.backup = true) (hsuffix : s.backupSuffix.toList ≠ [])
    (hslash : '/' ∉ s.backupSuffix.toList) (h : d.LinkFree) (hp : d.Leads p o name)
    (hfile : d.file? (o ++ [name]) = some bytes) {fix : FileFix} (hpath : fix.path = p)
    (hfix : fix.error = none) (t : Text) :
    let backup := p.withSuffix s.backupSuffix.toList
    Plan.Always (Holds d p backup) (FailsSafely d p backup) (s.overwritePlan fix t) d := by
  intro backup
  subst hpath
  have hcontent : d.content? fix.path = some bytes := (h.content?_of_leadsTo hp.leadsTo).trans hfile
  refine Plan.Always.bind
    (Plan.Always.imp (backUpPlan_always hbackup hsuffix hslash h hp hfile) (fun _ => id) ?_)
  rintro r d₁ hholds ⟨halters, hkept, hr⟩
  cases r with
  | error e =>
      refine ⟨hholds, ?_⟩
      rintro _ -
      exact .inl (hkept.trans hcontent.symm)
  | ok done =>
      have hgrowth := (halters.touches h).growth
      have hp₁ := hgrowth.leads h hp
      have hfile₁ : d₁.file? (o ++ [name]) = some bytes :=
        (hgrowth.linkFree.content?_of_leadsTo hp₁.leadsTo).symm.trans hkept
      have hfilled : ∀ {part d'}, Filled d₁ d' (o ++ [name]) part →
          Holds d fix.path backup d' ∧ d'.content? backup = some bytes :=
        Holds.of_filled h hp hcontent (hp.names.apart_withSuffix hsuffix hslash) halters
          (hr done rfl)
      refine Plan.Always.bind (Plan.Always.imp
        (Plan.storeText_always hgrowth.linkFree hp₁ (by simp [hfile₁]) t) ?_ ?_)
      · rintro d' (rfl | ⟨part, -, hd⟩)
        · exact hholds
        · exact (hfilled hd).1
      · rintro r d' hpoint hr'
        cases r with
        | ok u => exact ⟨(hfilled hr').1, fun e he => absurd (hfix.symm.trans he) nofun⟩
        | error e =>
            rcases hpoint with rfl | ⟨part, -, hd⟩
            · refine ⟨hholds, ?_⟩
              rintro _ -
              exact .inl (hkept.trans hcontent.symm)
            · refine ⟨(hfilled hd).1, ?_⟩
              rintro _ ⟨⟩
              rcases hr' with rfl | hwriting
              · exact .inl (hkept.trans hcontent.symm)
              · exact .inr ⟨hwriting, (hfilled hd).2.trans hcontent.symm⟩

theorem plan_always (hbackup : s.backup = true) (hdry : s.dryRun = false)
    (hsuffix : s.backupSuffix.toList ≠ []) (hslash : '/' ∉ s.backupSuffix.toList)
    (h : d.LinkFree) (p : Path) :
    let backup := p.withSuffix s.backupSuffix.toList
    Plan.Always (Holds d p backup) (FailsSafely d p backup) (s.plan p) d := by
  intro backup
  have hsame : Holds d p backup d := ⟨fun _ => .inl, .refl d _⟩
  refine Plan.Always.bind (Plan.Always.imp (Plan.loadText_always h p) ?_ ?_)
  · rintro _ rfl
    exact hsame
  · rintro r _ - ⟨rfl, hr⟩
    cases r with
    | error e => exact ⟨hsame, fun _ _ => .inl rfl⟩
    | ok t =>
        cases hchanged : (s.engine.repair t).changed with
        | false =>
            simp only [hchanged]
            exact ⟨hsame, nofun⟩
        | true =>
            simp only [hchanged, hdry]
            obtain ⟨o, name, bytes, hp, hfile, -⟩ := hr t rfl
            exact overwritePlan_always hbackup hsuffix hslash h hp hfile rfl rfl _

end

/-- What holds at every point that the repair of a file comes to, whatever fails on the way. -/
structure Spares (s : Session) (p : Path) (d : Disk) : Prop where
  /-- Without disturbance the plan is the repair. -/
  run : (s.plan p).run d = s.fixFile p d
  apart : ∀ bytes, d.content? p = some bytes → Apart (p.withSuffix s.backupSuffix.toList) p
  /-- What the file held is there, in the file or in its backup. -/
  held : ∀ rest d', (s.plan p).Reaches d rest d' → ∀ bytes, d.content? p = some bytes →
    d'.content? p = some bytes ∨ d'.content? (p.withSuffix s.backupSuffix.toList) = some bytes
  /-- An error leaves the file as it was, unless it came while the file was overwritten. -/
  errors : ∀ fix d', (s.plan p).Reaches d (.done fix) d' → ∀ e, fix.error = some e →
    d'.content? p = d.content? p ∨
      (∃ f, e = .writing p f) ∧ d'.content? (p.withSuffix s.backupSuffix.toList) = d.content? p
  elsewhere : ∀ rest d', (s.plan p).Reaches d rest d' → ∀ l, d'.entry? l = d.entry? l ∨
    d.LeadsTo p l ∨ d.LeadsTo (p.withSuffix s.backupSuffix.toList) l

/-- The repair of a file with a backup never loses what the file held. -/
theorem fixFile_spares (s : Session) (p : Path) (hbackup : s.backup = true)
    (hdry : s.dryRun = false) (hsuffix : s.backupSuffix.toList ≠ [])
    (hslash : '/' ∉ s.backupSuffix.toList) {d : Disk} (h : d.LinkFree) : s.Spares p d := by
  have halways := plan_always hbackup hdry hsuffix hslash h p
  refine ⟨s.run_plan p d, fun bytes hcontent => ?_, fun rest d' hreaches => ?_,
    fun fix d' hreaches => ?_, fun rest d' hreaches l => ?_⟩
  · obtain ⟨loc, ⟨o, name, hleads, -⟩, -⟩ := h.leadsTo_of_content hcontent
    exact hleads.names.apart_withSuffix hsuffix hslash
  · exact (halways.reaches hreaches).1.held
  · exact (halways.reaches hreaches).2 fix rfl
  · rcases (halways.reaches hreaches).1.alters.entry l with hsame | ⟨q, hq, hleads⟩
    · exact .inl hsame
    · rcases List.mem_cons.mp hq with rfl | hq
      · exact .inr (.inl hleads)
      · obtain rfl := List.mem_singleton.mp hq
        exact .inr (.inr hleads)

def escapedText : Bytes :=
  .ofText "\\textbackslash\x7b\x7demph\\\x7bhi\\\x7d\n".toList

def escapedFile : Disk :=
  .ofTree ["w".toList] [(["w".toList, "a.tex".toList], .file escapedText false)]

theorem escapedFile_linkFree : escapedFile.LinkFree :=
  .of_entries (by decide +kernel) (by decide +kernel) (by decide +kernel)

theorem fixFile_spares_escapedFile :
    let s : Session := {}
    let fixed := s.fixFile (.ofString "a.tex") escapedFile
    fixed.2.content? (.ofString "a.tex") = some (.ofText "\\emph\x7bhi\x7d\n".toList) ∧
      fixed.2.content? (.ofString "a.tex.bak") = some escapedText ∧
      escapedFile.LinkFree ∧ s.Spares (.ofString "a.tex") escapedFile := by
  -- the kernel is slow to decode a literal, so the text is spelled out first
  have hescaped : escapedText = _ := congrArg Bytes.ofText String.toList_ofList
  have hcontent :
      let fixed := Session.fixFile {} (.ofString "a.tex") escapedFile
      fixed.2.content? (.ofString "a.tex") = some (.ofText "\\emph\x7bhi\x7d\n".toList) ∧
        fixed.2.content? (.ofString "a.tex.bak") = some escapedText := by
    rw [escapedFile, hescaped]
    decide +kernel
  refine ⟨hcontent.1, hcontent.2, escapedFile_linkFree, ?_⟩
  exact fixFile_spares {} _ rfl rfl (by decide) (by decide) escapedFile_linkFree

end Repair.Session

end Manuscript
