import Manuscript.Proofs.Disk.Retention
import Manuscript.Proofs.Repair.Convergence
import Manuscript.Proofs.Repair.Discovery
import Manuscript.Proofs.Repair.Safety

/-!
What a session does to the files below a directory.

The repair of one file writes to the file and to its backup, and no two files of
a session have a place in common among these. So what was shown of one file
holds of each in the disk that the session leaves, whatever became of the
others. The session then visits the same files again, and where all repairs
came to their end it finds nothing more to do.
-/

namespace Manuscript

open Disk

namespace Disk

variable {d d' : Disk} {p : Path} {o l : Location} {name suffix : Text}

theorem LeadsTo.fileName_suffix (h : d.LeadsTo p l) : p.fileName <:+ p.text := by
  obtain ⟨o, name, hleads, -⟩ := h
  obtain ⟨before, hparts, hname⟩ := hleads.names.exists_parts
  rw [Path.fileName, Path.fileName?_of_parts hparts hname, Path.text_eq_joinWith, hparts,
    Option.getD_some]
  by_cases hbefore : before = []
  · rw [hbefore]
    exact List.suffix_rfl
  · rw [Text.joinWith_concat hbefore]
    exact List.suffix_append _ _

theorem LinkFree.leadsTo_withSuffix (h : d.LinkFree) (hp : d.Leads p o name)
    (hsuffix : '/' ∉ suffix) (hl : d.LeadsTo (p.withSuffix suffix) l) :
    l = o ++ [name ++ suffix] := by
  obtain ⟨before, hparts, hname⟩ := hp.names.exists_parts
  have hlast := hl.getLast?_eq
  rw [Path.fileName_withSuffix hparts hname hsuffix] at hlast
  obtain ⟨o', last, hleads, rfl⟩ := hl
  rw [List.getLast?_concat] at hlast
  have hholder := h.holder_withSuffix hparts hname hsuffix hp.holder hleads.usable
  rw [Option.some.inj hlast, Except.ok.inj (hleads.holder.symm.trans hholder)]

/-- Storing a text to a file alters only the file, and leaves what it holds if it fails, unless the
file was emptied before its bytes were refused. -/
theorem LinkFree.storeText_alters (h : d.LinkFree) (hp : d.Leads p o name)
    (hfile : d.file? (o ++ [name]) ≠ none) {t : Text} {r : Except FileError Unit}
    (hdone : d.storeText p t = (r, d')) :
    d.Alters d' [p] ∧ (r = .ok () → d'.content? p = some (.ofText t)) ∧
      (d.TakesWrites → ∀ e, r = .error e → d'.content? p = d.content? p) := by
  have halters : d.Alters d' [p] := by
    have hpoint := (Plan.storeText_always h hp hfile t).run.1
    rw [Plan.run_storeText, hdone] at hpoint
    rcases hpoint with rfl | ⟨part, -, hfilled⟩
    · exact .refl _ _
    · exact hfilled.alters hp.leadsTo
  have h' := h.of_changesFiles halters.changes
  have hleads := (leadsTo_changesFiles h halters.changes).mpr hp.leadsTo
  refine ⟨halters, ?_, ?_⟩
  · rintro rfl
    obtain ⟨loc, hloc, hstored⟩ := h.storeText_ok hdone
    rw [h'.content?_of_leadsTo hloc, hstored]
  · rintro htakes e rfl
    rw [h'.content?_of_leadsTo hleads, h.content?_of_leadsTo hp.leadsTo]
    exact h.storeText_error htakes hdone _

end Disk

namespace Repair.Session

variable {s : Session} {d d₁ d' : Disk} {directory p q : Path} {loc : Location} {files : List Path}

def backupOf (s : Session) (p : Path) : Path :=
  p.withSuffix s.backupSuffix.toList

/-- The paths that the repair of a file may write to. -/
def targets (s : Session) (p : Path) : List Path :=
  if s.backup then [p, s.backupOf p] else [p]

theorem mem_targets : q ∈ s.targets p ↔ q = p ∨ s.backup = true ∧ q = s.backupOf p := by
  rw [targets]
  split
  next hbackup => simp [hbackup]
  next hbackup => simp [hbackup]

theorem self_mem_targets (s : Session) (p : Path) : p ∈ s.targets p :=
  mem_targets.mpr (.inl rfl)

theorem backupOf_mem_targets (hbackup : s.backup = true) (p : Path) :
    s.backupOf p ∈ s.targets p :=
  mem_targets.mpr (.inr ⟨hbackup, rfl⟩)

/-! ### One file -/

/-- What became of a file, told by its path in the disk before and in a later one. -/
structure Fixed (s : Session) (d : Disk) (fix : FileFix) (d' : Disk) : Prop where
  /-- A file without an error was loaded, and it counts as changed if its repair did anything. -/
  loaded : fix.error = none → ∃ t, d.loadText fix.path = .ok t
  changed : ∀ t, d.loadText fix.path = .ok t → fix.changed = (s.engine.repair t).changed
  /-- A file with an error keeps what it held, and one that did not change, too. -/
  kept : fix.changed = false ∨ fix.error ≠ none → d'.content? fix.path = d.content? fix.path
  /-- Any other one holds its repaired text, and its backup what it held. -/
  repaired : fix.changed = true → fix.error = none → ∀ t, d.loadText fix.path = .ok t →
    d'.content? fix.path = some (.ofText (s.engine.repair t).text) ∧
      (s.backup = true → d'.content? (s.backupOf fix.path) = d.content? fix.path)

section

variable (hsuffix : s.backup = true → s.backupSuffix.toList ≠ [])
  (hslash : s.backup = true → '/' ∉ s.backupSuffix.toList)
  (h : d.LinkFree) {o : Location} {name : Text} {bytes : Bytes}
  (hp : d.Leads p o name) (hfile : d.file? (o ++ [name]) = some bytes)

include hsuffix hslash h hp hfile

/-- The file stays while it is backed up, and when the backup is made it holds the same. -/
theorem backUp_alters {r : Except FileError (Option Path)} (hdone : s.backUp p d = (r, d')) :
    d.Alters d' (s.targets p) ∧ d'.content? p = some bytes ∧
      ∀ b, r = .ok b → s.backup = true → d'.content? (s.backupOf p) = some bytes := by
  cases hbackup : s.backup with
  | false =>
      rw [backUp, if_neg (by simp [hbackup])] at hdone
      obtain ⟨rfl, rfl⟩ := Prod.mk.inj hdone
      refine ⟨.refl d _, (h.content?_of_leadsTo hp.leadsTo).trans hfile, fun b hb => by simp⟩
  | true =>
      obtain ⟨-, halters, hkept, hsaved⟩ :=
        (backUpPlan_always hbackup (hsuffix hbackup) (hslash hbackup) h hp hfile).run
      rw [run_backUpPlan, hdone] at halters hkept hsaved
      have htarget : [s.backupOf p] ⊆ s.targets p :=
        List.cons_subset.mpr ⟨backupOf_mem_targets hbackup p, List.nil_subset _⟩
      exact ⟨halters.mono htarget, hkept, fun b hb _ => hsaved b hb⟩

/-- Writing over a file puts the text into it after its backup, or leaves it. -/
theorem overwrite_alters {fix fix' : FileFix} (hpath : fix.path = p)
    (hnone : fix.error = none) {t : Text} (hdone : s.overwrite fix t d = (fix', d')) :
    (fix'.path = p ∧ fix'.changed = fix.changed) ∧ d.Alters d' (s.targets p) ∧
      (d.TakesWrites → fix'.error ≠ none → d'.content? p = d.content? p) ∧
      (fix'.error = none → d'.content? p = some (.ofText t) ∧
        (s.backup = true → d'.content? (s.backupOf p) = some bytes)) := by
  subst hpath
  have hapart (hbackup : s.backup = true) : Apart (s.backupOf fix.path) fix.path :=
    hp.names.apart_withSuffix (hsuffix hbackup) (hslash hbackup)
  rcases hback : s.backUp fix.path d with ⟨r, d₁⟩
  obtain ⟨hbackedUp, hheld, hsaved⟩ := backUp_alters hsuffix hslash h hp hfile hback
  have hcontent : d.content? fix.path = some bytes := (h.content?_of_leadsTo hp.leadsTo).trans hfile
  rw [overwrite, hback] at hdone
  cases r with
  | error e =>
      obtain ⟨rfl, rfl⟩ := Prod.mk.inj hdone
      exact ⟨⟨rfl, rfl⟩, hbackedUp, fun _ _ => hheld.trans hcontent.symm, by simp⟩
  | ok b =>
      have h₁ := h.of_changesFiles hbackedUp.changes
      have hp₁ := (leads_changesFiles h hbackedUp.changes).mpr hp
      have hfile₁ : d₁.file? (o ++ [name]) = some bytes := by
        rw [← h₁.content?_of_leadsTo hp₁.leadsTo, hheld]
      rcases hstore : d₁.storeText fix.path t with ⟨r, d₂⟩
      obtain ⟨hstored, hok, hfails⟩ := h₁.storeText_alters hp₁ (by simp [hfile₁]) hstore
      have halters : d.Alters d₂ (s.targets fix.path) := by
        refine hbackedUp.trans h (hstored.mono ?_)
        simpa using s.self_mem_targets fix.path
      simp only [hstore] at hdone
      cases r with
      | error e =>
          obtain ⟨rfl, rfl⟩ := Prod.mk.inj hdone
          refine ⟨⟨rfl, rfl⟩, halters, fun htakes _ => ?_, by simp⟩
          have htakes₁ := htakes.congr hbackedUp.changes.refuses
          exact (hfails htakes₁ e rfl).trans (hheld.trans hcontent.symm)
      | ok u =>
          obtain ⟨rfl, rfl⟩ := Prod.mk.inj hdone
          refine ⟨⟨rfl, rfl⟩, halters, fun _ herror => absurd hnone herror, fun _ => ⟨hok rfl, ?_⟩⟩
          -- the backup is not where the text goes
          intro hbackup
          rw [← hsaved b rfl hbackup]
          refine hstored.content? h₁ fun q hq l hpl hql => ?_
          obtain rfl := List.mem_singleton.mp hq
          exact (hapart hbackup).places d₁ l hpl hql

end

section

variable (hdry : s.dryRun = false) (hsuffix : s.backup = true → s.backupSuffix.toList ≠ [])
  (hslash : s.backup = true → '/' ∉ s.backupSuffix.toList)
include hdry hsuffix hslash

/-- What is left of the repair of a file is told by its outcome. -/
theorem fixFile_fixed (h : d.LinkFree) {fix : FileFix} (hdone : s.fixFile p d = (fix, d')) :
    fix.path = p ∧ (d.TakesWrites → s.Fixed d fix d') ∧
      d.Alters d' (if fix.changed then s.targets p else []) := by
  rw [fixFile] at hdone
  cases hload : d.loadText p with
  | error e =>
      rw [hload] at hdone
      obtain ⟨rfl, rfl⟩ := Prod.mk.inj hdone
      refine ⟨rfl, fun _ => ⟨by simp, fun t ht => ?_, fun _ => rfl, by simp⟩, .refl d _⟩
      simp [hload] at ht
  | ok t =>
      have hsame : ∀ {u}, d.loadText p = .ok u → u = t :=
        fun hu => Except.ok.inj (hu.symm.trans hload)
      cases hchanged : (s.engine.repair t).changed with
      | false =>
          simp only [hload, hchanged, Bool.not_false, if_true] at hdone
          obtain ⟨rfl, rfl⟩ := Prod.mk.inj hdone
          refine ⟨rfl, fun _ => ⟨fun _ => ⟨t, hload⟩, fun u hu => ?_, fun _ => rfl, by simp⟩,
            .refl d _⟩
          rw [hsame hu, hchanged]
      | true =>
          simp only [hload, hchanged, hdry, Bool.not_true, Bool.false_eq_true, if_false] at hdone
          obtain ⟨loc, bytes, ⟨o, name, hleads, rfl⟩, -, hcontent, -⟩ :=
            h.loadText_eq_ok_iff.mp hload
          have hfile := (h.content?_of_leadsTo hleads.leadsTo).symm.trans hcontent
          obtain ⟨⟨rfl, hreported⟩, halters, hfails, hok⟩ :=
            overwrite_alters hsuffix hslash h hleads hfile rfl rfl hdone
          refine ⟨rfl, fun htakes => ⟨fun _ => ⟨t, hload⟩, fun u hu => ?_, ?_,
            fun _ herror u hu => ?_⟩, ?_⟩
          · rw [hsame hu, hchanged, hreported]
          · rintro (hquiet | herror)
            · simp [hreported] at hquiet
            · exact hfails htakes herror
          · rw [hsame hu, hcontent]
            exact hok herror
          · rw [hreported, if_pos rfl]
            exact halters

end

/-! ### All files -/

/-- Nothing that the repair of one file may write to is in the place of what that of another may. -/
def Separate (s : Session) (d : Disk) (p q : Path) : Prop :=
  ∀ a ∈ s.targets p, ∀ b ∈ s.targets q, ∀ l, d.LeadsTo a l → ¬d.LeadsTo b l

def written (s : Session) (fixes : List FileFix) : List Path :=
  (fixes.filter (·.changed)).flatMap fun fix => s.targets fix.path

theorem mem_written {fixes : List FileFix} :
    q ∈ s.written fixes ↔ ∃ fix ∈ fixes, fix.changed = true ∧ q ∈ s.targets fix.path := by
  simp only [written, List.mem_flatMap, List.mem_filter, and_assoc]

theorem written_cons (fix : FileFix) (fixes : List FileFix) :
    s.written (fix :: fixes) =
      (if fix.changed then s.targets fix.path else []) ++ s.written fixes := by
  rw [written, List.filter_cons]
  split
  next => rw [List.flatMap_cons, written]
  next => rw [List.nil_append, written]

section

variable (h : d.LinkFree) (hd : d.ChangesFiles d₁)
include h hd

theorem Separate.of_changesFiles (hapart : s.Separate d p q) : s.Separate d₁ p q := by
  intro a ha b hb l hal hbl
  exact hapart a ha b hb l ((leadsTo_changesFiles h hd).mp hal) ((leadsTo_changesFiles h hd).mp hbl)

theorem loadText_congr {t : Text} (hsame : d₁.content? p = d.content? p) :
    d₁.loadText p = .ok t ↔ d.loadText p = .ok t := by
  rw [h.loadText_eq_ok_iff, (h.of_changesFiles hd).loadText_eq_ok_iff]
  simp only [leadsTo_changesFiles h hd, hd.refuses, hsame]

/-- What became of a file did so, too, since it held the same before. -/
theorem Fixed.earlier {fix : FileFix} (hsame : d₁.content? fix.path = d.content? fix.path)
    (hfixed : s.Fixed d₁ fix d') : s.Fixed d fix d' where
  loaded herror := by
    obtain ⟨t, ht⟩ := hfixed.loaded herror
    exact ⟨t, (loadText_congr h hd hsame).mp ht⟩
  changed t ht := hfixed.changed t ((loadText_congr h hd hsame).mpr ht)
  kept hcase := (hfixed.kept hcase).trans hsame
  repaired hchanged herror t ht := by
    rw [← hsame]
    exact hfixed.repaired hchanged herror t ((loadText_congr h hd hsame).mpr ht)

end

/-- What became of a file stays so while its paths hold the same. -/
theorem Fixed.later {fix : FileFix}
    (hsame : ∀ q ∈ s.targets fix.path, d'.content? q = d₁.content? q)
    (hfixed : s.Fixed d fix d₁) : s.Fixed d fix d' where
  loaded := hfixed.loaded
  changed := hfixed.changed
  kept hcase := (hsame _ (s.self_mem_targets _)).trans (hfixed.kept hcase)
  repaired hchanged herror t ht := by
    obtain ⟨htext, hsaved⟩ := hfixed.repaired hchanged herror t ht
    refine ⟨(hsame _ (s.self_mem_targets _)).trans htext, fun hbackup => ?_⟩
    exact (hsame _ (backupOf_mem_targets hbackup _)).trans (hsaved hbackup)

def fixAll (s : Session) : List Path → Disk → List FileFix × Disk
  | [], d => ([], d)
  | p :: ps, d =>
    let (fix, d) := s.fixFile p d
    let (fixes, d) := s.fixAll ps d
    (fix :: fixes, d)

/-- Files with separate targets become what each of them would by itself. -/
theorem fixAll_fixed (hdry : s.dryRun = false)
    (hsuffix : s.backup = true → s.backupSuffix.toList ≠ [])
    (hslash : s.backup = true → '/' ∉ s.backupSuffix.toList) (h : d.LinkFree)
    (htakes : d.TakesWrites) (hapart : files.Pairwise (s.Separate d)) {fixes : List FileFix}
    (hdone : s.fixAll files d = (fixes, d')) :
    fixes.map (·.path) = files ∧ d.Alters d' (s.written fixes) ∧
      ∀ fix ∈ fixes, s.Fixed d fix d' := by
  induction files generalizing d fixes with
  | nil =>
      obtain ⟨rfl, rfl⟩ := Prod.mk.inj hdone
      exact ⟨rfl, .refl _ _, List.forall_mem_nil _⟩
  | cons p ps ih =>
      obtain ⟨hfirst, hrest⟩ := List.pairwise_cons.mp hapart
      rcases hfix : s.fixFile p d with ⟨fix, d₁⟩
      rcases hall : s.fixAll ps d₁ with ⟨others, d₂⟩
      rw [fixAll, hfix] at hdone
      simp only [hall] at hdone
      obtain ⟨rfl, rfl⟩ := Prod.mk.inj hdone
      obtain ⟨rfl, hfixed, halters⟩ := fixFile_fixed hdry hsuffix hslash h hfix
      have h₁ := h.of_changesFiles halters.changes
      have htakes₁ := htakes.congr halters.changes.refuses
      obtain ⟨hpaths, hlater, hothers⟩ := ih h₁ htakes₁
        (hrest.imp fun hpq => hpq.of_changesFiles h halters.changes) hall
      have hmem : ∀ other ∈ others, other.path ∈ ps :=
        fun other hother => hpaths ▸ List.mem_map_of_mem hother
      refine ⟨by rw [List.map_cons, hpaths], ?_,
        List.forall_mem_cons.mpr ⟨?_, fun other hother => ?_⟩⟩
      · rw [written_cons]
        exact (halters.mono (List.subset_append_left _ _)).trans h
          (hlater.mono (List.subset_append_right _ _))
      -- the other repairs leave what this one wrote
      · refine (hfixed htakes).later fun q hq => hlater.content? h₁ fun b hb l hql hbl => ?_
        obtain ⟨other, hother, -, hb⟩ := mem_written.mp hb
        exact (hfirst _ (hmem other hother)).of_changesFiles h halters.changes q hq b hb l hql hbl
      -- and this one leaves what they find
      · refine (hothers other hother).earlier h halters.changes ?_
        refine halters.content? h fun b hb l hql hbl => ?_
        split at hb
        next =>
          exact hfirst _ (hmem other hother) b hb _ (s.self_mem_targets _) l hbl hql
        next => exact absurd hb List.not_mem_nil

theorem retains_fixAll (s : Session) (files : List Path) (d : Disk) :
    d.Retains (s.fixAll files d).2 := by
  induction files generalizing d with
  | nil => exact .refl d
  | cons p ps ih =>
      have hfirst := (Plan.reaches_run (s.plan p) d).retains
      rw [run_plan] at hfirst
      exact hfirst.trans (ih (s.fixFile p d).2)

/-! ### Nothing more to do -/

/-- A file that was repaired to the end, or not at all, needs no repair. -/
theorem Fixed.idle {fix : FileFix} (h : d.LinkFree) (hd : d.ChangesFiles d')
    (hfixed : s.Fixed d fix d') (herror : fix.error = none)
    (hconverged : ∀ t, d.loadText fix.path = .ok t → (s.engine.repair t).converged = true) :
    ∃ passes warnings, s.fixFile fix.path d' =
      (⟨fix.path, false, 0, passes, none, warnings, none⟩, d') := by
  have hquiet : ∃ u, d'.loadText fix.path = .ok u ∧ (s.engine.repair u).changed = false := by
    obtain ⟨t, ht⟩ := hfixed.loaded herror
    have hreported := hfixed.changed t ht
    cases hchanged : fix.changed with
    | false =>
        exact ⟨t, (loadText_congr h hd (hfixed.kept (.inl hchanged))).mpr ht,
          hreported.symm.trans hchanged⟩
    | true =>
        obtain ⟨htext, -⟩ := hfixed.repaired hchanged herror t ht
        refine ⟨(s.engine.repair t).text, ?_, ?_⟩
        · obtain ⟨loc, bytes, hleads, hrefuses, -⟩ := h.loadText_eq_ok_iff.mp ht
          exact (h.of_changesFiles hd).loadText_eq_ok_iff.mpr
            ⟨loc, _, (leadsTo_changesFiles h hd).mpr hleads, hd.refuses ▸ hrefuses, htext,
              Bytes.text?_ofText _⟩
        -- the text of a repair that converged has nothing left to replace
        · obtain ⟨-, hcount, -⟩ :=
            repair_silent ((repair_converged_iff s.engine t).mp (hconverged t ht))
          rw [Outcome.changed, hcount]
          rfl
  obtain ⟨u, hload, hunchanged⟩ := hquiet
  refine ⟨(s.engine.repair u).passes, (s.engine.repair u).warnings, ?_⟩
  rw [fixFile, hload]
  simp only [hunchanged, Bool.not_false, if_true]

theorem fixAll_idle (hidle : ∀ p ∈ files, ∃ passes warnings, s.fixFile p d =
    (⟨p, false, 0, passes, none, warnings, none⟩, d)) :
    ∃ fixes, s.fixAll files d = (fixes, d) ∧ ∀ fix ∈ fixes, fix.changed = false := by
  induction files with
  | nil => exact ⟨[], rfl, List.forall_mem_nil _⟩
  | cons p ps ih =>
      obtain ⟨⟨passes, warnings, hfix⟩, hrest⟩ := List.forall_mem_cons.mp hidle
      obtain ⟨fixes, hall, hfixes⟩ := ih hrest
      refine ⟨⟨p, false, 0, passes, none, warnings, none⟩ :: fixes, ?_,
        List.forall_mem_cons.mpr ⟨rfl, hfixes⟩⟩
      rw [fixAll, hfix]
      simp only [hall]

/-! ### Reports -/

def summarize (fixes : List FileFix) : Summary :=
  let changed := fixes.filter (·.changed)
  ⟨fixes.length, changed.length, changed.foldr (fun fix n => fix.count + n) 0⟩

theorem foldl_add_eq_summarize (sum : Summary) (fixes : List FileFix) :
    fixes.foldl Summary.add sum = ⟨sum.scanned + (summarize fixes).scanned,
      sum.changed + (summarize fixes).changed,
      sum.replacements + (summarize fixes).replacements⟩ := by
  induction fixes generalizing sum with
  | nil => rfl
  | cons fix fixes ih =>
      rw [List.foldl_cons, ih]
      cases hchanged : fix.changed with
      | false =>
          simp only [Summary.add, summarize, hchanged, List.filter_cons, List.length_cons,
            Bool.false_eq_true, if_false, Summary.mk.injEq, and_true]
          omega
      | true =>
          simp only [Summary.add, summarize, hchanged, List.filter_cons, List.length_cons,
            List.foldr_cons, if_true, Summary.mk.injEq]
          omega

/-- A report grows by what happens to each file, and by one call for it. -/
theorem fixEach_eq (s : Session) (total done : Nat) (files : List Path) (r : SessionReport)
    (d : Disk) :
    s.fixEach total done files r d =
      (⟨r.results ++ (s.fixAll files d).1, (s.fixAll files d).1.foldl Summary.add r.summary,
        r.progress ++ (List.range' (done + 1) files.length).map (·, total)⟩,
        (s.fixAll files d).2) := by
  induction files generalizing done r d with
  | nil => simp [fixEach, fixAll]
  | cons p ps ih =>
      rcases hfix : s.fixFile p d with ⟨fix, d₁⟩
      simp only [fixEach, fixAll, hfix, ih, SessionReport.note, List.foldl_cons, List.length_cons,
        List.range'_succ, List.map_cons, List.append_assoc, List.singleton_append]

theorem run_of_discover {directory : Path} (hfiles : s.discover directory d = .ok files) :
    s.run directory d =
      (.ok
        { results := (s.fixAll files d).1
          summary := summarize (s.fixAll files d).1
          progress := (List.range' 1 files.length).map (·, files.length) },
        (s.fixAll files d).2) := by
  rw [run, hfiles]
  simp only [fixEach_eq, foldl_add_eq_summarize, SessionReport.empty, Summary.zero, List.nil_append,
    Nat.zero_add]

theorem summarize_unchanged {fixes : List FileFix} (h : ∀ fix ∈ fixes, fix.changed = false) :
    summarize fixes = ⟨fixes.length, 0, 0⟩ := by
  have hnone : fixes.filter (·.changed) = [] :=
    List.filter_eq_nil_iff.mpr fun fix hfix => by simp [h fix hfix]
  rw [summarize, hnone]
  rfl

/-! ### The files of a session -/

section

variable (hslash : '/' ∉ s.backupSuffix.toList) (hp : d.LeadsTo p loc)
include hslash hp

theorem fileName_backupOf : (s.backupOf p).fileName = p.fileName ++ s.backupSuffix.toList := by
  obtain ⟨o, name, hleads, -⟩ := hp
  obtain ⟨before, hparts, hname⟩ := hleads.names.exists_parts
  rw [backupOf, Path.fileName_withSuffix hparts hname hslash, Path.fileName,
    Path.fileName?_of_parts hparts hname]
  rfl

theorem Visits.apart {l : Location} (hvisits : s.Visits q) (hq : d.LeadsTo q l) :
    Apart (s.backupOf p) q := by
  refine .of_fileName fun hsame => hvisits.2 ?_
  rw [fileName_backupOf hslash hp] at hsame
  exact (hsame ▸ List.suffix_append _ _).trans hq.fileName_suffix

end

section

variable (hslash : '/' ∉ s.backupSuffix.toList) (hfiles : s.Lists d directory loc files)
  (hp : p ∈ files) (hq : q ∈ files)
include hslash hfiles hp hq

theorem Lists.apart : Apart (s.backupOf p) q := by
  obtain ⟨-, ns, -, hleads, -⟩ := (hfiles.mem p).mp hp
  obtain ⟨hvisits, ms, -, hleads', -⟩ := (hfiles.mem q).mp hq
  exact hvisits.apart hslash hleads hleads'

variable (h : d.Orderly) (hne : p ≠ q)
include h hne

/-- Backups of different files are different and in different places. -/
theorem Lists.backups_apart : (s.backupOf p).components ≠ (s.backupOf q).components ∧
    ∀ l, d.LeadsTo (s.backupOf p) l → ¬d.LeadsTo (s.backupOf q) l := by
  obtain ⟨-, ns, -, ⟨o, name, hleads, -⟩, -⟩ := (hfiles.mem p).mp hp
  obtain ⟨-, ms, -, ⟨o', name', hleads', -⟩, -⟩ := (hfiles.mem q).mp hq
  constructor
  · intro hsame
    obtain ⟨before, hparts, hname⟩ := hleads.names.exists_parts
    obtain ⟨before', hparts', hname'⟩ := hleads'.names.exists_parts
    obtain ⟨steps, hsteps, hbackup⟩ := Path.steps_withSuffix hparts hname hslash
    obtain ⟨steps', hsteps', hbackup'⟩ := Path.steps_withSuffix hparts' hname' hslash
    have hall := hbackup.symm.trans ((Path.steps_congr hsame).trans hbackup')
    obtain ⟨rfl, hlast⟩ := List.append_inj' hall rfl
    obtain rfl := List.append_cancel_right (List.head_eq_of_cons_eq hlast)
    exact hne (hfiles.eq_of_steps h hp hq (hsteps.trans hsteps'.symm))
  · intro l hl hl'
    have hplace := h.leadsTo_withSuffix hleads hslash hl
    rw [h.leadsTo_withSuffix hleads' hslash hl'] at hplace
    obtain ⟨rfl, hlast⟩ := List.append_inj' hplace rfl
    obtain rfl := List.append_cancel_right (List.head_eq_of_cons_eq hlast)
    exact hne (hfiles.eq_of_leadsTo hp hq hleads.leadsTo hleads'.leadsTo)

end

/-- No two files of a session have a place in common. -/
theorem Lists.separate (hslash : s.backup = true → '/' ∉ s.backupSuffix.toList)
    (hfiles : s.Lists d directory loc files) (h : d.Orderly) :
    files.Pairwise (s.Separate d) := by
  refine hfiles.nodup.imp_of_mem fun hp hq hne a ha b hb l hal hbl => ?_
  rcases mem_targets.mp ha with rfl | ⟨hbackup, rfl⟩
  · rcases mem_targets.mp hb with rfl | ⟨hbackup, rfl⟩
    · exact hne (hfiles.eq_of_leadsTo hp hq hal hbl)
    · exact (hfiles.apart (hslash hbackup) hq hp).places d l hbl hal
  · rcases mem_targets.mp hb with rfl | ⟨-, rfl⟩
    · exact (hfiles.apart (hslash hbackup) hp hq).places d l hal hbl
    · exact (hfiles.backups_apart (hslash hbackup) hp hq h hne).2 l hal hbl

/-! ### Sessions -/

/-- What a session has done, told by its report. -/
structure Settles (s : Session) (directory : Path) (d : Disk) (files : List Path)
    (report : SessionReport) (d' : Disk) : Prop where
  results : report.results.map (·.path) = files
  progress : report.progress = (List.range' 1 files.length).map (·, files.length)
  there : ∀ p ∈ files, d.holdsFile p = true
  fixed : ∀ fix ∈ report.results, s.Fixed d fix d'
  elsewhere : ∀ l, d'.entry? l = d.entry? l ∨
    ∃ fix ∈ report.results, fix.changed = true ∧
      (d.LeadsTo fix.path l ∨ s.backup = true ∧ d.LeadsTo (s.backupOf fix.path) l)
  apart : ∀ p ∈ files, ∀ q ∈ files, Apart (s.backupOf p) q
  backups : ∀ p ∈ files, ∀ q ∈ files, p ≠ q →
    (s.backupOf p).components ≠ (s.backupOf q).components ∧
      ∀ l, d.LeadsTo (s.backupOf p) l → ¬d.LeadsTo (s.backupOf q) l
  again : s.discover directory d' = .ok files
  idle : (∀ fix ∈ report.results, fix.error = none) →
    (∀ p ∈ files, ∀ t, d.loadText p = .ok t → (s.engine.repair t).converged = true) →
      ∃ second, s.run directory d' = (.ok second, d') ∧
        second.summary.changed = 0 ∧ second.summary.replacements = 0

/-- A session lists its files exactly if their directories can be opened. Then it changes those that
it should, and nothing more when it is run again. -/
theorem run_settles (s : Session) (hdry : s.dryRun = false) (hsuffix : s.backupSuffix.toList ≠ [])
    (hslash : '/' ∉ s.backupSuffix.toList) (directory : Path) {d : Disk} (h : d.Orderly)
    (htakes : d.TakesWrites) :
    ((∃ files, s.discover directory d = .ok files) ↔ d.Walkable directory) ∧
      ∀ files, s.discover directory d = .ok files →
        ∃ report d', s.run directory d = (.ok report, d') ∧
          s.Settles directory d files report d' := by
  refine ⟨exists_discover_iff h, fun files hfiles => ?_⟩
  obtain ⟨loc, -, hlists⟩ := lists_of_discover h hfiles
  rcases hall : s.fixAll files d with ⟨fixes, d'⟩
  have hapart : files.Pairwise (s.Separate d) := hlists.separate (fun _ => hslash) h
  obtain ⟨hpaths, halters, hfixed⟩ := fixAll_fixed hdry (fun _ => hsuffix) (fun _ => hslash)
    h.toLinkFree htakes hapart hall
  have hretains : d.Retains d' := by
    have hretains := retains_fixAll s files d
    rwa [hall] at hretains
  have hvisited : ∀ fix ∈ fixes, fix.path ∈ files :=
    fun fix hfix => hpaths ▸ List.mem_map_of_mem hfix
  have helsewhere : ∀ l, d'.entry? l = d.entry? l ∨ ∃ fix ∈ fixes, fix.changed = true ∧
      (d.LeadsTo fix.path l ∨ s.backup = true ∧ d.LeadsTo (s.backupOf fix.path) l) := by
    intro l
    rcases halters.entry l with hsame | ⟨q, hq, hleads⟩
    · exact .inl hsame
    · obtain ⟨fix, hfix, hchanged, hq⟩ := mem_written.mp hq
      refine .inr ⟨fix, hfix, hchanged, ?_⟩
      rcases mem_targets.mp hq with rfl | ⟨hbackup, rfl⟩
      · exact .inl hleads
      · exact .inr ⟨hbackup, hleads⟩
  have hagain : s.discover directory d' = .ok files := by
    refine discover_again h halters.changes hretains.file (h.of_alters halters hretains) ?_ hfiles
    intro q l hvisits hleads hfile
    rcases helsewhere l with hsame | ⟨fix, hfix, -, hleads' | ⟨-, hleads'⟩⟩
    · rwa [← file?_congr hsame]
    · obtain ⟨-, ns, -, hplace, hthere⟩ := (hlists.mem _).mp (hvisited fix hfix)
      rwa [hleads'.unique hplace]
    -- a backup is no file that the session visits
    · obtain ⟨-, ns, -, hplace, -⟩ := (hlists.mem _).mp (hvisited fix hfix)
      exact absurd hleads ((hvisits.apart hslash hplace hleads).places d l hleads')
  refine ⟨_, d', by rw [run_of_discover hfiles, hall], hpaths, rfl, fun p hp => ?_, hfixed,
    helsewhere, fun p hp q hq => hlists.apart hslash hp hq,
    fun p hp q hq hne => hlists.backups_apart hslash hp hq h hne, hagain,
    fun hnone hconverged => ?_⟩
  · obtain ⟨-, ns, -, hleads, hthere⟩ := (hlists.mem p).mp hp
    exact h.holdsFile_of_leadsTo hleads hthere
  · have hidle : ∀ p ∈ files, ∃ passes warnings, s.fixFile p d' =
        (⟨p, false, 0, passes, none, warnings, none⟩, d') := by
      intro p hp
      obtain ⟨fix, hfix, rfl⟩ := List.mem_map.mp (hpaths ▸ hp)
      exact (hfixed fix hfix).idle h.toLinkFree halters.changes (hnone fix hfix)
        (hconverged fix.path hp)
    obtain ⟨again, hall', hquiet⟩ := fixAll_idle hidle
    refine ⟨_, by rw [run_of_discover hagain, hall'], ?_⟩
    simp only [summarize_unchanged hquiet, and_self]

/-- Files that need a repair and one that does not, one that is no text, and one whose backup cannot
be made. -/
def drafts : Disk :=
  .ofTree ["w".toList]
    [(["w".toList, "a.tex".toList], .file escapedText false),
      (["w".toList, "b.tex".toList], .file (.ofText "\\emph\x7bhi\x7d\n".toList) false),
      (["w".toList, "b.tex.bak".toList], .file escapedText false),
      (["w".toList, "c.tex".toList], .file [0xff] false),
      (["w".toList, "e.tex".toList], .file escapedText false),
      (["w".toList, "e.tex.bak".toList], .directory),
      (["w".toList, "sub".toList], .directory),
      (["w".toList, "sub".toList, "d.sty".toList], .file escapedText false)]

theorem drafts_orderly : drafts.Orderly :=
  .of_entries (.of_entries (by decide +kernel) (by decide +kernel) (by decide +kernel))
    (by decide +kernel) (by decide +kernel)

theorem run_settles_drafts :
    let s : Session := {}
    let files := ["./a.tex", "./b.tex", "./c.tex", "./e.tex", "./sub/d.sty"].map Path.ofString
    s.discover (.ofString ".") drafts = .ok files ∧
      (s.fixAll files drafts).1.map (fun fix => (fix.changed, fix.error.isSome)) =
        [(true, false), (false, false), (false, true), (true, true), (true, false)] ∧
      drafts.Orderly ∧ drafts.TakesWrites ∧
      ∃ report d', s.run (.ofString ".") drafts = (.ok report, d') ∧
        s.Settles (.ofString ".") drafts files report d' := by
  intro s files
  have hfiles : s.discover (.ofString ".") drafts = .ok files := by
    refine discover_eq_ok_iff.mpr
      ⟨["./a.tex", "./b.tex", "./b.tex.bak", "./c.tex", "./e.tex", "./sub/d.sty"].map Path.ofString,
        by rfl, ?_⟩
    rw [List.mergeSort_of_pairwise (by decide +kernel)]
    decide +kernel
  have htakes : drafts.TakesWrites := fun _ _ => rfl
  have hescaped : escapedText = _ := congrArg Bytes.ofText String.toList_ofList
  have hfixed : (s.fixAll files drafts).1.map (fun fix => (fix.changed, fix.error.isSome)) =
      [(true, false), (false, false), (false, true), (true, true), (true, false)] := by
    rw [drafts, hescaped]
    decide +kernel
  refine ⟨hfiles, hfixed, drafts_orderly, htakes, ?_⟩
  exact (run_settles s rfl (by decide) (by decide) (.ofString ".") drafts_orderly htakes).2
    files hfiles

end Repair.Session

end Manuscript
