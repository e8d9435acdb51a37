import Manuscript.Proofs.Repair.Session

/-!
A rehearsal tells what the session will report.

A session that writes nothing finds every file as it was at first. One that does
write has changed files and backups by the time it comes to a later file, but
never one that it still has to read. So the two come to the same results for as
long as nothing fails that only writing can meet.
-/

namespace Manuscript.Repair

open Disk

/-- What happened to a file, but for its backup. -/
def FileFix.withoutBackup (fix : FileFix) : FileFix :=
  { fix with backup := none }

namespace Session

variable {s : Session} {d d₀ d₁ d' : Disk} {p : Path} {files : List Path}

def rehearsed (s : Session) : Session :=
  { s with dryRun := true }

def performed (s : Session) : Session :=
  { s with dryRun := false }

/-! ### Without writing -/

theorem fixFile_rehearsed_idle (s : Session) (p : Path) (d : Disk) :
    (s.rehearsed.fixFile p d).2 = d ∧ (s.rehearsed.fixFile p d).1.backup = none := by
  rw [fixFile]
  cases d.loadText p with
  | error e => exact ⟨rfl, rfl⟩
  | ok t =>
      simp only [rehearsed, if_true]
      split
      · exact ⟨rfl, rfl⟩
      · exact ⟨rfl, rfl⟩

theorem fixAll_rehearsed_idle (s : Session) (files : List Path) (d : Disk) :
    (s.rehearsed.fixAll files d).2 = d ∧
      ∀ fix ∈ (s.rehearsed.fixAll files d).1, fix.backup = none := by
  induction files with
  | nil => exact ⟨rfl, List.forall_mem_nil _⟩
  | cons p ps ih =>
      obtain ⟨hkept, hbackup⟩ := s.fixFile_rehearsed_idle p d
      simp only [fixAll, hkept]
      exact ⟨ih.1, List.forall_mem_cons.mpr ⟨hbackup, ih.2⟩⟩

/-! ### What both report of a file -/

/-- Writing without an error adds the backup to what is reported. -/
theorem overwrite_withoutBackup {fix fix' : FileFix} (hbackup : fix.backup = none) {t : Text}
    (hdone : s.overwrite fix t d = (fix', d')) (herror : fix'.error = none) :
    fix'.withoutBackup = fix := by
  rw [overwrite] at hdone
  rcases hback : s.backUp fix.path d with ⟨e | b, d₁⟩
  · rw [hback] at hdone
    obtain ⟨rfl, -⟩ := Prod.mk.inj hdone
    cases herror
  · rcases hstore : d₁.storeText fix.path t with ⟨e | u, d₂⟩
    · simp only [hback, hstore] at hdone
      obtain ⟨rfl, -⟩ := Prod.mk.inj hdone
      cases herror
    · simp only [hback, hstore] at hdone
      obtain ⟨rfl, -⟩ := Prod.mk.inj hdone
      rw [FileFix.withoutBackup, ← hbackup]

/-- A file that still holds what it did at first is reported as it would have been then. -/
theorem fixFile_rehearsed (h : d₀.LinkFree) (hd : d₀.ChangesFiles d)
    (hsame : d.content? p = d₀.content? p) {fix : FileFix}
    (hdone : s.performed.fixFile p d = (fix, d')) (herror : fix.error = none) :
    s.rehearsed.fixFile p d₀ = (fix.withoutBackup, d₀) := by
  rw [fixFile] at hdone
  cases hload : d.loadText p with
  | error e =>
      rw [hload] at hdone
      obtain ⟨rfl, -⟩ := Prod.mk.inj hdone
      cases herror
  | ok t =>
      have hload₀ := (loadText_congr h hd hsame).mp hload
      simp only [hload, performed, Bool.false_eq_true, if_false] at hdone
      rw [fixFile, hload₀]
      simp only [rehearsed, if_true]
      cases hchanged : (s.engine.repair t).changed with
      | false =>
          simp only [hchanged, Bool.not_false, if_true] at hdone ⊢
          obtain ⟨rfl, -⟩ := Prod.mk.inj hdone
          rfl
      | true =>
          simp only [hchanged, Bool.not_true, Bool.false_eq_true, if_false] at hdone ⊢
          rw [overwrite_withoutBackup rfl hdone herror]

/-! ### All files -/

section

variable (hsuffix : s.backup = true → s.backupSuffix.toList ≠ [])
  (hslash : s.backup = true → '/' ∉ s.backupSuffix.toList) (h : d₀.LinkFree)
include hsuffix hslash h

theorem fixAll_rehearsed (hapart : files.Pairwise (s.performed.Separate d₀))
    (hd : d₀.ChangesFiles d) (hsame : ∀ q ∈ files, d.content? q = d₀.content? q)
    {fixes : List FileFix} (hdone : s.performed.fixAll files d = (fixes, d'))
    (herror : ∀ fix ∈ fixes, fix.error = none) :
    s.rehearsed.fixAll files d₀ = (fixes.map FileFix.withoutBackup, d₀) := by
  -- the disk of the performance changes from file to file, that of the rehearsal does not
  induction files generalizing d fixes with
  | nil =>
      obtain ⟨rfl, -⟩ := Prod.mk.inj hdone
      rfl
  | cons p ps ih =>
      obtain ⟨hfirst, hrest⟩ := List.pairwise_cons.mp hapart
      rcases hfix : s.performed.fixFile p d with ⟨fix, d₁⟩
      rcases hall : s.performed.fixAll ps d₁ with ⟨others, d₂⟩
      rw [fixAll, hfix] at hdone
      simp only [hall] at hdone
      obtain ⟨rfl, rfl⟩ := Prod.mk.inj hdone
      obtain ⟨herror₁, herrors⟩ := List.forall_mem_cons.mp herror
      have hnow : s.rehearsed.fixFile p d₀ = (fix.withoutBackup, d₀) :=
        fixFile_rehearsed h hd (hsame p List.mem_cons_self) hfix herror₁
      have hd' := h.of_changesFiles hd
      obtain ⟨-, -, halters⟩ := fixFile_fixed (s := s.performed) rfl hsuffix hslash hd' hfix
      -- what was written for this file is in no place that a later one is read from
      have hlater : ∀ q ∈ ps, d₁.content? q = d₀.content? q := by
        intro q hq
        rw [← hsame q (List.mem_cons_of_mem _ hq)]
        refine halters.content? hd' fun b hb l hql hbl => ?_
        split at hb
        next =>
          exact (hfirst q hq).of_changesFiles h hd b hb q (s.performed.self_mem_targets q) l hbl hql
        next => cases hb
      have hthen := ih hrest (hd.trans halters.changes) hlater hall herrors
      rw [fixAll, hnow]
      simp only [hthen, List.map_cons]

end

theorem summarize_withoutBackup (fixes : List FileFix) :
    summarize (fixes.map FileFix.withoutBackup) = summarize fixes := by
  have hchanged : (fixes.map FileFix.withoutBackup).filter (·.changed) =
      (fixes.filter (·.changed)).map FileFix.withoutBackup := List.filter_map
  rw [summarize, summarize, hchanged, List.length_map, List.length_map, List.foldr_map]
  rfl

/-- The session without writing leaves the disk and makes no backup, and it reports what the session
with writing does if that meets no error. -/
theorem run_rehearsed (s : Session) (hsuffix : s.backupSuffix.toList ≠ [])
    (hslash : '/' ∉ s.backupSuffix.toList) (directory : Path) {d : Disk} (h : d.Orderly) :
    (s.rehearsed.run directory d).2 = d ∧
      (∀ report d', s.rehearsed.run directory d = (.ok report, d') →
        ∀ fix ∈ report.results, fix.backup = none) ∧
      (∀ e d', s.performed.run directory d = (.error e, d') →
        s.rehearsed.run directory d = (.error e, d')) ∧
      ∀ report d', s.performed.run directory d = (.ok report, d') →
        (∀ fix ∈ report.results, fix.error = none) →
        s.rehearsed.run directory d =
          (.ok { report with results := report.results.map FileFix.withoutBackup }, d) := by
  have hdiscover : s.rehearsed.discover directory d = s.performed.discover directory d := rfl
  cases hfiles : s.performed.discover directory d with
  | error e =>
      rw [run, run, hdiscover, hfiles]
      refine ⟨rfl, fun report d' hdone => ?_, fun e d' hdone => ?_, fun report d' hdone => ?_⟩
      · cases hdone
      · exact hdone
      · cases hdone
  | ok files =>
      rw [run_of_discover hfiles, run_of_discover (hdiscover.trans hfiles)]
      obtain ⟨hkept, hbackup⟩ := s.fixAll_rehearsed_idle files d
      refine ⟨hkept, fun report d' hdone => ?_, fun e d' hdone => ?_,
        fun report d' hdone herror => ?_⟩
      · obtain ⟨hreport, -⟩ := Prod.mk.inj hdone
        obtain rfl := Except.ok.inj hreport
        exact hbackup
      · cases hdone
      · obtain ⟨loc, -, hlists⟩ := lists_of_discover h hfiles
        have hapart : files.Pairwise (s.performed.Separate d) :=
          hlists.separate (fun _ => hslash) h
        rcases hall : s.performed.fixAll files d with ⟨fixes, d₁⟩
        simp only [hall] at hdone
        obtain ⟨hreport, -⟩ := Prod.mk.inj hdone
        obtain rfl := Except.ok.inj hreport
        have hrehearsed : s.rehearsed.fixAll files d = (fixes.map FileFix.withoutBackup, d) :=
          fixAll_rehearsed (fun _ => hsuffix) (fun _ => hslash) h.toLinkFree hapart (.refl d)
            (fun _ _ => rfl) hall herror
        simp only [hrehearsed, summarize_withoutBackup]

/-- Two files that need a repair, one of them with a backup from before, and one that does not. -/
def chapters : Disk :=
  .ofTree ["w".toList]
    [(["w".toList, "a.tex".toList], .file escapedText false),
      (["w".toList, "a.tex.bak".toList], .file [0xff] false),
      (["w".toList, "b.tex".toList], .file (.ofText "\\emph\x7bhi\x7d\n".toList) false),
      (["w".toList, "sub".toList], .directory),
      (["w".toList, "sub".toList, "c.sty".toList], .file escapedText false)]

theorem chapters_orderly : chapters.Orderly :=
  .of_entries (.of_entries (by decide +kernel) (by decide +kernel) (by decide +kernel))
    (by decide +kernel) (by decide +kernel)

theorem run_rehearsed_chapters :
    let s : Session := {}
    ∃ report d', s.performed.run (.ofString ".") chapters = (.ok report, d') ∧
      report.results.map (fun fix => (fix.changed, fix.backup, fix.error)) =
        [(true, some (.ofString "./a.tex.bak"), none), (false, none, none),
          (true, some (.ofString "./sub/c.sty.bak"), none)] ∧
      s.rehearsed.run (.ofString ".") chapters =
        (.ok { report with results := report.results.map FileFix.withoutBackup }, chapters) := by
  intro s
  have hfiles : s.performed.discover (.ofString ".") chapters =
      .ok (["./a.tex", "./b.tex", "./sub/c.sty"].map Path.ofString) := by
    refine discover_eq_ok_iff.mpr
      ⟨["./a.tex", "./a.tex.bak", "./b.tex", "./sub/c.sty"].map Path.ofString, by rfl, ?_⟩
    rw [List.mergeSort_of_pairwise (by decide +kernel)]
    decide +kernel
  have hescaped : escapedText = _ := congrArg Bytes.ofText String.toList_ofList
  refine ⟨_, _, run_of_discover hfiles, ?_, ?_⟩
  · rw [chapters, hescaped]
    decide +kernel
  · refine (run_rehearsed s (by decide) (by decide) (.ofString ".") chapters_orderly).2.2.2 _ _
      (run_of_discover hfiles) ?_
    rw [chapters, hescaped]
    decide +kernel

end Session

end Manuscript.Repair
