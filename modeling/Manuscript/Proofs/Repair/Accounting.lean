import Manuscript.CommandLine.Commands
import Manuscript.Proofs.Repair.Rehearsal

/-!
What the report of a session counts.

A file counts as changed once its repair did something, before the backup is made
and the text is written. If one of these fails, the file keeps what it held and
still counts. So the totals and the printed lines are about the files that were
rewritten and, besides, about those that only should have been.
-/

namespace Manuscript.Repair

open Disk

/-- A repair by the standard rules that counted anything has changed the text. -/
theorem text_ne_of_changed {e : Engine} (htable : e.table = Standard.table) {t : Text}
    (h : (e.repair t).changed = true) : (e.repair t).text ≠ t := by
  obtain ⟨table, n, v⟩ := e
  obtain rfl : table = Standard.table := htable
  obtain ⟨a, b, ha, hstrip⟩ := repair_strips n v t
  rw [Outcome.changed, decide_eq_true_iff] at h
  exact hstrip.ne (by omega)

namespace SessionReport

def rewritten (r : SessionReport) (d d' : Disk) : List FileFix :=
  r.results.filter fun fix => d'.content? fix.path ≠ d.content? fix.path

/-- The files that count as changed though an error kept them as they were. -/
def missed (r : SessionReport) : List FileFix :=
  r.results.filter fun fix => fix.changed && fix.error.isSome

/-- What the report of a session says, as against what the session did. -/
structure Accounts (r : SessionReport) (d d' : Disk) : Prop where
  rewritten : ∀ fix ∈ r.results, d'.content? fix.path ≠ d.content? fix.path ↔
    fix.changed = true ∧ fix.error = none
  changed : r.summary.changed = (r.rewritten d d').length + r.missed.length
  replacements : r.summary.replacements =
    ((r.rewritten d d').map (·.count)).sum + (r.missed.map (·.count)).sum
  /-- The lines that say of a file that it was fixed, and the one with the totals. -/
  lines : ∃ fixed, CommandLine.fixText false r =
      Text.joinWith ['\n'] (fixed ++ [r.summary.text.toList]) ∧
    fixed.Perm ((r.rewritten d d' ++ r.missed).map (CommandLine.fixLine false))
  /-- The flags tell which files were rewritten exactly if no repair was kept from being written. -/
  flags : (∀ fix ∈ r.results, fix.changed = true ↔ d'.content? fix.path ≠ d.content? fix.path) ↔
    r.missed = []

end SessionReport

namespace Session

variable {s : Session} {d d' : Disk} {directory : Path} {files : List Path}

/-- A file is rewritten exactly if its repair did something and nothing failed. -/
theorem Fixed.rewritten_iff (htable : s.engine.table = Standard.table) (h : d.LinkFree)
    {fix : FileFix} (hfixed : s.Fixed d fix d') :
    d'.content? fix.path ≠ d.content? fix.path ↔ fix.changed = true ∧ fix.error = none := by
  constructor
  · intro hother
    refine ⟨?_, ?_⟩
    · by_contra hchanged
      exact hother (hfixed.kept (.inl (Bool.eq_false_iff.mpr hchanged)))
    · by_contra herror
      exact hother (hfixed.kept (.inr herror))
  · rintro ⟨hchanged, herror⟩ hsame
    obtain ⟨t, hload⟩ := hfixed.loaded herror
    obtain ⟨hwritten, -⟩ := hfixed.repaired hchanged herror t hload
    obtain ⟨loc, bytes, -, -, hcontent, htext⟩ := h.loadText_eq_ok_iff.mp hload
    have hrepaired : (s.engine.repair t).changed = true :=
      (hfixed.changed t hload).symm.trans hchanged
    -- the bytes of the repaired text would spell the text before the repair
    have hbytes : Bytes.ofText (s.engine.repair t).text = bytes :=
      Option.some.inj (hwritten.symm.trans (hsame.trans hcontent))
    rw [← hbytes, Bytes.text?_ofText] at htext
    exact text_ne_of_changed htable hrepaired (Option.some.inj htext)

theorem accounts_of_rewritten {r : SessionReport} (hsummary : r.summary = summarize r.results)
    (hrewritten : ∀ fix ∈ r.results, d'.content? fix.path ≠ d.content? fix.path ↔
      fix.changed = true ∧ fix.error = none) : r.Accounts d d' := by
  let counted := r.results.filter (·.changed)
  have hwritten : r.rewritten d d' = counted.filter (!·.error.isSome) := by
    rw [List.filter_filter]
    refine List.filter_congr fun fix hfix => ?_
    rw [Bool.and_comm]
    cases herror : fix.error with
    | none => simp [hrewritten fix hfix, herror]
    | some e => simp [hrewritten fix hfix, herror]
  have hmissed : r.missed = counted.filter (·.error.isSome) := by
    rw [List.filter_filter]
    refine List.filter_congr fun fix _ => ?_
    rw [Bool.and_comm]
  have hperm : (r.rewritten d d' ++ r.missed).Perm counted := by
    rw [hwritten, hmissed]
    exact List.perm_append_comm.trans (List.filter_append_perm _ counted)
  refine ⟨hrewritten, ?_, ?_, ⟨_, rfl, hperm.symm.map _⟩, ?_⟩
  · rw [hsummary, ← List.length_append, hperm.length_eq]
    rfl
  · have hsum : r.summary.replacements = (counted.map (·.count)).sum := by
      rw [hsummary, List.sum_eq_foldr, List.foldr_map]
      rfl
    rw [hsum, ← List.sum_append_nat, ← List.map_append, (hperm.map _).sum_nat]
  · rw [SessionReport.missed, List.filter_eq_nil_iff]
    refine forall₂_congr fun fix hfix => ?_
    rw [hrewritten fix hfix]
    cases fix.changed with
    | false => simp
    | true => simp

/-- What a session reports is about the files that it rewrote and those that it could not. -/
theorem run_accounts (s : Session) (htable : s.engine.table = Standard.table)
    (hdry : s.dryRun = false) (hslash : s.backup = true → '/' ∉ s.backupSuffix.toList)
    (directory : Path) {d : Disk} (h : d.Orderly) (htakes : d.TakesWrites) {r : SessionReport}
    (hdone : s.run directory d = (.ok r, d')) : r.Accounts d d' := by
  cases hfiles : s.discover directory d with
  | error e =>
      rw [run, hfiles] at hdone
      cases hdone
  | ok files =>
      rw [run_of_discover hfiles] at hdone
      obtain ⟨hreport, hdisk⟩ := Prod.mk.inj hdone
      obtain rfl := Except.ok.inj hreport
      refine accounts_of_rewritten rfl fun fix hfix => ?_
      have hall : s.fixAll files d = ((s.fixAll files d).1, d') := by rw [← hdisk]
      obtain ⟨loc, -, hlists⟩ := lists_of_discover h hfiles
      -- no file is visited that ends with an empty suffix, which all do
      have hsuffix : s.backup = true → s.backupSuffix.toList ≠ [] := by
        intro _ hempty
        have hnone : files = [] := by
          refine List.eq_nil_iff_forall_not_mem.mpr fun p hp => ((hlists.mem p).mp hp).1.2 ?_
          rw [hempty]
          exact List.nil_suffix
        rw [hnone] at hfix
        cases hfix
      obtain ⟨-, -, hfixed⟩ := fixAll_fixed hdry hsuffix hslash h.toLinkFree htakes
        (hlists.separate hslash h) hall
      exact (hfixed fix hfix).rewritten_iff htable h.toLinkFree

/-- Two files that need a repair; the backup of the first one cannot be made. -/
def blocked : Disk :=
  .ofTree ["w".toList]
    [(["w".toList, "a.tex".toList], .file escapedText false),
      (["w".toList, "a.tex.bak".toList], .directory),
      (["w".toList, "b.tex".toList], .file escapedText false)]

theorem blocked_orderly : blocked.Orderly :=
  .of_entries (.of_entries (by decide +kernel) (by decide +kernel) (by decide +kernel))
    (by decide +kernel) (by decide +kernel)

theorem discover_blocked : Session.discover {} (.ofString ".") blocked =
    .ok (["./a.tex", "./b.tex"].map Path.ofString) := by
  refine discover_eq_ok_iff.mpr ⟨["./a.tex", "./b.tex"].map Path.ofString, by rfl, ?_⟩
  rw [List.mergeSort_of_pairwise (by decide +kernel)]
  decide +kernel

theorem run_accounts_blocked : ∃ r d', Session.run {} (.ofString ".") blocked = (.ok r, d') ∧
    r.missed.map (·.path) = [.ofString "./a.tex"] ∧
    (r.rewritten blocked d').map (·.path) = [.ofString "./b.tex"] ∧ r.Accounts blocked d' := by
  have hescaped : escapedText = _ := congrArg Bytes.ofText String.toList_ofList
  refine ⟨_, _, run_of_discover discover_blocked, ?_, ?_,
    run_accounts {} rfl rfl (by decide) _ blocked_orderly (fun _ _ => rfl)
      (run_of_discover discover_blocked)⟩
  · rw [blocked, hescaped]
    decide +kernel
  · rw [blocked, hescaped]
    decide +kernel

/-- A file that counts as changed need not have been rewritten. -/
theorem not_changed_iff_rewritten : ¬∀ r d', Session.run {} (.ofString ".") blocked = (.ok r, d') →
    ∀ fix ∈ r.results, fix.changed = true ↔ d'.content? fix.path ≠ blocked.content? fix.path := by
  intro h
  have hescaped : escapedText = _ := congrArg Bytes.ofText String.toList_ofList
  refine absurd (h _ _ (run_of_discover discover_blocked)) ?_
  rw [blocked, hescaped]
  decide +kernel

end Session

end Manuscript.Repair
