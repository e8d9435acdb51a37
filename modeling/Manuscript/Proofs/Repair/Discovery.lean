import Manuscript.Proofs.Disk.Listing
import Manuscript.Proofs.Path.Order
import Manuscript.Repair.Session

/-!
The files that a session visits.

They are the files below its directory that have one of its extensions and do
not end with its backup suffix, in the order of their paths and each once. This
determines the list. So a change of files that takes none away, and adds none
that a session visits, leaves the list as it is, and so does another order of the
entries.
-/

namespace Manuscript.Repair.Session

open Disk

variable {s : Session} {d d' : Disk} {directory p q : Path} {loc : Location}
  {files files' : List Path}

/-- A session visits files with one of its extensions that are no backups. -/
def Visits (s : Session) (p : Path) : Prop :=
  hasExtension s.extensions p = true ∧ ¬s.backupSuffix.toList <:+ p.text

theorem discover_eq_ok_iff : s.discover directory d = .ok files ↔
    ∃ all, d.filesAt directory = .ok all ∧
      files = ((all.filter (hasExtension s.extensions)).mergeSort Path.le).filter
        fun p => !s.backupSuffix.toList.isSuffixOf p.text := by
  rw [discover, findFiles]
  cases d.filesAt directory with
  | error e => simp
  | ok all => simp [eq_comm]

/-- The files of a session below a directory, in the order of their paths. -/
structure Lists (s : Session) (d : Disk) (directory : Path) (loc : Location)
    (files : List Path) : Prop where
  mem : ∀ p, p ∈ files ↔ s.Visits p ∧
    ∃ ns, p = directory.below ns ∧ d.LeadsTo p (loc ++ ns) ∧ d.file? (loc ++ ns) ≠ none
  nodup : files.Nodup
  sorted : files.Pairwise (Path.le · · = true)

theorem lists_of_discover (h : d.Orderly) (hfiles : s.discover directory d = .ok files) :
    ∃ loc, d.Begins directory loc ∧ s.Lists d directory loc files := by
  obtain ⟨all, hall, rfl⟩ := discover_eq_ok_iff.mp hfiles
  obtain ⟨loc, hbegins⟩ := h.begins_of_filesAt hall
  have hperm := List.mergeSort_perm (all.filter (hasExtension s.extensions)) Path.le
  refine ⟨loc, hbegins, fun p => ?_, ?_, ?_⟩
  · rw [List.mem_filter, hperm.mem_iff, List.mem_filter, h.mem_filesAt hbegins hall, Visits]
    simp only [Bool.not_eq_eq_eq_not, Bool.not_true, Bool.eq_false_iff, ne_eq,
      List.isSuffixOf_iff_suffix]
    tauto
  · exact (hperm.nodup_iff.mpr ((h.nodup_filesAt hbegins hall).filter _)).filter _
  · exact (Path.pairwise_mergeSort _).filter _

namespace Lists

theorem proper (h : d.Orderly) {ns : List Text} (hfile : d.file? (loc ++ ns) ≠ none) :
    ∀ name ∈ ns, ProperName name :=
  fun _ hname => h.properName_of_mem (entry?_ne_none_of_file? hfile) hname

/-- A file is listed under one spelling only. -/
theorem eq_of_steps (h : d.Orderly) (hfiles : s.Lists d directory loc files) (hp : p ∈ files)
    (hq : q ∈ files) (hsteps : p.steps = q.steps) : p = q := by
  obtain ⟨-, ns, rfl, -, hfile⟩ := (hfiles.mem p).mp hp
  obtain ⟨-, ms, rfl, -, hfile'⟩ := (hfiles.mem q).mp hq
  rw [steps_below _ (proper h hfile), steps_below _ (proper h hfile')] at hsteps
  rw [List.append_cancel_left hsteps]

theorem eq_of_leadsTo (hfiles : s.Lists d directory loc files) (hp : p ∈ files) (hq : q ∈ files)
    {l : Location} (hpl : d.LeadsTo p l) (hql : d.LeadsTo q l) : p = q := by
  obtain ⟨-, ns, rfl, hleads, -⟩ := (hfiles.mem p).mp hp
  obtain ⟨-, ms, rfl, hleads', -⟩ := (hfiles.mem q).mp hq
  have hsame : loc ++ ns = loc ++ ms :=
    ((hpl.unique hleads).symm.trans (hql.unique hleads'))
  rw [List.append_cancel_left hsame]

theorem eq_of_mem_iff (h : d.Orderly) (hfiles : s.Lists d directory loc files)
    (hfiles' : s.Lists d' directory loc files') (hmem : ∀ p, p ∈ files ↔ p ∈ files') :
    files = files' := by
  refine Path.eq_of_sorted hfiles.sorted hfiles'.sorted
    ((List.perm_ext_iff_of_nodup hfiles.nodup hfiles'.nodup).mpr hmem) fun p hp q hq hsame => ?_
  exact hfiles.eq_of_steps h hp hq (Path.steps_congr hsame)

end Lists

theorem exists_discover_iff (h : d.Orderly) :
    (∃ files, s.discover directory d = .ok files) ↔ d.Walkable directory := by
  simp only [discover_eq_ok_iff, ← h.exists_filesAt_iff]
  constructor
  · rintro ⟨files, all, hall, -⟩
    exact ⟨all, hall⟩
  · rintro ⟨all, hall⟩
    exact ⟨_, all, hall, rfl⟩

section

variable (h : d.Orderly) (hd : d.ChangesFiles d')
  (hkept : ∀ l, d.file? l ≠ none → d'.file? l ≠ none)
include h hd hkept

theorem begins_of_kept (hp : d.Begins p loc) : d'.Begins p loc := by
  cases hp with
  | directory henters => exact .directory ((Extends.of_changesFiles h.toLinkFree hd).enters henters)
  | file hleads hfile =>
      exact .file ((leadsTo_changesFiles h.toLinkFree hd).mpr hleads) (hkept loc hfile)

/-- If no file goes and none comes that it visits, a session visits the same files again. -/
theorem discover_again (h' : d'.Orderly)
    (hnew : ∀ p l, s.Visits p → d.LeadsTo p l → d'.file? l ≠ none → d.file? l ≠ none)
    (hfiles : s.discover directory d = .ok files) : s.discover directory d' = .ok files := by
  have hwalkable : d'.Walkable directory := by
    obtain ⟨loc, hbegins, hopen⟩ := (exists_discover_iff h).mp ⟨files, hfiles⟩
    refine ⟨loc, begins_of_kept h hd hkept hbegins, fun ns hdir => hopen ns ?_⟩
    exact (hd.directory _).mp hdir
  obtain ⟨files', hfiles'⟩ := (exists_discover_iff h').mpr hwalkable
  obtain ⟨loc, hbegins, hlists⟩ := lists_of_discover h hfiles
  obtain ⟨loc', hbegins', hlists'⟩ := lists_of_discover h' hfiles'
  have hloc : loc = loc' := by
    obtain ⟨e, hspot, -⟩ := h'.spot_of_begins (begins_of_kept h hd hkept hbegins) false
    obtain ⟨e', hspot', -⟩ := h'.spot_of_begins hbegins' false
    exact (Spot.taken.inj (Except.ok.inj (hspot.symm.trans hspot'))).1
  subst hloc
  have hsame : files = files' := by
    refine hlists.eq_of_mem_iff h hlists' fun p => ?_
    rw [hlists.mem, hlists'.mem]
    refine and_congr_right fun hvisits => exists_congr fun ns => and_congr_right fun _ => ?_
    rw [leadsTo_changesFiles h.toLinkFree hd]
    exact and_congr_right fun hleads => ⟨hkept _, hnew _ _ hvisits hleads⟩
  rw [hfiles', hsame]

end

/-! ### Other orders of the same tree -/

section

variable {es : List (Location × Entry)}

theorem discover_of_perm (h : d.Orderly) (hes : es.Perm d.entries)
    (hfiles : s.discover directory d = .ok files) :
    s.discover directory { d with entries := es } = .ok files := by
  have hsame : ∀ l, file? { d with entries := es } l = d.file? l :=
    fun l => file?_congr (h.entry?_perm hes l)
  refine discover_again h (h.changesFiles_perm hes) (fun l hl => ?_) (h.perm hes)
    (fun p l _ _ hl => ?_) hfiles
  · rwa [hsame]
  · rwa [hsame] at hl

/-- The order in which a directory lists its entries does not matter. -/
theorem discover_perm_iff (h : d.Orderly) (hes : es.Perm d.entries) :
    s.discover directory { d with entries := es } = .ok files ↔
      s.discover directory d = .ok files := by
  have h' : Orderly { d with entries := es } := h.perm hes
  exact ⟨discover_of_perm h' hes.symm, discover_of_perm h hes⟩

theorem Lists.ascending (h : d.Orderly) (hfiles : s.Lists d directory loc files) :
    files.Pairwise Path.Precedes := by
  refine (hfiles.sorted.and hfiles.nodup).imp_of_mem fun hp hq hpq => Path.le_and_ne_iff.mp ?_
  exact ⟨hpq.1, fun hsame => hpq.2 (hfiles.eq_of_steps h hp hq (Path.steps_congr hsame))⟩

theorem visits_iff : s.Visits p ↔
    (∃ ext, p.extension? = some ext ∧ ∃ wanted ∈ s.extensions,
      Text.lower (wanted.toList.dropWhile (· == '.')) = Text.lower ext) ∧
      ¬s.backupSuffix.toList <:+ p.text := by
  rw [Visits, hasExtension]
  cases p.extension? with
  | none => simp
  | some ext => simp

/-- On an orderly disk a session comes to a list of files if there is something at its directory and
each directory below can be opened. In whatever order the entries are listed, the list is the same:
it ascends by components, and holds the files below the directory, short enough to be looked up,
that have one of the extensions, in any case and with or without a leading dot, and are no
backups. -/
theorem discover_selects (h : d.Orderly) (hes : es.Perm d.entries) (s : Session)
    (directory : Path) :
    ((∃ files, s.discover directory d = .ok files) ↔ d.Walkable directory) ∧
      (∀ files, s.discover directory { d with entries := es } = .ok files ↔
        s.discover directory d = .ok files) ∧
      ∀ files, s.discover directory d = .ok files →
        files.Pairwise Path.Precedes ∧ ∃ loc, d.Begins directory loc ∧ ∀ p, p ∈ files ↔
          (∃ ns, p = directory.below ns ∧ d.file? (loc ++ ns) ≠ none ∧
            p.text.byteSize ≤ maxPathBytes) ∧
          (∃ ext, p.extension? = some ext ∧ ∃ wanted ∈ s.extensions,
            Text.lower (wanted.toList.dropWhile (· == '.')) = Text.lower ext) ∧
          ¬s.backupSuffix.toList <:+ p.text := by
  refine ⟨exists_discover_iff h, fun files => discover_perm_iff h hes, fun files hfiles => ?_⟩
  obtain ⟨loc, hbegins, hlists⟩ := lists_of_discover h hfiles
  refine ⟨hlists.ascending h, loc, hbegins, fun p => ?_⟩
  rw [hlists.mem, visits_iff, and_comm]
  refine and_congr_left fun _ => exists_congr fun ns => and_congr_right fun hp => ?_
  rw [and_comm]
  refine and_congr_right fun hfile => ?_
  rw [hp, h.leadsTo_below_iff hbegins hfile]

/-- Two files to visit, whose order is not that of their spellings, a backup with an extension, and
two names that have none. -/
def sections : Disk :=
  .ofTree ["w".toList]
    [(["w".toList, ".tex".toList], .file [] false),
      (["w".toList, "a".toList], .directory),
      (["w".toList, "a".toList, "B.TEX".toList], .file [] false),
      (["w".toList, "a".toList, "b.tex.bak".toList], .file [] false),
      (["w".toList, "a-1.tex".toList], .file [] false),
      (["w".toList, "tex.".toList], .file [] false)]

theorem sections_orderly : sections.Orderly :=
  .of_entries (.of_entries (by decide) (by decide) (by decide))
    (by decide) (by decide)

theorem discover_selects_sections :
    let s : Session := { extensions := ["..Tex", "bak"] }
    let files := ["./a/B.TEX", "./a-1.tex"].map Path.ofString
    let turned : Disk := { sections with entries := sections.entries.reverse }
    sections.Orderly ∧ turned.entries.Perm sections.entries ∧
      s.discover (.ofString ".") sections = .ok files ∧
      s.discover (.ofString ".") turned = .ok files ∧ files.Pairwise Path.Precedes := by
  intro s files turned
  have hperm : turned.entries.Perm sections.entries := List.reverse_perm _
  have hfiles : s.discover (.ofString ".") sections = .ok files := by
    refine discover_eq_ok_iff.mpr ⟨["./.tex", "./a/B.TEX", "./a/b.tex.bak", "./a-1.tex",
      "./tex."].map Path.ofString, by rfl, ?_⟩
    rw [List.mergeSort_of_pairwise (by decide)]
    decide
  have hselects := discover_selects sections_orderly hperm s (.ofString ".")
  exact ⟨sections_orderly, hperm, hfiles, (hselects.2.1 files).mpr hfiles,
    (hselects.2.2 files hfiles).1⟩

end

end Manuscript.Repair.Session
