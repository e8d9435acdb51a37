import Manuscript.Proofs.Disk.Operation
import Manuscript.Proofs.Project.Reporting
import Mathlib.Data.List.Forall2

/-!
Placeholders for what is missing.

The placeholders are written one after the other, and a file that is there once
stays through all later writes, whatever these come to. So the reference of each
placeholder that was written is found when its project is resolved again, and
what is missing then are placeholders that could not be written.
-/

namespace Manuscript

variable {d d' : Disk}

/-! ### Files stay -/

/-- From one disk to the other no directory goes, and no file. -/
structure Disk.Keeps (d d' : Disk) : Prop where
  growth : d.Extends d'
  file : ∀ l, d.file? l ≠ none → d'.file? l ≠ none

namespace Disk.Keeps

theorem refl (h : d.LinkFree) : d.Keeps d :=
  ⟨.refl h, fun _ => id⟩

theorem trans {d₁ d₂ : Disk} (h : d.Keeps d₁) (k : d₁.Keeps d₂) : d.Keeps d₂ :=
  ⟨h.growth.trans k.growth, fun l hl => k.file l (h.file l hl)⟩

theorem holdsFile {p : Path} (h : d.LinkFree) (hd : d.Keeps d') (hp : d.holdsFile p = true) :
    d'.holdsFile p = true := by
  obtain ⟨loc, bytes, hleads, hfile⟩ := h.exists_leadsTo_of_holdsFile hp
  refine hd.growth.linkFree.holdsFile_of_leadsTo (hd.growth.leadsTo h hleads) (hd.file loc ?_)
  rw [hfile]
  exact Option.some_ne_none bytes

end Disk.Keeps

theorem Disk.LinkFree.storeText_keeps (h : d.LinkFree) (p : Path) (t : Text) :
    d.Keeps (d.storeText p t).2 :=
  ⟨(h.storeText_touches p t).growth, fun _ => h.storeText_stays p t⟩

/-! ### One resolution after another -/

namespace Resolution

variable {base : Path} {references : List Reference}

theorem missing_resolve (hkeeps : ∀ p, d.holdsFile p = true → d'.holdsFile p = true) :
    (resolve base references d').missing =
      (resolve base references d).missing.filter fun m => !d'.holdsFile m.expectedPath := by
  simp only [resolve, ofReferences, List.filter_map, List.filter_filter]
  refine congrArg (List.map _) (List.filter_congr fun r _ => ?_)
  cases hbefore : d.holdsFile (r.expectedPath base) with
  | false => simp
  | true => simp [hkeeps _ hbefore]

/-- Each missing file is that of a reference, where the reference expects it. -/
theorem mem_missing_resolve {m : MissingFile} (hm : m ∈ (resolve base references d).missing) :
    m.reference ∈ references.eraseDups ∧ m.expectedPath = m.reference.expectedPath base ∧
      d.holdsFile m.expectedPath = false := by
  simp only [resolve, ofReferences, List.mem_map, List.mem_filter] at hm
  obtain ⟨r, ⟨hr, hnone⟩, rfl⟩ := hm
  exact ⟨hr, rfl, by simpa using hnone⟩

theorem mem_zip_records {r : Reference} (hr : r ∈ references.eraseDups) :
    (r, ⟨r.expectedPath base, d.holdsFile (r.expectedPath base)⟩) ∈
      references.eraseDups.zip (resolve base references d).records := by
  rw [zip_records]
  exact List.mem_map.mpr ⟨r, hr, rfl⟩

end Resolution

/-! ### Writing the placeholders -/

namespace Stub

/-- The error is about the missing file: it names the path of its placeholder, or its reference if
that leads out of the project. -/
def Error.Concerns (m : MissingFile) : Error → Prop
  | .writeFailed p _ => p = m.expectedPath
  | .unsafePath s => s = m.reference.path ∧ isInside s = false

variable {date : String} {m : MissingFile} {ms : List MissingFile}

theorem generate_keeps (h : d.LinkFree) (date : String) (m : MissingFile) :
    d.Keeps (generate date m d).2 := by
  have hstore := h.storeText_keeps m.expectedPath (text date m.reference).toList
  rw [generate]
  split
  next => exact .refl h
  next =>
    split
    next heq => rwa [heq] at hstore
    next heq => rwa [heq] at hstore

theorem eq_of_generate_ok {p : Path} (hok : (generate date m d).1 = .ok p) :
    p = m.expectedPath := by
  rw [generate] at hok
  split at hok
  next => cases hok
  next =>
    split at hok
    next => exact (Except.ok.inj hok).symm
    next => cases hok

theorem generate_ok (h : d.LinkFree) {p : Path} (hok : (generate date m d).1 = .ok p) :
    (generate date m d).2.holdsFile m.expectedPath = true := by
  rw [generate] at hok ⊢
  split at hok
  next => cases hok
  next hinside =>
    rw [if_neg hinside]
    cases hstore : d.storeText m.expectedPath (text date m.reference).toList with
    | mk result d₁ =>
        cases result with
        | error e => simp [hstore] at hok
        | ok u =>
            obtain ⟨loc, hleads, hfile⟩ := h.storeText_ok hstore
            have hkeeps := h.storeText_keeps m.expectedPath (text date m.reference).toList
            rw [hstore] at hkeeps
            refine hkeeps.growth.linkFree.holdsFile_of_leadsTo hleads ?_
            rw [hfile]
            exact Option.some_ne_none _

theorem generate_error {e : Error} (herror : (generate date m d).1 = .error e) : e.Concerns m := by
  rw [generate] at herror
  split at herror
  next hinside =>
    obtain rfl := Except.error.inj herror
    exact ⟨rfl, by simpa using hinside⟩
  next =>
    split at herror
    next => cases herror
    next =>
      obtain rfl := Except.error.inj herror
      exact rfl

/-- What came of each missing file. -/
def attempts (date : String) : List MissingFile → Disk → List (MissingFile × Except Error Path)
  | [], _ => []
  | m :: ms, d => (m, (generate date m d).1) :: attempts date ms (generate date m d).2

def made (date : String) (ms : List MissingFile) (d : Disk) : List MissingFile :=
  ((attempts date ms d).filter (·.2.isOk)).map (·.1)

def unmade (date : String) (ms : List MissingFile) (d : Disk) : List MissingFile :=
  ((attempts date ms d).filter (!·.2.isOk)).map (·.1)

theorem map_attempts (date : String) (ms : List MissingFile) (d : Disk) :
    (attempts date ms d).map (·.1) = ms := by
  induction ms generalizing d with
  | nil => rfl
  | cons m ms ih => rw [attempts, List.map_cons, ih]

theorem made_cons (date : String) (m : MissingFile) (ms : List MissingFile) (d : Disk) :
    made date (m :: ms) d =
      if (generate date m d).1.isOk then m :: made date ms (generate date m d).2
      else made date ms (generate date m d).2 := by
  rw [made, attempts, List.filter_cons]
  split
  next => rfl
  next => rfl

theorem unmade_cons (date : String) (m : MissingFile) (ms : List MissingFile) (d : Disk) :
    unmade date (m :: ms) d =
      if (generate date m d).1.isOk then unmade date ms (generate date m d).2
      else m :: unmade date ms (generate date m d).2 := by
  rw [unmade, attempts, List.filter_cons]
  cases (generate date m d).1 with
  | ok p => rfl
  | error e => rfl

theorem generateAll_cons (date : String) (m : MissingFile) (ms : List MissingFile) (d : Disk) :
    generateAll date (m :: ms) d =
      let rest := generateAll date ms (generate date m d).2
      (match (generate date m d).1 with
        | .ok p => { rest.1 with created := p :: rest.1.created }
        | .error e => { rest.1 with failed := e :: rest.1.failed }, rest.2) := by
  rw [generateAll]
  cases generate date m d with
  | mk result d₁ =>
      cases result with
      | ok p => rfl
      | error e => rfl

theorem generateAll_keeps (h : d.LinkFree) (date : String) (ms : List MissingFile) :
    d.Keeps (generateAll date ms d).2 := by
  induction ms generalizing d with
  | nil => exact .refl h
  | cons m ms ih =>
      have hfirst := generate_keeps h date m
      rw [generateAll_cons]
      exact hfirst.trans (ih hfirst.growth.linkFree)

theorem holdsFile_of_mem_made (h : d.LinkFree) (hm : m ∈ made date ms d) :
    (generateAll date ms d).2.holdsFile m.expectedPath = true := by
  induction ms generalizing d with
  | nil => exact absurd hm List.not_mem_nil
  | cons first ms ih =>
      have h₁ := (generate_keeps h date first).growth.linkFree
      rw [made_cons] at hm
      rw [generateAll_cons]
      cases hgenerate : (generate date first d).1 with
      | error e =>
          simp only [hgenerate] at hm
          exact ih h₁ hm
      | ok p =>
          simp only [hgenerate] at hm
          rcases List.mem_cons.mp hm with rfl | hm
          · exact (generateAll_keeps h₁ date ms).holdsFile h₁ (generate_ok h hgenerate)
          · exact ih h₁ hm

def inside (ms : List MissingFile) : List MissingFile :=
  ms.filter (isInside ·.reference.path)

theorem generate_touches (h : d.LinkFree) (date : String) (m : MissingFile) :
    d.Touches (generate date m d).2
      (if isInside m.reference.path then [m.expectedPath] else []) := by
  rw [generate]
  cases isInside m.reference.path with
  | false => exact .refl h
  | true =>
      have htouches := h.storeText_touches m.expectedPath (text date m.reference).toList
      simp only [Bool.not_true, Bool.false_eq_true, if_false, if_true]
      split
      next heq => rwa [heq] at htouches
      next heq => rwa [heq] at htouches

/-- Files come or change only where placeholders inside the project are expected. -/
theorem generateAll_touches (h : d.LinkFree) (date : String) (ms : List MissingFile) :
    d.Touches (generateAll date ms d).2 ((inside ms).map (·.expectedPath)) := by
  induction ms generalizing d with
  | nil => exact .refl h
  | cons m ms ih =>
      have hfirst := generate_touches h date m
      have hrest := ih hfirst.growth.linkFree
      rw [generateAll_cons, inside, List.filter_cons]
      by_cases hinside : isInside m.reference.path = true
      · rw [if_pos hinside] at hfirst ⊢
        exact (hfirst.mono (by simp)).trans (hrest.mono (by simp [inside]))
      · rw [if_neg hinside] at hfirst ⊢
        exact (hfirst.mono (List.nil_subset _)).trans hrest

/-- A placeholder that could not be written has touched no file. -/
theorem generate_touches_made (h : d.LinkFree) (htakes : d.TakesWrites) (date : String)
    (m : MissingFile) :
    d.Touches (generate date m d).2
      (if (generate date m d).1.isOk then [m.expectedPath] else []) := by
  rw [generate]
  split
  next => exact .refl h
  next =>
    have htouches := h.storeText_touches m.expectedPath (text date m.reference).toList
    rcases hstore : d.storeText m.expectedPath (text date m.reference).toList with ⟨e | ⟨⟩, d₁⟩
    · rw [hstore] at htouches
      exact ⟨htouches.growth, fun l => .inl (h.storeText_error htakes hstore l)⟩
    · rwa [hstore] at htouches

/-- Files come or change only where placeholders were made, if no write stops midway. -/
theorem generateAll_touches_made (h : d.LinkFree) (htakes : d.TakesWrites) (date : String)
    (ms : List MissingFile) :
    d.Touches (generateAll date ms d).2 ((made date ms d).map (·.expectedPath)) := by
  induction ms generalizing d with
  | nil => exact .refl h
  | cons m ms ih =>
      have hfirst := generate_touches_made h htakes date m
      have hrest := ih hfirst.growth.linkFree (htakes.congr hfirst.growth.refuses)
      have hlast : (generateAll date (m :: ms) d).2 =
          (generateAll date ms (generate date m d).2).2 := by rw [generateAll_cons]
      rw [hlast, made_cons]
      by_cases hok : (generate date m d).1.isOk = true
      · rw [if_pos hok] at hfirst ⊢
        exact (hfirst.mono (by simp)).trans (hrest.mono (by simp))
      · rw [if_neg hok] at hfirst ⊢
        exact (hfirst.mono (List.nil_subset _)).trans hrest

/-- The outcome accounts for every missing file, in order. -/
structure Accounts (date : String) (ms : List MissingFile) (d : Disk) (o : Outcome) : Prop where
  /-- Every missing file is among the made or among the unmade, and that once. -/
  perm : (made date ms d ++ unmade date ms d).Perm ms
  made_sublist : (made date ms d).Sublist ms
  unmade_sublist : (unmade date ms d).Sublist ms
  created : o.created = (made date ms d).map (·.expectedPath)
  failed : List.Forall₂ (fun e m => e.Concerns m) o.failed (unmade date ms d)

theorem generateAll_lists (date : String) (ms : List MissingFile) (d : Disk) :
    let o := (generateAll date ms d).1
    o.created = (made date ms d).map (·.expectedPath) ∧
      List.Forall₂ (fun e m => e.Concerns m) o.failed (unmade date ms d) := by
  induction ms generalizing d with
  | nil => exact ⟨rfl, .nil⟩
  | cons m ms ih =>
      obtain ⟨hcreated, hfailed⟩ := ih (generate date m d).2
      rw [generateAll_cons, made_cons, unmade_cons]
      cases hgenerate : (generate date m d).1 with
      | ok p =>
          exact ⟨congrArg₂ List.cons (eq_of_generate_ok hgenerate) hcreated, hfailed⟩
      | error e => exact ⟨hcreated, .cons (generate_error hgenerate) hfailed⟩

theorem generateAll_accounts (date : String) (ms : List MissingFile) (d : Disk) :
    Accounts date ms d (generateAll date ms d).1 := by
  obtain ⟨hcreated, hfailed⟩ := generateAll_lists date ms d
  have hmap := map_attempts date ms d
  refine ⟨?_, ?_, ?_, hcreated, hfailed⟩
  · have hperm := (List.filter_append_perm (·.2.isOk) (attempts date ms d)).map (·.1)
    rwa [List.map_append, hmap] at hperm
  · have hsublist := (List.filter_sublist (p := (·.2.isOk)) (l := attempts date ms d)).map (·.1)
    rwa [hmap] at hsublist
  · have hsublist := (List.filter_sublist (p := (!·.2.isOk)) (l := attempts date ms d)).map (·.1)
    rwa [hmap] at hsublist

/-- What is picked of the missing files, none of it made, is unmade. -/
theorem filter_sublist_unmade {picks : MissingFile → Bool}
    (h : ∀ m ∈ made date ms d, picks m = false) : (ms.filter picks).Sublist (unmade date ms d) := by
  induction ms generalizing d with
  | nil => exact .slnil
  | cons m ms ih =>
      rw [made_cons] at h
      rw [unmade_cons]
      split
      next hok =>
        rw [if_pos hok] at h
        obtain ⟨hm, hrest⟩ := List.forall_mem_cons.mp h
        rw [List.filter_cons_of_neg (by simp [hm])]
        exact ih hrest
      next hok =>
        rw [if_neg hok] at h
        rw [List.filter_cons]
        split
        next => exact (ih h).cons_cons m
        next => exact (ih h).cons m

/-- What becomes of a project when the placeholders for everything it lacks are written and its
references are resolved again. -/
structure Settles (date : String) (base : Path) (references : List Reference) (d : Disk)
    (o : Outcome) (d' : Disk) : Prop where
  accounts : Accounts date (Resolution.resolve base references d).missing d o
  /-- Each reference whose placeholder was written is recorded as found. -/
  recorded : ∀ m ∈ made date (Resolution.resolve base references d).missing d,
    (m.reference, ⟨m.expectedPath, true⟩) ∈
      references.eraseDups.zip (Resolution.resolve base references d').records
  missing : (Resolution.resolve base references d').missing.Sublist
    (unmade date (Resolution.resolve base references d).missing d)
  complete : o.failed = [] → (Resolution.resolve base references d').isComplete = true ∧
    ∀ later, generateAll later (Resolution.resolve base references d').missing d' = (.empty, d')

/-- Writing the placeholders settles what the resolution found missing. -/
theorem generateAll_settles (h : d.LinkFree) (date : String) (base : Path)
    (references : List Reference) :
    let written := generateAll date (Resolution.resolve base references d).missing d
    Settles date base references d written.1 written.2 := by
  intro written
  let missing := (Resolution.resolve base references d).missing
  have haccounts := generateAll_accounts date missing d
  have hkeeps := generateAll_keeps h date missing
  have hmade : ∀ m ∈ made date missing d, written.2.holdsFile m.expectedPath = true :=
    fun m hm => holdsFile_of_mem_made h hm
  have hagain : (Resolution.resolve base references written.2).missing =
      missing.filter fun m => !written.2.holdsFile m.expectedPath :=
    Resolution.missing_resolve fun p => hkeeps.holdsFile h
  have hsublist : (Resolution.resolve base references written.2).missing.Sublist
      (unmade date missing d) := by
    rw [hagain]
    exact filter_sublist_unmade fun m hm => by rw [hmade m hm]; rfl
  refine ⟨haccounts, fun m hm => ?_, hsublist, fun hfailed => ?_⟩
  · obtain ⟨hreference, hexpected, -⟩ :=
      Resolution.mem_missing_resolve (haccounts.made_sublist.subset hm)
    have hrecord : (m.reference, _) ∈
        references.eraseDups.zip (Resolution.resolve base references written.2).records :=
      Resolution.mem_zip_records hreference
    rwa [← hexpected, hmade m hm] at hrecord
  · have hunmade : unmade date missing d = [] := by
      have hlength := haccounts.failed.length_eq
      rw [show (generateAll date missing d).1.failed = [] from hfailed] at hlength
      exact List.eq_nil_of_length_eq_zero hlength.symm
    have hnone : (Resolution.resolve base references written.2).missing = [] :=
      List.sublist_nil.mp (hunmade ▸ hsublist)
    refine ⟨?_, fun later => ?_⟩
    · rw [Resolution.isComplete, hnone]
      rfl
    · rw [hnone]
      rfl

def bareProject : Disk :=
  .ofTree ["w".toList] [(["w".toList, "main.tex".toList], .file [] false)]

/-- A reference that is repeated, one whose directory is the placeholder before it, and one that
leads out of the project. -/
def crossedReferences : List Reference :=
  [⟨"part.tex", .contentModule⟩, ⟨"part.tex", .contentModule⟩, ⟨"part.tex/one", .contentModule⟩,
    ⟨"../style", .stylePackage⟩]

theorem bareProject_linkFree : bareProject.LinkFree :=
  .of_entries (by decide) (by decide) (by decide)

theorem generateAll_settles_crossed :
    let missing := (Resolution.resolve (.ofString ".") crossedReferences bareProject).missing
    let written := generateAll "2024/05/01" missing bareProject
    bareProject.LinkFree ∧ missing.length = 3 ∧ written.1.created = [.ofString "./part.tex"] ∧
      written.1.failed.length = 2 ∧
      Settles "2024/05/01" (.ofString ".") crossedReferences bareProject written.1 written.2 := by
  refine ⟨bareProject_linkFree, by decide +kernel, by decide +kernel, by decide +kernel, ?_⟩
  exact generateAll_settles bareProject_linkFree "2024/05/01" (.ofString ".") crossedReferences

end Stub

end Manuscript
