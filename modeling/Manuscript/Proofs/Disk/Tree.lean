import Manuscript.Disk.Operation
import Manuscript.Proofs.Lists.Association
import Mathlib.Data.List.Induction

/-!
The tree of files as a map from locations to entries.

The basic changes of a disk are given by what stands at a location afterwards.
A disk without links is a tree of files and directories. It stays one where
only files are changed, and with a new directory, too. On a plain disk nothing
is refused besides.
-/

namespace Manuscript.Disk

variable {d : Disk} {loc l : Location} {e : Entry} {bytes : Bytes}

/-! ### Entries after a change -/

theorem entry?_of_ne_nil (h : loc ≠ []) : d.entry? loc = d.entries.lookup loc := by
  cases loc with
  | nil => exact absurd rfl h
  | cons name loc => rfl

theorem lookup_putIn (entries : List (Location × Entry)) :
    (putIn loc e entries).lookup l = if l = loc then some e else entries.lookup l := by
  induction entries with
  | nil => exact lookup_cons_eq (loc, e) []
  | cons x entries ih =>
      rw [putIn]
      split
      next hx =>
        rw [lookup_cons_eq, lookup_cons_eq]
        subst hx
        split <;> rfl
      next hx =>
        rw [lookup_cons_eq, lookup_cons_eq, ih]
        by_cases hl : l = x.1
        · rw [if_pos hl, if_pos hl, if_neg fun h => hx (hl.symm.trans h)]
        · rw [if_neg hl, if_neg hl]

theorem lookup_filter_ne (entries : List (Location × Entry)) :
    (entries.filter (·.1 ≠ loc)).lookup l = if l = loc then none else entries.lookup l := by
  induction entries with
  | nil => simp
  | cons x entries ih =>
      by_cases hx : x.1 = loc
      · rw [List.filter_cons_of_neg (by simpa using hx), ih, lookup_cons_eq, hx]
        split <;> rfl
      · rw [List.filter_cons_of_pos (by simpa using hx), lookup_cons_eq, lookup_cons_eq, ih]
        by_cases hl : l = x.1
        · rw [if_pos hl, if_pos hl, if_neg fun h => hx (hl.symm.trans h)]
        · rw [if_neg hl, if_neg hl]

theorem entry?_put (h : loc ≠ []) :
    entry? (d.put loc e) l = if l = loc then some e else d.entry? l := by
  cases l with
  | nil => rw [if_neg (Ne.symm h)]; rfl
  | cons name l => exact lookup_putIn d.entries

theorem entry?_drop (h : loc ≠ []) :
    entry? (d.drop loc) l = if l = loc then none else d.entry? l := by
  cases l with
  | nil => rw [if_neg (Ne.symm h)]; rfl
  | cons name l => exact lookup_filter_ne d.entries

theorem fill_eq_put (d : Disk) (loc : Location) (bytes : Bytes) :
    ∃ executable, d.fill loc bytes = d.put loc (.file bytes executable) := by
  rw [fill]
  split
  next executable _ => exact ⟨executable, rfl⟩
  next => exact ⟨false, rfl⟩

theorem entry?_fill (d : Disk) (hloc : loc ≠ []) (bytes : Bytes) :
    ∃ executable, ∀ l, entry? (d.fill loc bytes) l =
      if l = loc then some (.file bytes executable) else d.entry? l := by
  obtain ⟨executable, h⟩ := d.fill_eq_put loc bytes
  exact ⟨executable, fun l => by rw [h, entry?_put hloc]⟩

@[simp] theorem cwd_fill : (d.fill loc bytes).cwd = d.cwd := by
  obtain ⟨executable, h⟩ := d.fill_eq_put loc bytes
  rw [h]
  rfl

@[simp] theorem refuses_fill : (d.fill loc bytes).refuses = d.refuses := by
  obtain ⟨executable, h⟩ := d.fill_eq_put loc bytes
  rw [h]
  rfl

/-! ### Moving one entry -/

/-- The entry that comes to a location by renaming is that of its old location. -/
theorem lookup_map_fst {f : Location → Location} {k k₀ : Location}
    {entries : List (Location × Entry)} (h : ∀ x ∈ entries, f x.1 = k ↔ x.1 = k₀) :
    (entries.map fun (l, e) => (f l, e)).lookup k = entries.lookup k₀ := by
  induction entries with
  | nil => rfl
  | cons x entries ih =>
      have hx := h x List.mem_cons_self
      rw [List.map_cons, lookup_cons_eq, lookup_cons_eq,
        ih fun y hy => h y (List.mem_cons_of_mem _ hy)]
      by_cases hk : k₀ = x.1
      · rw [if_pos hk, if_pos (hx.mpr hk.symm).symm]
      · rw [if_neg hk, if_neg fun hf => hk (hx.mp hf.symm).symm]

theorem mem_of_entry? (h : d.entry? loc = some e) : loc = [] ∨ (loc, e) ∈ d.entries := by
  by_cases hloc : loc = []
  · exact .inl hloc
  · rw [entry?_of_ne_nil hloc] at h
    obtain ⟨before, after, hentries, -⟩ := List.lookup_eq_some_iff.mp h
    exact .inr (by simp [hentries])

theorem entry?_ne_none {x : Location × Entry} (h : x ∈ d.entries) : d.entry? x.1 ≠ none := by
  by_cases hx : x.1 = []
  · rw [hx]
    exact Option.some_ne_none _
  · rw [entry?_of_ne_nil hx]
    intro hnone
    simpa using List.lookup_eq_none_iff.mp hnone x h

/-- If nothing is below the source, a move changes the key of the source only. -/
theorem afterMove_of_nothing_below {source : Location}
    (hbelow : ∀ l, source <+: l → l ≠ source → d.entry? l = none) (target : Location)
    {x : Location × Entry} (hx : x ∈ d.entries) :
    afterMove source target x.1 = if x.1 = source then target else x.1 := by
  rw [afterMove]
  split
  next hat =>
    have hsource : x.1 = source := by
      by_contra hne
      exact entry?_ne_none hx (hbelow x.1 (List.isPrefixOf_iff_prefix.mp hat) hne)
    rw [if_pos hsource, hsource, List.drop_length, List.append_nil]
  next hat =>
    rw [if_neg]
    rintro hsource
    exact hat (by simp [isAtOrBelow, hsource])

theorem entry?_moveTree_of_key {source target k : Location} (hl : l ≠ [])
    (h : ∀ x ∈ d.entries, afterMove source target x.1 = l ↔ x.1 = k) :
    entry? (d.moveTree source target) l = d.entries.lookup k := by
  rw [entry?_of_ne_nil hl]
  exact lookup_map_fst h

theorem entry?_moveTree {source target : Location} (hsource : source ≠ []) (htarget : target ≠ [])
    (hne : source ≠ target) (hbelow : ∀ l, source <+: l → l ≠ source → d.entry? l = none)
    (hvacant : d.entry? target = none) :
    entry? (d.moveTree source target) l =
      if l = target then d.entry? source else if l = source then none else d.entry? l := by
  have hfree : ∀ x ∈ d.entries, x.1 ≠ target := fun x hx h => entry?_ne_none hx (h ▸ hvacant)
  by_cases hl : l = target
  · subst hl
    rw [if_pos rfl, entry?_of_ne_nil hsource]
    refine entry?_moveTree_of_key htarget fun x hx => ?_
    rw [afterMove_of_nothing_below hbelow l hx]
    split
    next h => simp [h]
    next h => simp [h, hfree x hx]
  rw [if_neg hl]
  by_cases hls : l = source
  · subst hls
    rw [if_pos rfl, ← hvacant, entry?_of_ne_nil htarget]
    refine entry?_moveTree_of_key hsource fun x hx => ?_
    rw [afterMove_of_nothing_below hbelow target hx]
    split
    next => simp [hfree x hx, Ne.symm hne]
    next h => simp [h, hfree x hx]
  rw [if_neg hls]
  by_cases hnil : l = []
  · rw [hnil]
    rfl
  rw [entry?_of_ne_nil (d := d) hnil]
  refine entry?_moveTree_of_key hnil fun x hx => ?_
  rw [afterMove_of_nothing_below hbelow target hx]
  split
  next h => simp [h, Ne.symm hl, Ne.symm hls]
  next => rfl

/-! ### Disks without links -/

/-- A tree of files and directories. -/
structure LinkFree (d : Disk) : Prop where
  kind : ∀ loc e, d.entry? loc = some e → e = .directory ∨ ∃ bytes x, e = .file bytes x
  above : ∀ loc name e, d.entry? (loc ++ [name]) = some e → d.entry? loc = some .directory
  cwd : d.entry? d.cwd = some .directory

def isPlain : Entry → Bool
  | .directory => true
  | .file _ _ => true
  | _ => false

theorem isPlain_iff : isPlain e = true ↔ e = .directory ∨ ∃ bytes x, e = .file bytes x := by
  cases e <;> simp [isPlain]

namespace LinkFree

theorem of_entries (hkind : ∀ x ∈ d.entries, isPlain x.2 = true)
    (habove : ∀ x ∈ d.entries, d.entry? x.1.dropLast = some .directory)
    (hcwd : d.entry? d.cwd = some .directory) : d.LinkFree where
  kind := by
    intro loc e he
    rcases mem_of_entry? he with rfl | hmem
    · exact .inl (Option.some.inj he).symm
    · exact isPlain_iff.mp (hkind _ hmem)
  above := by
    intro loc name e he
    rcases mem_of_entry? he with hnil | hmem
    · simp at hnil
    · simpa using habove _ hmem
  cwd := hcwd

/-- Whatever has an entry lies in directories only. -/
theorem of_prefix (h : d.LinkFree) {top : Location} (hloc : top <+: loc) (hne : top ≠ loc)
    (he : d.entry? loc ≠ none) : d.entry? top = some .directory := by
  -- from the last name upwards, since `above` speaks of one name at the end
  induction loc using List.reverseRecOn with
  | nil => exact absurd (List.prefix_nil.mp hloc) hne
  | append_singleton loc name ih =>
      obtain ⟨e, he⟩ := Option.ne_none_iff_exists'.mp he
      have habove := h.above loc name e he
      rcases List.prefix_concat_iff.mp hloc with heq | hloc
      · exact absurd heq hne
      · by_cases htop : top = loc
        · rwa [htop]
        · exact ih hloc htop (by rw [habove]; exact Option.some_ne_none _)

/-- Nothing lies below what is no directory. -/
theorem nothing_below (h : d.LinkFree) {top : Location} (htop : d.entry? top ≠ some .directory)
    (hloc : top <+: loc) (hne : loc ≠ top) : d.entry? loc = none := by
  by_contra he
  exact htop (h.of_prefix hloc (Ne.symm hne) he)

theorem dropLast (h : d.LinkFree) (hloc : d.entry? loc = some .directory) :
    d.entry? loc.dropLast = some .directory := by
  obtain rfl | ⟨loc, name, rfl⟩ := List.eq_nil_or_concat loc
  · exact hloc
  · rw [List.concat_eq_append] at hloc ⊢
    rw [List.dropLast_concat]
    exact h.above loc name _ hloc

end LinkFree

/-- A tree of files and directories on which nothing is refused. -/
structure Plain (d : Disk) : Prop where
  kind : ∀ loc e, d.entry? loc = some e → e = .directory ∨ ∃ bytes x, e = .file bytes x
  above : ∀ loc name e, d.entry? (loc ++ [name]) = some e → d.entry? loc = some .directory
  cwd : d.entry? d.cwd = some .directory
  refuses : ∀ a loc, d.refuses a loc = none

namespace Plain

theorem linkFree (h : d.Plain) : d.LinkFree :=
  ⟨h.kind, h.above, h.cwd⟩

theorem of_entries (hkind : ∀ x ∈ d.entries, isPlain x.2 = true)
    (habove : ∀ x ∈ d.entries, d.entry? x.1.dropLast = some .directory)
    (hcwd : d.entry? d.cwd = some .directory) (hrefuses : ∀ a loc, d.refuses a loc = none) :
    d.Plain :=
  have h := LinkFree.of_entries hkind habove hcwd
  ⟨h.kind, h.above, h.cwd, hrefuses⟩

end Plain

/-- From one disk to the other, only files come, go or change, and they come into directories. -/
structure ChangesFiles (d d' : Disk) : Prop where
  cwd : d'.cwd = d.cwd
  refuses : d'.refuses = d.refuses
  directory : ∀ l, d'.entry? l = some .directory ↔ d.entry? l = some .directory
  file : ∀ l, d'.entry? l = d.entry? l ∨ d'.entry? l = none ∨
    (∃ bytes x, d'.entry? l = some (.file bytes x)) ∧
      ∀ o name, l = o ++ [name] → d.entry? o = some .directory

theorem LinkFree.of_changesFiles {d' : Disk} (h : d.LinkFree) (hd : d.ChangesFiles d') :
    d'.LinkFree where
  kind := by
    intro l e he
    rcases hd.file l with hold | hnone | ⟨⟨bytes, x, hnew⟩, -⟩
    · exact h.kind l e (hold ▸ he)
    · rw [hnone] at he
      cases he
    · rw [hnew] at he
      exact .inr ⟨bytes, x, (Option.some.inj he).symm⟩
  above := by
    intro o name e he
    rw [hd.directory]
    rcases hd.file (o ++ [name]) with hold | hnone | ⟨-, ho⟩
    · exact h.above o name e (hold ▸ he)
    · rw [hnone] at he
      cases he
    · exact ho o name rfl
  cwd := by rw [hd.cwd, hd.directory, h.cwd]

theorem Plain.of_changesFiles {d' : Disk} (h : d.Plain) (hd : d.ChangesFiles d') : d'.Plain :=
  have h' := h.linkFree.of_changesFiles hd
  ⟨h'.kind, h'.above, h'.cwd, fun a loc => by rw [hd.refuses, h.refuses]⟩

namespace ChangesFiles

variable {o : Location} {name : Text}

theorem fill (ho : d.entry? o = some .directory)
    (hfile : d.entry? (o ++ [name]) ≠ some .directory) (bytes : Bytes) :
    d.ChangesFiles (d.fill (o ++ [name]) bytes) := by
  have hnil : o ++ [name] ≠ [] := by simp
  obtain ⟨x, hentry⟩ := d.entry?_fill hnil bytes
  refine ⟨cwd_fill, refuses_fill, fun l => ?_, fun l => ?_⟩
  · rw [hentry]
    split
    next hl => simp [hl, hfile]
    next => rfl
  · rw [hentry]
    split
    next hl =>
      refine .inr (.inr ⟨⟨bytes, x, rfl⟩, fun o' name' hl' => ?_⟩)
      obtain ⟨rfl, -⟩ := List.append_inj' (hl.symm.trans hl') rfl
      exact ho
    next => exact .inl rfl

theorem refl (d : Disk) : d.ChangesFiles d :=
  ⟨rfl, rfl, fun _ => Iff.rfl, fun _ => .inl rfl⟩

theorem trans {d₁ d₂ : Disk} (h : d.ChangesFiles d₁) (k : d₁.ChangesFiles d₂) :
    d.ChangesFiles d₂ where
  cwd := k.cwd.trans h.cwd
  refuses := k.refuses.trans h.refuses
  directory := fun l => (k.directory l).trans (h.directory l)
  file := by
    intro l
    rcases k.file l with hold | hnone | ⟨hnew, habove⟩
    · rw [hold]
      exact h.file l
    · exact .inr (.inl hnone)
    · exact .inr (.inr ⟨hnew, fun o name hl => (h.directory o).mp (habove o name hl)⟩)

theorem drop (hnil : loc ≠ []) (hfile : d.entry? loc ≠ some .directory) :
    d.ChangesFiles (d.drop loc) := by
  refine ⟨rfl, rfl, fun l => ?_, fun l => ?_⟩
  · rw [entry?_drop hnil]
    split
    next hl => simp [hl, hfile]
    next => rfl
  · rw [entry?_drop hnil]
    split
    next => exact .inr (.inl rfl)
    next => exact .inl rfl

end ChangesFiles

theorem LinkFree.dropFile {x : Bool} (h : d.LinkFree) (hnil : loc ≠ [])
    (hfile : d.entry? loc = some (.file bytes x)) :
    let d' := d.drop loc
    d.ChangesFiles d' ∧ d'.LinkFree ∧ d'.entry? loc = none ∧
      ∀ l, l ≠ loc → d'.entry? l = d.entry? l := by
  intro d'
  have hchanges : d.ChangesFiles d' := .drop hnil (by simp [hfile])
  refine ⟨hchanges, h.of_changesFiles hchanges, ?_, fun l hl => ?_⟩
  · exact (entry?_drop hnil).trans (if_pos rfl)
  · exact (entry?_drop hnil).trans (if_neg hl)

/-- What stands where once a file was moved in place of another one, or of none. -/
theorem entry?_replace {source target : Location} (h : d.LinkFree) (hs : source ≠ [])
    (ht : target ≠ []) (hne : source ≠ target) (hsource : d.entry? source ≠ some .directory) :
    entry? ((d.drop target).moveTree source target) l =
      if l = target then d.entry? source else if l = source then none else d.entry? l := by
  have hdrop : ∀ l, entry? (d.drop target) l = if l = target then none else d.entry? l :=
    fun l => entry?_drop ht
  -- once the target is dropped, the source is moved to where nothing is
  rw [entry?_moveTree hs ht hne ?_ (by rw [hdrop, if_pos rfl]), hdrop, if_neg hne]
  · by_cases hl : l = target
    · rw [if_pos hl, if_pos hl]
    · rw [if_neg hl, if_neg hl, hdrop, if_neg hl]
  · intro l hat hl
    rw [hdrop]
    split
    next => rfl
    next => exact h.nothing_below hsource hat hl

/-- The working directory is not moved with a file, since a file does not hold it. -/
theorem LinkFree.afterMove_cwd {source : Location} (h : d.LinkFree)
    (hsource : d.entry? source ≠ some .directory) (target : Location) :
    afterMove source target d.cwd = d.cwd := by
  rw [afterMove, if_neg]
  intro hat
  by_cases hcwd : d.cwd = source
  · exact hsource (hcwd ▸ h.cwd)
  · have hnone := h.nothing_below hsource (List.isPrefixOf_iff_prefix.mp hat) hcwd
    rw [h.cwd] at hnone
    cases hnone

theorem ChangesFiles.replace {o : Location} {m n : Text} (h : d.LinkFree)
    (ho : d.entry? o = some .directory) (hne : m ≠ n)
    (hsource : ∃ bytes x, d.entry? (o ++ [m]) = some (.file bytes x))
    (htarget : d.entry? (o ++ [n]) ≠ some .directory) :
    d.ChangesFiles ((d.drop (o ++ [n])).moveTree (o ++ [m]) (o ++ [n])) := by
  obtain ⟨bytes, x, hsource⟩ := hsource
  have hfile : d.entry? (o ++ [m]) ≠ some .directory := by
    rw [hsource]
    simp
  have hloc : o ++ [m] ≠ o ++ [n] := by simpa using hne
  have hentry : ∀ l, entry? ((d.drop (o ++ [n])).moveTree (o ++ [m]) (o ++ [n])) l =
      if l = o ++ [n] then d.entry? (o ++ [m]) else if l = o ++ [m] then none else d.entry? l :=
    fun l => entry?_replace h (by simp) (by simp) hloc hfile
  refine ⟨h.afterMove_cwd hfile _, rfl, fun l => ?_, fun l => ?_⟩
  · rw [hentry]
    split
    next hl => simp [hl, hsource, htarget]
    next =>
      split
      next hl => simp [hl, hfile]
      next => rfl
  · rw [hentry]
    split
    next hl =>
      refine .inr (.inr ⟨⟨bytes, x, hsource⟩, fun o' name' hl' => ?_⟩)
      obtain ⟨rfl, -⟩ := List.append_inj' (hl.symm.trans hl') rfl
      exact ho
    next =>
      split
      next => exact .inr (.inl rfl)
      next => exact .inl rfl

/-- A file that takes another name in its directory is there afterwards, and not under the old
name. -/
theorem LinkFree.replace {o : Location} {m n : Text} {x : Bool} (h : d.LinkFree)
    (ho : d.entry? o = some .directory) (hne : m ≠ n)
    (hsource : d.entry? (o ++ [m]) = some (.file bytes x))
    (htarget : d.entry? (o ++ [n]) ≠ some .directory) :
    let d' := (d.drop (o ++ [n])).moveTree (o ++ [m]) (o ++ [n])
    d.ChangesFiles d' ∧ d'.LinkFree ∧ d'.entry? (o ++ [n]) = some (.file bytes x) ∧
      d'.entry? (o ++ [m]) = none := by
  intro d'
  have hchanges : d.ChangesFiles d' := .replace h ho hne ⟨bytes, x, hsource⟩ htarget
  have hloc : o ++ [m] ≠ o ++ [n] := by simpa using hne
  have hentry : ∀ l, d'.entry? l =
      if l = o ++ [n] then d.entry? (o ++ [m]) else if l = o ++ [m] then none else d.entry? l :=
    fun l => entry?_replace h (by simp) (by simp) hloc (by simp [hsource])
  refine ⟨hchanges, h.of_changesFiles hchanges, ?_, ?_⟩
  · rw [hentry, if_pos rfl, hsource]
  · rw [hentry, if_neg hloc, if_pos rfl]

/-! ### A new directory -/

section

variable {o : Location} {name : Text} (hnew : d.entry? (o ++ [name]) = none)
include hnew

theorem LinkFree.putDirectory (h : d.LinkFree) (ho : d.entry? o = some .directory) :
    (d.put (o ++ [name]) .directory).LinkFree := by
  have hentry : ∀ l, entry? (d.put (o ++ [name]) .directory) l =
      if l = o ++ [name] then some .directory else d.entry? l :=
    fun l => entry?_put (by simp)
  have hkeeps : ∀ l, d.entry? l = some .directory →
      entry? (d.put (o ++ [name]) .directory) l = some .directory := by
    intro l hl
    rw [hentry]
    split
    next => rfl
    next => exact hl
  refine ⟨fun l e he => ?_, fun l n e he => ?_, hkeeps _ h.cwd⟩
  · rw [hentry] at he
    split at he
    next => exact .inl (Option.some.inj he).symm
    next => exact h.kind l e he
  · apply hkeeps
    rw [hentry] at he
    split at he
    next hl =>
      obtain ⟨rfl, -⟩ := List.append_inj' hl rfl
      exact ho
    next => exact h.above l n e he

theorem file?_putDirectory : (d.put (o ++ [name]) .directory).file? l = d.file? l := by
  have hentry : entry? (d.put (o ++ [name]) .directory) l =
      if l = o ++ [name] then some .directory else d.entry? l := entry?_put (by simp)
  rw [file?, file?, hentry]
  by_cases hl : l = o ++ [name]
  · rw [if_pos hl, hl, hnew]
  · rw [if_neg hl]

end

end Manuscript.Disk
