import Manuscript.Proofs.Disk.Tree
import Mathlib.Data.List.Basic

/-!
Where paths lead on a disk without links.

The way down passes directories only, so where it ends does not depend on the
files. `enter` is this way by itself, and a path leads to its last name in the
directory that the names before it enter. What one name does is said once, by
`Passes` for the way and by `Finds` for a descent that finds something.
-/

namespace Manuscript.Disk

/-- The directory that names lead to from another one, where there are no links. -/
def enter (d : Disk) : Location → List Text → Option Location
  | loc, [] => some loc
  | loc, name :: rest =>
    if name = ['.'] then enter d loc rest
    else if name = ['.', '.'] then enter d loc.dropLast rest
    else if maxNameBytes < name.byteSize then none
    else if d.entry? (loc ++ [name]) = some .directory then enter d (loc ++ [name]) rest
    else none

variable {d d' : Disk} {loc o : Location} {ns ms : List Text}

@[simp] theorem enter_nil (d : Disk) (loc : Location) : d.enter loc [] = some loc := rfl

theorem enter_cons (d : Disk) (loc : Location) (name : Text) (rest : List Text) :
    d.enter loc (name :: rest) =
      if name = ['.'] then d.enter loc rest
      else if name = ['.', '.'] then d.enter loc.dropLast rest
      else if maxNameBytes < name.byteSize then none
      else if d.entry? (loc ++ [name]) = some .directory then d.enter (loc ++ [name]) rest
      else none :=
  rfl

theorem enter_changesFiles (hd : d.ChangesFiles d') : d'.enter loc ns = d.enter loc ns := by
  induction ns generalizing loc with
  | nil => rfl
  | cons name rest ih => simp only [enter_cons, ih, hd.directory]

theorem enter_filter (d : Disk) (loc : Location) (ns : List Text) :
    d.enter loc (ns.filter (· ≠ ['.'])) = d.enter loc ns := by
  induction ns generalizing loc with
  | nil => rfl
  | cons name rest ih =>
      by_cases hname : name = ['.']
      · rw [List.filter_cons_of_neg (by simpa using hname), enter_cons, if_pos hname, ih]
      · rw [List.filter_cons_of_pos (by simpa using hname)]
        simp only [enter_cons, ih]

/-! ### One name -/

/-- The name stands for an entry of a directory, and is not too long for that. -/
structure EntryName (name : Text) : Prop where
  dot : name ≠ ['.']
  up : name ≠ ['.', '.']
  short : ¬maxNameBytes < name.byteSize

/-- One name leads from a directory to another one, where there are no links. -/
inductive Passes (d : Disk) (loc : Location) : Text → Location → Prop
  | stay : Passes d loc ['.'] loc
  | up : Passes d loc ['.', '.'] loc.dropLast
  | down {name : Text} : EntryName name → d.entry? (loc ++ [name]) = some .directory →
      Passes d loc name (loc ++ [name])

namespace Passes

variable {name : Text} {l : Location}

theorem enter_cons (h : d.Passes loc name l) (rest : List Text) :
    d.enter loc (name :: rest) = d.enter l rest := by
  rw [Disk.enter_cons]
  cases h with
  | stay => rw [if_pos rfl]
  | up => rw [if_neg (by decide), if_pos rfl]
  | down hname hdir => rw [if_neg hname.dot, if_neg hname.up, if_neg hname.short, if_pos hdir]

theorem directory (hd : d.LinkFree) (hloc : d.entry? loc = some .directory)
    (h : d.Passes loc name l) : d.entry? l = some .directory := by
  cases h with
  | stay => exact hloc
  | up => exact hd.dropLast hloc
  | down _ hdir => exact hdir

theorem mono (h : d.Passes loc name l)
    (hdir : d.entry? l = some .directory → d'.entry? l = some .directory) :
    d'.Passes loc name l := by
  cases h with
  | stay => exact .stay
  | up => exact .up
  | down hname hthere => exact .down hname (hdir hthere)

end Passes

theorem passes_or_enter_none (d : Disk) (loc : Location) (name : Text) :
    (∃ l, d.Passes loc name l) ∨ ∀ rest, d.enter loc (name :: rest) = none := by
  by_cases hdot : name = ['.']
  · exact .inl ⟨loc, hdot ▸ .stay⟩
  by_cases hup : name = ['.', '.']
  · exact .inl ⟨loc.dropLast, hup ▸ .up⟩
  by_cases hlong : maxNameBytes < name.byteSize
  · exact .inr fun rest => by rw [enter_cons, if_neg hdot, if_neg hup, if_pos hlong]
  by_cases hdir : d.entry? (loc ++ [name]) = some .directory
  · exact .inl ⟨loc ++ [name], .down ⟨hdot, hup, hlong⟩ hdir⟩
  · exact .inr fun rest => by
      rw [enter_cons, if_neg hdot, if_neg hup, if_neg hlong, if_neg hdir]

theorem enter_cons_eq_some_iff {name : Text} {rest : List Text} :
    d.enter loc (name :: rest) = some o ↔ ∃ l, d.Passes loc name l ∧ d.enter l rest = some o := by
  constructor
  · intro h
    rcases d.passes_or_enter_none loc name with ⟨l, hpass⟩ | hnone
    · exact ⟨l, hpass, (hpass.enter_cons rest).symm.trans h⟩
    · cases (hnone rest).symm.trans h
  · rintro ⟨l, hpass, h⟩
    exact (hpass.enter_cons rest).trans h

theorem LinkFree.enter_directory (h : d.LinkFree) (hloc : d.entry? loc = some .directory)
    (ho : d.enter loc ns = some o) : d.entry? o = some .directory := by
  induction ns generalizing loc with
  | nil =>
      obtain rfl : loc = o := Option.some.inj ho
      exact hloc
  | cons name rest ih =>
      obtain ⟨l, hpass, ho⟩ := enter_cons_eq_some_iff.mp ho
      exact ih (hpass.directory h hloc) ho

/-! ### Going down -/

section

variable (purpose : Purpose) (closed : Bool)
  (follow : Location → Path → List Text → Except Errno Spot)

theorem descend_nil : d.descend purpose closed follow loc [] =
    if purpose = .create then .error .isDirectory
    else .ok (.taken loc ((d.entry? loc).getD .directory)) :=
  rfl

theorem descend_cons (name : Text) (rest : List Text) :
    d.descend purpose closed follow loc (name :: rest) =
      if name = ['.'] then d.descend purpose closed follow loc rest
      else if name = ['.', '.'] then d.descend purpose closed follow loc.dropLast rest
      else if purpose = .create ∧ closed ∧ rest = [] then .error .isDirectory
      else if maxNameBytes < name.byteSize then .error .nameTooLong
      else match d.entry? (loc ++ [name]) with
        | none => if rest = [] then .ok (.vacant loc name) else .error .notFound
        | some .directory => d.descend purpose closed follow (loc ++ [name]) rest
        | some (.link target) =>
          if rest = [] ∧ purpose = .reach false ∧ !closed then
            .ok (.taken (loc ++ [name]) (.link target))
          else follow loc target rest
        | some e =>
          if rest = [] ∧ !closed then .ok (.taken (loc ++ [name]) e) else .error .notDirectory :=
  rfl

variable {purpose closed follow}

/-- At a name that passes the descent goes on. To create something it needs one more name. -/
theorem Passes.descend_cons {name : Text} {rest : List Text} {l : Location}
    (h : d.Passes loc name l) (hgo : purpose = .create → rest ≠ []) :
    d.descend purpose closed follow loc (name :: rest) =
      d.descend purpose closed follow l rest := by
  rw [Disk.descend_cons]
  cases h with
  | stay => rw [if_pos rfl]
  | up => rw [if_neg (by decide), if_pos rfl]
  | down hname hdir =>
      rw [if_neg hname.dot, if_neg hname.up, if_neg fun hlast => hgo hlast.1 hlast.2.2,
        if_neg hname.short, hdir]

/-- What a descent does with a name if it finds something. -/
inductive Finds (d : Disk) (purpose : Purpose) (closed : Bool)
    (follow : Location → Path → List Text → Except Errno Spot) (loc : Location) (name : Text) :
    List Text → Spot → Prop
  | onward {rest : List Text} {s : Spot} {l : Location} : d.Passes loc name l →
      d.descend purpose closed follow l rest = .ok s →
      Finds d purpose closed follow loc name rest s
  | vacant : EntryName name → ¬(purpose = .create ∧ closed = true) →
      d.entry? (loc ++ [name]) = none →
      Finds d purpose closed follow loc name [] (.vacant loc name)
  | followed {rest : List Text} {s : Spot} {target : Path} : EntryName name →
      ¬(purpose = .create ∧ closed = true ∧ rest = []) →
      d.entry? (loc ++ [name]) = some (.link target) →
      ¬(rest = [] ∧ purpose = .reach false ∧ closed = false) →
      follow loc target rest = .ok s → Finds d purpose closed follow loc name rest s
  | taken {e : Entry} : EntryName name → closed = false → d.entry? (loc ++ [name]) = some e →
      e ≠ .directory → (∀ target, e = .link target → purpose = .reach false) →
      Finds d purpose closed follow loc name [] (.taken (loc ++ [name]) e)

theorem Finds.descend {name : Text} {rest : List Text} {s : Spot}
    (h : d.Finds purpose closed follow loc name rest s) :
    d.descend purpose closed follow loc (name :: rest) = .ok s := by
  cases h with
  | onward hpass hgo =>
      rw [hpass.descend_cons ?_, hgo]
      rintro rfl rfl
      cases hgo
  | vacant hname hopen hentry =>
      rw [descend_cons, if_neg hname.dot, if_neg hname.up, if_neg (by simpa using hopen),
        if_neg hname.short, hentry]
      rfl
  | followed hname hopen hentry hlast hgo =>
      rw [descend_cons, if_neg hname.dot, if_neg hname.up, if_neg hopen, if_neg hname.short,
        hentry]
      exact (if_neg (by simpa using hlast)).trans hgo
  | @taken e hname hunclosed hentry hdir hlink =>
      rw [descend_cons, if_neg hname.dot, if_neg hname.up, if_neg (by simp [hunclosed]),
        if_neg hname.short, hentry]
      cases e with
      | directory => exact absurd rfl hdir
      | link target => exact if_pos ⟨rfl, hlink target rfl, by simp [hunclosed]⟩
      | file bytes x => exact if_pos ⟨rfl, by simp [hunclosed]⟩
      | device v => exact if_pos ⟨rfl, by simp [hunclosed]⟩

theorem finds_of_descend {name : Text} {rest : List Text} {s : Spot}
    (h : d.descend purpose closed follow loc (name :: rest) = .ok s) :
    d.Finds purpose closed follow loc name rest s := by
  by_cases hdot : name = ['.']
  · subst hdot
    exact .onward .stay h
  by_cases hup : name = ['.', '.']
  · subst hup
    exact .onward .up h
  rw [descend_cons, if_neg hdot, if_neg hup] at h
  split at h
  next => cases h
  next hopen =>
    split at h
    next => cases h
    next hshort =>
      have hname : EntryName name := ⟨hdot, hup, hshort⟩
      split at h
      next hentry =>
        split at h
        next hrest =>
          subst hrest
          obtain rfl := Except.ok.inj h
          exact .vacant hname (by simpa using hopen) hentry
        next => cases h
      next hentry => exact .onward (.down hname hentry) h
      next target hentry =>
        split at h
        next hlast =>
          obtain ⟨rfl, hpurpose, hunclosed⟩ := hlast
          obtain rfl := Except.ok.inj h
          exact .taken hname (by simpa using hunclosed) hentry (by simp) fun _ _ => hpurpose
        next hlast => exact .followed hname hopen hentry (by simpa using hlast) h
      next e hdir hlink hentry =>
        split at h
        next hlast =>
          obtain ⟨rfl, hunclosed⟩ := hlast
          obtain rfl := Except.ok.inj h
          exact .taken hname (by simpa using hunclosed) hentry hdir
            fun target he => absurd he (hlink target)
        next => cases h

theorem descend_append (h : d.enter loc ns = some o) (hms : purpose = .create → ms ≠ []) :
    d.descend purpose closed follow loc (ns ++ ms) = d.descend purpose closed follow o ms := by
  induction ns generalizing loc with
  | nil =>
      obtain rfl : loc = o := Option.some.inj h
      rfl
  | cons name rest ih =>
      obtain ⟨l, hpass, h⟩ := enter_cons_eq_some_iff.mp h
      have hgo : purpose = .create → rest ++ ms ≠ [] := fun hcreate hnil =>
        hms hcreate (List.append_eq_nil_iff.mp hnil).2
      rw [List.cons_append, hpass.descend_cons hgo, ih h]

/-- Without links a descent that finds something passes on, or has come to the last name. -/
theorem Finds.passes_or_last (hd : d.LinkFree) {name : Text} {rest : List Text} {s : Spot}
    (h : d.Finds purpose closed follow loc name rest s) :
    (∃ l, d.Passes loc name l ∧ d.descend purpose closed follow l rest = .ok s) ∨
      rest = [] ∧ EntryName name ∧ ¬(purpose = .create ∧ closed = true) ∧
        (s = .vacant loc name ∨
          closed = false ∧ ∃ e ≠ .directory, s = .taken (loc ++ [name]) e) := by
  cases h with
  | onward hpass hgo => exact .inl ⟨_, hpass, hgo⟩
  | vacant hname hopen _ => exact .inr ⟨rfl, hname, hopen, .inl rfl⟩
  | followed _ _ hentry _ _ =>
      rcases hd.kind _ _ hentry with hlink | ⟨bytes, x, hlink⟩
      · cases hlink
      · cases hlink
  | taken hname hunclosed _ hdir _ =>
      exact .inr ⟨rfl, hname, by simp [hunclosed], .inr ⟨hunclosed, _, hdir, rfl⟩⟩

/-- Behind names that enter no directory nothing is found; if there are no more names and a
directory is asked for, at most a place without an entry. -/
theorem vacant_of_enter_none (hd : d.LinkFree) (hloc : d.entry? loc = some .directory)
    (h : d.enter loc ns = none) (hms : ms = [] → closed = true) {s : Spot}
    (hgo : d.descend purpose closed follow loc (ns ++ ms) = .ok s) :
    ms = [] ∧ ∃ dir n, s = .vacant dir n := by
  induction ns generalizing loc with
  | nil => cases h
  | cons name rest ih =>
      rcases (finds_of_descend hgo).passes_or_last hd with
        ⟨l, hpass, hgo⟩ | ⟨hlast, -, -, hspot⟩
      · exact ih (hpass.directory hd hloc) ((hpass.enter_cons rest).symm.trans h) hgo
      · have hnil := (List.append_eq_nil_iff.mp hlast).2
        rcases hspot with rfl | ⟨hunclosed, -⟩
        · exact ⟨hnil, loc, name, rfl⟩
        · exact absurd ((hms hnil).symm.trans hunclosed) (by decide)

theorem descend_directory (hd : d.LinkFree) (hloc : d.entry? loc = some .directory)
    (h : d.enter loc ns = some o) (followLast : Bool) :
    d.descend (.reach followLast) closed follow loc ns = .ok (.taken o .directory) := by
  have hgo : d.descend (.reach followLast) closed follow loc (ns ++ []) =
      d.descend (.reach followLast) closed follow o [] := descend_append h nofun
  rwa [List.append_nil, descend, if_neg nofun, hd.enter_directory hloc h] at hgo

/-- A file is come to, and a place for one, only by a proper name that is left open. -/
theorem last_of_descend (hd : d.LinkFree) (hloc : d.entry? loc = some .directory) {spot : Spot}
    (hgo : d.descend purpose closed follow loc ns = .ok spot)
    (hspot : purpose = .create ∨ ∃ l e, spot = .taken l e ∧ e ≠ .directory) :
    closed = false ∧ ∃ ms name, ns = ms ++ [name] ∧ name ≠ ['.'] ∧ name ≠ ['.', '.'] := by
  induction ns generalizing loc with
  | nil =>
      rw [descend_nil, hloc] at hgo
      split at hgo
      next => cases hgo
      next hpurpose =>
        obtain rfl := (Except.ok.inj hgo).symm
        rcases hspot with hcreate | ⟨l, e, hspot, hfile⟩
        · exact absurd hcreate hpurpose
        · obtain ⟨-, rfl⟩ := Spot.taken.inj hspot
          exact absurd rfl hfile
  | cons name rest ih =>
      rcases (finds_of_descend hgo).passes_or_last hd with
        ⟨l, hpass, hgo⟩ | ⟨rfl, hname, hopen, hlast⟩
      · obtain ⟨hunclosed, ms, last, rfl, hproper⟩ := ih (hpass.directory hd hloc) hgo
        exact ⟨hunclosed, name :: ms, last, rfl, hproper⟩
      · refine ⟨?_, [], name, rfl, hname.dot, hname.up⟩
        rcases hlast with rfl | ⟨hunclosed, -⟩
        · rcases hspot with hcreate | ⟨l, e, hspot, -⟩
          · simpa [hcreate] using hopen
          · cases hspot
        · exact hunclosed

theorem descend_last (hd : d.LinkFree) {name : Text} (hproper : name ≠ ['.'] ∧ name ≠ ['.', '.']) :
    d.descend purpose false follow o [name] =
      if maxNameBytes < name.byteSize then .error .nameTooLong
      else match d.entry? (o ++ [name]) with
        | none => .ok (.vacant o name)
        | some e =>
          if e = .directory ∧ purpose = .create then .error .isDirectory
          else .ok (.taken (o ++ [name]) e) := by
  rw [descend_cons, if_neg hproper.1, if_neg hproper.2, if_neg (by simp)]
  split
  next => rfl
  next =>
    cases hentry : d.entry? (o ++ [name]) with
    | none => rfl
    | some e =>
        rcases hd.kind _ _ hentry with rfl | ⟨bytes, x, rfl⟩
        · simp only [descend_nil, hentry, Option.getD_some, true_and]
        · simp

end

/-! ### Paths -/

theorem walk_eq_descend (d : Disk) (purpose : Purpose) (links : Nat) (closed : Bool)
    (loc : Location) (ns : List Text) :
    ∃ follow, d.walk purpose links closed loc ns = d.descend purpose closed follow loc ns := by
  cases links with
  | zero => exact ⟨_, rfl⟩
  | succ links => exact ⟨_, rfl⟩

def start (d : Disk) (p : Path) : Location :=
  startOf d.cwd p

theorem LinkFree.start (h : d.LinkFree) (p : Path) : d.entry? (d.start p) = some .directory := by
  rw [Disk.start, startOf]
  split
  · rfl
  · exact h.cwd

theorem walkNames_eq_descend (d : Disk) (p : Path) (purpose : Purpose) (closed : Bool)
    (ns : List Text) : ∃ follow, d.walkNames p purpose closed ns =
      (d.descend purpose closed follow (d.start p) ns).mapError .os := by
  obtain ⟨follow, hwalk⟩ := d.walk_eq_descend purpose maxLinks closed (d.start p) ns
  refine ⟨follow, ?_⟩
  rw [walkNames, ← Disk.start.eq_def, hwalk]
  cases d.descend purpose closed follow (d.start p) ns with
  | error e => rfl
  | ok s => rfl

theorem descend_of_spotFor {purpose : Purpose} {p : Path} {s : Spot}
    (hspot : d.spotFor purpose p = .ok s) : usable p = .ok () ∧ ∃ follow,
      d.descend purpose (endsInSeparator p) follow (d.start p) (names p) = .ok s := by
  rw [spotFor] at hspot
  cases husable : usable p with
  | error f => simp [husable] at hspot
  | ok u =>
      obtain ⟨follow, hwalk⟩ := d.walkNames_eq_descend p purpose (endsInSeparator p) (names p)
      simp only [husable, hwalk] at hspot
      refine ⟨rfl, follow, ?_⟩
      cases hgo : d.descend purpose (endsInSeparator p) follow (d.start p) (names p) with
      | error e => simp [hgo, Except.mapError] at hspot
      | ok place =>
          rw [hgo, Except.mapError] at hspot
          rw [Except.ok.inj hspot]

/-- The directory of the last name of a path is entered by the names before it. -/
theorem LinkFree.holder_eq_ok_iff (h : d.LinkFree) {p : Path} :
    d.holder p = .ok o ↔ usable p = .ok () ∧ d.enter (d.start p) (lastName p).1 = some o := by
  rw [holder]
  cases husable : usable p with
  | error f => simp
  | ok u =>
      obtain ⟨follow, hwalk⟩ := d.walkNames_eq_descend p (.reach true) true (lastName p).1
      simp only [hwalk]
      cases henter : d.enter (d.start p) (lastName p).1 with
      | none =>
          cases hdescend : d.descend (.reach true) true follow (d.start p) (lastName p).1 with
          | error e => simp [Except.mapError]
          | ok spot =>
              rw [← List.append_nil (lastName p).1] at hdescend
              obtain ⟨-, dir, n, rfl⟩ :=
                vacant_of_enter_none h (h.start p) henter (fun _ => rfl) hdescend
              simp [Except.mapError]
      | some loc =>
          rw [descend_directory h (h.start p) henter]
          simp [Except.mapError]

/-- The path comes last to a name that stands for an entry, and has no separator behind it. -/
structure Names (p : Path) (name : Text) : Prop where
  last : (lastName p).2 = some name
  unclosed : endsInSeparator p = false

namespace Names

variable {p : Path} {name : Text}

theorem names_eq (h : Names p name) :
    names p = (lastName p).1 ++ [name] ∧ name ≠ ['.'] ∧ name ≠ ['.', '.'] := by
  have hlast := h.last
  rw [lastName] at hlast ⊢
  split at hlast
  next last hnames =>
    split at hlast
    next => cases hlast
    next hproper =>
      obtain rfl : last = name := Option.some.inj hlast
      refine ⟨?_, not_or.mp hproper⟩
      rw [List.dropLast_append_getLast? last hnames]
  next => cases hlast

end Names

/-- The path leads to a name in a directory, whether there is an entry or not. -/
structure Leads (d : Disk) (p : Path) (o : Location) (name : Text) : Prop where
  names : Names p name
  holder : d.holder p = .ok o
  short : ¬maxNameBytes < name.byteSize

section

variable {p : Path} {name : Text} {purpose : Purpose}

theorem LinkFree.spotFor_of_leads (h : d.LinkFree) (hp : d.Leads p o name) (purpose : Purpose) :
    d.spotFor purpose p =
      match d.entry? (o ++ [name]) with
      | none => .ok (.vacant o name)
      | some e =>
        if e = .directory ∧ purpose = .create then .error (.os .isDirectory)
        else .ok (.taken (o ++ [name]) e) := by
  obtain ⟨husable, henter⟩ := h.holder_eq_ok_iff.mp hp.holder
  obtain ⟨hnames, hproper⟩ := hp.names.names_eq
  obtain ⟨follow, hwalk⟩ := d.walkNames_eq_descend p purpose false (Disk.names p)
  have hdescend : d.descend purpose false follow (d.start p) ((lastName p).1 ++ [name]) =
      d.descend purpose false follow o [name] :=
    descend_append henter fun _ => List.cons_ne_nil name []
  rw [hnames, hdescend, descend_last h hproper, if_neg hp.short] at hwalk
  simp only [spotFor, husable, hp.names.unclosed, hnames, hwalk]
  cases d.entry? (o ++ [name]) with
  | none => rfl
  | some e =>
      by_cases he : e = .directory ∧ purpose = .create
      · simp only [if_pos he, Except.mapError]
      · simp only [if_neg he, Except.mapError]

/-- What a path leads to is in the directory of its last name. -/
theorem LinkFree.leads_of_spotFor (h : d.LinkFree) (hp : Names p name) {spot : Spot}
    (hspot : d.spotFor purpose p = .ok spot) : ∃ o, d.Leads p o name := by
  obtain ⟨hnames, hproper⟩ := hp.names_eq
  obtain ⟨husable, follow, hgo⟩ := descend_of_spotFor hspot
  rw [hp.unclosed, hnames] at hgo
  cases henter : d.enter (d.start p) (lastName p).1 with
  | none =>
      obtain ⟨hnil, -⟩ := vacant_of_enter_none h (h.start p) henter
        (fun hnil => absurd hnil (List.cons_ne_nil name [])) hgo
      cases hnil
  | some o =>
      refine ⟨o, hp, h.holder_eq_ok_iff.mpr ⟨husable, henter⟩, fun hlong => ?_⟩
      rw [descend_append henter fun _ => List.cons_ne_nil name [], descend_last h hproper,
        if_pos hlong] at hgo
      cases hgo

/-- A path to a file, or to a place for one, ends with a name. -/
theorem LinkFree.names_of_spotFor (h : d.LinkFree) {spot : Spot}
    (hspot : d.spotFor purpose p = .ok spot)
    (hkind : purpose = .create ∨ ∃ l e, spot = .taken l e ∧ e ≠ .directory) :
    ∃ name, Names p name := by
  obtain ⟨-, follow, hgo⟩ := descend_of_spotFor hspot
  obtain ⟨hopen, ms, name, hnames, hdot, hup⟩ := last_of_descend h (h.start p) hgo hkind
  refine ⟨name, ?_, hopen⟩
  rw [lastName, hnames, List.getLast?_concat]
  simp [hdot, hup]

theorem LinkFree.leads_of_creation (h : d.LinkFree) {spot : Spot}
    (hspot : d.spotFor .create p = .ok spot) : ∃ o name, d.Leads p o name := by
  obtain ⟨name, hp⟩ := h.names_of_spotFor hspot (.inl rfl)
  obtain ⟨o, hleads⟩ := h.leads_of_spotFor hp hspot
  exact ⟨o, name, hleads⟩

/-- What is taken and no directory is the entry that the path leads to. -/
theorem LinkFree.leads_of_taken (h : d.LinkFree) {l : Location} {e : Entry} (he : e ≠ .directory)
    (hspot : d.spotFor purpose p = .ok (.taken l e)) :
    ∃ o name, d.Leads p o name ∧ l = o ++ [name] ∧ d.entry? l = some e := by
  obtain ⟨name, hnames⟩ := h.names_of_spotFor hspot (.inr ⟨l, e, rfl, he⟩)
  obtain ⟨o, hleads⟩ := h.leads_of_spotFor hnames hspot
  rw [h.spotFor_of_leads hleads] at hspot
  cases hentry : d.entry? (o ++ [name]) with
  | none => simp [hentry] at hspot
  | some there =>
      simp only [hentry] at hspot
      split at hspot
      next => cases hspot
      next =>
        obtain ⟨rfl, rfl⟩ := Spot.taken.inj (Except.ok.inj hspot)
        exact ⟨o, name, hleads, rfl, hentry⟩

theorem LinkFree.at?_of_leads (h : d.LinkFree) (hp : d.Leads p o name) :
    d.at? p = (d.entry? (o ++ [name])).map (o ++ [name], ·) := by
  rw [at?, spot, h.spotFor_of_leads hp]
  cases d.entry? (o ++ [name]) with
  | none => rfl
  | some e => simp

theorem LinkFree.leads_of_at? (h : d.LinkFree) (hp : Names p name) (hat : d.at? p ≠ none) :
    ∃ o, d.Leads p o name := by
  rw [at?] at hat
  cases hspot : d.spot p true with
  | error f => simp [hspot] at hat
  | ok spot => exact h.leads_of_spotFor hp hspot

theorem LinkFree.read_of_file (h : d.LinkFree) (hp : d.Leads p o name) {bytes : Bytes} {x : Bool}
    (hfile : d.entry? (o ++ [name]) = some (.file bytes x)) :
    d.read p = (d.refused .read (o ++ [name])).map fun () => bytes := by
  rw [read, spot, h.spotFor_of_leads hp, hfile]
  simp only [reduceCtorEq, false_and, if_false]

theorem LinkFree.holdsFile_of_file (h : d.LinkFree) (hp : d.Leads p o name) {bytes : Bytes}
    {x : Bool} (hfile : d.entry? (o ++ [name]) = some (.file bytes x)) :
    d.fileSize? p = some bytes.length ∧ d.holdsFile p = true := by
  rw [fileSize?, holdsFile, h.at?_of_leads hp, hfile]
  exact ⟨rfl, rfl⟩

theorem LinkFree.leads_of_read (h : d.LinkFree) {bytes : Bytes} (hr : d.read p = .ok bytes) :
    ∃ o name x, d.Leads p o name ∧ d.entry? (o ++ [name]) = some (.file bytes x) := by
  have hread := hr
  rw [read] at hr
  cases hspot : d.spot p true with
  | error f => simp [hspot] at hr
  | ok spot =>
      cases spot with
      | vacant dir last => simp [hspot] at hr
      | taken l e =>
          have hfile : e ≠ .directory := by
            rintro rfl
            simp [hspot] at hr
          obtain ⟨o, name, hleads, rfl, hentry⟩ := h.leads_of_taken hfile hspot
          rcases h.kind _ _ hentry with rfl | ⟨old, x, rfl⟩
          · exact absurd rfl hfile
          · rw [h.read_of_file hleads hentry, refused] at hread
            split at hread
            next => cases hread
            next => exact ⟨o, name, x, hleads, Except.ok.inj hread ▸ hentry⟩

theorem Plain.read_of_file (h : d.Plain) (hp : d.Leads p o name) {bytes : Bytes} {x : Bool}
    (hfile : d.entry? (o ++ [name]) = some (.file bytes x)) :
    d.read p = .ok bytes ∧ d.fileSize? p = some bytes.length ∧ d.holdsFile p = true := by
  refine ⟨?_, h.linkFree.holdsFile_of_file hp hfile⟩
  rw [h.linkFree.read_of_file hp hfile, refused, h.refuses]
  rfl

theorem LinkFree.holds_of_none (h : d.LinkFree) (hp : d.Leads p o name)
    (hnone : d.entry? (o ++ [name]) = none) : d.holds p = false ∧ d.fileSize? p = none := by
  rw [holds, fileSize?, h.at?_of_leads hp, hnone]
  exact ⟨rfl, rfl⟩

theorem LinkFree.exists_file (h : d.LinkFree) (hp : Names p name) (hholds : d.holdsFile p = true) :
    ∃ o, d.Leads p o name ∧ ∃ bytes x, d.entry? (o ++ [name]) = some (.file bytes x) := by
  have hat : d.at? p ≠ none := by
    intro hnone
    simp [holdsFile, hnone] at hholds
  obtain ⟨o, hleads⟩ := h.leads_of_at? hp hat
  rw [holdsFile, h.at?_of_leads hleads] at hholds
  refine ⟨o, hleads, ?_⟩
  cases hentry : d.entry? (o ++ [name]) with
  | none => simp [hentry] at hholds
  | some e =>
      rcases h.kind _ _ hentry with rfl | hfile
      · simp [hentry] at hholds
      · obtain ⟨bytes, x, rfl⟩ := hfile
        exact ⟨bytes, x, rfl⟩

theorem Plain.exists_file (h : d.Plain) (hp : Names p name) (hholds : d.holdsFile p = true) :
    ∃ o, d.Leads p o name ∧ ∃ bytes x, d.entry? (o ++ [name]) = some (.file bytes x) :=
  h.linkFree.exists_file hp hholds

theorem fileSize?_of_not_holdsFile (hholds : d.holdsFile p = false) : d.fileSize? p = none := by
  rw [holdsFile] at hholds
  rw [fileSize?]
  split
  next hat => simp [hat] at hholds
  next => rfl

theorem leads_changesFiles (h : d.LinkFree) (hd : d.ChangesFiles d') :
    d'.Leads p o name ↔ d.Leads p o name := by
  have hstart : d'.start p = d.start p := by rw [Disk.start, Disk.start, hd.cwd]
  have hholder : d'.holder p = .ok o ↔ d.holder p = .ok o := by
    rw [(h.of_changesFiles hd).holder_eq_ok_iff, h.holder_eq_ok_iff, hstart, enter_changesFiles hd]
  exact ⟨fun hp => ⟨hp.names, hholder.mp hp.holder, hp.short⟩,
    fun hp => ⟨hp.names, hholder.mpr hp.holder, hp.short⟩⟩

theorem Leads.of_changesFiles (h : d.LinkFree) (hd : d.ChangesFiles d') (hp : d.Leads p o name) :
    d'.Leads p o name :=
  (leads_changesFiles h hd).mpr hp

theorem LinkFree.directory_of_leads (h : d.LinkFree) (hp : d.Leads p o name) :
    d.entry? o = some .directory :=
  h.enter_directory (h.start p) (h.holder_eq_ok_iff.mp hp.holder).2

end

end Manuscript.Disk
