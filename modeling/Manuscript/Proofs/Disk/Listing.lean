import Manuscript.Disk.Files
import Manuscript.Proofs.Disk.Orderly

/-!
The files below a directory.

On an orderly disk a walk lists the files at or below its start whose paths are
not too long, each once. It comes to its end if every directory on its way can
be opened, for no way is longer than there are entries.
-/

namespace Manuscript.Disk

variable {d : Disk} {p q : Path} {loc : Location} {name : Text} {ns : List Text} {e : Entry}

/-! ### Walks -/

section

variable {α β ε : Type} {f : α → Except ε (List β)} {as : List α} {lists : List (List β)}

theorem mapM_eq_ok_iff :
    as.mapM f = .ok lists ↔ List.Forall₂ (fun a list => f a = .ok list) as lists := by
  induction as generalizing lists with
  | nil =>
      rw [List.mapM_nil]
      constructor
      · rintro ⟨⟩
        exact .nil
      · rintro ⟨⟩
        rfl
  | cons a as ih =>
      rw [List.mapM_cons]
      constructor
      · intro h
        cases ha : f a with
        | error e => simp [ha, bind, Except.bind] at h
        | ok list =>
            cases has : as.mapM f with
            | error e => simp [ha, has, bind, Except.bind] at h
            | ok rest =>
                obtain rfl : list :: rest = lists := by
                  simpa [ha, has, bind, Except.bind, pure, Except.pure] using h
                exact .cons ha (ih.mp has)
      · rintro (_ | ⟨ha, has⟩)
        rw [ha, ih.mpr has]
        rfl

theorem exists_mapM (h : ∀ a ∈ as, ∃ list, f a = .ok list) : ∃ lists, as.mapM f = .ok lists := by
  induction as with
  | nil => exact ⟨[], mapM_eq_ok_iff.mpr .nil⟩
  | cons a as ih =>
      obtain ⟨⟨list, ha⟩, has⟩ := List.forall_mem_cons.mp h
      obtain ⟨rest, hrest⟩ := ih has
      exact ⟨list :: rest, mapM_eq_ok_iff.mpr (.cons ha (mapM_eq_ok_iff.mp hrest))⟩

variable (h : List.Forall₂ (fun a list => f a = .ok list) as lists)
include h

theorem exists_list_of_mem {a : α} (ha : a ∈ as) :
    ∃ list, f a = .ok list ∧ ∀ b ∈ list, b ∈ lists.flatten := by
  induction h with
  | nil => exact absurd ha List.not_mem_nil
  | cons hfirst _ ih =>
      rcases List.mem_cons.mp ha with rfl | ha
      · exact ⟨_, hfirst, fun b hb => by simp [hb]⟩
      · obtain ⟨list, hlist, hmem⟩ := ih ha
        exact ⟨list, hlist, fun b hb => by
          rw [List.flatten_cons]
          exact List.mem_append_right _ (hmem b hb)⟩

theorem exists_of_mem_flatten {b : β} (hb : b ∈ lists.flatten) :
    ∃ a ∈ as, ∃ list, f a = .ok list ∧ b ∈ list := by
  induction h with
  | nil => exact absurd hb List.not_mem_nil
  | cons hfirst _ ih =>
      rw [List.flatten_cons, List.mem_append] at hb
      rcases hb with hb | hb
      · exact ⟨_, List.mem_cons_self, _, hfirst, hb⟩
      · obtain ⟨a, ha, list, hlist, hmem⟩ := ih hb
        exact ⟨a, List.mem_cons_of_mem _ ha, list, hlist, hmem⟩

theorem nodup_flatten (hnodup : ∀ a ∈ as, ∀ list, f a = .ok list → list.Nodup)
    (happart : as.Pairwise fun a a' => ∀ list list', f a = .ok list → f a' = .ok list' →
      list.Disjoint list') : lists.flatten.Nodup := by
  induction h with
  | nil => exact List.nodup_nil
  | cons hfirst hrest ih =>
      obtain ⟨hnodup₁, hnodup⟩ := List.forall_mem_cons.mp hnodup
      obtain ⟨hapart₁, happart⟩ := List.pairwise_cons.mp happart
      rw [List.flatten_cons]
      refine List.nodup_append'.mpr ⟨hnodup₁ _ hfirst, ih hnodup happart, fun b hb hb' => ?_⟩
      obtain ⟨a, ha, list, hlist, hmem⟩ := exists_of_mem_flatten hrest hb'
      exact hapart₁ a ha _ _ hfirst hlist hb hmem

end

section

variable {fuel : Nat} {ancestors : Ancestors} {files : List Path}

theorem filesFrom_file (d : Disk) (fuel : Nat) (ancestors : Ancestors) (p : Path) (loc : Location)
    (bytes : Bytes) (x : Bool) : d.filesFrom (fuel + 1) ancestors p loc (.file bytes x) =
      .ok (if d.holdsFile p then [p] else []) := rfl

theorem filesFrom_directory (d : Disk) (fuel : Nat) (ancestors : Ancestors) (p : Path)
    (loc : Location) : d.filesFrom (fuel + 1) ancestors p loc .directory =
      (d.listed p loc).bind fun children =>
        (children.mapM fun child => d.filesFrom fuel ((p, loc) :: ancestors)
          (p.join ⟨child.1⟩) (loc ++ [child.1]) child.2).map List.flatten := by
  simp only [filesFrom, reach]
  cases d.listed p loc with
  | error e => rfl
  | ok children => rfl

theorem filesFrom_directory_iff :
    d.filesFrom (fuel + 1) ancestors p loc .directory = .ok files ↔
      (∃ spot, d.spot p true = .ok spot) ∧ ∃ lists,
        List.Forall₂ (fun child list => d.filesFrom fuel ((p, loc) :: ancestors)
          (p.join ⟨child.1⟩) (loc ++ [child.1]) child.2 = .ok list) (d.children loc) lists ∧
        files = lists.flatten := by
  rw [filesFrom_directory, listed]
  cases hspot : d.spot p true with
  | error f => simp [Except.bind]
  | ok spot =>
      simp only [Except.ok.injEq, exists_eq', true_and, Except.bind, ← mapM_eq_ok_iff]
      constructor
      · intro h
        cases hlists : (d.children loc).mapM fun child => d.filesFrom fuel ((p, loc) :: ancestors)
            (p.join ⟨child.1⟩) (loc ++ [child.1]) child.2 with
        | error e => simp [hlists, Except.map] at h
        | ok lists =>
            rw [hlists] at h
            exact ⟨lists, rfl, (Except.ok.inj h).symm⟩
      · rintro ⟨lists, hlists, rfl⟩
        rw [hlists]
        rfl

/-- A walk lists the files at or below its start that it can look up and that are not too deep. -/
theorem Orderly.mem_filesFrom (h : d.Orderly) (he : d.entry? loc = some e)
    (hfiles : d.filesFrom fuel ancestors p loc e = .ok files) :
    q ∈ files ↔ ∃ ns, ns.length < fuel ∧ q = p.below ns ∧ d.file? (loc ++ ns) ≠ none ∧
      d.holdsFile q = true := by
  induction fuel generalizing ancestors p loc e files with
  | zero =>
      obtain rfl : [] = files := Except.ok.inj hfiles
      simp
  | succ fuel ih =>
      rcases h.kind _ _ he with rfl | ⟨bytes, x, rfl⟩
      · obtain ⟨-, lists, hlists, rfl⟩ := filesFrom_directory_iff.mp hfiles
        constructor
        · intro hq
          obtain ⟨⟨name, e⟩, hchild, list, hlist, hmem⟩ := exists_of_mem_flatten hlists hq
          obtain ⟨ns, hlength, rfl, hfile, hholds⟩ := (ih (h.mem_children.mp hchild) hlist).mp hmem
          refine ⟨name :: ns, Nat.succ_lt_succ hlength, rfl, ?_, hholds⟩
          simpa using hfile
        · rintro ⟨ns, hlength, rfl, hfile, hholds⟩
          cases ns with
          | nil =>
              rw [List.append_nil, file?_of_directory he] at hfile
              exact absurd rfl hfile
          | cons name ns =>
              rw [← List.singleton_append, ← List.append_assoc] at hfile
              have hthere : d.entry? (loc ++ [name]) ≠ none :=
                h.entry?_above (List.prefix_append _ _) (entry?_ne_none_of_file? hfile)
              obtain ⟨e, he⟩ := Option.ne_none_iff_exists'.mp hthere
              obtain ⟨list, hlist, hmem⟩ := exists_list_of_mem hlists (h.mem_children.mpr he)
              exact hmem _ ((ih he hlist).mpr
                ⟨ns, Nat.lt_of_succ_lt_succ hlength, rfl, hfile, hholds⟩)
      · rw [filesFrom_file] at hfiles
        obtain rfl := Except.ok.inj hfiles
        constructor
        · intro hq
          split at hq
          next hholds =>
            obtain rfl := List.mem_singleton.mp hq
            refine ⟨[], Nat.succ_pos _, rfl, ?_, hholds⟩
            simp [file?, he]
          next => exact absurd hq List.not_mem_nil
        · rintro ⟨ns, -, rfl, hfile, hholds⟩
          -- nothing is below a file
          cases ns with
          | nil =>
              rw [if_pos (show d.holdsFile p = true from hholds)]
              exact List.mem_singleton_self _
          | cons name ns =>
              have hbelow : d.entry? (loc ++ name :: ns) = none :=
                h.nothing_below (by simp [he]) (List.prefix_append loc (name :: ns)) (by simp)
              exact absurd (by rw [file?, hbelow]) hfile

theorem Orderly.nodup_filesFrom (h : d.Orderly) (he : d.entry? loc = some e)
    (hfiles : d.filesFrom fuel ancestors p loc e = .ok files) : files.Nodup := by
  induction fuel generalizing ancestors p loc e files with
  | zero =>
      obtain rfl : [] = files := Except.ok.inj hfiles
      exact List.nodup_nil
  | succ fuel ih =>
      rcases h.kind _ _ he with rfl | ⟨bytes, x, rfl⟩
      · obtain ⟨-, lists, hlists, rfl⟩ := filesFrom_directory_iff.mp hfiles
        -- what is listed below a child has the name of the child in its path
        have hnamed : ∀ child ∈ d.children loc, ∀ list, d.filesFrom fuel ((p, loc) :: ancestors)
            (p.join ⟨child.1⟩) (loc ++ [child.1]) child.2 = .ok list →
              ∀ q ∈ list, ∃ ns, names q = names p ++ child.1 :: ns := by
          intro child hchild list hlist q hq
          obtain ⟨ns, -, rfl, hfile, -⟩ :=
            (h.mem_filesFrom (h.mem_children.mp hchild) hlist).mp hq
          have hthere : d.entry? (loc ++ child.1 :: ns) ≠ none :=
            entry?_ne_none_of_file? (by simpa using hfile)
          exact ⟨ns, names_below p fun _ hmem => h.properName_of_mem hthere hmem⟩
        refine nodup_flatten hlists
          (fun child hchild list hlist => ih (h.mem_children.mp hchild) hlist) ?_
        refine (List.pairwise_map.mp (h.nodup_children loc)).imp_of_mem ?_
        intro child child' hchild hchild' hne list list' hlist hlist' q hq hq'
        obtain ⟨ns, hns⟩ := hnamed child hchild list hlist q hq
        obtain ⟨ns', hns'⟩ := hnamed child' hchild' list' hlist' q hq'
        have hcons := List.append_cancel_left (hns.symm.trans hns')
        exact hne (List.cons.inj hcons).1
      · rw [filesFrom_file] at hfiles
        obtain rfl := Except.ok.inj hfiles
        split
        next => exact List.nodup_singleton _
        next => exact List.nodup_nil

/-- A walk of a directory comes to its end if it can open each directory on its way. -/
theorem Orderly.filesFrom_ok_iff (h : d.Orderly) (hp : d.Enters p loc) :
    (∃ files, d.filesFrom fuel ancestors p loc .directory = .ok files) ↔
      ∀ ns, ns.length < fuel → d.entry? (loc ++ ns) = some .directory →
        usable (p.below ns) = .ok () := by
  induction fuel generalizing ancestors p loc with
  | zero => exact iff_of_true ⟨[], rfl⟩ fun _ hlength => absurd hlength (Nat.not_lt_zero _)
  | succ fuel ih =>
      constructor
      · rintro ⟨files, hfiles⟩ ns hlength hdir
        obtain ⟨-, lists, hlists, -⟩ := filesFrom_directory_iff.mp hfiles
        cases ns with
        | nil => exact hp.usable
        | cons name ns =>
            have hthere : d.entry? (loc ++ name :: ns) ≠ none := by simp [hdir]
            have hproper := h.properName_of_mem hthere List.mem_cons_self
            have hchild : d.entry? (loc ++ [name]) = some .directory := by
              by_cases hns : ns = []
              · rwa [hns] at hdir
              · exact h.of_prefix ⟨ns, by simp⟩ (by simpa using Ne.symm hns) hthere
            obtain ⟨list, hlist, -⟩ := exists_list_of_mem hlists (h.mem_children.mpr hchild)
            have hopened : usable (p.join ⟨name⟩) = .ok () := by
              cases fuel with
              | zero => exact absurd (Nat.lt_of_succ_lt_succ hlength) (Nat.not_lt_zero _)
              | succ fuel =>
                  obtain ⟨⟨spot, hspot⟩, -⟩ := filesFrom_directory_iff.mp hlist
                  exact (descend_of_spotFor hspot).1
            refine (ih (hp.join hproper hchild hopened)).mp ⟨list, hlist⟩ ns
              (Nat.lt_of_succ_lt_succ hlength) ?_
            simpa using hdir
      · intro hopen
        have hchildren : ∀ child ∈ d.children loc, ∃ list, d.filesFrom fuel ((p, loc) :: ancestors)
            (p.join ⟨child.1⟩) (loc ++ [child.1]) child.2 = .ok list := by
          rintro ⟨name, e⟩ hmem
          have hchild := h.mem_children.mp hmem
          by_cases hfuel : fuel = 0
          · exact hfuel ▸ ⟨[], rfl⟩
          rcases h.kind _ _ hchild with rfl | ⟨bytes, x, rfl⟩
          · have hproper := h.named loc name (by simp [hchild])
            have hopened := hopen [name] (by simpa using Nat.pos_of_ne_zero hfuel) hchild
            have henters := hp.join hproper hchild hopened
            refine (ih henters).mpr fun ns hlength hdir => ?_
            refine hopen (name :: ns) (Nat.succ_lt_succ hlength) ?_
            simpa using hdir
          · obtain ⟨fuel, rfl⟩ := Nat.exists_eq_succ_of_ne_zero hfuel
            exact ⟨_, filesFrom_file ..⟩
        obtain ⟨lists, hlists⟩ := exists_mapM hchildren
        exact ⟨_, filesFrom_directory_iff.mpr
          ⟨⟨_, h.spot_of_enters hp true⟩, lists, mapM_eq_ok_iff.mp hlists, rfl⟩⟩

end

/-! ### Where walks begin -/

inductive Begins (d : Disk) (p : Path) (loc : Location) : Prop
  | directory : d.Enters p loc → Begins d p loc
  | file : d.LeadsTo p loc → d.file? loc ≠ none → Begins d p loc

theorem LinkFree.enter_of_descend (h : d.LinkFree) {followLast closed : Bool}
    {follow : Location → Path → List Text → Except Errno Spot} {o : Location}
    (hloc : d.entry? loc = some .directory)
    (hgo : d.descend (.reach followLast) closed follow loc ns = .ok (.taken o .directory)) :
    d.enter loc ns = some o := by
  induction ns generalizing loc with
  | nil =>
      rw [descend_nil, if_neg (by simp)] at hgo
      rw [enter_nil, (Spot.taken.inj (Except.ok.inj hgo)).1]
  | cons name rest ih =>
      rcases (finds_of_descend hgo).passes_or_last h with
        ⟨l, hpass, hgo⟩ | ⟨-, -, -, hlast | ⟨-, e, he, hlast⟩⟩
      · exact (hpass.enter_cons rest).trans (ih (hpass.directory h hloc) hgo)
      · cases hlast
      · exact absurd (Spot.taken.inj hlast).2.symm he

namespace LinkFree

theorem begins_of_spot (h : d.LinkFree) {followLast : Bool}
    (hspot : d.spot p followLast = .ok (.taken loc e)) :
    d.Begins p loc ∧ d.entry? loc = some e := by
  by_cases he : e = .directory
  · subst he
    obtain ⟨husable, follow, hgo⟩ := descend_of_spotFor hspot
    have henters : d.Enters p loc := ⟨husable, h.enter_of_descend (h.start p) hgo⟩
    exact ⟨.directory henters, h.directory_of_enters henters⟩
  · obtain ⟨o, name, hleads, rfl, hentry⟩ := h.leads_of_taken he hspot
    refine ⟨.file hleads.leadsTo ?_, hentry⟩
    rcases h.kind _ _ hentry with rfl | ⟨bytes, x, rfl⟩
    · exact absurd rfl he
    · simp [file?, hentry]

theorem spot_of_begins (h : d.LinkFree) (hp : d.Begins p loc) (followLast : Bool) :
    ∃ e, d.spot p followLast = .ok (.taken loc e) ∧ d.entry? loc = some e := by
  cases hp with
  | directory henters =>
      exact ⟨.directory, h.spot_of_enters henters followLast, h.directory_of_enters henters⟩
  | file hleads hfile =>
      obtain ⟨o, name, hleads, rfl⟩ := hleads
      obtain ⟨bytes, hbytes⟩ := Option.ne_none_iff_exists'.mp hfile
      obtain ⟨x, hentry⟩ := file?_eq_some_iff.mp hbytes
      refine ⟨_, ?_, hentry⟩
      rw [spot, h.spotFor_of_leads hleads, hentry]
      simp

theorem filesAt_of_begins (h : d.LinkFree) (hp : d.Begins p loc) :
    ∃ e, d.entry? loc = some e ∧ d.filesAt p = d.filesFrom d.depthBound [] p loc e := by
  obtain ⟨e, hspot, hentry⟩ := h.spot_of_begins hp false
  exact ⟨e, hentry, by rw [filesAt, hspot]⟩

theorem begins_of_filesAt (h : d.LinkFree) {files : List Path} (hfiles : d.filesAt p = .ok files) :
    ∃ loc, d.Begins p loc := by
  rw [filesAt] at hfiles
  cases hspot : d.spot p false with
  | error f => simp [hspot] at hfiles
  | ok spot =>
      cases spot with
      | vacant dir name => simp [hspot] at hfiles
      | taken loc e => exact ⟨loc, (h.begins_of_spot hspot).1⟩

end LinkFree

theorem Begins.usable (hp : d.Begins p loc) : usable p = .ok () := by
  cases hp with
  | directory henters => exact henters.usable
  | file hleads _ =>
      obtain ⟨o, name, hleads, -⟩ := hleads
      exact hleads.usable

/-- The path of a file below leads to it unless it is too long. -/
theorem Orderly.leadsTo_below_iff (h : d.Orderly) (hp : d.Begins p loc)
    (hfile : d.file? (loc ++ ns) ≠ none) :
    d.LeadsTo (p.below ns) (loc ++ ns) ↔ (p.below ns).text.byteSize ≤ maxPathBytes := by
  have hthere := entry?_ne_none_of_file? hfile
  have husable := usable_below_iff hp.usable fun _ hname => h.properName_of_mem hthere hname
  rw [← husable]
  refine ⟨fun ⟨o, name, hleads, _⟩ => hleads.usable, fun hbelow => ?_⟩
  by_cases hns : ns = []
  · subst hns
    rw [List.append_nil] at hfile ⊢
    cases hp with
    | directory henters => exact absurd (file?_of_directory (h.directory_of_enters henters)) hfile
    | file hleads _ => exact hleads
  · cases hp with
    | directory henters => exact h.leadsTo_below henters hns hthere hbelow
    | file _ hfile' =>
        -- nothing is below a file
        refine absurd (h.nothing_below (fun hdir => hfile' (file?_of_directory hdir))
          (List.prefix_append loc ns) ?_) hthere
        simpa using hns

/-! ### The files at a path -/

namespace Orderly

variable {files : List Path} (h : d.Orderly)
include h

theorem length_lt_depthBound (hns : d.entry? (loc ++ ns) ≠ none) : ns.length < d.depthBound := by
  have hlength := h.length_le hns
  have hsquare := Nat.le_mul_self (d.entries.length + 2)
  rw [depthBound]
  omega

variable (hp : d.Begins p loc)
include hp

theorem mem_filesAt (hfiles : d.filesAt p = .ok files) :
    q ∈ files ↔ ∃ ns, q = p.below ns ∧ d.LeadsTo q (loc ++ ns) ∧ d.file? (loc ++ ns) ≠ none := by
  obtain ⟨e, hentry, heq⟩ := h.filesAt_of_begins hp
  rw [h.mem_filesFrom hentry (heq ▸ hfiles)]
  constructor
  · rintro ⟨ns, -, rfl, hfile, hholds⟩
    refine ⟨ns, rfl, ?_, hfile⟩
    cases hp with
    | directory henters =>
        have hns : ns ≠ [] := by
          rintro rfl
          rw [List.append_nil, file?_of_directory (h.directory_of_enters henters)] at hfile
          exact hfile rfl
        obtain ⟨l, bytes, ⟨o, name, hleads, -⟩, -⟩ := h.exists_leadsTo_of_holdsFile hholds
        exact h.leadsTo_below henters hns (entry?_ne_none_of_file? hfile)
          (h.holder_eq_ok_iff.mp hleads.holder).1
    | file hleads hfile' =>
        -- nothing is below a file
        have hns : ns = [] := by
          by_contra hns
          exact entry?_ne_none_of_file? hfile <| h.nothing_below
            (fun hdir => hfile' (file?_of_directory hdir)) (List.prefix_append _ _)
            (by simpa using hns)
        rw [hns, List.append_nil]
        exact hleads
  · rintro ⟨ns, rfl, hleads, hfile⟩
    exact ⟨ns, h.length_lt_depthBound (entry?_ne_none_of_file? hfile), rfl, hfile,
      h.holdsFile_of_leadsTo hleads hfile⟩

theorem nodup_filesAt (hfiles : d.filesAt p = .ok files) : files.Nodup := by
  obtain ⟨e, hentry, heq⟩ := h.filesAt_of_begins hp
  exact h.nodup_filesFrom hentry (heq ▸ hfiles)

theorem filesAt_ok_iff : (∃ files, d.filesAt p = .ok files) ↔
    ∀ ns, d.entry? (loc ++ ns) = some .directory → usable (p.below ns) = .ok () := by
  obtain ⟨e, hentry, heq⟩ := h.filesAt_of_begins hp
  rw [heq]
  cases hp with
  | directory henters =>
      obtain rfl := Option.some.inj (hentry.symm.trans (h.directory_of_enters henters))
      rw [h.filesFrom_ok_iff henters]
      refine forall_congr' fun ns => ⟨fun hopen hdir => ?_, fun hopen _ => hopen⟩
      have hthere : d.entry? (loc ++ ns) ≠ none := by simp [hdir]
      exact hopen (h.length_lt_depthBound hthere) hdir
  | file hleads hfile =>
      obtain ⟨bytes, hbytes⟩ := Option.ne_none_iff_exists'.mp hfile
      obtain ⟨x, hfile⟩ := file?_eq_some_iff.mp hbytes
      obtain rfl := Option.some.inj (hentry.symm.trans hfile)
      refine iff_of_true ⟨_, filesFrom_file d _ [] p loc bytes x⟩ fun ns hdir => ?_
      by_cases hns : ns = []
      · rw [hns, List.append_nil, hfile] at hdir
        cases hdir
      · rw [h.nothing_below (by simp [hfile]) (List.prefix_append loc ns) (by simpa using hns)]
          at hdir
        cases hdir

end Orderly

/-- There is something at the path to begin with, and each directory below can be opened. -/
def Walkable (d : Disk) (p : Path) : Prop :=
  ∃ loc, d.Begins p loc ∧
    ∀ ns, d.entry? (loc ++ ns) = some .directory → usable (p.below ns) = .ok ()

theorem Orderly.exists_filesAt_iff (h : d.Orderly) :
    (∃ files, d.filesAt p = .ok files) ↔ d.Walkable p := by
  constructor
  · rintro ⟨files, hfiles⟩
    obtain ⟨loc, hp⟩ := h.begins_of_filesAt hfiles
    exact ⟨loc, hp, (h.filesAt_ok_iff hp).mp ⟨files, hfiles⟩⟩
  · rintro ⟨loc, hp, hopen⟩
    exact (h.filesAt_ok_iff hp).mpr hopen

end Manuscript.Disk
