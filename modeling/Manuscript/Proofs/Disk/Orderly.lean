import Manuscript.Proofs.Disk.Directory
import Mathlib.Data.List.Nodup
import Mathlib.Data.List.Perm.Subperm

/-!
Orderly disks and the paths below a path.

On an orderly disk every entry is listed once and under a name that paths can
spell. So the children of a directory are the entries one name below it, and a
path that goes on by their names leads to them, unless it is too long.
-/

namespace Manuscript

/-- The path of what is reached from another one by names. -/
def Path.below (p : Path) (ns : List Text) : Path :=
  ns.foldl (fun q name => q.join ⟨name⟩) p

namespace Disk

variable {d : Disk} {p q : Path} {loc : Location} {name : Text} {ns : List Text} {e : Entry}

/-! ### Orderly disks -/

/-- A name that an entry can have. -/
structure ProperName (name : Text) : Prop where
  normal : Path.component? name = some (.normal name)
  slash : '/' ∉ name
  nul : '\x00' ∉ name
  short : ¬maxNameBytes < name.byteSize

/-- A tree of files and directories under proper names, each listed once. -/
structure Orderly (d : Disk) : Prop extends d.LinkFree where
  named : ∀ loc name, d.entry? (loc ++ [name]) ≠ none → ProperName name
  distinct : (d.entries.map (·.1)).Nodup

theorem ProperName.ne_nil (h : ProperName name) : name ≠ [] :=
  (Path.component?_eq_normal_iff.mp h.normal).1

instance (name : Text) : Decidable (ProperName name) :=
  decidable_of_iff (Path.component? name = some (.normal name) ∧ '/' ∉ name ∧ '\x00' ∉ name ∧
      ¬maxNameBytes < name.byteSize)
    ⟨fun h => ⟨h.1, h.2.1, h.2.2.1, h.2.2.2⟩, fun h => ⟨h.normal, h.slash, h.nul, h.short⟩⟩

theorem Leads.properName (h : d.Leads p loc name) : ProperName name := by
  obtain ⟨before, hparts, hname⟩ := h.names.exists_parts
  have hmem : name ∈ p.parts := by simp [hparts]
  refine ⟨hname, Path.slash_not_mem_parts hmem, fun hnul => ?_, h.short⟩
  -- what stands in a part stands in the path
  refine (usable_eq_ok_iff.mp h.usable).1 ?_
  rw [Path.text_eq_joinWith, hparts]
  by_cases hbefore : before = []
  · rwa [hbefore]
  · rw [Text.joinWith_concat hbefore]
    exact List.mem_append_right _ hnul

def childName (loc l : Location) : Option Text :=
  if l.length = loc.length + 1 ∧ loc.isPrefixOf l then l.getLast? else none

theorem childName_eq_some_iff {l : Location} : childName loc l = some name ↔ l = loc ++ [name] := by
  rw [childName]
  constructor
  · intro hname
    split at hname
    next hl =>
      obtain ⟨rest, rfl⟩ := List.isPrefixOf_iff_prefix.mp hl.2
      have hrest : rest.length = 1 := by
        have := hl.1
        rw [List.length_append] at this
        omega
      obtain ⟨last, rfl⟩ := List.length_eq_one_iff.mp hrest
      rw [List.getLast?_concat] at hname
      rw [Option.some.inj hname]
    next => cases hname
  · rintro rfl
    rw [if_pos ⟨by simp, List.isPrefixOf_iff_prefix.mpr (List.prefix_append _ _)⟩,
      List.getLast?_concat]

theorem children_eq (d : Disk) (loc : Location) :
    d.children loc = d.entries.filterMap fun x => (childName loc x.1).map (·, x.2) := by
  rw [children]
  refine List.filterMap_congr fun x _ => ?_
  obtain ⟨l, e⟩ := x
  simp only [childName]
  split
  next => rfl
  next => rfl

/-- On the way to an entry there are entries. -/
theorem LinkFree.entry?_above (h : d.LinkFree) {top : Location} (hloc : top <+: loc)
    (he : d.entry? loc ≠ none) : d.entry? top ≠ none := by
  by_cases htop : top = loc
  · rwa [htop]
  · rw [h.of_prefix hloc htop he]
    exact Option.some_ne_none _

namespace Orderly

theorem of_entries (h : d.LinkFree)
    (hnamed : ∀ x ∈ d.entries, ∀ name ∈ x.1.getLast?, ProperName name)
    (hdistinct : (d.entries.map (·.1)).Nodup) : d.Orderly where
  toLinkFree := h
  named := by
    intro loc name hentry
    obtain ⟨e, he⟩ := Option.ne_none_iff_exists'.mp hentry
    rcases mem_of_entry? he with hnil | hmem
    · simp at hnil
    · exact hnamed _ hmem name (by simp)
  distinct := hdistinct

/-- The children of a directory are the entries one name below it. -/
theorem mem_children (h : d.Orderly) :
    (name, e) ∈ d.children loc ↔ d.entry? (loc ++ [name]) = some e := by
  rw [children_eq, List.mem_filterMap, entry?_of_ne_nil (by simp)]
  constructor
  · rintro ⟨⟨l, e'⟩, hmem, hchild⟩
    obtain ⟨last, hlast, hpair⟩ := Option.map_eq_some_iff.mp hchild
    obtain ⟨rfl, rfl⟩ := Prod.mk.inj hpair
    obtain rfl := childName_eq_some_iff.mp hlast
    exact lookup_of_mem h.distinct hmem
  · intro hlookup
    refine ⟨(loc ++ [name], e), (lookup_eq_some_iff_mem h.distinct).mp hlookup, ?_⟩
    simp only [childName_eq_some_iff.mpr rfl, Option.map_some]

theorem nodup_children (h : d.Orderly) (loc : Location) : ((d.children loc).map (·.1)).Nodup := by
  have hnames : (d.children loc).map (·.1) =
      (d.entries.map (·.1)).filterMap (childName loc) := by
    rw [children_eq, List.map_filterMap, List.filterMap_map]
    refine List.filterMap_congr fun x _ => ?_
    simp [Function.comp_def]
  rw [hnames]
  refine h.distinct.filterMap fun l l' n hl hl' => ?_
  rw [childName_eq_some_iff.mp hl, childName_eq_some_iff.mp hl']

section

variable {es : List (Location × Entry)} (h : d.Orderly) (hes : es.Perm d.entries)
include h hes

theorem entry?_perm (l : Location) : entry? { d with entries := es } l = d.entry? l := by
  by_cases hl : l = []
  · rw [hl]
    rfl
  · have hdistinct : (es.map (·.1)).Nodup := (hes.map _).nodup_iff.mpr h.distinct
    rw [entry?_of_ne_nil hl, entry?_of_ne_nil hl]
    refine Option.ext fun e => ?_
    rw [lookup_eq_some_iff_mem hdistinct, lookup_eq_some_iff_mem h.distinct, hes.mem_iff]

theorem changesFiles_perm : d.ChangesFiles { d with entries := es } where
  cwd := rfl
  refuses := rfl
  directory l := by rw [h.entry?_perm hes]
  file l := .inl (h.entry?_perm hes l)

theorem perm : Orderly { d with entries := es } where
  toLinkFree := h.toLinkFree.of_changesFiles (h.changesFiles_perm hes)
  named loc name hentry := h.named loc name (h.entry?_perm hes _ ▸ hentry)
  distinct := (hes.map _).nodup_iff.mpr h.distinct

end

theorem properName_of_mem (h : d.Orderly) (hns : d.entry? (loc ++ ns) ≠ none) (hname : name ∈ ns) :
    ProperName name := by
  obtain ⟨before, after, rfl⟩ := List.append_of_mem hname
  exact h.named (loc ++ before) name (h.entry?_above ⟨after, by simp⟩ hns)

theorem length_le (h : d.Orderly) (hns : d.entry? (loc ++ ns) ≠ none) :
    ns.length ≤ d.entries.length := by
  let steps := (List.range ns.length).map fun k => loc ++ ns.take (k + 1)
  have hnodup : steps.Nodup := by
    refine (List.nodup_range).map_on fun i hi j hj hij => ?_
    have hlength := congrArg List.length hij
    simp only [List.length_append, List.length_take] at hlength
    rw [List.mem_range] at hi hj
    omega
  have hsubset : steps ⊆ d.entries.map (·.1) := by
    intro l hl
    obtain ⟨k, hk, rfl⟩ := List.mem_map.mp hl
    rw [List.mem_range] at hk
    have hsome : d.entry? (loc ++ ns.take (k + 1)) ≠ none :=
      h.entry?_above ((List.prefix_append_right_inj _).mpr (List.take_prefix _ _)) hns
    obtain ⟨e, he⟩ := Option.ne_none_iff_exists'.mp hsome
    rcases mem_of_entry? he with hnil | hmem
    · have hlength := congrArg List.length hnil
      simp only [List.length_append, List.length_take, List.length_nil] at hlength
      omega
    · exact List.mem_map.mpr ⟨_, hmem, rfl⟩
  have := (hnodup.subperm hsubset).length_le
  simpa [steps] using this

end Orderly

/-! ### Paths below a path -/

theorem names_below (p : Path) (hns : ∀ name ∈ ns, ProperName name) :
    names (p.below ns) = names p ++ ns := by
  induction ns generalizing p with
  | nil => exact (List.append_nil _).symm
  | cons name ns ih =>
      obtain ⟨hname, hns⟩ := List.forall_mem_cons.mp hns
      rw [Path.below, List.foldl_cons, ← Path.below, ih _ hns,
        names_join p (Path.not_isAbsolute_of_slash_not_mem hname.slash),
        names_of_slash_not_mem hname.slash hname.ne_nil, List.append_assoc, List.singleton_append]

theorem steps_eq (p : Path) :
    p.steps = (names p).filter fun part => (Path.component? part).isSome := by
  rw [Path.steps, names, List.filter_filter]
  refine List.filter_congr fun part _ => ?_
  by_cases hpart : part = []
  · simp [hpart, Path.component?]
  · simp [hpart]

theorem steps_below (p : Path) (hns : ∀ name ∈ ns, ProperName name) :
    (p.below ns).steps = p.steps ++ ns := by
  rw [steps_eq, names_below p hns, List.filter_append, ← steps_eq]
  refine congrArg _ (List.filter_eq_self.mpr fun name hname => ?_)
  simp [(hns name hname).normal]

theorem prefix_join (p : Path) (hname : '/' ∉ name) : p.text <+: (p.join ⟨name⟩).text := by
  rw [Path.join_eq hname]
  split
  next => exact List.prefix_append _ _
  next => exact List.prefix_append _ _

theorem prefix_below (p : Path) (hns : ∀ name ∈ ns, ProperName name) :
    p.text <+: (p.below ns).text := by
  induction ns generalizing p with
  | nil => exact List.prefix_rfl
  | cons name ns ih =>
      obtain ⟨hname, hns⟩ := List.forall_mem_cons.mp hns
      exact (prefix_join p hname.slash).trans (ih (p.join ⟨name⟩) hns)

theorem mem_join {c : Char} (hc : c ∈ (p.join ⟨name⟩).text) : c ∈ p.text ∨ c = '/' ∨ c ∈ name := by
  rw [Path.join] at hc
  split at hc
  next => exact .inr (.inr hc)
  next =>
    split at hc
    next => exact (List.mem_append.mp hc).imp_right .inr
    next => exact (List.mem_append.mp hc).imp_right List.mem_cons.mp

/-- A path goes on with nothing but separators and names. -/
theorem mem_below {c : Char} (hc : c ∈ (p.below ns).text) :
    c ∈ p.text ∨ c = '/' ∨ ∃ name ∈ ns, c ∈ name := by
  induction ns generalizing p with
  | nil => exact .inl hc
  | cons name ns ih =>
      rcases ih hc with hjoin | hslash | ⟨n, hn, hmem⟩
      · exact (mem_join hjoin).imp_right fun h => h.imp_right fun hmem =>
          ⟨name, List.mem_cons_self, hmem⟩
      · exact .inr (.inl hslash)
      · exact .inr (.inr ⟨n, List.mem_cons_of_mem _ hn, hmem⟩)

/-- What a path goes on to can be looked up unless it gets too long. -/
theorem usable_below_iff (hp : usable p = .ok ()) (hns : ∀ name ∈ ns, ProperName name) :
    usable (p.below ns) = .ok () ↔ (p.below ns).text.byteSize ≤ maxPathBytes := by
  obtain ⟨hnul, hnil, -⟩ := usable_eq_ok_iff.mp hp
  refine ⟨fun h => (usable_eq_ok_iff.mp h).2.2, fun hlength => ?_⟩
  refine usable_eq_ok_iff.mpr ⟨?_, ?_, hlength⟩
  · intro hmem
    rcases mem_below hmem with hmem | hslash | ⟨name, hname, hmem⟩
    · exact hnul hmem
    · exact absurd hslash (by decide)
    · exact (hns name hname).nul hmem
  · intro hempty
    have hprefix := prefix_below p hns
    rw [hempty] at hprefix
    exact hnil (List.prefix_nil.mp hprefix)

/-- If a path can be looked up, so can those that it goes on from. -/
theorem usable_of_below (hp : p.text ≠ []) (hns : ∀ name ∈ ns, ProperName name)
    (h : usable (p.below ns) = .ok ()) : usable p = .ok () :=
  usable_of_shorter h (prefix_below p hns) hp

theorem text_join_ne_nil (p : Path) (hname : ProperName name) : (p.join ⟨name⟩).text ≠ [] := by
  rw [Path.join_eq hname.slash]
  split
  next => simp [hname.ne_nil]
  next => simp

theorem Enters.join (hp : d.Enters p loc) (hname : ProperName name)
    (hdir : d.entry? (loc ++ [name]) = some .directory)
    (husable : Disk.usable (p.join ⟨name⟩) = .ok ()) :
    d.Enters (p.join ⟨name⟩) (loc ++ [name]) := by
  have hrelative := Path.not_isAbsolute_of_slash_not_mem hname.slash
  obtain ⟨-, hdot, hup⟩ := Path.component?_eq_normal_iff.mp hname.normal
  refine ⟨husable, ?_⟩
  rw [names_join p hrelative, names_of_slash_not_mem hname.slash hname.ne_nil, Disk.start, startOf,
    Path.isAbsolute_join hp.text_ne_nil hrelative, ← startOf, ← Disk.start, enter_append, hp.enter]
  exact (Passes.down ⟨hdot, hup, hname.short⟩ hdir).enter_cons []

/-- Where a file is below a directory the path leads to it, unless it is too long. -/
theorem Orderly.leadsTo_below (h : d.Orderly) (hp : d.Enters p loc) (hns : ns ≠ [])
    (hfile : d.entry? (loc ++ ns) ≠ none) (husable : usable (p.below ns) = .ok ()) :
    d.LeadsTo (p.below ns) (loc ++ ns) := by
  induction ns generalizing p loc with
  | nil => exact absurd rfl hns
  | cons name ns ih =>
      obtain ⟨hname, hproper⟩ :=
        List.forall_mem_cons.mp fun _ hmem => h.properName_of_mem hfile hmem
      have hfirst : usable (p.join ⟨name⟩) = .ok () :=
        usable_of_below (text_join_ne_nil p hname) hproper husable
      by_cases hrest : ns = []
      · subst hrest
        exact (h.leads_join hp hname.normal hname.slash hname.short husable).leadsTo
      · have hdir : d.entry? (loc ++ [name]) = some .directory := by
          refine h.of_prefix ⟨ns, by simp⟩ ?_ hfile
          simpa using Ne.symm hrest
        rw [← List.singleton_append, ← List.append_assoc] at hfile ⊢
        exact ih (hp.join hname hdir hfirst) hrest hfile husable

end Disk

end Manuscript
