import Manuscript.Proofs.Disk.Footprint
import Manuscript.Proofs.Disk.Naming

/-!
Directories by their paths.

A path enters a directory if its names do. The directory of a path is entered by
a path that is spelled no longer, so where a file can be looked up its directory
can, too. A relative path joined to the path of a directory goes on from there.
-/

namespace Manuscript

namespace Text

variable {t u : Text}

theorem joinWith_cons {separator part : Text} {parts : List Text} (h : parts ≠ []) :
    joinWith separator (part :: parts) = part ++ separator ++ joinWith separator parts := by
  cases parts with
  | nil => exact absurd rfl h
  | cons next parts => rfl

theorem joinWith_splitBy (c : Char) (t : Text) : joinWith [c] (splitBy (· == c) t) = t := by
  induction t with
  | nil => rfl
  | cons d t ih =>
      cases hd : d == c with
      | true =>
          rw [@splitBy_of_separates (· == c) d hd t, joinWith_cons (splitBy_ne_nil _ _), ih,
            eq_of_beq hd]
          rfl
      | false =>
          obtain ⟨part, parts, hsplit, hcons⟩ := @splitBy_of_not_separates (· == c) d hd t
          rw [hsplit] at ih
          rw [hcons, ← ih]
          cases parts with
          | nil => rfl
          | cons next parts => rfl

theorem joinWith_prefix {separator : Text} {parts all : List Text} (h : parts <+: all) :
    joinWith separator parts <+: joinWith separator all := by
  obtain ⟨rest, rfl⟩ := h
  induction parts with
  | nil => exact List.nil_prefix
  | cons part parts ih =>
      by_cases hparts : parts = []
      · subst hparts
        cases rest with
        | nil => exact List.prefix_rfl
        | cons next rest =>
            change part <+: part ++ separator ++ joinWith separator (next :: rest)
            rw [List.append_assoc]
            exact List.prefix_append _ _
      · rw [List.cons_append, joinWith_cons hparts, joinWith_cons (by simp [hparts])]
        exact (List.prefix_append_right_inj _).mpr ih

theorem joinWith_concat {separator part : Text} {parts : List Text} (h : parts ≠ []) :
    joinWith separator (parts ++ [part]) = joinWith separator parts ++ separator ++ part := by
  induction parts with
  | nil => exact absurd rfl h
  | cons first parts ih =>
      by_cases hparts : parts = []
      · subst hparts
        rfl
      · rw [List.cons_append, joinWith_cons (by simp), joinWith_cons hparts, ih hparts]
        simp only [List.append_assoc]

theorem byteSize_append (t u : Text) : (t ++ u).byteSize = t.byteSize + u.byteSize := by
  induction t with
  | nil => simp [byteSize]
  | cons c t ih => simp only [List.cons_append, byteSize, ih, Nat.add_assoc]

end Text

namespace Path

variable {p q : Path} {before : List Text} {name : Text}

theorem text_eq_joinWith (p : Path) : p.text = Text.joinWith ['/'] p.parts :=
  (Text.joinWith_splitBy '/' p.text).symm

/-- The parent of a path that ends with a name is spelled by a part of its spelling. -/
theorem prefix_parent? (hparts : p.parts = before ++ [name])
    (hname : component? name = some (.normal name)) (hparent : p.parent? = some q) :
    q.text <+: p.text := by
  obtain ⟨k, body, hframe, hparent', -⟩ := withFileName_eq hparts hname name
  obtain rfl := Option.some.inj (hparent'.symm.trans hparent)
  have hbody : dropIdle body <+: body ++ [name] :=
    (prefix_dropIdle body).trans (List.prefix_append _ _)
  have hjoined : Text.joinWith ['/'] (dropIdle body) <+: Text.joinWith ['/'] (body ++ [name]) :=
    Text.joinWith_prefix hbody
  rw [text_eq_joinWith p, hparts, hframe.before_eq, List.append_assoc]
  have hrest : body ++ [name] ≠ [] := by simp
  rcases hframe.cases with rfl | rfl | ⟨rfl, -⟩
  · change '/' :: _ <+: Text.joinWith ['/'] ([] :: (body ++ [name]))
    rw [Text.joinWith_cons hrest]
    exact (List.cons_prefix_cons).mpr ⟨rfl, hjoined⟩
  · change _ <+: Text.joinWith ['/'] (['.'] :: (body ++ [name]))
    rw [Text.joinWith_cons hrest]
    cases hdrop : dropIdle body with
    | nil => exact ⟨_, rfl⟩
    | cons part rest =>
        rw [hdrop] at hjoined
        exact (List.cons_prefix_cons).mpr ⟨rfl, (List.cons_prefix_cons).mpr ⟨rfl, hjoined⟩⟩
  · exact hjoined

theorem isAbsolute_join (hp : p.text ≠ []) (hq : q.isAbsolute = false) :
    (p.join q).isAbsolute = p.isAbsolute := by
  obtain ⟨c, t, ht⟩ := List.exists_cons_of_ne_nil hp
  rw [join, hq, if_neg Bool.false_ne_true]
  split
  next => simp [isAbsolute, ht]
  next => simp [isAbsolute, ht]

theorem not_isAbsolute_of_slash_not_mem (h : '/' ∉ name) : isAbsolute ⟨name⟩ = false := by
  rw [isAbsolute, beq_eq_false_iff_ne]
  exact fun hhead => h (List.mem_of_head? hhead)

end Path

namespace Disk

variable {d d₁ : Disk} {p q : Path} {o loc : Location} {name : Text}

/-! ### Names of joined paths -/

theorem names_of_slash_not_mem (hname : '/' ∉ name) (hnil : name ≠ []) : names ⟨name⟩ = [name] := by
  rw [names, Path.parts_of_slash_not_mem hname]
  simp [hnil]

theorem names_join (p : Path) (hq : q.isAbsolute = false) :
    names (p.join q) = names p ++ names q := by
  rw [Path.join, hq, if_neg Bool.false_ne_true]
  split
  next h =>
    rcases h with hnil | hslash
    · have hp : names p = [] := by
        rw [names, Path.parts, hnil]
        rfl
      rw [hnil, hp]
      rfl
    · obtain ⟨t, ht⟩ := List.getLast?_eq_some_iff.mp hslash
      have hp : names p = names ⟨t⟩ := by
        rw [names, names, Path.parts, ht]
        change (Path.parts ⟨t ++ '/' :: []⟩).filter _ = _
        rw [Path.parts_slash, List.filter_append]
        exact List.append_nil _
      rw [hp, ht, List.append_assoc, List.singleton_append, names, Path.parts_slash,
        List.filter_append]
      rfl
  next =>
    rw [names, Path.parts_slash, List.filter_append]
    rfl

theorem Names.exists_parts (h : Names p name) :
    ∃ before, p.parts = before ++ [name] ∧ Path.component? name = some (.normal name) := by
  obtain ⟨hnames, hdot, hup⟩ := h.names_eq
  have hmem : name ∈ names p := by
    rw [hnames]
    exact List.mem_append_right _ (List.mem_singleton_self name)
  have hnil : name ≠ [] := by simpa using (List.mem_filter.mp hmem).2
  have hcomponent := Path.component?_eq_normal_iff.mpr ⟨hnil, hdot, hup⟩
  obtain hparts | ⟨before, last, hparts⟩ := List.eq_nil_or_concat p.parts
  · exact absurd hparts (Text.splitBy_ne_nil _ _)
  · rw [List.concat_eq_append] at hparts
    by_cases hlast : last = []
    -- an empty last part is all there is, or it comes of a separator at the end
    · subst hlast
      have htext := Path.text_eq_joinWith p
      rw [hparts] at htext
      by_cases hbefore : before = []
      · subst hbefore
        simp [names, hparts] at hmem
      · rw [Text.joinWith_concat hbefore, List.append_nil] at htext
        have hopen := h.unclosed
        rw [endsInSeparator, htext] at hopen
        simp at hopen
    · refine ⟨before, ?_, hcomponent⟩
      rw [names, hparts, List.filter_append, List.filter_cons_of_pos (by simpa using hlast)]
        at hnames
      obtain ⟨-, hlast⟩ := List.append_inj' hnames rfl
      rw [hparts, List.head_eq_of_cons_eq hlast]

theorem LeadsTo.getLast?_eq {l : Location} (h : d.LeadsTo p l) : l.getLast? = some p.fileName := by
  obtain ⟨o, name, hleads, rfl⟩ := h
  obtain ⟨before, hparts, hname⟩ := hleads.names.exists_parts
  rw [List.getLast?_concat, Path.fileName, Path.fileName?_of_parts hparts hname]
  rfl

/-- The paths are different, and on no disk do they lead to one place. -/
structure Apart (p q : Path) : Prop where
  components : p.components ≠ q.components
  places : ∀ (d : Disk) l, d.LeadsTo p l → ¬d.LeadsTo q l

theorem Apart.of_fileName (h : p.fileName ≠ q.fileName) : Apart p q where
  components := fun heq => h (Path.fileName_congr heq)
  places := fun _ _ hp hq => h (Option.some.inj (hp.getLast?_eq.symm.trans hq.getLast?_eq))

/-! ### Paths that can be looked up -/

theorem usable_eq_ok_iff : usable p = .ok () ↔
    '\x00' ∉ p.text ∧ p.text ≠ [] ∧ p.text.byteSize ≤ maxPathBytes := by
  rw [usable]
  split
  next h => simp [List.contains_iff_mem.mp h]
  next h =>
    have h : '\x00' ∉ p.text := by simpa using h
    split
    next hnil => simp [hnil]
    next hnil =>
      split
      next hlong => simp [h, hnil, hlong]
      next hlong => simp [h, hnil, Nat.le_of_not_lt hlong]

theorem Leads.usable (h : d.Leads p o name) : usable p = .ok () := by
  have hholder := h.holder
  rw [Disk.holder] at hholder
  cases husable : Disk.usable p with
  | error f => simp [husable] at hholder
  | ok u => rfl

theorem usable_of_shorter (h : usable p = .ok ()) (hq : q.text <+: p.text) (hnil : q.text ≠ []) :
    usable q = .ok () := by
  obtain ⟨hnul, -, hlong⟩ := usable_eq_ok_iff.mp h
  refine usable_eq_ok_iff.mpr ⟨fun hmem => hnul (hq.subset hmem), hnil, ?_⟩
  obtain ⟨rest, hrest⟩ := hq
  have := Text.byteSize_append q.text rest
  rw [hrest] at this
  omega

/-! ### Entering directories -/

/-- The path enters a directory. -/
structure Enters (d : Disk) (p : Path) (loc : Location) : Prop where
  usable : usable p = .ok ()
  enter : d.enter (d.start p) (names p) = some loc

theorem Enters.text_ne_nil (h : d.Enters p loc) : p.text ≠ [] :=
  (usable_eq_ok_iff.mp h.usable).2.1

theorem Extends.enters (hd : d.Extends d₁) (hp : d.Enters p loc) : d₁.Enters p loc := by
  refine ⟨hp.usable, ?_⟩
  rw [hd.start]
  exact hd.enter hp.enter

namespace LinkFree

theorem spot_of_enters (h : d.LinkFree) (hp : d.Enters p loc) (followLast : Bool) :
    d.spot p followLast = .ok (.taken loc .directory) := by
  obtain ⟨follow, hwalk⟩ :=
    d.walkNames_eq_descend p (.reach followLast) (endsInSeparator p) (names p)
  rw [descend_directory h (h.start p) hp.enter] at hwalk
  rw [spot, spotFor, hp.usable]
  exact hwalk

theorem at?_of_enters (h : d.LinkFree) (hp : d.Enters p loc) :
    d.at? p = some (loc, .directory) := by
  rw [at?, h.spot_of_enters hp]

theorem directory_of_enters (h : d.LinkFree) (hp : d.Enters p loc) :
    d.entry? loc = some .directory :=
  h.enter_directory (h.start p) hp.enter

theorem enters_directory (h : d.LinkFree) (hp : d.Leads p o name) : d.Enters p.directory o := by
  obtain ⟨before, hparts, hname⟩ := hp.names.exists_parts
  obtain ⟨husable, henter⟩ := h.holder_eq_ok_iff.mp hp.holder
  have hslash : '/' ∉ name := Path.slash_not_mem_parts (p := p) (by simp [hparts])
  have hnil := (Path.component?_eq_normal_iff.mp hname).1
  obtain ⟨k, body, -, hparent, hwith⟩ := Path.withFileName_eq hparts hname name
  -- with its own name put after its parent the path goes the same way
  rw [← enter_withFileName hparts hname hname hslash, hwith] at henter
  have hrelative := Path.not_isAbsolute_of_slash_not_mem hslash
  have hlast : (lastName ((Path.ofLead k (Path.dropIdle body)).join ⟨name⟩)).1 =
      names (Path.ofLead k (Path.dropIdle body)) := by
    rw [lastName, names_join _ hrelative, names_of_slash_not_mem hslash hnil, List.getLast?_concat,
      List.dropLast_concat]
  rw [hlast] at henter
  rw [Path.directory, hparent]
  split
  next c rest heq =>
    have hpath := Option.some.inj heq
    have hne : (Path.ofLead k (Path.dropIdle body)).text ≠ [] := by simp [hpath]
    rw [← hpath]
    refine ⟨usable_of_shorter husable (Path.prefix_parent? hparts hname hparent) hne, ?_⟩
    rwa [Disk.start, startOf, ← Path.isAbsolute_join hne hrelative]
  next hempty =>
    have htext : Path.ofLead k (Path.dropIdle body) = ⟨[]⟩ := by
      cases hlead : Path.ofLead k (Path.dropIdle body) with
      | mk text =>
          cases text with
          | nil => rfl
          | cons c rest => exact absurd (congrArg some hlead) (hempty c rest)
    rw [htext] at henter
    refine ⟨by decide, ?_⟩
    have hempty : d.start (Path.join ⟨[]⟩ ⟨name⟩) = d.cwd := by
      rw [Path.join, hrelative, if_neg Bool.false_ne_true, if_pos (.inl rfl), List.nil_append,
        Disk.start, startOf, hrelative, if_neg Bool.false_ne_true]
    rw [hempty] at henter
    exact henter

/-! ### Going down from a directory -/

end LinkFree

theorem enter_append (d : Disk) (loc : Location) (ns ms : List Text) :
    d.enter loc (ns ++ ms) = (d.enter loc ns).bind (d.enter · ms) := by
  induction ns generalizing loc with
  | nil => rfl
  | cons name rest ih =>
      rcases d.passes_or_enter_none loc name with ⟨l, hpass⟩ | hnone
      · rw [List.cons_append, hpass.enter_cons, hpass.enter_cons, ih]
      · rw [List.cons_append, hnone, hnone]
        rfl

/-- Names that do not lead up lead down. -/
theorem prefix_of_enter {ns : List Text} (hdown : ['.', '.'] ∉ ns) (h : d.enter loc ns = some o) :
    loc <+: o := by
  induction ns generalizing loc with
  | nil => exact Option.some.inj h ▸ List.prefix_rfl
  | cons name rest ih =>
      obtain ⟨hup, hrest⟩ := not_or.mp (mt List.mem_cons.mpr hdown)
      obtain ⟨l, hpass, h⟩ := enter_cons_eq_some_iff.mp h
      cases hpass with
      | stay => exact ih hrest h
      | up => exact absurd rfl hup
      | down => exact (List.prefix_append loc [name]).trans (ih hrest h)

/-- Names that lead down on one disk do so on each that has the directories on the way. -/
theorem enter_of_prefixes {ns : List Text} (hdown : ['.', '.'] ∉ ns)
    (h : d₁.enter loc ns = some o) (ho : ∀ l, l <+: o → d.entry? l = some .directory) :
    d.enter loc ns = some o := by
  induction ns generalizing loc with
  | nil => exact h
  | cons name rest ih =>
      have hrest : ['.', '.'] ∉ rest := mt (List.mem_cons_of_mem name) hdown
      obtain ⟨l, hpass, h⟩ := enter_cons_eq_some_iff.mp h
      have hdir := ho l (prefix_of_enter hrest h)
      exact enter_cons_eq_some_iff.mpr ⟨l, hpass.mono fun _ => hdir, ih hrest h⟩

/-- The path goes down from where it starts, by a name at least. -/
structure GoesDown (q : Path) : Prop where
  relative : q.isAbsolute = false
  names_ne_nil : names q ≠ []
  down : ['.', '.'] ∉ names q

namespace LinkFree

/-- Where there is a file below a directory, a path that comes to lead there later did so before. -/
theorem leadsTo_of_later (h : d.LinkFree) (hd : d.Extends d₁) (hp : d.Enters p loc)
    (hq : GoesDown q) {l : Location} (hleads : d₁.LeadsTo (p.join q) l) (hfile : d.file? l ≠ none) :
    d.LeadsTo (p.join q) l := by
  obtain ⟨o, name, hleads, rfl⟩ := hleads
  obtain ⟨husable, henter⟩ := hd.linkFree.holder_eq_ok_iff.mp hleads.holder
  obtain ⟨ns, last, hns⟩ : ∃ ns last, names q = ns ++ [last] := by
    obtain hnil | ⟨ns, last, hns⟩ := List.eq_nil_or_concat (names q)
    · exact absurd hnil hq.names_ne_nil
    · exact ⟨ns, last, hns.trans (List.concat_eq_append)⟩
  have hbefore : (lastName (p.join q)).1 = names p ++ ns := by
    rw [lastName, names_join p hq.relative, hns, ← List.append_assoc, List.getLast?_concat,
      List.dropLast_concat]
  have hstart : d.start (p.join q) = d.start p := by
    rw [Disk.start, Disk.start, startOf, startOf, Path.isAbsolute_join hp.text_ne_nil hq.relative]
  -- every directory on the way is there, since the file is
  have hdirs : ∀ l, l <+: o → d.entry? l = some .directory := by
    intro l hl
    obtain ⟨bytes, hbytes⟩ := Option.ne_none_iff_exists'.mp hfile
    obtain ⟨x, hentry⟩ := file?_eq_some_iff.mp hbytes
    refine h.of_prefix (hl.trans (List.prefix_append o [name])) ?_ (by simp [hentry])
    rintro rfl
    have hlength := hl.length_le
    rw [List.length_append, List.length_singleton] at hlength
    omega
  have hdown : ['.', '.'] ∉ ns := fun hmem => hq.down (by simp [hns, hmem])
  have hbase := (hd.enters hp).enter
  rw [hd.start] at hbase henter
  rw [hstart, hbefore, enter_append, hbase] at henter
  refine ⟨o, name, ⟨hleads.names, h.holder_eq_ok_iff.mpr ⟨husable, ?_⟩, hleads.short⟩, rfl⟩
  rw [hstart, hbefore, enter_append, hp.enter]
  exact enter_of_prefixes hdown henter hdirs

theorem leads_join (h : d.LinkFree) (hp : d.Enters p loc)
    (hname : Path.component? name = some (.normal name)) (hslash : '/' ∉ name)
    (hshort : ¬maxNameBytes < name.byteSize) (husable : usable (p.join ⟨name⟩) = .ok ()) :
    d.Leads (p.join ⟨name⟩) loc name := by
  have hrelative := Path.not_isAbsolute_of_slash_not_mem hslash
  obtain ⟨before, hparts⟩ := Path.exists_parts_join (p := p) hslash
  refine ⟨(names_of_parts hparts hname).1, h.holder_eq_ok_iff.mpr ⟨husable, ?_⟩, hshort⟩
  have hnil := (Path.component?_eq_normal_iff.mp hname).1
  rw [lastName, names_join _ hrelative, names_of_slash_not_mem hslash hnil, List.getLast?_concat,
    List.dropLast_concat, Disk.start, startOf, Path.isAbsolute_join hp.text_ne_nil hrelative]
  exact hp.enter

end LinkFree

end Disk

end Manuscript
