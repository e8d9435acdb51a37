import Manuscript.Proofs.Disk.Walk

/-!
Paths by their parts.

What a path leads to depends on its parts between separators, and of those only
on the ones that are components. A path with a name joined to it has that name
as its last part. A path whose name is replaced keeps the other parts, except
for some that are no components, and so stays in its directory.
-/

namespace Manuscript

namespace Text

variable {separates : Char → Bool} {t u : Text}

theorem splitBy_ne_nil (separates : Char → Bool) (t : Text) : splitBy separates t ≠ [] := by
  cases t with
  | nil => exact List.cons_ne_nil _ _
  | cons c t =>
      rw [splitBy]
      split
      · exact List.cons_ne_nil _ _
      · split
        · exact List.cons_ne_nil _ _
        · exact List.cons_ne_nil _ _

theorem splitBy_of_separates {c : Char} (hc : separates c = true) (t : Text) :
    splitBy separates (c :: t) = [] :: splitBy separates t :=
  if_pos hc

/-- A character that does not separate goes to the part it stands before. -/
theorem splitBy_of_not_separates {c : Char} (hc : separates c = false) (t : Text) :
    ∃ part parts, splitBy separates t = part :: parts ∧
      splitBy separates (c :: t) = (c :: part) :: parts := by
  obtain ⟨part, parts, hsplit⟩ := List.exists_cons_of_ne_nil (splitBy_ne_nil separates t)
  refine ⟨part, parts, hsplit, ?_⟩
  rw [splitBy, if_neg (by simp [hc]), hsplit]

theorem splitBy_separator {c : Char} (hc : separates c = true) (t u : Text) :
    splitBy separates (t ++ c :: u) = splitBy separates t ++ splitBy separates u := by
  induction t with
  | nil => exact splitBy_of_separates hc u
  | cons d t ih =>
      rw [List.cons_append]
      cases hd : separates d with
      | true => rw [splitBy_of_separates hd, splitBy_of_separates hd, ih, List.cons_append]
      | false =>
          obtain ⟨part, parts, hsplit, hcons⟩ := splitBy_of_not_separates hd t
          obtain ⟨part', parts', hsplit', hcons'⟩ := splitBy_of_not_separates hd (t ++ c :: u)
          rw [ih, hsplit, List.cons_append] at hsplit'
          obtain ⟨rfl, rfl⟩ := List.cons.inj hsplit'
          rw [hcons, hcons', List.cons_append]

theorem splitBy_of_forall (h : ∀ c ∈ t, separates c = false) : splitBy separates t = [t] := by
  induction t with
  | nil => rfl
  | cons c t ih =>
      obtain ⟨hc, ht⟩ := List.forall_mem_cons.mp h
      obtain ⟨part, parts, hsplit, hcons⟩ := splitBy_of_not_separates hc t
      rw [ih ht] at hsplit
      obtain ⟨rfl, rfl⟩ := List.cons.inj hsplit
      exact hcons

theorem not_separates_of_mem_splitBy {part : Text} (hpart : part ∈ splitBy separates t) :
    ∀ c ∈ part, separates c = false := by
  induction t generalizing part with
  | nil =>
      rw [List.mem_singleton.mp hpart]
      exact List.forall_mem_nil _
  | cons d t ih =>
      cases hd : separates d with
      | true =>
          rw [splitBy_of_separates hd] at hpart
          rcases List.mem_cons.mp hpart with rfl | hpart
          · exact List.forall_mem_nil _
          · exact ih hpart
      | false =>
          obtain ⟨first, rest, hsplit, hcons⟩ := splitBy_of_not_separates hd t
          rw [hcons] at hpart
          rcases List.mem_cons.mp hpart with rfl | hrest
          · exact List.forall_mem_cons.mpr ⟨hd, ih (hsplit ▸ List.mem_cons_self)⟩
          · exact ih (hsplit ▸ List.mem_cons_of_mem _ hrest)

theorem mem_of_mem_splitBy {part : Text} {c : Char} (hpart : part ∈ splitBy separates t)
    (hc : c ∈ part) : c ∈ t := by
  induction t generalizing part with
  | nil =>
      rw [List.mem_singleton.mp hpart] at hc
      cases hc
  | cons d t ih =>
      cases hd : separates d with
      | true =>
          rw [splitBy_of_separates hd] at hpart
          rcases List.mem_cons.mp hpart with rfl | hpart
          · cases hc
          · exact List.mem_cons_of_mem d (ih hpart hc)
      | false =>
          obtain ⟨first, rest, hsplit, hcons⟩ := splitBy_of_not_separates hd t
          rw [hcons] at hpart
          rcases List.mem_cons.mp hpart with rfl | hrest
          · rcases List.mem_cons.mp hc with rfl | hc
            · exact List.mem_cons_self
            · exact List.mem_cons_of_mem d (ih (hsplit ▸ List.mem_cons_self) hc)
          · exact List.mem_cons_of_mem d (ih (hsplit ▸ List.mem_cons_of_mem _ hrest) hc)

theorem splitBy_joinWith {c : Char} (hc : separates c = true) {parts : List Text}
    (hne : parts ≠ []) (h : ∀ part ∈ parts, ∀ d ∈ part, separates d = false) :
    splitBy separates (joinWith [c] parts) = parts := by
  induction parts with
  | nil => exact absurd rfl hne
  | cons part parts ih =>
      obtain ⟨hpart, hparts⟩ := List.forall_mem_cons.mp h
      cases parts with
      | nil => exact splitBy_of_forall hpart
      | cons next parts =>
          rw [joinWith, List.append_assoc, List.singleton_append, splitBy_separator hc,
            splitBy_of_forall hpart, ih (List.cons_ne_nil _ _) hparts, List.singleton_append]
          exact nofun

end Text

namespace Path

variable {p : Path} {before : List Text} {name : Text}

theorem slash_not_mem_parts {part : Text} (h : part ∈ p.parts) : '/' ∉ part := by
  intro hmem
  have := Text.not_separates_of_mem_splitBy h '/' hmem
  cases this

theorem parts_of_slash_not_mem (h : '/' ∉ name) : parts ⟨name⟩ = [name] := by
  refine Text.splitBy_of_forall fun c hc => ?_
  have hne : c ≠ '/' := fun heq => h (heq ▸ hc)
  simpa using hne

theorem parts_slash (t u : Text) : parts ⟨t ++ '/' :: u⟩ = parts ⟨t⟩ ++ parts ⟨u⟩ :=
  Text.splitBy_separator rfl t u

theorem getLast?_parts_of_slash {t : Text} (h : t.getLast? = some '/') :
    (parts ⟨t⟩).getLast? = some [] := by
  obtain ⟨u, rfl⟩ := List.getLast?_eq_some_iff.mp h
  rw [parts_slash]
  exact List.getLast?_concat

theorem join_eq (hname : '/' ∉ name) : p.join ⟨name⟩ =
    if p.text = [] ∨ p.text.getLast? = some '/' then ⟨p.text ++ name⟩
    else ⟨p.text ++ '/' :: name⟩ := by
  rw [join, if_neg]
  rw [isAbsolute, beq_iff_eq]
  exact fun hhead => hname (List.mem_of_head? hhead)

theorem exists_parts_join (hname : '/' ∉ name) :
    ∃ before, (p.join ⟨name⟩).parts = before ++ [name] := by
  rw [join_eq hname]
  split
  next h =>
    rcases h with hnil | hslash
    · exact ⟨[], by rw [hnil, List.nil_append, parts_of_slash_not_mem hname, List.nil_append]⟩
    · obtain ⟨t, ht⟩ := List.getLast?_eq_some_iff.mp hslash
      refine ⟨parts ⟨t⟩, ?_⟩
      rw [ht, List.append_assoc, List.singleton_append, parts_slash, parts_of_slash_not_mem hname]
  next => exact ⟨p.parts, by rw [parts_slash, parts_of_slash_not_mem hname]⟩

theorem parts_join (hlast : p.parts.getLast? ≠ some []) (hname : '/' ∉ name) :
    (p.join ⟨name⟩).parts = p.parts ++ [name] := by
  rw [join_eq hname, if_neg, parts_slash, parts_of_slash_not_mem hname]
  rintro (hnil | hslash)
  · rw [parts, hnil] at hlast
    exact hlast rfl
  · exact hlast (getLast?_parts_of_slash hslash)

/-- A path is absolute exactly if nothing stands before its first separator. -/
theorem isAbsolute_iff : p.isAbsolute = true ↔ ∃ part body, p.parts = [] :: part :: body := by
  obtain ⟨t⟩ := p
  rw [isAbsolute, parts]
  cases t with
  | nil => simp [Text.splitBy]
  | cons c t =>
      by_cases hc : c = '/'
      · subst hc
        obtain ⟨part, body, hsplit⟩ :=
          List.exists_cons_of_ne_nil (Text.splitBy_ne_nil (· == '/') t)
        rw [Text.splitBy_of_separates rfl, hsplit]
        exact iff_of_true rfl ⟨part, body, rfl⟩
      · have hkept : (c == '/') = false := beq_false_of_ne hc
        obtain ⟨part, parts, -, hcons⟩ :=
          @Text.splitBy_of_not_separates (· == '/') c hkept t
        simp [hcons, hc]

/-! ### Names -/

theorem component?_eq_normal_iff : component? name = some (.normal name) ↔
    name ≠ [] ∧ name ≠ ['.'] ∧ name ≠ ['.', '.'] := by
  rw [component?]
  split
  next h => simp; tauto
  next h =>
    split
    next hup => simp [hup]
    next hup => simp [hup, not_or.mp h]

theorem component?_append (hname : component? name = some (.normal name)) (suffix : Text) :
    component? (name ++ suffix) = some (.normal (name ++ suffix)) := by
  obtain ⟨hnil, hdot, hup⟩ := component?_eq_normal_iff.mp hname
  refine component?_eq_normal_iff.mpr ⟨by simp [hnil], ?_, ?_⟩
  -- the name would be empty or dots, too
  · intro heq
    rcases List.append_eq_singleton_iff.mp heq with ⟨h, -⟩ | ⟨h, -⟩
    · exact hnil h
    · exact hdot h
  · intro heq
    rcases List.append_eq_cons_iff.mp heq with ⟨h, -⟩ | ⟨rest, rfl, hrest⟩
    · exact hnil h
    · rcases List.append_eq_singleton_iff.mp hrest.symm with ⟨rfl, -⟩ | ⟨rfl, -⟩
      · exact hdot rfl
      · exact hup rfl

/-- The part that a component is, unless it is what the path begins with. -/
def Component.step? : Component → Option Text
  | .root => none
  | .current => none
  | .parent => some ['.', '.']
  | .normal name => some name

theorem step?_of_component? {part : Text} {c : Component} (h : component? part = some c) :
    c.step? = some part := by
  rw [component?] at h
  split at h
  next => cases h
  next =>
    split at h
    next hup => rw [← Option.some.inj h, hup]; rfl
    next => rw [← Option.some.inj h]; rfl

/-- A component is a part, unless the path begins with it. -/
theorem mem_components {c : Component} (hc : c ∈ p.components) :
    c = .root ∧ p.isAbsolute = true ∨ c = .current ∨
      ∃ part ∈ p.parts, component? part = some c := by
  have hbody : ∀ body ⊆ p.parts, c ∈ body.filterMap component? →
      ∃ part ∈ p.parts, component? part = some c := by
    intro body hsubset hmem
    obtain ⟨part, hpart, hcomponent⟩ := List.mem_filterMap.mp hmem
    exact ⟨part, hsubset hpart, hcomponent⟩
  rw [components, lead] at hc
  split at hc
  next part body hparts =>
    rcases List.mem_append.mp hc with hroot | hmem
    · exact .inl ⟨List.mem_singleton.mp hroot, isAbsolute_iff.mpr ⟨part, body, hparts⟩⟩
    · exact .inr (.inr (hbody (part :: body) (hparts ▸ List.subset_cons_self ..) hmem))
  next body hparts =>
    rcases List.mem_append.mp hc with hcurrent | hmem
    · exact .inr (.inl (List.mem_singleton.mp hcurrent))
    · exact .inr (.inr (hbody body (hparts ▸ List.subset_cons_self ..) hmem))
  next => exact .inr (.inr (hbody p.parts (List.Subset.refl _) hc))

theorem mem_parts_of_mem_components (h : .normal name ∈ p.components) :
    name ∈ p.parts ∧ component? name = some (.normal name) := by
  obtain ⟨hroot, -⟩ | hcurrent | ⟨part, hpart, hcomponent⟩ := mem_components h
  · cases hroot
  · cases hcurrent
  · obtain rfl : name = part := Option.some.inj (step?_of_component? hcomponent)
    exact ⟨hpart, hcomponent⟩

def steps (p : Path) : List Text :=
  p.parts.filter fun part => (component? part).isSome

/-- Paths with the same components have the same steps. -/
theorem steps_congr {q : Path} (h : p.components = q.components) : p.steps = q.steps := by
  have hbody : ∀ body : List Text, (body.filterMap component?).filterMap Component.step? =
      body.filter fun part => (component? part).isSome := by
    intro body
    rw [List.filterMap_filterMap, ← List.filterMap_eq_filter]
    refine List.filterMap_congr fun part _ => ?_
    cases hpart : component? part with
    | none => simp [Option.guard, hpart]
    | some c => simp [Option.guard, hpart, step?_of_component? hpart]
  have hsteps : ∀ p : Path, p.components.filterMap Component.step? = p.steps := by
    intro p
    rw [components, List.filterMap_append, hbody, steps, lead]
    split
    next hparts => rw [hparts]; rfl
    next hparts => rw [hparts]; rfl
    next => rfl
  rw [← hsteps, h, hsteps]

theorem mem_components_of_fileName? (h : p.fileName? = some name) :
    .normal name ∈ p.components := by
  rw [fileName?] at h
  split at h
  next last hlast => exact Option.some.inj h ▸ List.mem_of_getLast? hlast
  next => cases h

theorem slash_not_mem_fileName (p : Path) : '/' ∉ p.fileName := by
  rw [fileName]
  cases h : p.fileName? with
  | none => exact List.not_mem_nil
  | some name =>
      exact slash_not_mem_parts (mem_parts_of_mem_components (mem_components_of_fileName? h)).1

theorem fileName_congr {q : Path} (h : p.components = q.components) : p.fileName = q.fileName := by
  rw [fileName, fileName?, h, ← fileName?, ← fileName]

theorem cutAtDot_append {extension : Text} (hname : name ≠ []) (hextension : '.' ∉ extension) :
    cutAtDot (name ++ '.' :: extension) = (name, some extension) := by
  have hnone : ∀ c ∈ extension.reverse, (c != '.') = true := by
    intro c hc
    have hne : c ≠ '.' := fun heq => hextension (heq ▸ List.mem_reverse.mp hc)
    simpa using hne
  have hreverse : (name ++ '.' :: extension).reverse =
      extension.reverse ++ '.' :: name.reverse := by simp
  rw [cutAtDot, hreverse, List.dropWhile_append_of_pos hnone, List.takeWhile_append_of_pos hnone]
  simp [hname]

theorem mem_cutAtDot {c : Char} (h : c ∈ (cutAtDot name).1) : c ∈ name := by
  rw [cutAtDot] at h
  split at h
  next before hdrop =>
    split at h
    next => exact h
    next =>
      have hsub := (List.dropWhile_suffix (l := name.reverse) (· != '.')).subset
      rw [hdrop] at hsub
      exact List.mem_reverse.mp (hsub (List.mem_cons_of_mem _ (List.mem_reverse.mp h)))
  next => exact h

theorem mem_text_of_mem_fileStem {c : Char} (h : c ∈ p.fileStem) : c ∈ p.text := by
  have hname := mem_cutAtDot h
  rw [fileName] at hname
  cases hfile : p.fileName? with
  | none =>
      rw [hfile] at hname
      cases hname
  | some name =>
      rw [hfile] at hname
      exact Text.mem_of_mem_splitBy
        (mem_parts_of_mem_components (mem_components_of_fileName? hfile)).1 hname

theorem slash_not_mem_fileStem (p : Path) : '/' ∉ p.fileStem :=
  fun h => slash_not_mem_fileName p (mem_cutAtDot h)

/-! ### Other names in the place of a name -/

/-- The parts that what a path begins with is spelled by. -/
def opening : Option Component → List Text
  | some .root => [[]]
  | some .current => [['.']]
  | _ => []

/-- What a path that ends with a name begins with, and what stands between. -/
structure Frame (before : List Text) (k : Option Component) (body : List Text) : Prop where
  before_eq : before = opening k ++ body
  cases : k = some .root ∨ k = some .current ∨ k = none ∧ body.head? ≠ some []

theorem lead_eq (hparts : p.parts = before ++ [name])
    (hname : component? name = some (.normal name)) :
    ∃ k body, Frame before k body ∧ p.lead = (k, body ++ [name]) := by
  obtain ⟨hnil, hdot, -⟩ := component?_eq_normal_iff.mp hname
  rw [lead, hparts]
  cases before with
  | nil =>
      refine ⟨none, [], ⟨rfl, .inr (.inr ⟨rfl, nofun⟩)⟩, ?_⟩
      simp [hdot]
  | cons first body =>
      by_cases hroot : first = []
      · subst hroot
        refine ⟨some .root, body, ⟨rfl, .inl rfl⟩, ?_⟩
        cases body with
        | nil => rfl
        | cons part body => rfl
      · by_cases hcurrent : first = ['.']
        · subst hcurrent
          exact ⟨some .current, body, ⟨rfl, .inr (.inl rfl)⟩, rfl⟩
        · refine ⟨none, first :: body, ⟨rfl, .inr (.inr ⟨rfl, by simpa using hroot⟩)⟩, ?_⟩
          simp [hroot, hcurrent]

theorem dropIdle_append (hname : component? name = some (.normal name)) (body : List Text) :
    dropIdle (body ++ [name]) = body ++ [name] := by
  simp [dropIdle, hname]

theorem getLast?_dropIdle (body : List Text) : (dropIdle body).getLast? ≠ some [] := by
  intro hlast
  rw [dropIdle, List.getLast?_reverse] at hlast
  have := List.head?_dropWhile_not (fun part => (component? part).isNone) body.reverse
  rw [hlast] at this
  cases this

theorem prefix_dropIdle (body : List Text) : dropIdle body <+: body := by
  rw [dropIdle, ← List.reverse_suffix, List.reverse_reverse]
  exact List.dropWhile_suffix _

theorem filter_dropIdle (body : List Text) :
    (dropIdle body).filter (fun part => (component? part).isSome) =
      body.filter fun part => (component? part).isSome := by
  have hdrop : ∀ parts : List Text,
      (parts.dropWhile fun part => (component? part).isNone).filter
        (fun part => (component? part).isSome) =
      parts.filter fun part => (component? part).isSome := by
    intro parts
    induction parts with
    | nil => rfl
    | cons part parts ih =>
        cases hpart : component? part with
        | none =>
            rw [List.dropWhile_cons_of_pos (by simp [hpart]), ih,
              List.filter_cons_of_neg (by simp [hpart])]
        | some c => rw [List.dropWhile_cons_of_neg (by simp [hpart])]
  rw [dropIdle, List.filter_reverse, hdrop, ← List.filter_reverse, List.reverse_reverse]

theorem parts_joinWith {body : List Text} (hne : body ≠ []) (hslash : ∀ part ∈ body, '/' ∉ part) :
    parts ⟨Text.joinWith ['/'] body⟩ = body := by
  refine Text.splitBy_joinWith rfl hne fun part hpart c hc => ?_
  have hne : c ≠ '/' := fun heq => hslash part hpart (heq ▸ hc)
  simpa using hne

/-- A path that does not end with a separator is spelled by its parts. -/
theorem parts_ofLead {k : Option Component} {body : List Text}
    (hk : k = some .root ∨ k = some .current ∨ k = none) (hlast : body.getLast? ≠ some [])
    (hslash : ∀ part ∈ body, '/' ∉ part) (hname : '/' ∉ name) :
    ((ofLead k body).join ⟨name⟩).parts = opening k ++ body ++ [name] := by
  by_cases hbody : body = []
  -- only the lead stands before the name, and each lead is spelled in its own way
  · subst hbody
    rcases hk with rfl | rfl | rfl
    · rw [join_eq hname, if_pos (.inr rfl)]
      change parts ⟨[] ++ '/' :: name⟩ = _
      rw [parts_slash, parts_of_slash_not_mem hname]
      rfl
    · rw [parts_join (by decide) hname]
      rfl
    · rw [join_eq hname, if_pos (.inl rfl)]
      change parts ⟨name⟩ = _
      rw [parts_of_slash_not_mem hname]
      rfl
  · have hparts : (ofLead k body).parts = opening k ++ body := by
      obtain ⟨part, rest, rfl⟩ := List.exists_cons_of_ne_nil hbody
      have hjoined := parts_joinWith hbody hslash
      rcases hk with rfl | rfl | rfl
      · change parts ⟨[] ++ '/' :: Text.joinWith ['/'] (part :: rest)⟩ = _
        rw [parts_slash, hjoined]
        rfl
      · change parts ⟨['.'] ++ '/' :: Text.joinWith ['/'] (part :: rest)⟩ = _
        rw [parts_slash, hjoined]
        rfl
      · exact hjoined
    rw [parts_join _ hname, hparts]
    rw [hparts, List.getLast?_append_of_ne_nil _ hbody]
    exact hlast

theorem fileName?_of_parts (hparts : p.parts = before ++ [name])
    (hname : component? name = some (.normal name)) : p.fileName? = some name := by
  obtain ⟨k, body, -, hlead⟩ := lead_eq hparts hname
  rw [fileName?, components, hlead, List.filterMap_append]
  simp [hname]

theorem fileName_fileName (p : Path) : fileName ⟨p.fileName⟩ = p.fileName := by
  cases h : p.fileName? with
  | none =>
      rw [fileName.eq_def p, h]
      rfl
  | some name =>
      have hname := (mem_parts_of_mem_components (mem_components_of_fileName? h)).2
      have hslash := slash_not_mem_fileName p
      rw [fileName, h, Option.getD_some] at hslash
      have hparts : parts ⟨name⟩ = [] ++ [name] := parts_of_slash_not_mem hslash
      rw [fileName.eq_def p, h, Option.getD_some, fileName, fileName?_of_parts hparts hname]
      rfl

theorem withFileName_eq (hparts : p.parts = before ++ [name])
    (hname : component? name = some (.normal name)) (new : Text) :
    ∃ k body, Frame before k body ∧ p.parent? = some (ofLead k (dropIdle body)) ∧
      p.withFileName new = (ofLead k (dropIdle body)).join ⟨new⟩ := by
  obtain ⟨k, body, hframe, hlead⟩ := lead_eq hparts hname
  have hparent : p.parent? = some (ofLead k (dropIdle body)) := by
    rw [parent?, hlead, dropIdle_append hname]
    cases body with
    | nil => rfl
    | cons part body =>
        change some (ofLead k (dropIdle ((part :: body ++ [name]).dropLast))) = _
        rw [List.dropLast_concat]
  refine ⟨k, body, hframe, hparent, ?_⟩
  rw [withFileName, fileName?_of_parts hparts hname, hparent]

theorem withSuffix_eq (hparts : p.parts = before ++ [name])
    (hname : component? name = some (.normal name)) (suffix : Text) :
    p.withSuffix suffix = p.withFileName (name ++ suffix) := by
  rw [withSuffix, fileName, fileName?_of_parts hparts hname]
  rfl

theorem parts_withFileName (hparts : p.parts = before ++ [name])
    (hname : component? name = some (.normal name)) {new : Text} (hnew : '/' ∉ new) :
    ∃ k body, Frame before k body ∧
      (p.withFileName new).parts = opening k ++ dropIdle body ++ [new] := by
  obtain ⟨k, body, hframe, -, hwith⟩ := withFileName_eq hparts hname new
  refine ⟨k, body, hframe, ?_⟩
  have hslash : ∀ part ∈ before ++ [name], '/' ∉ part := fun part hpart =>
    slash_not_mem_parts (hparts ▸ hpart)
  have hbody : ∀ part ∈ dropIdle body, '/' ∉ part := by
    intro part hpart
    refine hslash part ?_
    rw [hframe.before_eq]
    have := (prefix_dropIdle body).subset hpart
    simp [this]
  rw [hwith]
  refine parts_ofLead ?_ (getLast?_dropIdle body) hbody hnew
  rcases hframe.cases with hk | hk | ⟨hk, -⟩
  · exact .inl hk
  · exact .inr (.inl hk)
  · exact .inr (.inr hk)

theorem isAbsolute_iff_of_parts {k : Option Component} {body : List Text}
    (hparts : p.parts = opening k ++ body ++ [name])
    (hk : k = some .root ∨ k = some .current ∨ k = none ∧ body.head? ≠ some []) :
    p.isAbsolute = true ↔ k = some .root := by
  rw [isAbsolute_iff, hparts]
  rcases hk with rfl | rfl | ⟨rfl, hhead⟩
  · obtain ⟨part, rest, hrest⟩ : ∃ part rest, body ++ [name] = part :: rest :=
      List.exists_cons_of_ne_nil (by simp)
    simp [opening, hrest]
  · simp [opening]
  · cases body with
    | nil => simp [opening]
    | cons first rest =>
        have hfirst : first ≠ [] := by simpa using hhead
        simp [opening, hfirst]

theorem isAbsolute_withFileName (hparts : p.parts = before ++ [name])
    (hname : component? name = some (.normal name)) {new : Text} (hnew : '/' ∉ new) :
    (p.withFileName new).isAbsolute = p.isAbsolute := by
  obtain ⟨k, body, hframe, hwith⟩ := parts_withFileName hparts hname hnew
  rw [hframe.before_eq] at hparts
  have hold := isAbsolute_iff_of_parts hparts hframe.cases
  refine Bool.eq_iff_iff.mpr ((isAbsolute_iff_of_parts hwith ?_).trans hold.symm)
  rcases hframe.cases with hk | hk | ⟨hk, hhead⟩
  · exact .inl hk
  · exact .inr (.inl hk)
  · refine .inr (.inr ⟨hk, fun hnil => hhead ?_⟩)
    obtain ⟨rest, hrest⟩ := prefix_dropIdle body
    obtain ⟨others, hothers⟩ := List.head?_eq_some_iff.mp hnil
    rw [← hrest, hothers]
    rfl

theorem components_withFileName (hparts : p.parts = before ++ [name])
    (hname : component? name = some (.normal name)) {new : Text} (hnew : '/' ∉ new) :
    ∃ others, (p.withFileName new).parts = others ++ [new] ∧
      others.filter (fun part => (component? part).isSome) =
        before.filter fun part => (component? part).isSome := by
  obtain ⟨k, body, hframe, hwith⟩ := parts_withFileName hparts hname hnew
  refine ⟨opening k ++ dropIdle body, hwith, ?_⟩
  rw [List.filter_append, filter_dropIdle, hframe.before_eq, List.filter_append]

theorem slash_not_mem_append (hparts : p.parts = before ++ [name]) {suffix : Text}
    (hsuffix : '/' ∉ suffix) : '/' ∉ name ++ suffix := by
  have hname : '/' ∉ name := slash_not_mem_parts (hparts ▸ List.mem_append_right _ (by simp))
  simp [hname, hsuffix]

theorem fileName_withSuffix (hparts : p.parts = before ++ [name])
    (hname : component? name = some (.normal name)) {suffix : Text} (hsuffix : '/' ∉ suffix) :
    (p.withSuffix suffix).fileName = name ++ suffix := by
  rw [withSuffix_eq hparts hname]
  obtain ⟨k, body, -, hwith⟩ :=
    parts_withFileName hparts hname (slash_not_mem_append hparts hsuffix)
  rw [fileName, fileName?_of_parts hwith (component?_append hname suffix)]
  rfl

theorem components_withSuffix (hparts : p.parts = before ++ [name])
    (hname : component? name = some (.normal name)) {suffix : Text} (hsuffix : '/' ∉ suffix) :
    ∃ others, (p.withSuffix suffix).parts = others ++ [name ++ suffix] ∧
      others.filter (fun part => (component? part).isSome) =
        before.filter fun part => (component? part).isSome := by
  rw [withSuffix_eq hparts hname]
  exact components_withFileName hparts hname (slash_not_mem_append hparts hsuffix)

theorem steps_withSuffix (hparts : p.parts = before ++ [name])
    (hname : component? name = some (.normal name)) {suffix : Text} (hsuffix : '/' ∉ suffix) :
    ∃ others, p.steps = others ++ [name] ∧
      (p.withSuffix suffix).steps = others ++ [name ++ suffix] := by
  obtain ⟨others, hothers, hsame⟩ := components_withSuffix hparts hname hsuffix
  refine ⟨before.filter fun part => (component? part).isSome, ?_, ?_⟩
  · rw [steps, hparts, List.filter_append]
    simp [hname]
  · rw [steps, hothers, List.filter_append, hsame]
    simp [component?_append hname]

end Path

namespace Disk

variable {d : Disk} {p : Path} {before : List Text} {name : Text} {o : Location}

theorem names_of_parts (hparts : p.parts = before ++ [name])
    (hname : Path.component? name = some (.normal name)) :
    Names p name ∧ (lastName p).1 = before.filter (· ≠ []) := by
  obtain ⟨hnil, hdot, hup⟩ := Path.component?_eq_normal_iff.mp hname
  have hnames : names p = before.filter (· ≠ []) ++ [name] := by
    rw [names, hparts, List.filter_append]
    simp [hnil]
  refine ⟨⟨?_, ?_⟩, ?_⟩
  · rw [lastName, hnames, List.getLast?_concat]
    simp [hdot, hup]
  · rw [endsInSeparator, beq_eq_false_iff_ne]
    intro hslash
    have hlast := Path.getLast?_parts_of_slash hslash
    rw [hparts, List.getLast?_concat] at hlast
    exact hnil (Option.some.inj hlast)
  · rw [lastName, hnames, List.getLast?_concat]
    exact List.dropLast_concat

/-- The way to the directory of a name goes by the components before it. -/
theorem enter_of_parts (hparts : p.parts = before ++ [name])
    (hname : Path.component? name = some (.normal name)) (d : Disk) (loc : Location) :
    d.enter loc (lastName p).1 =
      d.enter loc (before.filter fun part => (Path.component? part).isSome) := by
  have hfilter : (before.filter (· ≠ [])).filter (· ≠ ['.']) =
      before.filter fun part => (Path.component? part).isSome := by
    rw [List.filter_filter]
    refine List.filter_congr fun part _ => ?_
    rw [Path.component?]
    by_cases hnil : part = []
    · simp [hnil]
    · by_cases hdot : part = ['.']
      · simp [hdot]
      · by_cases hup : part = ['.', '.']
        · simp [hup]
        · simp [hnil, hdot, hup]
  rw [(names_of_parts hparts hname).2, ← enter_filter, hfilter]

theorem enter_withFileName (hparts : p.parts = before ++ [name])
    (hname : Path.component? name = some (.normal name)) {new : Text}
    (hnew : Path.component? new = some (.normal new)) (hslash : '/' ∉ new) (d : Disk) :
    d.enter (d.start (p.withFileName new)) (lastName (p.withFileName new)).1 =
      d.enter (d.start p) (lastName p).1 := by
  obtain ⟨others, hothers, hsame⟩ := Path.components_withFileName hparts hname hslash
  have hstart : d.start (p.withFileName new) = d.start p := by
    rw [Disk.start, Disk.start, startOf, startOf, Path.isAbsolute_withFileName hparts hname hslash]
  rw [hstart, enter_of_parts hothers hnew, hsame, ← enter_of_parts hparts hname]

theorem LinkFree.holder_withFileName (h : d.LinkFree) (hparts : p.parts = before ++ [name])
    (hname : Path.component? name = some (.normal name)) {new : Text}
    (hnew : Path.component? new = some (.normal new)) (hslash : '/' ∉ new)
    (ho : d.holder p = .ok o) (husable : usable (p.withFileName new) = .ok ()) :
    d.holder (p.withFileName new) = .ok o := by
  refine h.holder_eq_ok_iff.mpr ⟨husable, ?_⟩
  rw [enter_withFileName hparts hname hnew hslash]
  exact (h.holder_eq_ok_iff.mp ho).2

theorem LinkFree.holder_withSuffix (h : d.LinkFree) (hparts : p.parts = before ++ [name])
    (hname : Path.component? name = some (.normal name)) {suffix : Text} (hsuffix : '/' ∉ suffix)
    (ho : d.holder p = .ok o) (husable : usable (p.withSuffix suffix) = .ok ()) :
    d.holder (p.withSuffix suffix) = .ok o := by
  rw [Path.withSuffix_eq hparts hname] at husable ⊢
  exact h.holder_withFileName hparts hname (Path.component?_append hname suffix)
    (Path.slash_not_mem_append hparts hsuffix) ho husable

end Disk

end Manuscript
