import Manuscript.Proofs.Json.Record

/-!
Records with members left out.

A record whose members may be left out is read from fewer members than were
written, and from members that nobody asks for beside them. `Thinned` says what
may become of an object on that way: each of its members is gone or still there
once, thinned itself, and the members under other names are any, in any order.
-/

namespace Manuscript.Json

def member? (j : Json) (name : String) : Option Json :=
  match j with
  | .object members => members.lookup name
  | _ => none

def has (j : Json) (name : String) : Bool :=
  (j.member? name).isSome

/-- A value with members left out of its objects and others added. -/
inductive Thinned : Json → Json → Prop
  | same (j : Json) : Thinned j j
  | object {members kept : List (String × Json)}
      (honce : ∀ m ∈ members, (kept.filter (·.1 == m.1)).length ≤ 1)
      (hkept : ∀ m ∈ members, ∀ j ∈ kept.lookup m.1, Thinned m.2 j) :
      Thinned (.object members) (.object kept)

namespace Thinned

theorem eq_of_not_object {j k : Json} (h : Thinned j k) (hj : ∀ members, j ≠ .object members) :
    k = j := by
  cases h with
  | same => rfl
  | object => exact absurd rfl (hj _)

variable {names : List String} {members : List (String × Json)} {j : Json}

/-- The fields of a thinned record are its members under the names. -/
theorem fields?_eq (h : Thinned (.object members) j) (hnames : members.map Prod.fst = names)
    (hnodup : names.Nodup) : fields? names j = some (names.map j.member?) := by
  subst hnames
  cases h with
  | same => exact fields?_of_once fun name _ => length_filter_le_one hnodup name
  | object honce =>
      refine fields?_of_once fun name hname => ?_
      obtain ⟨m, hm, rfl⟩ := List.mem_map.mp hname
      exact honce m hm

theorem of_member? (h : Thinned (.object members) j) (names : List String)
    (hnames : members.map Prod.fst = names) (hnodup : names.Nodup) :
    members.Forall fun m => ∀ k ∈ j.member? m.1, Thinned m.2 k := by
  subst hnames
  refine List.forall_iff_forall_mem.mpr fun m hm k hk => ?_
  cases h with
  | same =>
      obtain rfl : m.2 = k := Option.some.inj ((lookup_of_mem hnodup hm).symm.trans hk)
      exact .same m.2
  | object honce hkept => exact hkept m hm k hk

end Thinned

variable {α : Type} {read : Json → Option α} {o : Option Json} {own fallback : α}

/-- A field that may be left out is what is read of it, or else the fallback. -/
theorem orElse?_kept (h : ∀ k ∈ o, read k = some own) :
    orElse? fallback read o = some (if o.isSome then own else fallback) := by
  cases o with
  | none => rfl
  | some k => exact h k rfl

theorem orElse?_thinned {value : Json} (hkept : ∀ k ∈ o, Thinned value k)
    (hread : read value = some own) (hvalue : ∀ members, value ≠ .object members) :
    orElse? fallback read o = some (if o.isSome then own else fallback) := by
  refine orElse?_kept fun k hk => ?_
  rw [(hkept k hk).eq_of_not_object hvalue, hread]

theorem orElse?_section {value : Json} {filled : Json → α} (hkept : ∀ k ∈ o, Thinned value k)
    (hread : ∀ k, Thinned value k → read k = some (filled k)) :
    orElse? fallback read o = some (o.elim fallback filled) := by
  cases o with
  | none => rfl
  | some k => exact hread k (hkept k rfl)

/-! ### One member more -/

/-- An object with a member under a name between others, or without it. -/
def around (before after : List (String × Json)) (name : String) (o : Option Json) : Json :=
  .object (before ++ (o.toList.map (name, ·) ++ after))

section

variable {before after : List (String × Json)} {name : String}

theorem once_around_iff (h : name ∉ (before ++ after).map Prod.fst) (n : String) :
    ((before ++ (o.toList.map (name, ·) ++ after)).filter (·.1 == n)).length ≤ 1 ↔
      (n ≠ name → ((before ++ after).filter (·.1 == n)).length ≤ 1) := by
  by_cases hn : n = name
  · have hothers : (before ++ after).filter (·.1 == n) = [] := by
      refine List.filter_eq_nil_iff.mpr fun m hm => ?_
      have hne : m.1 ≠ n := fun heq => h (hn ▸ heq ▸ List.mem_map_of_mem hm)
      simpa using hne
    rw [List.filter_append, List.append_eq_nil_iff] at hothers
    rw [List.filter_append, List.filter_append, hothers.1, hothers.2]
    cases o with
    | none => simp [hn]
    | some v => simp [hn]
  · have hnone : (o.toList.map (name, ·)).filter (·.1 == n) = [] := by
      cases o with
      | none => rfl
      | some v => simp [Ne.symm hn]
    rw [List.filter_append, List.filter_append, hnone, List.nil_append, ← List.filter_append]
    simp [hn]

theorem lookup_around (h : name ∉ (before ++ after).map Prod.fst) (n : String) :
    (before ++ (o.toList.map (name, ·) ++ after)).lookup n =
      if n = name then o else (before ++ after).lookup n := by
  rw [List.lookup_append, List.lookup_append]
  by_cases hn : n = name
  · have hothers : (before ++ after).lookup n = none := by
      refine List.lookup_eq_none_iff.mpr fun m hm => ?_
      have hne : m.1 ≠ n := fun heq => h (hn ▸ heq ▸ List.mem_map_of_mem hm)
      simpa using hne.symm
    rw [List.lookup_append, Option.or_eq_none_iff] at hothers
    rw [if_pos hn, hothers.1, hothers.2, hn]
    cases o with
    | none => rfl
    | some v => simp
  · have hnone : (o.toList.map (name, ·)).lookup n = none := by
      cases o with
      | none => rfl
      | some v => simp [hn]
    rw [if_neg hn, hnone, List.lookup_append, Option.none_or]

/-- A member more is the field under its name and leaves the other fields as they are. -/
theorem fields?_around (h : name ∉ (before ++ after).map Prod.fst) (names : List String) :
    (∀ o, fields? names (around before after name o) = none) ∨
      ∀ o, fields? names (around before after name o) =
        some (names.map fun n => if n = name then o else (before ++ after).lookup n) := by
  have hfields : ∀ o, fields? names (around before after name o) =
      if ∀ n ∈ names, n ≠ name → ((before ++ after).filter (·.1 == n)).length ≤ 1 then
        some (names.map fun n => if n = name then o else (before ++ after).lookup n)
      else none := by
    intro o
    simp only [around, fields?, List.all_eq_true, decide_eq_true_eq, once_around_iff h,
      lookup_around h]
  by_cases honce : ∀ n ∈ names, n ≠ name → ((before ++ after).filter (·.1 == n)).length ≤ 1
  · exact .inr fun o => (hfields o).trans (if_pos honce)
  · exact .inl fun o => (hfields o).trans (if_neg honce)

end

end Manuscript.Json
