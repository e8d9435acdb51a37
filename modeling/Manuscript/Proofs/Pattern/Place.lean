import Manuscript.Pattern.Match

/-!
Moving from place to place in a text.

Every end that a pattern finds is the place behind some text read from the
place where it began, with the groups read on the way put before the others.
`Place.Reaches` says this once for all patterns. Groups are compared by their
texts, since a span also remembers the text behind it.
-/

namespace Manuscript.Pattern

def behind (before : Option Char) (t : Text) : Option Char :=
  t.getLast?.or before

@[simp] theorem behind_nil (before : Option Char) : behind before [] = before := rfl

@[simp] theorem behind_cons (before : Option Char) (c : Char) (t : Text) :
    behind before (c :: t) = behind (some c) t := by
  cases h : t.getLast? with
  | none => simp_all [behind]
  | some d => simp [behind, List.getLast?_cons, h]

@[simp] theorem behind_append (before : Option Char) (t u : Text) :
    behind before (t ++ u) = behind (behind before t) u := by
  induction t generalizing before with
  | nil => rfl
  | cons c t ih => simp [ih]

/-- The texts of groups, the latest first. -/
abbrev Groups := List (Nat × Text)

namespace Place

def texts (s : Place) : Groups :=
  s.groups.map fun g => (g.1, g.2.text)

/-- Reading `t` from `s`, through the groups `g`, ends at `e`. -/
structure Reaches (s : Place) (t : Text) (g : Groups) (e : Place) : Prop where
  rest : s.rest = t ++ e.rest
  offset : e.offset = s.offset + t.length
  before : e.before = behind s.before t
  texts : e.texts = g ++ s.texts

theorem Reaches.refl (s : Place) : s.Reaches [] [] s :=
  ⟨rfl, rfl, rfl, rfl⟩

theorem Reaches.trans {s m e : Place} {t u : Text} {g h : Groups} (hm : s.Reaches t g m)
    (he : m.Reaches u h e) : s.Reaches (t ++ u) (h ++ g) e where
  rest := by rw [hm.rest, he.rest, List.append_assoc]
  offset := by rw [he.offset, hm.offset, List.length_append, Nat.add_assoc]
  before := by rw [he.before, hm.before, behind_append]
  texts := by rw [he.texts, hm.texts, List.append_assoc]

theorem reaches_past {s : Place} {c : Char} {rest : Text} (h : s.rest = c :: rest) :
    s.Reaches [c] [] (s.past c rest) :=
  ⟨h, rfl, rfl, rfl⟩

theorem Reaches.close {s e : Place} {t : Text} {g : Groups} (h : s.Reaches t g e) (i : Nat) :
    s.Reaches t ((i, t) :: g) (e.close i s) where
  rest := h.rest
  offset := h.offset
  before := h.before
  texts := by
    have hspan : (⟨s.rest, e.offset - s.offset⟩ : Span).text = t := by
      simp [Span.text, h.rest, h.offset]
    have htexts := h.texts
    simp only [Place.texts] at htexts ⊢
    simp [Place.close, hspan, htexts]

/-- The text between two places of one text is known by its length. -/
theorem Reaches.eq_of_length {s e : Place} {t u r : Text} {g : Groups} (h : s.Reaches t g e)
    (hs : s.rest = u ++ r) (hlen : t.length = u.length) : t = u ∧ e.rest = r :=
  List.append_inj (h.rest.symm.trans hs) hlen

theorem word?_cons {s : Place} {c d : Char} {w rest : Text} (h : s.rest = d :: rest) :
    s.word? (c :: w) = if c = d then (s.past d rest).word? w else none := by
  obtain ⟨offset, before, _, groups⟩ := s
  cases h
  rfl

theorem word?_cons_nil {s : Place} {c : Char} {w : Text} (h : s.rest = []) :
    s.word? (c :: w) = none := by
  obtain ⟨offset, before, _, groups⟩ := s
  cases h
  rfl

theorem reaches_word {w : Text} {s e : Place} (h : s.word? w = some e) : s.Reaches w [] e := by
  induction w generalizing s with
  | nil =>
      obtain rfl : s = e := Option.some.inj h
      exact .refl s
  | cons c w ih =>
      cases hs : s.rest with
      | nil => cases (word?_cons_nil hs).symm.trans h
      | cons d rest =>
          rw [word?_cons hs] at h
          split at h
          next hcd =>
            subst hcd
            exact (reaches_past hs).trans (ih h)
          next => cases h

theorem word?_isSome {w r : Text} {s : Place} (h : s.rest = w ++ r) : (s.word? w).isSome := by
  induction w generalizing s with
  | nil => rfl
  | cons c w ih =>
      rw [List.cons_append] at h
      rw [word?_cons h, if_pos rfl]
      exact ih rfl

/-! ### Runs of characters of a class -/

theorem runEnds_of_has {k : CharClass} {c : Char} (hc : k.has c = true) (s : Place) (t : Text)
    (found : List Place) :
    s.runEnds k (c :: t) found = (s.past c t).runEnds k t (s :: found) :=
  if_pos hc

theorem runEnds_of_not_has {k : CharClass} {c : Char} (hc : ¬k.has c = true) (s : Place) (t : Text)
    (found : List Place) : s.runEnds k (c :: t) found = s :: found :=
  if_neg hc

theorem mem_runEnds {k : CharClass} {s e : Place} {found : List Place} {t : Text}
    (hs : s.rest = t) (h : e ∈ s.runEnds k t found) :
    e ∈ found ∨ ∃ u, s.Reaches u [] e ∧ ∀ c ∈ u, k.has c := by
  induction t generalizing s found with
  | nil =>
      rcases List.mem_cons.mp h with rfl | h
      · exact .inr ⟨[], .refl e, by simp⟩
      · exact .inl h
  | cons c t ih =>
      by_cases hc : k.has c = true
      · rw [runEnds_of_has hc] at h
        rcases ih (s := s.past c t) rfl h with hfound | ⟨u, hu, hk⟩
        · rcases List.mem_cons.mp hfound with rfl | hfound
          · exact .inr ⟨[], .refl e, by simp⟩
          · exact .inl hfound
        · exact .inr ⟨c :: u, (reaches_past hs).trans hu, by simpa [hc] using hk⟩
      · rw [runEnds_of_not_has hc] at h
        rcases List.mem_cons.mp h with rfl | h
        · exact .inr ⟨[], .refl e, by simp⟩
        · exact .inl h

theorem subset_runEnds (k : CharClass) (s : Place) (t : Text) (found : List Place) :
    s :: found ⊆ s.runEnds k t found := by
  induction t generalizing s found with
  | nil => exact List.Subset.refl _
  | cons c t ih =>
      by_cases hc : k.has c = true
      · rw [runEnds_of_has hc]
        exact List.Subset.trans (List.subset_cons_self _ _) (ih _ _)
      · rw [runEnds_of_not_has hc]
        exact List.Subset.refl _

theorem exists_mem_runEnds {k : CharClass} {s : Place} {u r : Text} (found : List Place)
    (hk : ∀ c ∈ u, k.has c) :
    ∃ e ∈ s.runEnds k (u ++ r) found, e.offset = s.offset + u.length := by
  induction u generalizing s found with
  | nil => exact ⟨s, subset_runEnds k s r found List.mem_cons_self, rfl⟩
  | cons c u ih =>
      obtain ⟨hc, hu⟩ := List.forall_mem_cons.mp hk
      obtain ⟨e, he, hoff⟩ := ih (s := s.past c (u ++ r)) (s :: found) hu
      rw [List.cons_append, runEnds_of_has hc]
      refine ⟨e, he, ?_⟩
      have hpast : (s.past c (u ++ r)).offset = s.offset + 1 := rfl
      rw [hoff, hpast, List.length_cons]
      omega

end Place

end Manuscript.Pattern
