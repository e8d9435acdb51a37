import Manuscript.Proofs.Pattern.Repetition

/-!
What patterns read, apart from how they are searched.

`p.Reads b t r g` says that `p` can read the text `t` between the character `b`
before it and the text `r` behind it, going through the groups `g`. The search
is sound for this relation with its groups, and complete for it up to groups:
of two ways to one place through a repetition the search keeps the first.
-/

namespace Manuscript.Pattern

def Reads : Pattern → Readings
  | .empty, _, t, _, g => t = [] ∧ g = []
  | .word w, _, t, _, g => t = w ∧ g = []
  | .one k, _, t, _, g => (∃ c, k.has c ∧ t = [c]) ∧ g = []
  | .seq p q, b, t, r, g => ∃ t₁ t₂ g₁ g₂, t = t₁ ++ t₂ ∧ g = g₂ ++ g₁ ∧
      p.Reads b t₁ (t₂ ++ r) g₁ ∧ q.Reads (behind b t₁) t₂ r g₂
  | .alt p q, b, t, r, g => p.Reads b t r g ∨ q.Reads b t r g
  | .many _ k, _, t, _, g => (∀ c ∈ t, k.has c) ∧ g = []
  | .star _ p, b, t, r, g => Rounds p.Reads b t r g
  | .group i p, b, t, r, g => ∃ h, g = (i, t) :: h ∧ p.Reads b t r h
  | .check a, b, t, r, g => t = [] ∧ g = [] ∧ (Place.mk 0 b r []).holds a

theorem Place.holds_eq (s : Place) (a : Assertion) :
    s.holds a = (Place.mk 0 s.before s.rest []).holds a := by
  cases a <;> rfl

theorem reads_of_mem_ends {p : Pattern} {s e : Place} (h : e ∈ p.ends s) :
    ∃ t g, s.Reaches t g e ∧ p.Reads s.before t e.rest g := by
  induction p generalizing s e with
  | empty =>
      cases List.mem_singleton.mp h
      exact ⟨[], [], .refl s, rfl, rfl⟩
  | word w =>
      have h : s.word? w = some e := by simpa [ends] using h
      exact ⟨w, [], Place.reaches_word h, rfl, rfl⟩
  | one k =>
      cases hs : s.rest with
      | nil => simp [ends, hs] at h
      | cons c rest =>
          simp only [ends, hs] at h
          split at h
          next hc =>
            cases List.mem_singleton.mp h
            exact ⟨[c], [], Place.reaches_past hs, ⟨c, hc, rfl⟩, rfl⟩
          next => simp at h
  | seq p q ihp ihq =>
      obtain ⟨m, hm, he⟩ := List.mem_flatMap.mp h
      obtain ⟨t, g, hsm, hp⟩ := ihp hm
      obtain ⟨u, k, hme, hq⟩ := ihq he
      rw [hme.rest] at hp
      rw [hsm.before] at hq
      exact ⟨t ++ u, k ++ g, hsm.trans hme, t, u, g, k, rfl, rfl, hp, hq⟩
  | alt p q ihp ihq =>
      rcases List.mem_append.mp h with h | h
      · obtain ⟨t, g, hs, hp⟩ := ihp h
        exact ⟨t, g, hs, .inl hp⟩
      · obtain ⟨t, g, hs, hq⟩ := ihq h
        exact ⟨t, g, hs, .inr hq⟩
  | many greedy k =>
      have h : e ∈ s.runEnds k s.rest [] := by
        rw [ends] at h
        split at h
        · exact h
        · exact List.mem_reverse.mp h
      rcases Place.mem_runEnds rfl h with h | ⟨t, ht, hk⟩
      · simp at h
      · exact ⟨t, [], ht, hk, rfl⟩
  | star greedy p ih => exact rounds_of_mem_starEnds (fun s e he => ih he) h
  | group i p ih =>
      obtain ⟨m, hm, rfl⟩ := List.mem_map.mp h
      obtain ⟨t, g, hs, hp⟩ := ih hm
      exact ⟨t, (i, t) :: g, hs.close i, g, rfl, hp⟩
  | check a =>
      rw [ends] at h
      split at h
      next ha =>
        cases List.mem_singleton.mp h
        exact ⟨[], [], .refl s, rfl, rfl, by rwa [← Place.holds_eq]⟩
      next => simp at h

theorem exists_mem_ends {p : Pattern} {s : Place} {t r : Text} {g : Groups}
    (hs : s.rest = t ++ r) (h : p.Reads s.before t r g) :
    ∃ e ∈ p.ends s, e.offset = s.offset + t.length := by
  induction p generalizing s t r g with
  | empty =>
      obtain ⟨rfl, -⟩ := h
      exact ⟨s, List.mem_singleton_self s, rfl⟩
  | word w =>
      obtain ⟨rfl, -⟩ := h
      obtain ⟨e, he⟩ := Option.isSome_iff_exists.mp (Place.word?_isSome hs)
      exact ⟨e, by simp [ends, he], (Place.reaches_word he).offset⟩
  | one k =>
      obtain ⟨⟨c, hc, rfl⟩, -⟩ := h
      have hs : s.rest = c :: r := hs
      exact ⟨s.past c r, by simp [ends, hs, hc], rfl⟩
  | seq p q ihp ihq =>
      obtain ⟨t, u, g, k, rfl, rfl, hp, hq⟩ := h
      rw [List.append_assoc] at hs
      obtain ⟨m, hm, hoff⟩ := ihp hs hp
      obtain ⟨t', g', hsm, -⟩ := reads_of_mem_ends hm
      obtain ⟨rfl, hrest⟩ := hsm.eq_of_length hs (by have := hsm.offset; omega)
      obtain ⟨e, he, heoff⟩ := ihq hrest (by rwa [hsm.before])
      refine ⟨e, List.mem_flatMap.mpr ⟨m, hm, he⟩, ?_⟩
      rw [heoff, hoff, List.length_append, Nat.add_assoc]
  | alt p q ihp ihq =>
      rcases h with h | h
      · obtain ⟨e, he, hoff⟩ := ihp hs h
        exact ⟨e, List.mem_append_left _ he, hoff⟩
      · obtain ⟨e, he, hoff⟩ := ihq hs h
        exact ⟨e, List.mem_append_right _ he, hoff⟩
  | many greedy k =>
      obtain ⟨hk, -⟩ := h
      obtain ⟨e, he, hoff⟩ := Place.exists_mem_runEnds (s := s) (r := r) [] hk
      refine ⟨e, ?_, hoff⟩
      rw [ends, hs]
      split
      · exact he
      · exact List.mem_reverse.mpr he
  | star greedy p ih =>
      exact exists_mem_starEnds (fun s e he => reads_of_mem_ends he)
        (fun s t r g hs h => ih hs h) hs h
  | group i p ih =>
      obtain ⟨k, rfl, hp⟩ := h
      obtain ⟨e, he, hoff⟩ := ih hs hp
      exact ⟨e.close i s, List.mem_map_of_mem he, hoff⟩
  | check a =>
      obtain ⟨rfl, -, ha⟩ := h
      rw [List.nil_append] at hs
      exact ⟨s, by simp [ends, Place.holds_eq s, hs, ha], rfl⟩

/-! ### Matches -/

def MatchesAt (p : Pattern) (before : Option Char) (rest : Text) : Prop :=
  ∃ t r g, rest = t ++ r ∧ p.Reads before t r g

/-- A match of the pattern begins somewhere in the text. -/
def Occurs (p : Pattern) (t : Text) : Prop :=
  ∃ u v, t = u ++ v ∧ p.MatchesAt u.getLast? v

theorem endAt?_eq_none_iff {p : Pattern} {s : Place} :
    endAt? p s = none ↔ ¬p.MatchesAt s.before s.rest := by
  rw [endAt?, List.head?_eq_none_iff]
  constructor
  · rintro hnil ⟨t, r, g, hs, h⟩
    obtain ⟨e, he, -⟩ := exists_mem_ends hs h
    simp [hnil] at he
  · intro h
    refine List.eq_nil_iff_forall_not_mem.mpr fun e he => h ?_
    obtain ⟨t, g, hs, hp⟩ := reads_of_mem_ends he
    exact ⟨t, e.rest, g, hs.rest, hp⟩

theorem reads_of_endAt? {p : Pattern} {s e : Place} (h : endAt? p s = some e) :
    ∃ t g, s.Reaches t g e ∧ p.Reads s.before t e.rest g :=
  reads_of_mem_ends (List.mem_of_head? h)

end Manuscript.Pattern
