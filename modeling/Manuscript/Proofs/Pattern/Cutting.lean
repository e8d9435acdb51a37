import Manuscript.Proofs.Pattern.Reading
import Manuscript.Pattern.Template

/-!
Cutting a text into matches and the characters between them.

For a pattern that never reads nothing, the pieces of a text satisfy three
equations, one for each thing that can stand at a place: the end of the text,
a character where no match begins, and a match. Statements about the pieces of
a whole text follow by the induction that goes with the equations.
-/

namespace Manuscript.Pattern

/-- Every match of the pattern has a text. -/
def ReadsSome (p : Pattern) : Prop :=
  ∀ b t r g, p.Reads b t r g → t ≠ []

def cut (p : Pattern) (s : Place) : List Piece :=
  (piecesFrom p (s.rest.length + 1) s none []).reverse

theorem pieces_eq_cut (p : Pattern) (t : Text) : pieces p t = cut p (.ofText t) := rfl

section

variable {p : Pattern} {fuel : Nat} {s : Place} {last : Option Nat} {done : List Piece}

theorem piecesFrom_stop (h : endAt? p s = none) (hs : s.rest = []) :
    piecesFrom p (fuel + 1) s last done = done := by
  simp only [piecesFrom, h, hs]

theorem piecesFrom_kept {c : Char} {rest : Text} (h : endAt? p s = none) (hs : s.rest = c :: rest) :
    piecesFrom p (fuel + 1) s last done =
      piecesFrom p fuel (s.past c rest) last (.kept c :: done) := by
  simp only [piecesFrom, h, hs]

theorem piecesFrom_found {e : Place} (h : endAt? p s = some e) (hlt : s.offset < e.offset) :
    piecesFrom p (fuel + 1) s last done =
      piecesFrom p fuel { e with groups := [] } (some e.offset)
        (.found (foundBetween s e) :: done) := by
  simp only [piecesFrom, h, if_pos hlt]

end

theorem piecesFrom_append (p : Pattern) (fuel : Nat) (s : Place) (last : Option Nat)
    (done : List Piece) :
    piecesFrom p fuel s last done = piecesFrom p fuel s last [] ++ done := by
  induction fuel generalizing s last done with
  | zero => exact congrArg (· ++ done) (List.append_nil _).symm
  | succ fuel ih =>
      cases he : endAt? p s with
      | none =>
          cases hs : s.rest with
          | nil => rw [piecesFrom_stop he hs, piecesFrom_stop he hs, List.nil_append]
          | cons c rest =>
              rw [piecesFrom_kept he hs, piecesFrom_kept he hs, ih _ _ (_ :: done), ih _ _ [_],
                List.append_assoc, List.singleton_append]
      | some e =>
          by_cases hlt : s.offset < e.offset
          · rw [piecesFrom_found he hlt, piecesFrom_found he hlt, ih _ _ (_ :: done), ih _ _ [_],
              List.append_assoc, List.singleton_append]
          -- a match of nothing is passed over where the match before it ended
          simp only [piecesFrom, he, if_neg hlt]
          by_cases hlast : last = some s.offset
          · simp only [if_pos hlast]
            cases s.rest with
            | nil => rfl
            | cons c rest =>
                dsimp only
                rw [ih _ _ (_ :: done), ih _ _ [_], List.append_assoc, List.singleton_append]
          · simp only [if_neg hlast]
            cases s.rest with
            | nil => rfl
            | cons c rest =>
                dsimp only
                rw [ih _ _ (_ :: _ :: done), ih _ _ [_, _], List.append_assoc]
                rfl

theorem ReadsSome.offset_lt {p : Pattern} (hp : p.ReadsSome) {s e : Place}
    (h : endAt? p s = some e) : s.offset < e.offset ∧ e.rest.length < s.rest.length := by
  obtain ⟨t, g, hs, hr⟩ := reads_of_endAt? h
  have hpos := List.length_pos_iff.mpr (hp _ _ _ _ hr)
  have hoff := hs.offset
  have hrest := congrArg List.length hs.rest
  rw [List.length_append] at hrest
  omega

section

variable {p : Pattern} (hp : p.ReadsSome)
include hp

theorem endAt?_eq_none_of_rest {s : Place} (hs : s.rest = []) : endAt? p s = none := by
  cases he : endAt? p s with
  | none => rfl
  | some e =>
      have := (hp.offset_lt he).2
      simp [hs] at this

/-- Where the match before ended, and how much fuel is left over, does not matter. -/
theorem piecesFrom_eq {fuel : Nat} {s : Place} (last : Option Nat) (hfuel : s.rest.length < fuel) :
    (piecesFrom p fuel s last []).reverse = cut p s := by
  suffices H : ∀ n fuel fuel' s last last', s.rest.length ≤ n → s.rest.length < fuel →
      s.rest.length < fuel' → piecesFrom p fuel s last [] = piecesFrom p fuel' s last' [] by
    rw [cut, H _ fuel (s.rest.length + 1) s last none le_rfl hfuel (Nat.lt_succ_self _)]
  intro n
  induction n with
  | zero =>
      intro fuel fuel' s last last' hn hfuel hfuel'
      obtain ⟨fuel, rfl⟩ := Nat.exists_eq_add_one.mpr (Nat.zero_lt_of_lt hfuel)
      obtain ⟨fuel', rfl⟩ := Nat.exists_eq_add_one.mpr (Nat.zero_lt_of_lt hfuel')
      have hs : s.rest = [] := List.eq_nil_of_length_eq_zero (Nat.le_zero.mp hn)
      have he := endAt?_eq_none_of_rest hp hs
      rw [piecesFrom_stop he hs, piecesFrom_stop he hs]
  | succ n ih =>
      intro fuel fuel' s last last' hn hfuel hfuel'
      obtain ⟨fuel, rfl⟩ := Nat.exists_eq_add_one.mpr (Nat.zero_lt_of_lt hfuel)
      obtain ⟨fuel', rfl⟩ := Nat.exists_eq_add_one.mpr (Nat.zero_lt_of_lt hfuel')
      cases he : endAt? p s with
      | some e =>
          obtain ⟨hlt, hlen⟩ := hp.offset_lt he
          rw [piecesFrom_found he hlt, piecesFrom_found he hlt, piecesFrom_append _ fuel,
            piecesFrom_append _ fuel', ih fuel fuel' { e with groups := [] } _ (some e.offset)]
          all_goals simp only; omega
      | none =>
          cases hs : s.rest with
          | nil => rw [piecesFrom_stop he hs, piecesFrom_stop he hs]
          | cons c rest =>
              rw [hs, List.length_cons] at hn hfuel hfuel'
              rw [piecesFrom_kept he hs, piecesFrom_kept he hs, piecesFrom_append _ fuel,
                piecesFrom_append _ fuel', ih fuel fuel' (s.past c rest) _ last']
              all_goals simp only [Place.past]; omega

theorem cut_stop {s : Place} (hs : s.rest = []) : cut p s = [] := by
  rw [cut, piecesFrom_stop (endAt?_eq_none_of_rest hp hs) hs, List.reverse_nil]

theorem cut_kept {s : Place} {c : Char} {rest : Text} (hs : s.rest = c :: rest)
    (h : endAt? p s = none) : cut p s = .kept c :: cut p (s.past c rest) := by
  rw [cut, piecesFrom_kept h hs, piecesFrom_append, List.reverse_append, piecesFrom_eq hp]
  · rfl
  · simp [Place.past, hs]

theorem cut_found {s e : Place} (h : endAt? p s = some e) :
    cut p s = .found (foundBetween s e) :: cut p { e with groups := [] } := by
  obtain ⟨hlt, hlen⟩ := hp.offset_lt h
  rw [cut, piecesFrom_found h hlt, piecesFrom_append, List.reverse_append, piecesFrom_eq hp]
  · rfl
  · exact hlen

/-- Induction along the pieces of a text. -/
theorem cut_induction {motive : Place → Prop} (stop : ∀ s, s.rest = [] → motive s)
    (kept : ∀ s c rest, s.rest = c :: rest → endAt? p s = none → motive (s.past c rest) →
      motive s)
    (found : ∀ s e, endAt? p s = some e → motive { e with groups := [] } → motive s)
    (s : Place) : motive s := by
  induction hn : s.rest.length using Nat.strongRecOn generalizing s with
  | _ n ih =>
      subst hn
      cases he : endAt? p s with
      | some e => exact found s e he (ih _ (hp.offset_lt he).2 _ rfl)
      | none =>
          cases hs : s.rest with
          | nil => exact stop s hs
          | cons c rest =>
              exact kept s c rest hs he (ih rest.length (by simp [hs]) (s.past c rest) rfl)

end

/-- What is found where no groups were read before. -/
theorem foundBetween_eq {p : Pattern} {s e : Place} (hs : s.groups = [])
    (h : endAt? p s = some e) :
    ∃ t g, s.Reaches t g e ∧ p.Reads s.before t e.rest g ∧ foundBetween s e = ⟨t, g⟩ := by
  obtain ⟨t, g, hreach, hreads⟩ := reads_of_endAt? h
  refine ⟨t, g, hreach, hreads, ?_⟩
  have htexts := hreach.texts
  simp only [Place.texts, hs, List.map_nil, List.append_nil] at htexts
  simp [foundBetween, hreach.rest, hreach.offset, htexts]

/-- Nothing is found in a text exactly if no match begins anywhere in it. -/
theorem forall_kept_iff {p : Pattern} (hp : p.ReadsSome) (t : Text) :
    (∀ m, .found m ∉ pieces p t) ↔ ¬p.Occurs t := by
  suffices H : ∀ s : Place, (∀ m, .found m ∉ cut p s) ↔
      ∀ u v, s.rest = u ++ v → ¬p.MatchesAt (behind s.before u) v by
    rw [pieces_eq_cut, H]
    simp [Occurs, Place.ofText, behind]
  intro s
  induction s using cut_induction hp with
  | stop s hs =>
      rw [cut_stop hp hs, hs]
      simp only [List.not_mem_nil, not_false_eq_true, implies_true, true_iff]
      rintro u v huv ⟨t, r, g, hv, h⟩
      obtain ⟨-, rfl⟩ := List.append_eq_nil_iff.mp huv.symm
      exact hp _ _ _ _ h (List.append_eq_nil_iff.mp hv.symm).1
  | kept s c rest hs hnone ih =>
      rw [cut_kept hp hs hnone, hs]
      simp only [List.mem_cons, reduceCtorEq, false_or, ih]
      constructor
      · intro h u v huv
        cases u with
        | nil =>
            obtain rfl : c :: rest = v := huv
            exact hs ▸ endAt?_eq_none_iff.mp hnone
        | cons d u =>
            obtain ⟨rfl, hrest⟩ := List.cons.inj huv
            rw [behind_cons]
            exact h u v hrest
      · intro h u v huv
        have h := h (c :: u) v (congrArg (c :: ·) huv)
        rwa [behind_cons] at h
  | found s e he _ =>
      rw [cut_found hp he]
      simp only [List.mem_cons, not_or, forall_and]
      constructor
      · exact fun h => absurd rfl (h.1 _)
      · intro h
        have := endAt?_eq_none_iff.mpr (h [] s.rest rfl)
        simp [he] at this

end Manuscript.Pattern
