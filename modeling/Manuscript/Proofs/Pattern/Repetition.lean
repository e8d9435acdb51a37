import Manuscript.Proofs.Pattern.Place
import Mathlib.Data.Finset.Card

/-!
The search of a repetition finds exactly the ends of its rounds.

The search keeps tasks and remembers the offsets it has visited. Soundness is
an invariant of the tasks: each place in them is reached by rounds from the
beginning. Completeness is a closure of the visited offsets: every offset
visited stands for a place whose rounds all lead to visited offsets or to ends
found. Two places of one offset may differ in their groups, so the closure
speaks of offsets. The room given to the search exceeds the number of offsets
of the text, hence it never runs out.
-/

namespace Manuscript.Pattern

/-- Readings of some text between the character before it and the text behind it. -/
abbrev Readings := Option Char → Text → Text → Groups → Prop

/-- Readings one after another, each of some text, and at the end maybe one of nothing. -/
inductive Rounds (R : Readings) : Readings
  | stop {b : Option Char} {r : Text} : Rounds R b [] r []
  | pause {b : Option Char} {r : Text} {g : Groups} : R b [] r g → Rounds R b [] r g
  | round {b : Option Char} {t u r : Text} {g h : Groups} : R b t (u ++ r) g → t ≠ [] →
      Rounds R (behind b t) u r h → Rounds R b (t ++ u) r (h ++ g)

theorem nextVisit_nil (seen : Nat) (found : List Place) :
    nextVisit seen [] found = (none, found) := rfl

theorem nextVisit_finish (seen : Nat) (s : Place) (tasks : List Task) (found : List Place) :
    nextVisit seen (.finish s :: tasks) found = nextVisit seen tasks (s :: found) := rfl

theorem nextVisit_visit (seen : Nat) (s : Place) (tasks : List Task) (found : List Place) :
    nextVisit seen (.visit s :: tasks) found =
      if seen.testBit s.offset then nextVisit seen tasks found else (some (s, tasks), found) := rfl

/-- What a list of tasks has come to when the next visit is due, or when there is none. -/
theorem nextVisit_eq (seen : Nat) (tasks : List Task) (found : List Place) :
    ∃ done, (∀ v, .visit v ∈ done → seen.testBit v.offset) ∧
      (∀ e, e ∈ (nextVisit seen tasks found).2 ↔ e ∈ found ∨ .finish e ∈ done) ∧
      match (nextVisit seen tasks found).1 with
      | none => tasks = done
      | some (v, rest) => tasks = done ++ .visit v :: rest ∧ ¬seen.testBit v.offset := by
  induction tasks generalizing found with
  | nil => exact ⟨[], by simp, fun e => by simp [nextVisit_nil], rfl⟩
  | cons task tasks ih =>
      cases task with
      | finish x =>
          obtain ⟨done, hseen, hfound, hnext⟩ := ih (x :: found)
          refine ⟨.finish x :: done, by simpa using hseen, ?_, ?_⟩
          · intro e
            rw [nextVisit_finish, hfound e]
            simp only [List.mem_cons, Task.finish.injEq]
            tauto
          · rw [nextVisit_finish]
            cases hv : (nextVisit seen tasks (x :: found)).1 with
            | none => simpa [hv] using hnext
            | some next => simpa [hv] using hnext
      | visit v =>
          rw [nextVisit_visit]
          split
          next hbit =>
            obtain ⟨done, hseen, hfound, hnext⟩ := ih found
            refine ⟨.visit v :: done, ?_, by simpa using hfound, ?_⟩
            · intro w hw
              rcases List.mem_cons.mp hw with hw | hw
              · cases hw
                exact hbit
              · exact hseen w hw
            · cases hv : (nextVisit seen tasks found).1 with
              | none => simpa [hv] using hnext
              | some next => simpa [hv] using hnext
          next hbit => exact ⟨[], by simp, by simp, rfl, by simpa using hbit⟩

theorem mem_tasksAt {greedy : Bool} {round : Place → List Place} {s : Place} {task : Task} :
    task ∈ tasksAt greedy round s ↔ task = .finish s ∨
      ∃ e ∈ round s, task = if s.offset < e.offset then .visit e else .finish e := by
  cases greedy <;> simp [tasksAt, eq_comm, or_comm]

theorem visit_mem_tasksAt {greedy : Bool} {round : Place → List Place} {s e : Place} :
    .visit e ∈ tasksAt greedy round s ↔ e ∈ round s ∧ s.offset < e.offset := by
  rw [mem_tasksAt]
  constructor
  · rintro (h | ⟨x, hx, h⟩)
    · cases h
    · split at h
      next hlt =>
        cases h
        exact ⟨hx, hlt⟩
      next => cases h
  · rintro ⟨he, hlt⟩
    exact .inr ⟨e, he, (if_pos hlt).symm⟩

theorem finish_mem_tasksAt {greedy : Bool} {round : Place → List Place} {s e : Place} :
    .finish e ∈ tasksAt greedy round s ↔ e = s ∨ e ∈ round s ∧ ¬s.offset < e.offset := by
  rw [mem_tasksAt]
  constructor
  · rintro (h | ⟨x, hx, h⟩)
    · cases h
      exact .inl rfl
    · split at h
      next => cases h
      next hlt =>
        cases h
        exact .inr ⟨hx, hlt⟩
  · rintro (rfl | ⟨he, hlt⟩)
    · exact .inl rfl
    · exact .inr ⟨e, he, (if_neg hlt).symm⟩

/-- What holds of the places that a round goes on to, and of those visited later, holds of all
that are visited next. -/
theorem forall_visit_next {greedy : Bool} {round : Place → List Place} {v : Place}
    {rest : List Task} {P : Place → Prop} (hround : ∀ e ∈ round v, v.offset < e.offset → P e)
    (hrest : ∀ w, .visit w ∈ rest → P w) :
    ∀ w, .visit w ∈ tasksAt greedy round v ++ rest → P w := by
  intro w hw
  rcases List.mem_append.mp hw with hw | hw
  · obtain ⟨hw, hlt⟩ := visit_mem_tasksAt.mp hw
    exact hround w hw hlt
  · exact hrest w hw

/-! ### Soundness -/

/-- What holds of every place visited, and what of every end, if the rounds keep it. -/
theorem mem_drain {greedy : Bool} {round : Place → List Place} (Visited Ended : Place → Prop)
    (hstop : ∀ v, Visited v → Ended v)
    (hround : ∀ v, Visited v → ∀ e ∈ round v,
      if v.offset < e.offset then Visited e else Ended e)
    (room seen : Nat) (tasks : List Task) (found : List Place)
    (hvisit : ∀ v, .visit v ∈ tasks → Visited v) (hfinish : ∀ e, .finish e ∈ tasks → Ended e)
    (hfound : ∀ e ∈ found, Ended e) :
    ∀ e ∈ drain greedy round room seen tasks found, Ended e := by
  induction room generalizing seen tasks found with
  | zero => exact hfound
  | succ room ih =>
      obtain ⟨done, -, hmem, hnext⟩ := nextVisit_eq seen tasks found
      rw [drain]
      split
      next found' heq =>
        simp only [heq] at hmem hnext
        intro e he
        rcases (hmem e).mp he with he | he
        · exact hfound e he
        · exact hfinish e (hnext ▸ he)
      next v rest found' heq =>
        simp only [heq] at hmem hnext
        obtain ⟨htasks, -⟩ := hnext
        have hv : Visited v := hvisit v (by simp [htasks])
        apply ih
        · refine forall_visit_next (fun e he hlt => ?_) fun w hw => hvisit w (by simp [htasks, hw])
          have := hround v hv e he
          rwa [if_pos hlt] at this
        · intro w hw
          rcases List.mem_append.mp hw with hw | hw
          · rcases finish_mem_tasksAt.mp hw with rfl | ⟨hw, hlt⟩
            · exact hstop w hv
            · have := hround v hv w hw
              rwa [if_neg hlt] at this
          · exact hfinish w (by simp [htasks, hw])
        · intro e he
          rcases (hmem e).mp he with he | he
          · exact hfound e he
          · exact hfinish e (by simp [htasks, he])

/-! ### Completeness -/

/-- The offsets from `start` on, `length` of them, that are not among those seen. -/
def unseen (start length seen : Nat) : Finset Nat :=
  (Finset.range length).filter fun i => ¬seen.testBit (start + i)

theorem testBit_mark (seen offset i : Nat) :
    (seen ||| 1 <<< offset).testBit i ↔ seen.testBit i ∨ i = offset := by
  rw [Nat.one_shiftLeft, Nat.testBit_or, Nat.testBit_two_pow, Bool.or_eq_true,
    decide_eq_true_eq]
  exact or_congr Iff.rfl eq_comm

theorem card_unseen_mark {start length seen offset : Nat} (hstart : start ≤ offset)
    (hlen : offset < start + length) (hbit : ¬seen.testBit offset) :
    (unseen start length (seen ||| 1 <<< offset)).card < (unseen start length seen).card := by
  apply Finset.card_lt_card
  rw [Finset.ssubset_iff_of_subset]
  · refine ⟨offset - start, ?_, ?_⟩
    · simp only [unseen, Finset.mem_filter, Finset.mem_range]
      rw [Nat.add_sub_cancel' hstart]
      exact ⟨by omega, hbit⟩
    · simp only [unseen, Finset.mem_filter, testBit_mark]
      omega
  · intro i hi
    simp only [unseen, Finset.mem_filter, testBit_mark] at hi ⊢
    exact ⟨hi.1, fun h => hi.2 (.inl h)⟩

/-- Every visited offset stands for a place that is an end and whose rounds lead to visited
offsets or to ends. -/
def Closed (round : Place → List Place) (Visits : Place → Prop) (visited : Nat → Prop)
    (ends : List Place) (offset : Nat) : Prop :=
  ∃ v, v.offset = offset ∧ Visits v ∧ v ∈ ends ∧
    ∀ e ∈ round v, if v.offset < e.offset then visited e.offset else e ∈ ends

/-- What a search that is at some tasks comes to: the offsets visited in the end, and the ends. -/
structure Explored (round : Place → List Place) (Visits : Place → Prop) (visited : Nat → Prop)
    (ends : List Place) (seen : Nat) (tasks : List Task) (found : List Place) : Prop where
  marked : ∀ i, seen.testBit i → visited i
  visit : ∀ v, .visit v ∈ tasks → visited v.offset
  finish : ∀ e, .finish e ∈ tasks → e ∈ ends
  kept : ∀ e ∈ found, e ∈ ends
  closed : ∀ i, visited i → ¬seen.testBit i → Closed round Visits visited ends i

namespace Explored

variable {round : Place → List Place} {Visits : Place → Prop} {visited : Nat → Prop}
  {ends found : List Place} {seen : Nat} {tasks : List Task}

theorem stop (round : Place → List Place) (Visits : Place → Prop) (seen : Nat)
    (found : List Place) :
    Explored round Visits (fun i => seen.testBit i) found seen [] found where
  marked := fun _ h => h
  visit := fun _ h => absurd h List.not_mem_nil
  finish := fun _ h => absurd h List.not_mem_nil
  kept := fun _ h => h
  closed := fun _ h h' => absurd h h'

/-- Tasks that visit nothing new only add the ends they stand for. -/
theorem skip {done : List Task} {found' : List Place}
    (hseen : ∀ v, .visit v ∈ done → seen.testBit v.offset)
    (hmem : ∀ e, e ∈ found' ↔ e ∈ found ∨ .finish e ∈ done)
    (h : Explored round Visits visited ends seen tasks found') :
    Explored round Visits visited ends seen (done ++ tasks) found where
  marked := h.marked
  visit := by
    intro v hv
    rcases List.mem_append.mp hv with hv | hv
    · exact h.marked _ (hseen v hv)
    · exact h.visit v hv
  finish := by
    intro e he
    rcases List.mem_append.mp he with he | he
    · exact h.kept e ((hmem e).mpr (.inr he))
    · exact h.finish e he
  kept := fun e he => h.kept e ((hmem e).mpr (.inl he))
  closed := h.closed

/-- A place is visited: its offset is marked, and its rounds are among the tasks that follow. -/
theorem mark {greedy : Bool} {v : Place} (hv : Visits v)
    (h : Explored round Visits visited ends (seen ||| 1 <<< v.offset)
      (tasksAt greedy round v ++ tasks) found) :
    Explored round Visits visited ends seen (.visit v :: tasks) found where
  marked := fun i hi => h.marked i ((testBit_mark _ _ _).mpr (.inl hi))
  visit := by
    intro w hw
    rcases List.mem_cons.mp hw with hw | hw
    · cases hw
      exact h.marked _ ((testBit_mark _ _ _).mpr (.inr rfl))
    · exact h.visit w (List.mem_append_right _ hw)
  finish := by
    intro e he
    rcases List.mem_cons.mp he with he | he
    · cases he
    · exact h.finish e (List.mem_append_right _ he)
  kept := h.kept
  closed := by
    intro i hi hnot
    by_cases hiv : i = v.offset
    · refine ⟨v, hiv.symm, hv, ?_, fun e he => ?_⟩
      · exact h.finish v (List.mem_append_left _ (finish_mem_tasksAt.mpr (.inl rfl)))
      · split
        next hlt => exact h.visit e (List.mem_append_left _ (visit_mem_tasksAt.mpr ⟨he, hlt⟩))
        next hlt =>
          exact h.finish e (List.mem_append_left _ (finish_mem_tasksAt.mpr (.inr ⟨he, hlt⟩)))
    · exact h.closed i hi (by rw [testBit_mark]; tauto)

end Explored

theorem drain_explored (greedy : Bool) {round : Place → List Place} (Visits : Place → Prop)
    (start length : Nat) (hrange : ∀ v, Visits v → start ≤ v.offset ∧ v.offset < start + length)
    (hround : ∀ v, Visits v → ∀ e ∈ round v, v.offset < e.offset → Visits e)
    (room seen : Nat) (tasks : List Task) (found : List Place)
    (hvisit : ∀ v, .visit v ∈ tasks → Visits v) (hroom : (unseen start length seen).card < room) :
    ∃ visited, Explored round Visits visited (drain greedy round room seen tasks found)
      seen tasks found := by
  induction room generalizing seen tasks found with
  | zero => omega
  | succ room ih =>
      obtain ⟨done, hseen, hmem, hnext⟩ := nextVisit_eq seen tasks found
      rw [drain]
      split
      next found' heq =>
        simp only [heq] at hmem hnext
        subst hnext
        rw [← List.append_nil tasks]
        exact ⟨_, (Explored.stop round Visits seen found').skip hseen hmem⟩
      next v rest found' heq =>
        simp only [heq] at hmem hnext
        obtain ⟨rfl, hbit⟩ := hnext
        have hv : Visits v := hvisit v (by simp)
        obtain ⟨hlow, hhigh⟩ := hrange v hv
        have hfewer := card_unseen_mark hlow hhigh hbit
        obtain ⟨visited, hexplored⟩ :=
          ih (seen ||| 1 <<< v.offset) (tasksAt greedy round v ++ rest) found'
            (forall_visit_next (hround v hv) fun w hw => hvisit w (by simp [hw])) (by omega)
        exact ⟨visited, (hexplored.mark hv).skip hseen hmem⟩

/-! ### The ends of a repetition -/

section

variable {round : Place → List Place} {R : Readings}

theorem rounds_of_mem_starEnds {greedy : Bool}
    (hsound : ∀ s, ∀ e ∈ round s, ∃ t g, s.Reaches t g e ∧ R s.before t e.rest g)
    {s e : Place} (h : e ∈ starEnds greedy round s) :
    ∃ t g, s.Reaches t g e ∧ Rounds R s.before t e.rest g := by
  -- a place visited is one from which any further rounds are rounds from the beginning
  let Visited : Place → Prop := fun v => ∃ t g, s.Reaches t g v ∧ ∀ u r h,
    v.rest = u ++ r → Rounds R v.before u r h → Rounds R s.before (t ++ u) r (h ++ g)
  refine mem_drain Visited (fun e => ∃ t g, s.Reaches t g e ∧ Rounds R s.before t e.rest g)
    ?_ ?_ (s.rest.length + 2) 0 [.visit s] [] ?_ (by simp) (by simp) e (List.mem_reverse.mp h)
  · rintro v ⟨t, g, hv, hgo⟩
    exact ⟨t, g, hv, by simpa using hgo [] v.rest [] rfl .stop⟩
  · rintro v ⟨t, g, hv, hgo⟩ m hm
    obtain ⟨u, k, hm, hR⟩ := hsound v m hm
    have hoff := hm.offset
    split
    next hlt =>
      refine ⟨t ++ u, k ++ g, hv.trans hm, ?_⟩
      intro w r h hw hrounds
      have hu : u ≠ [] := by
        rintro rfl
        simp at hoff
        omega
      rw [List.append_assoc, ← List.append_assoc h]
      refine hgo (u ++ w) r (h ++ k) (by rw [hm.rest, hw, List.append_assoc]) ?_
      exact .round (hw ▸ hR) hu (hm.before ▸ hrounds)
    next hlt =>
      obtain rfl : u = [] := by
        rw [← List.length_eq_zero_iff]
        omega
      refine ⟨t ++ [], k ++ g, hv.trans hm, ?_⟩
      exact hgo [] m.rest k hm.rest (.pause hR)
  · intro v hv
    cases List.mem_singleton.mp hv
    exact ⟨[], [], .refl s, fun u r h _ hrounds => by simpa using hrounds⟩

/-- Rounds from a visited offset end at an end, if the visited offsets are closed. -/
theorem exists_mem_of_closed {s : Place} {visited : Nat → Prop} {ends : List Place}
    (hclosed : ∀ i, visited i → Closed round (fun v => ∃ t g, s.Reaches t g v) visited ends i)
    (hcomplete : ∀ s t r g, s.rest = t ++ r → R s.before t r g →
      ∃ e ∈ round s, e.offset = s.offset + t.length)
    {b : Option Char} {t r u : Text} {g : Groups} (h : Rounds R b t r g)
    (hu : s.rest = u ++ (t ++ r)) (hb : b = behind s.before u)
    (hvisited : visited (s.offset + u.length)) :
    ∃ e ∈ ends, e.offset = s.offset + u.length + t.length := by
  induction h generalizing u with
  | stop =>
      obtain ⟨v, hoff, -, hmem, -⟩ := hclosed _ hvisited
      exact ⟨v, hmem, hoff⟩
  | @pause b r g hR =>
      obtain ⟨v, hoff, ⟨t', g', hv⟩, -, hgo⟩ := hclosed _ hvisited
      obtain ⟨rfl, hrest⟩ := hv.eq_of_length hu (by have := hv.offset; omega)
      obtain ⟨e, he, heoff⟩ := hcomplete v [] r g hrest (by rw [hv.before, ← hb]; exact hR)
      have hend := hgo e he
      rw [if_neg (by simp [heoff])] at hend
      exact ⟨e, hend, by rw [heoff, hoff]⟩
  | @round b t w r g k hR ht _ ih =>
      obtain ⟨v, hoff, ⟨t', g', hv⟩, -, hgo⟩ := hclosed _ hvisited
      rw [List.append_assoc] at hu
      obtain ⟨rfl, hrest⟩ := hv.eq_of_length hu (by have := hv.offset; omega)
      obtain ⟨e, he, heoff⟩ := hcomplete v t (w ++ r) g hrest
        (by rw [hv.before, ← hb]; exact hR)
      have hpos := List.length_pos_iff.mpr ht
      have hnext := hgo e he
      rw [if_pos (by omega)] at hnext
      obtain ⟨x, hx, hxoff⟩ := ih (u := t' ++ t) (by rw [hu, List.append_assoc])
        (by rw [behind_append, hb])
        (by rwa [heoff, hoff, Nat.add_assoc, ← List.length_append] at hnext)
      refine ⟨x, hx, ?_⟩
      rw [hxoff, List.length_append, List.length_append]
      omega

theorem exists_mem_starEnds {greedy : Bool}
    (hsound : ∀ s, ∀ e ∈ round s, ∃ t g, s.Reaches t g e ∧ R s.before t e.rest g)
    (hcomplete : ∀ s t r g, s.rest = t ++ r → R s.before t r g →
      ∃ e ∈ round s, e.offset = s.offset + t.length)
    {s : Place} {t r : Text} {g : Groups} (hs : s.rest = t ++ r)
    (h : Rounds R s.before t r g) :
    ∃ e ∈ starEnds greedy round s, e.offset = s.offset + t.length := by
  obtain ⟨visited, hexplored⟩ :=
    drain_explored greedy (fun v => ∃ t g, s.Reaches t g v) s.offset (s.rest.length + 1)
      (by
        rintro v ⟨t, g, hv⟩
        have hrest := congrArg List.length hv.rest
        rw [List.length_append] at hrest
        have hoff := hv.offset
        omega)
      (by
        rintro v ⟨t, g, hv⟩ e he -
        obtain ⟨u, k, hu, -⟩ := hsound v e he
        exact ⟨t ++ u, k ++ g, hv.trans hu⟩)
      (s.rest.length + 2) 0 [.visit s] []
      (by
        intro v hv
        cases List.mem_singleton.mp hv
        exact ⟨[], [], .refl s⟩)
      (by
        refine lt_of_le_of_lt (Finset.card_filter_le _ _) ?_
        simp)
  have hclosed : ∀ i, visited i → Closed round (fun v => ∃ t g, s.Reaches t g v) visited
      (drain greedy round (s.rest.length + 2) 0 [.visit s] []) i :=
    fun i hi => hexplored.closed i hi (by simp)
  obtain ⟨e, he, hoff⟩ := exists_mem_of_closed hclosed hcomplete h (u := []) hs rfl
    (hexplored.visit s (by simp))
  exact ⟨e, List.mem_reverse.mpr he, hoff⟩

end

end Manuscript.Pattern
