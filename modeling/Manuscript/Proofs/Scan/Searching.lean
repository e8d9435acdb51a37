import Manuscript.Proofs.Scan.Command

/-!
A search for commands of a kind.

Whether such a command begins at a character depends on the text from there
alone, and so do the pieces from there on. Three equations give the pieces of a
text: nothing is left, no command begins with the next character, or one does.
What is found and what is left over follow the same equations.
-/

namespace Manuscript

namespace Pattern

def Piece.kept? (x : Piece) : Option Char :=
  Piece.casesOn x some fun _ => none

theorem Piece.filterMap_kept (t : Text) : (t.map kept).filterMap kept? = t := by
  rw [List.filterMap_map]
  exact List.filterMap_some

def remaining (p : Pattern) (t : Text) : Text :=
  (pieces p t).filterMap Piece.kept?

end Pattern

namespace Scan

open CharClass Pattern

def Command.found (c : Command) : Found :=
  ⟨c.text, [(1, c.argument)]⟩

@[simp] theorem Command.group_found (c : Command) : c.found.group 1 = c.argument := rfl

/-- Behind a text without closing braces no command begins that was not there before. -/
theorem Command.isPrefix_of_append (c : Command) {t u : Text} (hu : '\x7d' ∉ u)
    (h : c.text <+: t ++ u) : c.text <+: t := by
  obtain ⟨r, hr⟩ := h
  rcases List.append_eq_append_iff.mp hr with ⟨v, ht, -⟩ | ⟨v, htext, hu'⟩
  · exact ⟨v, ht.symm⟩
  · -- otherwise the closing brace of the command would lie in the text behind
    obtain rfl | ⟨v, x, rfl⟩ := List.eq_nil_or_concat' v
    · exact ⟨[], by rw [htext, List.append_nil, List.append_nil]⟩
    · have hlast := congrArg List.getLast? htext
      obtain rfl : '\x7d' = x := by simpa [text_eq_front] using hlast
      exact absurd (hu' ▸ by simp) hu

/-- Induction along a text, from command to command. -/
theorem Command.textInduction (kind : Command → Prop) {motive : Text → Prop} (nil : motive [])
    (kept : ∀ x t, (∀ c, kind c → ¬c.text <+: x :: t) → motive t → motive (x :: t))
    (command : ∀ c t, kind c → motive t → motive (c.text ++ t)) (t : Text) : motive t := by
  induction hn : t.length using Nat.strongRecOn generalizing t with
  | _ n ih =>
      subst hn
      by_cases h : ∃ c, kind c ∧ c.text <+: t
      · obtain ⟨c, hc, r, rfl⟩ := h
        have hpos := List.length_pos_iff.mpr c.text_ne_nil
        exact command c r hc (ih r.length (by rw [List.length_append]; omega) r rfl)
      · cases t with
        | nil => exact nil
        | cons x t =>
            refine kept x t (fun c hc hbegins => h ⟨c, hc, hbegins⟩) ?_
            exact ih t.length (by simp) t rfl

namespace ReadsCommands

variable {p : Pattern} {kind : Command → Prop} (hp : ReadsCommands p kind)
include hp

theorem readsSome : p.ReadsSome := by
  intro b t r g h
  obtain ⟨c, -, rfl, -⟩ := (hp b t r g).mp h
  exact c.text_ne_nil

theorem matchesAt_iff {b : Option Char} {t : Text} :
    p.MatchesAt b t ↔ ∃ c, kind c ∧ c.text <+: t := by
  constructor
  · rintro ⟨u, r, g, rfl, h⟩
    obtain ⟨c, hc, rfl, -⟩ := (hp b u r g).mp h
    exact ⟨c, hc, r, rfl⟩
  · rintro ⟨c, hc, r, rfl⟩
    exact ⟨c.text, r, _, rfl, (hp _ _ _ _).mpr ⟨c, hc, rfl, rfl⟩⟩

theorem cut_cons {s : Place} {x : Char} {t : Text} (hs : s.rest = x :: t)
    (h : ∀ c, kind c → ¬c.text <+: x :: t) : cut p s = .kept x :: cut p (s.past x t) := by
  refine cut_kept hp.readsSome hs (endAt?_eq_none_iff.mpr ?_)
  rw [hs, hp.matchesAt_iff]
  rintro ⟨c, hc, hbegins⟩
  exact h c hc hbegins

theorem cut_command {s : Place} {c : Command} {t : Text} (hc : kind c) (hs : s.rest = c.text ++ t)
    (hg : s.groups = []) :
    ∃ e : Place, e.rest = t ∧ e.groups = [] ∧ cut p s = .found c.found :: cut p e := by
  cases he : endAt? p s with
  | none =>
      rw [endAt?_eq_none_iff, hs, hp.matchesAt_iff] at he
      exact absurd ⟨c, hc, t, rfl⟩ he
  | some e =>
      obtain ⟨_, _, hreach, hreads, hfound⟩ := foundBetween_eq hg he
      obtain ⟨d, -, rfl, rfl⟩ := (hp _ _ _ _).mp hreads
      obtain ⟨rfl, hrest⟩ := Command.text_inj (hs.symm.trans hreach.rest)
      refine ⟨{ e with groups := [] }, hrest.symm, rfl, ?_⟩
      rw [cut_found hp.readsSome he, hfound]
      rfl

theorem cut_eq_pieces {s : Place} (hg : s.groups = []) : cut p s = pieces p s.rest := by
  suffices H : ∀ t, ∀ s e : Place, s.rest = t → e.rest = t → s.groups = [] → e.groups = [] →
      cut p s = cut p e from H s.rest s (.ofText s.rest) rfl rfl hg rfl
  intro t
  induction t using Command.textInduction kind with
  | nil =>
      intro s e hs he _ _
      rw [cut_stop hp.readsSome hs, cut_stop hp.readsSome he]
  | kept x t hnone ih =>
      intro s e hs he hsg heg
      rw [hp.cut_cons hs hnone, hp.cut_cons he hnone]
      exact congrArg _ (ih _ _ rfl rfl hsg heg)
  | command c t hc ih =>
      intro s e hs he hsg heg
      obtain ⟨s', hs', hsg', hcut⟩ := hp.cut_command hc hs hsg
      obtain ⟨e', he', heg', hcut'⟩ := hp.cut_command hc he heg
      rw [hcut, hcut']
      exact congrArg _ (ih s' e' hs' he' hsg' heg')

/-! ### The pieces of a text -/

theorem pieces_nil : pieces p [] = [] :=
  cut_stop hp.readsSome rfl

theorem pieces_cons {x : Char} {t : Text} (h : ∀ c, kind c → ¬c.text <+: x :: t) :
    pieces p (x :: t) = .kept x :: pieces p t := by
  rw [pieces_eq_cut, hp.cut_cons (s := .ofText (x :: t)) rfl h, hp.cut_eq_pieces rfl]
  rfl

theorem pieces_command {c : Command} (hc : kind c) (t : Text) :
    pieces p (c.text ++ t) = .found c.found :: pieces p t := by
  obtain ⟨e, rfl, hg, hcut⟩ := hp.cut_command (s := .ofText (c.text ++ t)) hc rfl rfl
  rw [pieces_eq_cut, hcut, hp.cut_eq_pieces hg]

@[simp] theorem findAll_nil : findAll p [] = [] := by
  rw [findAll, hp.pieces_nil]
  rfl

theorem findAll_cons {x : Char} {t : Text} (h : ∀ c, kind c → ¬c.text <+: x :: t) :
    findAll p (x :: t) = findAll p t := by
  rw [findAll, hp.pieces_cons h]
  rfl

theorem findAll_command {c : Command} (hc : kind c) (t : Text) :
    findAll p (c.text ++ t) = c.found :: findAll p t := by
  rw [findAll, hp.pieces_command hc]
  rfl

@[simp] theorem remaining_nil : remaining p [] = [] := by
  rw [remaining, hp.pieces_nil, List.filterMap_nil]

theorem remaining_cons {x : Char} {t : Text} (h : ∀ c, kind c → ¬c.text <+: x :: t) :
    remaining p (x :: t) = x :: remaining p t := by
  rw [remaining, hp.pieces_cons h]
  rfl

theorem remaining_command {c : Command} (hc : kind c) (t : Text) :
    remaining p (c.text ++ t) = remaining p t := by
  rw [remaining, hp.pieces_command hc]
  rfl

/-! ### What is found -/

theorem findAll_eq_nil_iff (t : Text) : findAll p t = [] ↔ ∀ c, kind c → ¬c.text <:+: t := by
  induction t using Command.textInduction kind with
  | nil => simp [hp.findAll_nil, Command.text_ne_nil]
  | kept x t hnone ih =>
      rw [hp.findAll_cons hnone, ih]
      refine forall₂_congr fun c hc => ?_
      rw [List.infix_cons_iff, not_or]
      exact (and_iff_right (hnone c hc)).symm
  | command c t hc ih =>
      rw [hp.findAll_command hc]
      simp only [List.cons_ne_nil, false_iff, not_forall]
      exact ⟨c, hc, fun h => h ⟨[], t, rfl⟩⟩

theorem findAll_of_notMem {t : Text} (h : '\x7d' ∉ t) : findAll p t = [] := by
  rw [hp.findAll_eq_nil_iff]
  intro c _ hoccurs
  exact h (hoccurs.subset (by simp [Command.text]))

/-- What stands behind the last closing brace does not matter. -/
theorem findAll_append {u : Text} (hu : '\x7d' ∉ u) (t : Text) :
    findAll p (t ++ u) = findAll p t := by
  induction t using Command.textInduction kind with
  | nil => rw [List.nil_append, hp.findAll_nil, hp.findAll_of_notMem hu]
  | kept x t hnone ih =>
      rw [List.cons_append, hp.findAll_cons, hp.findAll_cons hnone, ih]
      exact fun c hc hbegins => hnone c hc (c.isPrefix_of_append hu hbegins)
  | command c t hc ih =>
      rw [List.append_assoc, hp.findAll_command hc, hp.findAll_command hc, ih]

/-! ### What is left over -/

theorem remaining_sublist (t : Text) : (remaining p t).Sublist t := by
  induction t using Command.textInduction kind with
  | nil => rw [hp.remaining_nil]
  | kept x t hnone ih =>
      rw [hp.remaining_cons hnone]
      exact ih.cons_cons x
  | command c t hc ih =>
      rw [hp.remaining_command hc]
      exact ih.trans (List.sublist_append_right _ _)

/-- Everything is left over, or everything up to the first command. -/
theorem remaining_cases (t : Text) :
    remaining p t = t ∨ ∃ w c r, kind c ∧ t = w ++ (c.text ++ r) ∧
      remaining p t = w ++ remaining p r := by
  induction t using Command.textInduction kind with
  | nil => exact .inl hp.remaining_nil
  | kept x t hnone ih =>
      rw [hp.remaining_cons hnone]
      rcases ih with ih | ⟨w, c, r, hc, rfl, hrest⟩
      · exact .inl (congrArg _ ih)
      · exact .inr ⟨x :: w, c, r, hc, rfl, congrArg _ hrest⟩
  | command c t hc _ =>
      exact .inr ⟨[], c, t, hc, rfl, hp.remaining_command hc t⟩

/-- A text that occurs in what is left over occurs in the text itself, or a command stood in the
middle of it. Either way no command begins where it begins. -/
theorem exists_of_infix_remaining {t x : Text} (hx : x ≠ []) (h : x <:+: remaining p t) :
    ∃ v rest, t = v ++ rest ∧ (∀ c, kind c → ¬c.text <+: rest) ∧
      (x <+: rest ∨ ∃ w y c r, w ≠ [] ∧ y ≠ [] ∧ x = w ++ y ∧ kind c ∧
        rest = w ++ (c.text ++ r)) := by
  induction t using Command.textInduction kind with
  | nil =>
      rw [hp.remaining_nil, List.infix_nil] at h
      exact absurd h hx
  | kept a t hnone ih =>
      rw [hp.remaining_cons hnone, List.infix_cons_iff] at h
      rcases h with ⟨r, hr⟩ | h
      · refine ⟨[], a :: t, rfl, hnone, ?_⟩
        rcases hp.remaining_cases t with hall | ⟨w, c, r', hc, rfl, hrest⟩
        · exact .inl ⟨r, by rw [hr, hall]⟩
        · rw [hrest, ← List.cons_append, List.append_eq_append_iff] at hr
          rcases hr with ⟨y, hw, -⟩ | ⟨y, hxy, -⟩
          · exact .inl ⟨y ++ (c.text ++ r'), by rw [← List.append_assoc, ← hw, List.cons_append]⟩
          · by_cases hy : y = []
            · exact .inl ⟨c.text ++ r', by rw [hxy, hy, List.append_nil, List.cons_append]⟩
            · exact .inr ⟨a :: w, y, c, r', List.cons_ne_nil _ _, hy, hxy, hc, rfl⟩
      · obtain ⟨v, rest, rfl, hbegins, hcases⟩ := ih h
        exact ⟨a :: v, rest, rfl, hbegins, hcases⟩
  | command c t hc ih =>
      rw [hp.remaining_command hc] at h
      obtain ⟨v, rest, rfl, hbegins, hcases⟩ := ih h
      exact ⟨c.text ++ v, rest, (List.append_assoc _ _ _).symm, hbegins, hcases⟩

end ReadsCommands

end Scan

end Manuscript
