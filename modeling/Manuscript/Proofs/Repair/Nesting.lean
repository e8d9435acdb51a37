import Manuscript.Proofs.Repair.Plain

/-!
The rule that activates a command around active commands.

The pattern of its argument reads only texts whose braces are balanced and in
which, outside of braces, a backslash begins a command. The level of a text
states this, and it decides where the argument ends: of two such texts in front
of an escaped brace neither goes on behind the other. A rendering in which all
commands are active is one of them, and any other runs into an escaped opening
brace first.
-/

namespace Manuscript.Repair

open Pattern Standard
open CharClass (letter)
open Markup (Rendered)

/-- How deep in braces a text ends that begins at some depth. There is no such depth where a brace
closes that was not opened, or where a backslash outside of braces does not begin a command. -/
def level : Nat → Text → Option Nat
  | n, [] => some n
  | n, c :: t =>
    if c = '\x7b' then level (n + 1) t
    else if c = '\x7d' then
      match n with
      | 0 => none
      | n + 1 => level n t
    else if c = '\\' ∧ n = 0 ∧ t.head?.any letter.has = false then none
    else level n t

section

variable {m n : Nat} {t u : Text} {c : Char}

@[simp] theorem level_nil (n : Nat) : level n [] = some n := rfl

@[simp] theorem level_open (n : Nat) (t : Text) : level n ('\x7b' :: t) = level (n + 1) t := rfl

@[simp] theorem level_close_succ (n : Nat) (t : Text) : level (n + 1) ('\x7d' :: t) = level n t :=
  rfl

@[simp] theorem level_close_zero (t : Text) : level 0 ('\x7d' :: t) = none := rfl

theorem level_other (hopen : c ≠ '\x7b') (hclose : c ≠ '\x7d') (n : Nat) (t : Text) :
    level n (c :: t) =
      if c = '\\' ∧ n = 0 ∧ t.head?.any letter.has = false then none else level n t :=
  (if_neg hopen).trans (if_neg hclose)

theorem level_append (h : level n t = some m) (u : Text) : level n (t ++ u) = level m u := by
  induction t generalizing n with
  | nil => rw [List.nil_append, Option.some.inj h]
  | cons c t ih =>
      rw [List.cons_append]
      by_cases hopen : c = '\x7b'
      · subst hopen
        exact ih h
      by_cases hclose : c = '\x7d'
      · subst hclose
        cases n with
        | zero => cases h
        | succ n => exact ih h
      rw [level_other hopen hclose] at h ⊢
      split at h
      next => cases h
      next hback =>
        rw [if_neg, ih h]
        -- the character behind a backslash is the same unless the backslash is the last
        cases t with
        | cons d t => exact hback
        | nil => exact fun hu => hback ⟨hu.1, hu.2.1, rfl⟩

theorem level_plain (n : Nat) (h : plain.All t) : level n t = some n := by
  induction t with
  | nil => rfl
  | cons c t ih =>
      obtain ⟨hc, ht⟩ := List.forall_mem_cons.mp h
      obtain ⟨hopen, hclose, hback⟩ := has_plain.mp hc
      rw [level_other hopen hclose, if_neg fun hstray => hback hstray.1, ih ht]

/-- Inside of braces a backslash is a character like others. -/
theorem level_unbraced (n : Nat) (h : unbraced.All t) :
    level (n + 1) t = some (n + 1) := by
  induction t with
  | nil => rfl
  | cons c t ih =>
      obtain ⟨hc, ht⟩ := List.forall_mem_cons.mp h
      rw [unbraced, CharClass.has_noneOf] at hc
      simp only [List.mem_cons, List.not_mem_nil, or_false, not_or] at hc
      rw [level_other hc.1 hc.2, if_neg fun hstray => Nat.succ_ne_zero n hstray.2.1, ih ht]

theorem level_braces (h : level (n + 1) t = some (n + 1)) :
    level n ('\x7b' :: (t ++ ['\x7d'])) = some n := by
  rw [level_open, level_append h, level_close_succ, level_nil]

theorem level_command (n : Nat) {w : Text} (hne : w ≠ []) (hw : letter.All w) :
    level n ('\\' :: w) = some n := by
  obtain ⟨c, w, rfl⟩ := List.exists_cons_of_ne_nil hne
  have hc := hw c List.mem_cons_self
  have hback : level n ('\\' :: c :: w) = level n (c :: w) := by
    rw [level_other (by decide) (by decide), if_neg (by simp [hc])]
  rw [hback, level_plain n (plain_of_letters hw)]

theorem level_activated (name : CommandName) (h : level (n + 1) t = some (n + 1)) :
    level n (activated name.text t) = some n := by
  have := level_append (level_command n name.nonempty name.letters) ('\x7b' :: (t ++ ['\x7d']))
  rwa [level_braces h] at this

/-- Outside of braces a text does not go on with an escaped brace. -/
theorem level_stops {c : Char} {r : Text} (hc : letter.has c = false)
    (ht : level 0 t = some 0) (hu : level 0 (t ++ u) = some 0)
    (h : ∃ k, u ++ k = '\\' :: c :: r) : u = [] := by
  obtain ⟨k, h⟩ := h
  rw [level_append ht] at hu
  cases u with
  | nil => rfl
  | cons d u =>
      obtain ⟨rfl, htail⟩ := List.cons.inj h
      cases u with
      | nil => cases hu
      | cons e u =>
          obtain ⟨rfl, -⟩ := List.cons.inj htail
          rw [level_other (by decide) (by decide), if_pos (by simp [hc])] at hu
          cases hu

/-- Texts of level zero in front of an escaped brace are one. -/
theorem level_unique {c d : Char} {r s : Text} (hc : letter.has c = false)
    (hd : letter.has d = false) (ht : level 0 t = some 0) (hu : level 0 u = some 0)
    (h : t ++ '\\' :: c :: r = u ++ '\\' :: d :: s) : t = u ∧ c = d := by
  obtain rfl : t = u := by
    rcases List.append_eq_append_iff.mp h with ⟨v, rfl, hv⟩ | ⟨v, rfl, hv⟩
    · rw [level_stops hc ht hu ⟨_, hv.symm⟩, List.append_nil]
    · rw [level_stops hd hu ht ⟨_, hv.symm⟩, List.append_nil]
  have h := List.append_cancel_left h
  exact ⟨rfl, (List.cons.inj (List.cons.inj h).2).1⟩

end

/-! ### What the argument's pattern reads -/

section

variable {b : Option Char} {t r : Text} {g : Groups}

theorem reads_inBraces {p : Pattern} : (inBraces p).Reads b t r g ↔
    ∃ a, t = '\x7b' :: (a ++ ['\x7d']) ∧ p.Reads (some '\x7b') a ('\x7d' :: r) g := by
  rw [inBraces, reads_concat_cons]
  constructor
  · rintro ⟨_, _, _, _, rfl, rfl, ⟨rfl, rfl⟩, hrest⟩
    obtain ⟨a, _, _, _, rfl, rfl, ha, hclose⟩ := reads_concat_cons.mp hrest
    obtain ⟨rfl, rfl⟩ := reads_single.mp hclose
    exact ⟨a, rfl, by simpa using ha⟩
  · rintro ⟨a, rfl, ha⟩
    refine ⟨['\x7b'], a ++ ['\x7d'], [], g, rfl, by simp, ⟨rfl, rfl⟩, ?_⟩
    exact reads_concat_cons.mpr ⟨a, ['\x7d'], g, [], rfl, rfl, ha, ⟨rfl, rfl⟩⟩

theorem level_rounds {R : Readings} {n : Nat}
    (hR : ∀ b t r g, R b t r g → level n t = some n) (h : Rounds R b t r g) :
    level n t = some n := by
  induction h with
  | stop => rfl
  | pause => rfl
  | round hround _ _ ih => rw [level_append (hR _ _ _ _ hround), ih]

theorem level_shallow (n : Nat) (h : shallow.Reads b t r g) : level (n + 1) t = some (n + 1) := by
  refine level_rounds (fun b t r g hround => ?_) h
  rcases hround with ⟨⟨c, hc, rfl⟩, -⟩ | hbraces
  · exact level_unbraced n (by simpa using hc)
  · obtain ⟨a, rfl, ha, -⟩ := reads_inBraces.mp hbraces
    exact level_braces (level_unbraced (n + 1) ha)

theorem level_nested (h : nested.Reads b t r g) : level 0 t = some 0 := by
  refine level_rounds (fun b t r g hround => ?_) h
  rcases hround with ⟨⟨c, hc, rfl⟩, -⟩ | hcommand | hbraces
  · exact level_plain 0 (by simpa using hc)
  · obtain ⟨_, _, _, _, rfl, -, ⟨rfl, -⟩, hrest⟩ := reads_concat_cons.mp hcommand
    obtain ⟨w, s, _, _, rfl, -, hname, hstar⟩ := reads_concat_cons.mp hrest
    obtain ⟨hne, hw, -⟩ := reads_many1.mp hname
    have hlevel := level_append (level_command 0 hne hw) s
    rcases reads_maybe.mp (reads_single.mp hstar) with ⟨rfl, -⟩ | ⟨rfl, -⟩
    · rw [List.singleton_append, ← List.cons_append, hlevel]
      decide
    · rw [List.singleton_append, ← List.cons_append, hlevel]
      decide
  · obtain ⟨a, rfl, ha⟩ := reads_inBraces.mp hbraces
    exact level_braces (level_shallow 0 ha)

theorem rounds_append {R : Readings} {u : Text} (hu : ∀ c ∈ u, ∀ b r, R b [c] r [])
    (h : Rounds R (behind b u) t r []) : Rounds R b (u ++ t) r [] := by
  induction u generalizing b with
  | nil => exact h
  | cons c u ih =>
      obtain ⟨hc, hu⟩ := List.forall_mem_cons.mp hu
      rw [behind_cons] at h
      exact .round (hc _ _) (List.cons_ne_nil _ _) (ih hu h)

end

theorem Markup.plain_text {d : Markup} (hd : d.depth = 0) : plain.All d.text :=
  (Rendered.text 0 (Nat.le_refl _)).plain_of_depth hd

theorem unbraced_of_plain {c : Char} (h : plain.has c = true) : unbraced.has c = true := by
  obtain ⟨hopen, hclose, -⟩ := has_plain.mp h
  simp [unbraced, CharClass.has_noneOf, hopen, hclose]

theorem reads_shallow {d : Markup} (hd : d.depth ≤ 1) (b : Option Char) (r : Text) :
    shallow.Reads b d.text r [] := by
  induction d generalizing b with
  | done => exact .stop
  | run u rest ih =>
      refine rounds_append (fun c hc b r => .inl ⟨⟨c, ?_, rfl⟩, rfl⟩) (ih hd _)
      exact unbraced_of_plain (u.plain c hc)
  | command name body rest _ ihr =>
      simp only [Markup.depth_command, sup_le_iff] at hd
      have hbraces : ∀ b r, (inBraces (many true unbraced)).Reads b
          ('\x7b' :: (body.text ++ ['\x7d'])) r [] := fun b r =>
        reads_inBraces.mpr ⟨body.text, rfl,
          fun c hc => unbraced_of_plain (Markup.plain_text (by omega) c hc), rfl⟩
      have hrest : shallow.Reads (behind b ('\\' :: name.text))
          ('\x7b' :: (body.text ++ ['\x7d']) ++ rest.text) r [] :=
        .round (.inr (hbraces _ _)) (List.cons_ne_nil _ _) (ihr hd.2 _)
      have hname : unbraced.All ('\\' :: name.text) := by
        refine List.forall_mem_cons.mpr ⟨by decide, fun c hc => ?_⟩
        exact unbraced_of_plain (plain_of_letters name.letters c hc)
      have : shallow.Reads b ('\\' :: name.text ++
          ('\x7b' :: (body.text ++ ['\x7d']) ++ rest.text)) r [] :=
        rounds_append (fun c hc b r => .inl ⟨⟨c, hname c hc, rfl⟩, rfl⟩) hrest
      simpa [Markup.text_command, activated] using this

theorem reads_nested {d : Markup} (hd : d.depth ≤ 2) (b : Option Char) (r : Text) :
    nested.Reads b d.text r [] := by
  induction d generalizing b with
  | done => exact .stop
  | run u rest ih =>
      exact rounds_append (fun c hc b r => .inl ⟨⟨c, u.plain c hc, rfl⟩, rfl⟩) (ih hd _)
  | command name body rest _ ihr =>
      simp only [Markup.depth_command, sup_le_iff] at hd
      have hcommand : ∀ b r, (concat [word ['\\'], many1 .letter, maybe (word ['*'])]).Reads b
          (['\\'] ++ (name.text ++ [])) r [] := by
        intro b r
        refine reads_concat_cons.mpr ⟨_, _, [], [], rfl, rfl, ⟨rfl, rfl⟩, ?_⟩
        refine reads_concat_cons.mpr ⟨_, _, [], [], rfl, rfl, ?_, ?_⟩
        · exact reads_many1.mpr ⟨name.nonempty, name.letters, rfl⟩
        · exact reads_single.mpr (reads_maybe.mpr (.inr ⟨rfl, rfl⟩))
      have hbraces : ∀ b r, (inBraces shallow).Reads b ('\x7b' :: (body.text ++ ['\x7d'])) r [] :=
        fun b r => reads_inBraces.mpr ⟨body.text, rfl, reads_shallow (by omega) _ _⟩
      have hrest : nested.Reads (behind b (['\\'] ++ (name.text ++ [])))
          ('\x7b' :: (body.text ++ ['\x7d']) ++ rest.text) r [] :=
        .round (.inr (.inr (hbraces _ _))) (List.cons_ne_nil _ _) (ihr hd.2 _)
      have : nested.Reads b (['\\'] ++ (name.text ++ []) ++
          ('\x7b' :: (body.text ++ ['\x7d']) ++ rest.text)) r [] :=
        .round (.inr (.inl (hcommand b _))) (List.cons_ne_nil _ _) hrest
      simpa [Markup.text_command, activated] using this

/-! ### Bodies of wrapped commands -/

theorem level_text (n : Nat) (d : Markup) : level n d.text = some n := by
  induction d generalizing n with
  | done => rfl
  | run u rest ih => rw [Markup.text_run, level_append (level_plain n u.plain), ih]
  | command name body rest ihb ihr =>
      rw [Markup.text_command, level_append (level_activated name (ihb (n + 1))), ihr]

/-- A rendering in which not all commands are active runs into an escaped opening brace. -/
theorem exists_open {k n : Nat} {d : Markup} {t : Text} (h : Rendered k k d t n) :
    d.depth ≤ k ∨ ∃ u v, t = u ++ (escapedOpen ++ v) ∧ level 0 u = some 0 := by
  induction h with
  | done => exact .inl (Nat.zero_le k)
  | @run run _ _ _ _ ih =>
      rcases ih with hd | ⟨u, v, rfl, hu⟩
      · exact .inl hd
      · refine .inr ⟨run.text ++ u, v, by simp, ?_⟩
        rw [level_append (level_plain 0 run.plain), hu]
  | @active name body rest x t m n hk hbody _ _ ih =>
      rcases ih with hd | ⟨u, v, rfl, hu⟩
      · left
        simp only [Markup.depth_command, sup_le_iff]
        omega
      · obtain ⟨rfl, -⟩ := hbody.eq_text hk.le
        refine .inr ⟨activated name.text body.text ++ u, v, by simp, ?_⟩
        rw [level_append (level_activated name (level_text 1 body)), hu]
  | @wrapped name body rest x t m n =>
      refine .inr ⟨marker ++ name.text, x ++ escapedClose ++ t, by simp [wrapped], ?_⟩
      have hmarker : level 0 marker = some 0 := by decide
      rw [level_append hmarker, level_plain 0 (plain_of_letters name.letters)]

theorem nested_groups {b : Option Char} {t r : Text} {g : Groups} (h : nested.Reads b t r g) :
    g = [] := by
  have hindices : nested.indices = [] := by decide
  refine List.eq_nil_iff_forall_not_mem.mpr fun x hx => ?_
  have := h.mem_indices x hx
  simp [hindices] at this

/-- The rule for active arguments activates the commands whose bodies are active and are nested
no deeper than it can read. -/
theorem unwraps_wrapping (k : Nat) :
    Unwraps [name, word escapedOpen, group 2 nested, word escapedClose] wrapping.replacement
      k k (min (k + 1) 3) (k + 1) where
  le := Nat.le_succ k
  found := by
    intro name body x tail v r n g hbody _ _ heq hreads
    obtain ⟨w, _, _, _, rfl, rfl, hname, hargument⟩ := reads_concat_cons.mp hreads
    obtain ⟨_, _, _, _, rfl, rfl, ⟨rfl, rfl⟩, hgroup⟩ := reads_concat_cons.mp hargument
    obtain ⟨y, _, _, _, rfl, rfl, hy, hclose⟩ := reads_concat_cons.mp hgroup
    obtain ⟨rfl, rfl⟩ := reads_single.mp hclose
    obtain ⟨_, rfl, hnested⟩ := reads_group.mp hy
    obtain rfl := nested_groups hnested
    obtain ⟨hw, rfl⟩ := readsNames_name _ _ _ _ hname
    simp only [wrapped, List.append_assoc, List.append_right_inj] at heq
    obtain ⟨rfl, hrest⟩ := name_eq hw (stops_open _) heq.symm
    rw [List.append_right_inj] at hrest
    have hlevel := level_nested hnested
    -- the argument read is of level zero, and so is what the body has before an escaped brace
    rcases exists_open hbody with hd | ⟨u, z, rfl, hu⟩
    · obtain ⟨rfl, -⟩ := hbody.eq_text hd
      obtain ⟨rfl, -⟩ := level_unique (c := '\x7d') (d := '\x7d') (by decide) (by decide) hlevel
        (level_text 0 body) hrest
      exact ⟨rfl, fill_command _ _ _, hd, by omega⟩
    · rw [List.append_assoc, List.append_assoc] at hrest
      obtain ⟨-, hbrace⟩ := level_unique (c := '\x7d') (d := '\x7b') (by decide) (by decide) hlevel
        hu hrest
      exact absurd hbrace (by decide)
  missed := by
    intro name body x tail n hbody hk hmiss
    by_contra hlt
    have hd : body.depth ≤ k := by omega
    obtain ⟨rfl, -⟩ := hbody.eq_text hd
    refine hmiss (name.text ++ (escapedOpen ++ (body.text ++ escapedClose))) tail
      [(2, body.text), (1, name.text)] (by simp [wrapped]) ?_
    refine reads_concat_cons.mpr ⟨_, _, [(1, name.text)], [(2, body.text)], rfl, rfl,
      reads_name name _ _, ?_⟩
    refine reads_concat_cons.mpr ⟨_, _, [], [(2, body.text)], rfl, rfl, ⟨rfl, rfl⟩, ?_⟩
    refine reads_concat_cons.mpr ⟨_, _, [(2, body.text)], [], rfl, rfl, ?_, ⟨rfl, rfl⟩⟩
    exact reads_group.mpr ⟨[], rfl, reads_nested (by omega) _ _⟩

end Manuscript.Repair
