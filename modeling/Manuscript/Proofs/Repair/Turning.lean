import Manuscript.Proofs.Repair.Markup
import Manuscript.Proofs.Repair.Passes

/-!
A rule at work on a rendering.

`Turns` follows the search through one part of a text: what the part becomes,
with how many hits, and that the search goes on right behind it. Parts are put
together, so a rendering is turned along its markup. All that a rule has to
show for it is what it does with a wrapped command (`Unwraps`): if it matches
there, it activates the whole command and nothing more.
-/

namespace Manuscript.Repair

open Pattern Markup
open Standard (marker escapedOpen escapedClose marked)

/-- The patterns read a text right behind a marker. -/
def ReadsBehind (ps : List Pattern) (u r : Text) (g : Groups) : Prop :=
  (concat ps).Reads (some '\x7d') u r g

theorem reads_marked {ps : List Pattern} {b : Option Char} {t r : Text} {g : Groups} :
    (concat (word marker :: ps)).Reads b t r g ↔
      ∃ u, t = marker ++ u ∧ ReadsBehind ps u r g := by
  have hbehind : behind b marker = some '\x7d' := by
    rw [behind, show marker.getLast? = some '\x7d' by decide, Option.some_or]
  rw [reads_concat_cons]
  constructor
  · rintro ⟨_, u, _, g, rfl, rfl, ⟨rfl, rfl⟩, h⟩
    rw [hbehind] at h
    exact ⟨u, rfl, by rwa [List.append_nil]⟩
  · rintro ⟨u, rfl, h⟩
    refine ⟨marker, u, [], g, rfl, by simp, ⟨rfl, rfl⟩, ?_⟩
    rw [hbehind]
    exact h

theorem readsSome_marked (ps : List Pattern) : (concat (word marker :: ps)).ReadsSome := by
  intro b t r g h
  obtain ⟨u, rfl, -⟩ := reads_marked.mp h
  exact List.append_ne_nil_of_left_ne_nil (by decide) u

/-- In front of `k`, the text `t` becomes `u` with `n` hits. -/
def Turns (ps : List Pattern) (new : Template) (k t u : Text) (n : Nat) : Prop :=
  ∀ s : Place, s.rest = t ++ k → s.groups = [] → ∃ e : Place, e.rest = k ∧ e.groups = [] ∧
    new.replaceIn (cut (concat (word marker :: ps)) s) =
      (u ++ (new.replaceIn (cut (concat (word marker :: ps)) e)).1,
        n + (new.replaceIn (cut (concat (word marker :: ps)) e)).2)

namespace Turns

variable {ps : List Pattern} {new : Template} {k t u v w : Text} {m n : Nat}

theorem nil : Turns ps new k [] [] 0 :=
  fun s hs hg => ⟨s, hs, hg, by simp⟩

theorem append (ht : Turns ps new (v ++ k) t u m) (hv : Turns ps new k v w n) :
    Turns ps new k (t ++ v) (u ++ w) (m + n) := by
  intro s hs hg
  obtain ⟨x, hx, hxg, hst⟩ := ht s (by rw [hs, List.append_assoc]) hg
  obtain ⟨e, he, heg, hsv⟩ := hv x hx hxg
  refine ⟨e, he, heg, ?_⟩
  rw [hst, hsv, List.append_assoc, Nat.add_assoc]

theorem kept {c : Char} (h : ∀ v r g, c :: k = marker ++ (v ++ r) → ¬ReadsBehind ps v r g) :
    Turns ps new k [c] [c] 0 := by
  intro s hs hg
  have hs : s.rest = c :: k := hs
  have hnone : endAt? (concat (word marker :: ps)) s = none := by
    rw [endAt?_eq_none_iff, hs]
    rintro ⟨_, r, g, hr, hreads⟩
    obtain ⟨v, rfl, hv⟩ := reads_marked.mp hreads
    exact h v r g (by rw [hr, List.append_assoc]) hv
  refine ⟨s.past c k, rfl, hg, ?_⟩
  rw [cut_kept (readsSome_marked ps) hs hnone, replaceIn_kept, Nat.zero_add]
  rfl

theorem char {c : Char} (h : ¬marker <+: c :: k) : Turns ps new k [c] [c] 0 :=
  kept fun _ _ _ hk _ => h ⟨_, hk.symm⟩

theorem quiet (h : '\\' ∉ t) : Turns ps new k t t 0 := by
  induction t with
  | nil => exact nil
  | cons c t ih =>
      obtain ⟨hc, ht⟩ := not_or.mp (List.mem_cons.not.mp h)
      refine append (t := [c]) (u := [c]) (m := 0) (n := 0) (char ?_) (ih ht)
      rintro ⟨r, hr⟩
      exact hc (List.cons.inj hr).1

/-- A match becomes its replacement, if every match that can begin here is the same. -/
theorem found (hmatch : ∃ v r g, t ++ k = marker ++ (v ++ r) ∧ ReadsBehind ps v r g)
    (hall : ∀ v r g, t ++ k = marker ++ (v ++ r) → ReadsBehind ps v r g →
      marker ++ v = t ∧ new.fill ⟨t, g⟩ = u) (hne : u ≠ t) : Turns ps new k t u 1 := by
  intro s hs hg
  cases he : endAt? (concat (word marker :: ps)) s with
  | none =>
      obtain ⟨v, r, g, hr, hreads⟩ := hmatch
      rw [endAt?_eq_none_iff, hs] at he
      exact absurd ⟨marker ++ v, r, g, by rw [hr, List.append_assoc],
        reads_marked.mpr ⟨v, rfl, hreads⟩⟩ he
  | some e =>
      obtain ⟨_, g, hreach, hreads, hfound⟩ := foundBetween_eq hg he
      obtain ⟨v, rfl, hv⟩ := reads_marked.mp hreads
      have hrest : t ++ k = marker ++ (v ++ e.rest) := by
        rw [← hs, hreach.rest, List.append_assoc]
      obtain ⟨rfl, hfill⟩ := hall v e.rest g hrest hv
      refine ⟨{ e with groups := [] }, ?_, rfl, ?_⟩
      · rw [List.append_assoc] at hrest
        exact (List.append_cancel_left (List.append_cancel_left hrest)).symm
      · rw [cut_found (readsSome_marked ps) he, hfound, replaceIn_found, hfill, if_neg hne,
          Nat.add_comm]

end Turns

theorem Rule.rewrite_eq {rule : Rule} {ps : List Pattern} {t u : Text} {n : Nat}
    (hrule : rule.finder = marked ps) (h : Turns ps rule.replacement [] t u n) :
    rule.rewrite t = (u, n) := by
  obtain ⟨e, he, -, heq⟩ := h (.ofText t) (List.append_nil t).symm rfl
  rw [cut_stop (readsSome_marked ps) he] at heq
  rw [Rule.rewrite, hrule, marked, Finder.pieces, pieces_eq_cut, heq]
  simp [Template.replaceIn]

/-! ### Renderings -/

theorem no_marker {c : Char} {k : Text} (hc : c ≠ 't') : ¬marker <+: '\\' :: c :: k := by
  rintro ⟨r, hr⟩
  obtain ⟨-, hr⟩ := List.cons.inj hr
  exact hc (List.cons.inj hr).1.symm

theorem CommandName.not_mem (name : CommandName) : '\\' ∉ name.text :=
  fun h => absurd (name.letters _ h) (by decide)

theorem CommandName.no_marker (name : CommandName) (k : Text) :
    ¬marker <+: '\\' :: (name.text ++ '\x7b' :: k) := by
  rintro ⟨r, hr⟩
  obtain ⟨-, hr⟩ := List.cons.inj hr
  have hr : "textbackslash".toList ++ ('\x7b' :: '\x7d' :: r) = name.text ++ '\x7b' :: k := hr
  have hletters : CharClass.letter.All "textbackslash".toList := by decide
  have hbrace : CharClass.letter.has '\x7b' = false := by decide
  exact name.notMarker (CharClass.run_unique hletters name.letters (CharClass.stops_cons hbrace _)
    (CharClass.stops_cons hbrace _) hr).1.symm

theorem marker_eq : marker = '\\' :: markerName := by decide

theorem activated_ne_wrapped (name x : Text) : activated name x ≠ wrapped name x := by
  intro h
  have := congrArg List.length h
  simp only [activated, wrapped, marker_eq, escapedOpen, escapedClose, List.length_append,
    List.length_cons, List.length_nil] at this
  omega

section

variable {ps : List Pattern} {new : Template} {k x y : Text} {n : Nat}

theorem Turns.activated (name : CommandName) (h : Turns ps new ('\x7d' :: k) x y n) :
    Turns ps new k (activated name.text x) (activated name.text y) n := by
  have hback : Turns ps new (name.text ++ '\x7b' :: (x ++ ['\x7d']) ++ k) ['\\'] ['\\'] 0 := by
    refine .char ?_
    simpa using name.no_marker (x ++ '\x7d' :: k)
  have hopen :
      Turns ps new (x ++ ['\x7d'] ++ k) (name.text ++ ['\x7b']) (name.text ++ ['\x7b']) 0 :=
    .quiet (by simp [name.not_mem])
  have hclose : Turns ps new k ['\x7d'] ['\x7d'] 0 := .quiet (by decide)
  have := hopen.append (h.append hclose)
  simp only [List.append_assoc, List.singleton_append, Nat.add_zero, Nat.zero_add] at this
  have := hback.append (t := ['\\']) this
  simpa [Repair.activated, Nat.zero_add] using this

theorem Turns.brace {c : Char} (ht : c ≠ 't') (hc : c ≠ '\\') :
    Turns ps new k ['\\', c] ['\\', c] 0 :=
  (char (no_marker ht)).append (t := ['\\']) (v := [c]) (quiet (by simpa using hc.symm))

/-- A wrapped command that the rule does not match stays wrapped. -/
theorem Turns.wrapped (name : CommandName)
    (hmiss : ∀ v r g, wrapped name.text x ++ k = marker ++ (v ++ r) → ¬ReadsBehind ps v r g)
    (h : Turns ps new (escapedClose ++ k) x y n) :
    Turns ps new k (wrapped name.text x) (wrapped name.text y) n := by
  have hback : Turns ps new (markerName ++ (name.text ++ (escapedOpen ++ (x ++ escapedClose))) ++ k)
      ['\\'] ['\\'] 0 := by
    refine .kept fun v r g heq => hmiss v r g ?_
    rw [← heq]
    rfl
  have hname : Turns ps new (escapedOpen ++ (x ++ escapedClose) ++ k) (markerName ++ name.text)
      (markerName ++ name.text) 0 := by
    refine .quiet (List.mem_append.not.mpr (not_or.mpr ⟨by decide, name.not_mem⟩))
  have hopen : Turns ps new (x ++ escapedClose ++ k) escapedOpen escapedOpen 0 :=
    .brace (by decide) (by decide)
  have hclose : Turns ps new k escapedClose escapedClose 0 := .brace (by decide) (by decide)
  have := hback.append (t := ['\\']) (hname.append (hopen.append (h.append hclose)))
  rw [Nat.zero_add, Nat.zero_add, Nat.zero_add, Nat.add_zero] at this
  rw [Repair.wrapped, Repair.wrapped, marker_eq]
  simpa only [List.append_assoc, List.cons_append, List.nil_append] using this

end

/-- What a rule does with the wrapped commands of a rendering. -/
structure Unwraps (ps : List Pattern) (new : Template) (lo hi lo' hi' : Nat) : Prop where
  le : hi ≤ hi'
  found : ∀ {name : CommandName} {body : Markup} {x k v r : Text} {n : Nat} {g : Groups},
    Rendered lo hi body x n → lo ≤ body.depth → ¬escapedOpen <+: k →
    wrapped name.text x ++ k = marker ++ (v ++ r) → ReadsBehind ps v r g →
    marker ++ v = wrapped name.text x ∧
      new.fill ⟨wrapped name.text x, g⟩ = activated name.text x ∧
      body.depth ≤ lo ∧ body.depth < hi'
  missed : ∀ {name : CommandName} {body : Markup} {x k : Text} {n : Nat},
    Rendered lo hi body x n → lo ≤ body.depth →
    (∀ v r g, wrapped name.text x ++ k = marker ++ (v ++ r) → ¬ReadsBehind ps v r g) →
    lo' ≤ body.depth

section

variable {ps : List Pattern} {new : Template} {lo hi lo' hi' : Nat}

/-- A rule turns a rendering into a rendering, and its hits are the commands it activates. -/
theorem Unwraps.turns (hps : Unwraps ps new lo hi lo' hi') {d : Markup} {t : Text}
    {n : Nat} (h : Rendered lo hi d t n) {k : Text} (hk : ¬escapedOpen <+: k) :
    ∃ u m, Turns ps new k t u m ∧ Rendered lo' hi' d u (n + m) := by
  -- what follows is general, since a body is turned in front of its closing brace
  induction h generalizing k with
  | done => exact ⟨[], 0, .nil, .done⟩
  | @run run _ _ _ _ ih =>
      obtain ⟨u, m, hturn, hu⟩ := ih hk
      have hrun : '\\' ∉ run.text := fun h => absurd (run.plain _ h) (by decide)
      exact ⟨_, _, (Turns.quiet hrun).append hturn, by simpa using Rendered.run hu⟩
  | @active name body rest x t m n hhi hbody hrest ihb ihr =>
      have hclose : ¬escapedOpen <+: '\x7d' :: (t ++ k) := not_open_of_char (by decide)
      obtain ⟨y, i, hx, hy⟩ := ihb hclose
      obtain ⟨u, j, ht, hu⟩ := ihr hk
      refine ⟨activated name.text y ++ u, i + j, (hx.activated name).append ht, ?_⟩
      rw [show m + 1 + n + (i + j) = m + i + 1 + (n + j) by omega]
      exact .active (Nat.lt_of_lt_of_le hhi hps.le) hy hu
  | @wrapped name body rest x t m n hlo hbody hrest ihb ihr =>
      have htail := hrest.not_open hk
      obtain ⟨u, j, ht, hu⟩ := ihr hk
      by_cases hmatch : ∃ v r g, wrapped name.text x ++ (t ++ k) = marker ++ (v ++ r) ∧
          ReadsBehind ps v r g
      · -- the body of a command that is matched is active throughout, and is written again as it is
        obtain ⟨v, r, g, heq, hreads⟩ := hmatch
        obtain ⟨-, -, hle, hlt⟩ := hps.found hbody hlo htail heq hreads
        obtain ⟨rfl, rfl⟩ := hbody.eq_text hle
        have hfound : Turns ps new (t ++ k) (wrapped name.text body.text)
            (activated name.text body.text) 1 := by
          refine .found ⟨v, r, g, heq, hreads⟩ ?_ (activated_ne_wrapped _ _)
          intro v r g heq hreads
          obtain ⟨hv, hfill, -, -⟩ := hps.found hbody hlo htail heq hreads
          exact ⟨hv, hfill⟩
        refine ⟨activated name.text body.text ++ u, 1 + j, hfound.append ht, ?_⟩
        rw [show body.commands + n + (1 + j) = body.commands + 1 + (n + j) by omega]
        exact .active hlt (.text lo' hlt.le) hu
      · -- otherwise the search passes the marker and goes on in the body
        have hmiss : ∀ v r g, wrapped name.text x ++ (t ++ k) = marker ++ (v ++ r) →
            ¬ReadsBehind ps v r g := fun v r g heq hreads => hmatch ⟨v, r, g, heq, hreads⟩
        have hclose : ¬escapedOpen <+: escapedClose ++ (t ++ k) := not_open_of_escaped (by decide)
        obtain ⟨y, i, hx, hy⟩ := ihb hclose
        refine ⟨wrapped name.text y ++ u, i + j, (hx.wrapped name hmiss).append ht, ?_⟩
        rw [show m + n + (i + j) = m + i + (n + j) by omega]
        exact .wrapped (hps.missed hbody hlo hmiss) hy hu

theorem Unwraps.rewrite {rule : Rule} (hrule : rule.finder = marked ps)
    (hps : Unwraps ps rule.replacement lo hi lo' hi') {d : Markup} {t : Text} {n : Nat}
    (h : Rendered lo hi d t n) :
    Rendered lo' hi' d (rule.rewrite t).1 (n + (rule.rewrite t).2) := by
  obtain ⟨u, m, hturn, hu⟩ := hps.turns h (k := []) (by decide)
  rwa [rule.rewrite_eq hrule hturn]

end

end Manuscript.Repair
