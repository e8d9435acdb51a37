import Manuscript.Proofs.Structure.Brackets
import Mathlib.Data.List.Infix

/-!
What the brace check counts.

The braces of a text make a path that goes up at an opening brace and down at a
closing one. The check keeps a depth that does not go below zero, over all
lines. Behind any braces this depth is the height of the path above its lowest
point so far, and each new lowest point is one unexpected brace.
-/

namespace Manuscript.Structure

abbrev Brace := Nat × Char

/-- The braces in the code of a text that no backslash takes out of account. -/
def braces (t : Text) : List Brace :=
  (codeLines t).flatMap fun code => (activeBraces false code.2).map fun c => (code.1, c)

/-- How many more of the braces open than close. -/
def height (e : List Brace) : Int :=
  e.foldl (fun h b => if b.2 = '\x7b' then h + 1 else h - 1) 0

/-- The lowest height on the way through the braces, which begins at zero. -/
def lowest (e : List Brace) : Int :=
  (e.inits.map height).foldl min 0

/-- The line of the brace behind which the height comes to be `h` for the first time. -/
def FirstReaches (e : List Brace) (h : Int) (line : Nat) : Prop :=
  ∃ u c v, e = u ++ (line, c) :: v ∧ height (u ++ [(line, c)]) = h ∧
    ∀ w, w <+: u → height w ≠ h

section

variable {e u : List Brace} {line : Nat}

@[simp] theorem height_nil : height [] = 0 := rfl

theorem height_concat (e : List Brace) (line : Nat) (c : Char) : height (e ++ [(line, c)]) =
    if c = '\x7b' then height e + 1 else height e - 1 :=
  List.foldl_concat ..

@[simp] theorem lowest_nil : lowest [] = 0 := rfl

theorem lowest_concat (b : Brace) : lowest (e ++ [b]) = min (lowest e) (height (e ++ [b])) := by
  rw [lowest, lowest, List.inits_append, List.map_append, List.foldl_append]
  rfl

theorem lowest_le_of_isPrefix (h : u <+: e) : lowest e ≤ height u := by
  induction e using List.reverseRecOn with
  | nil =>
      rw [List.prefix_nil.mp h]
      exact Int.le_refl 0
  | append_singleton e b ih =>
      rw [lowest_concat]
      rcases List.prefix_concat_iff.mp h with rfl | h
      · exact Int.min_le_right _ _
      · exact Int.le_trans (Int.min_le_left _ _) (ih h)

theorem lowest_le_height (e : List Brace) : lowest e ≤ height e :=
  lowest_le_of_isPrefix (List.prefix_refl e)

theorem FirstReaches.append {h : Int} (hfirst : FirstReaches e h line) (v : List Brace) :
    FirstReaches (e ++ v) h line := by
  obtain ⟨u, c, w, rfl, hheight, hbefore⟩ := hfirst
  exact ⟨u, c, w ++ v, by simp, hheight, hbefore⟩

end

/-! ### The check, brace by brace -/

/-- What a brace makes of a depth and the issues found. -/
def meet : Nat × List Issue → Brace → Nat × List Issue
  | (depth, found), (line, c) =>
    if c = '\x7b' then (depth + 1, found)
    else if depth = 0 then (0, .unexpectedClosingBrace line :: found)
    else (depth - 1, found)

theorem readBraces_eq (line : Nat) (t : Text) (depth : Nat) (found : List Issue) :
    readBraces line t depth found =
      ((activeBraces false t).map fun c => (line, c)).foldl meet (depth, found) := by
  induction t, depth, found using readingInduction line with
  | nil => rfl
  | lone => rfl
  | escaped c t depth found ih => exact ih
  | opening t depth found ih => exact ih
  | unexpected t found ih => exact ih
  | closing t depth found ih => exact ih
  | other c t depth found hback hopen hclose ih =>
      rw [activeBraces_other hback hopen hclose, readBraces_other hback hopen hclose, ih]

theorem checkBraces_eq (t : Text) :
    checkBraces t = ((braces t).foldl meet (0, [])).2.reverse ++
      if ((braces t).foldl meet (0, [])).1 = 0 then []
      else [.unclosedBraces ((braces t).foldl meet (0, [])).1] := by
  have hlines : ∀ (codes : List (Nat × Text)) (s : Nat × List Issue),
      codes.foldl (fun s code => readBraces code.1 code.2 s.1 s.2) s =
        (codes.flatMap fun code =>
          (activeBraces false code.2).map fun c => (code.1, c)).foldl meet s := by
    intro codes
    induction codes with
    | nil => exact fun _ => rfl
    | cons code codes ih =>
        intro s
        rw [List.foldl_cons, List.flatMap_cons, List.foldl_append, ← readBraces_eq, ih]
  rw [braces, ← hlines]
  rfl

/-- The outcome of the check is told by the path: the depth is the height above the lowest point,
and the issues are on the lines where the path first came to each height below zero. -/
structure Measured (e : List Brace) (lines : List Nat) (outcome : Nat × List Issue) : Prop where
  depth : (outcome.1 : Int) = height e - lowest e
  found : outcome.2 = (lines.map Issue.unexpectedClosingBrace).reverse
  length : (lines.length : Int) = -lowest e
  first : ∀ k (hk : k < lines.length), FirstReaches e (-(k + 1)) lines[k]

namespace Measured

variable {e : List Brace} {lines : List Nat} {outcome : Nat × List Issue} {line : Nat} {c : Char}

theorem start : Measured [] [] (0, []) where
  depth := rfl
  found := rfl
  length := rfl
  first := fun _ hk => absurd hk (Nat.not_lt_zero _)

theorem above (h : Measured e lines outcome) (b : Brace) (habove : lowest e ≤ height (e ++ [b]))
    {depth : Nat} (hdepth : (depth : Int) - outcome.1 = height (e ++ [b]) - height e) :
    Measured (e ++ [b]) lines (depth, outcome.2) where
  depth := by
    have := h.depth
    rw [lowest_concat, Int.min_eq_left habove]
    omega
  found := h.found
  length := by rw [lowest_concat, Int.min_eq_left habove, h.length]
  first := fun k hk => (h.first k hk).append [b]

/-- A closing brace at depth zero takes the path below its lowest point. -/
theorem below (h : Measured e lines outcome) (hzero : outcome.1 = 0) (hclose : c ≠ '\x7b') :
    Measured (e ++ [(line, c)]) (lines ++ [line])
      (0, .unexpectedClosingBrace line :: outcome.2) := by
  have hdepth := h.depth
  have hheight : height (e ++ [(line, c)]) = lowest e - 1 := by
    rw [height_concat, if_neg hclose]
    omega
  have hlowest : lowest (e ++ [(line, c)]) = lowest e - 1 := by
    rw [lowest_concat, hheight]
    omega
  have hlength := h.length
  refine ⟨?_, ?_, ?_, fun k hk => ?_⟩
  · rw [hheight, hlowest, Int.sub_self]
    rfl
  · rw [h.found, List.map_append, List.reverse_append]
    rfl
  · rw [List.length_append, List.length_singleton, hlowest]
    omega
  · rw [List.length_append, List.length_singleton] at hk
    rcases Nat.lt_succ_iff_lt_or_eq.mp hk with hearlier | rfl
    · rw [List.getElem_append_left hearlier]
      exact (h.first k hearlier).append _
    · -- no height before was as low
      rw [List.getElem_concat_length rfl]
      refine ⟨e, c, [], rfl, by omega, fun w hw => ?_⟩
      have := lowest_le_of_isPrefix hw
      omega

theorem meet (h : Measured e lines outcome) (b : Brace) :
    ∃ lines, Measured (e ++ [b]) lines (meet outcome b) := by
  obtain ⟨depth, found⟩ := outcome
  obtain ⟨line, c⟩ := b
  have hlowest := lowest_le_height e
  have hdepth := h.depth
  rw [Structure.meet]
  split
  next hopen =>
    have hheight := height_concat e line c
    rw [if_pos hopen] at hheight
    refine ⟨lines, h.above (line, c) ?_ ?_⟩
    · omega
    · omega
  next hclose =>
    split
    next hzero => exact ⟨lines ++ [line], h.below hzero hclose⟩
    next hpos =>
      have hheight := height_concat e line c
      rw [if_neg hclose] at hheight
      refine ⟨lines, h.above (line, c) ?_ ?_⟩
      · omega
      · omega

theorem run (e : List Brace) : ∃ lines, Measured e lines (e.foldl Structure.meet (0, [])) := by
  induction e using List.reverseRecOn with
  | nil => exact ⟨[], start⟩
  | append_singleton e b ih =>
      obtain ⟨lines, h⟩ := ih
      rw [List.foldl_append]
      exact h.meet b

end Measured

theorem map_snd_braces (t : Text) : (braces t).map Prod.snd =
    t.lines.flatMap fun line => activeBraces false (Scan.code line) := by
  rw [← flatMap_codeLines, braces, List.map_flatMap]
  refine List.flatMap_congr fun code _ => ?_
  rw [List.map_map]
  exact List.map_id _

/-- The check finds nothing exactly if the braces make a bracketed word. -/
theorem checkBraces_eq_nil_iff_bracketed (t : Text) :
    checkBraces t = [] ↔ Bracketed BracePair ((braces t).map Prod.snd) := by
  have hbraces : ∀ c ∈ t.lines.flatMap fun line => activeBraces false (Scan.code line),
      c = '\x7b' ∨ c = '\x7d' := by
    intro c hc
    obtain ⟨line, -, hc⟩ := List.mem_flatMap.mp hc
    exact mem_activeBraces hc
  rw [checkBraces_eq_nil_iff, map_snd_braces, depthBehind?_eq_zero_iff hbraces,
    Closing.bracketed_iff, List.replicate_zero]

/-- There is an issue for each height below zero that the braces come to, on the line where they
first do, and then one for the braces by which they end above their lowest point. -/
theorem checkBraces_measures (t : Text) :
    let e := braces t
    ∃ lines : List Nat, (lines.length : Int) = -lowest e ∧
      (∀ k (hk : k < lines.length), FirstReaches e (-(k + 1)) lines[k]) ∧
      (checkBraces t = lines.map Issue.unexpectedClosingBrace ++
        if 0 < height e - lowest e then [.unclosedBraces (height e - lowest e).toNat] else []) ∧
      (checkBraces t = [] ↔ Bracketed BracePair (e.map Prod.snd)) := by
  intro e
  obtain ⟨lines, h⟩ := Measured.run e
  refine ⟨lines, h.length, h.first, ?_, checkBraces_eq_nil_iff_bracketed t⟩
  have hdepth : (e.foldl meet (0, [])).1 = (height e - lowest e).toNat := by
    rw [← h.depth, Int.toNat_natCast]
  have hzero : (height e - lowest e).toNat = 0 ↔ ¬0 < height e - lowest e := by omega
  rw [checkBraces_eq, h.found, List.reverse_reverse, hdepth]
  simp only [hzero, ite_not]

end Manuscript.Structure
