import Manuscript.Proofs.Repair.Conservation
import Manuscript.Proofs.Repair.Unescaping
import Manuscript.Proofs.Structure.Braces
import Mathlib.Data.List.DropRight
import Mathlib.Data.List.Infix
import Mathlib.Algebra.Group.Nat.Even

/-!
Repair keeps braces balanced.

A step makes a pair of braces active or takes away the pair of a marker, so in
both cases the depth behind it stays. What the step does to the backslashes
must not reach the rest of the text. That it does not is due to the markers: as
long as the word of the marker stands only in markers that no backslash takes
out of account, the state behind a marker is known, and every step leaves the
other markers as they are.
-/

namespace Manuscript.Repair

open Structure (escaping activeBraces depthBehind?)
open Standard (marker escapedOpen escapedClose)

def markerWord : Text :=
  "textbackslash".toList

theorem marker_eq_word : marker = '\\' :: (markerWord ++ ['\x7b', '\x7d']) := by
  decide

theorem not_mem_markerWord :
    '\\' ∉ markerWord ∧ '\x7b' ∉ markerWord ∧ '\x7d' ∉ markerWord := by
  decide

/-- The word of the marker stands only in markers, each behind an even number of backslashes. -/
def MarkersWhole (t : Text) : Prop :=
  ∀ before after, t = before ++ (markerWord ++ after) →
    ∃ x y, before = x ++ ['\\'] ∧ Even (x.rtakeWhile (· == '\\')).length ∧
      after = ['\x7b', '\x7d'] ++ y

/-! ### Where the word of the marker can stand -/

/-- A word does not reach across a character that it does not have. -/
theorem occurs_around_char {x y u v w : Text} {a : Char} (hw : w ≠ []) (ha : a ∉ w)
    (h : x ++ a :: y = u ++ (w ++ v)) :
    (∃ v', x = u ++ (w ++ v') ∧ v = v' ++ a :: y) ∨ ∃ z, u = x ++ a :: z ∧ y = z ++ (w ++ v) := by
  rcases List.append_eq_append_iff.mp h with ⟨z, rfl, hrest⟩ | ⟨z, rfl, hrest⟩
  · cases z with
    | nil =>
        obtain ⟨b, w, rfl⟩ := List.exists_cons_of_ne_nil hw
        obtain rfl : a = b := (List.cons.inj hrest).1
        exact absurd List.mem_cons_self ha
    | cons b z =>
        obtain ⟨rfl, rfl⟩ := List.cons.inj hrest
        exact .inr ⟨z, rfl, rfl⟩
  · rcases List.append_eq_append_iff.mp hrest with ⟨z', rfl, rfl⟩ | ⟨z', rfl, hlast⟩
    · exact .inl ⟨z', rfl, rfl⟩
    · cases z' with
      | nil =>
          obtain rfl : a :: y = v := hlast
          exact .inl ⟨[], by simp, rfl⟩
      | cons b z' =>
          obtain rfl : a = b := (List.cons.inj hlast).1
          exact absurd (List.mem_append_right _ List.mem_cons_self) ha

theorem occurs_around {x y u v w new : Text} (hw : w ≠ []) (hnew : new ≠ [])
    (hforeign : ∀ a ∈ new, a ∉ w) (h : x ++ (new ++ y) = u ++ (w ++ v)) :
    (∃ v', x = u ++ (w ++ v') ∧ v = v' ++ (new ++ y)) ∨
      ∃ z, u = x ++ (new ++ z) ∧ y = z ++ (w ++ v) := by
  induction new generalizing x u with
  | nil => exact absurd rfl hnew
  | cons a new ih =>
      rcases occurs_around_char hw (hforeign a List.mem_cons_self) h with hleft | ⟨z, rfl, hrest⟩
      · exact .inl hleft
      · refine .inr ?_
        by_cases hnil : new = []
        · subst hnil
          exact ⟨z, rfl, hrest⟩
        · have hrestForeign : ∀ b ∈ new, b ∉ w := fun b hb => hforeign b (List.mem_cons_of_mem _ hb)
          rcases ih (x := []) hnil hrestForeign hrest with ⟨v', hx, -⟩ | ⟨z', rfl, hy⟩
          · simp [hw] at hx
          · exact ⟨z', rfl, hy⟩

theorem prefix_of_foreign {p x y z : Text} {a : Char} (ha : a ∉ p) (h : p <+: x ++ a :: y) :
    p <+: x ++ z := by
  obtain ⟨q, hq⟩ := h
  rcases List.append_eq_append_iff.mp hq with ⟨r, rfl, -⟩ | ⟨r, rfl, hrest⟩
  · exact ⟨r ++ z, by simp⟩
  · cases r with
    | nil => exact ⟨z, by simp⟩
    | cons b r =>
        obtain rfl : a = b := (List.cons.inj hrest).1
        exact absurd (List.mem_append_right _ List.mem_cons_self) ha

/-! ### Whole markers -/

theorem even_iff_escaping (t : Text) :
    Even (t.rtakeWhile (· == '\\')).length ↔ escaping false t = false := by
  induction t using List.reverseRecOn with
  | nil => simp
  | append_singleton t c ih =>
      rw [Structure.escaping_append, List.rtakeWhile_concat]
      by_cases hc : c = '\\'
      · simp [hc, Nat.even_add_one, ih]
      · simp [hc]

theorem markersWhole_iff (t : Text) : MarkersWhole t ↔ ∀ before after,
    t = before ++ (markerWord ++ after) →
      escaping false before = true ∧ ['\x7b', '\x7d'] <+: after := by
  constructor
  · intro h before after ht
    obtain ⟨x, y, rfl, heven, rfl⟩ := h before after ht
    refine ⟨?_, y, rfl⟩
    rw [even_iff_escaping] at heven
    simp [heven]
  · intro h before after ht
    obtain ⟨hesc, y, hy⟩ := h before after ht
    obtain rfl | ⟨x, c, rfl⟩ := List.eq_nil_or_concat before
    · cases hesc
    · obtain ⟨hx, rfl⟩ : escaping false x = false ∧ c = '\\' := by simpa using hesc
      exact ⟨x, y, by simp, (even_iff_escaping x).mpr hx, hy.symm⟩

theorem markersWhole_iff_places (t : Text) : MarkersWhole t ↔
    ∀ i ∈ List.range (t.length + 1), markerWord <+: t.drop i →
      escaping false (t.take i) = true ∧
        ['\x7b', '\x7d'] <+: (t.drop i).drop markerWord.length := by
  rw [markersWhole_iff]
  constructor
  · intro h i _ hpre
    obtain ⟨after, hafter⟩ := hpre
    have := h (t.take i) after (by rw [hafter, List.take_append_drop])
    rwa [← hafter, List.drop_left]
  · rintro h before after rfl
    have hmem : before.length ∈ List.range ((before ++ (markerWord ++ after)).length + 1) := by
      simp
    simpa using h before.length hmem

instance (t : Text) : Decidable (MarkersWhole t) :=
  decidable_of_iff' _ (markersWhole_iff_places t)

@[simp] theorem escaping_marker : escaping false marker = false := by
  decide

namespace MarkersWhole

variable {x y old : Text}

/-- Before a marker the backslashes are even in number. -/
theorem escaping_before (h : MarkersWhole (x ++ (marker ++ y))) : escaping false x = false := by
  obtain ⟨hesc, -⟩ := (markersWhole_iff _).mp h (x ++ ['\\']) ('\x7b' :: '\x7d' :: y)
    (by simp [marker_eq_word])
  simpa using hesc

/-- Markers stay whole where a part that begins with a backslash is replaced by characters that
are not in the word, and the backslashes count as before wherever the word follows. -/
theorem replace (new : Text) (h : MarkersWhole (x ++ (old ++ y))) (hold : old.head? = some '\\')
    (hnew : new ≠ []) (hforeign : ∀ c ∈ new, c ∉ markerWord)
    (hesc : ∀ z v, y = z ++ (markerWord ++ v) → escaping false (x ++ (old ++ z)) = true →
      escaping false (x ++ (new ++ z)) = true) : MarkersWhole (x ++ (new ++ y)) := by
  obtain ⟨tail, rfl⟩ := List.head?_eq_some_iff.mp hold
  rw [markersWhole_iff] at h ⊢
  intro u v huv
  -- the word is in the part before or in the part behind, where it was already
  rcases occurs_around (by decide) hnew hforeign huv with ⟨v', rfl, rfl⟩ | ⟨z, rfl, rfl⟩
  · obtain ⟨hu, hbraces⟩ := h u (v' ++ ('\\' :: tail ++ y)) (by simp)
    exact ⟨hu, prefix_of_foreign (by decide) hbraces⟩
  · obtain ⟨hu, hbraces⟩ := h (x ++ ('\\' :: tail ++ z)) v (by simp)
    exact ⟨hesc z v rfl hu, hbraces⟩

/-- The same for a replacement that leaves open or closed to the backslashes what was so. -/
theorem replace_same (new : Text) (h : MarkersWhole (x ++ (old ++ y)))
    (hold : old.head? = some '\\') (hnew : new ≠ []) (hforeign : ∀ c ∈ new, c ∉ markerWord)
    (hesc : escaping false (x ++ new) = escaping false (x ++ old)) :
    MarkersWhole (x ++ (new ++ y)) := by
  refine h.replace new hold hnew hforeign fun z v _ hz => ?_
  rw [← List.append_assoc, Structure.escaping_append] at hz ⊢
  rwa [hesc]

end MarkersWhole

theorem Unescapes.markersWhole {t u : Text} (h : Unescapes t u) (ht : MarkersWhole t) :
    MarkersWhole u := by
  cases h with
  | command x y hc =>
      have hx := ht.escaping_before
      refine ht.replace ['\\'] rfl (by decide) (by simp [not_mem_markerWord]) fun z v hy hz => ?_
      -- the word cannot begin right behind the marker, and behind a letter all is as before
      cases z with
      | nil => simp [hx] at hz
      | cons d z =>
          obtain rfl := (List.cons.inj hy).1
          have hback := beq_false_of_ne (ne_backslash_of_letter hc)
          simpa [hx, hback] using hz
  | lineBreak x y =>
      have hx := ht.escaping_before
      rw [← List.append_assoc marker] at ht
      exact ht.replace_same ['\\', '\\'] rfl (by decide) (by simp [not_mem_markerWord])
        (by simp [hx])
  | @stray x c y hc =>
      have hx := ht.escaping_before
      rw [List.append_cons marker] at ht
      refine ht.replace_same [c] rfl (List.cons_ne_nil c []) ?_ (by simp [hx])
      rcases hc with rfl | rfl <;> simp [not_mem_markerWord]
  | @braces x c inner y hc hinner =>
      have hstate : escaping false inner = false := Structure.escaping_of_getLast?_ne hinner
      -- one brace after the other, since a replacement is of one part
      rw [List.append_cons] at ht ⊢
      have hopen : MarkersWhole (x ++ [c] ++ (['\x7b'] ++ (inner ++ (escapedClose ++ y)))) :=
        ht.replace_same ['\x7b'] rfl (by decide) (by simp [not_mem_markerWord])
          (by simp [escapedOpen])
      have hinside : x ++ [c] ++ (['\x7b'] ++ (inner ++ (escapedClose ++ y))) =
          x ++ [c] ++ '\x7b' :: inner ++ (escapedClose ++ y) := by simp
      rw [hinside] at hopen
      have hclose : MarkersWhole (x ++ [c] ++ '\x7b' :: inner ++ (['\x7d'] ++ y)) :=
        hopen.replace_same ['\x7d'] rfl (by decide) (by simp [not_mem_markerWord])
          (by simp [hstate, escapedClose])
      simpa using hclose

/-! ### Depth -/

/-- The braces that count are balanced. -/
def Balanced (t : Text) : Prop :=
  depthBehind? 0 (activeBraces false t) = some 0

@[simp] theorem activeBraces_marker (t : Text) :
    activeBraces false (marker ++ t) = '\x7b' :: '\x7d' :: activeBraces false t := by
  rw [Structure.activeBraces_append, escaping_marker]
  rfl

theorem balanced_marker {x y : Text} (hx : escaping false x = false) :
    Balanced (x ++ (marker ++ y)) ↔
      depthBehind? 0 (activeBraces false x ++ activeBraces false y) = some 0 := by
  rw [Balanced, Structure.activeBraces_append, hx, activeBraces_marker,
    Structure.depthBehind?_pair]

theorem activeBraces_of_letter {c : Char} (hc : CharClass.letter.has c = true) (t : Text) :
    activeBraces false (c :: t) = activeBraces false t := by
  refine Structure.activeBraces_other (ne_backslash_of_letter hc) ?_ ?_
  · rintro rfl
    cases hc
  · rintro rfl
    cases hc

theorem Unescapes.balanced {t u : Text} (h : Unescapes t u) (hmarkers : MarkersWhole t)
    (ht : Balanced t) : Balanced u := by
  cases h with
  | command x y hc =>
      have hx := hmarkers.escaping_before
      rw [balanced_marker hx, activeBraces_of_letter hc] at ht
      rwa [Balanced, Structure.activeBraces_append, hx]
  | lineBreak x y =>
      have hx := hmarkers.escaping_before
      rw [balanced_marker hx, activeBraces_marker] at ht
      rw [Balanced, Structure.activeBraces_append, hx]
      rwa [Structure.depthBehind?_pair] at ht
  | @stray x c y hc =>
      have hx := hmarkers.escaping_before
      rw [balanced_marker hx] at ht
      rwa [Balanced, Structure.activeBraces_append, hx]
  | @braces x c inner y hc hinner =>
      have hstate : escaping false inner = false := Structure.escaping_of_getLast?_ne hinner
      have hback : escaping false (x ++ [c]) = false := by simp [hc]
      rw [Balanced, List.append_cons, Structure.activeBraces_append, hback] at ht ⊢
      rw [escapedOpen, escapedClose] at ht
      have hopen : activeBraces false (['\\', '\x7b'] ++ (inner ++ (['\\', '\x7d'] ++ y))) =
          activeBraces false inner ++ activeBraces false y := by
        simp [Structure.activeBraces_append, hstate]
      have hactive : activeBraces false ('\x7b' :: (inner ++ '\x7d' :: y)) =
          '\x7b' :: (activeBraces false inner ++ '\x7d' :: activeBraces false y) := by
        simp [Structure.activeBraces_append, hstate]
      rw [hopen] at ht
      rw [hactive]
      exact Structure.depthBehind?_enclose ht

/-! ### The repair -/

theorem UnescapesTo.balanced {t u : Text} (h : UnescapesTo t u) (hmarkers : MarkersWhole t)
    (ht : Balanced t) : Balanced u :=
  (h.keeps (motive := fun v => MarkersWhole v ∧ Balanced v)
    (fun hstep hv => ⟨hstep.markersWhole hv.1, hstep.balanced hv.1 hv.2⟩) ⟨hmarkers, ht⟩).2

/-- A text without comments whose markers are whole and whose braces are balanced has balanced
braces after any number of passes. -/
theorem repair_balanced (n : Nat) (v : Bool) (t : Text) (hpercent : '%' ∉ t)
    (hmarkers : MarkersWhole t) (hbraces : Structure.checkBraces t = []) :
    Structure.checkBraces (Engine.repair { maxPasses := n, validate := v } t).text = [] := by
  obtain ⟨a, b, -, hstrip⟩ := repair_strips n v t
  have hresult := mt (hstrip.sublist.subset ·) hpercent
  rw [Structure.checkBraces_eq_nil_iff_of_not_mem hpercent] at hbraces
  rw [Structure.checkBraces_eq_nil_iff_of_not_mem hresult]
  exact (Engine.repair_unescapes _ Standard.unescapes t).balanced hmarkers hbraces

def groupedCommand : Text :=
  "\x7bfirst \\textbackslash\x7b\x7demph\\\x7ba \\textbf\x7bb\x7d\\\x7d\x7d".toList

theorem repair_balanced_groupedCommand :
    '%' ∉ groupedCommand ∧ MarkersWhole groupedCommand ∧
      Structure.checkBraces groupedCommand = [] ∧
      Structure.checkBraces (Engine.repair { maxPasses := 3 } groupedCommand).text = [] := by
  have hpercent : '%' ∉ groupedCommand := by decide
  have hmarkers : MarkersWhole groupedCommand := by decide +kernel
  have hbraces : Structure.checkBraces groupedCommand = [] := by decide +kernel
  exact ⟨hpercent, hmarkers, hbraces,
    repair_balanced 3 true groupedCommand hpercent hmarkers hbraces⟩

end Manuscript.Repair
