import Manuscript.Proofs.Scan.Declared
import Manuscript.Build.BasicDocument

/-!
Lines without the content they include.

The declarations of a line are taken out at once, and what is left over is put
together. Two ends that come to stand side by side may then be a declaration,
or the beginning of the body, that the line did not have. This needs one of
them to be cut off right where a declaration began: `Interrupted` says so, and
lines that are not interrupted include nothing once their content is removed.
-/

namespace Manuscript

namespace CharClass

theorem All.noneOf {k : CharClass} {t : Text} (h : k.All t) {cs : List Char}
    (hcs : cs.all (!k.has ·) = true) : (noneOf cs).All t := by
  refine fun c hc => has_noneOf.mpr fun hmem => ?_
  have := List.all_eq_true.mp hcs c hmem
  simp [h c hc] at this

end CharClass

namespace Pattern

instance (p : Pattern) (b : Option Char) (t : Text) : Decidable (p.MatchesAt b t) :=
  decidable_of_iff ((endAt? p ⟨0, b, t, []⟩).isSome = true) <| by
    rw [Option.isSome_iff_ne_none, ne_eq, endAt?_eq_none_iff, not_not]

theorem mem_findAll {p : Pattern} {t : Text} {m : Found} :
    m ∈ findAll p t ↔ .found m ∈ pieces p t := by
  rw [findAll, List.mem_filterMap]
  constructor
  · rintro ⟨x, hx, hm⟩
    cases x with
    | kept c => cases hm
    | found n =>
        cases hm
        exact hx
  · exact fun h => ⟨_, h, rfl⟩

end Pattern

namespace Scan

open CharClass Pattern

def DeclaresContent (line : Text) : Prop :=
  ∃ c : Command, c.IncludesContent ∧ c.text <:+: code line

theorem declaresContent_iff (line : Text) :
    DeclaresContent line ↔ findAll contentPattern (code line) ≠ [] := by
  rw [ne_eq, readsCommands_contentPattern.findAll_eq_nil_iff]
  simp [DeclaresContent]

instance (line : Text) : Decidable (DeclaresContent line) :=
  decidable_of_iff' _ (declaresContent_iff line)

/-- The code of the line, without the content it includes. -/
def rest (line : Text) : Text :=
  remaining contentPattern (code line)

theorem removeContent_of_not {line : Text} (h : ¬DeclaresContent line) :
    removeContent line = some line := by
  refine if_neg fun hany => h ?_
  obtain ⟨x, hx, hfound⟩ := List.any_eq_true.mp hany
  rw [declaresContent_iff]
  cases x with
  | kept c => cases hfound
  | found m => exact List.ne_nil_of_mem (mem_findAll.mpr hx)

theorem removeContent_of_declares {line : Text} (h : DeclaresContent line) :
    removeContent line = if (Text.trim (rest line)).isEmpty then none
      else some (Text.trimEnd (rest line)) := by
  obtain ⟨m, hm⟩ := List.exists_mem_of_ne_nil _ ((declaresContent_iff line).mp h)
  have hrest : ∀ f : Piece → Option Char, (∀ x, f x = x.kept?) →
      (pieces contentPattern (code line)).filterMap f = rest line := by
    intro f hf
    rw [funext hf]
    rfl
  rw [removeContent, if_pos (List.any_eq_true.mpr ⟨_, mem_findAll.mp hm, rfl⟩)]
  dsimp only
  rw [hrest]
  rintro (c | m) <;> rfl

theorem trimEnd_isPrefix (t : Text) : t.trimEnd <+: t := by
  rw [Text.trimEnd, ← List.reverse_suffix, List.reverse_reverse]
  exact List.dropWhile_suffix _

/-- What stays of a line is the line, or begins what is left over of its code. -/
theorem removeContent_cases {line kept : Text} (h : removeContent line = some kept) :
    kept = line ∧ ¬DeclaresContent line ∨ kept <+: rest line ∧ DeclaresContent line := by
  by_cases hline : DeclaresContent line
  · rw [removeContent_of_declares hline] at h
    split at h
    next => cases h
    next =>
      obtain rfl := Option.some.inj h
      exact .inr ⟨trimEnd_isPrefix _, hline⟩
  · rw [removeContent_of_not hline] at h
    exact .inl ⟨(Option.some.inj h).symm, hline⟩

theorem rest_sublist (line : Text) : (rest line).Sublist line :=
  (readsCommands_contentPattern.remaining_sublist _).trans (code_isPrefix line).sublist

/-! ### Interrupted lines -/

/-- A beginning of a declaration of content or of the mark that begins the body, too short to be
told from other text. -/
def Unfinished (w : Text) : Prop :=
  w ≠ [] ∧ (w <+: BasicDocument.bodyMark ∨
    ∃ word ∈ contentWords, ∃ gap, blank.All gap ∧ w <+: '\\' :: (word ++ gap))

/-- A declaration of content stands right behind an unfinished beginning. -/
def Interrupted (line : Text) : Prop :=
  ∃ u w v, code line = u ++ (w ++ v) ∧ Unfinished w ∧ contentPattern.MatchesAt none v

theorem isPrefix_append_blanks_iff {w head : Text} :
    (∃ gap, blank.All gap ∧ w <+: head ++ gap) ↔
      w <+: head ∨ head <+: w ∧ blank.All (w.drop head.length) := by
  constructor
  · rintro ⟨gap, hgap, r, hr⟩
    rcases List.append_eq_append_iff.mp hr with ⟨a, rfl, -⟩ | ⟨a, rfl, rfl⟩
    · exact .inl (List.prefix_append _ _)
    · exact .inr ⟨List.prefix_append _ _, by simpa using (all_append.mp hgap).1⟩
  · rintro (h | ⟨⟨gap, rfl⟩, hgap⟩)
    · exact ⟨[], all_nil _, by rwa [List.append_nil]⟩
    · exact ⟨gap, by simpa using hgap, List.prefix_rfl⟩

instance (w : Text) : Decidable (Unfinished w) :=
  decidable_of_iff (w ≠ [] ∧ (w <+: BasicDocument.bodyMark ∨ ∃ word ∈ contentWords,
      w <+: '\\' :: word ∨ '\\' :: word <+: w ∧ blank.All (w.drop ('\\' :: word).length))) <| by
    simp only [Unfinished, ← isPrefix_append_blanks_iff, List.cons_append]

instance (line : Text) : Decidable (Interrupted line) :=
  decidable_of_iff (∃ x ∈ (code line).inits,
      contentPattern.MatchesAt none ((code line).drop x.length) ∧ ∃ w ∈ x.tails, Unfinished w) <| by
    constructor
    · rintro ⟨x, hx, hmatch, w, hw, hunfinished⟩
      obtain ⟨v, hv⟩ := (List.mem_inits _ _).mp hx
      obtain ⟨u, rfl⟩ := (List.mem_tails _ _).mp hw
      rw [← hv, List.drop_left] at hmatch
      exact ⟨u, w, v, by rw [← hv, List.append_assoc], hunfinished, hmatch⟩
    · rintro ⟨u, w, v, hcode, hunfinished, hmatch⟩
      rw [← List.append_assoc] at hcode
      refine ⟨u ++ w, (List.mem_inits _ _).mpr ⟨v, hcode.symm⟩, ?_, w,
        (List.mem_tails _ _).mpr (List.suffix_append _ _), hunfinished⟩
      rwa [hcode, List.drop_left]

theorem Command.IncludesContent.text_eq {c : Command} (h : c.IncludesContent) :
    c.text = '\\' :: (c.name ++ c.gap) ++ '\x7b' :: (c.argument ++ ['\x7d']) := by
  simp [Command.text, Command.middle, h.2]

theorem Command.IncludesContent.all_front {c : Command} (h : c.IncludesContent) :
    (noneOf ['\x7d']).All c.front := by
  have hname : (noneOf ['\x7d']).All c.name := c.letters.noneOf (by decide)
  have hgap : (noneOf ['\x7d']).All c.gap := c.blank.noneOf (by decide)
  have hback : (noneOf ['\x7d']).has '\\' = true := by decide
  have hopen : (noneOf ['\x7d']).has '\x7b' = true := by decide
  simp [Command.front, Command.middle, h.2, hname, hgap, hback, hopen, c.closed]

/-- A declaration that is cut off before another one is unfinished there, unless a declaration
reaches from its beginning to the end of the other. -/
theorem unfinished_or_exists {c d : Command} (hc : c.IncludesContent) (hd : d.IncludesContent)
    {w y : Text} (hw : w ≠ []) (hy : y ≠ []) (h : c.text = w ++ y) :
    Unfinished w ∨ ∃ e : Command, e.IncludesContent ∧ e.text = w ++ d.text := by
  have hunfinished : w <+: '\\' :: (c.name ++ c.gap) → Unfinished w :=
    fun hbegin => ⟨hw, .inr ⟨c.name, hc.1, c.gap, c.blank, hbegin⟩⟩
  rw [hc.text_eq, List.append_eq_append_iff] at h
  rcases h with ⟨a, rfl, ha⟩ | ⟨a, ha, -⟩
  · cases a with
    | nil => exact .inl (hunfinished (by simp))
    | cons x a =>
        -- the cut lies in the argument, which then goes on to the next closing brace
        obtain ⟨y, z, rfl⟩ := (List.eq_nil_or_concat' y).resolve_left hy
        rw [List.cons_append, List.cons.injEq, ← List.append_assoc] at ha
        obtain ⟨rfl, ha⟩ := ha
        obtain ⟨hargument, -⟩ := List.append_inj' ha rfl
        have hclosed : (noneOf ['\x7d']).All a :=
          (all_append.mp (hargument ▸ c.closed)).1
        refine .inr ⟨⟨c.name, c.gap, none, a ++ d.front, c.letters, c.blank, ?_,
          all_append.mpr ⟨hclosed, hd.all_front⟩⟩, ⟨hc.1, rfl⟩, ?_⟩
        · exact List.append_ne_nil_of_right_ne_nil _ (List.cons_ne_nil _ _)
        · simp [Command.text, Command.middle, Command.front]
  · exact .inl (hunfinished ⟨a, ha.symm⟩)

section

variable {line : Text} (h : ¬Interrupted line)
include h

/-- Without its content, a line that was not interrupted includes none. -/
theorem not_infix_rest {c : Command} (hc : c.IncludesContent) : ¬c.text <:+: rest line := by
  intro hoccurs
  obtain ⟨v, t, hcode, hnone, hbegins | ⟨w, y, d, r, hw, hy, htext, hd, rfl⟩⟩ :=
    readsCommands_contentPattern.exists_of_infix_remaining c.text_ne_nil hoccurs
  · exact hnone c hc hbegins
  · rcases unfinished_or_exists hc hd hw hy htext with hunfinished | ⟨e, he, heq⟩
    · exact h ⟨v, w, d.text ++ r, hcode, hunfinished,
        readsCommands_contentPattern.matchesAt_iff.mpr ⟨d, hd, List.prefix_append _ _⟩⟩
    · exact hnone e he ⟨r, by rw [heq, List.append_assoc]⟩

theorem bodyMark_not_infix_rest (hbody : ¬BasicDocument.bodyMark <:+: code line) :
    ¬BasicDocument.bodyMark <:+: rest line := by
  intro hoccurs
  obtain ⟨v, t, hcode, -, hbegins | ⟨w, y, d, r, hw, -, htext, hd, rfl⟩⟩ :=
    readsCommands_contentPattern.exists_of_infix_remaining (List.cons_ne_nil _ _) hoccurs
  · exact hbody (hbegins.isInfix.trans ⟨v, [], by rw [hcode, List.append_nil]⟩)
  · exact h ⟨v, w, d.text ++ r, hcode, ⟨hw, .inl ⟨y, htext.symm⟩⟩,
      readsCommands_contentPattern.matchesAt_iff.mpr ⟨d, hd, List.prefix_append _ _⟩⟩

end

end Scan

end Manuscript
