import Manuscript.Proofs.Scan.Declared
import Manuscript.Proofs.Structure.Braces

/-!
Where the comment of a line begins.

The first percent sign that is not literal begins the comment, and there are
two readings of what is literal. In a scan a percent sign is literal if a
backslash stands directly before it. In the brace check a backslash takes the
next character out of account, another backslash too, and with it any meaning
that one could have had. The readings differ at a percent sign behind such a
pair, as it stands at the end of a line break, and nowhere else.
-/

namespace Manuscript

namespace Scan

open Structure

/-- The line has a percent sign behind the text that is not literal there, the first one. -/
structure CommentBehind (literal : Text → Prop) (line before : Text) : Prop where
  sign : before ++ ['%'] <+: line
  active : ¬literal before
  earlier : ∀ t, t ++ ['%'] <+: before → literal t

abbrev EndsInBackslash (t : Text) : Prop :=
  t.getLast? = some '\\'

/-- A backslash takes the character behind the text out of account. -/
abbrev Escapes (t : Text) : Prop :=
  escaping false t = true

theorem Escapes.endsInBackslash {t : Text} (h : Escapes t) : EndsInBackslash t := by
  by_contra hlast
  rw [Escapes, escaping_of_getLast?_ne hlast] at h
  cases h

/-- A line is code as a whole if every percent sign in it stands behind a backslash. -/
theorem code_eq_self_iff {t : Text} :
    code t = t ↔ ∀ u, u ++ ['%'] <+: t → EndsInBackslash u := by
  induction t using List.reverseRecOn with
  | nil => simp [code, codeFrom]
  | append_singleton t c ih =>
      have hlast : (∀ u, u ++ ['%'] = t ++ [c] → EndsInBackslash u) ↔
          (c = '%' → EndsInBackslash t) := by
        constructor
        · rintro h rfl
          exact h t rfl
        · intro h u hu
          obtain ⟨rfl, hc⟩ := List.append_inj' hu rfl
          exact h (List.cons.inj hc).1.symm
      simp only [List.prefix_concat_iff, or_imp, forall_and, ← ih, hlast]
      rw [code_append, Pattern.behind, Option.or_none]
      split
      next hall =>
        rw [List.append_cancel_left_eq, codeFrom_cons]
        split
        next hc => simp [hc.1, hc.2]
        next hc => simpa [codeFrom, hall] using hc
      next hall =>
        have hlength := (code_isPrefix t).length_le
        refine iff_of_false (fun h => ?_) (fun h => hall h.2)
        rw [h, List.length_append, List.length_singleton] at hlength
        omega

/-- A line is code as a whole, or a comment begins behind its code. -/
theorem code_cases (line : Text) : code line = line ∨
    code (code line) = code line ∧ ¬EndsInBackslash (code line) ∧
      ∃ after, line = code line ++ '%' :: after := by
  obtain ⟨rest, hline⟩ := code_isPrefix line
  have happend := code_append (code line) rest
  rw [hline, Pattern.behind, Option.or_none] at happend
  split at happend
  next hall =>
    cases rest with
    | nil => exact .inl (by rwa [List.append_nil] at hline)
    | cons c rest =>
        have hstop : codeFrom (code line).getLast? (c :: rest) = [] := by simpa using happend.symm
        rw [codeFrom_cons] at hstop
        split at hstop
        next hc => exact .inr ⟨hall, hc.2, rest, by rw [← hc.1, hline]⟩
        next => cases hstop
  next hall => exact absurd happend.symm hall

theorem code_code (line : Text) : code (code line) = code line := by
  rcases code_cases line with hall | ⟨hcode, -⟩
  · rw [hall, hall]
  · exact hcode

theorem scanLine_code (s : Scanner) (r : Result) (line : Text) :
    s.scanLine r (code line) = s.scanLine r line := by
  rw [Scanner.scanLine, code_code, Scanner.scanLine]

namespace CommentBehind

variable {line before : Text}

/-- If only percent signs behind backslashes are literal, the code ends where the comment begins. -/
theorem endsInBackslash_iff :
    CommentBehind EndsInBackslash line before ↔ code line = before ∧ code line ≠ line := by
  constructor
  · intro h
    obtain ⟨after, rfl⟩ := h.sign
    have hcode : code (before ++ '%' :: after) = before :=
      code_append_comment (code_eq_self_iff.mpr h.earlier) h.active after
    rw [List.append_assoc, List.singleton_append]
    refine ⟨hcode, ?_⟩
    rw [hcode]
    simp
  · rintro ⟨rfl, hne⟩
    obtain ⟨hall, hactive, after, hline⟩ := (code_cases line).resolve_left hne
    exact ⟨⟨after, by rw [List.append_assoc, List.singleton_append, ← hline]⟩, hactive,
      code_eq_self_iff.mp hall⟩

/-- Nothing before the comment is lost, whatever the backslashes before it mean. -/
theorem code_before (h : CommentBehind Escapes line before) : code before = before :=
  code_eq_self_iff.mpr fun t ht => (h.earlier t ht).endsInBackslash

theorem code_eq_iff (h : CommentBehind Escapes line before) :
    code line = before ↔ ¬EndsInBackslash before := by
  obtain ⟨after, rfl⟩ := h.sign
  rw [List.append_assoc, List.singleton_append, code_append, if_pos h.code_before,
    Pattern.behind, Option.or_none, codeFrom_cons]
  split
  next hc => simpa using hc.2
  next hc => simpa using hc

theorem sign_isPrefix (h : CommentBehind Escapes line before) (hlast : EndsInBackslash before) :
    before ++ ['%'] <+: code line := by
  obtain ⟨after, rfl⟩ := h.sign
  have hliteral : ¬('%' = '%' ∧ before.getLast? ≠ some '\\') := fun hnot => hnot.2 hlast
  rw [List.append_assoc, List.singleton_append, code_append, if_pos h.code_before,
    Pattern.behind, Option.or_none, codeFrom_cons, if_neg hliteral]
  exact ⟨codeFrom (some '%') after, by simp⟩

theorem exists_of_not {literal : Text → Prop} {t : Text} (ht : t ++ ['%'] <+: line)
    (hnot : ¬literal t) : ∃ before, CommentBehind literal line before := by
  induction hn : t.length using Nat.strongRecOn generalizing t with
  | _ n ih =>
      by_cases hearlier : ∀ u, u ++ ['%'] <+: t → literal u
      · exact ⟨t, ht, hnot, hearlier⟩
      · obtain ⟨u, hu, hunot⟩ := by simpa using hearlier
        have hlength := hu.length_le
        rw [List.length_append, List.length_singleton] at hlength
        exact ih u.length (by omega) (hu.trans ((List.prefix_append t _).trans ht)) hunot rfl

end CommentBehind

theorem commentStart?_eq_some_iff {line : Text} {n : Nat} :
    commentStart? line = some n ↔
      ∃ before, CommentBehind EndsInBackslash line before ∧ n = before.byteSize := by
  simp only [CommentBehind.endsInBackslash_iff, commentStart?]
  split
  next hall => simp [hall]
  next hne => simp [hne, eq_comm]

/-- Without a comment in the reading of the brace check, a line is code. -/
theorem code_eq_self_of_escapes {line : Text} (h : ∀ before, ¬CommentBehind Escapes line before) :
    code line = line := by
  refine code_eq_self_iff.mpr fun t ht => ?_
  by_contra hlast
  obtain ⟨before, hbefore⟩ :=
    CommentBehind.exists_of_not ht (fun hescapes : Escapes t => hlast hescapes.endsInBackslash)
  exact h before hbefore

/-- The comment of a line begins at the first percent sign that stands behind no backslash. For the
brace check, where nothing counts that a backslash takes out of account, it begins there too, unless
it is behind a backslash that is itself taken out of account: a scan reads that sign as code. -/
theorem comment_begins (line : Text) :
    (∀ n, commentStart? line = some n ↔
        ∃ before, CommentBehind EndsInBackslash line before ∧ n = before.byteSize) ∧
      (∀ t u, line = t ++ u → ∀ k depth found, readBraces k line depth found =
        readBraces k (if Escapes t then u.drop 1 else u) (readBraces k t depth found).1
          (readBraces k t depth found).2) ∧
      ((∀ before, ¬CommentBehind Escapes line before) →
        commentStart? line = none ∧ code line = line) ∧
      ∀ before, CommentBehind Escapes line before →
        before <+: code line ∧
        (¬EndsInBackslash before → commentStart? line = some before.byteSize ∧
          code line = before ∧ ∀ (s : Scanner) r, s.scanLine r line = s.scanLine r before) ∧
        (EndsInBackslash before → before ++ ['%'] <+: code line) := by
  refine ⟨fun n => commentStart?_eq_some_iff, ?_, fun h => ?_, fun before h => ⟨?_, ?_, ?_⟩⟩
  · rintro t u rfl k depth found
    exact readBraces_append k t u depth found
  · have hall := code_eq_self_of_escapes h
    exact ⟨by rw [commentStart?, if_pos hall], hall⟩
  · rw [← h.code_before]
    exact code_mono ((List.prefix_append _ _).trans h.sign)
  · intro hlast
    have hcode := h.code_eq_iff.mpr hlast
    refine ⟨?_, hcode, fun s r => by rw [← scanLine_code, hcode]⟩
    exact commentStart?_eq_some_iff.mpr
      ⟨before, ⟨h.sign, hlast, fun t ht => (h.earlier t ht).endsInBackslash⟩, rfl⟩
  · exact h.sign_isPrefix

def rateLine : Text :=
  "5\\% or 7\\%\\\\ % \\input\x7bx\x7d".toList

theorem comment_begins_rateLine :
    let before := "5\\% or 7\\%\\\\ ".toList
    CommentBehind Escapes rateLine before ∧ ¬EndsInBackslash before ∧
      commentStart? rateLine = some 13 ∧ code rateLine = before := by
  intro before
  have hactive : before ++ ['%'] <+: rateLine ∧ ¬Escapes before ∧ ¬EndsInBackslash before ∧
      Text.byteSize before = 13 ∧
      ∀ n < before.length, before[n]? = some '%' → Escapes (before.take n) := by
    decide +kernel
  obtain ⟨hsign, hescapes, hlast, hsize, hsigns⟩ := hactive
  have hbehind : CommentBehind Escapes rateLine before := by
    refine ⟨hsign, hescapes, ?_⟩
    rintro t ⟨u, hu⟩
    have ht := hsigns t.length (by simp [← hu]) (by simp [← hu])
    simpa [← hu] using ht
  have hbegins := ((comment_begins rateLine).2.2.2 before hbehind).2.1 hlast
  exact ⟨hbehind, hlast, hsize ▸ hbegins.1, hbegins.2.1⟩

def lineBreak : Text :=
  "\\\\%\\input\x7bx\x7d".toList

/-- The brace check comes to the percent sign behind a line break, but a scan takes it for literal,
and finds what the comment says. -/
theorem lineBreak_hides_comment :
    (∃ before, CommentBehind Escapes lineBreak before ∧ before.byteSize = 2) ∧
      commentStart? lineBreak = none ∧ contentPaths (code lineBreak) = ["x"] := by
  have hsign : ['\\', '\\'] ++ ['%'] <+: lineBreak ∧ ¬Escapes ['\\', '\\'] ∧
      Text.byteSize ['\\', '\\'] = 2 ∧ commentStart? lineBreak = none ∧
      contentPaths (code lineBreak) = ["x"] := by
    decide +kernel
  refine ⟨⟨['\\', '\\'], ⟨hsign.1, hsign.2.1, fun t ht => ?_⟩, hsign.2.2.1⟩, hsign.2.2.2⟩
  exact absurd (ht.subset (List.mem_append_right t (List.mem_singleton_self '%'))) (by decide)

end Scan

end Manuscript
