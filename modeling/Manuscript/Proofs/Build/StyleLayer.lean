import Manuscript.Proofs.Build.BasicDocument
import Manuscript.Proofs.Scan.Source

/-!
What the document of the basic check loads.

Taking out the content of a line and reading its packages do not get in each
other's way: both go by the commands of the line, none of which is of both
kinds, and what is taken out leaves a line of the other parts. So the document
loads the packages that the root document loads before its body.
-/

namespace Manuscript

namespace CharClass

theorem has_blank (c : Char) : blank.has c = Text.isBlank c := by
  simp [has, blank, Text.isBlank]

end CharClass

namespace Text

open CharClass

theorem all_takeWhile_isBlank (t : Text) : blank.All (t.takeWhile isBlank) :=
  fun c hc => (has_blank c).trans (List.mem_takeWhile_imp hc)

theorem exists_trimEnd (t : Text) : ∃ u, blank.All u ∧ t = t.trimEnd ++ u := by
  refine ⟨(t.reverse.takeWhile isBlank).reverse, ?_, ?_⟩
  · exact fun c hc => all_takeWhile_isBlank _ c (List.mem_reverse.mp hc)
  · rw [trimEnd, ← List.reverse_append, List.takeWhile_append_dropWhile, List.reverse_reverse]

theorem exists_trimStart (t : Text) : ∃ u, blank.All u ∧ t = u ++ t.trimStart :=
  ⟨_, all_takeWhile_isBlank t, (List.takeWhile_append_dropWhile).symm⟩

theorem mem_trim {t : Text} {c : Char} (hc : blank.has c = false) (h : c ∈ t) : c ∈ t.trim := by
  have hnot {u : Text} (hu : blank.All u) : c ∉ u := by
    intro hmem
    have := hu c hmem
    simp [hc] at this
  obtain ⟨u, hu, ht⟩ := exists_trimStart t
  obtain ⟨v, hv, htrim⟩ := exists_trimEnd t.trimStart
  rw [ht, htrim] at h
  rcases List.mem_append.mp h with h | h
  · exact absurd h (hnot hu)
  · exact (List.mem_append.mp h).resolve_right (hnot hv)

end Text

namespace Scan

open CharClass Pattern

theorem packageNames_congr {t u : Text} (h : packagePattern.findAll t = packagePattern.findAll u) :
    packageNames t = packageNames u := by
  rw [packageNames, h, packageNames]

theorem Command.not_includesContent_of_loads {c : Command} (h : c.LoadsPackages) :
    ¬c.IncludesContent := by
  have hwords : ∀ w ∈ packageWords, w ∉ contentWords := by decide
  exact fun hc => hwords _ h hc.1

theorem SourceLine.findAll_rest (l : SourceLine) :
    packagePattern.findAll (rest l.text) = packagePattern.findAll (code l.text) := by
  rw [rest, l.code_text, readsCommands_contentPattern.remaining_source,
    readsCommands_packagePattern.findAll_source, readsCommands_packagePattern.findAll_source,
    List.filterMap_filter]
  congr 1
  refine List.filterMap_congr fun x _ => ?_
  split
  next => rfl
  next h =>
    cases x with
    | command c simple =>
        by_cases hc : c.LoadsPackages
        · rw [Part.of_command_not (Command.not_includesContent_of_loads hc)] at h
          exact absurd rfl h
        · rw [Part.of_command_not hc]
    | plain t free => rfl
    | bare name letters named => rfl

theorem SourceLine.packageNames_removeContent (l : SourceLine) :
    ((removeContent l.text).elim [] fun kept => packageNames (code kept)) =
      packageNames (code l.text) := by
  by_cases h : DeclaresContent l.text
  · have hpercent : '%' ∉ rest l.text := by
      have hsub : (rest l.text).Sublist (code l.text) :=
        readsCommands_contentPattern.remaining_sublist _
      rw [l.code_text] at hsub
      exact fun hmem => percent_notMem_source l.parts (hsub.subset hmem)
    rw [removeContent_of_declares h, ← packageNames_congr l.findAll_rest]
    split
    next hblank =>
      have hclose : '\x7d' ∉ rest l.text := by
        intro hmem
        have := Text.mem_trim (by decide) hmem
        rw [List.isEmpty_iff.mp hblank] at this
        cases this
      rw [packageNames, readsCommands_packagePattern.findAll_of_notMem hclose]
      rfl
    next =>
      obtain ⟨u, hu, htrim⟩ := Text.exists_trimEnd (rest l.text)
      have hclose : '\x7d' ∉ u := notMem_of_plain (Plain.of_blanks hu) (by decide)
      have hcode : code (rest l.text).trimEnd = (rest l.text).trimEnd :=
        Structure.code_eq_self fun hmem => hpercent ((trimEnd_isPrefix _).subset hmem)
      rw [Option.elim_some, hcode]
      refine packageNames_congr ?_
      conv_rhs => rw [htrim]
      exact (readsCommands_packagePattern.findAll_append hclose _).symm
  · rw [removeContent_of_not h]
    rfl

end Scan

namespace BasicDocument

open Scan CharClass

theorem filter_sublist_filterMap {α : Type} (q : α → Bool) (f : α → Option α) (xs : List α)
    (h : ∀ x, q x = true → f x = some x) : (xs.filter q).Sublist (xs.filterMap f) := by
  induction xs with
  | nil => exact List.Sublist.refl _
  | cons x xs ih =>
      rw [List.filter_cons, List.filterMap_cons]
      split
      next hx =>
        rw [h x hx]
        exact ih.cons_cons x
      next =>
        cases f x with
        | none => exact ih
        | some y => exact ih.cons y

/-- Of lines of parts, the document loads all packages, in their order. -/
theorem declaredPackages_text_eq {root : Text}
    (h : ∀ line ∈ frontLines root, ∃ l : SourceLine, line = l.text) :
    declaredPackages (text root) = declaredPackages (Text.unlines (frontLines root)) := by
  have hfront : ∀ line ∈ frontLines root, '\n' ∉ line := fun line hline =>
    Text.notMem_of_mem_lines ((List.takeWhile_sublist _).subset hline)
  have hstyle : styleLines root =
      (frontLines root).flatMap fun line => (removeContent line).toList :=
    List.filterMap_eq_flatMap_toList _ _
  rw [declaredPackages_text, declaredPackages_unlines hfront, hstyle, List.flatMap_assoc]
  refine List.flatMap_congr fun line hline => ?_
  obtain ⟨l, rfl⟩ := h line hline
  rw [← l.packageNames_removeContent]
  cases removeContent l.text <;> simp

/-- The document of the basic check loads what the root document loads before its body, if that is
written in parts, and has every line of it that includes no content. -/
theorem text_keeps_styles {root : Text}
    (h : ∀ line ∈ frontLines root, ∃ l : SourceLine, line = l.text) (s : Scanner) :
    (s.scan (text root)).stylePackages =
        (s.scan (Text.unlines (frontLines root))).stylePackages ∧
      (s.scan (text root)).externalPackages =
        (s.scan (Text.unlines (frontLines root))).externalPackages ∧
      ∃ kept, text root = header ++ Text.unlines kept ++ body ∧
        ((frontLines root).filter (¬DeclaresContent ·)).Sublist kept := by
  have hdeclared := declaredPackages_text_eq h
  refine ⟨?_, ?_, styleLines root, rfl, ?_⟩
  · rw [Scanner.scan_eq, Scanner.scan_eq, hdeclared]
  · rw [Scanner.scan_eq, Scanner.scan_eq, hdeclared]
  · refine filter_sublist_filterMap _ _ _ fun line hline => removeContent_of_not ?_
    simpa using hline

/-- Packages before and behind content, one of them with options, and one in a comment. -/
def mixedLine : SourceLine where
  parts :=
    [.command ⟨"usepackage".toList, [], none, "a, b".toList, by decide, by decide, by decide,
        by decide⟩ ⟨by decide, by decide⟩,
      .command ⟨"input".toList, " ".toList, none, "intro".toList, by decide, by decide, by decide,
        by decide⟩ ⟨by decide, by decide⟩,
      .plain " ".toList (by decide),
      .command ⟨"RequirePackage".toList, [], some ⟨"x".toList, [], by decide, by decide⟩,
        "c".toList, by decide, by decide, by decide, by decide⟩ ⟨by decide, by decide⟩,
      .bare "relax".toList (by decide) (by decide)]
  comment := "% \\usepackage\x7bd\x7d".toList
  marked := by decide

def bareLine : SourceLine where
  parts := [.bare "makeatletter".toList (by decide) (by decide)]
  comment := []
  marked := by decide

def preamble : Text :=
  Text.unlines [mixedLine.text, bareLine.text] ++ "\\begin\x7bdocument\x7d\\input\x7by\x7d".toList

theorem text_keeps_styles_preamble :
    let s : Scanner := { external := ["b"] }
    (∀ line ∈ frontLines preamble, ∃ l : SourceLine, line = l.text) ∧
      (s.scan (text preamble)).stylePackages = ["a", "c"] ∧
      (s.scan (text preamble)).externalPackages = ["b"] ∧
      ∃ kept, text preamble = header ++ Text.unlines kept ++ body ∧
        ((frontLines preamble).filter (¬DeclaresContent ·)).Sublist kept := by
  intro s
  obtain ⟨hfront, hscanned⟩ : frontLines preamble = [mixedLine.text, bareLine.text] ∧
      (s.scan (Text.unlines (frontLines preamble))).stylePackages = ["a", "c"] ∧
      (s.scan (Text.unlines (frontLines preamble))).externalPackages = ["b"] := by
    decide +kernel
  have hlines : ∀ line ∈ frontLines preamble, ∃ l : SourceLine, line = l.text := by
    rw [hfront]
    simp
  obtain ⟨hstyle, hexternal, hkept⟩ := text_keeps_styles hlines s
  exact ⟨hlines, hstyle.trans hscanned.1, hexternal.trans hscanned.2, hkept⟩

end BasicDocument

end Manuscript
