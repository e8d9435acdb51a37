import Manuscript.Project.Stub
import Manuscript.Proofs.Disk.Directory
import Manuscript.Proofs.Scan.Comment
import Manuscript.Proofs.Structure.Silence
import Manuscript.Proofs.Text.Case

/-!
Placeholders have no issue and declare nothing.

A placeholder is written in comments and in commands that nothing looks for. The
path of the reference gets into both, as it is, without its endings or as a
title. The case maps make no character that means something to a check or a
scan of any other character. So a path without such characters brings none into
its placeholder, and the only braces there are the ones of the commands.
-/

namespace Manuscript

namespace Text

theorem mem_joinWith {separator : Text} {ts : List Text} {c : Char}
    (h : c ∈ joinWith separator ts) : c ∈ separator ∨ ∃ t ∈ ts, c ∈ t := by
  induction ts with
  | nil => cases h
  | cons t ts ih =>
      by_cases hts : ts = []
      · subst hts
        exact .inr ⟨t, List.mem_cons_self, h⟩
      · rw [joinWith_cons hts, List.append_assoc, List.mem_append, List.mem_append] at h
        rcases h with h | h | h
        · exact .inr ⟨t, List.mem_cons_self, h⟩
        · exact .inl h
        · refine (ih h).imp_right ?_
          rintro ⟨u, hu, hc⟩
          exact ⟨u, List.mem_cons_of_mem t hu, hc⟩

theorem dropBeginning?_eq_some_iff {w t u : Text} :
    dropBeginning? w t = some u ↔ t = w ++ u := by
  induction w generalizing t with
  | nil => simp [dropBeginning?]
  | cons c w ih =>
      cases t with
      | nil => simp [dropBeginning?]
      | cons d t =>
          rw [dropBeginning?]
          split
          next hc => rw [ih, hc, List.cons_append, List.cons.injEq, eq_self, true_and]
          next hc => simp [Ne.symm hc]

theorem dropEnding?_eq_some_iff {ending t u : Text} :
    dropEnding? ending t = some u ↔ t = u ++ ending := by
  rw [dropEnding?, Option.map_eq_some_iff]
  constructor
  · rintro ⟨v, hv, rfl⟩
    rw [← List.reverse_reverse t, dropBeginning?_eq_some_iff.mp hv, List.reverse_append,
      List.reverse_reverse]
  · rintro rfl
    exact ⟨u.reverse, dropBeginning?_eq_some_iff.mpr (by simp), List.reverse_reverse u⟩

theorem dropEndings_go_isPrefix (ending : Text) (n : Nat) (t : Text) :
    dropEndings.go ending n t <+: t := by
  induction n generalizing t with
  | zero => exact List.prefix_rfl
  | succ n ih =>
      rw [dropEndings.go]
      split
      next => exact List.prefix_rfl
      next =>
        split
        next shorter hshorter =>
          rw [dropEnding?_eq_some_iff.mp hshorter]
          exact (ih shorter).trans (List.prefix_append _ _)
        next => exact List.prefix_rfl

theorem dropEndings_isPrefix (ending t : Text) : dropEndings ending t <+: t :=
  dropEndings_go_isPrefix ending t.length t

end Text

namespace Stub

open Scan Structure

/-! ### Characters that mean something -/

/-- The characters that begin commands and comments, or go around arguments and lines. -/
def marks : List Char :=
  ['\\', '\x7b', '\x7d', '%', '\n', '\r']

def Unmarked (t : Text) : Prop :=
  ∀ c ∈ t, c ∉ marks

-- decided along the text, since `∀ c` could also be decided over all characters
instance : DecidablePred Unmarked := fun t =>
  decidable_of_iff (t.all (!marks.contains ·) = true) (by simp [Unmarked])

theorem Unmarked.cons {c : Char} {t : Text} (hc : c ∉ marks) (ht : Unmarked t) :
    Unmarked (c :: t) :=
  List.forall_mem_cons.mpr ⟨hc, ht⟩

theorem Unmarked.append {t u : Text} (ht : Unmarked t) (hu : Unmarked u) : Unmarked (t ++ u) :=
  List.forall_mem_append.mpr ⟨ht, hu⟩

theorem Unmarked.notMem {t : Text} (h : Unmarked t) {m : Char} (hm : m ∈ marks) : m ∉ t :=
  fun hmem => h m hmem hm

/-- The case maps make marks of nothing. -/
theorem makes_of_mem_marks {m : Char} (hm : m ∈ marks) : m.toNat ≠ 0 ∧
    Text.Case.makes Text.Case.upperRuns Text.Case.upperLong m.toNat = false ∧
    Text.Case.makes Text.Case.lowerRuns Text.Case.lowerLong m.toNat = false := by
  have hall : marks.all (fun m => m.toNat != 0 &&
      !Text.Case.makes Text.Case.upperRuns Text.Case.upperLong m.toNat &&
      !Text.Case.makes Text.Case.lowerRuns Text.Case.lowerLong m.toNat) = true := by
    decide +kernel
  simpa [and_assoc] using List.all_eq_true.mp hall m hm

theorem mem_of_mem_titleWord {m : Char} (hm : m ∈ marks) {word : Text} (h : m ∈ titleWord word) :
    m ∈ word := by
  obtain ⟨hcode, hupper, hlower⟩ := makes_of_mem_marks hm
  cases word with
  | nil => exact h
  | cons c rest =>
      rcases List.mem_append.mp h with h | h
      · exact List.mem_cons.mpr (.inl (Text.Case.eq_of_mem_image hcode hupper h).symm)
      · obtain ⟨d, hd, himage⟩ := List.mem_flatMap.mp h
        rw [← Text.Case.eq_of_mem_image hcode hlower himage]
        exact List.mem_cons_of_mem c hd

/-- A title has no marks but those of its path. -/
theorem unmarked_title {path : String} (h : Unmarked path.toList) :
    Unmarked (title path).toList := by
  rw [title, String.toList_ofList]
  intro m hmem hm
  rcases Text.mem_joinWith hmem with hspace | ⟨_, hwords, hmem⟩
  · rw [List.mem_singleton.mp hspace] at hm
    exact absurd hm (by decide)
  · -- back from the title through its words to the stem, and from there to the path
    obtain ⟨word, hword, rfl⟩ := List.mem_map.mp hwords
    have hstem := Text.mem_of_mem_splitBy (List.mem_of_mem_filter hword)
      (mem_of_mem_titleWord hm hmem)
    exact h m (Path.mem_text_of_mem_fileStem hstem) hm

/-! ### Commands and comments -/

def commandNames : List Text :=
  ["NeedsTeXFormat".toList, "ProvidesPackage".toList, "endinput".toList, "section".toList]

theorem mem_commandNames : "NeedsTeXFormat".toList ∈ commandNames ∧
    "ProvidesPackage".toList ∈ commandNames ∧ "endinput".toList ∈ commandNames ∧
    "section".toList ∈ commandNames :=
  ⟨.head _, .tail _ (.head _), .tail _ (.tail _ (.head _)), .tail _ (.tail _ (.tail _ (.head _)))⟩

/-- Neither a check nor a scan looks for the commands. -/
theorem not_telling : ∀ name ∈ commandNames,
    CharClass.letter.All name ∧ name ≠ [] ∧ name ∉ telling := by
  decide

theorem unmarked_of_letters {t : Text} (h : CharClass.letter.All t) : Unmarked t := by
  have hletter : marks.all (!CharClass.letter.has ·) = true := by decide
  intro c hc hm
  have hnot := List.all_eq_true.mp hletter c hm
  rw [h c hc] at hnot
  cases hnot

theorem mute_command {name tail : Text} (hname : name ∈ commandNames)
    (hstops : CharClass.letter.Stops tail)
    (hmarks : ∀ m ∈ marks, m ∈ tail → m = '\x7b' ∨ m = '\x7d')
    (hbalanced : depthBehind? 0 (activeBraces false tail) = some 0) :
    Mute ('\\' :: (name ++ tail)) := by
  obtain ⟨hletters, hne, htelling⟩ := not_telling name hname
  have hnotMem {m : Char} (hm : m ∈ marks) (hopen : m ≠ '\x7b') (hclose : m ≠ '\x7d') :
      m ∉ name ++ tail := by
    rw [List.mem_append, not_or]
    exact ⟨(unmarked_of_letters hletters).notMem hm,
      fun hmem => (hmarks m hm hmem).elim hopen hclose⟩
  have hline {m : Char} (hm : m ∈ marks) (hback : m ≠ '\\') (hopen : m ≠ '\x7b')
      (hclose : m ≠ '\x7d') : m ∉ '\\' :: (name ++ tail) :=
    List.not_mem_cons_of_ne_of_not_mem hback (hnotMem hm hopen hclose)
  -- without a percent sign the line is code as a whole
  have hcode : code ('\\' :: (name ++ tail)) = '\\' :: (name ++ tail) := by
    refine code_eq_self_iff.mpr fun u hu => ?_
    exact absurd (hu.subset (List.mem_append_right u List.mem_cons_self))
      (hline (by decide) (by decide) (by decide) (by decide))
  refine ⟨hline (by decide) (by decide) (by decide) (by decide),
    hline (by decide) (by decide) (by decide) (by decide), ?_⟩
  have hsingle : '\\' ∉ name ++ tail := hnotMem (by decide) (by decide) (by decide)
  rw [hcode]
  exact silent_command hletters hne htelling hstops
    (fun hmem => hsingle (List.mem_append_right name hmem)) hbalanced

def command (name argument rest : Text) : Text :=
  '\\' :: (name ++ '\x7b' :: (argument ++ '\x7d' :: rest))

theorem Unmarked.quiet {t : Text} (h : Unmarked t) :
    ∀ c ∈ t, c ≠ '\\' ∧ c ≠ '\x7b' ∧ c ≠ '\x7d' := by
  intro c hc
  refine ⟨?_, ?_, ?_⟩ <;> rintro rfl <;> exact h _ hc (by decide)

theorem mute_command_argument {name argument rest : Text} (hname : name ∈ commandNames)
    (hargument : Unmarked argument) (hrest : Unmarked rest) :
    Mute (command name argument rest) := by
  refine mute_command hname (CharClass.stops_cons (by decide) _) ?_ ?_
  · intro m hm hmem
    simpa [hargument.notMem hm, hrest.notMem hm] using hmem
  · rw [activeBraces_open, activeBraces_quiet hargument.quiet, activeBraces_close,
      ← List.append_nil rest, activeBraces_quiet hrest.quiet]
    rfl

theorem mute_comment_of_unmarked {t : Text} (h : Unmarked t) : Mute ('%' :: t) :=
  mute_comment (h.notMem (by decide)) (h.notMem (by decide))

/-! ### The lines of a placeholder -/

def packageLines (date name : Text) : List Text :=
  ['%' :: ' ' :: marker.toList,
    '%' :: (" Package '".toList ++ name ++
      "' was referenced by the root document but did not exist.".toList),
    command "NeedsTeXFormat".toList "LaTeX2e".toList [],
    command "ProvidesPackage".toList name ('[' :: (date ++ " placeholder package]".toList)),
    [],
    '\\' :: ("endinput".toList ++ [])]

def contentLines (title path : Text) : List Text :=
  ['%' :: ' ' :: marker.toList,
    command "section".toList title [],
    [],
    '%' :: (" Content for '".toList ++ path ++ "' goes here.".toList)]

def lines (date : String) (r : Reference) : List Text :=
  match r.kind with
  | .stylePackage => packageLines date.toList (Text.dropEndings ".sty".toList r.path.toList)
  | .contentModule => contentLines (title r.path).toList r.path.toList

theorem text_eq_unlines (date : String) (r : Reference) :
    (text date r).toList = Text.unlines (lines date r) := by
  rw [text, lines]
  -- literals are spelled out by hand, since the kernel is slow to decode them
  cases r.kind with
  | stylePackage =>
      simp only [packageText, packageLines, command, String.toList_join, List.flatMap_cons,
        List.flatMap_nil, Text.unlines_cons, Text.unlines_nil, List.append_assoc, List.cons_append,
        List.nil_append, String.toList_ofList,
        show "\n".toList = _ from String.toList_ofList,
        show "% ".toList = _ from String.toList_ofList,
        show "% Package '".toList = _ from String.toList_ofList,
        show " Package '".toList = _ from String.toList_ofList,
        show "' was referenced by the root document but did not exist.\n".toList = _
          from String.toList_ofList,
        show "' was referenced by the root document but did not exist.".toList = _
          from String.toList_ofList,
        show "\\NeedsTeXFormat\x7bLaTeX2e\x7d\n".toList = _ from String.toList_ofList,
        show "NeedsTeXFormat".toList = _ from String.toList_ofList,
        show "LaTeX2e".toList = _ from String.toList_ofList,
        show "\\ProvidesPackage\x7b".toList = _ from String.toList_ofList,
        show "ProvidesPackage".toList = _ from String.toList_ofList,
        show "\x7d[".toList = _ from String.toList_ofList,
        show " placeholder package]\n".toList = _ from String.toList_ofList,
        show " placeholder package]".toList = _ from String.toList_ofList,
        show "\\endinput\n".toList = _ from String.toList_ofList,
        show "endinput".toList = _ from String.toList_ofList]
  | contentModule =>
      simp only [contentText, contentLines, command, String.toList_join, List.flatMap_cons,
        List.flatMap_nil, Text.unlines_cons, Text.unlines_nil, List.append_assoc, List.cons_append,
        List.nil_append,
        show "\n".toList = _ from String.toList_ofList,
        show "% ".toList = _ from String.toList_ofList,
        show "\\section\x7b".toList = _ from String.toList_ofList,
        show "section".toList = _ from String.toList_ofList,
        show "\x7d\n".toList = _ from String.toList_ofList,
        show "% Content for '".toList = _ from String.toList_ofList,
        show " Content for '".toList = _ from String.toList_ofList,
        show "' goes here.\n".toList = _ from String.toList_ofList,
        show "' goes here.".toList = _ from String.toList_ofList]

/-- The texts that a placeholder puts around what it is given. -/
theorem unmarked_literals : Unmarked marker.toList ∧ Unmarked " Package '".toList ∧
    Unmarked "' was referenced by the root document but did not exist.".toList ∧
    Unmarked "LaTeX2e".toList ∧ Unmarked " placeholder package]".toList ∧
    Unmarked " Content for '".toList ∧ Unmarked "' goes here.".toList := by
  rw [show marker.toList = _ from String.toList_ofList,
    show " Package '".toList = _ from String.toList_ofList,
    show "' was referenced by the root document but did not exist.".toList = _
      from String.toList_ofList,
    show "LaTeX2e".toList = _ from String.toList_ofList,
    show " placeholder package]".toList = _ from String.toList_ofList,
    show " Content for '".toList = _ from String.toList_ofList,
    show "' goes here.".toList = _ from String.toList_ofList]
  decide

section

variable {date : Text} {name path : Text}

theorem mute_packageLines (hdate : Unmarked date) (hname : Unmarked name) :
    ∀ l ∈ packageLines date name, Mute l := by
  obtain ⟨hmarker, hpackage, hmissing, hformat, hplaceholder, -⟩ := unmarked_literals
  simp only [packageLines, List.forall_mem_cons]
  refine ⟨?_, ?_, ?_, ?_, mute_nil, ?_, List.forall_mem_nil _⟩
  · exact mute_comment_of_unmarked (hmarker.cons (by decide))
  · exact mute_comment_of_unmarked ((hpackage.append hname).append hmissing)
  · exact mute_command_argument mem_commandNames.1 hformat (List.forall_mem_nil _)
  · exact mute_command_argument mem_commandNames.2.1 hname
      ((hdate.append hplaceholder).cons (by decide))
  · exact mute_command mem_commandNames.2.2.1 (fun c hc => absurd hc (Option.not_mem_none c))
      (fun _ _ hmem => absurd hmem List.not_mem_nil) rfl

theorem mute_contentLines {title : Text} (htitle : Unmarked title) (hpath : Unmarked path) :
    ∀ l ∈ contentLines title path, Mute l := by
  obtain ⟨hmarker, -, -, -, -, hcontent, hgoes⟩ := unmarked_literals
  simp only [contentLines, List.forall_mem_cons]
  refine ⟨?_, ?_, mute_nil, ?_, List.forall_mem_nil _⟩
  · exact mute_comment_of_unmarked (hmarker.cons (by decide))
  · exact mute_command_argument mem_commandNames.2.2.2 htitle (List.forall_mem_nil _)
  · exact mute_comment_of_unmarked ((hcontent.append hpath).append hgoes)

end

theorem mute_lines {date : String} {r : Reference} (hdate : Unmarked date.toList)
    (hpath : Unmarked r.path.toList) : ∀ l ∈ lines date r, Mute l := by
  rw [lines]
  cases r.kind with
  | stylePackage =>
      exact mute_packageLines hdate fun c hc =>
        hpath c ((Text.dropEndings_isPrefix _ _).subset hc)
  | contentModule => exact mute_contentLines (unmarked_title hpath) hpath

/-- No check has an issue with a placeholder, and no scan finds anything declared in it. The date
is written with digits and slashes, which are no marks. -/
theorem text_declares_nothing {date : String} {r : Reference} (hdate : Unmarked date.toList)
    (hpath : Unmarked r.path.toList) : validate (text date r).toList = [] ∧
      ∀ s : Scanner, s.scan (text date r).toList = .empty := by
  rw [text_eq_unlines]
  exact ⟨validate_unlines (mute_lines hdate hpath), scan_unlines (mute_lines hdate hpath)⟩

def oddPath : String :=
  "parts/it's_[odd], 'so' ἈΡΧΉ.sty.sty"

theorem text_declares_nothing_oddPath :
    (Unmarked "2024/05/06".toList ∧ Unmarked oddPath.toList) ∧
      (validate (text "2024/05/06" ⟨oddPath, .stylePackage⟩).toList = [] ∧
        ({} : Scanner).scan (text "2024/05/06" ⟨oddPath, .stylePackage⟩).toList = .empty) ∧
      validate (text "2024/05/06" ⟨oddPath, .contentModule⟩).toList = [] ∧
        ({} : Scanner).scan (text "2024/05/06" ⟨oddPath, .contentModule⟩).toList = .empty := by
  have h : Unmarked "2024/05/06".toList ∧ Unmarked oddPath.toList := by
    rw [show "2024/05/06".toList = _ from String.toList_ofList,
      show oddPath.toList = _ from String.toList_ofList]
    decide
  have hpackage := text_declares_nothing (r := ⟨oddPath, .stylePackage⟩) h.1 h.2
  have hcontent := text_declares_nothing (r := ⟨oddPath, .contentModule⟩) h.1 h.2
  exact ⟨h, ⟨hpackage.1, hpackage.2 {}⟩, hcontent.1, hcontent.2 {}⟩

end Stub

end Manuscript
