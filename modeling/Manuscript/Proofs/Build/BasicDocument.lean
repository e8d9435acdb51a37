import Manuscript.Proofs.Scan.Removal
import Mathlib.Data.List.TakeWhile

/-!
What the document of the basic check includes.

Its lines are a heading, what stays of the lines before the body, and a body of
its own. Nothing of it includes content, and nothing but its own body begins
one, unless a line before the body of the root document was interrupted.
-/

namespace Manuscript

theorem Text.occursIn_iff {needle t : Text} : needle.occursIn t = true ↔ needle <:+: t := by
  induction t with
  | nil => rw [occursIn, List.isEmpty_iff, List.infix_nil]
  | cons c t ih =>
      rw [occursIn, Bool.or_eq_true, List.isPrefixOf_iff_prefix, ih, List.infix_cons_iff]

namespace Scan

theorem contentPaths_of_not {line : Text} (h : ¬DeclaresContent line) :
    contentPaths (code line) = [] := by
  rw [declaresContent_iff, not_not] at h
  rw [contentPaths, h]
  rfl

end Scan

namespace BasicDocument

open Scan

theorem beginsBody_iff {line : Text} : beginsBody line = true ↔ bodyMark <:+: code line :=
  Text.occursIn_iff

def frontLines (root : Text) : List Text :=
  root.lines.takeWhile (!beginsBody ·)

def headerLine : Text :=
  "% Generated for the basic build check: content modules removed".toList

/-- The heading is one line, a comment. -/
theorem heading : header = headerLine ++ ['\n'] ∧ '\n' ∉ headerLine ∧
    headerLine.reread = headerLine ∧ code headerLine = [] := by
  -- a literal is spelled out first, since the kernel is slow to decode one
  rw [show header = _ from String.toList_ofList, show headerLine = _ from String.toList_ofList]
  decide

theorem header_eq : header = headerLine ++ ['\n'] :=
  heading.1

theorem code_headerLine : code headerLine = [] :=
  heading.2.2.2

theorem declares_body : includedContent body = [] ∧ declaredPackages body = [] ∧
    body.lines.countP beginsBody = 1 := by
  rw [show body = _ from String.toList_ofList]
  decide

theorem not_beginsBody_of_mem_frontLines {root line : Text} (h : line ∈ frontLines root) :
    ¬bodyMark <:+: code line := by
  have := List.mem_takeWhile_imp h
  rwa [Bool.not_eq_true', ← Bool.not_eq_true, beginsBody_iff] at this

theorem mem_styleLines {root kept : Text} :
    kept ∈ styleLines root ↔ ∃ line ∈ frontLines root, removeContent line = some kept :=
  List.mem_filterMap

/-- What stays of a line has no characters but those of the line. -/
theorem sublist_of_removeContent {line kept : Text} (h : removeContent line = some kept) :
    kept.Sublist line := by
  rcases removeContent_cases h with ⟨rfl, -⟩ | ⟨hkept, -⟩
  · exact List.Sublist.refl _
  · exact hkept.sublist.trans (rest_sublist line)

theorem notMem_of_mem_styleLines {root kept : Text} (h : kept ∈ styleLines root) :
    '\n' ∉ kept := by
  obtain ⟨line, hline, hkept⟩ := mem_styleLines.mp h
  intro hmem
  exact Text.notMem_of_mem_lines ((List.takeWhile_sublist _).subset hline)
    ((sublist_of_removeContent hkept).subset hmem)

theorem text_eq (root : Text) :
    text root = Text.unlines (headerLine :: styleLines root) ++ body := by
  rw [text, header_eq, Text.unlines_cons]
  simp [Text.unlines]

theorem forall_notMem_newline (root : Text) :
    ∀ line ∈ headerLine :: styleLines root, '\n' ∉ line :=
  List.forall_mem_cons.mpr ⟨heading.2.1, fun _ h => notMem_of_mem_styleLines h⟩

theorem lines_text (root : Text) : (text root).lines =
    headerLine :: (styleLines root).map Text.reread ++ body.lines := by
  rw [text_eq, Text.lines_unlines_append (forall_notMem_newline root), List.map_cons,
    heading.2.2.1]

theorem includedContent_text (root : Text) : includedContent (text root) =
    (styleLines root).flatMap fun line => contentPaths (code line) := by
  rw [text_eq, includedContent_unlines_append (forall_notMem_newline root), declares_body.1,
    List.flatMap_cons, code_headerLine, List.append_nil]
  rfl

theorem declaredPackages_text (root : Text) : declaredPackages (text root) =
    (styleLines root).flatMap fun line => packageNames (code line) := by
  rw [text_eq, declaredPackages_unlines_append (forall_notMem_newline root), declares_body.2.1,
    List.flatMap_cons, code_headerLine, List.append_nil]
  rfl

/-! ### Content -/

section

variable {line kept : Text} (hline : ¬Interrupted line) (hkept : removeContent line = some kept)
include hline hkept

theorem not_declaresContent_of_removeContent : ¬DeclaresContent kept := by
  rcases removeContent_cases hkept with ⟨rfl, h⟩ | ⟨hbegin, -⟩
  · exact h
  · rintro ⟨c, hc, hoccurs⟩
    exact not_infix_rest hline hc
      (hoccurs.trans ((code_isPrefix kept).trans hbegin).isInfix)

theorem not_beginsBody_of_removeContent (hbody : ¬bodyMark <:+: code line) :
    beginsBody kept.reread = false := by
  rw [← Bool.not_eq_true, beginsBody_iff]
  intro hoccurs
  have hcode : bodyMark <:+: code kept :=
    hoccurs.trans (code_mono kept.reread_isPrefix).isInfix
  rcases removeContent_cases hkept with ⟨rfl, -⟩ | ⟨hbegin, -⟩
  · exact hbody hcode
  · exact bodyMark_not_infix_rest hline hbody
      (hcode.trans ((code_isPrefix kept).trans hbegin).isInfix)

end

/-- The document of the basic check includes no content and has one body, if no line of the root
document before its body is interrupted. -/
theorem text_includes_nothing {root : Text} (h : ∀ line ∈ frontLines root, ¬Interrupted line) :
    (∀ s : Scanner, (s.scan (text root)).contentModules = []) ∧
      (text root).lines.countP beginsBody = 1 := by
  constructor
  · intro s
    rw [Scanner.scan_eq, firstSeen_eq_nil_iff, includedContent_text, List.flatMap_eq_nil_iff]
    intro kept hkept
    obtain ⟨line, hline, hremove⟩ := mem_styleLines.mp hkept
    exact contentPaths_of_not (not_declaresContent_of_removeContent (h line hline) hremove)
  · have hstyle : ((styleLines root).map Text.reread).countP beginsBody = 0 := by
      rw [List.countP_eq_zero, List.forall_mem_map]
      intro kept hkept
      obtain ⟨line, hline, hremove⟩ := mem_styleLines.mp hkept
      rw [not_beginsBody_of_removeContent (h line hline) hremove
        (not_beginsBody_of_mem_frontLines hline)]
      exact Bool.false_ne_true
    have hheader : beginsBody headerLine = false := by rw [beginsBody, code_headerLine]; rfl
    rw [lines_text, List.countP_append, List.countP_cons, hstyle, hheader, declares_body.2.2]
    rfl

/-- Content between packages, behind a comment and inside another command. -/
def mixedRoot : Text :=
  ("\\usepackage\x7ba\x7d\\input\x7bintro\x7d \\usepackage\x7bb\x7d\n" ++
    "% \\in\\input\x7bx\x7dput\x7by\x7d\n" ++
    "\\AtEnd\x7b\\input\x7bend\x7d\x7d\n\\begin\x7bdocument\x7d").toList

theorem text_includes_nothing_mixedRoot :
    (∀ line ∈ frontLines mixedRoot, ¬Interrupted line) ∧
      (({} : Scanner).scan mixedRoot).contentModules = ["intro", "end"] ∧
      (∀ s : Scanner, (s.scan (text mixedRoot)).contentModules = []) ∧
      (text mixedRoot).lines.countP beginsBody = 1 := by
  have hroot : mixedRoot = _ :=
    String.toList_append.trans (congrArg₂ (· ++ ·)
      (String.toList_append.trans (congrArg₂ (· ++ ·) String.toList_ofList String.toList_ofList))
      String.toList_ofList)
  have h : (∀ line ∈ frontLines mixedRoot, ¬Interrupted line) ∧
      (({} : Scanner).scan mixedRoot).contentModules = ["intro", "end"] := by
    rw [hroot]
    decide +kernel
  exact ⟨h.1, h.2, text_includes_nothing h.1⟩

/-- A declaration of content that another one stands in the middle of. -/
def splitInput : Text :=
  "\\in\\input\x7bx\x7dput\x7by\x7d\n".toList

/-- A beginning of the body that a declaration of content stands in the middle of. -/
def splitBody : Text :=
  "\\begin\\input\x7bx\x7d\x7bdocument\x7d\n\\begin\x7bdocument\x7d\n".toList

/-- What is taken out of a line may join what it kept apart. -/
theorem text_joins :
    (({} : Scanner).scan (text splitInput)).contentModules = ["y"] ∧
      (text splitBody).lines.countP beginsBody = 2 := by
  rw [text, text, show splitInput = _ from String.toList_ofList,
    show splitBody = _ from String.toList_ofList, show header = _ from String.toList_ofList,
    show body = _ from String.toList_ofList]
  decide +kernel

end BasicDocument

end Manuscript
