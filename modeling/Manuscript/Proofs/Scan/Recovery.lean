import Manuscript.Proofs.Scan.Source

/-!
What a scan finds in lines as they are usually written.

The lines are sequences of plain text and commands. A scan of them finds the
names in the arguments of the commands that declare something, and these alone:
other commands, plain text and comments could as well be left out.
-/

namespace Manuscript

theorem Text.splitBy_eq_splitOnP (separates : Char → Bool) (t : Text) :
    t.splitBy separates = t.splitOnP separates := by
  induction t with
  | nil => rw [splitBy, List.splitOnP_nil]
  | cons c t ih =>
      rw [splitBy, ih, List.splitOnP_cons_eq_if_modifyHead]
      split
      · rfl
      · obtain ⟨part, parts, heq⟩ := List.exists_cons_of_ne_nil (List.splitOnP_ne_nil separates t)
        rw [heq]
        rfl

namespace Scanner

/-- The scanner takes a package to be one of the project's files. -/
def Takes (s : Scanner) (name : String) : Prop :=
  '/' ∈ name.toList ∨ (∃ b ∈ s.localBeginnings, b ≠ "" ∧ b.toList <+: name.toList) ∨
    name ∉ s.external

instance (s : Scanner) : DecidablePred s.Takes :=
  fun name => inferInstanceAs (Decidable ('/' ∈ name.toList ∨ _ ∨ name ∉ s.external))

theorem isExternal_iff {s : Scanner} {name : String} :
    s.isExternal name = true ↔ ¬s.Takes name := by
  simp [isExternal, isProjectPackage, Takes, not_or, and_assoc]

end Scanner

namespace Scan

open CharClass Pattern

/-! ### What commands declare -/

namespace Command

def Declares (c : Command) : Prop :=
  c.LoadsPackages ∨ c.IncludesContent

instance : DecidablePred Declares :=
  fun c => inferInstanceAs (Decidable (c.LoadsPackages ∨ c.IncludesContent))

def names (c : Command) : List String :=
  ((c.argument.splitOn ',').map Text.trim).filter (· ≠ []) |>.map String.ofList

end Command

def loadedNames (commands : List Command) : List String :=
  (commands.filter (·.LoadsPackages)).flatMap Command.names

def includedPaths (commands : List Command) : List String :=
  ((commands.filter (·.IncludesContent)).map (·.argument.trim)).filter (· ≠ [])
    |>.map String.ofList

theorem filter_isEmpty (ts : List Text) :
    ts.filter (fun t => !t.isEmpty) = ts.filter (· ≠ []) :=
  List.filter_congr fun t _ => by cases t <;> rfl

theorem loadedNames_flatMap {α : Type} (f : α → List Command) (xs : List α) :
    loadedNames (xs.flatMap f) = xs.flatMap fun x => loadedNames (f x) := by
  simp only [loadedNames, List.filter_flatMap, List.flatMap_assoc]

theorem includedPaths_flatMap {α : Type} (f : α → List Command) (xs : List α) :
    includedPaths (xs.flatMap f) = xs.flatMap fun x => includedPaths (f x) := by
  simp only [includedPaths, List.filter_flatMap, List.map_flatMap]

theorem loadedNames_filter_declares (cs : List Command) :
    loadedNames (cs.filter (·.Declares)) = loadedNames cs := by
  rw [loadedNames, List.filter_filter, loadedNames]
  refine congrArg (List.flatMap _) (List.filter_congr fun c _ => ?_)
  by_cases h : c.LoadsPackages <;> simp [h, Command.Declares]

theorem includedPaths_filter_declares (cs : List Command) :
    includedPaths (cs.filter (·.Declares)) = includedPaths cs := by
  have hfilter : (cs.filter (·.Declares)).filter (·.IncludesContent) =
      cs.filter (·.IncludesContent) := by
    rw [List.filter_filter]
    refine List.filter_congr fun c _ => ?_
    by_cases h : c.IncludesContent <;> simp [h, Command.Declares]
  rw [includedPaths, hfilter, includedPaths]

/-! ### Lines of commands -/

namespace SourceLine

def commands (l : SourceLine) : List Command :=
  l.parts.filterMap Part.command?

def declaring (l : SourceLine) : SourceLine where
  parts := l.parts.filter fun x => (x.of Command.Declares).isSome
  comment := []
  marked := marked_nil

theorem filterMap_of (kind : Command → Prop) [DecidablePred kind] (l : SourceLine) :
    l.parts.filterMap (Part.of kind) = l.commands.filter (kind ·) := by
  rw [commands, List.filter_filterMap]
  rfl

theorem packageNames_text (l : SourceLine) :
    packageNames (code l.text) = loadedNames l.commands := by
  rw [packageNames, l.code_text, readsCommands_packagePattern.findAll_source, List.flatMap_map,
    l.filterMap_of Command.LoadsPackages, loadedNames]
  refine List.flatMap_congr fun c _ => ?_
  rw [Command.group_found, Text.splitBy_eq_splitOnP, ← List.splitOn_eq_splitOnP, Command.names]
  simp only [filter_isEmpty]

theorem contentPaths_text (l : SourceLine) :
    contentPaths (code l.text) = includedPaths l.commands := by
  rw [contentPaths, l.code_text, readsCommands_contentPattern.findAll_source, List.map_map,
    l.filterMap_of Command.IncludesContent, includedPaths, ← filter_isEmpty]
  rfl

theorem commands_declaring (l : SourceLine) :
    l.declaring.commands = l.commands.filter (·.Declares) := by
  rw [← l.filterMap_of Command.Declares, commands, declaring, List.filterMap_filter]
  refine List.filterMap_congr fun x _ => ?_
  cases h : x.command? with
  | none => simp [Part.of, h]
  | some c => by_cases hc : c.Declares <;> simp [Part.of, h, Option.filter, hc]

theorem text_declaring_subset (l : SourceLine) : l.declaring.text ⊆ l.text := by
  intro c hc
  rw [text, declaring, List.append_nil] at hc
  obtain ⟨x, hx, hmem⟩ := List.mem_flatMap.mp hc
  exact List.mem_append_left _ (List.mem_flatMap.mpr ⟨x, List.mem_of_mem_filter hx, hmem⟩)

end SourceLine

def commands (ls : List SourceLine) : List Command :=
  ls.flatMap SourceLine.commands

/-- The text with the declarations of the lines, and nothing else. -/
def declarations (ls : List SourceLine) : Text :=
  Text.unlines (ls.map fun l => l.declaring.text)

section

variable {root : Text} {ls : List SourceLine} (h : root.lines = ls.map SourceLine.text)
include h

theorem declaredPackages_of_lines : declaredPackages root = loadedNames (commands ls) := by
  rw [declaredPackages, h, List.flatMap_map, commands, loadedNames_flatMap]
  exact List.flatMap_congr fun l _ => l.packageNames_text

theorem includedContent_of_lines : includedContent root = includedPaths (commands ls) := by
  rw [includedContent, h, List.flatMap_map, commands, includedPaths_flatMap]
  exact List.flatMap_congr fun l _ => l.contentPaths_text

theorem newline_notMem_declaring :
    ∀ line ∈ ls.map fun l => l.declaring.text, '\n' ∉ line := by
  intro line hline
  obtain ⟨l, hl, rfl⟩ := List.mem_map.mp hline
  have hmem : l.text ∈ root.lines := h ▸ List.mem_map_of_mem hl
  exact fun hnewline => Text.notMem_of_mem_lines hmem (l.text_declaring_subset hnewline)

theorem declaredPackages_declarations :
    declaredPackages (declarations ls) = declaredPackages root := by
  rw [declarations, declaredPackages_unlines (newline_notMem_declaring h), List.flatMap_map,
    declaredPackages_of_lines h, commands, loadedNames_flatMap]
  refine List.flatMap_congr fun l _ => ?_
  rw [l.declaring.packageNames_text, l.commands_declaring, loadedNames_filter_declares]

theorem includedContent_declarations :
    includedContent (declarations ls) = includedContent root := by
  rw [declarations, ← List.append_nil (Text.unlines _),
    includedContent_unlines_append (newline_notMem_declaring h), List.flatMap_map,
    includedContent_of_lines h, commands, includedPaths_flatMap]
  refine (List.append_nil _).trans (List.flatMap_congr fun l _ => ?_)
  rw [l.declaring.contentPaths_text, l.commands_declaring, includedPaths_filter_declares]

end

end Scan

namespace Scanner

open Scan

/-- A scan recovers from lines of commands the names that these declare, each where it is first
seen. It finds as much if nothing but the declarations is left of the lines. -/
theorem scan_recovers {root : Text} {ls : List SourceLine} (h : root.lines = ls.map SourceLine.text)
    (s : Scanner) :
    s.scan root =
        { stylePackages := ((loadedNames (commands ls)).filter (s.Takes ·)).eraseDups
          contentModules := (includedPaths (commands ls)).eraseDups
          externalPackages := ((loadedNames (commands ls)).filter (¬s.Takes ·)).eraseDups } ∧
      s.scan (declarations ls) = s.scan root := by
  have htaken : (!s.isExternal ·) = (decide <| s.Takes ·) := by
    funext name
    rw [Bool.eq_iff_iff, Bool.not_eq_true', ← Bool.not_eq_true, isExternal_iff]
    simp
  have hexternal : s.isExternal = (decide <| ¬s.Takes ·) := by
    funext name
    rw [Bool.eq_iff_iff, isExternal_iff, decide_eq_true_eq]
  refine ⟨?_, ?_⟩
  · rw [scan_eq, declaredPackages_of_lines h, includedContent_of_lines h, htaken, hexternal]
    simp only [firstSeen_eq]
  · rw [scan_eq, declaredPackages_declarations h, includedContent_declarations h, scan_eq]

def loadingLine : SourceLine where
  parts :=
    [.written "usepackage".toList [] (some "x, y".toList) " a,,thm , c".toList (by decide),
      .plain " text ".toList (by decide),
      .written "includegraphics".toList [] (some "w".toList) "fig".toList (by decide)]
  comment := "% \\input\x7bz\x7d".toList
  marked := by decide

/-- Content with and without options, and a name that only begins like a declaration. -/
def includingLine : SourceLine where
  parts :=
    [.written "input".toList " ".toList none " one ".toList (by decide),
      .written "input".toList [] (some "o".toList) "two".toList (by decide),
      .written "usepackages".toList [] none "d".toList (by decide),
      .written "RequirePackage".toList [] none "c, sty/b".toList (by decide),
      .written "subfile".toList [] none "one".toList (by decide)]
  comment := []
  marked := SourceLine.marked_nil

theorem scan_recovers_twoLines :
    let s : Scanner := { external := ["c", "thm", "sty/b"], localBeginnings := ["", "th"] }
    let root := Text.unlines [loadingLine.text, includingLine.text]
    root.lines = [loadingLine, includingLine].map SourceLine.text ∧
      s.scan root = ⟨["a", "thm", "sty/b"], ["one"], ["c"]⟩ := by
  intro s root
  obtain ⟨hlines, hstyle, hcontent, hexternal⟩ :
      root.lines = [loadingLine, includingLine].map SourceLine.text ∧
      ((loadedNames (commands [loadingLine, includingLine])).filter (s.Takes ·)).eraseDups =
        ["a", "thm", "sty/b"] ∧
      (includedPaths (commands [loadingLine, includingLine])).eraseDups = ["one"] ∧
      ((loadedNames (commands [loadingLine, includingLine])).filter (¬s.Takes ·)).eraseDups =
        ["c"] := by
    decide +kernel
  refine ⟨hlines, ?_⟩
  rw [(scan_recovers hlines s).1, hstyle, hcontent, hexternal]

end Scanner

end Manuscript
