import Manuscript.Proofs.Scan.Removal
import Manuscript.Proofs.Structure.Braces
import Manuscript.Proofs.Text.Lines

/-!
Code that no check minds and no scan takes anything from.

Whatever a check or a scan searches a line for, it reads a backslash and one of
some words, as a whole, or it reads two backslashes. So it finds nothing in a
command without a backslash behind it, unless the command is one of those words.
If the braces behind the command are balanced, too, the line is silent, and a
text of silent lines has no issue and declares nothing.
-/

namespace Manuscript

namespace Pattern

variable {p : Pattern} {b : Option Char} {t r : Text} {g : Groups} {c : Char}

theorem findAll_eq_nil_iff (hp : p.ReadsSome) : findAll p t = [] ↔ ¬p.Occurs t := by
  rw [← forall_kept_iff hp, List.eq_nil_iff_forall_not_mem]
  simp only [mem_findAll]

/-- How often a pattern reads a character at least. -/
def least (c : Char) : Pattern → Nat
  | .word w => w.count c
  | .seq p q => least c p + least c q
  | .alt p q => min (least c p) (least c q)
  | .group _ p => least c p
  | _ => 0

theorem Reads.least_le (h : p.Reads b t r g) : least c p ≤ t.count c := by
  induction p generalizing b t r g with
  | empty | one | many | star | check => exact Nat.zero_le _
  | word w =>
      obtain ⟨rfl, -⟩ := h
      exact Nat.le_refl _
  | seq p q ihp ihq =>
      obtain ⟨u, v, _, _, rfl, -, hp, hq⟩ := h
      rw [List.count_append]
      exact Nat.add_le_add (ihp hp) (ihq hq)
  | alt p q ihp ihq =>
      rcases h with h | h
      · exact (Nat.min_le_left _ _).trans (ihp h)
      · exact (Nat.min_le_right _ _).trans (ihq h)
  | group i p ih =>
      obtain ⟨_, -, hp⟩ := h
      exact ih hp

theorem readsSome_of_least (h : 0 < least c p) : p.ReadsSome := by
  rintro b t r g hreads rfl
  exact Nat.lt_irrefl 0 (Nat.lt_of_lt_of_le h hreads.least_le)

/-- Nothing is found where a character is missing that every match has. -/
theorem findAll_of_count_lt (h : t.count c < least c p) : findAll p t = [] := by
  rw [findAll_eq_nil_iff (readsSome_of_least (Nat.zero_lt_of_lt h))]
  rintro ⟨u, v, rfl, m, r, g, rfl, hreads⟩
  have hleast := hreads.least_le (c := c)
  rw [List.count_append, List.count_append] at h
  omega

end Pattern

namespace Structure

open CharClass Pattern Scan

/-! ### Commands by their names -/

/-- What the pattern reads is a command of one of the names and something behind it. -/
def ReadsNamed (p : Pattern) (names : List Text) : Prop :=
  ∀ b t r g, p.Reads b t r g → ∃ w u, w ∈ names ∧ letter.All w ∧ u ≠ [] ∧ letter.Stops u ∧
    t = '\\' :: (w ++ u)

/-- A command of another name has nothing to be found, up to the next command. -/
theorem ReadsNamed.findAll_eq_nil {p : Pattern} {names : List Text} (hp : ReadsNamed p names)
    {name tail : Text} (hletters : letter.All name) (hname : name ∉ names)
    (htail : letter.Stops tail) (hsingle : '\\' ∉ name ++ tail) :
    findAll p ('\\' :: (name ++ tail)) = [] := by
  have hsome : p.ReadsSome := by
    rintro b t r g hreads rfl
    obtain ⟨_, _, -, -, -, -, hnil⟩ := hp _ _ _ _ hreads
    cases hnil
  rw [findAll_eq_nil_iff hsome]
  rintro ⟨u, v, htext, m, r, g, rfl, hreads⟩
  obtain ⟨w, rest, hw, hwletters, hrest, hstops, rfl⟩ := hp _ _ _ _ hreads
  cases u with
  | nil =>
      have hbehind : letter.Stops (rest ++ r) := by
        obtain ⟨c, rest, rfl⟩ := List.exists_cons_of_ne_nil hrest
        exact stops_cons (hstops c rfl) (rest ++ r)
      have hsplit : name ++ tail = w ++ (rest ++ r) := by
        simpa using htext
      obtain ⟨rfl, -⟩ := run_unique hletters hwletters htail hbehind hsplit
      exact hname hw
  | cons c u =>
      refine hsingle ?_
      rw [(List.cons.inj htext).2]
      simp

theorem ReadsCommands.readsNamed {p : Pattern} {kind : Command → Prop} {names : List Text}
    (hp : ReadsCommands p kind) (hkind : ∀ c, kind c → c.name ∈ names) : ReadsNamed p names := by
  intro b t r g hreads
  obtain ⟨c, hc, rfl, -⟩ := (hp _ _ _ _).mp hreads
  exact ⟨c.name, _, hkind c hc, c.letters, by simp, c.stops_middle _, rfl⟩

def environmentWords : List Text :=
  ["begin".toList, "end".toList]

theorem readsNamed_delimiterPattern : ReadsNamed delimiterPattern environmentWords := by
  intro b t r g hreads
  have hletters : ∀ w ∈ environmentWords, letter.All w := by decide
  rw [delimiterPattern] at hreads
  obtain ⟨_, _, rfl, rfl, hnamed⟩ := (ReadsTexts.word ['\\']).concat_cons.mp hreads
  obtain ⟨w, _, _, _, rfl, -, hgroup, hspaced⟩ := reads_concat_cons.mp hnamed
  obtain ⟨_, -, hword⟩ := reads_group.mp hgroup
  obtain ⟨gap, _, hgap, rfl, hopened⟩ := (ReadsTexts.many _ _).concat_cons.mp hspaced
  obtain ⟨_, u, rfl, rfl, -⟩ := (ReadsTexts.word ['\x7b']).concat_cons.mp hopened
  have hw : w ∈ environmentWords := (reads_anyWord.mp hword).1
  refine ⟨w, gap ++ '\x7b' :: u, hw, hletters w hw, by simp, ?_, rfl⟩
  exact Stops.append (fun _ => letter_eq_false_of_blank) hgap (stops_cons (by decide) u)

theorem readsNamed_residualPattern : ReadsNamed residualPattern ["textbackslash".toList] := by
  intro b t r g hreads
  obtain ⟨_, u, rfl, rfl, -⟩ := (ReadsTexts.word Repair.Standard.marker).concat_cons.mp hreads
  have hmarker : Repair.Standard.marker =
      '\\' :: ("textbackslash".toList ++ ['\x7b', '\x7d']) := by
    decide
  refine ⟨"textbackslash".toList, '\x7b' :: '\x7d' :: u, List.mem_singleton_self _, by decide,
    List.cons_ne_nil _ _, stops_cons (by decide) _, ?_⟩
  rw [hmarker]
  simp

/-! ### Silent code -/

/-- The names of the commands that a check or a scan looks for. -/
def telling : List Text :=
  packageWords ++ contentWords ++ environmentWords ++ ["textbackslash".toList]

/-- Neither a check nor a scan finds anything in the code of a line, whatever the other lines. -/
structure Silent (code : Text) : Prop where
  packages : packagePattern.findAll code = []
  contents : contentPattern.findAll code = []
  delimiters : delimiterPattern.findAll code = []
  residuals : residualPattern.findAll code = []
  activeOpens : activeOpensPattern.findAll code = []
  escapedOpens : escapedOpensPattern.findAll code = []
  balanced : depthBehind? 0 (activeBraces false code) = some 0

theorem silent_nil : Silent [] :=
  ⟨rfl, rfl, rfl, rfl, rfl, rfl, rfl⟩

theorem activeBraces_quiet {t : Text} (h : ∀ c ∈ t, c ≠ '\\' ∧ c ≠ '\x7b' ∧ c ≠ '\x7d') (u : Text) :
    activeBraces false (t ++ u) = activeBraces false u := by
  induction t with
  | nil => rfl
  | cons c t ih =>
      obtain ⟨⟨hback, hopen, hclose⟩, ht⟩ := List.forall_mem_cons.mp h
      rw [List.cons_append, activeBraces_other hback hopen hclose, ih ht]

theorem quiet_of_letters {t : Text} (h : letter.All t) :
    ∀ c ∈ t, c ≠ '\\' ∧ c ≠ '\x7b' ∧ c ≠ '\x7d' := by
  intro c hc
  refine ⟨?_, ?_, ?_⟩ <;> rintro rfl <;> exact absurd (h _ hc) (by decide)

theorem silent_command {name tail : Text} (hletters : letter.All name) (hne : name ≠ [])
    (hname : name ∉ telling) (hstops : letter.Stops tail) (hsingle : '\\' ∉ tail)
    (hbalanced : depthBehind? 0 (activeBraces false tail) = some 0) :
    Silent ('\\' :: (name ++ tail)) := by
  have hback : '\\' ∉ name ++ tail := fun hmem =>
    (List.mem_append.mp hmem).elim (fun h => (quiet_of_letters hletters _ h).1 rfl) hsingle
  have hcount : ('\\' :: (name ++ tail)).count '\\' = 1 := by
    rw [List.count_cons_self, List.count_eq_zero.mpr hback]
  simp only [telling, List.mem_append, not_or] at hname
  obtain ⟨⟨⟨hpackage, hcontent⟩, henvironment⟩, hmarker⟩ := hname
  refine ⟨?_, ?_, ?_, ?_, ?_, ?_, ?_⟩
  · exact (ReadsCommands.readsNamed readsCommands_packagePattern fun c hc => hc).findAll_eq_nil
      hletters hpackage hstops hback
  · exact (ReadsCommands.readsNamed readsCommands_contentPattern fun c hc => hc.1).findAll_eq_nil
      hletters hcontent hstops hback
  · exact readsNamed_delimiterPattern.findAll_eq_nil hletters henvironment hstops hback
  · exact readsNamed_residualPattern.findAll_eq_nil hletters hmarker hstops hback
  · exact findAll_of_count_lt (c := '\\') (hcount ▸ by decide)
  · exact findAll_of_count_lt (c := '\\') (hcount ▸ by decide)
  · obtain ⟨c, rest, rfl⟩ := List.exists_cons_of_ne_nil hne
    rw [List.cons_append, activeBraces_backslash, activeBraces_escaped,
      activeBraces_quiet (quiet_of_letters (all_cons.mp hletters).2)]
    exact hbalanced

/-! ### Silent texts -/

theorem depthBehind?_flatMap {α : Type} {f : α → Text} {xs : List α}
    (h : ∀ x ∈ xs, depthBehind? 0 (f x) = some 0) : depthBehind? 0 (xs.flatMap f) = some 0 := by
  induction xs with
  | nil => rfl
  | cons x xs ih =>
      obtain ⟨hx, hxs⟩ := List.forall_mem_cons.mp h
      rw [List.flatMap_cons, depthBehind?_append, hx]
      exact ih hxs

theorem exists_of_mem_codeLines {t : Text} {line : Nat × Text} (h : line ∈ codeLines t) :
    ∃ l ∈ t.lines, line.2 = code l := by
  obtain ⟨⟨l, i⟩, hl, rfl⟩ := List.mem_map.mp h
  exact ⟨l, List.fst_mem_of_mem_zipIdx hl, rfl⟩

section

variable {t : Text} (h : ∀ l ∈ t.lines, Silent (code l))
include h

theorem silent_of_mem_codeLines {line : Nat × Text} (hline : line ∈ codeLines t) :
    Silent line.2 := by
  obtain ⟨l, hl, hcode⟩ := exists_of_mem_codeLines hline
  rw [hcode]
  exact h l hl

theorem validate_of_silent : validate t = [] := by
  have hbraces : checkBraces t = [] :=
    (checkBraces_eq_nil_iff t).mpr (depthBehind?_flatMap fun l hl => (h l hl).balanced)
  have hdelimiters : delimiters t = [] := by
    refine List.flatMap_eq_nil_iff.mpr fun line hline => ?_
    simp [(silent_of_mem_codeLines h hline).delimiters]
  have hresidual : checkResidualEscapes t = [] := by
    refine List.flatMap_eq_nil_iff.mpr fun line hline => ?_
    simp [(silent_of_mem_codeLines h hline).residuals]
  have hmixed : checkCommandDelimiters t = [] := by
    refine List.flatMap_eq_nil_iff.mpr fun line hline => ?_
    have hsilent := silent_of_mem_codeLines h hline
    simp [hsilent.activeOpens, hsilent.escapedOpens]
  rw [validate, hbraces, checkEnvironments, hdelimiters, hresidual, hmixed]
  rfl

theorem scan_of_silent (s : Scanner) : s.scan t = .empty := by
  have hpackages : declaredPackages t = [] := by
    refine List.flatMap_eq_nil_iff.mpr fun l hl => ?_
    rw [packageNames, (h l hl).packages]
    rfl
  have hcontent : includedContent t = [] := by
    refine List.flatMap_eq_nil_iff.mpr fun l hl => ?_
    rw [contentPaths, (h l hl).contents]
    rfl
  rw [Scanner.scan_eq, hpackages, hcontent]
  rfl

end

/-- A line without an ending in it, whose code is silent. -/
structure Mute (line : Text) : Prop where
  newline : '\n' ∉ line
  carriageReturn : '\r' ∉ line
  silent : Silent (code line)

theorem mute_nil : Mute [] :=
  ⟨List.not_mem_nil, List.not_mem_nil, silent_nil⟩

theorem mute_comment {t : Text} (hnewline : '\n' ∉ t) (hreturn : '\r' ∉ t) : Mute ('%' :: t) :=
  ⟨List.not_mem_cons_of_ne_of_not_mem (by decide) hnewline,
    List.not_mem_cons_of_ne_of_not_mem (by decide) hreturn, silent_nil⟩

section

variable {ls : List Text} (h : ∀ l ∈ ls, Mute l)
include h

theorem silent_of_mem_lines_unlines :
    ∀ l ∈ (Text.unlines ls).lines, Silent (code l) := by
  rw [Text.lines_unlines fun l hl => ⟨(h l hl).newline, (h l hl).carriageReturn⟩]
  exact fun l hl => (h l hl).silent

theorem validate_unlines : validate (Text.unlines ls) = [] :=
  validate_of_silent (silent_of_mem_lines_unlines h)

theorem scan_unlines (s : Scanner) : s.scan (Text.unlines ls) = .empty :=
  scan_of_silent (silent_of_mem_lines_unlines h) s

end

end Structure

end Manuscript
