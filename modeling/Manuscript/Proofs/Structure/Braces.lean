import Manuscript.Proofs.Text.Lines
import Manuscript.Structure.Basic

/-!
What the brace check finds.

The check goes through the active braces of a text, those that no backslash
takes out of account, and finds nothing exactly if they are balanced. A
backslash counts at most to the end of its line, so for a text without comments
the lines need not be told apart.
-/

namespace Manuscript.Structure

/-- Whether a backslash takes the next character out of account behind a text, given whether one
does so before it. -/
def escaping : Bool → Text → Bool
  | p, [] => p
  | p, c :: rest => escaping (!p && c == '\\') rest

/-- The braces of a text that are not taken out of account. -/
def activeBraces : Bool → Text → Text
  | _, [] => []
  | true, _ :: rest => activeBraces false rest
  | false, c :: rest =>
    if c = '\\' then activeBraces true rest
    else if c = '\x7b' ∨ c = '\x7d' then c :: activeBraces false rest
    else activeBraces false rest

/-- The depth behind a sequence of braces, if each closing one closes an open one. -/
def depthBehind? : Nat → Text → Option Nat
  | n, [] => some n
  | n, c :: rest =>
    if c = '\x7b' then depthBehind? (n + 1) rest
    else if n = 0 then none
    else depthBehind? (n - 1) rest

section

variable {p : Bool} {c : Char} {n m : Nat} {t u : Text}

@[simp] theorem escaping_nil : escaping p [] = p := rfl

@[simp] theorem escaping_cons : escaping p (c :: t) = escaping (!p && c == '\\') t := rfl

@[simp] theorem escaping_append : escaping p (t ++ u) = escaping (escaping p t) u := by
  induction t generalizing p with
  | nil => rfl
  | cons c t ih => exact ih

/-- Behind another character than a backslash none counts. -/
theorem escaping_of_getLast?_ne (h : t.getLast? ≠ some '\\') : escaping false t = false := by
  obtain rfl | ⟨t, c, rfl⟩ := List.eq_nil_or_concat t
  · rfl
  · have hc : c ≠ '\\' := by simpa using h
    simp [hc]

@[simp] theorem activeBraces_nil : activeBraces p [] = [] := by
  cases p <;> rfl

@[simp] theorem activeBraces_escaped : activeBraces true (c :: t) = activeBraces false t := rfl

@[simp] theorem activeBraces_backslash :
    activeBraces false ('\\' :: t) = activeBraces true t := rfl

@[simp] theorem activeBraces_open :
    activeBraces false ('\x7b' :: t) = '\x7b' :: activeBraces false t := rfl

@[simp] theorem activeBraces_close :
    activeBraces false ('\x7d' :: t) = '\x7d' :: activeBraces false t := rfl

theorem activeBraces_other (hback : c ≠ '\\') (hopen : c ≠ '\x7b') (hclose : c ≠ '\x7d') :
    activeBraces false (c :: t) = activeBraces false t := by
  rw [activeBraces, if_neg hback, if_neg (by simp [hopen, hclose])]

@[simp] theorem activeBraces_newline : activeBraces p ('\n' :: t) = activeBraces false t := by
  cases p <;> rfl

theorem activeBraces_append :
    activeBraces p (t ++ u) = activeBraces p t ++ activeBraces (escaping p t) u := by
  induction t generalizing p with
  | nil => simp
  | cons c t ih =>
      rw [List.cons_append, escaping_cons]
      cases p with
      | true => exact ih
      | false =>
          simp only [activeBraces]
          split
          next hc => simp [ih, hc]
          next hc =>
            have hc' : (c == '\\') = false := beq_false_of_ne hc
            split
            next => rw [List.cons_append, ih, hc']; rfl
            next => rw [ih, hc']; rfl

@[simp] theorem depthBehind?_nil : depthBehind? n [] = some n := rfl

@[simp] theorem depthBehind?_open : depthBehind? n ('\x7b' :: t) = depthBehind? (n + 1) t := rfl

@[simp] theorem depthBehind?_close_succ :
    depthBehind? (n + 1) ('\x7d' :: t) = depthBehind? n t := rfl

@[simp] theorem depthBehind?_close_zero : depthBehind? 0 ('\x7d' :: t) = none := rfl

theorem depthBehind?_append :
    depthBehind? n (t ++ u) = (depthBehind? n t).bind fun m => depthBehind? m u := by
  induction t generalizing n with
  | nil => rfl
  | cons c t ih =>
      rw [List.cons_append, depthBehind?, depthBehind?]
      split
      next => exact ih
      next =>
        split
        next => rfl
        next => exact ih

/-- A pair with nothing in it does not matter behind it. -/
theorem depthBehind?_pair :
    depthBehind? n (t ++ '\x7b' :: '\x7d' :: u) = depthBehind? n (t ++ u) := by
  rw [depthBehind?_append, depthBehind?_append]
  rfl

/-- Below another opening brace everything is one deeper. -/
theorem depthBehind?_succ (h : depthBehind? n t = some m) :
    depthBehind? (n + 1) t = some (m + 1) := by
  induction t generalizing n with
  | nil => simpa using h
  | cons c t ih =>
      rw [depthBehind?] at h ⊢
      split at h
      next hc =>
        rw [if_pos hc]
        exact ih h
      next hc =>
        split at h
        next => cases h
        next hn =>
          rw [if_neg hc, if_neg (Nat.succ_ne_zero n)]
          have := ih h
          rwa [Nat.sub_add_cancel (Nat.pos_of_ne_zero hn)] at this

/-- A pair of braces put around a part does not matter behind it. -/
theorem depthBehind?_enclose {before inner after : Text}
    (h : depthBehind? n (before ++ (inner ++ after)) = some m) :
    depthBehind? n (before ++ '\x7b' :: (inner ++ '\x7d' :: after)) = some m := by
  rw [depthBehind?_append, Option.bind_eq_some_iff] at h ⊢
  obtain ⟨a, hbefore, h⟩ := h
  refine ⟨a, hbefore, ?_⟩
  -- the part comes one deeper to its end, and the closing brace takes this away
  rw [depthBehind?_append, Option.bind_eq_some_iff] at h
  obtain ⟨b, hinner, hafter⟩ := h
  rw [depthBehind?_open, depthBehind?_append, depthBehind?_succ hinner]
  exact hafter

end

/-! ### The check -/

/-- What a check that starts at a depth with some issues has made of a sequence of braces. -/
def Checked (n : Nat) (braces : Text) (found : List Issue) (outcome : Nat × List Issue) : Prop :=
  match depthBehind? n braces with
  | some m => outcome = (m, found)
  | none => found.length < outcome.2.length

namespace Checked

variable {n : Nat} {braces more : Text} {found : List Issue} {outcome next : Nat × List Issue}

theorem length_le (h : Checked n braces found outcome) : found.length ≤ outcome.2.length := by
  rw [Checked] at h
  split at h
  next => exact Nat.le_of_eq (congrArg (·.2.length) h).symm
  next => exact Nat.le_of_lt h

theorem append (h : Checked n braces found outcome)
    (hnext : Checked outcome.1 more outcome.2 next) : Checked n (braces ++ more) found next := by
  have hle := hnext.length_le
  rw [Checked, depthBehind?_append]
  rw [Checked] at h
  cases hdepth : depthBehind? n braces with
  | none =>
      rw [hdepth] at h
      exact Nat.lt_of_lt_of_le h hle
  -- without an issue so far, the second part starts where the first one ends
  | some m =>
      rw [hdepth] at h
      rw [h] at hnext
      exact hnext

/-- A closing brace at depth 0 is an issue that stays. -/
theorem unexpected {issue : Issue} (h : Checked n braces (issue :: found) outcome) :
    Checked 0 ('\x7d' :: braces) found outcome := by
  have hle := h.length_le
  exact Nat.lt_of_lt_of_le (Nat.lt_succ_self found.length) hle

theorem iff_of_nil (h : Checked n braces [] outcome) :
    outcome.2 = [] ∧ outcome.1 = 0 ↔ depthBehind? n braces = some 0 := by
  rw [Checked] at h
  cases hdepth : depthBehind? n braces with
  | none =>
      rw [hdepth] at h
      have hne : outcome.2 ≠ [] := List.length_pos_iff.mp h
      simp [hne]
  | some m =>
      rw [hdepth] at h
      obtain rfl : outcome = (m, []) := h
      simp

end Checked

theorem readBraces_other {line : Nat} {c : Char} {t : Text} {n : Nat} {found : List Issue}
    (hback : c ≠ '\\') (hopen : c ≠ '\x7b') (hclose : c ≠ '\x7d') :
    readBraces line (c :: t) n found = readBraces line t n found := by
  rw [readBraces.eq_def]
  split <;> simp_all

/-- Induction along a line as the check reads it. -/
theorem readingInduction (line : Nat) {motive : Text → Nat → List Issue → Prop}
    (nil : ∀ n found, motive [] n found) (lone : ∀ n found, motive ['\\'] n found)
    (escaped : ∀ c t n found, motive t n found → motive ('\\' :: c :: t) n found)
    (opening : ∀ t n found, motive t (n + 1) found → motive ('\x7b' :: t) n found)
    (unexpected : ∀ t found, motive t 0 (.unexpectedClosingBrace line :: found) →
      motive ('\x7d' :: t) 0 found)
    (closing : ∀ t n found, motive t n found → motive ('\x7d' :: t) (n + 1) found)
    (other : ∀ c t n found, c ≠ '\\' → c ≠ '\x7b' → c ≠ '\x7d' → motive t n found →
      motive (c :: t) n found)
    (t : Text) (n : Nat) (found : List Issue) : motive t n found := by
  fun_induction readBraces line t n found with
  | case1 n found => exact nil n found
  | case2 n found => exact lone n found
  | case3 c t n found ih => exact escaped c t n found ih
  | case4 t n found ih => exact opening t n found ih
  | case5 t found ih => exact unexpected t found ih
  | case6 t n found ih => exact closing t n found ih
  -- no earlier case of the definition applies, so the character does not count
  | case7 c t n found hlast hback hopen hzero hclose ih =>
      refine other c t n found ?_ (fun hc => hopen hc) ?_ ih
      · rintro rfl
        cases t with
        | nil => exact hlast rfl rfl
        | cons d t => exact hback d t rfl rfl
      · intro hc
        cases n with
        | zero => exact hzero rfl hc
        | succ n => exact hclose n rfl hc

theorem checked_readBraces (line : Nat) (t : Text) (n : Nat) (found : List Issue) :
    Checked n (activeBraces false t) found (readBraces line t n found) := by
  induction t, n, found using readingInduction line with
  | nil => rfl
  | lone => rfl
  | escaped c t n found ih => exact ih
  | opening t n found ih => exact ih
  | unexpected t found ih => exact ih.unexpected
  | closing t n found ih => exact ih
  | other c t n found hback hopen hclose ih =>
      rw [activeBraces_other hback hopen hclose, readBraces_other hback hopen hclose]
      exact ih

/-- Behind a text the check goes on with what the text leaves of the rest. -/
theorem readBraces_append (line : Nat) (t u : Text) (n : Nat) (found : List Issue) :
    readBraces line (t ++ u) n found =
      readBraces line (if escaping false t then u.drop 1 else u) (readBraces line t n found).1
        (readBraces line t n found).2 := by
  induction t, n, found using readingInduction line with
  | nil => rfl
  | lone => cases u <;> rfl
  | escaped c t n found ih => exact ih
  | opening t n found ih => exact ih
  | unexpected t found ih => exact ih
  | closing t n found ih => exact ih
  | other c t n found hback hopen hclose ih =>
      have hnot : (c == '\\') = false := beq_false_of_ne hback
      rw [List.cons_append, readBraces_other hback hopen hclose, ih,
        readBraces_other hback hopen hclose, escaping_cons, hnot, Bool.and_false]

theorem checked_lines (codes : List (Nat × Text)) (n : Nat) (found : List Issue) :
    Checked n (codes.flatMap fun code => activeBraces false code.2) found
      (codes.foldl (fun (n, found) (line, code) => readBraces line code n found) (n, found)) := by
  induction codes generalizing n found with
  | nil => rfl
  | cons code codes ih =>
      rw [List.flatMap_cons, List.foldl_cons]
      exact (checked_readBraces code.1 code.2 n found).append (ih _ _)

/-- What is read in the code of each line does not depend on the number of the line. -/
theorem flatMap_codeLines {α : Type} (f : Text → List α) (t : Text) :
    ((codeLines t).flatMap fun code => f code.2) =
      t.lines.flatMap fun line => f (Scan.code line) := by
  have hfst : ∀ lines : List (Text × Nat),
      (lines.flatMap fun line => f (Scan.code line.1)) =
        (lines.map Prod.fst).flatMap fun line => f (Scan.code line) := by
    intro lines
    rw [List.flatMap_map]
  simp only [codeLines, List.flatMap_map]
  rw [hfst, List.zipIdx_map_fst]

/-- The check finds nothing exactly if the active braces of all lines are balanced. -/
theorem checkBraces_eq_nil_iff (t : Text) :
    checkBraces t = [] ↔
      depthBehind? 0 (t.lines.flatMap fun line => activeBraces false (Scan.code line)) =
        some 0 := by
  rw [← flatMap_codeLines, ← (checked_lines (codeLines t) 0 []).iff_of_nil, checkBraces]
  simp

/-! ### Texts without comments -/

theorem codeFrom_eq_self {before : Option Char} {t : Text} (h : '%' ∉ t) :
    Scan.codeFrom before t = t := by
  induction t generalizing before with
  | nil => rfl
  | cons c t ih =>
      obtain ⟨hc, ht⟩ := not_or.mp (List.mem_cons.not.mp h)
      rw [Scan.codeFrom, if_neg (fun hcomment => hc hcomment.1.symm), ih ht]

theorem code_eq_self {line : Text} (h : '%' ∉ line) : Scan.code line = line :=
  codeFrom_eq_self h

theorem mem_endLine {c : Char} {begun : Text} (h : c ∈ Text.endLine begun) : c ∈ begun := by
  rw [Text.endLine.eq_def] at h
  split at h
  next => exact List.mem_cons_of_mem _ (List.mem_reverse.mp h)
  next => exact List.mem_reverse.mp h

theorem mem_of_mem_linesFrom {c : Char} {begun t line : Text}
    (hline : line ∈ Text.linesFrom begun t) (hc : c ∈ line) : c ∈ begun ∨ c ∈ t := by
  induction t generalizing begun with
  | nil =>
      rw [Text.linesFrom_nil] at hline
      split at hline
      next => cases hline
      next =>
        rw [List.mem_singleton.mp hline] at hc
        exact .inl (List.mem_reverse.mp hc)
  | cons d t ih =>
      rw [Text.linesFrom_cons] at hline
      split at hline
      next =>
        rcases List.mem_cons.mp hline with rfl | hline
        · exact .inl (mem_endLine hc)
        · rcases ih hline with h | h
          · cases h
          · exact .inr (List.mem_cons_of_mem _ h)
      next =>
        rcases ih hline with h | h
        · rcases List.mem_cons.mp h with rfl | h
          · exact .inr List.mem_cons_self
          · exact .inl h
        · exact .inr (List.mem_cons_of_mem _ h)

/-- The carriage return that belongs to the ending of a line is no brace. -/
theorem activeBraces_endLine (begun : Text) :
    activeBraces false (Text.endLine begun) = activeBraces false begun.reverse := by
  rw [Text.endLine.eq_def]
  split
  next before =>
    rw [List.reverse_cons, activeBraces_append]
    cases escaping false before.reverse with
    | true => simp
    | false => simp [activeBraces]
  next => rfl

theorem activeBraces_linesFrom (begun t : Text) :
    (Text.linesFrom begun t).flatMap (activeBraces false) =
      activeBraces false (begun.reverse ++ t) := by
  induction t generalizing begun with
  | nil =>
      rw [Text.linesFrom_nil]
      split
      next h => simp [List.isEmpty_iff.mp h]
      next => simp
  | cons c t ih =>
      rw [Text.linesFrom_cons]
      split
      next hc =>
        rw [List.flatMap_cons, activeBraces_endLine, ih, hc, List.reverse_nil, List.nil_append,
          activeBraces_append, activeBraces_newline]
      next => rw [ih, List.reverse_cons, List.append_assoc, List.singleton_append]

/-- In a text without comments the check reads all braces, whatever the lines. -/
theorem checkBraces_eq_nil_iff_of_not_mem {t : Text} (h : '%' ∉ t) :
    checkBraces t = [] ↔ depthBehind? 0 (activeBraces false t) = some 0 := by
  have hlines : (t.lines.flatMap fun line => activeBraces false (Scan.code line)) =
      t.lines.flatMap (activeBraces false) := by
    refine List.flatMap_congr fun line hline => ?_
    rw [code_eq_self fun hmem => ?_]
    rcases mem_of_mem_linesFrom hline hmem with hnil | ht
    · cases hnil
    · exact h ht
  rw [checkBraces_eq_nil_iff, hlines, Text.lines, activeBraces_linesFrom]
  rfl

end Manuscript.Structure
