import Manuscript.Json.Printer
import Manuscript.Json.Reader
import Mathlib.Algebra.BigOperators.Group.List.Basic
import Mathlib.Data.List.TakeDrop
import Mathlib.Tactic.SplitIfs

/-!
What is printed is read as it was.

The printer puts between the parts of a value only what the reader skips, and
what it writes of a part shows where the part ends: a string at the first quote
that stands without a backslash, a number where its digits end. So a value is
read up to its end, whatever text follows that does not go on with a number.

This is shown of the values that a text can keep: a number is written as a whole
number, and no string has lost its text.
-/

namespace Manuscript

namespace Text

/-! ### Decimal digits -/

theorem isDigit_of_mem_ofNat {n : Nat} {c : Char} (h : c ∈ ofNat n) : c.isDigit = true :=
  Nat.isDigit_of_mem_toDigits (by omega) (by omega) h

theorem ofNat_ne_nil (n : Nat) : ofNat n ≠ [] :=
  Nat.toDigits_ne_nil

theorem ofDigitChars_ofNat (n : Nat) : Nat.ofDigitChars 10 (ofNat n) 0 = n :=
  Nat.ofDigitChars_ten_toDigits

/-- No zero stands before another digit. -/
theorem ofNat_eq_of_head? {n : Nat} (h : (ofNat n).head? = some '0') : ofNat n = ['0'] := by
  induction n using Nat.strongRecOn with
  | ind n ih =>
      by_cases hn : n < 10
      · have hdigits : ofNat n = [n.digitChar] := Nat.toDigits_of_lt_base hn
        rw [hdigits] at h ⊢
        exact congrArg (· :: []) (Option.some.inj h)
      · have hdigits : ofNat n = ofNat (n / 10) ++ [(n % 10).digitChar] :=
          Nat.toDigits_of_base_le (by omega) (by omega)
        obtain ⟨c, ds, hds⟩ := List.exists_cons_of_ne_nil (ofNat_ne_nil (n / 10))
        have hhead : (ofNat (n / 10)).head? = some '0' := by
          rw [hdigits, hds] at h
          rw [hds]
          exact h
        -- so the digits before the last one would be a zero alone
        have hzero : n / 10 = 0 := by
          rw [← ofDigitChars_ofNat (n / 10), ih (n / 10) (by omega) hhead]
          rfl
        omega

end Text

namespace Json

open Reader

/-! ### Strings -/

theorem hexValue?_hexDigit (n : Nat) : hexValue? (hexDigit n) = some (n % 16) := by
  have hall : ∀ k < 16, hexValue? (Nat.digitChar k) = some k := by decide
  exact hall (n % 16) (Nat.mod_lt n (by omega))

/-- A character is spelled with a letter behind a backslash, by its number, or as it is. -/
theorem escapeChar_cases (c : Char) :
    (∃ k, escapeChar c = ['\\', k] ∧ k ≠ 'u' ∧ shortEscape? k = some c) ∨
      (c.toNat < 32 ∧ escapeChar c =
        ['\\', 'u', '0', '0', hexDigit (c.toNat / 16), hexDigit c.toNat]) ∨
      (c ≠ '"' ∧ c ≠ '\\' ∧ ¬c.toNat < 32 ∧ escapeChar c = [c]) := by
  by_cases hquote : c = '"'
  · exact .inl ⟨'"', by rw [hquote]; rfl, by decide, by rw [hquote]; rfl⟩
  by_cases hbackslash : c = '\\'
  · exact .inl ⟨'\\', by rw [hbackslash]; rfl, by decide, by rw [hbackslash]; rfl⟩
  by_cases hfeed : c = '\n'
  · exact .inl ⟨'n', by rw [hfeed]; rfl, by decide, by rw [hfeed]; rfl⟩
  by_cases hreturn : c = '\r'
  · exact .inl ⟨'r', by rw [hreturn]; rfl, by decide, by rw [hreturn]; rfl⟩
  by_cases htab : c = '\t'
  · exact .inl ⟨'t', by rw [htab]; rfl, by decide, by rw [htab]; rfl⟩
  by_cases hback : c = '\x08'
  · exact .inl ⟨'b', by rw [hback]; rfl, by decide, by rw [hback]; rfl⟩
  by_cases hform : c = '\x0c'
  · exact .inl ⟨'f', by rw [hform]; rfl, by decide, by rw [hform]; rfl⟩
  rw [escapeChar, if_neg hquote, if_neg hbackslash, if_neg hfeed, if_neg hreturn, if_neg htab,
    if_neg hback, if_neg hform]
  by_cases hcontrol : c.toNat < 32
  · exact .inr (.inl ⟨hcontrol, if_pos hcontrol⟩)
  · exact .inr (.inr ⟨hquote, hbackslash, hcontrol, if_neg hcontrol⟩)

theorem unit?_hexDigits {u : Nat} (hu : u < 256) (t : Text) :
    unit? ('0' :: '0' :: hexDigit (u / 16) :: hexDigit u :: t) = some (u, t) := by
  have hzero : hexValue? '0' = some 0 := rfl
  simp only [unit?, hzero, hexValue?_hexDigit, Option.bind_eq_bind, Option.bind_some]
  congr 2
  omega

theorem spelled_control {c : Char} (hc : c.toNat < 32) (t : Text) :
    spelled c.toNat t = (some c, t) := by
  have hhigh : isHigh c.toNat = false := by
    simp only [isHigh, Bool.and_eq_false_iff, decide_eq_false_iff_not]
    omega
  have hlow : isLow c.toNat = false := by
    simp only [isLow, Bool.and_eq_false_iff, decide_eq_false_iff_not]
    omega
  simp only [spelled, hhigh, hlow, Char.ofNat_toNat]
  rfl

theorem chars?_escapeChar (fuel : Nat) (c : Char) (t : Text) (read : Option Text) :
    chars? (fuel + 1) (escapeChar c ++ t) read = chars? fuel t (read.map (c :: ·)) := by
  rcases escapeChar_cases c with ⟨k, hc, hk, hshort⟩ | ⟨hcontrol, hc⟩ |
      ⟨hquote, hbackslash, hcontrol, hc⟩
  · rw [hc, List.cons_append, List.cons_append, List.nil_append, chars?, hshort]
    exact fun h => hk h
  · have hunit : c.toNat < 256 := by omega
    simp only [hc, List.cons_append, List.nil_append, chars?, unit?_hexDigits hunit,
      spelled_control hcontrol]
  · rw [hc, List.cons_append, List.nil_append, chars?, if_neg hcontrol]
    · exact hquote
    · exact fun rest h _ => hbackslash h
    · exact fun k rest h _ => hbackslash h

theorem chars?_flatMap (s : Text) (rest : Text) {fuel : Nat} (hfuel : s.length < fuel)
    (before : Text) :
    chars? fuel (s.flatMap escapeChar ++ '"' :: rest) (some before) =
      some (some (before.reverse ++ s), rest) := by
  induction s generalizing fuel before with
  | nil =>
      obtain ⟨fuel, rfl⟩ : ∃ n, fuel = n + 1 := ⟨fuel - 1, by simp at hfuel; omega⟩
      simp [chars?]
  | cons c s ih =>
      simp only [List.length_cons] at hfuel
      obtain ⟨fuel, rfl⟩ : ∃ n, fuel = n + 1 := ⟨fuel - 1, by omega⟩
      rw [List.flatMap_cons, List.append_assoc, chars?_escapeChar, Option.map_some,
        ih (by omega), List.reverse_cons, List.append_assoc, List.singleton_append]

theorem length_le_flatMap_escapeChar (s : Text) : s.length ≤ (s.flatMap escapeChar).length := by
  have hpos : ∀ n ∈ s.map fun c => (escapeChar c).length, 1 ≤ n := by
    refine List.forall_mem_map.mpr fun c _ => ?_
    rcases escapeChar_cases c with ⟨k, hc, -⟩ | ⟨-, hc⟩ | ⟨-, -, -, hc⟩
    · simp [hc]
    · simp [hc]
    · simp [hc]
  have hle := List.length_le_sum_of_one_le _ hpos
  rwa [List.length_map, ← List.length_flatMap] at hle

theorem string?_flatMap (s : String) (rest : Text) :
    Reader.string? (s.toList.flatMap escapeChar ++ '"' :: rest) = some (some s, rest) := by
  have hfuel : s.toList.length < (s.toList.flatMap escapeChar ++ '"' :: rest).length + 1 := by
    have hle := length_le_flatMap_escapeChar s.toList
    rw [List.length_append]
    omega
  rw [Reader.string?, chars?_flatMap s.toList rest hfuel]
  simp

/-! ### Numbers -/

/-- What does not go on with a number that stands before it. -/
def EndsNumber (t : Text) : Prop :=
  ∀ c ∈ t.head?, c.isDigit = false ∧ c ≠ '.' ∧ isExponentMark c = false

theorem endsNumber_nil : EndsNumber [] := by
  intro c hc
  cases hc

theorem endsNumber_cons {c : Char} {t : Text}
    (h : c.isDigit = false ∧ c ≠ '.' ∧ isExponentMark c = false) : EndsNumber (c :: t) := by
  intro c' hc
  obtain rfl := Option.some.inj hc
  exact h

theorem digits_append {ds rest : Text} (hds : ∀ c ∈ ds, c.isDigit = true)
    (hrest : EndsNumber rest) : digits (ds ++ rest) = (ds, rest) := by
  have hstop : rest.takeWhile Char.isDigit = [] ∧ rest.dropWhile Char.isDigit = rest := by
    cases rest with
    | nil => exact ⟨rfl, rfl⟩
    | cons c rest => simp [(hrest c rfl).1]
  rw [digits, List.span_eq_takeWhile_dropWhile, List.takeWhile_append_of_pos hds,
    List.dropWhile_append_of_pos hds, hstop.1, hstop.2, List.append_nil]

theorem unsigned?_ofNat (n : Nat) {rest : Text} (hrest : EndsNumber rest) :
    unsigned? (Text.ofNat n ++ rest) = some (Text.ofNat n, rest) := by
  have hfraction : fraction? rest = some ([], rest) := by
    cases rest with
    | nil => rfl
    | cons c rest =>
        rw [fraction?]
        rintro more h
        exact (hrest c rfl).2.1 (List.head_eq_of_cons_eq h)
  have hexponent : exponent? rest = some ([], rest) := by
    cases rest with
    | nil => rfl
    | cons c rest =>
        rw [exponent?, (hrest c rfl).2.2]
        rfl
  have hproper : ¬((Text.ofNat n).isEmpty = true ∨
      (Text.ofNat n).head? = some '0' ∧ Text.ofNat n ≠ ['0']) := by
    rintro (hnil | ⟨hzero, hne⟩)
    · exact Text.ofNat_ne_nil n (List.isEmpty_iff.mp hnil)
    · exact hne (Text.ofNat_eq_of_head? hzero)
  rw [unsigned?, digits_append (fun c => Text.isDigit_of_mem_ofNat) hrest]
  simp only [if_neg hproper, hfraction, hexponent, Option.bind_eq_bind, Option.bind_some,
    List.append_nil]

theorem exists_ofNat_cons (n : Nat) : ∃ c ds, Text.ofNat n = c :: ds ∧ c.isDigit = true := by
  obtain ⟨c, ds, hds⟩ := List.exists_cons_of_ne_nil (Text.ofNat_ne_nil n)
  refine ⟨c, ds, hds, Text.isDigit_of_mem_ofNat (n := n) ?_⟩
  rw [hds]
  exact List.mem_cons_self

theorem exists_ofInt_cons (n : Int) :
    ∃ c ds, Text.ofInt n = c :: ds ∧ (c = '-' ∨ c.isDigit = true) := by
  cases n with
  | ofNat n =>
      obtain ⟨c, ds, hds, hc⟩ := exists_ofNat_cons n
      exact ⟨c, ds, hds, .inr hc⟩
  | negSucc n => exact ⟨'-', _, rfl, .inl rfl⟩

theorem number?_ofInt (n : Int) {rest : Text} (hrest : EndsNumber rest) :
    number? (Text.ofInt n ++ rest) = some (Text.ofInt n, rest) := by
  cases n with
  | ofNat n =>
      show number? (Text.ofNat n ++ rest) = some (Text.ofNat n, rest)
      have hread := unsigned?_ofNat n hrest
      obtain ⟨c, ds, hds, hc⟩ := exists_ofNat_cons n
      rw [hds] at hread ⊢
      rw [List.cons_append, number?]
      · exact hread
      · rintro more h
        rw [List.head_eq_of_cons_eq h] at hc
        cases hc
  | negSucc n =>
      show number? ('-' :: (Text.ofNat (n + 1) ++ rest)) = some ('-' :: Text.ofNat (n + 1), rest)
      rw [number?, unsigned?_ofNat (n + 1) hrest]
      rfl

/-! ### Values -/

theorem isSpace_eq_false_of_isDigit {c : Char} (hc : c.isDigit = true) : isSpace c = false := by
  have hne : c ≠ ' ' ∧ c ≠ '\n' ∧ c ≠ '\r' ∧ c ≠ '\t' := by
    refine ⟨?_, ?_, ?_, ?_⟩ <;> (rintro rfl; cases hc)
  simp [isSpace, hne]

theorem skip_cons {c : Char} (hc : isSpace c = false) (t : Text) : skip (c :: t) = c :: t := by
  simp [skip, hc]

@[simp] theorem skip_space (t : Text) : skip (' ' :: t) = skip t := by
  simp [skip, isSpace]

/-- What is set in is read as if it were not. -/
@[simp] theorem skip_indent (depth : Nat) (t : Text) : skip (indent depth ++ t) = skip t := by
  have hblanks : ∀ k, skip (List.replicate k ' ' ++ t) = skip t := by
    intro k
    induction k with
    | zero => rfl
    | succ k ih => rw [List.replicate_succ, List.cons_append, skip_space, ih]
  rw [indent, List.cons_append, ← hblanks (2 * depth)]
  simp [skip, isSpace]

section Printed

variable (depth : Nat) (j : Json) (js : List Json) (m : String × Json) (ms : List (String × Json))

theorem prettyItems_nil : prettyItems depth [] = [] := rfl

theorem prettyItems_cons : prettyItems depth (j :: js) =
    ',' :: indent depth ++ pretty depth j ++ prettyItems depth js :=
  rfl

theorem prettyMembers_nil : prettyMembers depth [] = [] := rfl

theorem prettyMembers_cons : prettyMembers depth (m :: ms) =
    ',' :: indent depth ++ literal m.1 ++ [':', ' '] ++ pretty depth m.2 ++
      prettyMembers depth ms :=
  rfl

theorem pretty_array : pretty depth (.array (j :: js)) =
    '[' :: indent (depth + 1) ++ pretty (depth + 1) j ++ prettyItems (depth + 1) js ++
      indent depth ++ [']'] :=
  rfl

theorem pretty_object : pretty depth (.object (m :: ms)) =
    '\x7b' :: indent (depth + 1) ++ literal m.1 ++ [':', ' '] ++ pretty (depth + 1) m.2 ++
      prettyMembers (depth + 1) ms ++ indent depth ++ ['\x7d'] :=
  rfl

end Printed

theorem endsNumber_indent (depth : Nat) (t : Text) : EndsNumber (indent depth ++ t) :=
  endsNumber_cons (by decide)

theorem endsNumber_prettyItems (depth : Nat) (items : List Json) {t : Text} (ht : EndsNumber t) :
    EndsNumber (prettyItems depth items ++ t) := by
  cases items with
  | nil => exact ht
  | cons j js => exact endsNumber_cons (by decide)

theorem endsNumber_prettyMembers (depth : Nat) (members : List (String × Json)) {t : Text}
    (ht : EndsNumber t) : EndsNumber (prettyMembers depth members ++ t) := by
  cases members with
  | nil => exact ht
  | cons m ms => exact endsNumber_cons (by decide)

/-- A value that is read from its text up to where the text ends, and that the reader does not
take for blanks or the end of an array. -/
structure ReadsBack (depth : Nat) (j : Json) : Prop where
  starts : ∃ c t, pretty depth j = c :: t ∧ isSpace c = false ∧ c ≠ ']'
  reads : ∀ fuel rest, EndsNumber rest → (pretty depth j).length ≤ fuel →
    value? fuel (pretty depth j ++ rest) = some (j, rest)

section Parts

variable {depth : Nat} {j : Json}

/-- No value is printed as nothing, so it is enough to read with some fuel. -/
theorem ReadsBack.of_succ (starts : ∃ c t, pretty depth j = c :: t ∧ isSpace c = false ∧ c ≠ ']')
    (reads : ∀ fuel rest, EndsNumber rest → (pretty depth j).length ≤ fuel + 1 →
      value? (fuel + 1) (pretty depth j ++ rest) = some (j, rest)) : ReadsBack depth j where
  starts := starts
  reads := by
    intro fuel rest hrest hfuel
    cases fuel with
    | zero =>
        obtain ⟨c, t, hc, -⟩ := starts
        rw [hc, List.length_cons] at hfuel
        omega
    | succ fuel => exact reads fuel rest hrest hfuel

theorem ReadsBack.skip_append (h : ReadsBack depth j) (t : Text) :
    skip (pretty depth j ++ t) = pretty depth j ++ t := by
  obtain ⟨c, more, hc, hspace, -⟩ := h.starts
  rw [hc, List.cons_append, skip_cons hspace]

theorem ReadsBack.length_pos (h : ReadsBack depth j) : 0 < (pretty depth j).length := by
  obtain ⟨c, more, hc, -⟩ := h.starts
  rw [hc, List.length_cons]
  omega

theorem items?_pretty {js : List Json} (hread : ∀ k ∈ j :: js, ReadsBack depth k)
    (outer : Nat) (rest : Text) {fuel : Nat}
    (hfuel : (pretty depth j).length + (prettyItems depth js).length < fuel) :
    items? fuel (pretty depth j ++ (prettyItems depth js ++ (indent outer ++ ']' :: rest))) =
      some (j :: js, rest) := by
  induction js generalizing j fuel with
  | nil =>
      obtain ⟨fuel, rfl⟩ : ∃ k, fuel = k + 1 := ⟨fuel - 1, by omega⟩
      have hj := (hread j List.mem_cons_self).reads fuel (indent outer ++ ']' :: rest)
        (endsNumber_indent _ _) (by omega)
      simp only [prettyItems_nil, List.nil_append, items?, hj, skip_indent,
        skip_cons (c := ']') rfl]
  | cons k ks ih =>
      obtain ⟨fuel, rfl⟩ : ∃ k, fuel = k + 1 := ⟨fuel - 1, by omega⟩
      have hk := hread k (List.mem_cons_of_mem _ List.mem_cons_self)
      have hlength : (pretty depth j).length ≤ fuel ∧
          (pretty depth k).length + (prettyItems depth ks).length < fuel := by
        have hpos := (hread j List.mem_cons_self).length_pos
        simp only [prettyItems_cons, List.length_append, List.length_cons] at hfuel
        omega
      have hj := (hread j List.mem_cons_self).reads fuel
        (prettyItems depth (k :: ks) ++ (indent outer ++ ']' :: rest))
        (endsNumber_prettyItems _ _ (endsNumber_indent _ _)) hlength.1
      have hks := ih (fun x hx => hread x (List.mem_cons_of_mem _ hx)) hlength.2
      rw [items?, hj]
      simp only [prettyItems_cons, List.cons_append, List.append_assoc, skip_cons (c := ',') rfl,
        skip_indent, hk.skip_append, hks, Option.map_some]

theorem literal_append (name : String) (t : Text) :
    literal name ++ t = '"' :: (name.toList.flatMap escapeChar ++ '"' :: t) := by
  simp [literal]

theorem skip_literal (name : String) (t : Text) : skip (literal name ++ t) = literal name ++ t := by
  rw [literal_append, skip_cons rfl]

theorem members?_pretty (name : String) {ms : List (String × Json)}
    (hread : ∀ m ∈ (name, j) :: ms, ReadsBack depth m.2) (outer : Nat) (rest : Text) {fuel : Nat}
    (hfuel : (pretty depth j).length + (prettyMembers depth ms).length < fuel) :
    members? fuel (literal name ++ (':' :: ' ' ::
        (pretty depth j ++ (prettyMembers depth ms ++ (indent outer ++ '\x7d' :: rest))))) =
      some (some ((name, j) :: ms), rest) := by
  induction ms generalizing name j fuel with
  | nil =>
      obtain ⟨fuel, rfl⟩ : ∃ k, fuel = k + 1 := ⟨fuel - 1, by omega⟩
      have hj : ReadsBack depth j := hread (name, j) List.mem_cons_self
      have hvalue := hj.reads fuel (indent outer ++ '\x7d' :: rest) (endsNumber_indent _ _)
        (by omega)
      simp only [literal_append, members?, string?_flatMap, skip_cons (c := ':') rfl, skip_space,
        prettyMembers_nil, List.nil_append, hj.skip_append, hvalue, skip_indent,
        skip_cons (c := '\x7d') rfl, Option.map_some]
  | cons m ms ih =>
      obtain ⟨fuel, rfl⟩ : ∃ k, fuel = k + 1 := ⟨fuel - 1, by omega⟩
      have hj : ReadsBack depth j := hread (name, j) List.mem_cons_self
      have hlength : (pretty depth j).length ≤ fuel ∧
          (pretty depth m.2).length + (prettyMembers depth ms).length < fuel := by
        have hpos := hj.length_pos
        simp only [prettyMembers_cons, List.length_append, List.length_cons] at hfuel
        omega
      have hvalue := hj.reads fuel
        (prettyMembers depth (m :: ms) ++ (indent outer ++ '\x7d' :: rest))
        (endsNumber_prettyMembers _ _ (endsNumber_indent _ _)) hlength.1
      have hms := ih m.1 (fun x hx => hread x (List.mem_cons_of_mem _ hx)) hlength.2
      rw [literal_append, members?]
      simp only [string?_flatMap, skip_cons (c := ':') rfl, skip_space, hj.skip_append, hvalue]
      simp only [prettyMembers_cons, List.cons_append, List.nil_append, List.append_assoc,
        skip_cons (c := ',') rfl, skip_indent]
      rw [skip_literal, hms]
      rfl

end Parts

theorem value?_quote (fuel : Nat) (t : Text) : value? (fuel + 1) ('"' :: t) =
    match Reader.string? t with
    | some (some s, rest) => some (.string s, rest)
    | some (none, rest) => some (.garbled, rest)
    | none => none :=
  rfl

theorem value?_bracket (fuel : Nat) (t : Text) : value? (fuel + 1) ('[' :: t) =
    match skip t with
    | ']' :: rest => some (.array [], rest)
    | rest => (items? fuel rest).map fun (js, rest) => (.array js, rest) :=
  rfl

theorem value?_brace (fuel : Nat) (t : Text) : value? (fuel + 1) ('\x7b' :: t) =
    match skip t with
    | '\x7d' :: rest => some (.object [], rest)
    | rest => (members? fuel rest).map fun
      | (some ms, rest) => (.object ms, rest)
      | (none, rest) => (.garbled, rest) :=
  rfl

theorem value?_array {fuel : Nat} {t rest : Text} {js : List Json}
    (hopen : ∀ more, skip t ≠ ']' :: more) (hitems : items? fuel (skip t) = some (js, rest)) :
    value? (fuel + 1) ('[' :: t) = some (.array js, rest) := by
  rw [value?_bracket]
  split
  · next more h => exact absurd h (hopen more)
  · rw [hitems, Option.map_some]

theorem value?_object {fuel : Nat} {t rest : Text} {ms : List (String × Json)}
    (hopen : ∀ more, skip t ≠ '\x7d' :: more)
    (hmembers : members? fuel (skip t) = some (some ms, rest)) :
    value? (fuel + 1) ('\x7b' :: t) = some (.object ms, rest) := by
  rw [value?_brace]
  split
  · next more h => exact absurd h (hopen more)
  · rw [hmembers, Option.map_some]

theorem readsBack_null (depth : Nat) : ReadsBack depth .null := by
  refine .of_succ ⟨'n', _, rfl, by decide, by decide⟩ ?_
  exact fun fuel rest _ _ => rfl

theorem readsBack_bool (depth : Nat) (b : Bool) : ReadsBack depth (.bool b) := by
  cases b with
  | true =>
      refine .of_succ ⟨'t', _, rfl, by decide, by decide⟩ ?_
      exact fun fuel rest _ _ => rfl
  | false =>
      refine .of_succ ⟨'f', _, rfl, by decide, by decide⟩ ?_
      exact fun fuel rest _ _ => rfl

theorem readsBack_string (depth : Nat) (s : String) : ReadsBack depth (.string s) := by
  refine .of_succ ⟨'"', _, rfl, by decide, by decide⟩ ?_
  intro fuel rest _ _
  rw [show pretty depth (.string s) = literal s from rfl, literal_append, value?_quote,
    string?_flatMap]

theorem readsBack_whole (depth : Nat) (i : Int) :
    ReadsBack depth (.number (Text.ofInt i)) := by
  obtain ⟨c, ds, hds, hc⟩ := exists_ofInt_cons i
  refine .of_succ ⟨c, ds, hds, ?_, ?_⟩ ?_
  · rcases hc with rfl | hc
    · rfl
    · exact isSpace_eq_false_of_isDigit hc
  · rintro rfl
    rcases hc with hc | hc
    · cases hc
    · cases hc
  · intro fuel rest hrest _
    have hread := number?_ofInt i hrest
    rw [hds, List.cons_append] at hread
    rw [show pretty depth (.number (Text.ofInt i)) = Text.ofInt i from rfl, hds, List.cons_append]
    -- no other value begins with a minus sign or a digit
    have hother : ∀ c' more, c' ≠ '-' ∧ c'.isDigit = false → c :: (ds ++ rest) ≠ c' :: more := by
      rintro c' more ⟨hminus, hdigit⟩ h
      obtain rfl := List.head_eq_of_cons_eq h
      rcases hc with hc | hc
      · exact hminus hc
      · rw [hdigit] at hc
        cases hc
    rw [value?, hread, Option.map_some]
    · exact fun more => hother '"' more (by decide)
    · exact fun more => hother '[' more (by decide)
    · exact fun more => hother '\x7b' more (by decide)
    · exact fun more => hother 'n' _ (by decide)
    · exact fun more => hother 't' _ (by decide)
    · exact fun more => hother 'f' _ (by decide)

theorem readsBack_array {depth : Nat} {items : List Json}
    (h : ∀ j ∈ items, ReadsBack (depth + 1) j) : ReadsBack depth (.array items) := by
  cases items with
  | nil =>
      refine .of_succ ⟨'[', _, rfl, by decide, by decide⟩ ?_
      exact fun fuel rest _ _ => rfl
  | cons j js =>
      refine .of_succ ⟨'[', _, rfl, by decide, by decide⟩ ?_
      intro fuel rest _ hfuel
      have hinner :
          (pretty (depth + 1) j).length + (prettyItems (depth + 1) js).length < fuel := by
        simp only [pretty_array, List.length_append, List.length_cons] at hfuel
        omega
      have hitems := items?_pretty h depth rest hinner
      have hj := h j List.mem_cons_self
      simp only [pretty_array, List.cons_append, List.nil_append, List.append_assoc]
      refine value?_array ?_ (by rw [skip_indent, hj.skip_append, hitems])
      intro more
      obtain ⟨c, t, hc, -, hne⟩ := hj.starts
      rw [skip_indent, hj.skip_append, hc, List.cons_append]
      exact fun h => hne (List.head_eq_of_cons_eq h)

theorem readsBack_object {depth : Nat} {members : List (String × Json)}
    (h : ∀ m ∈ members, ReadsBack (depth + 1) m.2) : ReadsBack depth (.object members) := by
  cases members with
  | nil =>
      refine .of_succ ⟨'\x7b', _, rfl, by decide, by decide⟩ ?_
      exact fun fuel rest _ _ => rfl
  | cons m ms =>
      refine .of_succ ⟨'\x7b', _, rfl, by decide, by decide⟩ ?_
      intro fuel rest _ hfuel
      have hinner :
          (pretty (depth + 1) m.2).length + (prettyMembers (depth + 1) ms).length < fuel := by
        simp only [pretty_object, List.length_append, List.length_cons] at hfuel
        omega
      have hmembers := members?_pretty m.1 h depth rest hinner
      simp only [pretty_object, List.cons_append, List.nil_append, List.append_assoc]
      refine value?_object ?_ (by rw [skip_indent, skip_literal, hmembers])
      intro more
      rw [skip_indent, skip_literal, literal_append]
      exact fun h => absurd (List.head_eq_of_cons_eq h) (by decide)

/-- A value that its text keeps: numbers are whole and of 64 bits at most, strings spell texts, and
no more than `n` arrays and objects are inside each other. -/
inductive Exact : Nat → Json → Prop
  | null (n : Nat) : Exact n .null
  | bool (n : Nat) (b : Bool) : Exact n (.bool b)
  | whole (n : Nat) (i : Int) (h : i.natAbs < Text.countLimit) : Exact n (.number (Text.ofInt i))
  | string (n : Nat) (s : String) : Exact n (.string s)
  | array {n : Nat} {items : List Json} (h : ∀ j ∈ items, Exact n j) : Exact (n + 1) (.array items)
  | object {n : Nat} {members : List (String × Json)} (h : ∀ m ∈ members, Exact n m.2) :
      Exact (n + 1) (.object members)

theorem Exact.readsBack {n : Nat} {j : Json} (h : Exact n j) (depth : Nat) :
    ReadsBack depth j := by
  induction h generalizing depth with
  | null => exact readsBack_null depth
  | bool n b => exact readsBack_bool depth b
  | whole n i => exact readsBack_whole depth i
  | string n s => exact readsBack_string depth s
  | array h ih => exact readsBack_array fun j hj => ih j hj (depth + 1)
  | object h ih => exact readsBack_object fun m hm => ih m hm (depth + 1)

theorem ofText?_pretty {n : Nat} {j : Json} (h : Exact n j) : ofText? (j.pretty 0) = some j := by
  have hread := h.readsBack 0
  have hskip : skip (pretty 0 j) = pretty 0 j := by
    simpa using hread.skip_append []
  have hvalue := hread.reads ((pretty 0 j).length + 1) [] endsNumber_nil (by omega)
  rw [List.append_nil] at hvalue
  rw [ofText?, hskip, hvalue]
  rfl

end Json

end Manuscript
