import Manuscript.Proofs.Scan.Declared
import Manuscript.Proofs.Scan.Removal
import Manuscript.Proofs.Structure.Braces

/-!
Lines as they are usually written.

A line is a sequence of parts, plain text, commands with plain options and
argument, and commands without an argument, and maybe a comment. The parts can
be told from the text: a search for commands of a kind finds just those parts
that are commands of the kind. What is left over is the line of the others.
-/

namespace Manuscript.Scan

open CharClass Pattern

/-- The characters that plain text is free of. -/
def special : List Char :=
  ['\\', '\x7b', '\x7d', '[', ']', '%']

abbrev Plain (t : Text) : Prop :=
  (noneOf special).All t

structure Command.IsPlain (c : Command) : Prop where
  options : ∀ o ∈ c.options, Plain o.inside
  argument : Plain c.argument

/-- A part of a line. What stands behind a bare command is another part, or nothing. -/
inductive Part
  | plain (t : Text) (free : Plain t)
  | command (c : Command) (simple : c.IsPlain)
  | bare (name : Text) (letters : letter.All name) (named : name ≠ [])

namespace Part

def text : Part → Text
  | plain t _ => t
  | command c _ => c.text
  | bare name _ _ => '\\' :: name

def command? : Part → Option Command
  | plain _ _ => none
  | command c _ => some c
  | bare _ _ _ => none

def of (kind : Command → Prop) [DecidablePred kind] (x : Part) : Option Command :=
  x.command?.filter fun c => decide (kind c)

section

variable {kind : Command → Prop} [DecidablePred kind] {c : Command} {simple : c.IsPlain}

theorem of_command (h : kind c) : (command c simple).of kind = some c := by
  simp [of, command?, Option.filter, h]

theorem of_command_not (h : ¬kind c) : (command c simple).of kind = none := by
  simp [of, command?, Option.filter, h]

end

end Part

/-- What the parts are written as. -/
def source (parts : List Part) : Text :=
  parts.flatMap Part.text

@[simp] theorem source_nil : source [] = [] := rfl

@[simp] theorem source_cons (x : Part) (parts : List Part) :
    source (x :: parts) = x.text ++ source parts := rfl

theorem notMem_of_plain {t : Text} {c : Char} (h : Plain t) (hc : c ∈ special) : c ∉ t :=
  fun hmem => has_noneOf.mp (h c hmem) hc

theorem Plain.of_letters {t : Text} (h : letter.All t) : Plain t :=
  h.noneOf (by decide)

theorem Plain.of_blanks {t : Text} (h : blank.All t) : Plain t :=
  h.noneOf (by decide)

theorem Plain.without {t : Text} {c : Char} (h : Plain t) (hc : c ∈ special) :
    (noneOf [c]).All t := by
  refine All.noneOf h ?_
  rw [List.all_cons, List.all_nil, Bool.and_true, Bool.not_eq_true', ← Bool.not_eq_true,
    has_noneOf, not_not]
  exact hc

/-- The parts of a plain command with no white space behind its options. -/
abbrev Command.Writable (name gap : Text) (options : Option Text) (argument : Text) : Prop :=
  letter.All name ∧ CharClass.blank.All gap ∧ (∀ o ∈ options, Plain o) ∧ argument ≠ [] ∧
    Plain argument

def Command.written (name gap : Text) (options : Option Text) (argument : Text)
    (h : Writable name gap options argument) : Command where
  name := name
  gap := gap
  options := options.pmap (fun o ho => ⟨o, [], Plain.without ho (by decide), all_nil _⟩) h.2.2.1
  argument := argument
  letters := h.1
  blank := h.2.1
  filled := h.2.2.2.1
  closed := Plain.without h.2.2.2.2 (by decide)

theorem Command.written_isPlain {name gap : Text} {options : Option Text} {argument : Text}
    (h : Writable name gap options argument) : (written name gap options argument h).IsPlain := by
  refine ⟨fun o ho => ?_, h.2.2.2.2⟩
  rw [written, Option.mem_def, Option.pmap_eq_some_iff] at ho
  obtain ⟨t, ht, -, rfl⟩ := ho
  exact ht

def Part.written (name gap : Text) (options : Option Text) (argument : Text)
    (h : Command.Writable name gap options argument) : Part :=
  .command (.written name gap options argument h) (Command.written_isPlain h)

/-- Behind its backslash, a plain command has none. -/
theorem Command.IsPlain.text_eq {c : Command} (h : c.IsPlain) :
    ∃ t, c.text = '\\' :: t ∧ '\\' ∉ t ∧ '%' ∉ t := by
  refine ⟨_, rfl, ?_⟩
  have hback {t : Text} (ht : Plain t) : '\\' ∉ t := notMem_of_plain ht (by decide)
  have hpercent {t : Text} (ht : Plain t) : '%' ∉ t := notMem_of_plain ht (by decide)
  have hname := Plain.of_letters c.letters
  have hgap := Plain.of_blanks c.blank
  have hargument := h.argument
  rw [Command.middle]
  cases hoptions : c.options with
  | none => simp [hback, hpercent, hname, hgap, hargument]
  | some o =>
      have hinside := h.options o hoptions
      have hbehind := Plain.of_blanks o.blank
      simp [hback, hpercent, hname, hgap, hargument, hinside, hbehind, Options.text]

theorem Part.percent_notMem (x : Part) : '%' ∉ x.text := by
  cases x with
  | plain t free => exact notMem_of_plain free (by decide)
  | command c simple =>
      obtain ⟨t, htext, -, ht⟩ := simple.text_eq
      simp [Part.text, htext, ht]
  | bare name letters named =>
      have := notMem_of_plain (Plain.of_letters letters) (c := '%') (by decide)
      simp [Part.text, this]

theorem Part.getLast?_ne (x : Part) : x.text.getLast? ≠ some '\\' := by
  have hlast {t : Text} (ht : Plain t) : t.getLast? ≠ some '\\' :=
    fun h => notMem_of_plain ht (by decide) (List.mem_of_getLast? h)
  cases x with
  | plain t free => exact hlast free
  | command c simple => simp [Part.text, Command.text_eq_front]
  | bare name letters named =>
      obtain ⟨d, name, rfl⟩ := List.exists_cons_of_ne_nil named
      rw [Part.text, List.getLast?_cons_cons]
      exact hlast (Plain.of_letters letters)

theorem percent_notMem_source (parts : List Part) : '%' ∉ source parts := by
  intro h
  obtain ⟨x, -, hx⟩ := List.mem_flatMap.mp h
  exact x.percent_notMem hx

theorem getLast?_source_ne (parts : List Part) : (source parts).getLast? ≠ some '\\' := by
  induction parts with
  | nil => simp
  | cons x parts ih =>
      rw [source_cons, List.getLast?_append]
      cases h : (source parts).getLast? with
      | none => exact x.getLast?_ne
      | some c => rwa [h] at ih

/-! ### Where a command begins -/

/-- Up to the next command, a source is plain. -/
theorem source_eq (parts : List Part) :
    ∃ u v, source parts = u ++ v ∧ Plain u ∧ ∀ c ∈ v.head?, c = '\\' := by
  induction parts with
  | nil => exact ⟨[], [], rfl, all_nil _, by simp⟩
  | cons x parts ih =>
      cases x with
      | plain t free =>
          obtain ⟨u, v, hsource, hu, hv⟩ := ih
          refine ⟨t ++ u, v, ?_, all_append.mpr ⟨free, hu⟩, hv⟩
          rw [source_cons, hsource, Part.text, List.append_assoc]
      | command c simple => exact ⟨[], _, rfl, all_nil _, by rintro _ ⟨⟩; rfl⟩
      | bare name letters named => exact ⟨[], _, rfl, all_nil _, by rintro _ ⟨⟩; rfl⟩

/-- No command with an argument begins where a bare one does. -/
theorem Command.not_isPrefix_bare (c : Command) {name : Text} (h : letter.All name)
    (parts : List Part) : ¬c.text <+: '\\' :: (name ++ source parts) := by
  rintro ⟨r, hr⟩
  obtain ⟨u, v, hsource, hu, hv⟩ := source_eq parts
  -- up to its options or its argument a command is plain, and neither begins with a backslash
  obtain ⟨d, w, hmiddle, hspecial, hd⟩ : ∃ d w, c.middle ++ '\x7b' :: (c.argument ++ ['\x7d']) =
      c.gap ++ d :: w ∧ (noneOf special).has d = false ∧ d ≠ '\\' := by
    rw [Command.middle, List.append_assoc]
    cases c.options with
    | none => exact ⟨_, _, rfl, by decide, by decide⟩
    | some o => exact ⟨_, _, rfl, by decide, by decide⟩
  rw [Command.text, hmiddle, hsource, List.cons_append, List.cons.injEq] at hr
  have hplain : Plain (c.name ++ c.gap) :=
    all_append.mpr ⟨Plain.of_letters c.letters, Plain.of_blanks c.blank⟩
  have hstop : (noneOf special).Stops v := by
    intro e he
    rw [hv e he]
    decide
  obtain ⟨-, rfl⟩ := run_unique hplain (all_append.mpr ⟨Plain.of_letters h, hu⟩)
    (stops_cons hspecial (w ++ r)) hstop (by simpa using hr.2)
  exact hd (hv d rfl)

/-! ### What a search finds -/

namespace ReadsCommands

variable {p : Pattern} {kind : Command → Prop} (hp : ReadsCommands p kind)
include hp

theorem pieces_quiet {t : Text} (h : '\\' ∉ t) (u : Text) :
    pieces p (t ++ u) = t.map .kept ++ pieces p u := by
  induction t with
  | nil => rfl
  | cons x t ih =>
      obtain ⟨hx, ht⟩ := not_or.mp (List.mem_cons.not.mp h)
      rw [List.cons_append, hp.pieces_cons, ih ht]
      · rfl
      · rintro c - ⟨r, hr⟩
        exact hx (List.cons.inj hr).1

theorem pieces_backslash {t u : Text} (h : ∀ c, kind c → ¬c.text <+: '\\' :: (t ++ u))
    (ht : '\\' ∉ t) : pieces p ('\\' :: (t ++ u)) = ('\\' :: t).map .kept ++ pieces p u := by
  rw [hp.pieces_cons h, hp.pieces_quiet ht]
  rfl

variable [DecidablePred kind]

theorem pieces_source (parts : List Part) : pieces p (source parts) =
    parts.flatMap fun x => (x.of kind).elim (x.text.map .kept) fun c => [.found c.found] := by
  induction parts with
  | nil => exact hp.pieces_nil
  | cons x parts ih =>
      rw [source_cons, List.flatMap_cons, ← ih]
      cases x with
      | plain t free => exact hp.pieces_quiet (notMem_of_plain free (by decide)) _
      | command c simple =>
          by_cases hc : kind c
          · rw [Part.of_command hc]
            exact hp.pieces_command hc _
          · obtain ⟨t, htext, ht, -⟩ := simple.text_eq
            have hnone : ∀ d, kind d → ¬d.text <+: '\\' :: (t ++ source parts) := by
              rintro d hd ⟨r, hr⟩
              rw [← List.cons_append, ← htext] at hr
              obtain ⟨rfl, -⟩ := Command.text_inj hr
              exact hc hd
            rw [Part.of_command_not hc, Part.text, htext, List.cons_append,
              hp.pieces_backslash hnone ht]
            rfl
      | bare name letters named =>
          have ht : '\\' ∉ name := notMem_of_plain (Plain.of_letters letters) (by decide)
          exact hp.pieces_backslash (fun c _ => c.not_isPrefix_bare letters parts) ht

/-- A search finds the parts that are commands of the kind, in order. -/
theorem findAll_source (parts : List Part) :
    findAll p (source parts) = (parts.filterMap (Part.of kind)).map Command.found := by
  rw [findAll, hp.pieces_source]
  induction parts with
  | nil => rfl
  | cons x parts ih =>
      rw [List.flatMap_cons, List.filterMap_append, ih, List.filterMap_cons]
      cases x.of kind with
      | none => simp
      | some c => rfl

/-- What is left over is the source of the other parts. -/
theorem remaining_source (parts : List Part) :
    remaining p (source parts) = source (parts.filter fun x => (x.of kind).isNone) := by
  rw [remaining, hp.pieces_source]
  induction parts with
  | nil => rfl
  | cons x parts ih =>
      rw [List.flatMap_cons, List.filterMap_append, ih]
      cases h : x.of kind with
      | none =>
          rw [List.filter_cons_of_pos (by simp [h]), source_cons, Option.elim_none,
            Piece.filterMap_kept]
      | some c => rw [List.filter_cons_of_neg (by simp [h])]; rfl

end ReadsCommands

/-! ### Lines -/

/-- Parts, and the comment behind them, if there is one. -/
structure SourceLine where
  parts : List Part
  comment : Text
  marked : comment = [] ∨ comment.head? = some '%'

namespace SourceLine

theorem marked_nil : ([] : Text) = [] ∨ ([] : Text).head? = some '%' :=
  .inl rfl

def text (l : SourceLine) : Text :=
  source l.parts ++ l.comment

theorem code_text (l : SourceLine) : code l.text = source l.parts := by
  have hall := Structure.code_eq_self (percent_notMem_source l.parts)
  rw [text]
  rcases l.marked with hnil | hmarked
  · rw [hnil, List.append_nil, hall]
  · obtain ⟨comment, hcomment⟩ := List.head?_eq_some_iff.mp hmarked
    rw [hcomment, code_append_comment hall (getLast?_source_ne l.parts)]

end SourceLine

end Manuscript.Scan
