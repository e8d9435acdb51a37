import Manuscript.Scan.Scanner
import Manuscript.Proofs.Pattern.Building
import Manuscript.Proofs.Pattern.Cutting

/-!
The commands that a scan reads.

Both patterns of a scan read commands: a name, maybe white space and options,
and an argument in braces. Where a command ends, and what its parts are, is
determined by the text from its backslash on. A search for such commands
therefore needs no places: what it finds from some character on depends on the
text from there, and three equations say what.
-/

namespace Manuscript

namespace CharClass

/-- Classes given by ranges that do not meet have no character in common. -/
theorem has_eq_false_of_apart {k l : CharClass} (hk : k.negated = false) (hl : l.negated = false)
    (h : ∀ x ∈ k.ranges, ∀ y ∈ l.ranges, x.2 < y.1 ∨ y.2 < x.1) {c : Char}
    (hc : k.has c = true) : l.has c = false := by
  simp only [has, hk, hl, Bool.bne_false, List.any_eq_true, List.any_eq_false, Bool.and_eq_true,
    decide_eq_true_eq] at hc ⊢
  obtain ⟨x, hx, hxc, hcx⟩ := hc
  rintro y hy ⟨hyc, hcy⟩
  rcases h x hx y hy with hlt | hlt
  · exact absurd (Char.le_trans hyc hcx) (Char.not_le.mpr hlt)
  · exact absurd (Char.le_trans hxc hcy) (Char.not_le.mpr hlt)

theorem letter_eq_false_of_blank {c : Char} (h : blank.has c = true) : letter.has c = false :=
  has_eq_false_of_apart rfl rfl (by decide) h

/-- A run of one class stops another that it has no character of. -/
theorem Stops.append {k l : CharClass} (hkl : ∀ c, l.has c = true → k.has c = false) {t u : Text}
    (ht : l.All t) (hu : k.Stops u) : k.Stops (t ++ u) := by
  cases t with
  | nil => exact hu
  | cons c t => exact stops_cons (hkl c (all_cons.mp ht).1) _

end CharClass

namespace Scan

open CharClass

@[ext]
structure Options where
  inside : Text
  gap : Text
  closed : (noneOf [']']).All inside
  blank : CharClass.blank.All gap

namespace Options

def text (o : Options) : Text :=
  '[' :: (o.inside ++ ']' :: o.gap)

theorem text_inj {o p : Options} {t u : Text}
    (h : o.text ++ '\x7b' :: t = p.text ++ '\x7b' :: u) : o = p ∧ t = u := by
  have hbracket : (noneOf [']']).has ']' = false := by decide
  have hbrace : CharClass.blank.has '\x7b' = false := by decide
  simp only [text, List.cons_append, List.append_assoc, List.cons.injEq, true_and] at h
  obtain ⟨hinside, hbehind⟩ :=
    run_unique o.closed p.closed (stops_cons hbracket _) (stops_cons hbracket _) h
  obtain ⟨hgap, hrest⟩ := run_unique o.blank p.blank (stops_cons hbrace _) (stops_cons hbrace _)
    (List.cons.inj hbehind).2
  exact ⟨Options.ext hinside hgap, (List.cons.inj hrest).2⟩

end Options

@[ext]
structure Command where
  name : Text
  gap : Text
  options : Option Options
  argument : Text
  letters : letter.All name
  blank : CharClass.blank.All gap
  filled : argument ≠ []
  closed : (noneOf ['\x7d']).All argument

namespace Command

def middle (c : Command) : Text :=
  c.gap ++ c.options.elim [] Options.text

def text (c : Command) : Text :=
  '\\' :: (c.name ++ (c.middle ++ '\x7b' :: (c.argument ++ ['\x7d'])))

def front (c : Command) : Text :=
  '\\' :: (c.name ++ (c.middle ++ '\x7b' :: c.argument))

theorem text_eq_front (c : Command) : c.text = c.front ++ ['\x7d'] := by
  simp [text, front]

theorem text_ne_nil (c : Command) : c.text ≠ [] :=
  List.cons_ne_nil _ _

theorem stops_middle (c : Command) (t : Text) : letter.Stops (c.middle ++ '\x7b' :: t) := by
  rw [middle, List.append_assoc]
  refine Stops.append (fun _ => letter_eq_false_of_blank) c.blank ?_
  cases c.options with
  | none => exact stops_cons (by decide) t
  | some o => exact stops_cons (by decide) _

theorem middle_inj {c d : Command} {t u : Text}
    (h : c.middle ++ '\x7b' :: t = d.middle ++ '\x7b' :: u) :
    c.gap = d.gap ∧ c.options = d.options ∧ t = u := by
  have hbrace : CharClass.blank.has '\x7b' = false := by decide
  have hbracket : CharClass.blank.has '[' = false := by decide
  have hstops : ∀ (o : Option Options) (t : Text),
      CharClass.blank.Stops (o.elim [] Options.text ++ '\x7b' :: t) := by
    intro o t
    cases o with
    | none => exact stops_cons hbrace t
    | some o => exact stops_cons hbracket _
  simp only [middle, List.append_assoc] at h
  obtain ⟨hgap, h⟩ := run_unique c.blank d.blank (hstops _ _) (hstops _ _) h
  refine ⟨hgap, ?_⟩
  cases hc : c.options with
  | none =>
      cases hd : d.options with
      | none =>
          rw [hc, hd] at h
          exact ⟨rfl, (List.cons.inj h).2⟩
      | some p =>
          rw [hc, hd] at h
          exact absurd (List.cons.inj h).1 (by decide)
  | some o =>
      cases hd : d.options with
      | none =>
          rw [hc, hd] at h
          exact absurd (List.cons.inj h).1 (by decide)
      | some p =>
          rw [hc, hd] at h
          obtain ⟨hoptions, hrest⟩ := Options.text_inj h
          exact ⟨congrArg some hoptions, hrest⟩

/-- One text begins with at most one command. -/
theorem text_inj {c d : Command} {t u : Text} (h : c.text ++ t = d.text ++ u) :
    c = d ∧ t = u := by
  simp only [text, List.cons_append, List.append_assoc, List.cons.injEq, true_and] at h
  obtain ⟨hname, h⟩ := run_unique c.letters d.letters (c.stops_middle _) (d.stops_middle _) h
  obtain ⟨hgap, hoptions, h⟩ := middle_inj h
  have hbrace : (noneOf ['\x7d']).has '\x7d' = false := by decide
  obtain ⟨hargument, h⟩ :=
    run_unique c.closed d.closed (stops_cons hbrace _) (stops_cons hbrace _) h
  exact ⟨Command.ext hname hgap hoptions hargument, (List.cons.inj h).2⟩

end Command

/-! ### The patterns of a scan -/

def packageWords : List Text :=
  ["usepackage".toList, "RequirePackage".toList]

def contentWords : List Text :=
  ["input".toList, "include".toList, "subfile".toList]

namespace Command

def LoadsPackages (c : Command) : Prop :=
  c.name ∈ packageWords

/-- The command includes content. With options it does not. -/
def IncludesContent (c : Command) : Prop :=
  c.name ∈ contentWords ∧ c.options = none

instance : DecidablePred LoadsPackages :=
  fun c => inferInstanceAs (Decidable (c.name ∈ packageWords))

instance : DecidablePred IncludesContent :=
  fun c => inferInstanceAs (Decidable (c.name ∈ contentWords ∧ c.options = none))

end Command

/-- The pattern reads the commands of a kind, and the argument as its first group. -/
def ReadsCommands (p : Pattern) (kind : Command → Prop) : Prop :=
  ∀ b t r g, p.Reads b t r g ↔ ∃ c, kind c ∧ t = c.text ∧ g = [(1, c.argument)]

open Pattern

/-- The pattern reads the texts with a property, and goes through no group. -/
def ReadsTexts (p : Pattern) (property : Text → Prop) : Prop :=
  ∀ b t r g, p.Reads b t r g ↔ property t ∧ g = []

namespace ReadsTexts

variable {p : Pattern} {ps : List Pattern} {property : Text → Prop}

theorem word (w : Text) : ReadsTexts (.word w) (· = w) :=
  fun _ _ _ _ => reads_word

theorem anyWord (ws : List Text) : ReadsTexts (.anyWord ws) (· ∈ ws) :=
  fun _ _ _ _ => reads_anyWord

theorem many (greedy : Bool) (k : CharClass) : ReadsTexts (.many greedy k) k.All :=
  fun _ _ _ _ => Iff.rfl

theorem maybe (hp : ReadsTexts p property) :
    ReadsTexts (.maybe p) fun t => property t ∨ t = [] := by
  intro b t r g
  rw [reads_maybe, hp, or_and_right]

theorem concat_cons (hp : ReadsTexts p property) {b : Option Char} {t r : Text} {g : Groups} :
    (concat (p :: ps)).Reads b t r g ↔
      ∃ u v, property u ∧ t = u ++ v ∧ (concat ps).Reads (behind b u) v r g := by
  rw [reads_concat_cons]
  constructor
  · rintro ⟨u, v, _, g, rfl, rfl, hu, hv⟩
    obtain ⟨hproperty, rfl⟩ := (hp _ _ _ _).mp hu
    exact ⟨u, v, hproperty, rfl, by rwa [List.append_nil]⟩
  · rintro ⟨u, v, hu, rfl, hv⟩
    exact ⟨u, v, [], g, rfl, by simp, (hp _ _ _ _).mpr ⟨hu, rfl⟩, hv⟩

theorem bracketed : ReadsTexts
    (concat [.word ['['], .many true (.noneOf [']']), .word [']']])
    fun t => ∃ inside, (noneOf [']']).All inside ∧ t = '[' :: (inside ++ [']']) := by
  intro b t r g
  simp only [(word ['[']).concat_cons, (many true (.noneOf [']'])).concat_cons,
    (word [']']).concat_cons]
  constructor
  · rintro ⟨_, _, rfl, rfl, inside, _, hin, rfl, _, _, rfl, rfl, rfl, rfl⟩
    exact ⟨⟨inside, hin, rfl⟩, rfl⟩
  · rintro ⟨⟨inside, hin, rfl⟩, rfl⟩
    exact ⟨['['], _, rfl, rfl, inside, _, hin, rfl, [']'], [], rfl, rfl, rfl, rfl⟩

end ReadsTexts

theorem reads_argument {b : Option Char} {t r : Text} {g : Groups} :
    (concat [.word ['\x7b'], .group 1 (.many1 (.noneOf ['\x7d'])), .word ['\x7d']]).Reads b t r g ↔
      ∃ argument, argument ≠ [] ∧ (noneOf ['\x7d']).All argument ∧
        t = '\x7b' :: (argument ++ ['\x7d']) ∧ g = [(1, argument)] := by
  simp only [(ReadsTexts.word ['\x7b']).concat_cons, reads_concat_cons, reads_word, reads_group,
    reads_many1]
  constructor
  · rintro ⟨_, _, rfl, rfl, argument, _, _, _, rfl, rfl, ⟨_, rfl, hne, hall, rfl⟩, _, _, _, _, rfl,
      rfl, ⟨rfl, rfl⟩, rfl, rfl⟩
    exact ⟨argument, hne, hall, rfl, rfl⟩
  · rintro ⟨argument, hne, hall, rfl, rfl⟩
    exact ⟨['\x7b'], _, rfl, rfl, argument, ['\x7d'], [(1, argument)], [], rfl, rfl,
      ⟨[], rfl, hne, hall, rfl⟩, ['\x7d'], [], [], [], rfl, rfl, ⟨rfl, rfl⟩, rfl, rfl⟩

theorem letters_of_mem {w : Text} (h : w ∈ packageWords ++ contentWords) : letter.All w := by
  revert w
  decide

theorem readsCommands_contentPattern : ReadsCommands contentPattern Command.IncludesContent := by
  intro b t r g
  rw [contentPattern]
  simp only [(ReadsTexts.word ['\\']).concat_cons,
    (ReadsTexts.anyWord _).concat_cons, (ReadsTexts.many _ _).concat_cons, reads_argument]
  constructor
  · rintro ⟨_, _, rfl, rfl, name, _, hname, rfl, gap, _, hgap, rfl, argument, hne, hall, rfl, rfl⟩
    exact ⟨⟨name, gap, none, argument, letters_of_mem (List.mem_append_right _ hname), hgap, hne,
      hall⟩, ⟨hname, rfl⟩, by simp [Command.text, Command.middle], rfl⟩
  · rintro ⟨c, ⟨hname, hoptions⟩, rfl, rfl⟩
    exact ⟨['\\'], _, rfl, rfl, c.name, _, hname, rfl, c.gap, _, c.blank,
      by simp [Command.middle, hoptions], c.argument, c.filled, c.closed, rfl, rfl⟩

theorem readsCommands_packagePattern : ReadsCommands packagePattern Command.LoadsPackages := by
  intro b t r g
  rw [packagePattern]
  simp only [(ReadsTexts.word ['\\']).concat_cons,
    (ReadsTexts.anyWord _).concat_cons, (ReadsTexts.many _ _).concat_cons,
    ReadsTexts.bracketed.maybe.concat_cons, reads_argument]
  constructor
  · rintro ⟨_, _, rfl, rfl, name, _, hname, rfl, gap, _, hgap, rfl, _, _, hoptions, rfl, gap', _,
      hgap', rfl, argument, hne, hall, rfl, rfl⟩
    have hletters := letters_of_mem (List.mem_append_left _ hname)
    rcases hoptions with ⟨inside, hin, rfl⟩ | rfl
    · exact ⟨⟨name, gap, some ⟨inside, gap', hin, hgap'⟩, argument, hletters, hgap, hne, hall⟩,
        hname, by simp [Command.text, Command.middle, Options.text], rfl⟩
    · exact ⟨⟨name, gap ++ gap', none, argument, hletters, all_append.mpr ⟨hgap, hgap'⟩, hne, hall⟩,
        hname, by simp [Command.text, Command.middle], rfl⟩
  · rintro ⟨c, hname, rfl, rfl⟩
    cases hoptions : c.options with
    | none =>
        exact ⟨['\\'], _, rfl, rfl, c.name, _, hname, rfl, c.gap, _, c.blank,
          by simp [Command.middle, hoptions], [], _, .inr rfl, rfl, [], _, all_nil _, rfl,
          c.argument, c.filled, c.closed, rfl, rfl⟩
    | some o =>
        exact ⟨['\\'], _, rfl, rfl, c.name, _, hname, rfl, c.gap, _, c.blank,
          by simp [Command.middle, Options.text, hoptions], '[' :: (o.inside ++ [']']), _,
          .inl ⟨o.inside, o.closed, rfl⟩, rfl, o.gap, _, o.blank, rfl, c.argument, c.filled,
          c.closed, rfl, rfl⟩

end Scan

end Manuscript
