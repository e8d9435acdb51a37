import Manuscript.Proofs.Repair.Turning

/-!
The rules that activate a command around plain text.

All standard rules but one ask for an argument without markup, or for something
that cannot stand behind the marker of a wrapped command at all: a name without
an argument, an argument in other brackets, or a second argument. Such a rule
takes a rendering to one in which at most some innermost commands more are
active, and the general one activates all of these.
-/

namespace Manuscript.Repair

open Pattern Standard
open CharClass (letter)
open Markup (Rendered)

theorem has_plain {c : Char} : plain.has c = true ↔ c ≠ '\x7b' ∧ c ≠ '\x7d' ∧ c ≠ '\\' := by
  simp [plain, CharClass.has_noneOf]

/-- A class without braces and the backslash has plain characters only. -/
theorem plain_of_all {k : CharClass} (hopen : k.has '\x7b' = false) (hclose : k.has '\x7d' = false)
    (hback : k.has '\\' = false) {t : Text} (h : k.All t) : plain.All t := by
  intro c hc
  have hk := h c hc
  rw [has_plain]
  refine ⟨?_, ?_, ?_⟩
  · rintro rfl
    simp [hopen] at hk
  · rintro rfl
    simp [hclose] at hk
  · rintro rfl
    simp [hback] at hk

theorem plain_of_letters {w : Text} (h : letter.All w) : plain.All w :=
  plain_of_all (by decide) (by decide) (by decide) h

theorem stops_open (v : Text) : letter.Stops (escapedOpen ++ v) :=
  CharClass.stops_cons (by decide) _

/-- Texts that do not stand behind the marker of a wrapped command. -/
inductive Foreign : Text → Prop
  | bare {w v : Text} : w ∈ [] :: bareNames → letter.Stops v → Foreign (w ++ v)
  | unbraced {w v : Text} : letter.All w → letter.Stops v → ¬escapedOpen <+: v → Foreign (w ++ v)
  | further {w a v : Text} : letter.All w → plain.All a →
      Foreign (w ++ (escapedOpen ++ (a ++ (escapedClose ++ (escapedOpen ++ v)))))

section

variable {lo hi n : Nat} {name : CommandName} {body : Markup} {x k : Text}

/-- A plain argument in front of an escaped brace is all of the body. -/
theorem plain_body (h : Rendered lo hi body x n) {a r : Text}
    (ha : plain.All a) (heq : a ++ (escapedClose ++ r) = x ++ (escapedClose ++ k)) :
    a = x ∧ r = k ∧ body.depth = 0 := by
  obtain ⟨u, v, rfl, hu, hv⟩ := h.plain_or_command
  have hback : plain.has '\\' = false := by decide
  rw [List.append_assoc] at heq
  rcases hv with ⟨hd, rfl⟩ | ⟨c, w, hc, rfl⟩
  · obtain ⟨rfl, hrest⟩ := CharClass.run_unique ha hu (CharClass.stops_cons hback _)
      (CharClass.stops_cons hback _) heq
    exact ⟨(List.append_nil a).symm, by simpa using hrest, hd⟩
  · obtain ⟨-, hrest⟩ := CharClass.run_unique ha hu (CharClass.stops_cons hback _)
      (CharClass.stops_cons hback _) heq
    obtain ⟨-, hrest⟩ := List.cons.inj hrest
    obtain ⟨rfl, -⟩ := List.cons.inj hrest
    exact absurd hc (by decide)

theorem name_eq {w v : Text} (hw : letter.All w) (hv : letter.Stops v)
    (h : w ++ v = name.text ++ (escapedOpen ++ k)) : w = name.text ∧ v = escapedOpen ++ k :=
  CharClass.run_unique hw name.letters hv (stops_open k) h

theorem nil_notMem_bareNames : [] ∉ bareNames := by
  simp only [bareNames, List.mem_map, String.toList_eq_nil_iff]
  simp [layoutSwitches, fontSwitches, outlineSwitches]

theorem letters_bareNames : ∀ w ∈ [] :: bareNames, letter.All w := by
  -- the kernel is slow to decode literals, so the names are spelled out first
  simp only [bareNames, layoutSwitches, fontSwitches, outlineSwitches, List.cons_append,
    List.nil_append, List.map_cons, List.map_nil, String.reduceToList]
  decide

theorem mem_bareNames {ws : List String}
    (h : ∀ s ∈ ws, s ∈ layoutSwitches ++ fontSwitches ++ outlineSwitches) :
    ∀ w ∈ ws.map String.toList, w ∈ bareNames := by
  intro w hw
  obtain ⟨s, hs, rfl⟩ := List.mem_map.mp hw
  exact List.mem_map_of_mem (List.mem_cons_of_mem _ (h s hs))

theorem letters_headings : ∀ w ∈ headings.map String.toList, letter.All w := by
  decide

theorem not_foreign (h : Rendered lo hi body x n) (hk : ¬escapedOpen <+: k) :
    ¬Foreign (name.text ++ (escapedOpen ++ (x ++ (escapedClose ++ k)))) := by
  intro hforeign
  generalize heq : name.text ++ (escapedOpen ++ (x ++ (escapedClose ++ k))) = t at hforeign
  cases hforeign with
  | bare hw hv =>
      obtain ⟨rfl, -⟩ := name_eq (letters_bareNames _ hw) hv heq.symm
      rcases List.mem_cons.mp hw with hnil | hbare
      · exact name.nonempty hnil
      · exact name.notBare hbare
  | unbraced hw hv hopen =>
      obtain ⟨-, rfl⟩ := name_eq hw hv heq.symm
      exact hopen (List.prefix_append _ _)
  | further hw ha =>
      obtain ⟨-, hrest⟩ := name_eq hw (stops_open _) heq.symm
      rw [List.append_right_inj] at hrest
      obtain ⟨-, rfl, -⟩ := plain_body h ha hrest
      exact hk (List.prefix_append _ _)

end

/-- Behind a marker the patterns read a name with a plain argument, which the replacement makes an
active command, or else something foreign. -/
def UnwrapsPlain (ps : List Pattern) (new : Template) : Prop :=
  ∀ u r g, ReadsBehind ps u r g → Foreign (u ++ r) ∨
    ∃ w a, letter.All w ∧ plain.All a ∧
      u = w ++ (escapedOpen ++ (a ++ escapedClose)) ∧
      ∀ t, new.fill ⟨t, g⟩ = activated w a

theorem UnwrapsPlain.unwraps {ps : List Pattern} {new : Template} (h : UnwrapsPlain ps new)
    (lo hi : Nat) : Unwraps ps new lo hi lo (max hi 1) where
  le := le_max_left _ _
  missed := fun _ hlo _ => hlo
  found := by
    intro name body x k v r n g hbody _ hk heq hreads
    rw [wrapped, List.append_assoc, List.append_right_inj] at heq
    simp only [List.append_assoc] at heq
    rcases h v r g hreads with hforeign | ⟨w, a, hw, ha, rfl, hfill⟩
    · exact absurd (heq ▸ hforeign) (not_foreign hbody hk)
    · simp only [List.append_assoc] at heq
      obtain ⟨rfl, hrest⟩ := name_eq hw (stops_open _) heq.symm
      rw [List.append_right_inj] at hrest
      obtain ⟨rfl, -, hd⟩ := plain_body hbody ha hrest
      exact ⟨rfl, hfill _, by omega, by omega⟩

/-! ### The rules by shape -/

section

variable {b : Option Char} {t r : Text} {g : Groups}

theorem reads_single {p : Pattern} : (concat [p]).Reads b t r g ↔ p.Reads b t r g := Iff.rfl

theorem reads_argument {i : Nat} : (argument i).Reads b t r g ↔
    ∃ a, plain.All a ∧ t = escapedOpen ++ (a ++ escapedClose) ∧
      g = [(i, a)] := by
  rw [argument, reads_concat_cons]
  constructor
  · rintro ⟨_, _, _, _, rfl, rfl, ⟨rfl, rfl⟩, hrest⟩
    obtain ⟨a, _, _, _, rfl, rfl, hgroup, hclose⟩ := reads_concat_cons.mp hrest
    obtain ⟨_, rfl, ha, rfl⟩ := reads_group.mp hgroup
    obtain ⟨rfl, rfl⟩ := reads_single.mp hclose
    exact ⟨a, ha, rfl, rfl⟩
  · rintro ⟨a, ha, rfl, rfl⟩
    refine ⟨escapedOpen, a ++ escapedClose, [], [(i, a)], rfl, rfl, ⟨rfl, rfl⟩, ?_⟩
    refine reads_concat_cons.mpr ⟨a, escapedClose, [(i, a)], [], rfl, rfl, ?_, ⟨rfl, rfl⟩⟩
    exact reads_group.mpr ⟨[], rfl, ha, rfl⟩

end

/-- The pattern reads names, into group 1. -/
def ReadsNames (p : Pattern) : Prop :=
  ∀ b t r g, p.Reads b t r g → letter.All t ∧ g = [(1, t)]

theorem readsNames_name : ReadsNames name := by
  intro b t r g h
  obtain ⟨_, rfl, hmany⟩ := reads_group.mp h
  obtain ⟨-, ht, rfl⟩ := reads_many1.mp hmany
  exact ⟨ht, rfl⟩

theorem reads_names {ws : List String} {b : Option Char} {t r : Text} {g : Groups}
    (h : (names ws).Reads b t r g) : t ∈ ws.map String.toList ∧ g = [(1, t)] := by
  obtain ⟨_, rfl, hword⟩ := reads_group.mp h
  obtain ⟨ht, rfl⟩ := reads_anyWord.mp hword
  exact ⟨ht, rfl⟩

theorem readsNames_names {ws : List String} (h : ∀ w ∈ ws.map String.toList, letter.All w) :
    ReadsNames (names ws) := by
  intro b t r g hreads
  obtain ⟨ht, rfl⟩ := reads_names hreads
  exact ⟨h t ht, rfl⟩

/-- What can stand between a name and its argument: nothing, or something that begins with
neither a letter nor a backslash. -/
def ReadsAside (p : Pattern) : Prop :=
  ∀ b t r g, p.Reads b t r g → t = [] ∧ (g = [] ∨ g = [(2, [])]) ∨
    ∃ c v, t = c :: v ∧ letter.has c = false ∧ c ≠ '\\'

theorem Foreign.aside {w v : Text} {c : Char} (hw : letter.All w)
    (hc : letter.has c = false) (hback : c ≠ '\\') : Foreign (w ++ c :: v) :=
  .unbraced hw (CharClass.stops_cons hc _) (not_open_of_char hback)

theorem readsAside_star : ReadsAside star := by
  intro b t r g h
  obtain ⟨_, rfl, hmaybe⟩ := reads_group.mp h
  rcases reads_maybe.mp hmaybe with ⟨rfl, -⟩ | ⟨rfl, rfl⟩
  · exact .inr ⟨_, _, rfl, by decide, by decide⟩
  · exact .inl ⟨rfl, .inr rfl⟩

theorem reads_options {b : Option Char} {t r : Text} {g : Groups} (h : options.Reads b t r g) :
    ∃ v, t = '[' :: v := by
  obtain ⟨_, v, _, _, rfl, -, ⟨rfl, -⟩, -⟩ := reads_concat_cons.mp h
  exact ⟨v, rfl⟩

theorem readsAside_options (i : Nat) : ReadsAside (maybe (group i options)) := by
  intro b t r g h
  rcases reads_maybe.mp h with hgroup | ⟨rfl, rfl⟩
  · obtain ⟨_, -, hoptions⟩ := reads_group.mp hgroup
    obtain ⟨v, rfl⟩ := reads_options hoptions
    exact .inr ⟨_, _, rfl, by decide, by decide⟩
  · exact .inl ⟨rfl, .inl rfl⟩

theorem fill_command (t w a : Text) :
    Template.fill (command (braced 2)) ⟨t, [(2, a), (1, w)]⟩ = activated w a := by
  simp [command, braced, text, Found.group, activated, List.lookup_cons]

section

variable {p q : Pattern} {ps : List Pattern} {new : Template}

theorem unwrapsPlain_argument (hp : ReadsNames p) :
    UnwrapsPlain [p, argument 2] (command (braced 2)) := by
  intro u r g h
  obtain ⟨w, _, _, _, rfl, rfl, hname, hrest⟩ := reads_concat_cons.mp h
  obtain ⟨hw, rfl⟩ := hp _ _ _ _ hname
  obtain ⟨a, ha, rfl, rfl⟩ := reads_argument.mp (reads_single.mp hrest)
  exact .inr ⟨w, a, hw, ha, rfl, fun t => fill_command t w a⟩

theorem unwrapsPlain_aside (hp : ReadsNames p) (hq : ReadsAside q) :
    UnwrapsPlain [p, q, argument 3] (command (.group 2 :: braced 3)) := by
  intro u r g h
  obtain ⟨w, _, _, _, rfl, rfl, hname, hrest⟩ := reads_concat_cons.mp h
  obtain ⟨v, _, _, _, rfl, rfl, haside, hrest⟩ := reads_concat_cons.mp hrest
  obtain ⟨hw, rfl⟩ := hp _ _ _ _ hname
  obtain ⟨a, ha, rfl, rfl⟩ := reads_argument.mp (reads_single.mp hrest)
  rcases hq _ _ _ _ haside with ⟨rfl, rfl | rfl⟩ | ⟨c, v, rfl, hc, hback⟩
  · refine .inr ⟨w, a, hw, ha, rfl, fun t => ?_⟩
    simp [command, braced, text, Found.group, activated, List.lookup_cons]
  · refine .inr ⟨w, a, hw, ha, rfl, fun t => ?_⟩
    simp [command, braced, text, Found.group, activated, List.lookup_cons]
  · refine .inl ?_
    simpa using Foreign.aside hw hc hback

theorem unwrapsPlain_of_head (hp : ReadsNames p)
    (h : ∀ b t r g, (concat ps).Reads b t r g →
      ∃ c v, t = c :: v ∧ letter.has c = false ∧ c ≠ '\\') :
    UnwrapsPlain (p :: ps) new := by
  intro u r g hreads
  obtain ⟨w, _, _, _, rfl, rfl, hname, hrest⟩ := reads_concat_cons.mp hreads
  obtain ⟨hw, rfl⟩ := hp _ _ _ _ hname
  obtain ⟨c, v, rfl, hc, hback⟩ := h _ _ _ _ hrest
  refine .inl ?_
  simpa using Foreign.aside hw hc hback

theorem unwrapsPlain_further {i j : Nat} (hp : ∀ b t r g, p.Reads b t r g → letter.All t) :
    UnwrapsPlain (p :: argument i :: argument j :: ps) new := by
  intro u r g h
  obtain ⟨w, _, _, _, rfl, -, hname, hrest⟩ := reads_concat_cons.mp h
  obtain ⟨_, _, _, _, rfl, -, hfirst, hrest⟩ := reads_concat_cons.mp hrest
  obtain ⟨_, _, _, _, rfl, -, hsecond, -⟩ := reads_concat_cons.mp hrest
  obtain ⟨a, ha, rfl, -⟩ := reads_argument.mp hfirst
  obtain ⟨a', -, rfl, -⟩ := reads_argument.mp hsecond
  refine .inl ?_
  simpa using Foreign.further (hp _ _ _ _ hname) ha

/-- A word ends where no letter follows. -/
theorem stops_of_wordEdge {b : Option Char} {w r : Text} (hne : w ≠ []) (hw : letter.All w)
    (h : (Place.mk 0 (behind b w) r []).holds .wordEdge = true) : letter.Stops r := by
  intro c hc
  have hlast : (behind b w).any Text.isWord = true := by
    rw [behind, List.getLast?_eq_some_getLast hne, Option.some_or]
    exact CharClass.isWord_of_letter (hw _ (List.getLast_mem hne))
  by_contra hletter
  rw [Bool.not_eq_false] at hletter
  simp [Place.holds, hlast, Option.mem_def.mp hc, CharClass.isWord_of_letter hletter] at h

theorem unwrapsPlain_bare (hp : ∀ b t r g, p.Reads b t r g → t ∈ bareNames) :
    UnwrapsPlain [p, .check .wordEdge] new := by
  intro u r g h
  obtain ⟨w, _, _, _, rfl, -, hname, hrest⟩ := reads_concat_cons.mp h
  obtain ⟨rfl, -, hedge⟩ := reads_check.mp (reads_single.mp hrest)
  have hw := hp _ _ _ _ hname
  have hmem := List.mem_cons_of_mem [] hw
  refine .inl ?_
  rw [List.append_nil]
  refine .bare hmem (stops_of_wordEdge ?_ (letters_bareNames _ hmem) hedge)
  rintro rfl
  exact nil_notMem_bareNames hw

theorem unwrapsPlain_nameless (h : ∀ b t r g, p.Reads b t r g → ∃ v, t = '\\' :: v) :
    UnwrapsPlain (p :: ps) new := by
  intro u r g hreads
  obtain ⟨_, v, _, _, rfl, -, hback, -⟩ := reads_concat_cons.mp hreads
  obtain ⟨w, rfl⟩ := h _ _ _ _ hback
  exact .inl (.bare (w := []) List.mem_cons_self (CharClass.stops_cons (by decide) _))

end

/-! ### The rules of the table -/

theorem unwrapsPlain_heading_star : UnwrapsPlain
    [names headings, word ('*' :: marker ++ ['\x7b'])] (command [text "*\x7b"]) := by
  refine unwrapsPlain_of_head (readsNames_names letters_headings) fun b t r g h => ?_
  obtain ⟨rfl, -⟩ := reads_single.mp h
  exact ⟨_, _, rfl, by decide, by decide⟩

theorem unwrapsPlain_heading_title : UnwrapsPlain
    [names headings, star, word ['['], group 3 (many true (.noneOf [']'])), word [']'], argument 4]
    (command (.group 2 :: text "[" :: .group 3 :: text "]" :: braced 4)) := by
  refine unwrapsPlain_of_head (readsNames_names letters_headings) fun b t r g h => ?_
  obtain ⟨_, _, _, _, rfl, -, hstar, hrest⟩ := reads_concat_cons.mp h
  obtain ⟨_, _, _, _, rfl, -, ⟨rfl, -⟩, -⟩ := reads_concat_cons.mp hrest
  rcases readsAside_star _ _ _ _ hstar with ⟨rfl, -⟩ | ⟨c, v, rfl, hc, hback⟩
  · exact ⟨_, _, rfl, by decide, by decide⟩
  · exact ⟨c, _, rfl, hc, hback⟩

theorem unwrapsPlain_empty_group :
    UnwrapsPlain [name, word ['\x7b', '\x7d']] (command [text "\x7b\x7d"]) := by
  refine unwrapsPlain_of_head readsNames_name fun b t r g h => ?_
  obtain ⟨rfl, -⟩ := reads_single.mp h
  exact ⟨_, _, rfl, by decide, by decide⟩

theorem unwrapsPlain_open :
    UnwrapsPlain [name, word (marker ++ ['\x7b'])] (command [text "\x7b"]) := by
  intro u r g h
  obtain ⟨w, _, _, _, rfl, -, hname, hrest⟩ := reads_concat_cons.mp h
  obtain ⟨rfl, -⟩ := reads_single.mp hrest
  refine .inl ?_
  rw [List.append_assoc]
  exact .unbraced (readsNames_name _ _ _ _ hname).1 (CharClass.stops_cons (by decide) _)
    (not_open_of_escaped (by decide))

theorem unwrapsPlain_tabular : UnwrapsPlain
    [word ("begin".toList ++ escapedOpen),
      group 1 (.alt (concat [word "tabular".toList, maybe (word ['*'])])
        (anyWord ["tabularx".toList, "longtable".toList, "array".toList])),
      word escapedClose, argument 2]
    (text "\\begin" :: braced 1 ++ braced 2) := by
  intro u r g h
  obtain ⟨_, _, _, _, rfl, -, ⟨rfl, -⟩, hkind⟩ := reads_concat_cons.mp h
  obtain ⟨a, _, _, _, rfl, -, hgroup, hclose⟩ := reads_concat_cons.mp hkind
  obtain ⟨_, _, _, _, rfl, -, ⟨rfl, -⟩, hcolumns⟩ := reads_concat_cons.mp hclose
  obtain ⟨columns, -, rfl, -⟩ := reads_argument.mp (reads_single.mp hcolumns)
  obtain ⟨_, -, halt⟩ := reads_group.mp hgroup
  have ha : plain.All a := by
    rcases halt with htabular | hword
    · obtain ⟨_, _, _, _, rfl, -, ⟨rfl, -⟩, hstar⟩ := reads_concat_cons.mp htabular
      rcases reads_maybe.mp (reads_single.mp hstar) with ⟨rfl, -⟩ | ⟨rfl, -⟩
      · decide
      · decide
    · have hplain : ∀ a ∈ ["tabularx".toList, "longtable".toList, "array".toList],
          plain.All a := by decide
      exact hplain a (reads_anyWord.mp hword).1
  have hbegin : letter.All "begin".toList := by decide
  refine .inl ?_
  simpa using Foreign.further (v := columns ++ (escapedClose ++ r)) hbegin ha

theorem unwrapsPlain_delimiter : UnwrapsPlain
    [names ["begin", "end"], word escapedOpen,
      group 2 (many1 ⟨false, [('a', 'z'), ('A', 'Z'), ('*', '*')]⟩), word escapedClose]
    (command (braced 2)) := by
  intro u r g h
  obtain ⟨w, _, _, _, rfl, rfl, hname, hargument⟩ := reads_concat_cons.mp h
  obtain ⟨_, _, _, _, rfl, rfl, ⟨rfl, rfl⟩, hgroup⟩ := reads_concat_cons.mp hargument
  obtain ⟨a, _, _, _, rfl, rfl, hread, hclose⟩ := reads_concat_cons.mp hgroup
  obtain ⟨rfl, rfl⟩ := reads_single.mp hclose
  obtain ⟨_, rfl, hmany⟩ := reads_group.mp hread
  obtain ⟨-, ha, rfl⟩ := reads_many1.mp hmany
  have hnames : ReadsNames (names ["begin", "end"]) := readsNames_names (by decide)
  obtain ⟨hw, rfl⟩ := hnames _ _ _ _ hname
  have hplain : plain.All a := plain_of_all (by decide) (by decide) (by decide) ha
  exact .inr ⟨w, a, hw, hplain, rfl, fun t => fill_command t w a⟩

theorem unwrapsPlain_graphics : UnwrapsPlain
    [word "includegraphics".toList, maybe (group 1 options), argument 2]
    (text "\\includegraphics" :: .group 1 :: braced 2) := by
  intro u r g h
  obtain ⟨_, _, _, _, rfl, rfl, ⟨rfl, rfl⟩, hrest⟩ := reads_concat_cons.mp h
  obtain ⟨_, _, _, _, rfl, rfl, hoptions, hrest⟩ := reads_concat_cons.mp hrest
  obtain ⟨a, ha, rfl, rfl⟩ := reads_argument.mp (reads_single.mp hrest)
  have hname : letter.All "includegraphics".toList := by decide
  rcases reads_maybe.mp hoptions with hgroup | ⟨rfl, rfl⟩
  · obtain ⟨_, -, hread⟩ := reads_group.mp hgroup
    obtain ⟨v, rfl⟩ := reads_options hread
    refine .inl ?_
    simpa using Foreign.aside (c := '[') hname (by decide) (by decide)
  · refine .inr ⟨_, a, hname, ha, rfl, fun t => ?_⟩
    simp [braced, text, Found.group, activated, List.lookup_cons]

def Rule.UnwrapsPlain (rule : Rule) : Prop :=
  ∃ ps, rule.finder = marked ps ∧ Repair.UnwrapsPlain ps rule.replacement

theorem unwrapsPlain_oneArgument {ws : List String} (c : Category) (description : String)
    (h : ∀ w ∈ ws.map String.toList, letter.All w) :
    (oneArgument c ws description).UnwrapsPlain :=
  ⟨_, rfl, unwrapsPlain_argument (readsNames_names h)⟩

theorem unwrapsPlain_switch {ws : List String} (c : Category) (description : String)
    (h : ∀ w ∈ ws.map String.toList, w ∈ bareNames) : (switch c ws description).UnwrapsPlain :=
  ⟨_, rfl, unwrapsPlain_bare fun _ _ _ _ hreads => h _ (reads_names hreads).1⟩

theorem unwrapsPlain_special : ∀ rule ∈ special, rule.UnwrapsPlain := by
  have hhref : letter.All "href".toList := by decide
  have hmulticolumn : letter.All "multicolumn".toList := by decide
  have hcolors : ∀ w ∈ ["textcolor", "colorbox"].map String.toList, letter.All w := by decide
  have hpackages : ∀ w ∈ ["usepackage", "documentclass"].map String.toList, letter.All w := by
    decide
  simp only [special, List.forall_mem_cons]
  refine ⟨⟨_, rfl, unwrapsPlain_open⟩, ⟨_, rfl, unwrapsPlain_empty_group⟩,
    ⟨_, rfl, unwrapsPlain_aside (readsNames_names letters_headings) readsAside_star⟩,
    ⟨_, rfl, unwrapsPlain_heading_title⟩, ⟨_, rfl, unwrapsPlain_heading_star⟩,
    ⟨_, rfl, unwrapsPlain_tabular⟩, ⟨_, rfl, unwrapsPlain_delimiter⟩,
    ⟨_, rfl, unwrapsPlain_bare fun _ _ _ _ h => h.1 ▸ List.mem_cons_self⟩,
    unwrapsPlain_oneArgument _ _ (by decide),
    ⟨_, rfl, unwrapsPlain_further fun _ _ _ _ h => h.1 ▸ hhref⟩,
    unwrapsPlain_oneArgument _ _ (by decide),
    ⟨_, rfl, unwrapsPlain_nameless fun _ _ _ _ h => ⟨_, h.1⟩⟩,
    ⟨_, rfl, unwrapsPlain_nameless fun _ _ _ _ h => ⟨_, h.1⟩⟩,
    unwrapsPlain_switch _ _ (mem_bareNames fun s hs => by simp [hs]),
    ⟨_, rfl, unwrapsPlain_graphics⟩,
    unwrapsPlain_oneArgument _ _ (by decide),
    ⟨_, rfl, unwrapsPlain_further fun _ _ _ _ h => h.1 ▸ hmulticolumn⟩,
    ⟨_, rfl, unwrapsPlain_further fun _ _ _ _ h => hcolors _ (reads_names h).1⟩,
    unwrapsPlain_oneArgument _ _ (by decide),
    unwrapsPlain_switch _ _ (mem_bareNames fun s hs => by simp [hs]),
    ⟨_, rfl, unwrapsPlain_aside (readsNames_names hpackages) (readsAside_options 2)⟩,
    unwrapsPlain_oneArgument _ _ (by decide),
    unwrapsPlain_oneArgument _ _ (by decide),
    unwrapsPlain_switch _ _ (mem_bareNames fun s hs => by simp [hs]), ?_⟩
  exact List.forall_mem_nil _

theorem unwrapsPlain_stray : stray.UnwrapsPlain := by
  refine ⟨_, rfl, unwrapsPlain_nameless fun b t r g h => ?_⟩
  obtain ⟨_, -, hconcat⟩ := reads_group.mp h
  obtain ⟨_, v, _, _, rfl, -, ⟨rfl, -⟩, -⟩ := reads_concat_cons.mp hconcat
  exact ⟨v, rfl⟩

theorem reads_name (name : CommandName) (b : Option Char) (r : Text) :
    Standard.name.Reads b name.text r [(1, name.text)] :=
  reads_group.mpr ⟨[], rfl, reads_many1.mpr ⟨name.nonempty, name.letters, rfl⟩⟩

/-- The general rule activates every command around plain text. -/
theorem unwraps_general (lo hi : Nat) : Unwraps [name, argument 2] general.replacement
    lo hi (max lo 1) (max hi 1) where
  le := le_max_left _ _
  found := ((unwrapsPlain_argument readsNames_name).unwraps lo hi).found
  missed := by
    intro name body x k n hbody hlo hmiss
    by_contra hlt
    have hd : body.depth = 0 := by omega
    refine hmiss (name.text ++ (escapedOpen ++ (x ++ escapedClose))) k [(2, x), (1, name.text)]
      (by simp [wrapped]) ?_
    refine reads_concat_cons.mpr ⟨name.text, _, [(1, name.text)], [(2, x)], rfl, rfl,
      reads_name name _ _, reads_single.mpr (reads_argument.mpr ⟨x, ?_, rfl, rfl⟩)⟩
    exact hbody.plain_of_depth hd

end Manuscript.Repair
