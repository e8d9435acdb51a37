import Manuscript.Proofs.Pattern.Building
import Manuscript.Repair.Standard

/-!
Nested markup: runs of text, and commands with one argument that is markup.

A conversion tool wraps every command. Between its output and the text that was
meant stand the renderings in which some commands are active and the others
wrapped. Which may be which is told by the depth of a command's body, since
repairs work from the inside out.
-/

namespace Manuscript.Repair

open Standard (marker escapedOpen escapedClose plain)

/-- The names that the standard rules write without an argument. -/
def Standard.bareNames : List Text :=
  ("item" :: (layoutSwitches ++ fontSwitches ++ outlineSwitches)).map String.toList

/-- A name that a command of nested markup can have. -/
structure CommandName where
  text : Text
  nonempty : text ≠ []
  letters : CharClass.letter.All text
  notMarker : text ≠ "textbackslash".toList
  notBare : text ∉ Standard.bareNames

/-- Text that holds no backslash and no brace. -/
structure PlainText where
  text : Text
  plain : Standard.plain.All text

/-- A sequence of runs of text and commands. -/
inductive Markup
  | done
  | run (t : PlainText) (rest : Markup)
  | command (name : CommandName) (body rest : Markup)

def activated (name argument : Text) : Text :=
  '\\' :: (name ++ '\x7b' :: (argument ++ ['\x7d']))

def wrapped (name argument : Text) : Text :=
  marker ++ (name ++ (escapedOpen ++ (argument ++ escapedClose)))

theorem not_open_of_char {c : Char} {k : Text} (h : c ≠ '\\') : ¬escapedOpen <+: c :: k := by
  rintro ⟨r, hr⟩
  exact h (List.cons.inj hr).1.symm

theorem not_open_of_escaped {c : Char} {k : Text} (h : c ≠ '\x7b') :
    ¬escapedOpen <+: '\\' :: c :: k := by
  rintro ⟨r, hr⟩
  obtain ⟨-, hr⟩ := List.cons.inj hr
  exact h (List.cons.inj hr).1.symm

namespace Markup

def text : Markup → Text
  | done => []
  | run t rest => t.text ++ rest.text
  | command name body rest => activated name.text body.text ++ rest.text

def escaped : Markup → Text
  | done => []
  | run t rest => t.text ++ rest.escaped
  | command name body rest => wrapped name.text body.escaped ++ rest.escaped

def depth : Markup → Nat
  | done => 0
  | run _ rest => rest.depth
  | command _ body rest => max (body.depth + 1) rest.depth

def commands : Markup → Nat
  | done => 0
  | run _ rest => rest.commands
  | command _ body rest => body.commands + 1 + rest.commands

section

variable {u : PlainText} {name : CommandName} {body rest : Markup}

@[simp] theorem depth_done : done.depth = 0 := rfl

@[simp] theorem depth_run : (run u rest).depth = rest.depth := rfl

@[simp] theorem depth_command :
    (command name body rest).depth = max (body.depth + 1) rest.depth := rfl

@[simp] theorem commands_done : done.commands = 0 := rfl

@[simp] theorem commands_run : (run u rest).commands = rest.commands := rfl

@[simp] theorem commands_command :
    (command name body rest).commands = body.commands + 1 + rest.commands := rfl

theorem text_run : (run u rest).text = u.text ++ rest.text := rfl

theorem text_command :
    (command name body rest).text = activated name.text body.text ++ rest.text := rfl

end

/-! ### Renderings -/

/-- The text renders the markup with so many active commands. The commands whose bodies are less
than `lo` deep are active, and those whose bodies are `hi` deep or more are wrapped. -/
inductive Rendered (lo hi : Nat) : Markup → Text → Nat → Prop
  | done : Rendered lo hi done [] 0
  | run {u : PlainText} {rest : Markup} {t : Text} {n : Nat} : Rendered lo hi rest t n →
      Rendered lo hi (run u rest) (u.text ++ t) n
  | active {name : CommandName} {body rest : Markup} {x t : Text} {m n : Nat} : body.depth < hi →
      Rendered lo hi body x m → Rendered lo hi rest t n →
      Rendered lo hi (command name body rest) (activated name.text x ++ t) (m + 1 + n)
  | wrapped {name : CommandName} {body rest : Markup} {x t : Text} {m n : Nat} : lo ≤ body.depth →
      Rendered lo hi body x m → Rendered lo hi rest t n →
      Rendered lo hi (command name body rest) (wrapped name.text x ++ t) (m + n)

namespace Rendered

variable {lo hi n : Nat} {d : Markup} {t : Text}

protected theorem escaped (hi : Nat) (d : Markup) : Rendered 0 hi d d.escaped 0 := by
  induction d with
  | done => exact .done
  | run u rest ih => exact .run ih
  | command name body rest ihb ihr => exact .wrapped (Nat.zero_le _) ihb ihr

protected theorem text (lo : Nat) (h : d.depth ≤ hi) : Rendered lo hi d d.text d.commands := by
  induction d with
  | done => exact .done
  | run u rest ih => exact .run (ih h)
  | command name body rest ihb ihr =>
      simp only [depth_command, sup_le_iff] at h
      exact .active (by omega) (ihb (by omega)) (ihr h.2)

theorem eq_text (h : Rendered lo hi d t n) (hd : d.depth ≤ lo) :
    t = d.text ∧ n = d.commands := by
  induction h with
  | done => exact ⟨rfl, rfl⟩
  | run _ ih =>
      obtain ⟨rfl, rfl⟩ := ih hd
      exact ⟨rfl, rfl⟩
  | active _ _ _ ihb ihr =>
      simp only [depth_command, sup_le_iff] at hd
      obtain ⟨rfl, rfl⟩ := ihb (by omega)
      obtain ⟨rfl, rfl⟩ := ihr hd.2
      exact ⟨rfl, rfl⟩
  | wrapped hlo =>
      simp only [depth_command, sup_le_iff] at hd
      omega

theorem le_commands (h : Rendered lo hi d t n) : n ≤ d.commands := by
  induction h with
  | done => exact le_rfl
  | run _ ih => exact ih
  | active _ _ _ ihb ihr =>
      simp only [commands_command]
      omega
  | wrapped _ _ _ ihb ihr =>
      simp only [commands_command]
      omega

theorem lt_commands (h : Rendered lo hi d t n) (hd : hi < d.depth) : n < d.commands := by
  induction h with
  | done => simp at hd
  | run _ ih => exact ih hd
  | active hhi hbody hrest ihb ihr =>
      have := hbody.le_commands
      simp only [depth_command, lt_sup_iff] at hd
      have := ihr (by omega)
      simp only [commands_command]
      omega
  | wrapped _ hbody hrest =>
      have := hbody.le_commands
      have := hrest.le_commands
      simp only [commands_command]
      omega

/-- Where innermost commands have to be active, some command is. -/
theorem active_pos (h : Rendered lo hi d t n) (hlo : 0 < lo) (hd : 0 < d.depth) : 0 < n := by
  induction h with
  | done => simp at hd
  | run _ ih => exact ih hd
  | active => omega
  | wrapped hle _ _ ihb =>
      have := ihb (by omega)
      omega

/-- A rendering is plain text up to its first command, which begins with a backslash and a
letter. -/
theorem plain_or_command (h : Rendered lo hi d t n) :
    ∃ u v, t = u ++ v ∧ plain.All u ∧
      (d.depth = 0 ∧ v = [] ∨ ∃ c w, CharClass.letter.has c = true ∧ v = '\\' :: c :: w) := by
  induction h with
  | done => exact ⟨[], [], rfl, by simp, .inl ⟨rfl, rfl⟩⟩
  | @run run rest _ _ _ ih =>
      obtain ⟨u, v, rfl, hu, hv⟩ := ih
      exact ⟨run.text ++ u, v, (List.append_assoc _ _ _).symm,
        CharClass.all_append.mpr ⟨run.plain, hu⟩, hv⟩
  | @active name =>
      obtain ⟨c, w, hname⟩ := List.exists_cons_of_ne_nil name.nonempty
      have hc := name.letters c (hname ▸ List.mem_cons_self)
      exact ⟨[], _, rfl, by simp, .inr ⟨c, _, hc, by rw [hname]; rfl⟩⟩
  | wrapped => exact ⟨[], _, rfl, by simp, .inr ⟨'t', _, by decide, rfl⟩⟩

theorem plain_of_depth (h : Rendered lo hi d t n) (hd : d.depth = 0) : plain.All t := by
  induction h with
  | done => simp
  | @run run _ _ _ _ ih => exact CharClass.all_append.mpr ⟨run.plain, ih hd⟩
  | active => simp at hd
  | wrapped => simp at hd

theorem not_open (h : Rendered lo hi d t n) {k : Text} (hk : ¬escapedOpen <+: k) :
    ¬escapedOpen <+: t ++ k := by
  obtain ⟨u, v, rfl, hu, hv⟩ := h.plain_or_command
  cases u with
  | cons c u =>
      refine not_open_of_char ?_
      rintro rfl
      exact absurd (CharClass.all_cons.mp hu).1 (by decide)
  | nil =>
      rcases hv with ⟨-, rfl⟩ | ⟨c, w, hc, rfl⟩
      · exact hk
      · refine not_open_of_escaped ?_
        rintro rfl
        exact absurd hc (by decide)

end Rendered

theorem depth_pos_iff (d : Markup) : 0 < d.depth ↔ d.commands ≠ 0 := by
  induction d with
  | done => simp
  | run t rest ih => exact ih
  | command name body rest => simp

end Markup

end Manuscript.Repair
