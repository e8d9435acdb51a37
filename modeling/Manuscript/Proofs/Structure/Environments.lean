import Manuscript.Proofs.Structure.Brackets
import Mathlib.Data.List.Forall2
import Mathlib.Data.List.Induction

/-!
What the environment check reports.

Which environments are open behind some delimiters can be said without a stack:
each was begun, and what stands behind its beginning, up to the one begun next,
leaves everything open as it was. An end of another environment than the
innermost one leaves everything open, too, and such stray ends are what the check
reports first. Then it reports the environments that are open in the end.
-/

namespace Manuscript.Structure

namespace Delimiter

inductive Pair : Delimiter → Delimiter → Prop
  | environment (name : String) (begun last : Nat) : Pair (opens name begun) (closes name last)

def line : Delimiter → Nat
  | opens _ line => line
  | closes _ line => line

def opening? : Delimiter → Option (String × Nat)
  | opens name line => some (name, line)
  | closes _ _ => none

def isOpening : Delimiter → Bool
  | opens _ _ => true
  | closes _ _ => false

@[simp] theorem isOpening_opens (name : String) (n : Nat) : (opens name n).isOpening = true := rfl

@[simp] theorem isOpening_closes (name : String) (n : Nat) : (closes name n).isOpening = false :=
  rfl

end Delimiter

/-- The delimiters leave open what is open before them, where the innermost environment, if there is
one, has the given name. -/
inductive Within : Option String → List Delimiter → Prop
  | nil {outer : Option String} : Within outer []
  | stray {outer : Option String} {name : String} {line : Nat} {v : List Delimiter} :
      outer ≠ some name → Within outer v → Within outer (.closes name line :: v)
  | environment {outer : Option String} {name : String} {line last : Nat}
      {u v : List Delimiter} : Within (some name) u → Within outer v →
      Within outer (.opens name line :: (u ++ .closes name last :: v))

/-- The environments that are open behind delimiters, innermost first. -/
inductive Opened : List Delimiter → List (String × Nat) → Prop
  | top {u : List Delimiter} : Within none u → Opened u []
  | inside {u v : List Delimiter} {openings : List (String × Nat)} {name : String} {line : Nat} :
      Opened u openings → Within (some name) v →
      Opened (u ++ .opens name line :: v) ((name, line) :: openings)

def innermost (openings : List (String × Nat)) : Option String :=
  openings.head?.map Prod.fst

/-- The delimiter at a place is an end, but not of the innermost environment that is still open
there, and the issue says so. -/
def Stray (e : List Delimiter) (i : Nat) (issue : Issue) : Prop :=
  ∃ name line openings, e[i]? = some (.closes name line) ∧ Opened (e.take i) openings ∧
    innermost openings ≠ some name ∧
    issue = .mismatchedEnvironment line (innermost openings) name

section

variable {outer : Option String} {name : String} {line : Nat} {e u v : List Delimiter}
  {openings : List (String × Nat)} {issue : Issue} {i : Nat}

@[simp] theorem innermost_nil : innermost [] = none := rfl

@[simp] theorem innermost_cons : innermost ((name, line) :: openings) = some name := rfl

theorem Within.append (hu : Within outer u) (hv : Within outer v) : Within outer (u ++ v) := by
  induction hu with
  | nil => exact hv
  | stray hne _ ih => exact .stray hne (ih hv)
  | environment hinner _ _ ih =>
      rw [List.cons_append, List.append_assoc, List.cons_append]
      exact .environment hinner (ih hv)

theorem Opened.append (hu : Opened u openings) (hv : Within (innermost openings) v) :
    Opened (u ++ v) openings := by
  cases hu with
  | top hu => exact .top (hu.append hv)
  | inside hu hinner =>
      rw [List.append_assoc, List.cons_append]
      exact .inside hu (hinner.append hv)

theorem Opened.opens (h : Opened e openings) (name : String) (line : Nat) :
    Opened (e ++ [.opens name line]) ((name, line) :: openings) :=
  .inside h .nil

theorem Opened.stray (h : Opened e openings) (hne : innermost openings ≠ some name) (line : Nat) :
    Opened (e ++ [.closes name line]) openings :=
  h.append (.stray hne .nil)

theorem Opened.closes {begun : Nat} (h : Opened e ((name, begun) :: openings)) (line : Nat) :
    Opened (e ++ [.closes name line]) openings := by
  cases h with
  | inside hu hinner =>
      rw [List.append_assoc, List.cons_append]
      exact hu.append (.environment hinner .nil)

end

/-! ### The check, delimiter by delimiter -/

/-- What a delimiter makes of the open environments and of the issues found. -/
def pass (s : List (String × Nat) × List Issue) : Delimiter → List (String × Nat) × List Issue
  | .opens name line => ((name, line) :: s.1, s.2)
  | .closes name line =>
    if innermost s.1 = some name then (s.1.tail, s.2)
    else (s.1, s.2 ++ [.mismatchedEnvironment line (innermost s.1) name])

section

variable {outer : Option String} {name : String} {line : Nat} {e v : List Delimiter}
  {openings : List (String × Nat)} {s : List (String × Nat) × List Issue}

@[simp] theorem pass_opens : pass s (.opens name line) = ((name, line) :: s.1, s.2) := rfl

theorem pass_closes (h : innermost s.1 = some name) :
    pass s (.closes name line) = (s.1.tail, s.2) :=
  if_pos h

theorem pass_stray (h : innermost s.1 ≠ some name) : pass s (.closes name line) =
    (s.1, s.2 ++ [.mismatchedEnvironment line (innermost s.1) name]) :=
  if_neg h

/-- Delimiters that leave everything open do so in the check. -/
theorem Within.foldl_pass (h : Within outer v) (hs : innermost s.1 = outer) :
    (v.foldl pass s).1 = s.1 := by
  induction h generalizing s with
  | nil => rfl
  | stray hne _ ih =>
      rw [List.foldl_cons, pass_stray (hs ▸ hne)]
      exact ih hs
  | @environment outer name line last u v _ _ ihinner ih =>
      have hinner := ihinner (s := pass s (.opens name line)) rfl
      rw [List.foldl_cons, List.foldl_append, List.foldl_cons, pass_closes (by rw [hinner]; rfl),
        hinner]
      exact ih hs

theorem Opened.foldl_pass (h : Opened e openings) : (e.foldl pass ([], [])).1 = openings := by
  induction h with
  | top h => exact h.foldl_pass rfl
  | inside _ hinner ih =>
      rw [List.foldl_append, List.foldl_cons, hinner.foldl_pass rfl, pass_opens, ih]

theorem Opened.unique {others : List (String × Nat)} (h : Opened e openings)
    (hothers : Opened e others) : openings = others :=
  h.foldl_pass.symm.trans hothers.foldl_pass

end

/-! ### Stray ends -/

/-- The places of the stray ends, in order, and what is reported of them. -/
structure Strays (e : List Delimiter) (places : List Nat) (found : List Issue) : Prop where
  increasing : places.Pairwise (· < ·)
  mem_iff : ∀ i, i ∈ places ↔ ∃ issue, Stray e i issue
  found : List.Forall₂ (Stray e) places found

section

variable {name : String} {line i : Nat} {d : Delimiter} {e v : List Delimiter}
  {openings : List (String × Nat)} {issue : Issue} {places : List Nat} {found : List Issue}

theorem Stray.lt_length (h : Stray e i issue) : i < e.length := by
  obtain ⟨_, _, _, hi, -⟩ := h
  exact (List.getElem?_eq_some_iff.mp hi).1

/-- Whether an end is stray does not depend on what stands behind it. -/
theorem stray_append (hi : i < e.length) (v : List Delimiter) :
    Stray (e ++ v) i issue ↔ Stray e i issue := by
  rw [Stray, Stray, List.getElem?_append_left hi, List.take_append_of_le_length (Nat.le_of_lt hi)]

theorem stray_last : Stray (e ++ [d]) e.length issue ↔ ∃ name line openings,
    d = .closes name line ∧ Opened e openings ∧ innermost openings ≠ some name ∧
      issue = .mismatchedEnvironment line (innermost openings) name := by
  rw [Stray, List.getElem?_concat_length, List.take_left]
  simp only [Option.some.injEq]

namespace Strays

theorem start : Strays [] [] [] where
  increasing := .nil
  mem_iff i := by
    refine iff_of_false List.not_mem_nil ?_
    rintro ⟨issue, h⟩
    exact absurd h.lt_length (Nat.not_lt_zero i)
  found := .nil

theorem lt_length (h : Strays e places found) : ∀ i ∈ places, i < e.length := by
  intro i hi
  obtain ⟨issue, hstray⟩ := (h.mem_iff i).mp hi
  exact hstray.lt_length

theorem mem_iff_concat (h : Strays e places found) (d : Delimiter) (i : Nat) :
    (∃ issue, Stray (e ++ [d]) i issue) ↔
      i ∈ places ∨ i = e.length ∧ ∃ issue, Stray (e ++ [d]) e.length issue := by
  constructor
  · rintro ⟨issue, hstray⟩
    have hlt := hstray.lt_length
    rw [List.length_append, List.length_singleton] at hlt
    rcases Nat.lt_succ_iff_lt_or_eq.mp hlt with hlt | rfl
    · exact .inl ((h.mem_iff i).mpr ⟨issue, (stray_append hlt [d]).mp hstray⟩)
    · exact .inr ⟨rfl, issue, hstray⟩
  · rintro (hi | ⟨rfl, hstray⟩)
    · obtain ⟨issue, hstray⟩ := (h.mem_iff i).mp hi
      exact ⟨issue, (stray_append hstray.lt_length [d]).mpr hstray⟩
    · exact hstray

theorem found_append (h : Strays e places found) (d : Delimiter) :
    List.Forall₂ (Stray (e ++ [d])) places found :=
  h.found.imp fun _ _ hstray => (stray_append hstray.lt_length [d]).mpr hstray

theorem quiet (h : Strays e places found) (hd : ∀ issue, ¬Stray (e ++ [d]) e.length issue) :
    Strays (e ++ [d]) places found where
  increasing := h.increasing
  mem_iff i := by
    rw [h.mem_iff_concat]
    exact ⟨.inl, fun hi => hi.resolve_right fun hlast => hlast.2.elim hd⟩
  found := h.found_append d

theorem concat (h : Strays e places found) (hd : Stray (e ++ [d]) e.length issue) :
    Strays (e ++ [d]) (places ++ [e.length]) (found ++ [issue]) where
  increasing := by
    rw [List.pairwise_append]
    refine ⟨h.increasing, List.pairwise_singleton _ _, fun i hi j hj => ?_⟩
    rw [List.mem_singleton.mp hj]
    exact h.lt_length i hi
  mem_iff i := by
    rw [h.mem_iff_concat, List.mem_append, List.mem_singleton]
    exact or_congr_right (and_iff_left ⟨issue, hd⟩).symm
  found := List.rel_append (h.found_append d) (.cons hd .nil)

end Strays

end

/-! ### The whole check -/

/-- What the check has made of delimiters. -/
structure Traced (e : List Delimiter) (openings : List (String × Nat)) (found : List Issue) :
    Prop where
  opened : Opened e openings
  strays : ∃ places, Strays e places found
  balance : openings.length + e.countP (!·.isOpening) = e.countP (·.isOpening) + found.length
  begun : List.Sublist openings.reverse (e.filterMap Delimiter.opening?)

namespace Traced

variable {e : List Delimiter} {openings : List (String × Nat)} {found : List Issue} {name : String}

theorem start : Traced [] [] [] where
  opened := .top .nil
  strays := ⟨[], .start⟩
  balance := rfl
  begun := .slnil

theorem opens (h : Traced e openings found) (name : String) (line : Nat) :
    Traced (e ++ [.opens name line]) ((name, line) :: openings) found where
  opened := h.opened.opens name line
  strays := by
    obtain ⟨places, hstrays⟩ := h.strays
    refine ⟨places, hstrays.quiet fun issue hstray => ?_⟩
    obtain ⟨_, _, _, hd, -⟩ := stray_last.mp hstray
    cases hd
  balance := by
    have := h.balance
    simp
    omega
  begun := by
    rw [List.reverse_cons, List.filterMap_append]
    exact h.begun.append (List.Sublist.refl _)

theorem closes {begun : Nat} (h : Traced e ((name, begun) :: openings) found) (line : Nat) :
    Traced (e ++ [.closes name line]) openings found where
  opened := h.opened.closes line
  strays := by
    obtain ⟨places, hstrays⟩ := h.strays
    refine ⟨places, hstrays.quiet fun issue hstray => ?_⟩
    obtain ⟨_, _, _, hd, hopened, hne, -⟩ := stray_last.mp hstray
    cases hd
    exact hne (by rw [hopened.unique h.opened, innermost_cons])
  balance := by
    have := h.balance
    simp at this ⊢
    omega
  begun := by
    rw [List.filterMap_append]
    have hshorter : List.Sublist openings.reverse ((name, begun) :: openings).reverse := by simp
    exact (hshorter.trans h.begun).trans (List.sublist_append_left _ _)

theorem stray (h : Traced e openings found) (hname : innermost openings ≠ some name) (line : Nat) :
    Traced (e ++ [.closes name line]) openings
      (found ++ [.mismatchedEnvironment line (innermost openings) name]) where
  opened := h.opened.stray hname line
  strays := by
    obtain ⟨places, hstrays⟩ := h.strays
    refine ⟨places ++ [e.length], hstrays.concat ?_⟩
    exact stray_last.mpr ⟨name, line, openings, rfl, h.opened, hname, rfl⟩
  balance := by
    have := h.balance
    simp
    omega
  begun := by
    rw [List.filterMap_append]
    exact h.begun.trans (List.sublist_append_left _ _)

theorem pass {s : List (String × Nat) × List Issue} (h : Traced e s.1 s.2) (d : Delimiter) :
    Traced (e ++ [d]) (pass s d).1 (pass s d).2 := by
  obtain ⟨openings, found⟩ := s
  cases d with
  | opens name line => exact h.opens name line
  | closes name line =>
      by_cases hname : innermost openings = some name
      · rw [pass_closes hname]
        cases openings with
        | nil => simp at hname
        | cons opening openings =>
            obtain ⟨inner, begun⟩ := opening
            obtain rfl : inner = name := by simpa using hname
            exact h.closes line
      · rw [pass_stray hname]
        exact h.stray hname line

theorem run (e : List Delimiter) :
    Traced e (e.foldl Structure.pass ([], [])).1 (e.foldl Structure.pass ([], [])).2 := by
  induction e using List.reverseRecOn with
  | nil => exact start
  | append_singleton e d ih =>
      rw [List.foldl_append]
      exact ih.pass d

end Traced

end Manuscript.Structure
