import Manuscript.Json.Definite
import Manuscript.Json.Path
import Manuscript.Proofs.Json.Printing
import Manuscript.Proofs.Lists.Association
import Mathlib.Data.List.Nodup
import Mathlib.Data.List.TakeWhile

/-!
Fields are read from what is written for them.

What is written is exact, so that its text keeps it, and what is exact can also
be held as a whole: a number of 64 bits is far from the end of the doubles, and
nesting is bounded.
-/

namespace Manuscript.Json

/-! ### Values of fields -/

theorem digitsValue?_ofNat (n : Nat) : digitsValue? (Text.ofNat n) = some n := by
  have hproper : ¬((Text.ofNat n).isEmpty || !(Text.ofNat n).all Char.isDigit) = true := by
    have hall : (Text.ofNat n).all Char.isDigit = true :=
      List.all_eq_true.mpr fun c hc => Text.isDigit_of_mem_ofNat hc
    have hne : (Text.ofNat n).isEmpty = false := List.isEmpty_eq_false_iff.mpr (Text.ofNat_ne_nil n)
    rw [hall, hne]
    decide
  have hvalue := Text.ofDigitChars_ofNat n
  rw [Nat.ofDigitChars_eq_foldl] at hvalue
  simp only [Nat.mul_comm 10] at hvalue
  rw [digitsValue?, if_neg hproper, hvalue]

theorem natBelow?_ofNat {bound n : Nat} (h : n < bound) : natBelow? bound (ofNat n) = some n := by
  rw [ofNat, natBelow?, digitsValue?_ofNat, Option.bind_some, if_pos h]

theorem nat?_ofNat {n : Nat} (h : n < Text.countLimit) : nat? (ofNat n) = some n :=
  natBelow?_ofNat h

theorem int?_ofInt {i : Int} (hleast : -2147483648 ≤ i) (hgreatest : i < 2147483648) :
    int? (ofInt i) = some i := by
  cases i with
  | ofNat n =>
      have hn : n < 2147483648 := by
        have := Int.ofNat_eq_natCast n
        omega
      have hread : natBelow? 2147483648 (.number (Text.ofNat n)) = some n := natBelow?_ofNat hn
      obtain ⟨c, ds, hds, hc⟩ := exists_ofNat_cons n
      show int? (.number (Text.ofNat n)) = some (.ofNat n)
      rw [hds] at hread ⊢
      rw [int?, hread, Option.map_some]
      rintro more h
      injection h with h
      rw [List.head_eq_of_cons_eq h] at hc
      cases hc
  | negSucc n =>
      have hn : ¬(n + 1 = 0 ∨ 2147483648 < n + 1) := by omega
      show int? (.number ('-' :: Text.ofNat (n + 1))) = some (.negSucc n)
      rw [int?, digitsValue?_ofNat, Option.bind_some, if_neg hn]
      rfl

theorem list?_map {α : Type} {item? : Json → Option α} {write : α → Json} {as : List α}
    (h : ∀ a ∈ as, item? (write a) = some a) : list? item? (.array (as.map write)) = some as := by
  show (as.map write).mapM item? = some as
  induction as with
  | nil => rfl
  | cons a as ih =>
      have ha := h a List.mem_cons_self
      have has := ih fun x hx => h x (List.mem_cons_of_mem a hx)
      rw [List.map_cons, List.mapM_cons, ha, has]
      rfl

theorem list?_strings (ss : List String) : list? string? (strings ss) = some ss :=
  list?_map fun _ _ => rfl

/-- A value that may be null is told from null by how it is written. -/
theorem nullable?_ofOption {α : Type} {value? : Json → Option α} {write : α → Json}
    {o : Option α} (h : ∀ a ∈ o, value? (write a) = some a ∧ write a ≠ .null) :
    nullable? value? (ofOption write o) = some o := by
  cases o with
  | none => rfl
  | some a =>
      obtain ⟨hread, hne⟩ := h a rfl
      rw [ofOption, nullable?, hread, Option.map_some]
      exact hne

theorem ofJson?_path (p : Path) : Path.ofJson? p.toJson = some p := by
  cases p with
  | mk t =>
      show some (Path.mk (String.ofList t).toList) = some ⟨t⟩
      rw [String.toList_ofList]

/-! ### Records -/

theorem length_filter_le_one {members : List (String × Json)}
    (hnodup : (members.map Prod.fst).Nodup) (name : String) :
    (members.filter (·.1 == name)).length ≤ 1 := by
  have hcount := List.nodup_iff_count_le_one.mp hnodup name
  rw [List.count_eq_countP, List.countP_map, List.countP_eq_length_filter] at hcount
  exact hcount

/-- The fields of an object whose members may be more and in any order. -/
theorem fields?_of_once {names : List String} {members : List (String × Json)}
    (h : ∀ name ∈ names, (members.filter (·.1 == name)).length ≤ 1) :
    fields? names (.object members) = some (names.map fun name => members.lookup name) := by
  have hall : (names.all fun n => decide ((members.filter (·.1 == n)).length ≤ 1)) = true :=
    List.all_eq_true.mpr fun name hname => decide_eq_true (h name hname)
  rw [fields?, if_pos hall]

theorem fields?_object {names : List String} {members : List (String × Json)}
    (hnames : members.map Prod.fst = names) (hnodup : names.Nodup) :
    fields? names (.object members) = some (members.map fun m => some m.2) := by
  subst hnames
  rw [fields?_of_once fun name _ => length_filter_le_one hnodup name, List.map_map]
  exact congrArg some (List.map_congr_left fun m hm => lookup_of_mem hnodup hm)

/-! ### What is written is exact -/

theorem Exact.mono {n m : Nat} {j : Json} (h : Exact n j) (hle : n ≤ m) : Exact m j := by
  induction h generalizing m with
  | null => exact .null m
  | bool n b => exact .bool m b
  | whole n i hi => exact .whole m i hi
  | string n s => exact .string m s
  | array h ih =>
      obtain ⟨m, rfl⟩ : ∃ k, m = k + 1 := ⟨m - 1, by omega⟩
      exact .array fun j hj => ih j hj (by omega)
  | object h ih =>
      obtain ⟨m, rfl⟩ : ∃ k, m = k + 1 := ⟨m - 1, by omega⟩
      exact .object fun x hx => ih x hx (by omega)

theorem exact_ofNat (n : Nat) {k : Nat} (h : k < Text.countLimit) : Exact n (ofNat k) :=
  .whole n k h

theorem exact_ofOption {n : Nat} {α : Type} {write : α → Json} {o : Option α}
    (h : ∀ a ∈ o, Exact n (write a)) : Exact n (ofOption write o) := by
  cases o with
  | none => exact .null n
  | some a => exact h a rfl

theorem exact_map {n : Nat} {α : Type} {write : α → Json} {as : List α}
    (h : ∀ a ∈ as, Exact n (write a)) : Exact (n + 1) (.array (as.map write)) := by
  refine .array fun j hj => ?_
  obtain ⟨a, ha, rfl⟩ := List.mem_map.mp hj
  exact h a ha

theorem exact_strings (n : Nat) (ss : List String) : Exact (n + 1) (strings ss) :=
  exact_map fun s _ => .string n s

/-- An object is exact if its members are, one by one. -/
theorem exact_record {n : Nat} {members : List (String × Json)}
    (h : members.Forall fun m => Exact n m.2) : Exact (n + 1) (.object members) :=
  .object (List.forall_iff_forall_mem.mp h)

theorem exact_path (n : Nat) (p : Path) : Exact n p.toJson :=
  .string n p.toString

/-! ### What is exact can be held as a whole -/

namespace Magnitude

theorem le_ofDigitChars (ds : Text) (n : Nat) : n ≤ Nat.ofDigitChars 10 ds n := by
  induction ds generalizing n with
  | nil => exact Nat.le_refl n
  | cons d ds ih =>
      have hrest := ih (10 * n + (d.toNat - '0'.toNat))
      rw [Nat.ofDigitChars_cons]
      omega

/-- Digits whose number fits all fit on the way. -/
theorem readWhole_of_lt (ds : Text) {n : Nat} (h : Nat.ofDigitChars 10 ds n < Text.countLimit) :
    readWhole n ds = ⟨Nat.ofDigitChars 10 ds n, 0⟩ := by
  induction ds generalizing n with
  | nil => rw [readWhole, Nat.ofDigitChars_nil]
  | cons d ds ih =>
      have hmore : Nat.ofDigitChars 10 (d :: ds) n = Nat.ofDigitChars 10 ds (append n d) := by
        rw [Nat.ofDigitChars_cons, append, Nat.mul_comm]
      rw [hmore] at h ⊢
      have hfits : append n d < Text.countLimit :=
        Nat.lt_of_le_of_lt (le_ofDigitChars ds (append n d)) h
      rw [readWhole, if_pos hfits]
      exact ih h

theorem ofLiteral_ofNat (sign : Text) (hsign : ∀ c ∈ sign, c = '-') {n : Nat}
    (h : n < Text.countLimit) : ofLiteral (sign ++ Text.ofNat n) = ⟨n, 0⟩ := by
  obtain ⟨c, ds, hds, hc⟩ := exists_ofNat_cons n
  have hunsigned : (sign ++ Text.ofNat n).dropWhile (· == '-') = Text.ofNat n := by
    have hminus : (c == '-') = false := by
      refine beq_eq_false_iff_ne.mpr ?_
      rintro rfl
      cases hc
    rw [List.dropWhile_append_of_pos fun x hx => beq_iff_eq.mpr (hsign x hx), hds,
      List.dropWhile_cons, hminus]
    rfl
  have hwhole : (Text.ofNat n).takeWhile Char.isDigit = Text.ofNat n :=
    List.takeWhile_eq_self_iff.mpr fun c hc => Text.isDigit_of_mem_ofNat hc
  have hread := readWhole_of_lt (Text.ofNat n) (n := 0) (by rwa [Text.ofDigitChars_ofNat])
  rw [Text.ofDigitChars_ofNat] at hread
  simp only [ofLiteral, hunsigned, hwhole, List.drop_length, hread]
  rfl

theorem toDouble_le (n : Nat) : toDouble n ≤ 2 * n := by
  simp only [toDouble]
  split
  · omega
  · next hbits =>
      -- rounding up adds a step at most, and a step is no more than the number
      have hstep : 1 <<< (Nat.log2 n + 1 - 53) ≤ n := by
        have hn : n ≠ 0 := by
          rintro rfl
          simp at hbits
        rw [Nat.one_shiftLeft]
        calc 2 ^ (Nat.log2 n + 1 - 53) ≤ 2 ^ Nat.log2 n :=
              Nat.pow_le_pow_right (by omega) (by omega)
          _ ≤ n := Nat.log2_self_le hn
      have hkept := Nat.div_mul_le_self n (1 <<< (Nat.log2 n + 1 - 53))
      split
      · rw [Nat.add_mul, Nat.one_mul]
        omega
      · omega

theorem inRange_of_lt {n : Nat} (h : n < Text.countLimit) : inRange ⟨n, 0⟩ = true := by
  have hone : toDouble (Nat.pow 10 (0 : Int).toNat) = 1 := by decide
  have hgreat : 2 * Text.countLimit < tooGreat := by decide +kernel
  have hdouble := toDouble_le n
  have hshift : ¬(308 : Int) < 0 := by decide
  simp only [inRange, if_neg hshift, hone, Nat.mul_one]
  split
  · rfl
  · exact decide_eq_true (by omega)

end Magnitude

theorem isDefinite_whole {i : Int} (h : i.natAbs < Text.countLimit) :
    isDefinite (.number (Text.ofInt i)) = true := by
  have hliteral : Magnitude.ofLiteral (Text.ofInt i) = ⟨i.natAbs, 0⟩ := by
    cases i with
    | ofNat n => exact Magnitude.ofLiteral_ofNat [] (by simp) h
    | negSucc n => exact Magnitude.ofLiteral_ofNat ['-'] (by simp) h
  rw [isDefinite, hliteral]
  exact Magnitude.inRange_of_lt h

theorem itemsDefinite_iff (items : List Json) :
    itemsDefinite items = true ↔ ∀ j ∈ items, isDefinite j = true := by
  induction items with
  | nil => simp [itemsDefinite]
  | cons j js ih => simp [itemsDefinite, ih]

theorem membersDefinite_iff (members : List (String × Json)) :
    membersDefinite members = true ↔ ∀ m ∈ members, isDefinite m.2 = true := by
  induction members with
  | nil => simp [membersDefinite]
  | cons m ms ih => simp [membersDefinite, ih]

theorem itemsDepth_le_iff (n : Nat) (items : List Json) :
    itemsDepth items ≤ n ↔ ∀ j ∈ items, depth j ≤ n := by
  induction items with
  | nil => simp [itemsDepth]
  | cons j js ih => rw [itemsDepth, Nat.max_le, ih, List.forall_mem_cons]

theorem membersDepth_le_iff (n : Nat) (members : List (String × Json)) :
    membersDepth members ≤ n ↔ ∀ m ∈ members, depth m.2 ≤ n := by
  induction members with
  | nil => simp [membersDepth]
  | cons m ms ih => rw [membersDepth, Nat.max_le, ih, List.forall_mem_cons]

theorem Exact.isDefinite {n : Nat} {j : Json} (h : Exact n j) : j.isDefinite = true := by
  induction h with
  | null => rfl
  | bool n b => rfl
  | whole n i hi => exact isDefinite_whole hi
  | string n s => rfl
  | array h ih => exact (itemsDefinite_iff _).mpr ih
  | object h ih => exact (membersDefinite_iff _).mpr ih

theorem Exact.depth_le {n : Nat} {j : Json} (h : Exact n j) : j.depth ≤ n := by
  induction h with
  | null n => exact Nat.zero_le n
  | bool n b => exact Nat.zero_le n
  | whole n i hi => exact Nat.zero_le n
  | string n s => exact Nat.zero_le n
  | array h ih => exact Nat.succ_le_succ ((itemsDepth_le_iff _ _).mpr ih)
  | object h ih => exact Nat.succ_le_succ ((membersDepth_le_iff _ _).mpr ih)

end Manuscript.Json
