import Mathlib.Data.List.Basic
import OptionSchema.Json.ReadError

/-!
# The numerals of numbers

The numeral of every number is one of the grammar, that of a double included: the digits found for a
double stand for zero only on a grid of whole numbers or a finer one. The numeral of an integer is
read as that integer.
-/

namespace OptionSchema

namespace Text

theorem digitValue_of_isDigit {c : Char} (digit : c.isDigit) :
    digitValue c = c.toNat - '0'.toNat :=
  if_pos digit

theorem all_isDigit_decimalDigits (n : Nat) : (decimalDigits n).all Char.isDigit = true :=
  List.all_eq_true.mpr fun _ member =>
    Nat.isDigit_of_mem_toDigits (by decide) (by decide) member

theorem digitsValue_eq_ofDigitChars {digits : List Char} (decimal : digits.all Char.isDigit) :
    digitsValue 10 digits = Nat.ofDigitChars 10 digits 0 := by
  have general : ∀ start,
      digits.foldl (fun n c => n * 10 + digitValue c) start = Nat.ofDigitChars 10 digits start := by
    induction digits with
    | nil => simp
    | cons c digits ih =>
        simp only [List.all_cons, Bool.and_eq_true] at decimal
        intro start
        rw [List.foldl_cons, Nat.ofDigitChars_cons, digitValue_of_isDigit decimal.1,
          Nat.mul_comm start, ih decimal.2]
  exact general 0

/-- The decimal digits of a number denote it. -/
@[simp] theorem digitsValue_decimalDigits (n : Nat) : digitsValue 10 (decimalDigits n) = n := by
  rw [digitsValue_eq_ofDigitChars (all_isDigit_decimalDigits n)]
  exact Nat.ofDigitChars_ten_toDigits

theorem decimalDigits_ne_nil (n : Nat) : decimalDigits n ≠ [] :=
  Nat.toDigits_ne_nil

/-- The first decimal digit of a positive number is not zero. -/
theorem head?_decimalDigits_ne {n : Nat} (positive : 0 < n) :
    (decimalDigits n).head? ≠ some '0' := by
  induction n using Nat.strongRecOn with
  | ind n ih =>
      unfold decimalDigits at ih ⊢
      by_cases small : n < 10
      · rw [Nat.toDigits_of_lt_base small]
        have checked : ∀ n < 10, 0 < n → [n.digitChar].head? ≠ some '0' := by decide
        exact checked n small positive
      · rw [Nat.toDigits_of_base_le (by decide) (by omega),
          List.head?_append_of_ne_nil _ Nat.toDigits_ne_nil]
        exact ih (n / 10) (by omega) (by omega)

end Text

namespace Json

open Text (decimalDigits decimalDigits_ne_nil all_isDigit_decimalDigits head?_decimalDigits_ne)

/-! ## Whole parts -/

/-- A whole part is a single zero, or digits that start with another one. -/
theorem isWhole_iff {digits : List Char} :
    isWhole digits = true ↔
      digits = ['0'] ∨ digits ≠ [] ∧ digits.all Char.isDigit = true ∧ digits.head? ≠ some '0' := by
  rw [isWhole.eq_def]
  split
  · simp
  · simp
  · next c rest notAlone =>
      have several : c :: rest ≠ ['0'] := fun same =>
        notAlone (List.cons.inj same).1 (List.cons.inj same).2
      simp only [several, false_or, ne_eq, reduceCtorEq, not_false_eq_true, true_and, List.all_cons,
        List.head?_cons, Option.some.injEq, Bool.and_eq_true, bne_iff_ne]
      exact ⟨fun ⟨⟨first, digit⟩, others⟩ => ⟨⟨digit, others⟩, first⟩,
        fun ⟨⟨digit, others⟩, first⟩ => ⟨⟨first, digit⟩, others⟩⟩

/-- Digits that do not start with a zero can be the whole part of a numeral. -/
theorem isWhole_of_head?_ne {digits : List Char} (some' : digits ≠ [])
    (decimal : digits.all Char.isDigit) (noZero : digits.head? ≠ some '0') :
    isWhole digits = true :=
  isWhole_iff.mpr (.inr ⟨some', decimal, noZero⟩)

theorem isWhole_singleton {c : Char} (digit : c.isDigit) : isWhole [c] = true := by
  by_cases zero : c = '0'
  · rw [zero]
    rfl
  · exact isWhole_of_head?_ne (by simp) (by simp [digit]) (by simpa using zero)

/-- The decimal digits of a number can be the whole part of a numeral. -/
theorem isWhole_decimalDigits (n : Nat) : isWhole (decimalDigits n) = true := by
  cases n with
  | zero => rfl
  | succ n =>
      exact isWhole_of_head?_ne (decimalDigits_ne_nil _) (all_isDigit_decimalDigits _)
        (head?_decimalDigits_ne n.succ_pos)

/-! ## Integers -/

theorem wellFormed_integer (value : Int) (fits : FitsWord value) :
    (Number.integer value fits).numeral.wellFormed = true := by
  simp [Number.numeral, Numeral.wellFormed, isWhole_decimalDigits]

theorem integer?_numeral (value : Int) (fits : FitsWord value) :
    (Number.integer value fits).numeral.integer? = some value := by
  obtain ⟨low, high⟩ := fits
  simp only [Number.numeral, Numeral.integer?, List.isEmpty_nil, Option.isNone_none, Bool.and_true,
    if_true, Text.digitsValue_decimalDigits, decide_eq_true_eq, Bool.or_eq_true, beq_iff_eq]
  split
  · next negative =>
      rw [if_neg (by omega)]
      congr 1
      omega
  · next positive =>
      rw [if_pos (by omega)]
      congr 1
      omega

/-- The numeral of an integer is read as that integer. -/
@[simp] theorem readNumber_integer (value : Int) (fits : FitsWord value) :
    readNumber (Number.integer value fits).numeral = .ok (.integer value fits) := by
  rw [readNumber, Numeral.number?, integer?_numeral]
  simp only [fits, dif_pos]

end Json

/-! ## Doubles -/

namespace Decimal

/-- Zero lies in the interval that rounds to a number only if the number is zero. -/
theorem mantissa_eq_zero_of_covers {b : Binary} {grid : Int} (covers : b.covers grid 0) :
    b.mantissa = 0 := by
  have low : (b.inUnits grid b.low).1 = 0 := by
    simp only [Binary.covers, Nat.zero_mul] at covers
    split at covers <;> simp only [Bool.and_eq_true, decide_eq_true_eq] at covers <;> omega
  have noLow : b.low = 0 := by
    rw [Binary.inUnits, Nat.mul_assoc] at low
    have positive : 0 < 2 ^ (b.exponent - 2).toNat * 10 ^ (-grid).toNat :=
      Nat.mul_pos (Nat.two_pow_pos _) (Nat.pow_pos (by decide))
    exact (Nat.mul_eq_zero.mp low).resolve_right (Nat.ne_of_gt positive)
  unfold Binary.low at noLow
  split at noLow <;> omega

theorem Binary.onGrid?_spec {b : Binary} {grid : Int} {point : Point}
    (found : b.onGrid? grid = some point) :
    point.exponent = grid ∧ (point.digits = 0 → b.mantissa = 0) := by
  simp only [Binary.onGrid?] at found
  split at found
  · next below above =>
      cases found
      refine ⟨rfl, fun zero => ?_⟩
      split at zero
      · rw [show _ / _ = 0 from zero] at below
        exact mantissa_eq_zero_of_covers below
      · exact absurd zero (Nat.succ_ne_zero _)
  · next below above =>
      cases found
      refine ⟨rfl, fun zero => ?_⟩
      rw [show _ / _ = 0 from zero] at below
      exact mantissa_eq_zero_of_covers below
  · cases found
    exact ⟨rfl, fun zero => by simp at zero⟩
  · cases found

/-- The search finds zero on a grid of whole numbers or a finer one, if it starts there for zero. -/
theorem Binary.search_exponent_le {b : Binary} (grids : Nat) {grid : Int}
    (start : b.mantissa = 0 → grid ≤ 0) (zero : (b.search grids grid).digits = 0) :
    (b.search grids grid).exponent ≤ 0 := by
  induction grids generalizing grid with
  | zero => exact Int.le_refl 0
  | succ grids ih =>
      rw [Binary.search] at zero ⊢
      split at zero
      · next point found =>
          obtain ⟨sameGrid, zeroOnly⟩ := Binary.onGrid?_spec found
          rw [sameGrid]
          exact start (zeroOnly zero)
      · exact ih (fun none => Int.le_trans (Int.sub_le_self grid (by decide)) (start none)) zero

theorem Binary.ofFloat_exponent {x : Float} (zero : (Binary.ofFloat x).mantissa = 0) :
    (Binary.ofFloat x).exponent = -1074 := by
  simp only [Binary.ofFloat] at zero ⊢
  split at zero
  · next small => rw [if_pos small]
  · simp at zero

/-- The shortest decimal of a double has no digits but zero only if it has no power of ten. -/
theorem exponent_shortest_le {x : Float} (zero : (Binary.ofFloat x).shortest.digits = 0) :
    (Binary.ofFloat x).shortest.exponent ≤ 0 := by
  refine Binary.search_exponent_le 20 (fun none => ?_) zero
  rw [Binary.coarsest, none, Binary.ofFloat_exponent none]
  decide

end Decimal

namespace Json

open Text (decimalDigits decimalDigits_ne_nil all_isDigit_decimalDigits head?_decimalDigits_ne)

theorem all_take {p : Char → Bool} {digits : List Char} (all : digits.all p) (n : Nat) :
    (digits.take n).all p = true :=
  List.all_eq_true.mpr fun c member => List.all_eq_true.mp all c (List.mem_of_mem_take member)

theorem all_drop {p : Char → Bool} {digits : List Char} (all : digits.all p) (n : Nat) :
    (digits.drop n).all p = true :=
  List.all_eq_true.mpr fun c member => List.all_eq_true.mp all c (List.mem_of_mem_drop member)

theorem wellFormed_positional (negative : Bool) {d : Decimal.Point}
    (zero : d.digits = 0 → d.exponent ≤ 0) : (positional negative d).wellFormed = true := by
  have decimal := all_isDigit_decimalDigits d.digits
  unfold positional
  split
  · next whole =>
      simp only [Numeral.wellFormed, Option.all_none, Bool.and_true, Bool.and_eq_true]
      refine ⟨?_, by decide⟩
      cases Nat.eq_zero_or_pos d.digits with
      | inl none =>
          have noPower : d.exponent.toNat = 0 := by have := zero none; omega
          rw [none, noPower]
          rfl
      | inr some' =>
          refine isWhole_of_head?_ne ?_ ?_ ?_
          · simp [decimalDigits_ne_nil]
          · simp [decimal]
          · rw [List.head?_append_of_ne_nil _ (decimalDigits_ne_nil _)]
            exact head?_decimalDigits_ne some'
  · next fraction =>
      dsimp only
      split
      · next within =>
          simp only [Numeral.wellFormed, Option.all_none, Bool.and_true, Bool.and_eq_true]
          refine ⟨?_, all_drop decimal _⟩
          have several : 0 < d.digits := by
            refine Nat.pos_of_ne_zero fun none => ?_
            rw [none] at within
            have single : (decimalDigits 0).length = 1 := rfl
            omega
          refine isWhole_of_head?_ne ?_ (all_take decimal _) ?_
          · simp [decimalDigits_ne_nil]
            omega
          · rw [List.head?_take, if_neg (by omega)]
            exact head?_decimalDigits_ne several
      · simp [Numeral.wellFormed, isWhole_singleton, decimal]

theorem wellFormed_scientific (negative : Bool) (d : Decimal.Point) :
    (scientific negative d).wellFormed = true := by
  have decimal := all_isDigit_decimalDigits d.digits
  have first : isWhole ((decimalDigits d.digits).take 1) = true := by
    cases digits : decimalDigits d.digits with
    | nil => exact absurd digits (decimalDigits_ne_nil _)
    | cons c rest =>
        rw [digits, List.all_cons, Bool.and_eq_true] at decimal
        exact isWhole_singleton decimal.1
  simp only [scientific, Numeral.wellFormed, first, all_drop decimal, Option.all_some,
    Exponent.wellFormed, all_isDigit_decimalDigits, Bool.true_and, Bool.and_true, beq_self_eq_true,
    Bool.true_or, List.isEmpty_eq_false_iff.mpr (decimalDigits_ne_nil _), Bool.not_false]
  split <;> rfl

/-- The numeral of a double is one of the grammar. -/
theorem wellFormed_floatNumeral (x : Float) : (floatNumeral x).wellFormed = true := by
  simp only [floatNumeral]
  split
  · rfl
  · split
    · exact wellFormed_positional _ Decimal.exponent_shortest_le
    · exact wellFormed_scientific _ _

theorem wellFormed_numeral (number : Number) : number.numeral.wellFormed = true :=
  match number with
  | .integer value fits => wellFormed_integer value fits
  | .float x => wellFormed_floatNumeral x

end Json

end OptionSchema
