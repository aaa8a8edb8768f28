/-
**Whole numbers stay exact.**

On operands that count as whole numbers of 64 bits, an operator gives the exact result when that is
a whole number of 64 bits, and else what it gives on the nearest binary fractions. Nothing wraps
around and nothing is cut off; only a division by zero fails.

* `CountsAs`, `ofValue_eq_int_iff`: the values that count as whole numbers of 64 bits;
* `onRationals`, `exact_eq_some_iff`: the exact results, among the rational numbers;
* `combine_counted`: **what an operator gives on whole numbers**;
* `negate_int`: **the negative of a whole number**.
-/

import Mathlib.Algebra.Order.Field.Rat
import Mathlib.Data.Int.CharZero
import Mathlib.Tactic.NormNum
import ShellSession.Engine.Arithmetic
import ShellSession.Proofs.Decimal.Nonzero
import ShellSession.Proofs.Decimal.Numeral

namespace ShellSession.Engine

open Script (Operator)

/-! ### Values that count as whole numbers -/

/-- The values that count as whole numbers of 64 bits: nothing counts as zero, a truth value as zero
or one, and a text when it is a numeral between blanks. -/
inductive CountsAs : Value → Int64 → Prop
  | null : CountsAs .null 0
  | bool (truth : Bool) : CountsAs (.bool truth) (if truth then 1 else 0)
  | int (number : Int64) : CountsAs (.int number) number
  | text {chars : String} {before inner after : List Char} {number : Int64} :
      chars.toList = before ++ (inner ++ after) → (∀ c ∈ before, Text.isBlank c) →
      (∀ c ∈ after, Text.isBlank c) → Decimal.IsNumeral inner number.toInt →
      CountsAs (.text chars) number

/-- Those values are the ones that operators take for whole numbers. -/
theorem ofValue_eq_int_iff {operator : Operator} {value : Value} {number : Int64} :
    Number.ofValue operator value = .ok (.int number) ↔ CountsAs value number := by
  constructor
  · intro counted
    cases value with
    | null => cases counted; exact .null
    | bool truth => cases counted; exact .bool truth
    | int number => cases counted; exact .int number
    | float number => cases counted
    | text chars =>
      simp only [Number.ofValue] at counted
      split at counted
      · next read =>
        cases counted
        obtain ⟨before, inner, after, same, blank, blank', numeral⟩ :=
          Decimal.isNumeral_trimChars_iff.mp (Decimal.readInt64_eq_some_iff.mp read)
        exact .text same blank blank' numeral
      · split at counted <;> cases counted
    | list items => cases counted
  · intro counts
    cases counts with
    | null => rfl
    | bool truth => rfl
    | int number => rfl
    | text same blank blank' numeral =>
      have read := Decimal.readInt64_eq_some_iff.mpr
        (Decimal.isNumeral_trimChars_iff.mpr ⟨_, _, _, same, blank, blank', numeral⟩)
      simp only [Number.ofValue, read]

/-- Whether an operator takes what stands on its left for a number: a sum appends to a text, and a
product repeats it. -/
def TakesNumber : Operator → Value → Prop
  | .add, .text _ => False
  | .mul, .text _ => False
  | _, _ => True

/-- On operands that count as whole numbers, an operator does arithmetic. -/
theorem combine_eq_arithmetic {operator : Operator} {left right : Value} {a b : Int64}
    (counts : CountsAs left a) (counts' : CountsAs right b) (taken : TakesNumber operator left) :
    combine operator left right = arithmetic operator (.int a) (.int b) := by
  have numbers : combine operator left right = combineNumbers operator left right := by
    cases counts with
    | null => cases operator <;> rfl
    | bool truth => cases operator <;> rfl
    | int number => cases operator <;> rfl
    | text => cases operator <;> first | rfl | exact taken.elim
  rw [numbers, combineNumbers, ofValue_eq_int_iff.mpr counts, ofValue_eq_int_iff.mpr counts']

/-! ### Exact results -/

/-- The exact result of an operator. -/
def onRationals : Operator → ℚ → ℚ → ℚ
  | .add, a, b => a + b
  | .sub, a, b => a - b
  | .mul, a, b => a * b
  | .div, a, b => a / b

/-- The result of an operator on binary fractions. -/
def onFractions : Operator → Float → Float → Float
  | .add, a, b => a + b
  | .sub, a, b => a - b
  | .mul, a, b => a * b
  | .div, a, b => a / b

/-- A quotient of whole numbers is a whole number when nothing remains. -/
theorem div_eq_int_iff {a b r : Int} (nonzero : b ≠ 0) :
    (a / b : ℚ) = r ↔ a % b = 0 ∧ a / b = r := by
  rw [div_eq_iff (Int.cast_ne_zero.mpr nonzero)]
  constructor
  · intro product
    have whole : a = r * b := by exact_mod_cast product
    subst whole
    exact ⟨Int.mul_emod_left r b, Int.mul_ediv_cancel r nonzero⟩
  · rintro ⟨divides, rfl⟩
    exact_mod_cast (Int.ediv_mul_cancel (Int.dvd_of_emod_eq_zero divides)).symm

/-- A result counts as exact when it is that among the rational numbers. -/
theorem exact_eq_some_iff {operator : Operator} {a b : Int} {r : Int64} :
    exact operator a b = some r ↔
      ¬(operator = .div ∧ b = 0) ∧ onRationals operator a b = r.toInt := by
  cases operator with
  | add =>
    simp only [exact, Decimal.toInt64?_eq_some_iff, onRationals, reduceCtorEq, false_and,
      not_false_eq_true, true_and]
    exact ⟨fun same => by exact_mod_cast same.symm, fun same => by exact_mod_cast same.symm⟩
  | sub =>
    simp only [exact, Decimal.toInt64?_eq_some_iff, onRationals, reduceCtorEq, false_and,
      not_false_eq_true, true_and]
    exact ⟨fun same => by exact_mod_cast same.symm, fun same => by exact_mod_cast same.symm⟩
  | mul =>
    simp only [exact, Decimal.toInt64?_eq_some_iff, onRationals, reduceCtorEq, false_and,
      not_false_eq_true, true_and]
    exact ⟨fun same => by exact_mod_cast same.symm, fun same => by exact_mod_cast same.symm⟩
  | div =>
    by_cases zero : b = 0
    · simp [exact, zero]
    · simp only [exact, onRationals, div_eq_int_iff zero]
      by_cases divides : a % b = 0
      · simp [zero, divides, Decimal.toInt64?_eq_some_iff, @eq_comm Int r.toInt]
      · simp [zero, divides]

/-- Numbers that are not zero are divided as binary fractions without failing. -/
theorem approximate_ofInt {operator : Operator} {a b : Int} (possible : ¬(operator = .div ∧ b = 0)) :
    approximate operator (Decimal.ofInt a) (Decimal.ofInt b) =
      .ok (.float (onFractions operator (Decimal.ofInt a) (Decimal.ofInt b))) := by
  cases operator with
  | add => rfl
  | sub => rfl
  | mul => rfl
  | div =>
    have nonzero : (Decimal.ofInt b == 0.0) = false :=
      Decimal.ofInt_beq_zero fun zero => possible ⟨rfl, zero⟩
    rw [approximate, nonzero]
    rfl

/-! ### What operators give -/

/-- A result is the exact one when that is a whole number of 64 bits, and else a given fraction. -/
def GivesExactly (result : Except Fault Value) (exact : ℚ) (fraction : Float) : Prop :=
  (∀ r : Int64, result = .ok (.int r) ↔ exact = r.toInt) ∧
    ((∀ r : Int64, exact ≠ r.toInt) → result = .ok (.float fraction))

/-- **On operands that count as whole numbers, a division by zero fails, and everything else gives
the exact result or else the one on the nearest binary fractions.** -/
theorem combine_counted {operator : Operator} {left right : Value} {a b : Int64}
    (counts : CountsAs left a) (counts' : CountsAs right b) (taken : TakesNumber operator left) :
    (combine operator left right = .error .divisionByZero ↔ operator = .div ∧ b = 0) ∧
      (¬(operator = .div ∧ b = 0) →
        GivesExactly (combine operator left right) (onRationals operator a.toInt b.toInt)
          (onFractions operator (Decimal.ofInt a.toInt) (Decimal.ofInt b.toInt))) := by
  have same : b = 0 ↔ b.toInt = 0 := by rw [← Int64.toInt_inj]; rfl
  rw [combine_eq_arithmetic counts counts' taken, arithmetic]
  by_cases zero : operator = .div ∧ b = 0
  · rw [if_pos zero]
    exact ⟨iff_of_true rfl zero, fun possible => absurd zero possible⟩
  · have possible : ¬(operator = .div ∧ b.toInt = 0) := by rwa [← same]
    rw [if_neg zero, approximate_ofInt possible]
    cases result : exact operator a.toInt b.toInt with
    | some number =>
      have rational := (exact_eq_some_iff.mp result).2
      refine ⟨iff_of_false nofun zero, fun _ => ⟨fun r => ?_, fun none => absurd rational (none number)⟩⟩
      rw [rational, Int.cast_inj, Int64.toInt_inj]
      exact ⟨fun given => by cases given; rfl, fun same => by rw [same]⟩
    | none =>
      refine ⟨iff_of_false nofun zero, fun _ => ⟨fun r => ⟨nofun, fun rational => ?_⟩, fun _ => rfl⟩⟩
      have some := exact_eq_some_iff.mpr ⟨possible, rational⟩
      rw [result] at some
      cases some

/-- The negative of a whole number is exact, or else that of the nearest binary fraction. -/
theorem negate_int (number : Int64) :
    GivesExactly (negate (.int number)) (-number.toInt) (-Decimal.ofInt number.toInt) := by
  have cast (r : Int64) : (-(number.toInt : ℚ) = r.toInt) ↔ r.toInt = -number.toInt := by
    rw [← Int.cast_neg, Int.cast_inj, eq_comm]
  rw [negate]
  cases result : Decimal.toInt64? (-number.toInt) with
  | some negative =>
    have whole := Decimal.toInt64?_eq_some_iff.mp result
    refine ⟨fun r => ?_, fun none => absurd ((cast negative).mpr whole) (none negative)⟩
    rw [cast, ← whole, Int64.toInt_inj]
    exact ⟨fun given => by cases given; rfl, fun same => by rw [same]⟩
  | none =>
    have none := Decimal.toInt64?_eq_none_iff.mp result
    exact ⟨fun r => ⟨nofun, fun whole => absurd ((cast r).mp whole) (none r)⟩, fun _ => rfl⟩

/-- **Arithmetic on whole numbers of 64 bits is exact or leaves the whole numbers.** -/
theorem whole_numbers_exact :
    (∀ operator left right a b, CountsAs left a → CountsAs right b → TakesNumber operator left →
      (combine operator left right = .error .divisionByZero ↔ operator = .div ∧ b = 0) ∧
        (¬(operator = .div ∧ b = 0) →
          GivesExactly (combine operator left right) (onRationals operator a.toInt b.toInt)
            (onFractions operator (Decimal.ofInt a.toInt) (Decimal.ofInt b.toInt)))) ∧
      ∀ number : Int64,
        GivesExactly (negate (.int number)) (-number.toInt) (-Decimal.ofInt number.toInt) :=
  ⟨fun _ _ _ _ _ counts counts' taken => combine_counted counts counts' taken, negate_int⟩

/-- The least whole number has a quotient and a negative past the greatest one, whether it is a
number or a text between blanks; a difference that reaches it is exact. -/
theorem whole_numbers_exact_at_the_limits :
    combine .div (.text " -9223372036854775808\n") (.int (-1)) =
        .ok (.float (Decimal.ofInt (-9223372036854775808) / Decimal.ofInt (-1))) ∧
      combine .sub (.text "-9223372036854775807") (.bool true) = .ok (.int Int64.minValue) ∧
      combine .div (.text "+5") .null = .error .divisionByZero ∧
      negate (.int Int64.minValue) = .ok (.float (-Decimal.ofInt (-9223372036854775808))) := by
  have limit (r : Int64) : (r.toInt : ℚ) ≠ 9223372036854775808 := by
    have below := r.toInt_lt
    intro same
    have whole : r.toInt = 9223372036854775808 := by exact_mod_cast same
    omega
  have least : CountsAs (.text " -9223372036854775808\n") Int64.minValue :=
    (@ofValue_eq_int_iff .div _ _).mp rfl
  have next : CountsAs (.text "-9223372036854775807") (-9223372036854775807) :=
    (@ofValue_eq_int_iff .sub _ _).mp rfl
  have five : CountsAs (.text "+5") 5 :=
    (@ofValue_eq_int_iff .div _ _).mp rfl
  have least_toInt : Int64.minValue.toInt = -9223372036854775808 := rfl
  have one_toInt : (-1 : Int64).toInt = -1 := rfl
  refine ⟨?_, ?_, ?_, ?_⟩
  · have quotient := whole_numbers_exact.1 .div _ _ _ _ least (.int (-1)) trivial
    refine (quotient.2 (by decide)).2 fun r same => limit r ?_
    rw [← same, onRationals, least_toInt, one_toInt]
    norm_num
  · have difference := whole_numbers_exact.1 .sub _ _ _ _ next (.bool true) trivial
    refine ((difference.2 (by decide)).1 Int64.minValue).mpr ?_
    rw [onRationals, least_toInt, show (-9223372036854775807 : Int64).toInt = -9223372036854775807
      from rfl, show (if true then 1 else 0 : Int64).toInt = 1 from rfl]
    norm_num
  · exact (whole_numbers_exact.1 .div _ _ _ _ five .null trivial).1.mpr ⟨rfl, rfl⟩
  · refine (whole_numbers_exact.2 Int64.minValue).2 fun r same => limit r ?_
    rw [← same, least_toInt]
    norm_num

end ShellSession.Engine
