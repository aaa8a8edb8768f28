/-
**Whole numbers as they are written.**

A numeral is a run of digits, with a sign in front of it or without. Blanks around it are not part
of it.

* `IsNumeral`: the numerals and the numbers that they denote;
* `toInt64?_eq_some_iff`, `toInt64?_eq_none_iff`: the numbers of 64 bits;
* `readInt64_eq_some_iff`: **what is read as a number of 64 bits is a numeral of one**;
* `isNumeral_trimChars_iff`: the characters left without the blanks around them are a numeral when
  there is one between blanks.
-/

import Mathlib.Algebra.Group.Int.Defs
import Mathlib.Algebra.Group.Nat.Defs
import ShellSession.Decimal.Integer
import ShellSession.Proofs.Text.Parts

namespace ShellSession.Decimal

/-! ### Runs of digits -/

theorem ofDigits_append (base : Nat) (front back : List Nat) :
    ofDigits base (front ++ back) = ofDigits base front + base ^ front.length * ofDigits base back := by
  induction front with
  | nil => simp [ofDigits]
  | cons digit front joined =>
    rw [List.cons_append, ofDigits, joined, ofDigits, List.length_cons, Nat.pow_succ,
      Nat.mul_add, ← Nat.mul_assoc, Nat.mul_comm base (base ^ _), Nat.add_assoc]

/-- The number of a run of digits is that of reading them from the left. -/
theorem digitsValue_eq_ofDigitChars (cs : List Char) :
    digitsValue cs = Nat.ofDigitChars 10 cs 0 := by
  rw [digitsValue, positionalValue, joined_eq_ofDigits]
  induction cs with
  | nil => rfl
  | cons c cs read =>
    have last : ofDigits 10 [digitValue c] = c.toNat - 48 := by simp [ofDigits, digitValue]
    have first : Nat.ofDigitChars 10 (c :: cs) 0 = Nat.ofDigitChars 10 cs (c.toNat - 48) := by
      rw [Nat.ofDigitChars_cons, Nat.mul_zero, Nat.zero_add]
      rfl
    rw [List.map_cons, List.reverse_cons, ofDigits_append, read, last, List.length_reverse,
      List.length_map, first, @Nat.ofDigitChars_eq_ofDigitChars_zero cs (c.toNat - 48),
      Nat.add_comm]

theorem readDigits_eq_some_iff {cs : List Char} {n : Nat} :
    readDigits cs = some n ↔
      cs ≠ [] ∧ (∀ c ∈ cs, c.isDigit) ∧ n = Nat.ofDigitChars 10 cs 0 := by
  rw [readDigits, digitsValue_eq_ofDigitChars]
  cases cs with
  | nil => simp
  | cons c cs =>
    rw [List.isEmpty_cons, if_neg Bool.false_ne_true]
    split
    · next every =>
      rw [Option.some_inj, eq_comm]
      exact ⟨fun same => ⟨List.cons_ne_nil _ _, List.all_eq_true.mp every, same⟩, fun read => read.2.2⟩
    · next other =>
      exact ⟨fun none => (nomatch none), fun read => absurd (List.all_eq_true.mpr read.2.1) other⟩

/-! ### Numbers of 64 bits -/

theorem fitsInt64_iff {n : Int} : fitsInt64 n = true ↔ -2 ^ 63 ≤ n ∧ n < 2 ^ 63 := by
  rw [fitsInt64, Bool.and_eq_true, decide_eq_true_eq, decide_eq_true_eq, leastInt64, greatestInt64]
  omega

/-- A whole number is a number of 64 bits when that number is it. -/
theorem toInt64?_eq_some_iff {n : Int} {number : Int64} :
    toInt64? n = some number ↔ number.toInt = n := by
  constructor
  · intro fitting
    rw [toInt64?] at fitting
    split at fitting
    · next fits =>
      cases fitting
      obtain ⟨least, greatest⟩ := fitsInt64_iff.mp fits
      exact Int64.toInt_ofInt_of_le least greatest
    · cases fitting
  · intro same
    subst same
    have fits := fitsInt64_iff.mpr ⟨number.le_toInt, number.toInt_lt⟩
    rw [toInt64?, if_pos fits, Int64.ofInt_toInt]

/-- A whole number that is not one of 64 bits. -/
theorem toInt64?_eq_none_iff {n : Int} :
    toInt64? n = none ↔ ∀ number : Int64, number.toInt ≠ n := by
  rw [Option.eq_none_iff_forall_not_mem]
  exact forall_congr' fun number => not_congr toInt64?_eq_some_iff

/-! ### Numerals -/

/-- A numeral and the number that it denotes. -/
inductive IsNumeral : List Char → Int → Prop
  | bare {digits : List Char} : digits ≠ [] → (∀ c ∈ digits, c.isDigit) →
      IsNumeral digits (Nat.ofDigitChars 10 digits 0)
  | plus {digits : List Char} : digits ≠ [] → (∀ c ∈ digits, c.isDigit) →
      IsNumeral ('+' :: digits) (Nat.ofDigitChars 10 digits 0)
  | minus {digits : List Char} : digits ≠ [] → (∀ c ∈ digits, c.isDigit) →
      IsNumeral ('-' :: digits) (-Nat.ofDigitChars 10 digits 0)

/-- **What is read as a number of 64 bits is a numeral of one.** -/
theorem readInt64_eq_some_iff {cs : List Char} {number : Int64} :
    readInt64 cs = some number ↔ IsNumeral cs number.toInt := by
  constructor
  · intro read
    unfold readInt64 at read
    obtain ⟨n, value, fitting⟩ := Option.bind_eq_some_iff.mp read
    rw [toInt64?_eq_some_iff.mp fitting]
    split at value <;> obtain ⟨m, magnitude, rfl⟩ := Option.map_eq_some_iff.mp value <;>
      obtain ⟨m, digits, same⟩ := Option.bind_eq_some_iff.mp magnitude <;> cases same <;>
      obtain ⟨nonempty, every, rfl⟩ := readDigits_eq_some_iff.mp digits
    · exact .minus nonempty every
    · exact .plus nonempty every
    · exact .bare nonempty every
  · intro numeral
    unfold readInt64
    generalize whole : number.toInt = n at numeral
    cases numeral with
    | bare nonempty every =>
      have digits := readDigits_eq_some_iff.mpr ⟨nonempty, every, rfl⟩
      split
      · exact absurd (every '-' List.mem_cons_self) (by decide)
      · exact absurd (every '+' List.mem_cons_self) (by decide)
      · rw [digits]
        exact toInt64?_eq_some_iff.mpr whole
    | @plus digits nonempty every =>
      show (((readDigits digits).bind fun n => some (n : Int)).map fun n => n).bind toInt64? = _
      rw [readDigits_eq_some_iff.mpr ⟨nonempty, every, rfl⟩]
      exact toInt64?_eq_some_iff.mpr whole
    | @minus digits nonempty every =>
      show (((readDigits digits).bind fun n => some (n : Int)).map fun n => -n).bind toInt64? = _
      rw [readDigits_eq_some_iff.mpr ⟨nonempty, every, rfl⟩]
      exact toInt64?_eq_some_iff.mpr whole

theorem isDigit_of_mem_digits {n : Nat} {c : Char} (found : c ∈ digits n) : c.isDigit :=
  Nat.isDigit_of_mem_toDigits (by decide) (by decide) found

/-! ### Blanks around a numeral -/

theorem isBlank_of_isDigit {c : Char} (digit : c.isDigit) : Text.isBlank c = false := by
  have range : 48 ≤ c.toNat ∧ c.toNat ≤ 57 := by
    rw [Char.isDigit, Bool.and_eq_true, decide_eq_true_eq, decide_eq_true_eq] at digit
    exact digit
  simp only [Text.isBlank, Bool.or_eq_false_iff, Bool.and_eq_false_iff, decide_eq_false_iff_not,
    beq_eq_false_iff_ne]
  omega

/-- A numeral holds no blank. -/
theorem IsNumeral.solid {cs : List Char} {n : Int} (numeral : IsNumeral cs n) :
    ∀ c ∈ cs, Text.isBlank c = false := by
  cases numeral with
  | bare nonempty every => exact fun c found => isBlank_of_isDigit (every c found)
  | plus nonempty every =>
    intro c found
    cases found with
    | head => decide
    | tail _ found => exact isBlank_of_isDigit (every c found)
  | minus nonempty every =>
    intro c found
    cases found with
    | head => decide
    | tail _ found => exact isBlank_of_isDigit (every c found)

/-- Without the blanks around them, characters are a numeral when they are one between blanks. -/
theorem isNumeral_trimChars_iff {cs : List Char} {n : Int} :
    IsNumeral (Text.trimChars cs) n ↔ ∃ before inner after, cs = before ++ (inner ++ after) ∧
      (∀ c ∈ before, Text.isBlank c) ∧ (∀ c ∈ after, Text.isBlank c) ∧ IsNumeral inner n := by
  constructor
  · intro numeral
    obtain ⟨before, after, same, blank, blank'⟩ := Text.exists_trimmed cs
    exact ⟨before, Text.trimChars cs, after, same, blank, blank', numeral⟩
  · rintro ⟨before, inner, after, rfl, blank, blank', numeral⟩
    rwa [Text.trimChars_append blank blank', Text.trimChars_eq_self numeral.solid]

end ShellSession.Decimal
