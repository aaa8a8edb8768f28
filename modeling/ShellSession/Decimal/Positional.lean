/-
**Digits by position.**

A row of digits denotes the number in which every digit counts a base times as much as the one
behind it. Long rows are joined pair by pair: two neighbours are one digit of the squared base, and
the row is half as long.

* `ofDigits`: the number of digits, the least one first;
* `joined`, `joined_eq_ofDigits`: the same number, by pairs;
* `positionalValue`: the number of digits as they are written, the greatest one first.
-/

namespace ShellSession.Decimal

/-- The number of digits, the least one first. -/
def ofDigits (base : Nat) : List Nat → Nat
  | [] => 0
  | digit :: rest => digit + base * ofDigits base rest

/-- Neighbouring digits joined into digits of the squared base. -/
def pairUp (base : Nat) : List Nat → List Nat
  | first :: second :: rest => (first + base * second) :: pairUp base rest
  | digits => digits

/-- Joining neighbours keeps the number. -/
theorem ofDigits_pairUp (base : Nat) (digits : List Nat) :
    ofDigits (base * base) (pairUp base digits) = ofDigits base digits := by
  fun_induction pairUp base digits with
  | case1 first second rest kept =>
    simp only [ofDigits, kept, Nat.mul_add, Nat.mul_assoc, Nat.add_assoc]
  | case2 digits short =>
    match digits, short with
    | [], _ => rfl
    | [_], _ => rfl
    | first :: second :: rest, short => exact absurd rfl (short first second rest)

/-- The number of digits, the least one first, after `rounds` rounds of joining. -/
def joined : Nat → Nat → List Nat → Nat
  | 0, base, digits => ofDigits base digits
  | rounds + 1, base, digits => joined rounds (base * base) (pairUp base digits)

/-- However often neighbours are joined, the number is that of the digits. -/
theorem joined_eq_ofDigits (rounds base : Nat) (digits : List Nat) :
    joined rounds base digits = ofDigits base digits := by
  induction rounds generalizing base digits with
  | zero => rfl
  | succ rounds kept => rw [joined, kept, ofDigits_pairUp]

/-- The number of digits, the greatest one first, joined until one digit is left. -/
def positionalValue (base : Nat) (digits : List Nat) : Nat :=
  joined (digits.length.log2 + 1) base digits.reverse

end ShellSession.Decimal
