/-
**Whole numbers in decimal.**

Reading accepts an optional sign and at least one digit `0` to `9`, any number of leading zeros, and
refuses what lies outside the asked range; writing uses the fewest digits.

* `digitsValue`: the number of a run of digits;
* `readDigits`: a nonempty run of digits as a number;
* `readUnsigned`: an optional plus sign and digits, below a bound;
* `readInt64`: an optional sign and digits, in the signed 64-bit range.
-/

import ShellSession.Decimal.Positional

namespace ShellSession.Decimal

/-- The value of a digit. -/
def digitValue (c : Char) : Nat :=
  c.toNat - 48

/-- The number that a run of digits denotes. -/
def digitsValue (cs : List Char) : Nat :=
  positionalValue 10 (cs.map digitValue)

/-- The number written by a nonempty run of digits. -/
def readDigits (cs : List Char) : Option Nat :=
  if cs.isEmpty then none
  else if cs.all Char.isDigit then some (digitsValue cs)
  else none

/-- An optional plus sign and digits, with a value below `bound`. -/
def readUnsigned (bound : Nat) (cs : List Char) : Option Nat :=
  let digits := match cs with
    | '+' :: rest => rest
    | _ => cs
  (readDigits digits).filter (· < bound)

/-- The least signed 64-bit number. -/
def leastInt64 : Int := -9223372036854775808

/-- The greatest signed 64-bit number. -/
def greatestInt64 : Int := 9223372036854775807

/-- Whether a number fits in 64 signed bits. -/
def fitsInt64 (n : Int) : Bool :=
  leastInt64 ≤ n && n ≤ greatestInt64

/-- The 64-bit number equal to `n`, when there is one. -/
def toInt64? (n : Int) : Option Int64 :=
  if fitsInt64 n then some (Int64.ofInt n) else none

/-- An optional sign and digits, in the signed 64-bit range. -/
def readInt64 (cs : List Char) : Option Int64 :=
  let value : Option Int := match cs with
    | '-' :: rest => (readDigits rest).map fun n => -(n : Int)
    | '+' :: rest => (readDigits rest).map fun n => (n : Int)
    | _ => (readDigits cs).map fun n => (n : Int)
  value.bind toInt64?

/-- The digits of a number, without leading zeros. -/
def digits (n : Nat) : List Char :=
  Nat.toDigits 10 n

/-- A natural number in decimal. -/
def natText (n : Nat) : String :=
  String.ofList (digits n)

/-- A whole number in decimal, with a minus sign when it is negative. -/
def intText (n : Int) : String :=
  match n with
  | .ofNat n => natText n
  | .negSucc n => String.ofList ('-' :: digits (n + 1))

end ShellSession.Decimal
