/-
**Decimal fractions read as binary ones.**

A literal is an optional sign followed by `inf`, `infinity` or `nan` in any letter case, or by
digits with at most one point among or around them and an optional exponent. At least one digit
stands in the mantissa and in a present exponent. Of an exponent only as many digits count as it
takes to reach `2 ^ 16`, the rest being ignored. The value is the nearest binary fraction.

* `scaledBits`: the bits nearest to a whole number times a power of ten;
* `readExponent`, `readMantissa`: the exponent, and the digits around the point;
* `readFloat`: a literal as a binary fraction.
-/

import ShellSession.Decimal.Nearest

namespace ShellSession.Decimal

/-- A number of decimal places that a positive number reaches or passes by at most two, estimated
from the number's place between two powers of two. -/
def estimatedPlaces (m : Nat) : Int :=
  m.log2 * 30103 / 100000

/-- The bits nearest to `m · 10 ^ e`. No power is taken where the result is certain: what is smaller
than `10 ^ -398` is zero, and what is greater than `10 ^ 400` is infinite. -/
def scaledBits (m : Nat) (e : Int) : Nat :=
  if m = 0 then 0
  else if estimatedPlaces m + e < -400 then 0
  else if 400 < estimatedPlaces m + e then infinityBits
  else nearestBits (m * tenTo e.toNat) (tenTo (-e).toNat)

/-- The size of an exponent from which on further digits are ignored. -/
def exponentLimit : Nat := twoTo 16

/-- The size of an exponent by its digits, read from left to right until the limit is reached. -/
def exponentSize (cs : List Char) : Nat :=
  cs.foldl (fun size c => if size < exponentLimit then 10 * size + digitValue c else size) 0

/-- The size of an exponent: at least one digit. -/
def readExponentSize (cs : List Char) : Option Nat :=
  if cs.isEmpty || !cs.all Char.isDigit then none else some (exponentSize cs)

/-- The exponent after its mark: an optional sign and at least one digit. -/
def readExponent (cs : List Char) : Option Int :=
  match cs with
  | '-' :: rest => (readExponentSize rest).map fun n => -(n : Int)
  | '+' :: rest => (readExponentSize rest).map fun n => (n : Int)
  | _ => (readExponentSize cs).map fun n => (n : Int)

/-- Digits, an optional point with digits, and an optional exponent, as a number and a power of
ten. -/
def readMantissa (cs : List Char) : Option (Nat × Int) :=
  let whole := cs.takeWhile Char.isDigit
  let afterWhole := cs.dropWhile Char.isDigit
  let (fraction, afterFraction) := match afterWhole with
    | '.' :: rest => (rest.takeWhile Char.isDigit, rest.dropWhile Char.isDigit)
    | _ => ([], afterWhole)
  if whole.isEmpty && fraction.isEmpty then none
  else
    let value := digitsValue (whole ++ fraction)
    let places : Int := fraction.length
    match afterFraction with
    | [] => some (value, -places)
    | mark :: rest =>
      if mark == 'e' || mark == 'E' then (readExponent rest).map fun e => (value, e - places)
      else none

/-- The bits of the canonical value that is not a number. -/
def nanBits : Nat := 0x7ff8000000000000

/-- A literal without its sign, as the bits of a magnitude. -/
def readMagnitude (cs : List Char) : Option Nat :=
  match readMantissa cs with
  | some (m, e) => some (scaledBits m e)
  | none =>
    let word := cs.map Char.toLower
    if word == ['i', 'n', 'f'] || word == ['i', 'n', 'f', 'i', 'n', 'i', 't', 'y'] then
      some infinityBits
    else if word == ['n', 'a', 'n'] then some nanBits
    else none

/-- The binary fraction that a literal denotes. -/
def readFloat (cs : List Char) : Option Float :=
  match cs with
  | '-' :: rest => (readMagnitude rest).map (signedFloat true)
  | '+' :: rest => (readMagnitude rest).map (signedFloat false)
  | _ => (readMagnitude cs).map (signedFloat false)

end ShellSession.Decimal
