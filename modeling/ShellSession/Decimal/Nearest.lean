/-
**The nearest binary fraction.**

A finite nonnegative 64-bit binary fraction is `m · 2 ^ q` with `m < 2 ^ 53` and `-1074 ≤ q`. Its
bit pattern, read as a number, is `(q + 1074) · 2 ^ 52 + m` when `2 ^ 52 ≤ m` or `q = -1074`, so
that rounding up past the last significand carries into the exponent by itself.

* `nearestBits`: the bits of the binary fraction nearest to a ratio, a tie going to the even
  significand;
* `significand`: the pair `(m, q)` of a bit pattern;
* `ofInt`: the nearest binary fraction to a whole number;
* `saturateInt64`: the whole part, kept within 64 signed bits.
-/

import ShellSession.Decimal.Integer
import ShellSession.Decimal.Power

namespace ShellSession.Decimal

/-- `n · 2 ^ e`, rounded down. -/
def shift (n : Nat) (e : Int) : Nat :=
  match e with
  | .ofNat e => n * twoTo e
  | .negSucc e => n / twoTo (e + 1)

/-- The quotient to the nearest whole number, a half going to the even one. -/
def roundHalfEven (num den : Nat) : Nat :=
  let quotient := num / den
  let double := 2 * (num % den)
  if double < den then quotient
  else if den < double then quotient + 1
  else if quotient % 2 = 0 then quotient
  else quotient + 1

/-- The bits of positive infinity. -/
def infinityBits : Nat := 0x7ff0000000000000

/-- The exponent `q` at which `num / den` has a significand of 53 bits, but at least `-1074`. -/
def scaleOf (num den : Nat) : Int :=
  let guess : Int := (num.log2 : Int) - (den.log2 : Int) - 52
  let exponent :=
    if num * twoTo (-guess).toNat < den * twoTo 52 * twoTo guess.toNat then guess - 1 else guess
  max exponent (-1074)

/-- The bits of the binary fraction nearest to `num / den`. -/
def nearestBits (num den : Nat) : Nat :=
  if num = 0 then 0
  else
    let exponent := scaleOf num den
    let rounded := roundHalfEven (num * twoTo (-exponent).toNat) (den * twoTo exponent.toNat)
    min ((exponent + 1074).toNat * twoTo 52 + rounded) infinityBits

/-- The binary fraction of a sign and the bits of a magnitude. -/
def signedFloat (negative : Bool) (bits : Nat) : Float :=
  Float.ofBits (UInt64.ofNat (if negative then twoTo 63 + bits else bits))

/-- The significand and exponent of a finite bit pattern, sign apart. -/
def significand (bits : Nat) : Nat × Int :=
  let fraction : Nat := bits % twoTo 52
  let exponent : Nat := bits / twoTo 52 % twoTo 11
  if exponent = 0 then (fraction, -1074) else (fraction + twoTo 52, (exponent : Int) - 1075)

/-- The binary fraction nearest to a whole number. -/
def ofInt (n : Int) : Float :=
  signedFloat (n < 0) (nearestBits n.natAbs 1)

/-- Whether a binary fraction has its sign bit set. -/
def isNegative (x : Float) : Bool :=
  twoTo 63 ≤ x.toBits.toNat

/-- The bits of the magnitude. -/
def magnitudeBits (x : Float) : Nat :=
  x.toBits.toNat % twoTo 63

/-- Whether a binary fraction is a whole number. -/
def isWhole (x : Float) : Bool :=
  let bits := magnitudeBits x
  let (m, q) := significand bits
  bits < infinityBits && shift (shift m q) (-q) == m

/-- The whole part, kept within 64 signed bits; nothing for what is not a number. -/
def saturateInt64 (x : Float) : Int64 :=
  let bits := magnitudeBits x
  let limit : Int := if isNegative x then leastInt64 else greatestInt64
  if infinityBits < bits then 0
  else if bits = infinityBits then Int64.ofInt limit
  else
    let (m, q) := significand bits
    let whole : Int := shift m (min q 64)
    let signed := if isNegative x then -whole else whole
    if fitsInt64 signed then Int64.ofInt signed else Int64.ofInt limit

end ShellSession.Decimal
