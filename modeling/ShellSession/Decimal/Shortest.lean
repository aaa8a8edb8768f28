/-
**The fewest digits that read back.**

The reals that round to a binary fraction form an interval around it, with its ends when the
significand is even. Among the decimals inside the interval those with the fewest digits are
considered, of those the one nearest to the fraction, and of two equally near ones the greater.

* `shortest`: the digits and the power of ten;
* `positional`: digits and a power of ten without an exponent mark;
* `floatText`: the text of a binary fraction.
-/

import ShellSession.Decimal.Nearest

namespace ShellSession.Decimal

/-- A positive binary fraction and the interval of reals that round to it, over one denominator:
`low / den`, `mid / den` and `high / den`. -/
structure Interval where
  low : Nat
  mid : Nat
  high : Nat
  den : Nat
  closed : Bool

/-- The interval of a positive finite bit pattern. -/
def Interval.ofBits (bits : Nat) : Interval :=
  let (m, q) := significand bits
  let below := if m = twoTo 52 ∧ -1074 < q then 1 else 2
  let up := twoTo q.toNat
  { low := (4 * m - below) * up
    mid := 4 * m * up
    high := (4 * m + 2) * up
    den := 4 * twoTo (-q).toNat
    closed := m % 2 = 0 }

/-- The ratio `n · 10 ^ e` as numerator and denominator. -/
def scaled (n : Nat) (e : Int) : Nat × Nat :=
  (n * tenTo e.toNat, tenTo (-e).toNat)

/-- Whether `n · 10 ^ e` lies in the interval. -/
def Interval.contains (i : Interval) (n : Nat) (e : Int) : Bool :=
  let (num, den) := scaled n e
  let value := num * i.den
  if i.closed then i.low * den ≤ value && value ≤ i.high * den
  else i.low * den < value && value < i.high * den

/-- Whether `(n + 1) · 10 ^ e` is at least as near to the middle as `n · 10 ^ e`. -/
def Interval.upperNearer (i : Interval) (n : Nat) (e : Int) : Bool :=
  let (lower, den) := scaled n e
  let (upper, _) := scaled (n + 1) e
  2 * i.mid * den ≥ (lower + upper) * i.den

/-- The power of ten just above `num / den`: the least `k` with `num / den < 10 ^ k`, searched
upwards from `k` for at most `fuel` steps. -/
def magnitudeFrom (num den : Nat) : Nat → Int → Int
  | 0, k => k
  | fuel + 1, k =>
    if num * tenTo (-k).toNat < den * tenTo k.toNat then k else magnitudeFrom num den fuel (k + 1)

/-- The number of digits before the point of `num / den`, counted below one as well. -/
def magnitude (num den : Nat) : Int :=
  let bitsApart : Int := (num.log2 : Int) - (den.log2 : Int)
  magnitudeFrom num den 4 (bitsApart * 30103 / 100000 - 1)

/-- The decimal with `count` digits or more that stands for the interval. -/
def Interval.shortestFrom (i : Interval) (top : Int) : Nat → Nat → Nat × Int
  | 0, count =>
    let e := top - count
    (i.mid * tenTo (-e).toNat / (i.den * tenTo e.toNat), e)
  | fuel + 1, count =>
    let e := top - count
    let n := i.mid * tenTo (-e).toNat / (i.den * tenTo e.toNat)
    match i.contains n e, i.contains (n + 1) e with
    | true, true => if i.upperNearer n e then (n + 1, e) else (n, e)
    | true, false => (n, e)
    | false, true => (n + 1, e)
    | false, false => i.shortestFrom top fuel (count + 1)

/-- Trailing zeros moved into the power of ten, at most `fuel` of them. -/
def stripZeros : Nat → Nat × Int → Nat × Int
  | 0, pair => pair
  | fuel + 1, (n, e) =>
    if n ≠ 0 ∧ n % 10 = 0 then stripZeros fuel (n / 10, e + 1) else (n, e)

/-- The fewest digits and the power of ten that read back as a positive finite bit pattern. -/
def shortest (bits : Nat) : Nat × Int :=
  let i := Interval.ofBits bits
  stripZeros 20 (i.shortestFrom (magnitude i.mid i.den) 17 1)

/-- `n · 10 ^ e` written with as many zeros as it takes and no exponent mark. -/
def positional (n : Nat) (e : Int) : List Char :=
  match e with
  | .ofNat zeros => digits n ++ List.replicate zeros '0'
  | .negSucc _ =>
    let places := (-e).toNat
    let shown := digits n
    let padded := List.replicate (places + 1 - shown.length) '0' ++ shown
    padded.take (padded.length - places) ++ '.' :: padded.drop (padded.length - places)

/-- The text of a binary fraction: `NaN`, `inf`, or the fewest digits that read back, a point where
it is needed, a minus sign for a set sign bit. -/
def floatText (x : Float) : String :=
  let bits := magnitudeBits x
  if infinityBits < bits then "NaN"
  else
    let magnitude :=
      if bits = infinityBits then ['i', 'n', 'f']
      else if bits = 0 then ['0']
      else
        let (n, e) := shortest bits
        positional n e
    String.ofList (if isNegative x then '-' :: magnitude else magnitude)

end ShellSession.Decimal
