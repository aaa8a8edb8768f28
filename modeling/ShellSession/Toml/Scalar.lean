/-
**TOML scalars.**

Truth values, numbers and moments in time are written without marks. Underscores stand between two
digits of a number, or between its sign and its first digit.

A number in base ten begins with digits. Behind them a dash or a colon makes a moment; a point or an
exponent mark, anywhere, makes a number with a fraction; nothing or an underscore makes an integer.
Of an integer with underscores only the characters beside them are checked, so its form admits texts
that denote no number, as `0x` with nothing behind it does.

* `isSeparated`: where underscores may stand;
* `isFraction`, `isMoment`: the forms of numbers with a fraction and of moments;
* `radixNumber`, `decimalScalar`: a number that announces its base, and any other number or moment;
* `readScalar`: a scalar and what follows it.
-/

import ShellSession.Decimal.Integer
import ShellSession.Text.Split
import ShellSession.Toml.Datum
import ShellSession.Toml.Quoted

namespace ShellSession.Toml

/-! ### Digits -/

/-- Whether a character is a digit in a base up to sixteen. -/
def isDigitIn (base : Nat) (c : Char) : Bool :=
  (hexValue c).any (· < base)

/-- Whether every underscore stands between two digits. What stands alone before the first one is
its digit or a sign. -/
def isSeparated (isDigit : Char → Bool) (cs : List Char) : Bool :=
  let groups := Text.splitAt '_' cs
  groups.tail.all (fun group => group.head?.any isDigit) &&
    groups.dropLast.all fun group => group.length = 1 || group.getLast?.any isDigit

/-- The characters that are no underscores. -/
def dropUnderscores (cs : List Char) : List Char :=
  cs.filter (· ≠ '_')

/-- A text without the sign at its front. -/
def dropSign : List Char → List Char
  | '+' :: rest => rest
  | '-' :: rest => rest
  | cs => cs

/-! ### Integers -/

/-- An integer behind the two characters that announce its base. -/
def radixNumber (base : Nat) (cs : List Char) : Option Datum :=
  let digits := dropUnderscores cs
  if digits.all (isDigitIn base) && isSeparated (isDigitIn base) cs then
    if digits.isEmpty then some (.integer none)
    else some (.integer (some (Decimal.positionalValue base (digits.filterMap hexValue))))
  else none

/-- The number that a sign and digits in base ten denote. -/
def signedNumber : List Char → Option Int
  | '-' :: rest => (Decimal.readDigits rest).map fun n => -(n : Int)
  | cs => (Decimal.readDigits (dropSign cs)).map fun n => (n : Int)

/-! ### Numbers with a fraction -/

/-- Whether a character marks an exponent. -/
def isExponentMark (c : Char) : Bool :=
  c = 'e' || c = 'E'

/-- Digits and underscores. -/
def inDigits (c : Char) : Bool :=
  c.isDigit || c = '_'

/-- Digits with underscores among them at the front, and what follows them. -/
def behindDigits (cs : List Char) : Option (List Char) :=
  if (cs.takeWhile inDigits).any Char.isDigit then some (cs.dropWhile inDigits) else none

/-- A mark at the front, and what follows it. -/
def after (mark : Char) : List Char → Option (List Char)
  | c :: rest => if c = mark then some rest else none
  | [] => none

/-- The rest behind a part that may be there: the part has to be whole once its mark is there. -/
def optional (mark : Char) (part : List Char → Option (List Char)) (cs : List Char) :
    Option (List Char) :=
  match after mark cs with
  | none => some cs
  | some rest => part rest

/-- The rest behind an exponent that may be there: its mark, a sign and digits. -/
def behindExponent : List Char → Option (List Char)
  | [] => some []
  | c :: rest => if isExponentMark c then behindDigits (dropSign rest) else some (c :: rest)

/-- Whether a zero stands in front of other digits of a number. -/
def hasLeadingZero (cs : List Char) : Bool :=
  cs.head? = some '0' && 1 < (dropUnderscores (cs.takeWhile inDigits)).length

/-- A number with a fraction, its sign and the places of its underscores apart. -/
def isFraction (cs : List Char) : Bool :=
  !hasLeadingZero cs &&
    ((behindDigits cs).bind (optional '.' behindDigits)).bind behindExponent = some []

/-! ### Moments -/

/-- A number of two digits within bounds at the front, and what follows it. -/
def twoDigits (least greatest : Nat) : List Char → Option (List Char)
  | a :: b :: rest =>
    let number := Decimal.digitsValue [a, b]
    if a.isDigit && b.isDigit && least ≤ number && number ≤ greatest then some rest else none
  | _ => none

/-- The number of days of a month. -/
def daysOfMonth (year month : Nat) : Nat :=
  if month = 2 then
    if year % 4 = 0 ∧ (year % 100 ≠ 0 ∨ year % 400 = 0) then 29 else 28
  else if month = 4 ∨ month = 6 ∨ month = 9 ∨ month = 11 then 30
  else 31

/-- A date at the front, and what follows it. -/
def date (cs : List Char) : Option (List Char) :=
  let year := cs.take 4
  if year.length = 4 ∧ year.all Char.isDigit then do
    let rest ← after '-' (cs.drop 4)
    let month := Decimal.digitsValue (rest.take 2)
    let rest ← (twoDigits 1 12 rest).bind (after '-')
    twoDigits 1 (daysOfMonth (Decimal.digitsValue year) month) rest
  else none

/-- The digits of a fraction of a second at the front, and what follows them. -/
def fractionDigits (cs : List Char) : Option (List Char) :=
  if (cs.takeWhile Char.isDigit).isEmpty then none else some (cs.dropWhile Char.isDigit)

/-- A time of day at the front, and what follows it; the seconds may be left out. -/
def timeOfDay (cs : List Char) : Option (List Char) := do
  let rest ← (twoDigits 0 23 cs).bind (after ':')
  let rest ← twoDigits 0 59 rest
  optional ':' (fun rest => (twoDigits 0 60 rest).bind (optional '.' fractionDigits)) rest

/-- Whether an offset from universal time, or none, is all that is there. -/
def isOffset : List Char → Bool
  | [] => true
  | c :: rest =>
    if c = 'Z' ∨ c = 'z' then rest.isEmpty
    else if c = '+' ∨ c = '-' then
      ((twoDigits 0 23 rest).bind (after ':')).bind (twoDigits 0 59) = some []
    else false

/-- A date, a time of day, or both with an offset. -/
def isMoment (cs : List Char) : Bool :=
  match date cs with
  | none => timeOfDay cs = some []
  | some [] => true
  | some (c :: rest) =>
    (c = 'T' || c = 't' || c = ' ') && (timeOfDay rest).any isOffset

/-! ### Scalars -/

/-- The characters of scalars: all but blanks, line ends, and the marks that stand between data. -/
def inScalar (c : Char) : Bool :=
  !(['=', ',', '[', ']', '\x7b', '\x7d', '#', ' ', '\t', '\r', '\n'].contains c)

/-- The characters of the scalar at the front. A date and a time may have a blank between them. -/
def scalarChars (cs : List Char) : List Char :=
  let chars := cs.takeWhile inScalar
  match cs.dropWhile inScalar with
  | ' ' :: rest =>
    if date chars = some [] ∧ rest.head?.any Char.isDigit then
      chars ++ ' ' :: rest.takeWhile inScalar
    else chars
  | _ => chars

/-- A number in base ten or a moment, as it is written and without its sign. -/
def decimalScalar (cs unsigned : List Char) : Option Datum :=
  match unsigned.dropWhile Char.isDigit with
  | '-' :: _ => if isMoment cs then some .moment else none
  | ':' :: _ => if isMoment cs then some .moment else none
  | rest =>
    if rest.any fun c => c = '.' || isExponentMark c then
      if isFraction unsigned && isSeparated Char.isDigit cs then some .fraction else none
    else if unsigned.isEmpty || unsigned.head? = some '0' && unsigned ≠ ['0'] then none
    else if (rest.isEmpty || rest.head? = some '_') && isSeparated (isDigitIn 16) cs then
      some (.integer (signedNumber (dropUnderscores cs)))
    else none

/-- The scalar that characters denote. -/
def scalar : List Char → Option Datum
  | ['t', 'r', 'u', 'e'] => some (.truth true)
  | ['f', 'a', 'l', 's', 'e'] => some (.truth false)
  | '0' :: 'x' :: digits => radixNumber 16 digits
  | '0' :: 'o' :: digits => radixNumber 8 digits
  | '0' :: 'b' :: digits => radixNumber 2 digits
  | cs =>
    let unsigned := dropSign cs
    if unsigned = ['i', 'n', 'f'] ∨ unsigned = ['n', 'a', 'n'] then some .fraction
    else decimalScalar cs unsigned

/-- A scalar at the front, and what follows it. -/
def readScalar (cs : List Char) : Option (Datum × List Char) :=
  let chars := scalarChars cs
  (scalar chars).map fun datum => (datum, cs.drop chars.length)

end ShellSession.Toml
