/-
**Operators on values.**

A sum with a text on the left appends the text of the right value, and one with a list on the left
appends the output of the right value; a product with a text on the left repeats it. Everywhere else
operands count as numbers. Whole numbers stay whole as long as the exact result is a whole number of
64 bits, and become fractions otherwise.

* `Number.ofValue`: the number that a value counts as;
* `exact`: the exact result on whole numbers;
* `combine`: a value, an operator and a value;
* `negate`: the negative of a value.
-/

import ShellSession.Decimal.Literal
import ShellSession.Engine.Failure
import ShellSession.Text.Blank

namespace ShellSession.Engine

open Script (Operator)

/-- What an operand counts as. -/
inductive Number where
  | int (number : Int64)
  | float (number : Float)

/-- The number that a value counts as. The operator is named when a list is refused. -/
def Number.ofValue (operator : Operator) : Value → Except Fault Number
  | .null => .ok (.int 0)
  | .bool truth => .ok (.int (if truth then 1 else 0))
  | .int number => .ok (.int number)
  | .float number => .ok (.float number)
  | .text chars =>
    let trimmed := Text.trimChars chars.toList
    match Decimal.readInt64 trimmed with
    | some number => .ok (.int number)
    | none =>
      match Decimal.readFloat trimmed with
      | some number => .ok (.float number)
      | none => .error (.notNumeric chars)
  | .list _ => .error (.listRightOperand operator)

/-- A number as a binary fraction. -/
def Number.toFloat : Number → Float
  | int number => Decimal.ofInt number.toInt
  | float number => number

/-- The exact result on whole numbers, when it is a whole number of 64 bits. Nothing is divided by
zero. -/
def exact (operator : Operator) (a b : Int) : Option Int64 :=
  match operator with
  | .add => Decimal.toInt64? (a + b)
  | .sub => Decimal.toInt64? (a - b)
  | .mul => Decimal.toInt64? (a * b)
  | .div => if b ≠ 0 ∧ a % b = 0 then Decimal.toInt64? (a / b) else none

/-- The result on fractions. -/
def approximate (operator : Operator) (a b : Float) : Except Fault Value :=
  match operator with
  | .add => .ok (.float (a + b))
  | .sub => .ok (.float (a - b))
  | .mul => .ok (.float (a * b))
  | .div => if b == 0.0 then .error .divisionByZero else .ok (.float (a / b))

/-- The result on numbers. -/
def arithmetic (operator : Operator) (a b : Number) : Except Fault Value :=
  match a, b with
  | .int a, .int b =>
    if operator = .div ∧ b = 0 then .error .divisionByZero
    else
      match exact operator a.toInt b.toInt with
      | some number => .ok (.int number)
      | none => approximate operator (Decimal.ofInt a.toInt) (Decimal.ofInt b.toInt)
  | a, b => approximate operator a.toFloat b.toFloat

/-- The longest text that a repetition may produce, in bytes. -/
def longestRepetition : Nat := 64 * 1024 * 1024

/-- A text repeated, by doubling along the binary digits of the count. -/
def repeated (text : String) (count : Nat) : String :=
  (Nat.toDigits 2 count).foldl
    (fun built digit => if digit = '1' then built ++ built ++ text else built ++ built) ""

/-- A text repeated as often as a value says. -/
def repetition (chars : String) (count : Value) : Except Fault Value :=
  match Number.ofValue .mul count with
  | .error fault => .error fault
  | .ok (.int count) =>
    if count.toInt < 0 then .error .repetitionCount
    else if chars.utf8ByteSize * count.toInt.toNat ≤ longestRepetition then
      .ok (.text (repeated chars count.toInt.toNat))
    else .error .repetitionTooLong
  | .ok (.float _) => .error .repetitionCount

/-- The result on values that count as numbers. -/
def combineNumbers (operator : Operator) (left right : Value) : Except Fault Value :=
  match Number.ofValue operator left with
  | .error fault => .error fault
  | .ok a =>
    match Number.ofValue operator right with
    | .error fault => .error fault
    | .ok b => arithmetic operator a b

/-- A value, an operator and a value. -/
def combine (operator : Operator) (left right : Value) : Except Fault Value :=
  match operator, left with
  | .add, .text chars => .ok (.text (chars ++ right.display))
  | .add, .list items => .ok (.list (items ++ right.items))
  | .mul, .text chars => repetition chars right
  | operator, .list _ => .error (.listOperand operator)
  | operator, left => combineNumbers operator left right

/-- The negative of a value. -/
def negate : Value → Except Fault Value
  | .null => .ok (.int 0)
  | .int number =>
    match Decimal.toInt64? (-number.toInt) with
    | some number => .ok (.int number)
    | none => .ok (.float (-Decimal.ofInt number.toInt))
  | .float number => .ok (.float (-number))
  | value => .error (.notNegatable value.kind)

end ShellSession.Engine
