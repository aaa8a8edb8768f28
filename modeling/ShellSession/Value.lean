/-
**Values.**

What scripts compute and hosts exchange: nothing, truth values, 64-bit whole numbers, 64-bit binary
fractions, texts, and lists of values.

* `Value.kind`: the name of a value's kind;
* `Value.display`: the text of a value;
* `Value.ofOutput`, `Value.items`: an output folded into one value, and a value unrolled into an
  output.
-/

import ShellSession.Decimal.Shortest

namespace ShellSession

/-- A value of the script language. -/
inductive Value where
  | null
  | bool (truth : Bool)
  | int (number : Int64)
  | float (number : Float)
  | text (chars : String)
  | list (items : List Value)
deriving Inhabited

namespace Value

/-- The name of a value's kind. -/
def kind : Value → String
  | null => "null"
  | bool _ => "bool"
  | int _ => "int"
  | float _ => "float"
  | text _ => "string"
  | list _ => "list"

/-- Whether a value is `null`. -/
def isNull : Value → Bool
  | null => true
  | _ => false

/-- The text of a truth value. -/
def truthText (truth : Bool) : String :=
  if truth then "True" else "False"

mutual

/-- The text of a value: nothing for `null`, and for a list the texts of its items with line ends
between them. -/
def display : Value → String
  | null => ""
  | bool truth => truthText truth
  | int number => Decimal.intText number.toInt
  | float number => Decimal.floatText number
  | text chars => chars
  | list items => "\n".intercalate (displays items)

/-- The texts of values. -/
def displays : List Value → List String
  | [] => []
  | item :: rest => display item :: displays rest

end

/-- The texts of values with line ends between them. -/
def displayLines (values : List Value) : String :=
  "\n".intercalate (displays values)

/-- An output folded into one value: nothing is `null`, one value is itself, more are a list. -/
def ofOutput : List Value → Value
  | [] => null
  | [value] => value
  | values => list values

/-- The output of one value: `null` gives nothing and a list gives its items. -/
def items : Value → List Value
  | null => []
  | list items => items
  | value => [value]

end Value

end ShellSession
