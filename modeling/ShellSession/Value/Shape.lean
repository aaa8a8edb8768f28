/-
**Shapes of values.**

A shape says what a host expects of a value: any value, a number, a truth value, a text, an optional
shape, which admits `null`, or a list of a shape. A whole number is admitted where a fraction is
expected. A mismatch names the kind expected and the kind found, the first one from left to right
and from the outside in.

* `Shape.decode`: a value read at a shape;
* `Shape.encode`: an item of a shape as a value again;
* `Shape.decodeAll`: an output read item by item.
-/

import ShellSession.Value

namespace ShellSession

/-- What a host expects of a value. -/
inductive Shape where
  | any
  | int
  | float
  | bool
  | text
  | optional (shape : Shape)
  | list (shape : Shape)
deriving Repr, DecidableEq

/-- The kind that was expected and the kind that was found. -/
structure Mismatch where
  expected : String
  found : String
deriving Repr, DecidableEq

/-- The wording of a mismatch. -/
def Mismatch.message (mismatch : Mismatch) : String :=
  "expected " ++ mismatch.expected ++ ", found " ++ mismatch.found

namespace Shape

/-- The items of a shape. -/
abbrev Item : Shape → Type
  | any => Value
  | int => Int64
  | float => Float
  | bool => Bool
  | text => String
  | optional shape => Option shape.Item
  | list shape => List shape.Item

/-- All results, or the first error. -/
def collect {ε α β : Type} (f : α → Except ε β) : List α → Except ε (List β)
  | [] => .ok []
  | a :: rest =>
    match f a with
    | .error e => .error e
    | .ok b =>
      match collect f rest with
      | .error e => .error e
      | .ok bs => .ok (b :: bs)

/-- The mismatch of a value with an expected kind. -/
def mismatch (expected : String) (value : Value) : Mismatch :=
  ⟨expected, value.kind⟩

/-- A value read at a shape. -/
def decode : (shape : Shape) → Value → Except Mismatch shape.Item
  | any, value => .ok value
  | int, .int number => .ok number
  | int, value => .error (mismatch "int" value)
  | float, .float number => .ok number
  | float, .int number => .ok (Decimal.ofInt number.toInt)
  | float, value => .error (mismatch "float" value)
  | bool, .bool truth => .ok truth
  | bool, value => .error (mismatch "bool" value)
  | text, .text chars => .ok chars
  | text, value => .error (mismatch "string" value)
  | optional _, .null => .ok none
  | optional shape, value => (shape.decode value).map some
  | list shape, .list items => collect shape.decode items
  | list _, value => .error (mismatch "list" value)

/-- An item of a shape as a value. -/
def encode : (shape : Shape) → shape.Item → Value
  | any, value => value
  | int, number => .int number
  | float, number => .float number
  | bool, truth => .bool truth
  | text, chars => .text chars
  | optional _, none => .null
  | optional shape, some item => shape.encode item
  | list shape, items => .list (items.map shape.encode)

/-- An output read item by item. -/
def decodeAll (shape : Shape) (values : List Value) : Except Mismatch (List shape.Item) :=
  collect shape.decode values

end Shape

end ShellSession
