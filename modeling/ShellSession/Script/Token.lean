/-
**Tokens of a script.**

A script is read as a row of tokens, each with the place of its first character. The end of the
text is no token: a reader that runs out of tokens stands at the end.

* `Token.display`: a token as error messages name it;
* `Token.endsValue`: the tokens after which a slash divides.
-/

import ShellSession.Decimal.Shortest

namespace ShellSession.Script

/-- A place in a text, both numbers counted from one. -/
structure Place where
  line : Nat
  column : Nat
deriving Repr, DecidableEq, Inhabited

/-- The first place of a text. -/
def Place.start : Place :=
  ⟨1, 1⟩

/-- The place behind a character: a line end begins a new line. -/
def Place.after (place : Place) (c : Char) : Place :=
  if c = '\n' then ⟨place.line + 1, 1⟩ else ⟨place.line, place.column + 1⟩

/-- The operators between two values. -/
inductive Operator where
  | add
  | sub
  | mul
  | div
deriving Repr, DecidableEq

/-- The sign of an operator. -/
def Operator.symbol : Operator → String
  | add => "+"
  | sub => "-"
  | mul => "*"
  | div => "/"

/-- A token. A word stands for a command, a path or an unquoted argument, its escapes resolved; a
parameter is a word behind a dash; an assignment may combine the old value with the new one. -/
inductive Token where
  | reference (name : String)
  | int (number : Int64)
  | float (number : Float)
  | text (chars : String)
  | word (chars : String)
  | parameter (name : String)
  | assign (sign : Option Operator)
  | operator (sign : Operator)
  | opening
  | closing
  | pipe
  | comma
  | separator

namespace Token

/-- A token as error messages name it. -/
def display : Token → String
  | reference name => "$" ++ name
  | int number => Decimal.intText number.toInt
  | float number => Decimal.floatText number
  | text chars => "'" ++ chars ++ "'"
  | word chars => chars
  | parameter name => "-" ++ name
  | assign none => "="
  | assign (some sign) => sign.symbol ++ "="
  | operator sign => sign.symbol
  | opening => "("
  | closing => ")"
  | pipe => "|"
  | comma => ","
  | separator => "end of statement"

/-- Whether a value may end with the token, so that a slash behind it divides. -/
def endsValue : Token → Bool
  | reference _ => true
  | int _ => true
  | float _ => true
  | text _ => true
  | closing => true
  | _ => false

end Token

/-- A token and the place of its first character. -/
structure Placed where
  token : Token
  place : Place

end ShellSession.Script
