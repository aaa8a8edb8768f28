/-
**Paths inside scripts.**

A back quote before a bracket, or before a blank where a path stands as a word, makes the character
part of the path. Escaping leaves alone what is escaped already.

* `Path.escape`: back quotes put before brackets, and before blanks when asked for;
* `Path.unescape`: back quotes before brackets and blanks removed.
-/

namespace ShellSession.Script.Path

/-- Square brackets. -/
def isBracket (c : Char) : Bool :=
  c = '[' || c = ']'

/-- The characters that are escaped. -/
def isEscapable (blanks : Bool) (c : Char) : Bool :=
  isBracket c || (blanks && c = ' ')

/-- The characters behind `before` with back quotes put in. -/
def escapeFrom (blanks : Bool) (before : Char) : List Char → List Char
  | [] => []
  | c :: rest =>
    if isEscapable blanks c ∧ before ≠ '\x60' then '\x60' :: c :: escapeFrom blanks c rest
    else c :: escapeFrom blanks c rest

/-- The characters with the escaping back quotes left out. -/
def unescapeChars : List Char → List Char
  | [] => []
  | c :: rest =>
    if c = '\x60' ∧ rest.head?.any (isEscapable true) then unescapeChars rest
    else c :: unescapeChars rest

/-- A path with its brackets escaped, and its blanks when asked for. -/
def escape (path : String) (blanks : Bool) : String :=
  String.ofList (escapeFrom blanks '\n' path.toList)

/-- A path with its escapes removed. -/
def unescape (path : String) : String :=
  String.ofList (unescapeChars path.toList)

end ShellSession.Script.Path
