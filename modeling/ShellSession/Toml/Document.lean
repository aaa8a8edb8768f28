/-
**TOML documents.**

A document is a row of lines, each with a pair of a key and a datum, a header of a table, or a
header of one more table of an array. Inside a table between braces a pair may go over several
lines, its key apart. Data are nested at most eighty levels deep, and a key has at most eighty
parts.

* `readPath`, `readPair`: a dotted key, and a pair;
* `datum`: a datum and what follows it;
* `lines`: the lines of a document;
* `read`: the table that a document stands for.
-/

import ShellSession.Toml.Scalar

namespace ShellSession.Toml

/-! ### Blanks and keys -/

/-- What stands on a line. -/
inductive Line where
  | pair (path : List String) (datum : Datum)
  | header (path : List String)
  | element (path : List String)

/-- A reader takes characters from a text and leaves the rest. -/
abbrev Reader (α : Type) := List Char → Option (α × List Char)

/-- A way to pass over what separates the parts of a pair; nothing where it cannot be passed. -/
abbrev Gap := List Char → Option (List Char)

/-- The text behind blanks inside a line. -/
def skipSpaces (cs : List Char) : List Char :=
  cs.dropWhile isSpace

/-- The text behind blanks, line ends and comments. `comment` tells whether a comment is being
read. -/
def skipGap (comment : Bool) : Gap
  | [] => some []
  | c :: rest =>
    if c = '\n' then skipGap false rest
    else if c = '\r' then if startsLine (c :: rest) then skipGap false rest else none
    else if comment then if isPlain c then skipGap true rest else none
    else if isSpace c then skipGap false rest
    else if c = '#' then skipGap true rest
    else some (c :: rest)

/-- The characters of keys without marks. -/
def inKey (c : Char) : Bool :=
  c.isAlphanum || c = '_' || c = '-'

/-- A key without dots. -/
def readKey (cs : List Char) : Option (String × List Char) :=
  match cs.takeWhile inKey with
  | [] => readLine cs
  | chars => some (String.ofList chars, cs.dropWhile inKey)

/-- The parts of a dotted key, at most `limit` of them, and the text behind the blanks that
follow. -/
def readParts : Nat → Reader (List String)
  | 0, _ => none
  | limit + 1, cs =>
    match readKey (skipSpaces cs) with
    | none => none
    | some (key, rest) =>
      match skipSpaces rest with
      | '.' :: rest => (readParts limit rest).map fun (path, rest) => (key :: path, rest)
      | rest => some ([key], rest)

/-- How many parts a dotted key may have. -/
def pathLimit : Nat := 80

/-- A dotted key, and the text behind the blanks that follow. -/
def readPath : Reader (List String) :=
  readParts pathLimit

/-- A pair of a dotted key and a datum, with gaps on both sides of the equals sign. -/
def readPair (gap : Gap) (datum : Reader Datum) : Reader (List String × Datum) := fun cs => do
  let (path, rest) ← readPath cs
  let rest ← (gap rest).bind (after '=')
  let (datum, rest) ← (gap rest).bind datum
  some ((path, datum), rest)

/-! ### Data -/

/-- Items with commas between them up to a closing mark. A comma may stand behind the last one.
There are fewer items than characters in `bound`. -/
def readItems {α : Type} (item : Reader α) (mark : Char) (bound : List Char) : Reader (List α) :=
  fun cs =>
    match bound, skipGap false cs with
    | _ :: bound, some (c :: rest) =>
      if c = mark then some ([], rest)
      else
        match item (c :: rest) with
        | none => none
        | some (first, rest) =>
          match skipGap false rest with
          | some (',' :: rest) =>
            (readItems item mark bound rest).map fun (items, rest) => (first :: items, rest)
          | some (c :: rest) => if c = mark then some ([first], rest) else none
          | _ => none
    | _, _ => none

/-- A text or a scalar. -/
def readPlain (cs : List Char) : Option (Datum × List Char) :=
  if cs.head?.any isMark then (readText cs).map fun (text, rest) => (.text text, rest)
  else readScalar cs

/-- A datum nested at most `depth` deep, and what follows it. -/
def datum : Nat → Reader Datum
  | 0, cs => readPlain cs
  | depth + 1, cs =>
    match cs with
    | '[' :: rest =>
      (readItems (datum depth) ']' cs rest).map fun (items, rest) => (.array items, rest)
    | '\x7b' :: rest =>
      (readItems (readPair (skipGap false) (datum depth)) '\x7d' cs rest).bind
        fun (pairs, rest) => (putPairs pairs []).map fun entries => (.table .inline entries, rest)
    | _ => readPlain cs

/-- How deep data may be nested. -/
def nesting : Nat := 80

/-! ### Lines -/

/-- A header: its path between one or two brackets. -/
def readHeader (cs : List Char) : Option (Line × List Char) :=
  match cs with
  | '[' :: rest =>
    match readPath rest with
    | some (path, ']' :: ']' :: rest) => some (.element path, rest)
    | _ => none
  | _ =>
    match readPath cs with
    | some (path, ']' :: rest) => some (.header path, rest)
    | _ => none

/-- What stands on a line. -/
def readContent : Reader Line
  | '[' :: rest => readHeader rest
  | cs =>
    (readPair (fun cs => some (skipSpaces cs)) (datum nesting) cs).map
      fun ((path, datum), rest) => (.pair path datum, rest)

/-- Whether a line ends at the front, a comment being allowed. -/
def endsLine (cs : List Char) : Bool :=
  cs.isEmpty || cs.head? = some '#' || startsLine cs

/-- The lines of a document; there are at most as many as characters in `bound`. -/
def lines (bound cs : List Char) : Option (List Line) :=
  match bound, skipGap false cs with
  | _, some [] => some []
  | _ :: bound, some cs =>
    match readContent cs with
    | none => none
    | some (line, rest) =>
      if endsLine (skipSpaces rest) then (lines bound rest).map fun others => line :: others
      else none
  | _, _ => none

/-- Lines taken into the table of a document, behind a header. -/
def build : List Line → List String → Entries → Option Entries
  | [], _, entries => some entries
  | .pair path datum :: rest, header, entries =>
    (onHeader (putPair datum path) header entries).bind (build rest header)
  | .header path :: rest, _, entries => (openAt openHeaded path entries).bind (build rest path)
  | .element path :: rest, _, entries => (openAt openNext path entries).bind (build rest path)

/-- The text without the mark of its encoding at the front. -/
def dropMark : List Char → List Char
  | '\ufeff' :: rest => rest
  | cs => cs

/-- The table that a document stands for. -/
def read (text : String) : Option Entries :=
  let cs := dropMark text.toList
  (lines cs cs).bind fun lines => build lines [] []

end ShellSession.Toml
