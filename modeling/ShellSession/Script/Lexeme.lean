/-
**Lexemes.**

From any point of a text the next lexeme is a blank, a comment up to the end of its line, or a
token. A slash divides behind a value and begins a word elsewhere, so a reader remembers whether the
last token could end a value.

* `lexeme`: the lexeme that begins with a character, and how many further characters it takes;
* `scan`: the tokens of a text with their places, and the place where the text ends.
-/

import ShellSession.Decimal.Literal
import ShellSession.Script.Fault
import ShellSession.Text.Blank
import ShellSession.Text.Letter

namespace ShellSession.Script

/-! ### Words -/

/-- What begins at a point of a text. -/
inductive Lexeme where
  | gap
  | token (token : Token)
  | fault (fault : SyntaxFault)

/-- The characters that end a word. -/
def endsWord (c : Char) : Bool :=
  Text.isBlank c || [';', '|', '(', ')', ',', '\'', '"'].contains c

/-- The characters that begin a word. -/
def startsWord (c : Char) : Bool :=
  Text.isLetter c || ['_', '.', '/', '\\', '~', '\x60'].contains c

/-- A word up to its end, and the number of characters it takes. A back quote makes the character
behind it part of the word. -/
def word : List Char → List Char × Nat
  | [] => ([], 0)
  | c :: rest =>
    if c = '\x60' then
      match rest with
      | [] => ([], 1)
      | escaped :: rest =>
        let (chars, count) := word rest
        (escaped :: chars, count + 2)
    else if endsWord c then ([], 0)
    else
      let (chars, count) := word rest
      (c :: chars, count + 1)

/-! ### Texts in quotation marks -/

/-- A text behind its opening apostrophe, and the number of characters it takes with the closing
one. An apostrophe inside is written twice. -/
def verbatimText : List Char → Option (List Char × Nat)
  | [] => none
  | c :: rest =>
    if c = '\'' then
      match rest with
      | next :: rest =>
        if next = '\'' then (verbatimText rest).map fun (chars, count) => ('\'' :: chars, count + 2)
        else some ([], 1)
      | [] => some ([], 1)
    else (verbatimText rest).map fun (chars, count) => (c :: chars, count + 1)

/-- The character that a back quote and `c` stand for. -/
def escaped (c : Char) : Char :=
  if c = 'n' then '\n' else if c = 't' then '\t' else c

/-- A text behind its opening quotation mark, and the number of characters it takes with the closing
one. A back quote escapes the character behind it. -/
def escapedText : List Char → Option (List Char × Nat)
  | [] => none
  | c :: rest =>
    if c = '"' then some ([], 1)
    else if c = '\x60' then
      match rest with
      | [] => none
      | next :: rest =>
        (escapedText rest).map fun (chars, count) => (escaped next :: chars, count + 2)
    else (escapedText rest).map fun (chars, count) => (c :: chars, count + 1)

/-! ### Numbers and operators -/

/-- The token of a whole number. -/
def intLexeme (whole : List Char) : Lexeme :=
  match Decimal.toInt64? (Decimal.digitsValue whole) with
  | some number => .token (.int number)
  | none => .fault (.integerTooLarge (String.ofList whole))

/-- The token of a number with digits on both sides of its point. -/
def floatLexeme (whole fraction : List Char) : Lexeme :=
  let places : Int := fraction.length
  let bits := Decimal.scaledBits (Decimal.digitsValue (whole ++ fraction)) (-places)
  .token (.float (Decimal.signedFloat false bits))

/-- A number that begins with a digit. -/
def number (digit : Char) (rest : List Char) : Lexeme × Nat :=
  let whole := rest.takeWhile Char.isDigit
  let fraction := match rest.dropWhile Char.isDigit with
    | '.' :: behind => behind.takeWhile Char.isDigit
    | _ => []
  if fraction.isEmpty then (intLexeme (digit :: whole), whole.length)
  else (floatLexeme (digit :: whole) fraction, whole.length + 1 + fraction.length)

/-- The lexeme of an operator that an equals sign turns into an assignment. -/
def operator (sign : Operator) (rest : List Char) : Lexeme × Nat :=
  match rest with
  | '=' :: _ => (.token (.assign (some sign)), 1)
  | _ => (.token (.operator sign), 0)

/-- A dash: a parameter when a letter follows, else an operator. -/
def dash (rest : List Char) : Lexeme × Nat :=
  match rest with
  | [] => operator .sub rest
  | c :: _ =>
    if Text.isLetter c then
      let name := rest.takeWhile Text.isNameChar
      (.token (.parameter (String.ofList name)), name.length)
    else operator .sub rest

/-! ### The lexeme at a point -/

/-- A text in quotation marks of either kind, or the fault that it is not closed. -/
def quotedLexeme : Option (List Char × Nat) → Lexeme × Nat
  | some (chars, count) => (.token (.text (String.ofList chars)), count)
  | none => (.fault .unclosedQuote, 0)

/-- The lexeme that begins with `c`, and how many of the characters behind `c` it takes. -/
def lexeme (afterValue : Bool) (c : Char) (rest : List Char) : Lexeme × Nat :=
  if c = ' ' ∨ c = '\t' ∨ c = '\r' then (.gap, 0)
  else if c = '#' then (.gap, (rest.takeWhile (· ≠ '\n')).length)
  else if c = '\n' ∨ c = ';' then (.token .separator, 0)
  else if c = '$' then
    let name := rest.takeWhile Text.isNameChar
    if name.isEmpty then (.fault .nameExpected, 0)
    else (.token (.reference (String.ofList name)), name.length)
  else if c.isDigit then number c rest
  else if c = '\'' then quotedLexeme (verbatimText rest)
  else if c = '"' then quotedLexeme (escapedText rest)
  else if c = '-' then dash rest
  else if c = '+' then operator .add rest
  else if c = '*' then operator .mul rest
  else if c = '/' ∧ afterValue then operator .div rest
  else if c = '=' then (.token (.assign none), 0)
  else if c = '(' then (.token .opening, 0)
  else if c = ')' then (.token .closing, 0)
  else if c = '|' then (.token .pipe, 0)
  else if c = ',' then (.token .comma, 0)
  else if startsWord c then
    let (chars, count) := word (c :: rest)
    (.token (.word (String.ofList chars)), count - 1)
  else (.fault (.strayCharacter c), 0)

/-! ### The tokens of a text -/

/-- The tokens of a text with their places, and the place of its end. -/
structure Tokens where
  tokens : List Placed
  finish : Place

/-- The tokens from a place on. The first `skip` characters belong to a lexeme already seen. -/
def scanFrom (place : Place) (afterValue : Bool) (skip : Nat) :
    List Char → Except SyntaxError Tokens
  | [] => .ok ⟨[], place⟩
  | c :: rest =>
    match skip with
    | skip + 1 => scanFrom (place.after c) afterValue skip rest
    | 0 =>
      match lexeme afterValue c rest with
      | (.gap, count) => scanFrom (place.after c) afterValue count rest
      | (.fault fault, _) => .error ⟨fault, place⟩
      | (.token token, count) =>
        match scanFrom (place.after c) token.endsValue count rest with
        | .error e => .error e
        | .ok ⟨tokens, finish⟩ => .ok ⟨⟨token, place⟩ :: tokens, finish⟩

/-- The tokens of a text. -/
def scan (text : String) : Except SyntaxError Tokens :=
  scanFrom .start false 0 text.toList

end ShellSession.Script
