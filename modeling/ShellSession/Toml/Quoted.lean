/-
**TOML texts.**

A text stands between quotation marks, with escapes, or between apostrophes, without; one mark on
each side keeps it on a line, three allow several lines. Of three or more marks in a row the last
three close a text of several lines, and at most two before them belong to it. Control characters do
not occur in a text, tabs apart.

* `escape`: the character that an escape stands for;
* `body`: a text behind its opening marks;
* `readText`, `readLine`: a text of any kind, and one that stays on its line.
-/

namespace ShellSession.Toml

/-- How a text is written. -/
structure Quoting where
  mark : Char
  escapes : Bool
  lines : Bool
deriving Repr, DecidableEq

/-- The characters that stand for themselves, other than line ends. -/
def isPlain (c : Char) : Bool :=
  c = '\t' || (0x20 ≤ c.toNat && c.toNat ≠ 0x7f)

/-- Blanks inside a line. -/
def isSpace (c : Char) : Bool :=
  c = ' ' || c = '\t'

/-- The value of a hexadecimal digit. -/
def hexValue (c : Char) : Option Nat :=
  if c.isDigit then some (c.toNat - 48)
  else if 'a' ≤ c ∧ c ≤ 'f' then some (c.toNat - 87)
  else if 'A' ≤ c ∧ c ≤ 'F' then some (c.toNat - 55)
  else none

/-- The number that hexadecimal digits denote. -/
def hexNumber (cs : List Char) : Option Nat :=
  cs.foldlM (fun number c => (hexValue c).map (16 * number + ·)) 0

/-- The character with a code of `count` hexadecimal digits. -/
def codeEscape (count : Nat) (cs : List Char) : Option Char :=
  let digits := cs.take count
  if digits.length = count then
    (hexNumber digits).bind fun code =>
      if code.isValidChar then some (Char.ofNat code) else none
  else none

/-- The character that an escape stands for, and how many characters it takes behind the
backslash. -/
def escape : List Char → Option (Char × Nat)
  | [] => none
  | c :: rest =>
    match c with
    | 'b' => some ('\x08', 1)
    | 't' => some ('\t', 1)
    | 'n' => some ('\n', 1)
    | 'f' => some ('\x0c', 1)
    | 'r' => some ('\r', 1)
    | 'e' => some ('\x1b', 1)
    | '"' => some ('"', 1)
    | '\\' => some ('\\', 1)
    | 'x' => (codeEscape 2 rest).map fun c => (c, 3)
    | 'u' => (codeEscape 4 rest).map fun c => (c, 5)
    | 'U' => (codeEscape 8 rest).map fun c => (c, 9)
    | _ => none

/-- Whether a line end stands at the front. -/
def startsLine : List Char → Bool
  | '\n' :: _ => true
  | '\r' :: '\n' :: _ => true
  | _ => false

/-- How many characters the blanks and line ends at the front take. -/
def gapLength : List Char → Nat
  | [] => 0
  | c :: rest => if isSpace c || startsLine (c :: rest) then gapLength rest + 1 else 0

/-- How many characters a backslash at the end of a line takes with it. -/
def joinedGap (cs : List Char) : Nat :=
  if startsLine (cs.dropWhile isSpace) then gapLength cs else 0

/-- How a mark inside a text is read: with how many marks behind it, and as how many marks of a text
that it closes. -/
def closing (q : Quoting) (rest : List Char) : Option (Nat × Nat) :=
  if q.lines then
    let run := min ((rest.takeWhile fun c => c = q.mark).length + 1) 5
    if run < 3 then none else some (run, run - 3)
  else some (1, 0)

/-- A text behind its opening marks, and how many characters it takes with the closing ones. The
first `skip` characters belong to an escape already read. -/
def body (q : Quoting) (skip : Nat) : List Char → Option (List Char × Nat)
  | [] => none
  | c :: rest =>
    let keep (d : List Char) (skip : Nat) :=
      (body q skip rest).map fun (chars, count) => (d ++ chars, count + 1)
    match skip with
    | skip + 1 => keep [] skip
    | 0 =>
      if c = q.mark then
        match closing q rest with
        | some (count, marks) => some (List.replicate marks q.mark, count)
        | none => keep [c] 0
      else if c = '\\' ∧ q.escapes then
        if q.lines ∧ 0 < joinedGap rest then keep [] (joinedGap rest)
        else
          match escape rest with
          | some (d, count) => keep [d] count
          | none => none
      else if isPlain c then keep [c] 0
      else if q.lines ∧ startsLine (c :: rest) then keep [c] 0
      else none

/-- The text without the line end at its front. -/
def dropLineEnd : List Char → List Char
  | '\n' :: rest => rest
  | '\r' :: '\n' :: rest => rest
  | cs => cs

/-- A text behind its opening marks, and what follows it. -/
def finishText (q : Quoting) (cs : List Char) : Option (String × List Char) :=
  (body q 0 cs).map fun (chars, count) => (String.ofList chars, cs.drop count)

/-- Whether a character opens a text. -/
def isMark (c : Char) : Bool :=
  c = '"' || c = '\''

/-- A text that stays on its line. -/
def readLine : List Char → Option (String × List Char)
  | [] => none
  | mark :: rest => if isMark mark then finishText ⟨mark, mark = '"', false⟩ rest else none

/-- A text of any kind. -/
def readText (cs : List Char) : Option (String × List Char) :=
  match cs with
  | mark :: second :: third :: rest =>
    if isMark mark ∧ second = mark ∧ third = mark then
      finishText ⟨mark, mark = '"', true⟩ (dropLineEnd rest)
    else readLine cs
  | _ => readLine cs

end ShellSession.Toml
