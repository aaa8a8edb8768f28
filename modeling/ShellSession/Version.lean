/-
**Engine versions.**

A version is a major and a minor number. Its text is one or more numbers below `2 ^ 32` with points
between them, blanks around the whole being ignored; only the first two numbers count, and the
second is zero when it is absent.

* `Version.read`: the version that a text denotes;
* `Version.display`: the text of a version;
* `Version.order`: versions compare by major, then by minor number.
-/

import ShellSession.Decimal.Integer
import ShellSession.Decimal.Power
import ShellSession.Text.Blank
import ShellSession.Text.Split

namespace ShellSession

/-- A version of the script engine. -/
structure Version where
  major : Nat
  minor : Nat
deriving Repr, DecidableEq, Inhabited

/-- A version together with the name of the engine's edition. -/
structure Release where
  version : Version
  edition : String
deriving Repr, DecidableEq, Inhabited

namespace Version

/-- A number of a version text: an optional plus sign and digits, below `2 ^ 32`. -/
def readPart (cs : List Char) : Option Nat :=
  Decimal.readUnsigned (Decimal.twoTo 32) cs

/-- The version that a text denotes, if it denotes one. -/
def read (text : String) : Option Version :=
  match (Text.splitAt '.' (Text.trimChars text.toList)).mapM readPart with
  | some (major :: minor :: _) => some ⟨major, minor⟩
  | some [major] => some ⟨major, 0⟩
  | _ => none

/-- The wording for a text that denotes no version. -/
def refusal (text : String) : String :=
  "invalid engine version '" ++ text ++ "'"

/-- The major and minor number with a point between them. -/
def display (version : Version) : String :=
  Decimal.natText version.major ++ "." ++ Decimal.natText version.minor

/-- The order of two versions. -/
def order (a b : Version) : Ordering :=
  (compare a.major b.major).then (compare a.minor b.minor)

end Version

end ShellSession
