/-
**Texts in parts.**

* `splitAt`: the parts of a text between the occurrences of a character, one more than there are
  occurrences.
-/

namespace ShellSession.Text

/-- The parts of a text between the occurrences of `mark`. -/
def splitAt (mark : Char) : List Char → List (List Char)
  | [] => [[]]
  | c :: rest =>
    if c = mark then [] :: splitAt mark rest
    else
      match splitAt mark rest with
      | [] => [[c]]
      | part :: parts => (c :: part) :: parts

end ShellSession.Text
