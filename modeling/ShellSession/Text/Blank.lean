/-
**Blank characters.**

The characters with the White_Space property, and texts with blanks removed from both ends.

* `isBlank`: membership in the property;
* `trim`: the text without its leading and trailing blanks.
-/

namespace ShellSession.Text

/-- The White_Space property. -/
def isBlank (c : Char) : Bool :=
  let code := c.toNat
  (0x9 ≤ code && code ≤ 0xd) || code == 0x20 || code == 0x85 || code == 0xa0 || code == 0x1680 ||
    (0x2000 ≤ code && code ≤ 0x200a) || code == 0x2028 || code == 0x2029 || code == 0x202f ||
    code == 0x205f || code == 0x3000

/-- The characters left when blanks are dropped from both ends. -/
def trimChars (cs : List Char) : List Char :=
  ((cs.dropWhile isBlank).reverse.dropWhile isBlank).reverse

/-- The text without leading and trailing blanks. -/
def trim (s : String) : String :=
  String.ofList (trimChars s.toList)

end ShellSession.Text
