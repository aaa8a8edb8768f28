/-
**Powers of two and of ten.**

* `twoTo`, `tenTo`: the powers with a natural exponent.
-/

namespace ShellSession.Decimal

/-- A power of two. -/
def twoTo (n : Nat) : Nat :=
  Nat.pow 2 n

/-- A power of ten. -/
def tenTo (n : Nat) : Nat :=
  Nat.pow 10 n

end ShellSession.Decimal
