/-
**Taking steps.**

* `exhaust`: steps taken as long as there is one, up to a limit.
-/

namespace ShellSession

/-- Steps taken as long as there is one, at most `limit` of them. -/
def exhaust {σ : Type} (step : σ → Option σ) : Nat → σ → σ
  | 0, s => s
  | limit + 1, s =>
    match step s with
    | none => s
    | some s => exhaust step limit s

/-- A limit of steps beyond all that ends. -/
def stepLimit : Nat := 1000000000000

end ShellSession
