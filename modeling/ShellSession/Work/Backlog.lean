/-
**Backlogs.**

Items in the order in which they were accepted. A closed backlog accepts no more and gives out what
it holds.

* `Backlog.push`, `Backlog.take`, `Backlog.drain`: items in and out;
* `Backlog.close`: no more items.
-/

namespace ShellSession

/-- Items in the order of their acceptance, and whether more are accepted. -/
structure Backlog (α : Type) where
  items : List α
  closed : Bool

namespace Backlog

variable {α : Type}

/-- An open backlog without items. -/
def empty : Backlog α :=
  ⟨[], false⟩

/-- How many items wait. -/
def size (b : Backlog α) : Nat :=
  b.items.length

/-- One more item at the end, unless the backlog is closed. -/
def push (b : Backlog α) (item : α) : Option (Backlog α) :=
  if b.closed then none else some { b with items := b.items ++ [item] }

/-- The first item, and the backlog without it. -/
def take (b : Backlog α) : Option (α × Backlog α) :=
  match b.items with
  | [] => none
  | item :: rest => some (item, { b with items := rest })

/-- All items, and the backlog without them. -/
def drain (b : Backlog α) : List α × Backlog α :=
  (b.items, { b with items := [] })

/-- The backlog with no more items accepted. -/
def close (b : Backlog α) : Backlog α :=
  { b with closed := true }

end Backlog

end ShellSession
