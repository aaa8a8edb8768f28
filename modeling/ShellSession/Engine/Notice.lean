/-
**What the engine reports, and how a stop is left.**

* `Notice`: a report of the engine;
* `Verb`: a way to leave a stop, with `Verb.isStep` for those that stop again at the next statement;
* `Feed.receive`: what a subscriber receives who reads a history from some point on and keeps up
  only with the last few entries.
-/

namespace ShellSession

/-- Whether the engine takes new work; `nested` stands for commands inside a stop only. -/
inductive Availability where
  | available
  | busy
  | nested
deriving Repr, DecidableEq, Inhabited

/-- The label of an availability. -/
def Availability.label : Availability → String
  | available => "available"
  | busy => "busy"
  | nested => "nested"

/-- Why the debugger stopped. -/
inductive StopCause where
  | breakpoint (id : Nat)
  | step
  | waitDebugger
deriving Repr, DecidableEq

/-- A stop: why, and at which line. -/
structure Stop where
  cause : StopCause
  line : Nat
deriving Repr, DecidableEq

/-- A breakpoint on a line. -/
structure Breakpoint where
  id : Nat
  line : Nat
  enabled : Bool
deriving Repr, DecidableEq

/-- What happened to a breakpoint. -/
inductive Change where
  | added
  | removed
deriving Repr, DecidableEq

/-- The label of a change. -/
def Change.label : Change → String
  | added => "added"
  | removed => "removed"

/-- A change of the breakpoint table. -/
structure Update where
  change : Change
  breakpoint : Breakpoint
deriving Repr, DecidableEq

/-- A way to leave a stop. -/
inductive Verb where
  | resume
  | stepOver
  | stepInto
  | stepOut
  | stop
deriving Repr, DecidableEq

namespace Verb

/-- The label of a verb. -/
def label : Verb → String
  | .resume => "continue"
  | .stepOver => "step_over"
  | .stepInto => "step_into"
  | .stepOut => "step_out"
  | .stop => "stop"

/-- Whether execution stops again before the next statement. -/
def isStep : Verb → Bool
  | .stepOver => true
  | .stepInto => true
  | .stepOut => true
  | _ => false

end Verb

/-- A report of the engine. -/
inductive Notice where
  | idle
  | availability (availability : Availability)
  | stopped (stop : Stop)
  | breakpoint (update : Update)
deriving Repr, DecidableEq

/-- A point up to which a subscriber has read a history. -/
structure Feed where
  read : Nat
deriving Repr, DecidableEq

namespace Feed

/-- What a subscriber receives: the number of entries lost, and the entries that follow. -/
structure Delivery (α : Type) where
  lost : Nat
  entries : List α

/-- The entries behind the point read so far, at most the last `capacity` of them. -/
def receive {α : Type} (feed : Feed) (capacity : Nat) (history : List α) : Delivery α × Feed :=
  let unread := history.drop feed.read
  let lost := unread.length - capacity
  (⟨lost, unread.drop lost⟩, ⟨history.length⟩)

end Feed

end ShellSession
