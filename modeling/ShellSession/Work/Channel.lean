/-
**Channels.**

A backlog with one receiver who may wait for an item. Whoever pushes or closes changes the backlog
first and gives a wake-up afterwards. A wake-up reaches the receiver when it waits, and is kept for
its next wait otherwise; more than one is not kept. A receiver that heeds the token gives up as soon
as the token is cancelled, before it takes an item.

* `Channel.accept`, `Channel.shut`, `Channel.wake`: what producers do, one step at a time;
* `Channel.receive`: one step of the receiver;
* `Channel.push`, `Channel.close`, `Channel.poll`: the same without anything in between.
-/

import ShellSession.Work.Backlog

namespace ShellSession

/-! ### Channels and receivers -/

/-- Where the receiver is: not receiving, about to look at the token, about to look at the backlog,
about to wait after it found nothing, waiting, or woken from its wait. -/
inductive Receiving where
  | away
  | checking
  | looking
  | parking
  | parked
  | woken
deriving Repr, DecidableEq

/-- What a receiver gets: an item, or the reason why there is none. -/
inductive Received (α : Type) where
  | item (item : α)
  | closed
  | cancelled
deriving Repr, DecidableEq

/-- A backlog with its receiver. `due` counts the wake-ups that producers have still to give, `kept`
tells whether one is kept, and `heeds` whether the receiver heeds the token. -/
structure Channel (α : Type) where
  backlog : Backlog α
  due : Nat
  kept : Bool
  cancelled : Bool
  heeds : Bool
  receiving : Receiving

namespace Channel

variable {α : Type}

/-- An open channel without items, whose receiver is away. -/
def empty : Channel α where
  backlog := .empty
  due := 0
  kept := false
  cancelled := false
  heeds := false
  receiving := .away

/-- How many items wait. -/
def size (q : Channel α) : Nat :=
  q.backlog.size

/-- Whether no more items are accepted. -/
def isClosed (q : Channel α) : Bool :=
  q.backlog.closed

/-! ### Producers -/

/-- One more item, its wake-up being due. A closed channel refuses it. -/
def accept (q : Channel α) (item : α) : Option (Channel α) :=
  (q.backlog.push item).map fun backlog => { q with backlog := backlog, due := q.due + 1 }

/-- No more items, a wake-up being due. -/
def shut (q : Channel α) : Channel α :=
  { q with backlog := q.backlog.close, due := q.due + 1 }

/-- The token cancelled. -/
def cancel (q : Channel α) : Channel α :=
  { q with cancelled := true }

/-- A wake-up that reaches the waiting receiver or is kept. -/
def signal (q : Channel α) : Channel α :=
  match q.receiving with
  | .parked => { q with receiving := .woken }
  | _ => { q with kept := true }

/-- A due wake-up given. -/
def wake (q : Channel α) : Option (Channel α) :=
  if q.due = 0 then none else some { q with due := q.due - 1 }.signal

/-! ### The receiver -/

/-- Whether the receiver has to give up. -/
def givesUp (q : Channel α) : Bool :=
  q.heeds && q.cancelled

/-- The receiver back from its receive. A wake-up that it did not use is kept. -/
def leave (q : Channel α) : Channel α :=
  match q.receiving with
  | .woken => { q with receiving := .away, kept := true }
  | _ => { q with receiving := .away }

/-- A receive begun. -/
def begin (q : Channel α) (heeds : Bool) : Channel α :=
  { q with heeds := heeds, receiving := .checking }

/-- The receiver's look at the backlog. -/
def look (q : Channel α) : Option (Received α) × Channel α :=
  match q.backlog.take with
  | some (item, backlog) => (some (.item item), { q with backlog := backlog, receiving := .away })
  | none =>
    if q.backlog.closed then (some .closed, { q with receiving := .away })
    else (none, { q with receiving := .parking })

/-- The receiver's wait begun, unless a wake-up is kept. -/
def park (q : Channel α) : Channel α :=
  if q.kept then { q with kept := false, receiving := .checking }
  else { q with receiving := .parked }

/-- One step of the receiver with what it gets, if it can take one. -/
def receive (q : Channel α) : Option (Option (Received α) × Channel α) :=
  match q.receiving with
  | .away => none
  | .looking => some q.look
  | .checking =>
    if q.givesUp then some (some .cancelled, q.leave)
    else some (none, { q with receiving := .looking })
  | .parking =>
    if q.givesUp then some (some .cancelled, q.leave) else some (none, q.park)
  | .parked => if q.givesUp then some (some .cancelled, q.leave) else none
  | .woken =>
    if q.givesUp then some (some .cancelled, q.leave)
    else some (none, { q with receiving := .checking })

/-! ### Nothing in between -/

/-- The item pushed and its wake-up given. -/
def push (q : Channel α) (item : α) : Option (Channel α) :=
  (q.accept item).bind wake

/-- The channel closed and the wake-up given. -/
def close (q : Channel α) : Channel α :=
  q.shut.wake.getD q

/-- An item taken without waiting. -/
def tryTake (q : Channel α) : Option (α × Channel α) :=
  q.backlog.take.map fun (item, backlog) => (item, { q with backlog := backlog })

/-- All items taken. -/
def drain (q : Channel α) : List α × Channel α :=
  let (items, backlog) := q.backlog.drain
  (items, { q with backlog := backlog })

/-- At most `limit` steps of the receiver, until it gets something or waits. -/
def pollFrom : Nat → Channel α → Option (Received α) × Channel α
  | 0, q => (none, q)
  | limit + 1, q =>
    match q.receive with
    | none => (none, q)
    | some (some received, q) => (some received, q)
    | some (none, q) => pollFrom limit q

/-- The steps of the receiver until it gets something or waits; seven are always enough. -/
def poll (q : Channel α) : Option (Received α) × Channel α :=
  q.pollFrom 7

/-- The wording for an item refused by a closed channel. -/
def refusal : String :=
  "work queue closed"

/-- The short form of a refused item, which does not show it. -/
def refusalMark : String :=
  "QueueClosed(..)"

end Channel

end ShellSession
