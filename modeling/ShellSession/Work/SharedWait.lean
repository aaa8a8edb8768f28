/-
**Waiting for a task together.**

Several callers may wait for the end of one task. The first takes the handle and leads; the others
wait until the leader is through. A leader whose time is up puts the handle back and wakes the
others, so that one of them leads on; a leader that sees the task end records it and wakes them too.

* `SharedWait.act`: one step of a waiter;
* `SharedWait.finish`, `SharedWait.tick`: the end of the task, and the passing of time;
* `SharedWait.settle`: the steps that need no time;
* `SharedWait.outwait`: time passing until a waiter is through.
-/

import ShellSession.Steps

namespace ShellSession

/-! ### Waiters -/

/-- Where the task's handle is: stored, taken by a leader, or used up behind the task's end. -/
inductive Custody where
  | stored
  | taken
  | spent
deriving Repr, DecidableEq

/-- Where a waiter is: about to look for the handle, waiting for the leader, woken by the leader,
leading, about to record the end, about to put the handle back, about to wake the others, or through
with the answer whether the task has ended. -/
inductive WaiterStage where
  | looking
  | waiting
  | woken
  | leading
  | recording
  | storing
  | waking (ended : Bool)
  | through (ended : Bool)
deriving Repr, DecidableEq

/-- A waiter and the time at which it gives up. -/
structure Waiter where
  deadline : Option Nat
  stage : WaiterStage
deriving Repr, DecidableEq

/-- A task with its waiters, and the time. -/
structure SharedWait where
  ended : Bool
  custody : Custody
  waiters : List Waiter
  now : Nat
deriving Repr, DecidableEq

namespace Waiter

/-- Whether the time of a waiter is up. -/
def isLate (waiter : Waiter) (now : Nat) : Bool :=
  waiter.deadline.any fun deadline => deadline ≤ now

/-- The answer of a waiter that is through. -/
def answer? (waiter : Waiter) : Option Bool :=
  match waiter.stage with
  | .through ended => some ended
  | _ => none

/-- A waiting waiter woken. -/
def wake (waiter : Waiter) : Waiter :=
  match waiter.stage with
  | .waiting => { waiter with stage := .woken }
  | _ => waiter

end Waiter

namespace SharedWait

/-! ### Steps -/

/-- A task that runs, with nobody waiting for it. -/
def running : SharedWait where
  ended := false
  custody := .stored
  waiters := []
  now := 0

/-- One more waiter, who gives up after `timeout`. -/
def join (t : SharedWait) (timeout : Option Nat) : SharedWait :=
  { t with waiters := t.waiters ++ [⟨timeout.map (t.now + ·), .looking⟩] }

/-- The task at its end. -/
def finish (t : SharedWait) : SharedWait :=
  { t with ended := true }

/-- Time passed. -/
def tick (t : SharedWait) (time : Nat) : SharedWait :=
  { t with now := max t.now time }

/-- A waiter at another point. -/
def place (t : SharedWait) (index : Nat) (stage : WaiterStage) : SharedWait :=
  { t with waiters := t.waiters.modify index fun waiter => { waiter with stage := stage } }

/-- All waiting waiters woken. -/
def wakeAll (t : SharedWait) : SharedWait :=
  { t with waiters := t.waiters.map Waiter.wake }

/-- The step of a waiter that looks for the handle. -/
def look (t : SharedWait) (index : Nat) : SharedWait :=
  match t.custody with
  | .spent => t.place index (.through true)
  | .taken => t.place index .waiting
  | .stored => { t with custody := .taken : SharedWait }.place index .leading

/-- One step of a waiter that does not depend on the time. -/
def act (t : SharedWait) (index : Nat) : Option SharedWait :=
  match t.waiters[index]?.map Waiter.stage with
  | some .looking => some (t.look index)
  | some .woken => some (t.place index .looking)
  | some .leading => if t.ended then some (t.place index .recording) else none
  | some .recording =>
    some ({ t with custody := .spent : SharedWait }.place index (.waking true))
  | some .storing =>
    some ({ t with custody := .stored : SharedWait }.place index (.waking false))
  | some (.waking ended) => some (t.wakeAll.place index (.through ended))
  | _ => none

/-- A waiter giving up because its time is up. -/
def giveUp (t : SharedWait) (index : Nat) : Option SharedWait :=
  match t.waiters[index]? with
  | none => none
  | some waiter =>
    if waiter.isLate t.now then
      match waiter.stage with
      | .waiting => some (t.place index (.through false))
      | .woken => some (t.place index (.through false))
      | .leading => some (t.place index .storing)
      | _ => none
    else none

/-! ### Time passing -/

/-- The first step that some waiter can take without giving up. -/
def firstAct (t : SharedWait) : Option SharedWait :=
  (List.range t.waiters.length).findSome? t.act

/-- The first waiter whose time is up gives up. -/
def firstGiveUp (t : SharedWait) : Option SharedWait :=
  (List.range t.waiters.length).findSome? t.giveUp

/-- All steps that need no time. -/
def settle (t : SharedWait) : SharedWait :=
  exhaust (fun t => t.firstAct.or t.firstGiveUp) stepLimit t

/-- The deadlines that are still to come, of waiters that are not through. -/
def deadlines (t : SharedWait) : List Nat :=
  t.waiters.filterMap fun waiter => if waiter.answer?.isSome then none else waiter.deadline

/-- The next moment at which a waiter gives up. -/
def nextDeadline? (t : SharedWait) : Option Nat :=
  t.deadlines.min?

/-- The answer of a waiter. -/
def answer? (t : SharedWait) (index : Nat) : Option Bool :=
  t.waiters[index]?.bind Waiter.answer?

/-- Time passing, deadline by deadline, until a waiter is through or nobody is left to give up. -/
def outwait (t : SharedWait) (index : Nat) : SharedWait :=
  exhaust (fun t =>
    if (t.answer? index).isSome then none
    else t.nextDeadline?.map fun time => (t.tick time).settle) t.waiters.length t.settle

end SharedWait

end ShellSession
