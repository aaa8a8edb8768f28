/-
**What a step of a call does to the session.**

The calls of a session have some sixty stages, but a step of any of them does one of a few things to
the fields that the parties work on. All else that it changes is the bookkeeping of calls: where
they are, who waits for which lock, and what they returned.

* `Session.Books`: two sessions that differ at most in that bookkeeping;
* `Call.grips`: a call that has lifted the pause and still has to apply its verb;
* `Effect`: what a step does otherwise;
* `Resuming.step_effect` and the like: **every step of a stage has one of these effects**.
-/

import ShellSession.Proofs.Session.Course
import ShellSession.Proofs.Session.Stages

namespace ShellSession

/-- Two sessions that differ at most in the bookkeeping of calls. -/
def Session.Books (s t : Session) : Prop :=
  t = { s with
    lifecycle := t.lifecycle, gate := t.gate, lastCall := t.lastCall, calls := t.calls
    replies := t.replies }

/-! ### Calls with a verb in hand -/

/-- A resume that has lifted the pause and still has to apply its verb, or to restore the pause. -/
def Resuming.grips : Resuming → Bool
  | applying _ => true
  | restoring _ _ => true
  | _ => false

/-- An abort whose resume has lifted the pause. -/
def Aborting.grips : Aborting → Bool
  | resuming stage => stage.grips
  | _ => false

/-- A dispose whose abort has lifted the pause. -/
def Disposing.grips : Disposing → Bool
  | aborting stage => stage.grips
  | _ => false

/-- A failed start whose dispose has lifted the pause. -/
def Starting.grips : Starting → Bool
  | failing _ stage => stage.grips
  | _ => false

/-- A call that has lifted the pause and still has to apply its verb. -/
def Call.grips : Call → Bool
  | start (.inside stage) => stage.grips
  | resume _ stage => stage.grips
  | abort (.inside stage) => stage.grips
  | dispose (.inside stage) => stage.grips
  | _ => false

/-! ### Orders -/

/-- The order that a call carries out. -/
def Call.order : Call → Order
  | start _ => .start
  | submit payload _ => .submit payload
  | nested pipeline shape _ => .nested pipeline shape
  | pause => .pause
  | resume verb _ => .resume verb
  | abort _ => .abort
  | dispose _ => .dispose

namespace Order

theorem order_call (order : Order) : order.call.order = order := by
  cases order <;> rfl

/-- The verb with which an order leaves a stop. A failed start disposes the session. -/
def verb? : Order → Option Verb
  | resume verb => some verb
  | start => some .stop
  | abort => some .stop
  | dispose => some .stop
  | _ => none

/-- Whether an order may end in no more requests being accepted. -/
def aborts : Order → Bool
  | start => true
  | abort => true
  | dispose => true
  | _ => false

/-- Whether an order may shut the session down. -/
def shuts : Order → Bool
  | start => true
  | dispose => true
  | _ => false

/-- Whether an order may make the session ready. -/
def starts : Order → Bool
  | start => true
  | _ => false

/-- The phases to which an order may move the session. -/
def movesTo (order : Order) : Phase → Bool
  | .ready => order.starts
  | .aborting => order.aborts
  | .disposed => order.shuts
  | _ => false

end Order

/-! ### Effects -/

/-- What a step of a call does to a session, apart from the bookkeeping, and the orders that may do
it. The flags say whether the call has lifted the pause before and after the step. -/
inductive Effect (s : Session) (order : Order) : Bool → Session → Bool → Prop
  | look (grip : Bool) : Effect s order grip s grip
  | spawn (asked : order = .start) (free : s.driving = .unborn) (bound : s.bound = true) :
      Effect s order false s.spawn false
  | accept (payload : Payload)
      (asked : order = .submit payload ∨ order = .start ∧ payload = .startup s.fallback)
      (opened : s.queue.closed = false) : Effect s order false { s with
        lastId := s.lastId + 1
        queue := ⟨s.queue.items ++ [⟨s.lastId + 1, payload⟩], false⟩ } false
  | refuse (payload : Payload)
      (asked : order = .submit payload ∨ order = .start ∧ payload = .startup s.fallback)
      (closed : s.queue.closed = true) :
      Effect s order false { s with lastId := s.lastId + 1 } false
  | record (dialect : Dialect) (release : Release) (asked : order = .start) :
      Effect s order false { s with dialect := some dialect, details := some release } false
  | moveTo (target : Phase) (asked : order.movesTo target = true)
      (leads : s.phase.leadsTo target = true) :
      Effect s order false { s with phase := target } false
  | close (asked : order.aborts = true) :
      Effect s order false { s with queue := s.queue.close } false
  | cancel (asked : order.shuts = true) : Effect s order false { s with shutdown := true } false
  | drain (asked : order.shuts = true) (free : s.driving = .unborn) :
      Effect s order false s.turnAwayQueued false
  | unbind (asked : order.shuts = true) : Effect s order false { s with bound := false } false
  | note (stop : Stop) (other : Option Verb) (verb : Verb)
      (paused : s.standing = .paused stop other) :
      Effect s order false { s with standing := .paused stop (some verb) } false
  | lift (stop : Stop) (other : Option Verb) (paused : s.standing = .paused stop other) :
      Effect s order false { s with standing := .active } true
  | apply (verb : Verb) (asked : order.verb? = some verb) (hosted : HostedEngine)
      (applied : s.hosted.resume verb = .ok hosted) :
      Effect s order true { s with hosted := hosted } false
  | slip (verb : Verb) (error : SessionFailure) (refused : s.hosted.resume verb = .error error)
      (lost : error.saysNotStopped = true) : Effect s order true s false
  | restore (stop : Stop) (active : s.standing = .active) :
      Effect s order true { s with standing := .paused stop none } false
  | leave (paused : s.standing.isPaused = true) : Effect s order true s false
  | command (pipeline : Pipeline) (shape : Shape) (asked : order = .nested pipeline shape)
      (dialect : Dialect) (ticket : Nat) (hosted : HostedEngine)
      (posted : s.hosted.command (dialect.nestedPipeline pipeline) = .ok (ticket, hosted)) :
      Effect s order false { s with hosted := hosted } false
  | pause (asked : order = .pause) (dialect : Dialect) (hosted : HostedEngine)
      (switched : s.hosted.pause dialect = .ok hosted) :
      Effect s order false { s with hosted := hosted } false

/-- A step of a stage, seen as an effect behind which only the line for the gate is changed. -/
def Session.Affects (s : Session) (order : Order) (before : Bool) (t : Session) (after : Bool) :
    Prop :=
  ∃ u, Effect s order before u after ∧ t = { u with gate := t.gate }

section

variable {s t : Session} {order : Order} {before after : Bool}

/-- No effect touches the bookkeeping of calls. -/
theorem Effect.same_books (effect : Effect s order before t after) :
    t.lifecycle = s.lifecycle ∧ t.gate = s.gate ∧ t.lastCall = s.lastCall ∧ t.calls = s.calls ∧
      t.replies = s.replies := by
  cases effect <;> exact ⟨rfl, rfl, rfl, rfl, rfl⟩

theorem Effect.affects (effect : Effect s order before t after) : s.Affects order before t after :=
  ⟨t, effect, rfl⟩

/-- A place taken or given up in the line for the gate. -/
theorem Effect.affects_gate (grip : Bool) (gate : Lock) :
    s.Affects order grip { s with gate := gate } grip :=
  ⟨s, .look grip, rfl⟩

namespace Session.Affects

theorem same_calls (affects : s.Affects order before t after) : t.calls = s.calls := by
  obtain ⟨u, effect, books⟩ := affects
  rw [books]
  exact effect.same_books.2.2.2.1

theorem same_replies (affects : s.Affects order before t after) : t.replies = s.replies := by
  obtain ⟨u, effect, books⟩ := affects
  rw [books]
  exact effect.same_books.2.2.2.2

end Session.Affects

end

theorem Session.restorePause_effect (s : Session) (order : Order) (stop : Stop) :
    Effect s order true (s.restorePause stop) false := by
  rcases s.restorePause_cases stop with ⟨active, same⟩ | ⟨paused, same⟩ <;> rw [same]
  · exact .restore stop active
  · exact .leave paused

theorem Session.push_effect (s : Session) {order : Order} (payload : Payload)
    (asked : order = .submit payload ∨ order = .start ∧ payload = .startup s.fallback) :
    Effect s order false (s.push payload).1 false := by
  rcases s.push_cases payload with ⟨opened, pushed⟩ | ⟨closed, pushed⟩ <;> rw [pushed]
  · exact .accept payload asked opened
  · exact .refuse payload asked closed

/-- An order that may abort leaves a stop with the verb `stop`. -/
theorem Order.verb?_of_aborts {order : Order} (asked : order.aborts = true) :
    order.verb? = some .stop := by
  cases order <;> first | rfl | cases asked

/-- An order that may shut the session down may abort it. -/
theorem Order.aborts_of_shuts {order : Order} (asked : order.shuts = true) : order.aborts = true := by
  cases order <;> first | rfl | cases asked

/-- Only an order that may abort moves the session to another phase. -/
theorem Order.aborts_of_movesTo {order : Order} {target : Phase}
    (asked : order.movesTo target = true) : order.aborts = true := by
  cases order <;> cases target <;> first | rfl | cases asked

/-- Only a call that may abort changes the phase, and it goes where the phase leads. -/
theorem Effect.phase {s t : Session} {order : Order} {before after : Bool}
    (effect : Effect s order before t after) :
    t.phase = s.phase ∨ order.aborts = true ∧ s.phase.leadsTo t.phase = true := by
  cases effect with
  | moveTo target asked leads => exact .inr ⟨Order.aborts_of_movesTo asked, leads⟩
  | _ => exact .inl rfl

/-! ### Stages -/

section Stages

variable {s t : Session} {order : Order} {caller : Nat}

theorem Resuming.step_effect {verb : Verb} {stage next : Resuming}
    (asked : order.verb? = some verb) (stepped : stage.step caller verb s = some (t, next)) :
    s.Affects order stage.grips t next.grips := by
  cases goes_of_step stepped with
  | enter => exact Effect.affects_gate false _
  | note stop other held standing => exact (Effect.note stop other verb standing).affects
  | lift stop other standing => exact (Effect.lift stop other standing).affects
  | apply stop hosted applied => exact (Effect.apply verb asked hosted applied).affects
  | lose stop error refused claims => exact (Effect.slip verb error refused claims).affects
  | fail stop error refused claims => exact (Effect.look true).affects
  | restore stop error => exact (s.restorePause_effect order stop).affects
  | leave result => exact Effect.affects_gate false _
  | _ => exact (Effect.look false).affects

theorem Aborting.step_effect {stage next : Aborting} (asked : order.aborts = true)
    (stepped : stage.step caller s = some (t, next)) :
    s.Affects order stage.grips t next.grips := by
  cases goes_of_step stepped with
  | resume inner later t same =>
    exact Resuming.step_effect (Order.verb?_of_aborts asked) same
  | move leads => exact (Effect.moveTo .aborting asked leads).affects
  | close => exact (Effect.close asked).affects
  | _ => exact (Effect.look false).affects

theorem Disposing.step_effect {stage next : Disposing} (asked : order.shuts = true)
    (stepped : stage.step caller s = some (t, next)) :
    s.Affects order stage.grips t next.grips := by
  cases goes_of_step stepped with
  | abort inner later t same => exact Aborting.step_effect (Order.aborts_of_shuts asked) same
  | move leads => exact (Effect.moveTo .disposed asked leads).affects
  | close => exact (Effect.close (Order.aborts_of_shuts asked)).affects
  | cancel => exact (Effect.cancel asked).affects
  | drain free => exact (Effect.drain asked free).affects
  | unbind => exact (Effect.unbind asked).affects
  | _ => exact (Effect.look false).affects

theorem Starting.step_effect {stage next : Starting}
    (stepped : stage.step caller s = some (t, next)) :
    s.Affects .start stage.grips t next.grips := by
  cases goes_of_step stepped with
  | spawn bound free => exact (Effect.spawn rfl free bound).affects
  | ask opened => exact (Effect.accept (.startup s.fallback) (.inr ⟨rfl, rfl⟩) opened).affects
  | refuse closed => exact (Effect.refuse (.startup s.fallback) (.inr ⟨rfl, rfl⟩) closed).affects
  | record dialect release => exact (Effect.record dialect release rfl).affects
  | move release leads => exact (Effect.moveTo .ready rfl leads).affects
  | dispose error inner later t same => exact Disposing.step_effect rfl same
  | _ => exact (Effect.look false).affects

theorem Submitting.step_effect {payload : Payload} {stage next : Submitting}
    (stepped : stage.step payload s = some (t, next)) :
    s.Affects (.submit payload) false t false := by
  cases goes_of_step stepped with
  | push opened => exact (Effect.accept payload (.inl rfl) opened).affects
  | refuse closed => exact (Effect.refuse payload (.inl rfl) closed).affects
  | _ => exact (Effect.look false).affects

theorem Nesting.step_effect {pipeline : Pipeline} {shape : Shape} {stage next : Nesting}
    (stepped : stage.step caller pipeline shape s = some (t, next)) :
    s.Affects (.nested pipeline shape) false t false := by
  cases goes_of_step stepped with
  | enter dialect => exact Effect.affects_gate false _
  | post dialect ticket hosted posted =>
    exact (Effect.command pipeline shape rfl dialect ticket hosted posted).affects
  | leave result => exact Effect.affects_gate false _
  | _ => exact (Effect.look false).affects

end Stages

end ShellSession
