/-
**The life of a session, as its calls see it.**

The phase of a session is changed from four places, the queue is closed from three, and all but one
of them are stages of calls. What a call does there hangs on what it has seen before: a start has
found the session not started, a submission has found it accepting requests, an abort has just moved
it. That is the station of a call. Most stages have none.

* `Life`: the fields of a session that make up its life;
* `Station`, `Call.station`: what a call has seen or done to it;
* `Life.Step`: the steps from station to station, and what they do to the life of the session;
* `Session.advance_life`: **every step of a call is one of them**, and those that turn the life of the
  session are taken by the holder of the lifecycle lock.
-/

import ShellSession.Proofs.Session.Disposal

namespace ShellSession

/-! ### Lives and stations -/

/-- The fields of a session that make up its life. -/
structure Life where
  phase : Phase
  queue : Backlog Request
  lastId : Nat
  driving : Driving
  shutdown : Bool
  bound : Bool
  fallback : Release

/-- The life of a session. -/
def Session.life (s : Session) : Life :=
  ⟨s.phase, s.queue, s.lastId, s.driving, s.shutdown, s.bound, s.fallback⟩

/-- What a call has seen of the life of the session, or done to it: nothing that counts; found it not
started; started its parties; asked its question; let a request in; queued it or not; moved the
session to a phase in which the queue has to be closed; closed it for good; fired the shutdown
signal; found the session disposed or disposed of it. -/
inductive Station where
  | aside
  | opening
  | asking
  | opened
  | pushing
  | pushed (result : Except SessionFailure Nat)
  | closing (target : Phase)
  | cancelling
  | shutting
  | through

/-- Whether a station is on the way from the last move of the phase to the end of the call. -/
def Station.isEnding : Station → Bool
  | closing _ => true
  | cancelling => true
  | shutting => true
  | _ => false

/-- Whether a station is one of a call that holds the lifecycle lock. -/
def Station.isLocked : Station → Bool
  | opening => true
  | asking => true
  | opened => true
  | station => station.isEnding

/-- The station of an abort. -/
def Aborting.station : Aborting → Station
  | closing => .closing .aborting
  | _ => .aside

/-- The station of a dispose. -/
def Disposing.station : Disposing → Station
  | checking => .aside
  | aborting stage => stage.station
  | moving => .aside
  | closing => .closing .disposed
  | cancelling => .cancelling
  | finished => .through
  | _ => .shutting

/-- The station of a start. -/
def Starting.station : Starting → Station
  | checking => .aside
  | spawning => .opening
  | asking => .asking
  | failing _ stage => stage.station
  | finished _ => .aside
  | _ => .opened

/-- The station of a submission. -/
def Submitting.station : Submitting → Station
  | checking => .aside
  | pushing => .pushing
  | finished result => .pushed result

/-- The station of a call. -/
def Call.station : Call → Station
  | start (.inside stage) => stage.station
  | submit _ stage => stage.station
  | abort (.inside stage) => stage.station
  | dispose (.inside stage) => stage.station
  | _ => .aside

/-- The station of a call that may have returned. -/
def Call.stationOf (next : Option Call) : Station :=
  next.elim .aside Call.station

/-! ### Steps from station to station -/

/-- A life with one more request in the queue. -/
def Life.accept (l : Life) (payload : Payload) : Life :=
  { l with lastId := l.lastId + 1, queue := ⟨l.queue.items ++ [⟨l.lastId + 1, payload⟩], false⟩ }

/-- What a step of a call does to the life of the session, from one station to another. The flag says
whether the call holds the lifecycle lock. -/
inductive Life.Step (l : Life) (held : Bool) : Station → Life → Station → Prop
  | stay (station : Station) : Step l held station l station
  | leave (station : Station) (free : station.isEnding = false) : Step l held station l .aside
  | found (first : held = true) (disposed : l.phase = .disposed) : Step l held .aside l .through
  | look (first : held = true) (fresh : l.phase = .notStarted) : Step l held .aside l .opening
  | letIn (accepts : l.phase.accepts = true) : Step l held .aside l .pushing
  | turnDown (refuses : l.phase.accepts = false) :
      Step l held .aside l (.pushed (.error l.phase.refusal))
  | spawn (first : held = true) (free : l.driving = .unborn) :
      Step l held .opening { l with driving := .waiting } .asking
  | ask (first : held = true) (opened : l.queue.closed = false) :
      Step l held .asking (l.accept (.startup l.fallback)) .opened
  | unasked (first : held = true) (closed : l.queue.closed = true) :
      Step l held .asking { l with lastId := l.lastId + 1 } .aside
  | accept (payload : Payload) (opened : l.queue.closed = false) :
      Step l held .pushing (l.accept payload) (.pushed (.ok (l.lastId + 1)))
  | refuse (error : SessionFailure) (closed : l.queue.closed = true) :
      Step l held .pushing { l with lastId := l.lastId + 1 } (.pushed (.error error))
  | ready (first : held = true) (leads : l.phase.leadsTo .ready = true) :
      Step l held .opened { l with phase := .ready } .aside
  | turn (target : Phase) (first : held = true) (leads : l.phase.leadsTo target = true)
      (last : target = .aborting ∨ target = .disposed) :
      Step l held .aside { l with phase := target } (.closing target)
  | again (first : held = true) (disposed : l.phase = .disposed) :
      Step l held .aside l (.closing .disposed)
  | close (target : Phase) (first : held = true) :
      Step l held (.closing target) { l with queue := l.queue.close } .aside
  | conclude (first : held = true) :
      Step l held (.closing .disposed) { l with queue := l.queue.close } .cancelling
  | cancel (first : held = true) : Step l held .cancelling { l with shutdown := true } .shutting
  | drain (first : held = true) (free : l.driving = .unborn) :
      Step l held .shutting { l with queue := ⟨[], true⟩, driving := .exited } .shutting
  | unbind (first : held = true) : Step l held .shutting { l with bound := false } .through

/-! ### Stages -/

section Stages

variable {s t : Session} {caller : Nat}

/-- Only a lifecycle call or a submission touches the life of a session. -/
theorem Effect.same_life {order : Order} {before after : Bool} (effect : Effect s order before t after)
    (spares : order.aborts = false) (silent : ∀ payload, order ≠ .submit payload) :
    t.life = s.life := by
  have calm : order.aborts ≠ true := by
    rw [spares]
    exact Bool.false_ne_true
  have unasked : ∀ payload, ¬ (order = .submit payload ∨
      order = .start ∧ payload = .startup s.fallback) := by
    rintro payload (same | ⟨rfl, _⟩)
    · exact silent payload same
    · exact calm rfl
  cases effect with
  | spawn asked => exact absurd (asked ▸ rfl) calm
  | accept payload asked => exact absurd asked (unasked payload)
  | refuse payload asked => exact absurd asked (unasked payload)
  | moveTo target asked => exact absurd (Order.aborts_of_movesTo asked) calm
  | close asked => exact absurd asked calm
  | cancel asked => exact absurd (Order.aborts_of_shuts asked) calm
  | drain asked => exact absurd (Order.aborts_of_shuts asked) calm
  | unbind asked => exact absurd (Order.aborts_of_shuts asked) calm
  | _ => rfl

theorem Session.Affects.same_life {order : Order} {before after : Bool}
    (affects : s.Affects order before t after) (spares : order.aborts = false)
    (silent : ∀ payload, order ≠ .submit payload) : t.life = s.life := by
  obtain ⟨u, effect, books⟩ := affects
  rw [books]
  exact effect.same_life spares silent

/-- A resume leaves the life of the session alone, whoever has asked for it. -/
theorem Resuming.step_life {verb : Verb} {stage next : Resuming}
    (stepped : stage.step caller verb s = some (t, next)) : t.life = s.life := by
  have affects : s.Affects (.resume verb) stage.grips t next.grips := step_effect rfl stepped
  exact affects.same_life rfl nofun

theorem Aborting.step_life {stage next : Aborting} (stepped : stage.step caller s = some (t, next)) :
    s.life.Step true stage.station t.life next.station := by
  cases goes_of_step stepped with
  | resume inner later t same =>
    rw [Resuming.step_life same]
    exact .stay _
  | move leads => exact .turn .aborting rfl leads (.inl rfl)
  | close => exact .close .aborting rfl
  | _ => exact .stay _

theorem Disposing.step_life {stage next : Disposing}
    (stepped : stage.step caller s = some (t, next)) :
    s.life.Step true stage.station t.life next.station := by
  cases goes_of_step stepped with
  | already disposed => exact .found rfl disposed
  | abort inner later t same => exact Aborting.step_life same
  | move leads => exact .turn .disposed rfl leads (.inr rfl)
  | stay leads => exact .again rfl (Phase.disposed_of_leadsTo leads)
  | close => exact .conclude rfl
  | cancel => exact .cancel rfl
  | drain free => exact .drain rfl free
  | unbind => exact .unbind rfl
  | _ => exact .stay _

theorem Starting.step_life {stage next : Starting}
    (stepped : stage.step caller s = some (t, next)) :
    s.life.Step true stage.station t.life next.station := by
  cases goes_of_step stepped with
  | first phase => exact .look rfl phase
  | late | again | hear | choose | record => exact .stay _
  | spawn bound free => exact .spawn rfl free
  | ask opened => exact .ask rfl opened
  | refuse closed => exact .unasked rfl closed
  | move release leads => exact .ready rfl leads
  | dispose error inner later t same => exact Disposing.step_life same
  | _ => exact .leave _ rfl

theorem Submitting.step_life {payload : Payload} {stage next : Submitting} {held : Bool}
    (stepped : stage.step payload s = some (t, next)) :
    s.life.Step held stage.station t.life next.station := by
  cases goes_of_step stepped with
  | letIn accepts => exact .letIn accepts
  | bar refuses => exact .turnDown refuses
  | push opened => exact .accept payload opened
  | refuse closed => exact .refuse s.lateRefusal closed

end Stages

/-! ### Calls -/

namespace Session

variable {s t : Session} {caller : Nat}

/-- A step of the call with a number, as far as the life of the session goes. -/
structure Ages (s : Session) (caller : Nat) (call : Call) (next : Option Call) (t : Session) : Prop
    where
  calls : t.calls = s.callsBehind caller next
  order : ∀ later, next = some later → later.order = call.order
  step : s.life.Step (holds s.lifecycle caller) call.station t.life (Call.stationOf next)

/-- A call that goes on at a later stage. -/
theorem ages_proceed {u : Session} {call later : Call} (calls : u.calls = s.calls)
    (order : later.order = call.order)
    (step : s.life.Step (holds s.lifecycle caller) call.station u.life later.station) :
    s.Ages caller call (some later) (u.proceed caller later) where
  calls := by
    show u.calls.map _ = s.calls.map _
    rw [calls]
  order := fun _ same => Option.some.inj same ▸ order
  step := step

/-- A call that returns. -/
theorem ages_giveBack {call : Call} (free : call.station.isEnding = false)
    (reply : Except SessionFailure Reply) : s.Ages caller call none (s.giveBack caller reply) where
  calls := rfl
  order := fun _ same => by cases same
  step := .leave _ free

/-- A stage of a call takes it from one station to another. -/
theorem life_of_goes {u : Session} {call later : Call} (goes : call.Goes caller s u later) :
    s.life.Step (holds s.lifecycle caller) call.station u.life later.station := by
  have affects := goes.affects
  cases goes with
  | start stage next u held stepped => exact held ▸ Starting.step_life stepped
  | submit payload stage next u stepped => exact Submitting.step_life stepped
  | abort stage next u held stepped => exact held ▸ Aborting.step_life stepped
  | dispose stage next u held stepped => exact held ▸ Disposing.step_life stepped
  | _ =>
    rw [affects.same_life rfl nofun]
    exact .stay _

/-- **Every step of a call takes it from one station to another.** -/
theorem advance_life (moved : s.advance caller = some t) :
    ∃ call next, (caller, call) ∈ s.calls ∧ s.advanceCall caller call = some t ∧
      s.Ages caller call next t := by
  obtain ⟨call, found, moved⟩ := Option.bind_eq_some_iff.mp moved
  suffices ages : ∃ next, s.Ages caller call next t by
    obtain ⟨next, ages⟩ := ages
    exact ⟨call, next, mem_of_lookup found, moved, ages⟩
  cases takes_of_advanceCall moved with
  | line later lines => cases lines <;> exact ⟨_, ages_proceed rfl rfl (.stay _)⟩
  | stage u later goes =>
    exact ⟨some later, ages_proceed goes.affects.same_calls goes.order (life_of_goes goes)⟩
  | reply result returns => cases returns <;> exact ⟨none, ages_giveBack rfl _⟩
  | pause asked =>
    subst asked
    obtain ⟨_, _, _, calls, _⟩ := s.pauseEngine_effect.same_books
    have life : s.pauseEngine.1.life = s.life := s.pauseEngine_effect.same_life rfl nofun
    refine ⟨none, ?_, (fun _ other => by cases other), ?_⟩
    · show s.pauseEngine.1.calls.filter _ = s.calls.filter _
      rw [calls]
    · show s.life.Step _ _ s.pauseEngine.1.life _
      rw [life]
      exact .stay _

/-! ### What calls return -/

/-- **A call returns what it has come to.** -/
theorem advanceCall_replies {call : Call} (moved : s.advanceCall caller call = some t) :
    t.replies = s.replies ∨
    (∃ reply, call.Returns reply ∧ t = s.giveBack caller reply) ∨
    call = .pause ∧
      t = s.pauseEngine.1.giveBack caller (s.pauseEngine.2.map fun _ => Reply.done) := by
  cases takes_of_advanceCall moved with
  | line later lines => exact .inl rfl
  | stage u later goes => exact .inl goes.affects.same_replies
  | reply result returns => exact .inr (.inl ⟨result, returns, rfl⟩)
  | pause asked => exact .inr (.inr ⟨asked, rfl⟩)

/-! ### Waiting and locks -/

/-- A call that does not wait any longer stays at its station. -/
theorem station_of_expires {call later : Call} (expires : call.Expires later) :
    later.station = call.station := by
  cases expires with
  | dispose expires => cases expires <;> rfl
  | start error expires => cases expires <;> rfl

/-- A call at a station of the holder of the lifecycle lock holds it. -/
theorem locked_of_station {call : Call} (locked : call.station.isLocked = true) :
    call.isLocked = true := by
  have aborting : ∀ stage : Aborting, stage.station.isLocked = true → stage.isLocked = true := by
    intro stage
    cases stage <;> first | exact fun _ => rfl | exact id
  have disposing : ∀ stage : Disposing, stage.station.isLocked = true → stage.isLocked = true := by
    intro stage
    cases stage <;> first | exact fun _ => rfl | exact id
  cases call with
  | start stage =>
    cases stage with
    | entering => cases locked
    | inside stage => cases stage <;> first | rfl | exact locked
  | abort stage =>
    cases stage with
    | entering => cases locked
    | inside stage => exact aborting stage locked
  | dispose stage =>
    cases stage with
    | entering => cases locked
    | inside stage => exact disposing stage locked
  | submit payload stage => cases stage <;> cases locked
  | _ => cases locked

end Session

end ShellSession
