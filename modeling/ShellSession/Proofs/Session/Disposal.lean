/-
**What a dispose has done when it returns.**

A dispose moves the session to its last phase, closes the queue, fires the shutdown signal, and waits
for the driver, who turns away what is queued on its way out. The dispose does not wait for ever, so
the driver may still be held up in an attempt when it returns.

* `Disposing.progress`, `Call.disposing?`: how far a dispose has come;
* `Session.phase_after`: who changes the phase, and where it leads;
* `Milestone`: something that a dispose makes true at one of its stages, for good;
* `Session.Passed`: behind that stage it is true, also for a dispose that finds the work done;
* `Course.returned`: **what is true when a dispose has returned**.
-/

import ShellSession.Proofs.Session.Locks
import ShellSession.Proofs.Session.Outcome

namespace ShellSession

/-! ### The stages of a dispose -/

/-- How far a dispose has come; nothing lasting is done before the phase has changed. -/
def Disposing.progress : Disposing → Nat
  | checking => 0
  | aborting _ => 0
  | moving => 0
  | closing => 1
  | cancelling => 2
  | draining => 3
  | awaitingDriver => 4
  | awaitingListener => 5
  | unbinding => 6
  | finished => 7

/-- The dispose that a call carries out. -/
def Call.disposing? : Call → Option Disposing
  | dispose (.inside stage) => some stage
  | start (.inside (.failing _ stage)) => some stage
  | _ => none

/-- A dispose on its way holds the lifecycle lock. -/
theorem Call.locked_of_disposing {call : Call} {stage : Disposing}
    (disposing : call.disposing? = some stage) (begun : 0 < stage.progress)
    (going : stage.progress < 7) : call.isLocked = true := by
  have held : stage.isLocked = true := by
    cases stage with
    | checking => exact absurd begun (Nat.lt_irrefl 0)
    | finished => exact absurd going (Nat.lt_irrefl 7)
    | _ => rfl
  unfold Call.disposing? at disposing
  split at disposing
  · cases disposing
    exact held
  · rfl
  · cases disposing

section Stages

variable {s t : Session} {caller : Nat}

/-- Only an order that may shut the session down takes its engine away. -/
theorem Effect.bound {order : Order} {before after : Bool} (effect : Effect s order before t after)
    (spares : order.shuts = false) : t.bound = s.bound := by
  cases effect with
  | unbind asked => exact absurd (spares.symm.trans asked) Bool.false_ne_true
  | _ => rfl

/-- Only an order that may shut the session down moves it to its last phase. -/
theorem Effect.undisposed {order : Order} {before after : Bool}
    (effect : Effect s order before t after) (spares : order.shuts = false)
    (disposed : t.phase = .disposed) : s.phase = .disposed := by
  cases effect with
  | moveTo target asked leads =>
    have last : target = .disposed := disposed
    rw [last] at asked
    exact absurd (spares.symm.trans asked) Bool.false_ne_true
  | _ => exact disposed

theorem Session.Affects.phase {order : Order} {before after : Bool}
    (affects : s.Affects order before t after) (spares : order.shuts = false)
    (disposed : t.phase = .disposed) : s.phase = .disposed := by
  obtain ⟨u, effect, same⟩ := affects
  rw [same] at disposed
  exact effect.undisposed spares disposed

theorem Session.Affects.bound {order : Order} {before after : Bool}
    (affects : s.Affects order before t after) (spares : order.shuts = false) :
    t.bound = s.bound := by
  obtain ⟨u, effect, same⟩ := affects
  rw [same]
  exact effect.bound spares

/-- Every phase but the last leads to the last one. -/
theorem Phase.disposed_of_leadsTo {phase : Phase} (leads : phase.leadsTo .disposed = false) :
    phase = .disposed := by
  cases phase <;> first | rfl | cases leads

/-- **A dispose goes through its stages one by one**, once the phase has changed. Before that it may
find the session disposed already. -/
theorem Disposing.step_progress {stage next : Disposing}
    (stepped : stage.step caller s = some (t, next)) :
    (0 < stage.progress ∧ next.progress = stage.progress + 1 ∧ t.phase = s.phase) ∨
    (stage.progress = 0 ∧ next.progress = 0 ∧ (t.phase = .disposed → s.phase = .disposed)) ∨
    (stage.progress = 0 ∧ next.progress = 1 ∧ t.phase = .disposed) ∨
    (stage.progress = 0 ∧ next = finished ∧ s.phase = .disposed ∧ t = s) := by
  cases goes_of_step stepped with
  | already disposed => exact .inr (.inr (.inr ⟨rfl, rfl, disposed, rfl⟩))
  | busy | free | aborted => exact .inr (.inl ⟨rfl, rfl, id⟩)
  | abort inner later t same =>
    have affects : s.Affects .abort inner.grips t later.grips := Aborting.step_effect rfl same
    exact .inr (.inl ⟨rfl, rfl, affects.phase rfl⟩)
  | move leads => exact .inr (.inr (.inl ⟨rfl, rfl, rfl⟩))
  | stay leads => exact .inr (.inr (.inl ⟨rfl, rfl, Phase.disposed_of_leadsTo leads⟩))
  | close => exact .inl ⟨Nat.le_refl 1, rfl, rfl⟩
  | cancel => exact .inl ⟨Nat.le_add_left 1 1, rfl, rfl⟩
  | drain | leave => exact .inl ⟨Nat.le_add_left 1 2, rfl, rfl⟩
  | driverOver ended => exact .inl ⟨Nat.le_add_left 1 3, rfl, rfl⟩
  | listenerOver ended => exact .inl ⟨Nat.le_add_left 1 4, rfl, rfl⟩
  | unbind => exact .inl ⟨Nat.le_add_left 1 5, rfl, rfl⟩

/-- A dispose takes the engine away in its last step. -/
theorem Disposing.step_bound {stage next : Disposing}
    (stepped : stage.step caller s = some (t, next)) : t.bound = s.bound ∨ stage = unbinding := by
  cases goes_of_step stepped with
  | abort inner later t same =>
    have affects : s.Affects .abort inner.grips t later.grips := Aborting.step_effect rfl same
    exact .inl (affects.bound rfl)
  | unbind => exact .inr rfl
  | _ => exact .inl rfl

end Stages

/-! ### Steps of calls, seen from a dispose -/

/-- A step of the call with a number, as far as disposing is concerned: a step of a dispose, or one
with which no dispose goes on, though one may begin. -/
inductive Session.Disposes (s : Session) (caller : Nat) (call : Call) (next : Option Call)
    (t : Session) : Prop
  | stage (now later : Disposing) (u : Session) (disposing : call.disposing? = some now)
      (goes : next.bind Call.disposing? = some later) (held : holds s.lifecycle caller = true)
      (stepped : now.step caller s = some (u, later)) (books : u.Books t) :
      Disposes s caller call next t
  | aside (concluded : ∀ now, call.disposing? = some now → now = .finished)
      (waits : ∀ later, next.bind Call.disposing? = some later → later = .checking)
      (phase : t.phase = .disposed → s.phase = .disposed) (bound : t.bound = s.bound)
      (returned : next = none → call.order = .dispose → call.disposing? = some .finished) :
      Disposes s caller call next t

/-- A dispose returns when it is finished, and no other call that returns has one under way. -/
theorem Call.Returns.disposing {call : Call} {result : Except SessionFailure Reply}
    (returns : call.Returns result) : (∀ now, call.disposing? = some now → now = .finished) ∧
      (call.order = .dispose → call.disposing? = some .finished) := by
  cases returns with
  | dispose => exact ⟨fun _ same => (Option.some.inj same).symm, fun _ => rfl⟩
  | _ => exact ⟨(fun _ other => by cases other), fun other => by cases other⟩

namespace Session

variable {s t : Session} {caller : Nat}

/-- A stage of a call is one of a dispose, or no dispose goes on with it. -/
theorem stage_disposes {call later : Call} {u : Session} (goes : call.Goes caller s u later) :
    s.Disposes caller call (some later) (u.proceed caller later) := by
  have affects := goes.affects
  cases goes with
  | start stage next u held stepped =>
    cases Starting.goes_of_step stepped with
    | dispose error now next u same => exact .stage now next u rfl rfl held same rfl
    | move release leads =>
      exact .aside (fun _ other => by cases other) (fun _ other => by cases other)
        (fun other => by cases other) rfl fun other => by cases other
    | _ =>
      exact .aside (fun _ other => by cases other <;> rfl) (fun _ other => by cases other <;> rfl)
        id rfl fun other => by cases other
  | dispose stage next u held stepped => exact .stage stage next u rfl rfl held stepped rfl
  | _ =>
    exact .aside (fun _ other => by cases other) (fun _ other => by cases other)
      (affects.phase rfl) (affects.bound rfl) fun other => by cases other

theorem advance_disposes (moved : s.advance caller = some t) :
    ∃ call next, (caller, call) ∈ s.calls ∧ t.calls = s.callsBehind caller next ∧
      (∀ later, next = some later → later.order = call.order) ∧
      s.Disposes caller call next t := by
  obtain ⟨call, found, moved⟩ := Option.bind_eq_some_iff.mp moved
  have mine := mem_of_lookup found
  cases takes_of_advanceCall moved with
  | line later lines =>
    refine ⟨call, some later, mine, rfl, fun _ same => Option.some.inj same ▸ lines.order, ?_⟩
    cases lines <;> exact .aside (fun _ other => by cases other)
      (fun _ other => by cases other <;> rfl) id rfl fun other => by cases other
  | stage u later goes =>
    refine ⟨call, some later, mine, ?_, fun _ same => Option.some.inj same ▸ goes.order,
      stage_disposes goes⟩
    show u.calls.map _ = s.calls.map _
    rw [goes.affects.same_calls]
  | reply result returns =>
    obtain ⟨last, returned⟩ := returns.disposing
    exact ⟨call, none, mine, rfl, (fun _ other => by cases other),
      .aside last (fun _ other => by cases other) id rfl fun _ => returned⟩
  | pause asked =>
    subst asked
    obtain ⟨_, _, _, calls, _⟩ := s.pauseEngine_effect.same_books
    refine ⟨.pause, none, mine, ?_, (fun _ other => by cases other),
      .aside (fun _ other => by cases other) (fun _ other => by cases other)
        (s.pauseEngine_effect.undisposed rfl) (s.pauseEngine_effect.bound rfl)
        fun _ other => by cases other⟩
    show s.pauseEngine.1.calls.filter _ = s.calls.filter _
    rw [calls]

end Session

/-- A dispose that waits has fired the signal. -/
theorem Disposing.Expires.progress {now later : Disposing} (expires : now.Expires later) :
    later.progress = now.progress + 1 ∧ (now.progress = 4 ∨ now.progress = 5) := by
  cases expires <;> decide

namespace Call.Expires

variable {call later : Call}

/-- A call that does not wait any longer carries out a dispose. -/
theorem disposes (expires : call.Expires later) : ∃ now next, call.disposing? = some now ∧
    later.disposing? = some next ∧ now.Expires next := by
  cases expires with
  | dispose expires => exact ⟨_, _, rfl, rfl, expires⟩
  | start error expires => exact ⟨_, _, rfl, rfl, expires⟩

theorem order (expires : call.Expires later) : later.order = call.order := by
  cases expires <;> rfl

theorem loose (expires : call.Expires later) : later.grips = false := by
  cases expires with
  | dispose expires => cases expires <;> rfl
  | start error expires => cases expires <;> rfl

end Call.Expires

/-! ### What lasts -/

/-- A queue that is closed stays closed. -/
theorem Handling.closed {d e : Desk} {said : Option Said} (handling : Handling d said e)
    (closed : d.queue.closed = true) : e.queue.closed = true := by
  cases handling with
  | accept payload opened =>
    rw [closed] at opened
    cases opened
  | close => rfl
  | turnAway free => rfl
  | _ => exact closed

/-- A driver that is gone stays away. -/
theorem Handling.exited {d e : Desk} {said : Option Said} (handling : Handling d said e)
    (gone : d.driving = .exited) : e.driving = .exited := by
  cases handling <;> first | exact gone | rfl | simp_all only [reduceCtorEq, or_self, exists_false]

/-- No effect gives a session its engine back. -/
theorem Effect.unbound {s t : Session} {order : Order} {before after : Bool}
    (effect : Effect s order before t after) (unbound : s.bound = false) : t.bound = false := by
  cases effect with
  | unbind asked => rfl
  | _ => exact unbound

/-- **The phase is changed by the driver, between ready and running, and by calls that may abort**, and
it goes where it leads. -/
theorem Session.phase_after {s t : Session} {move : Move} (moved : s.after move = some t) :
    t.phase = s.phase ∨
    (s.phase = .ready ∧ t.phase = .running ∨ s.phase = .running ∧ t.phase = .ready) ∨
    (∃ entry ∈ s.calls, entry.2.order.aborts = true) ∧ s.phase.leadsTo t.phase = true := by
  cases moves_of_after moved with
  | call caller moved =>
    obtain ⟨call, next, found, advances⟩ := advance_advances moved
    obtain ⟨u, effect, books⟩ := advances.effect
    have phase : t.phase = u.phase := by rw [books]
    rw [phase]
    exact effect.phase.imp_right fun ⟨aborts, leads⟩ =>
      .inr ⟨⟨_, mem_of_lookup found, aborts⟩, leads⟩
  | driver moved _ => exact (drive_phase moved).imp_right .inl
  | order _ | timeout _ _ _ => exact .inl rfl
  | listener _ same | aside _ same => exact .inl (by rw [same])

/-- No move takes the phase where it does not lead. -/
theorem Session.leadsTo_after {s t : Session} {move : Move} (moved : s.after move = some t) :
    t.phase = s.phase ∨ s.phase.leadsTo t.phase = true := by
  rcases phase_after moved with same | (⟨before, behind⟩ | ⟨before, behind⟩) | ⟨_, leads⟩
  · exact .inl same
  · exact .inr (by rw [before, behind]; rfl)
  · exact .inr (by rw [before, behind]; rfl)
  · exact .inr leads

/-- A session that is disposed stays so. -/
theorem Session.disposed_after {s t : Session} {move : Move} (moved : s.after move = some t)
    (disposed : s.phase = .disposed) : t.phase = .disposed := by
  rcases leadsTo_after moved with same | leads
  · exact same.trans disposed
  · rw [disposed] at leads
    cases leads

/-- A session that does not refer to its engine any more never does again. -/
theorem Session.unbound_after {s t : Session} {move : Move} (moved : s.after move = some t)
    (unbound : s.bound = false) : t.bound = false := by
  cases moves_of_after moved with
  | call caller moved =>
    obtain ⟨_, _, _, advances⟩ := advance_advances moved
    obtain ⟨u, effect, books⟩ := advances.effect
    rw [books]
    exact effect.unbound unbound
  | order _ | timeout _ _ _ => exact unbound
  | driver _ same | listener _ same | aside _ same => rw [same]; exact unbound

/-! ### Milestones -/

/-- Something about a session that a dispose makes true at a stage, and that stays true. -/
structure Milestone (stage : Nat) (reached : Session → Prop) : Prop where
  within : stage < 7
  lasting : ∀ {s t : Session} {move : Move}, s.after move = some t → reached s → reached t
  achieved : ∀ {s t u : Session} {caller : Nat} {now later : Disposing}, now.progress = stage →
    later.progress = stage + 1 → now.step caller s = some (u, later) → u.Books t → reached t

namespace Milestone

/-- A dispose moves the session to its last phase. -/
theorem disposed : Milestone 0 fun s => s.phase = .disposed where
  within := by decide
  lasting := Session.disposed_after
  achieved := by
    intro s t u caller now later stage further stepped books
    rw [books]
    rcases Disposing.step_progress stepped with ⟨begun, _, _⟩ | ⟨_, start, _⟩ | ⟨_, _, disposed⟩ |
      ⟨_, rfl, _, _⟩
    · omega
    · omega
    · exact disposed
    · cases further

/-- A dispose closes the queue. -/
theorem closed : Milestone 1 fun s => s.queue.closed = true where
  within := by decide
  lasting := fun moved => (Session.after_handling moved).closed
  achieved := by
    intro s t u caller now later stage _ stepped books
    rw [books]
    cases Disposing.goes_of_step stepped with
    | close => rfl
    | _ => cases stage

/-- A dispose fires the shutdown signal. -/
theorem fired : Milestone 2 fun s => s.shutdown = true where
  within := by decide
  lasting := fun moved => (Session.after_handling moved).shutdown
  achieved := by
    intro s t u caller now later stage _ stepped books
    rw [books]
    cases Disposing.goes_of_step stepped with
    | cancel => rfl
    | _ => cases stage

/-- A dispose that waits long enough sees the driver go. -/
theorem exited : Milestone 4 fun s => s.driving = .exited where
  within := by decide
  lasting := fun moved => (Session.after_handling moved).exited
  achieved := by
    intro s t u caller now later stage _ stepped books
    rw [books]
    cases Disposing.goes_of_step stepped with
    | driverOver ended => exact Driving.exited_of_over ended
    | _ => cases stage

/-- A dispose takes the session's engine away. -/
theorem unbound : Milestone 6 fun s => s.bound = false where
  within := by decide
  lasting := Session.unbound_after
  achieved := by
    intro s t u caller now later stage _ stepped books
    rw [books]
    cases Disposing.goes_of_step stepped with
    | unbind => rfl
    | _ => cases stage

end Milestone

/-! ### Behind a milestone -/

/-- Every dispose beyond a stage has reached a milestone; and as soon as the session is disposed, the
milestone is reached or some dispose is on its way to it. -/
structure Session.Passed (s : Session) (stage : Nat) (reached : Session → Prop) : Prop where
  beyond : ∀ entry ∈ s.calls, ∀ now, entry.2.disposing? = some now → stage < now.progress →
    reached s
  disposed : s.phase = .disposed → reached s ∨
    ∃ entry ∈ s.calls, ∃ now, entry.2.disposing? = some now ∧ 0 < now.progress ∧
      now.progress ≤ stage

namespace Session

variable {s t u : Session} {caller stage : Nat} {reached : Session → Prop}

namespace Passed

/-- A move that concerns neither calls nor the last phase. -/
theorem frame (passed : s.Passed stage reached) (lasting : reached s → reached t)
    (calls : t.calls = s.calls) (phase : t.phase = .disposed → s.phase = .disposed) :
    t.Passed stage reached := by
  refine ⟨?_, fun disposed => ?_⟩
  · rw [calls]
    exact fun entry member now disposing beyond =>
      lasting (passed.beyond entry member now disposing beyond)
  · rw [calls]
    exact (passed.disposed (phase disposed)).imp lasting id

/-- A step of a dispose. -/
theorem stage_step (passed : s.Passed stage reached) (milestone : Milestone stage reached)
    (orderly : s.Orderly) (lasting : reached s → reached t) {call : Call}
    {next : Option Call} (mine : (caller, call) ∈ s.calls)
    (calls : t.calls = s.callsBehind caller next) {now later : Disposing}
    (disposing : call.disposing? = some now) (goes : next.bind Call.disposing? = some later)
    (held : holds s.lifecycle caller = true) (stepped : now.step caller s = some (u, later))
    (books : u.Books t) : t.Passed stage reached := by
  obtain ⟨following, rfl, goes⟩ := Option.bind_eq_some_iff.mp goes
  have achieved : now.progress = stage → later.progress = stage + 1 → reached t :=
    fun same further => milestone.achieved same further stepped books
  have phase : t.phase = u.phase := by rw [books]
  -- A dispose that finds the session disposed holds the lock, so no other one is on its way.
  have found : now.progress = 0 → s.phase = .disposed → reached t := by
    intro start disposed
    rcases passed.disposed disposed with already | ⟨entry, member, other, same, begun, before⟩
    · exact lasting already
    · have locked := Call.locked_of_disposing same begun
        (Nat.lt_of_le_of_lt before milestone.within)
      have number := orderly.eq_of_locked member locked held
      have alike : entry = (caller, call) := orderly.eq_of_number member mine number
      rw [alike, disposing] at same
      cases same
      exact absurd begun (Nat.not_lt_of_le (Nat.le_of_eq start))
  have self : (caller, following) ∈ t.calls := by
    rw [calls]
    exact mem_callsBehind_self mine
  refine ⟨fun entry member other same beyond => ?_, fun disposed => ?_⟩
  · rw [calls] at member
    rcases mem_callsBehind member with ⟨_, old⟩ | ⟨_, ⟨⟩, rfl⟩
    · exact lasting (passed.beyond entry old other same beyond)
    · have alike : other = later := Option.some.inj (same.symm.trans goes)
      rw [alike] at beyond
      rcases Disposing.step_progress stepped with ⟨_, further, _⟩ | ⟨_, start, _⟩ |
        ⟨start, further, _⟩ | ⟨start, _, disposed, _⟩
      · by_cases before : now.progress = stage
        · exact achieved before (by omega)
        · exact lasting (passed.beyond _ mine now disposing (by omega))
      · omega
      · exact achieved (by omega) (by omega)
      · exact found start disposed
  · rw [phase] at disposed
    have reachable : s.phase = .disposed → later.progress = now.progress + 1 →
        reached t ∨ ∃ entry ∈ t.calls, ∃ other, entry.2.disposing? = some other ∧
          0 < other.progress ∧ other.progress ≤ stage := by
      intro before further
      by_cases begun : now.progress = 0
      · exact .inl (found begun before)
      · by_cases beyond : stage ≤ now.progress
        · rcases Nat.eq_or_lt_of_le beyond with same | beyond
          · exact .inl (achieved same.symm (by omega))
          · exact .inl (lasting (passed.beyond _ mine now disposing beyond))
        · exact .inr ⟨_, self, later, goes, by omega, by omega⟩
    rcases Disposing.step_progress stepped with ⟨_, further, same⟩ | ⟨start, _, same⟩ |
      ⟨start, further, _⟩ | ⟨start, _, before, _⟩
    · exact reachable (same.symm.trans disposed) further
    · exact .inl (found start (same disposed))
    · by_cases first : stage = 0
      · exact .inl (achieved (by omega) (by omega))
      · exact .inr ⟨_, self, later, goes, by omega, by omega⟩
    · exact .inl (found start before)

/-- A step of a call with which no dispose goes on. -/
theorem aside_step (passed : s.Passed stage reached) (milestone : Milestone stage reached)
    (orderly : s.Orderly) (lasting : reached s → reached t) {call : Call}
    {next : Option Call} (mine : (caller, call) ∈ s.calls)
    (calls : t.calls = s.callsBehind caller next)
    (concluded : ∀ now, call.disposing? = some now → now = .finished)
    (waits : ∀ later, next.bind Call.disposing? = some later → later = .checking)
    (phase : t.phase = .disposed → s.phase = .disposed) : t.Passed stage reached := by
  refine ⟨fun entry member now disposing beyond => ?_, fun disposed => ?_⟩
  · rw [calls] at member
    rcases mem_callsBehind member with ⟨_, old⟩ | ⟨later, same, rfl⟩
    · exact lasting (passed.beyond entry old now disposing beyond)
    · rw [waits now (by rw [same]; exact disposing)] at beyond
      exact absurd beyond (Nat.not_lt_zero stage)
  · rcases passed.disposed (phase disposed) with already | ⟨entry, member, now, same, begun, before⟩
    · exact .inl (lasting already)
    · refine .inr ⟨entry, ?_, now, same, begun, before⟩
      rw [calls]
      refine mem_callsBehind_of_ne member fun number => ?_
      have alike : entry = (caller, call) := orderly.eq_of_number member mine number
      rw [alike] at same
      rw [concluded now same] at before
      exact absurd milestone.within (Nat.not_lt_of_le before)

/-- A dispose that does not wait any longer. -/
theorem expire (passed : s.Passed stage reached) (patient : stage ≠ 4 ∧ stage ≠ 5)
    {call following : Call} (lasting : reached s → reached (s.proceed caller following))
    (orderly : s.Orderly) (mine : (caller, call) ∈ s.calls) (expires : call.Expires following) :
    (s.proceed caller following).Passed stage reached := by
  obtain ⟨now, later, disposing, goes, waited⟩ := expires.disposes
  have further := waited.progress
  refine ⟨fun entry member other disposes beyond => ?_, fun disposed => ?_⟩
  · rcases mem_proceed member with ⟨_, old⟩ | rfl
    · exact lasting (passed.beyond entry old other disposes beyond)
    · have alike : other = later := Option.some.inj (disposes.symm.trans goes)
      rw [alike] at beyond
      exact lasting (passed.beyond _ mine now disposing (by omega))
  · rcases passed.disposed disposed with already | ⟨entry, member, other, disposes, begun, before⟩
    · exact .inl (lasting already)
    · by_cases number : entry.1 = caller
      · have alike : entry = (caller, call) := orderly.eq_of_number member mine number
        rw [alike, disposing] at disposes
        cases disposes
        exact .inr ⟨(caller, following), mem_proceed_self mine, later, goes, by omega, by omega⟩
      · exact .inr ⟨entry, mem_proceed_of_ne member number, other, disposes, begun, before⟩

end Passed

/-- A step of the driver does not make the session disposed. -/
theorem drive_undisposed (moved : s.drive = some t) (disposed : t.phase = .disposed) :
    s.phase = .disposed := by
  rcases drive_phase moved with same | ⟨_, after⟩ | ⟨_, after⟩
  · exact same.symm.trans disposed
  · rw [disposed] at after
    cases after
  · rw [disposed] at after
    cases after

/-- **What a dispose has made true stays true, and every dispose beyond that stage finds it so.** -/
theorem passed_after {move : Move} (milestone : Milestone stage reached) (orderly : s.Orderly)
    (patient : stage ≠ 4 ∧ stage ≠ 5 ∨ ∀ caller, move ≠ .act (.timeout caller))
    (passed : s.Passed stage reached) (moved : s.after move = some t) :
    t.Passed stage reached := by
  have lasting : reached s → reached t := milestone.lasting moved
  cases moves_of_after moved with
  | call caller moved =>
    obtain ⟨call, next, mine, calls, _, disposes⟩ := advance_disposes moved
    cases disposes with
    | stage now later u disposing goes held stepped books =>
      exact passed.stage_step milestone orderly lasting mine calls disposing goes held stepped books
    | aside concluded waits phase bound returned =>
      exact passed.aside_step milestone orderly lasting mine calls concluded waits phase
  | timeout caller mine expires =>
    exact passed.expire (patient.resolve_right fun never => never caller rfl) lasting orderly mine
      expires
  | driver moved same => exact passed.frame lasting (by rw [same]) (drive_undisposed moved)
  | listener _ same | aside _ same =>
    exact passed.frame lasting (by rw [same]) (by rw [same]; exact id)
  | order order =>
    have grown : ∀ entry ∈ s.calls ++ [(s.lastCall + 1, order.call)], ∀ now,
        entry.2.disposing? = some now → entry ∈ s.calls := by
      intro entry member now disposing
      rcases List.mem_append.mp member with old | new
      · exact old
      · rw [List.mem_singleton.mp new] at disposing
        cases order <;> cases disposing
    refine ⟨fun entry member now disposing beyond => ?_, fun disposed => ?_⟩
    · exact lasting (passed.beyond entry (grown entry member now disposing) now disposing beyond)
    · refine (passed.disposed disposed).imp lasting ?_
      rintro ⟨entry, member, rest⟩
      exact ⟨entry, List.mem_append_left _ member, rest⟩

theorem passed_fresh (settings : Settings) (fallback : Release) (hosted : HostedEngine)
    (stage : Nat) (reached : Session → Prop) :
    (fresh settings fallback hosted).Passed stage reached :=
  ⟨(fun _ member => by cases member), fun other => by cases other⟩

/-- A dispose goes on as a dispose until the milestone is behind it. -/
theorem dispose_after {move : Move} (milestone : Milestone stage reached)
    (passed : s.Passed stage reached) (moved : s.after move = some t)
    (going : (∃ stage, (caller, Call.dispose stage) ∈ s.calls) ∨ reached s)
    (orderly : s.Orderly) :
    (∃ stage, (caller, Call.dispose stage) ∈ t.calls) ∨ reached t := by
  have lasting : reached s → reached t := milestone.lasting moved
  rcases going with ⟨guarded, mine⟩ | already
  · cases moves_of_after moved with
    | call other moved =>
      obtain ⟨call, next, theirs, calls, order, disposes⟩ := advance_disposes moved
      rw [calls]
      by_cases apart : caller = other
      · subst apart
        have same : call = .dispose guarded :=
          congrArg Prod.snd (orderly.eq_of_number theirs mine rfl)
        subst same
        cases next with
        | some later =>
          have disposing := order later rfl
          cases later with
          | dispose following => exact .inl ⟨following, mem_callsBehind_self mine⟩
          | _ => cases disposing
        | none =>
          cases disposes with
          | stage now later u disposing goes held stepped books => cases goes
          | aside concluded waits phase bound returned =>
            refine .inr (lasting (passed.beyond _ mine .finished (returned rfl rfl) ?_))
            exact milestone.within
      · exact .inl ⟨guarded, mem_callsBehind_of_ne mine apart⟩
    | timeout other theirs expires =>
      by_cases apart : caller = other
      · subst apart
        cases orderly.eq_of_number theirs mine rfl
        cases expires
        exact .inl ⟨_, mem_proceed_self mine⟩
      · exact .inl ⟨guarded, mem_proceed_of_ne mine apart⟩
    | order order => exact .inl ⟨guarded, List.mem_append_left _ mine⟩
    | driver _ same | listener _ same | aside _ same =>
      refine .inl ⟨guarded, ?_⟩
      rw [same]
      exact mine
  · exact .inr (lasting already)

end Session

/-! ### A dispose that has returned -/

/-- Only a dispose in its last step takes the engine away. -/
theorem Session.bound_after {s t : Session} {move : Move} (moved : s.after move = some t) :
    t.bound = s.bound ∨ ∃ entry ∈ s.calls, entry.2.disposing? = some .unbinding := by
  cases moves_of_after moved with
  | call caller moved =>
    obtain ⟨call, next, mine, _, _, disposes⟩ := advance_disposes moved
    cases disposes with
    | stage now later u disposing goes held stepped books =>
      rcases Disposing.step_bound stepped with same | rfl
      · rw [books]
        exact .inl same
      · exact .inr ⟨_, mine, disposing⟩
    | aside concluded waits phase bound returned => exact .inl bound
  | order _ | timeout _ _ _ => exact .inl rfl
  | driver _ same | listener _ same | aside _ same => exact .inl (by rw [same])

/-- An environment in which every dispose waits as long as it takes. -/
def Environment.Patient (env : Environment) : Prop :=
  ∀ s caller, ¬ env s (.act (.timeout caller))

namespace Course

variable {env : Environment} {s t u : Session} {i j k : Journal}

/-- Calls are in order along every course. -/
theorem orderly (course : Course env s j k t) (orderly : s.Orderly) : t.Orderly :=
  course.invariant (fun t _ => t.Orderly) (fun _ orderly _ moved => Session.orderly_after orderly moved)
    orderly

/-- A session refers to its engine until it is disposed. -/
theorem bound_or_disposed (course : Course env s j k t) (orderly : s.Orderly)
    (passed : s.Passed 0 fun s => s.phase = .disposed) (bound : s.bound = true) :
    t.bound = true ∨ t.phase = .disposed := by
  refine (course.invariant (fun t _ => t.Orderly ∧ (t.Passed 0 fun s => s.phase = .disposed) ∧
    (t.bound = true ∨ t.phase = .disposed)) ?_ ⟨orderly, passed, .inl bound⟩).2.2
  rintro t u k move ⟨orderly, passed, place⟩ allowed moved
  refine ⟨Session.orderly_after orderly moved,
    Session.passed_after .disposed orderly (.inl (by decide)) passed moved, ?_⟩
  rcases place with bound | disposed
  · rcases Session.bound_after moved with same | ⟨entry, member, unbinding⟩
    · exact .inl (same.trans bound)
    · exact .inr (Session.disposed_after moved (passed.beyond entry member _ unbinding (by decide)))
  · exact .inr (Session.disposed_after moved disposed)

/-- Every dispose has passed its milestones, along every course. -/
theorem passed {stage : Nat} {reached : Session → Prop} (course : Course env s j k t)
    (milestone : Milestone stage reached) (patient : stage ≠ 4 ∧ stage ≠ 5 ∨ env.Patient)
    (orderly : s.Orderly) (passed : s.Passed stage reached) : t.Passed stage reached := by
  refine (course.invariant (fun t _ => t.Orderly ∧ t.Passed stage reached) ?_
    ⟨orderly, passed⟩).2
  rintro t u k move ⟨orderly, passed⟩ allowed moved
  have waits : stage ≠ 4 ∧ stage ≠ 5 ∨ ∀ caller, move ≠ .act (.timeout caller) :=
    patient.imp id fun never caller same => never t caller (same ▸ allowed)
  exact ⟨Session.orderly_after orderly moved,
    Session.passed_after milestone orderly waits passed moved⟩

/-- **When a dispose has returned, its milestones are reached.** -/
theorem returned {settings : Settings} {hosted : HostedEngine} {stage : Nat}
    {reached : Session → Prop} (milestone : Milestone stage reached)
    (patient : stage ≠ 4 ∧ stage ≠ 5 ∨ env.Patient) (created : Session.create settings hosted = .ok s)
    (before : Course env s .empty i t) (after : Course env (t.begin Session.dispose).2 j k u)
    (returned : (u.reply? (t.begin Session.dispose).1).isSome = true) : reached u := by
  obtain ⟨fallback, _, rfl⟩ := Session.fresh_of_create created
  have fresh := Session.orderly_fresh settings fallback hosted
  have orderly := before.orderly fresh
  have passed := before.passed milestone patient fresh
    (Session.passed_fresh settings fallback hosted stage reached)
  have begun : (t.begin Session.dispose).2.Passed stage reached :=
    Session.passed_after milestone orderly (.inr fun _ other => by cases other) passed
      (show t.after (.order .dispose) = _ from rfl)
  have kept := after.invariant (fun u _ => u.Orderly ∧ u.Passed stage reached ∧
    ((∃ guarded, ((t.begin Session.dispose).1, Call.dispose guarded) ∈ u.calls) ∨ reached u))
    ?_ ⟨orderly.begin .dispose, begun,
      .inl ⟨.entering, List.mem_append_right _ (List.mem_singleton_self _)⟩⟩
  · obtain ⟨orderly, _, ⟨guarded, mine⟩ | already⟩ := kept
    · obtain ⟨reply, found⟩ := Option.isSome_iff_exists.mp returned
      exact absurd rfl ((orderly.returned _ (Session.mem_of_lookup found)).2 _ mine)
    · exact already
  · rintro v w _ move ⟨orderly, passed, going⟩ allowed moved
    have waits : stage ≠ 4 ∧ stage ≠ 5 ∨ ∀ caller, move ≠ .act (.timeout caller) :=
      patient.imp id fun never caller same => never v caller (same ▸ allowed)
    exact ⟨Session.orderly_after orderly moved,
      Session.passed_after milestone orderly waits passed moved,
      Session.dispose_after milestone passed moved going orderly⟩

end Course

end ShellSession
