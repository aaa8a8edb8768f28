/-
**The chronicle of stops.**

An observer of the pause writes down what becomes of stops: the listener records them and publishes
them, unless their reports have been dropped before it came to them; a call lifts the pause of one and
then ends it with its verb or fails to; and in the end the resume of the call has a result.

* `Deed`, `Session.deed?`: what is written down, move by move;
* `Session.Pumps`: **what a step of the listener comes to**, with what is written down of it;
* `Chronicle`: the moves from one session to another, with what is written down on the way;
* `Chronicle.Way`: the sessions that lie on the way;
* `Session.Marks`, `Session.marks_after`: **what a move is, as far as the pause is concerned**.
-/

import ShellSession.Proofs.Session.Following
import ShellSession.Proofs.Session.Suspension

namespace ShellSession

/-! ### Deeds -/

/-- What becomes of stops: one is recorded or published by the listener, or reports are dropped that
the listener has not come to in time; a call lifts the pause of a stop, ends it, or fails to; and the
resume of a call has a result. -/
inductive Deed where
  | recorded (stop : Stop)
  | published (stop : Stop)
  | dropped (reports : List Notice)
  | lifted (caller : Nat) (stop : Stop)
  | ended (caller : Nat) (stop : Stop)
  | failed (caller : Nat) (stop : Stop) (error : SessionFailure)
  | returned (caller : Nat) (result : Except SessionFailure Unit)

/-- The call that has done something. -/
def Deed.caller? : Deed → Option Nat
  | recorded _ => none
  | published _ => none
  | dropped _ => none
  | lifted caller _ => some caller
  | ended caller _ => some caller
  | failed caller _ _ => some caller
  | returned caller _ => some caller

/-- What a call does in a step of its resume. -/
def Standpoint.deed? (caller : Nat) : Standpoint → Standpoint → Option Deed
  | within .clearing, within (.applying stop) => some (.lifted caller stop)
  | within (.applying stop), within (.leaving (.ok _)) => some (.ended caller stop)
  | within (.applying stop), within (.leaving (.error error)) => some (.failed caller stop error)
  | within (.restoring stop error), _ => some (.failed caller stop error)
  | within (.finished result), _ => some (.returned caller result)
  | _, _ => none

/-- What the listener does in a step. -/
def Listening.deed? : Listening → Listening → Option Deed
  | reading _, publishing _ stop => some (.recorded stop)
  | publishing _ stop, _ => some (.published stop)
  | _, _ => none

/-- What a call does in its resume is done by that call. -/
theorem Standpoint.deed?_caller {caller : Nat} {before after : Standpoint} {deed : Deed}
    (done : before.deed? caller after = some deed) : deed.caller? = some caller := by
  unfold Standpoint.deed? at done
  split at done <;> cases done <;> rfl

/-- What the listener does is done by no call. -/
theorem Listening.deed?_caller {before after : Listening} {deed : Deed}
    (done : before.deed? after = some deed) : deed.caller? = none := by
  unfold Listening.deed? at done
  split at done <;> cases done <;> rfl

namespace Session

/-- The reports that are gone by the time the listener comes to read on: those behind what it has read,
up to the oldest one that the channel still holds. -/
def dropped (s : Session) : List Notice :=
  match s.listening with
  | .reading read =>
    if s.shutdown then []
    else
      let history := s.hosted.engine.history
      (history.toList.take (history.size - listenerCapacity)).drop read
  | _ => []

/-- What is written down of a step of the listener: that reports have been dropped, or what it does. -/
def heeded? (s t : Session) : Option Deed :=
  if s.dropped.isEmpty then s.listening.deed? t.listening else some (.dropped s.dropped)

/-- How far the call with a number is with its resume. -/
def standpoint (s : Session) (caller : Nat) : Standpoint :=
  .of (s.calls.lookup caller)

/-- What is written down of a move from `s` to `t`. -/
def deed? (s : Session) (move : Move) (t : Session) : Option Deed :=
  match move with
  | .act (.call caller) => (s.standpoint caller).deed? caller (t.standpoint caller)
  | .act .listener => s.heeded? t
  | _ => none

end Session

/-- The moves from one session to another that an environment allows, with what is written down of
stops on the way. -/
inductive Chronicle (env : Environment) (s : Session) : List Deed → Session → Prop
  | rest : Chronicle env s [] s
  | move {deeds : List Deed} {t u : Session} (move : Move) :
      Chronicle env s deeds t → env t move → t.after move = some u →
      Chronicle env s (deeds ++ (t.deed? move u).toList) u

namespace Chronicle

variable {env : Environment} {s t u : Session} {deeds more : List Deed}

/-- One chronicle behind another. -/
theorem trans (first : Chronicle env s deeds t) (second : Chronicle env t more u) :
    Chronicle env s (deeds ++ more) u := by
  induction second with
  | rest =>
    rw [List.append_nil]
    exact first
  | move m _ allowed same ih =>
    rw [← List.append_assoc]
    exact ih.move m allowed same

/-- **What every move preserves holds all along.** -/
theorem invariant (kept : Session → List Deed → Prop)
    (preserved : ∀ {t u deeds} move, kept t deeds → env t move → t.after move = some u →
      kept u (deeds ++ (t.deed? move u).toList))
    (chronicle : Chronicle env s deeds t) (holds : kept s []) : kept t deeds := by
  induction chronicle with
  | rest => exact holds
  | move m _ allowed same ih => exact preserved m ih allowed same

/-- A chronicle in an environment is one in every environment that allows more. -/
theorem weaken {wider : Environment} (more : ∀ t move, env t move → wider t move)
    (chronicle : Chronicle env s deeds t) : Chronicle wider s deeds t := by
  induction chronicle with
  | rest => exact .rest
  | move m _ allowed same ih => exact ih.move m (more _ _ allowed) same

/-- A chronicle is that of a course. -/
theorem course (chronicle : Chronicle env s deeds t) (j : Journal) : ∃ k, Course env s j k t := by
  induction chronicle with
  | rest => exact ⟨j, .rest⟩
  | move m _ allowed same ih =>
    obtain ⟨k, course⟩ := ih
    exact ⟨_, course.move m allowed same⟩

end Chronicle

/-- The sessions on the way from `s` to `t`. -/
def Chronicle.Way (env : Environment) (s t u : Session) : Prop :=
  (∃ before, Chronicle env s before u) ∧ ∃ behind, Chronicle env u behind t

namespace Chronicle

variable {env : Environment} {s t u v : Session} {deeds : List Deed}

/-- The last session lies on the way. -/
theorem way (chronicle : Chronicle env s deeds t) : Way env s t t :=
  ⟨⟨deeds, chronicle⟩, [], .rest⟩

/-- What lies on the way does so when the way goes on. -/
theorem Way.further {move : Move} (way : Way env s t v) (allowed : env t move)
    (moved : t.after move = some u) : Way env s u v :=
  ⟨way.1, way.2.imp' (· ++ (t.deed? move u).toList) fun _ behind => behind.move move allowed moved⟩

end Chronicle

/-- Every course has its chronicle. -/
theorem Course.chronicle {env : Environment} {s t : Session} {j k : Journal}
    (course : Course env s j k t) : ∃ deeds, Chronicle env s deeds t := by
  induction course with
  | rest => exact ⟨[], .rest⟩
  | move m _ allowed same ih =>
    obtain ⟨deeds, chronicle⟩ := ih
    exact ⟨_, chronicle.move m allowed same⟩

/-- The session behind a number of moves, where they are possible. -/
def Session.play (s : Session) (moves : List Move) : Option Session :=
  moves.foldlM Session.after s

/-- Moves that are possible and allowed have a chronicle. -/
theorem Session.exists_chronicle_play {env : Environment} {moves : List Move}
    (allowed : ∀ move ∈ moves, ∀ u, env u move) :
    ∀ {s t : Session}, s.play moves = some t → ∃ deeds, Chronicle env s deeds t := by
  induction moves with
  | nil =>
    intro s t played
    cases played
    exact ⟨[], .rest⟩
  | cons move rest ih =>
    intro s t played
    obtain ⟨u, moved, later⟩ := Option.bind_eq_some_iff.mp played
    obtain ⟨deeds, chronicle⟩ :=
      ih (fun other member => allowed other (List.mem_cons_of_mem _ member)) later
    exact ⟨_, (Chronicle.rest.move move (allowed move List.mem_cons_self s) moved).trans chronicle⟩

namespace Session

variable {s t u : Session} {caller : Nat} {move : Move}

/-! ### Standpoints by number -/

theorem standpoint_of_mem (orderly : s.Orderly) {call : Call} (mine : (caller, call) ∈ s.calls) :
    s.standpoint caller = call.standpoint := by
  unfold standpoint
  rw [orderly.lookup mine]
  rfl

theorem standpoint_of_none (none : ∀ call, (caller, call) ∉ s.calls) :
    s.standpoint caller = .behind := by
  unfold standpoint
  cases found : s.calls.lookup caller with
  | none => rfl
  | some call => exact absurd (mem_of_lookup found) (none call)

/-- A call that has taken a step is found where the step has left it. -/
theorem Advances.standpoint {call : Call} {next : Option Call}
    (advances : s.Advances caller call next t) (orderly : t.Orderly)
    (mine : (caller, call) ∈ s.calls) : t.standpoint caller = .of next := by
  cases next with
  | some later =>
    refine standpoint_of_mem orderly ?_
    rw [advances.calls]
    exact mem_callsBehind_self mine
  | none =>
    refine standpoint_of_none fun later member => ?_
    rw [advances.calls] at member
    rcases mem_callsBehind member with ⟨apart, _⟩ | ⟨_, other, _⟩
    · exact apart rfl
    · cases other

/-- The other calls are found where they were. -/
theorem standpoint_of_ne {other : Nat} {next : Option Call} (orderly : s.Orderly)
    (later : t.Orderly) (calls : t.calls = s.callsBehind caller next) (apart : other ≠ caller) :
    t.standpoint other = s.standpoint other := by
  by_cases present : ∃ call, (other, call) ∈ s.calls
  · obtain ⟨call, mine⟩ := present
    rw [standpoint_of_mem orderly mine, standpoint_of_mem later]
    rw [calls]
    exact mem_callsBehind_of_ne mine apart
  · rw [standpoint_of_none fun call mine => present ⟨call, mine⟩,
      standpoint_of_none fun call mine => ?_]
    rw [calls] at mine
    rcases mem_callsBehind mine with ⟨_, old⟩ | ⟨_, _, same⟩
    · exact present ⟨call, old⟩
    · cases same
      exact apart rfl

/-! ### Steps of the listener -/

/-- What a step of the listener comes to, with what is written down of it. -/
inductive Pumps (s : Session) : Session → Option Deed → Prop
  | quit (read : Nat) (listening : s.listening = .reading read) (fired : s.shutdown = true) :
      Pumps s { s with listening := .ended } none
  | drop (read : Nat) (listening : s.listening = .reading read) (live : s.shutdown = false)
      (lag : listenerCapacity < s.hosted.engine.history.size - read) :
      Pumps s { s with
        signals := s.signals + 1
        listening := .reading (s.hosted.engine.history.size - listenerCapacity) }
        (some (.dropped s.dropped))
  | pass {t : Session} (read : Nat) (notice : Notice) (listening : s.listening = .reading read)
      (found : s.hosted.engine.history[read]? = some notice) (other : notice.isStop = false)
      (onward : t.listening = .reading (read + 1)) (standing : t.standing = s.standing)
      (stops : t.stops = s.stops) : Pumps s t none
  | record (read : Nat) (stop : Stop) (listening : s.listening = .reading read)
      (found : s.hosted.engine.history[read]? = some (.stopped stop)) :
      Pumps s (s.takeIn (read + 1) (.stopped stop)) (some (.recorded stop))
  | publish (read : Nat) (stop : Stop) (listening : s.listening = .publishing read stop) :
      Pumps s { s with stops := s.stops ++ [stop], listening := .reading read }
        (some (.published stop))

/-- Nothing is dropped before a listener that keeps up. -/
theorem dropped_of_near {read : Nat} (listening : s.listening = .reading read)
    (near : s.hosted.engine.history.size - read ≤ listenerCapacity) : s.dropped = [] := by
  unfold dropped
  rw [listening]
  dsimp only
  split
  · rfl
  · refine List.drop_eq_nil_of_le (Nat.le_trans (List.length_take_le _ _) ?_)
    omega

/-- What is dropped before a listener that has fallen too far behind. -/
theorem dropped_of_lag {read : Nat} (listening : s.listening = .reading read)
    (live : s.shutdown = false) : s.dropped = (s.hosted.engine.history.toList.take
      (s.hosted.engine.history.size - listenerCapacity)).drop read := by
  unfold dropped
  rw [listening, live]
  rfl

/-- Where something is dropped, the listener has fallen too far behind. -/
theorem lag_of_dropped (some : s.dropped ≠ []) : ∃ read, s.listening = .reading read ∧
    s.shutdown = false ∧ listenerCapacity < s.hosted.engine.history.size - read := by
  cases listening : s.listening with
  | reading read =>
    refine ⟨read, rfl, ?_, Nat.lt_of_not_le fun near => some (dropped_of_near listening near)⟩
    refine Bool.eq_false_iff.mpr fun fired => some ?_
    unfold dropped
    rw [listening, fired]
    rfl
  | _ =>
    unfold dropped at some
    rw [listening] at some
    exact absurd rfl some

/-- **Every step of the listener is one of these.** -/
theorem pumps_of_listen (moved : s.listen = some t) : s.Pumps t (s.heeded? t) := by
  have kept (none : s.dropped = []) : s.heeded? t = s.listening.deed? t.listening := by
    unfold heeded?
    rw [none]
    rfl
  cases listens_of_listen moved with
  | quit read listening fired =>
    have none : s.dropped = [] := by
      unfold dropped
      rw [listening, fired]
      rfl
    rw [kept none, listening]
    exact .quit read listening fired
  | skip read listening live lag =>
    have some : s.dropped ≠ [] := by
      rw [dropped_of_lag listening live]
      refine List.ne_nil_of_length_pos ?_
      rw [List.length_drop, List.length_take, Array.length_toList]
      omega
    unfold heeded?
    rw [if_neg (fun none => some (List.isEmpty_iff.mp none))]
    exact .drop read listening live lag
  | take read notice listening near found =>
    rw [kept (dropped_of_near listening near), listening]
    cases notice with
    | stopped stop => exact .record read stop listening found
    | _ => exact .pass read _ listening found rfl rfl rfl rfl
  | publish read stop listening =>
    have none : s.dropped = [] := by
      unfold dropped
      rw [listening]
    rw [kept none, listening]
    exact .publish read stop listening

/-- What the listener does is done by no call. -/
theorem heeded?_caller {deed : Deed} (done : s.heeded? t = some deed) : deed.caller? = none := by
  unfold heeded? at done
  split at done
  · exact Listening.deed?_caller done
  · cases done
    rfl

/-! ### Moves -/

/-- A move, as far as the pause is concerned: a step of a call, a step of the listener, or one with
which nothing is done about stops, though a call may begin. -/
inductive Marks (s : Session) (t : Session) : Option Deed → Prop
  | call (caller : Nat) (order : Order)
      (leads : s.Leads caller order (s.standpoint caller) t (t.standpoint caller))
      (others : ∀ other, other ≠ caller → t.standpoint other = s.standpoint other)
      (lastCall : t.lastCall = s.lastCall) (engine : s.hosted.engine.Lawful →
        t.hosted.engine.stop? = s.hosted.engine.stop?) :
      Marks s t ((s.standpoint caller).deed? caller (t.standpoint caller))
  | listen (moved : s.listen = some t) : Marks s t (s.heeded? t)
  | aside (standing : t.standing = s.standing)
      (points : ∀ caller, t.standpoint caller = s.standpoint caller ∨
        s.lastCall < caller ∧ ∃ order : Order, t.standpoint caller = order.call.standpoint)
      (lastCall : s.lastCall ≤ t.lastCall) : Marks s t none

/-- A move that leaves the calls where they are. -/
theorem Marks.of_calls (standing : t.standing = s.standing) (calls : t.calls = s.calls)
    (lastCall : t.lastCall = s.lastCall) : s.Marks t none := by
  refine .aside standing (fun caller => .inl ?_) (Nat.le_of_eq lastCall.symm)
  unfold standpoint
  rw [calls]

/-- Calls are numbered in the order of their beginnings. -/
theorem Marks.lastCall_le {deed : Option Deed} (marks : s.Marks t deed) :
    s.lastCall ≤ t.lastCall := by
  cases marks with
  | call caller order leads others lastCall engine => exact Nat.le_of_eq lastCall.symm
  | listen moved => exact Nat.le_of_eq (by rw [listen_changes moved])
  | aside standing points lastCall => exact lastCall

theorem marks_after (orderly : s.Orderly) (moved : s.after move = some t) :
    s.Marks t (s.deed? move t) := by
  have later := orderly_after orderly moved
  cases move with
  | act actor =>
    cases actor with
    | call caller =>
      obtain ⟨call, next, found, advances, leads⟩ := advance_leads moved
      have mine := mem_of_lookup found
      refine .call caller call.order ?_ (fun other apart => ?_) advances.lastCall
        fun lawful => (advances.same_stop lawful).1
      · rw [standpoint_of_mem orderly mine, advances.standpoint later mine]
        exact leads
      · exact standpoint_of_ne orderly later advances.calls apart
    | listener => exact .listen moved
    | engine =>
      have same := compute_changes moved
      exact .of_calls (by rw [same]) (by rw [same]) (by rw [same])
    | thread =>
      have same := work_changes moved
      exact .of_calls (by rw [same]) (by rw [same]) (by rw [same])
    | driver =>
      have same := drive_changes moved
      exact .of_calls (by rw [same]) (by rw [same]) (by rw [same])
    | backoff =>
      have same := ring_changes moved
      exact .of_calls (by rw [same]) (by rw [same]) (by rw [same])
    | timeout caller =>
      obtain ⟨call, following, mine, expires, rfl⟩ := expires_of_expire moved
      have calls : (s.proceed caller following).calls = s.callsBehind caller (some following) := rfl
      refine .aside rfl (fun other => .inl ?_) (Nat.le_refl _)
      by_cases apart : other = caller
      · subst apart
        rw [standpoint_of_mem orderly mine, standpoint_of_mem later (mem_proceed_self mine),
          expires.behind.1, expires.behind.2]
      · exact standpoint_of_ne orderly later calls apart
  | order order =>
    cases moved
    refine .aside rfl (fun caller => ?_) (Nat.le_succ _)
    have calls : (s.begin order.call).2.calls = s.calls ++ [(s.lastCall + 1, order.call)] := rfl
    by_cases fresh : caller = s.lastCall + 1
    · refine .inr ⟨by omega, order, standpoint_of_mem later ?_⟩
      rw [calls, fresh]
      exact List.mem_append_right _ (List.mem_singleton_self _)
    · refine .inl ?_
      unfold standpoint
      rw [calls, List.lookup_append]
      have none : [(s.lastCall + 1, order.call)].lookup caller = none := by
        rw [List.lookup_cons, List.lookup_nil]
        simp only [beq_eq_false_iff_ne.mpr fresh]
      rw [none, Option.or_none]
  | host held heldFor present refusal =>
    cases moved
    exact .of_calls rfl rfl rfl
  | outside engine =>
    cases moved
    exact .of_calls rfl rfl rfl
  | drop =>
    cases moved
    exact .of_calls rfl rfl rfl

end Session

end ShellSession
