/-
**A call that might not have been made.**

A session that has refused a call differs from one that was never asked in its books only: the number
of the call is spent, and the refusal is among the replies. Nobody reads either of them again. So
whatever is done to the one session can be done to the other, with the later calls under numbers that
are higher by one, and comes to the same.

* `Refusal.number`: the number of a call, where a call before it has been refused;
* `Session.recalling`: the session that it would be if a call had been refused;
* `Refusal.after_recalling`: **every move is the same with the refusal as without it**;
* `Refusal.play_recalling`: and so is every sequence of moves.
-/

import ShellSession.Proofs.Session.Chronicle

namespace ShellSession

/-- A call refused: the number of the call before it, how many replies had been given before, and why. -/
structure Refusal where
  last : Nat
  given : Nat
  error : SessionFailure

namespace Refusal

/-- The number of a call, where a call before it has been refused: it is higher by one. -/
def number (r : Refusal) (caller : Nat) : Nat :=
  if caller ≤ r.last then caller else caller + 1

/-- The replies with the refusal in its place. -/
def replies (r : Refusal) (replies : List (Nat × Except SessionFailure Reply)) :
    List (Nat × Except SessionFailure Reply) :=
  (replies.take r.given).map (fun entry => (r.number entry.1, entry.2)) ++
    (r.last + 1, .error r.error) ::
      (replies.drop r.given).map fun entry => (r.number entry.1, entry.2)

/-- An actor, where a call has been refused. -/
def actor (r : Refusal) : Actor → Actor
  | .call caller => .call (r.number caller)
  | .timeout caller => .timeout (r.number caller)
  | actor => actor

/-- A move, where a call has been refused. -/
def move (r : Refusal) : Move → Move
  | .act actor => .act (r.actor actor)
  | move => move

end Refusal

namespace Session

/-- The session that it would be if a call had been refused. -/
def recalling (s : Session) (r : Refusal) : Session :=
  { s with
    lifecycle := s.lifecycle.map r.number
    gate := s.gate.map r.number
    lastCall := s.lastCall + 1
    calls := s.calls.map fun entry => (r.number entry.1, entry.2)
    replies := r.replies s.replies }

end Session

namespace Refusal

variable {r : Refusal} {s t : Session} {caller : Nat}

/-! ### Numbers -/

theorem number_inj (r : Refusal) (one other : Nat) : r.number one = r.number other ↔ one = other := by
  unfold number
  split <;> split <;> omega

theorem number_ne (r : Refusal) (caller : Nat) : r.number caller ≠ r.last + 1 := by
  unfold number
  split <;> omega

theorem number_of_le (below : caller ≤ r.last) : r.number caller = caller :=
  if_pos below

theorem number_of_lt (above : r.last < caller) : r.number caller = caller + 1 :=
  if_neg (Nat.not_le_of_lt above)

/-! ### Books -/

theorem holds_map (r : Refusal) (lock : Lock) (caller : Nat) :
    Session.holds (lock.map r.number) (r.number caller) = Session.holds lock caller := by
  cases lock with
  | nil => rfl
  | cons first rest =>
    refine decide_eq_decide.mpr ?_
    show some (r.number first) = some (r.number caller) ↔ some first = some caller
    rw [Option.some.injEq, Option.some.injEq, number_inj]

theorem without_map (r : Refusal) (lock : Lock) (caller : Nat) :
    Session.without (lock.map r.number) (r.number caller) =
      (Session.without lock caller).map r.number := by
  unfold Session.without
  rw [List.filter_map]
  refine congrArg _ (List.filter_congr fun other _ => decide_eq_decide.mpr ?_)
  exact not_congr (r.number_inj other caller)

theorem lookup_map {α : Type} (r : Refusal) (entries : List (Nat × α)) (caller : Nat) :
    (entries.map fun entry => (r.number entry.1, entry.2)).lookup (r.number caller) =
      entries.lookup caller := by
  induction entries with
  | nil => rfl
  | cons entry rest ih =>
    obtain ⟨number, value⟩ := entry
    rw [List.map_cons, List.lookup_cons, List.lookup_cons, ih]
    by_cases same : caller = number
    · subst same
      rw [beq_self_eq_true, beq_self_eq_true]
    · have apart : r.number caller ≠ r.number number := fun other =>
        same ((r.number_inj caller number).mp other)
      rw [beq_false_of_ne apart, beq_false_of_ne same]

/-- **Every other call has returned the same.** -/
theorem reply?_recalling (s : Session) (caller : Nat) :
    (s.recalling r).reply? (r.number caller) = s.reply? caller := by
  show (r.replies s.replies).lookup (r.number caller) = s.replies.lookup caller
  have apart : (r.number caller == r.last + 1) = false := beq_false_of_ne (r.number_ne caller)
  unfold replies
  rw [List.lookup_append, List.lookup_cons, apart]
  show ((_ : List _).lookup _).or ((_ : List _).lookup _) = _
  rw [lookup_map, lookup_map, ← List.lookup_append, List.take_append_drop]

/-- A reply that is given behind the refusal. -/
theorem replies_append {given : List (Nat × Except SessionFailure Reply)} (behind : r.given ≤ given.length)
    (reply : Except SessionFailure Reply) :
    r.replies (given ++ [(caller, reply)]) = r.replies given ++ [(r.number caller, reply)] := by
  unfold replies
  rw [List.take_append_of_le_length behind, List.drop_append_of_le_length behind, List.map_append,
    List.append_assoc]
  rfl

/-! ### Stages -/

section Stages

theorem enterGate_recalling (s : Session) (caller : Nat) :
    (s.recalling r).enterGate (r.number caller) = (s.enterGate caller).recalling r := by
  unfold Session.enterGate Session.recalling
  rw [List.map_append]
  rfl

theorem leaveGate_recalling (s : Session) (caller : Nat) :
    (s.recalling r).leaveGate (r.number caller) = (s.leaveGate caller).recalling r := by
  unfold Session.leaveGate Session.recalling
  rw [without_map]

theorem holds_gate (s : Session) (caller : Nat) :
    Session.holds (s.recalling r).gate (r.number caller) = Session.holds s.gate caller :=
  r.holds_map s.gate caller

/-- What a stage comes to, in the session that it would be if a call had been refused. -/
abbrev along {σ : Type} (r : Refusal) : Option (Session × σ) → Option (Session × σ) :=
  Option.map fun result => (result.1.recalling r, result.2)

theorem along_map {σ τ : Type} (build : σ → τ) (result : Option (Session × σ)) :
    (r.along result).map (fun (s, stage) => (s, build stage)) =
      r.along (result.map fun (s, stage) => (s, build stage)) := by
  cases result <;> rfl

theorem push_recalling (s : Session) (payload : Payload) :
    (s.recalling r).push payload = ((s.push payload).1.recalling r, (s.push payload).2) := by
  have queue : (s.recalling r).queue = s.queue := rfl
  unfold Session.push Backlog.push
  rw [queue]
  cases s.queue.closed <;> rfl

theorem moveTo_recalling (s : Session) (target : Phase) :
    (s.recalling r).moveTo target = (s.moveTo target).map (·.recalling r) := by
  show (if s.phase.leadsTo target then Except.ok { s.recalling r with phase := target }
    else .error (SessionFailure.invalidTransition s.phase target)) = _
  unfold Session.moveTo
  split <;> rfl

theorem resuming_recalling (s : Session) (caller : Nat) (verb : Verb) (stage : Resuming) :
    stage.step (r.number caller) verb (s.recalling r) = r.along (stage.step caller verb s) := by
  have standing : (s.recalling r).standing = s.standing := rfl
  cases stage with
  | entering => exact congrArg (fun t => some (t, Resuming.noting)) (enterGate_recalling s caller)
  | leaving result =>
    exact congrArg (fun t => some (t, Resuming.finished result)) (leaveGate_recalling s caller)
  | noting =>
    rw [Resuming.step, Resuming.step, holds_gate, standing]
    split
    · cases s.standing <;> rfl
    · rfl
  | clearing =>
    rw [Resuming.step, Resuming.step, standing]
    cases s.standing <;> rfl
  | applying stop =>
    have hosted : (s.recalling r).hosted = s.hosted := rfl
    rw [Resuming.step, Resuming.step, hosted]
    cases s.hosted.resume verb with
    | ok hosted => rfl
    | error error =>
      show (if error.saysNotStopped then _ else _) = r.along (if error.saysNotStopped then _ else _)
      split <;> rfl
  | restoring stop error =>
    show some ((s.recalling r).restorePause stop, Resuming.leaving (.error error)) =
      some ((s.restorePause stop).recalling r, .leaving (.error error))
    unfold Session.restorePause
    rw [standing]
    cases s.standing <;> rfl
  | _ => rfl

theorem aborting_recalling (s : Session) (caller : Nat) (stage : Aborting) :
    stage.step (r.number caller) (s.recalling r) = r.along (stage.step caller s) := by
  cases stage with
  | checking =>
    have phase : (s.recalling r).phase = s.phase := rfl
    rw [Aborting.step, Aborting.step, phase]
    cases s.phase <;> rfl
  | resuming inner =>
    cases inner with
    | finished result => rfl
    | _ =>
      rw [Aborting.step, Aborting.step, resuming_recalling]
      · exact along_map _ _
      · exact fun _ other => by cases other
      · exact fun _ other => by cases other
  | moving =>
    rw [Aborting.step, Aborting.step, moveTo_recalling]
    cases s.moveTo .aborting <;> rfl
  | _ => rfl

theorem drainUnstarted_recalling (s : Session) :
    (s.recalling r).drainUnstarted = s.drainUnstarted.recalling r := by
  have driving : (s.recalling r).driving = s.driving := rfl
  unfold Session.drainUnstarted
  rw [driving]
  cases s.driving <;> rfl

theorem disposing_recalling (s : Session) (caller : Nat) (stage : Disposing) :
    stage.step (r.number caller) (s.recalling r) = r.along (stage.step caller s) := by
  cases stage with
  | checking =>
    show (if s.phase = .disposed then some (s.recalling r, Disposing.finished)
      else if s.phase = .running || s.standing.isPaused then some (s.recalling r, .aborting .checking)
      else some (s.recalling r, .moving)) = _
    rw [Disposing.step]
    split
    · rfl
    · split <;> rfl
  | aborting inner =>
    cases inner with
    | finished result => rfl
    | _ =>
      rw [Disposing.step, Disposing.step, aborting_recalling]
      · exact along_map _ _
      · exact fun _ other => by cases other
      · exact fun _ other => by cases other
  | moving =>
    rw [Disposing.step, Disposing.step, moveTo_recalling]
    cases s.moveTo .disposed <;> rfl
  | draining =>
    exact congrArg (fun t => some (t, Disposing.awaitingDriver)) (drainUnstarted_recalling s)
  | awaitingDriver =>
    show (if s.driving.isOver then some (s.recalling r, Disposing.awaitingListener) else none) = _
    rw [Disposing.step]
    split <;> rfl
  | awaitingListener =>
    show (if s.listening.isOver then some (s.recalling r, Disposing.unbinding) else none) = _
    rw [Disposing.step]
    split <;> rfl
  | _ => rfl

theorem starting_recalling (s : Session) (caller : Nat) (stage : Starting) :
    stage.step (r.number caller) (s.recalling r) = r.along (stage.step caller s) := by
  cases stage with
  | checking =>
    have phase : (s.recalling r).phase = s.phase := rfl
    rw [Starting.step, Starting.step, phase]
    cases s.phase <;> rfl
  | spawning =>
    have bound : (s.recalling r).bound = s.bound := rfl
    have driving : (s.recalling r).driving = s.driving := rfl
    rw [Starting.step, Starting.step, bound, driving]
    cases s.bound <;> cases s.driving <;> rfl
  | asking =>
    have fallback : (s.recalling r).fallback = s.fallback := rfl
    rw [Starting.step, Starting.step, fallback, push_recalling]
    cases s.push (.startup s.fallback) with
    | mk t result => cases result <;> rfl
  | awaiting id =>
    have result : (s.recalling r).result? id = s.result? id := rfl
    rw [Starting.step, Starting.step, result]
    cases s.result? id with
    | none => rfl
    | some result =>
      cases result with
      | ok answer => cases answer <;> rfl
      | error error => rfl
  | choosing release =>
    rw [Starting.step, Starting.step]
    cases Dialect.ofVersion release.version <;> rfl
  | moving release =>
    rw [Starting.step, Starting.step, moveTo_recalling]
    cases s.moveTo .ready <;> rfl
  | failing error inner =>
    cases inner with
    | finished => rfl
    | _ =>
      rw [Starting.step, Starting.step, disposing_recalling]
      · exact along_map _ _
      · exact fun other => by cases other
      · exact fun other => by cases other
  | _ => rfl

theorem submitting_recalling (s : Session) (payload : Payload) (stage : Submitting) :
    stage.step payload (s.recalling r) = r.along (stage.step payload s) := by
  cases stage with
  | pushing =>
    exact congrArg (fun result : Session × Except SessionFailure Nat =>
      some (result.1, Submitting.finished result.2)) (push_recalling s payload)
  | _ => rfl

theorem nesting_recalling (s : Session) (caller : Nat) (pipeline : Pipeline) (shape : Shape)
    (stage : Nesting) : stage.step (r.number caller) pipeline shape (s.recalling r) =
      r.along (stage.step caller pipeline shape s) := by
  have hosted : (s.recalling r).hosted = s.hosted := rfl
  cases stage with
  | binding =>
    have dialect : (s.recalling r).boundDialect = s.boundDialect := rfl
    rw [Nesting.step, Nesting.step, dialect]
    cases s.boundDialect <;> rfl
  | entering dialect =>
    exact congrArg (fun t => some (t, Nesting.relooking dialect)) (enterGate_recalling s caller)
  | relooking dialect =>
    rw [Nesting.step, Nesting.step, holds_gate]
    split <;> rfl
  | posting dialect =>
    rw [Nesting.step, Nesting.step, hosted]
    cases s.hosted.command (dialect.nestedPipeline pipeline) <;> rfl
  | awaiting ticket =>
    rw [Nesting.step, Nesting.step, hosted]
    cases s.hosted.engine.result? ticket with
    | none => rfl
    | some result => cases result <;> rfl
  | leaving result =>
    exact congrArg (fun t => some (t, Nesting.finished result)) (leaveGate_recalling s caller)
  | _ => rfl

theorem pauseEngine_recalling (s : Session) :
    (s.recalling r).pauseEngine = (s.pauseEngine.1.recalling r, s.pauseEngine.2) := by
  have dialect : (s.recalling r).boundDialect = s.boundDialect := rfl
  have hosted : (s.recalling r).hosted = s.hosted := rfl
  unfold Session.pauseEngine
  rw [dialect, hosted]
  cases s.boundDialect with
  | error error => rfl
  | ok dialect =>
    simp only
    cases s.hosted.pause dialect <;> rfl

end Stages

/-! ### Calls -/

theorem proceed_recalling (s : Session) (caller : Nat) (call : Call) :
    (s.recalling r).proceed (r.number caller) call = (s.proceed caller call).recalling r := by
  have calls : ((s.calls.map fun entry => (r.number entry.1, entry.2)).map fun entry =>
      if entry.1 = r.number caller then (r.number caller, call) else entry) =
        (s.calls.map fun entry => if entry.1 = caller then (caller, call) else entry).map
          fun entry => (r.number entry.1, entry.2) := by
    rw [List.map_map, List.map_map]
    refine List.map_congr_left fun entry _ => ?_
    show (if r.number entry.1 = r.number caller then _ else _) = _
    by_cases mine : entry.1 = caller
    · rw [if_pos (congrArg r.number mine)]
      show _ = ((fun entry : Nat × Call => (r.number entry.1, entry.2)) (if entry.1 = caller then _ else _))
      rw [if_pos mine]
    · rw [if_neg (fun same => mine ((r.number_inj _ _).mp same))]
      show _ = ((fun entry : Nat × Call => (r.number entry.1, entry.2)) (if entry.1 = caller then _ else _))
      rw [if_neg mine]
  unfold Session.proceed Session.recalling
  rw [calls]

theorem giveBack_recalling (behind : r.given ≤ s.replies.length) (caller : Nat)
    (reply : Except SessionFailure Reply) :
    (s.recalling r).giveBack (r.number caller) reply = (s.giveBack caller reply).recalling r := by
  have calls : ((s.calls.map fun entry => (r.number entry.1, entry.2)).filter fun entry =>
      entry.1 ≠ r.number caller) = (s.calls.filter fun entry => entry.1 ≠ caller).map
        fun entry => (r.number entry.1, entry.2) := by
    rw [List.filter_map]
    refine congrArg _ (List.filter_congr fun entry _ => decide_eq_decide.mpr ?_)
    exact not_congr (r.number_inj entry.1 caller)
  unfold Session.giveBack Session.recalling
  rw [calls, without_map, replies_append behind]

theorem enterLifecycle_recalling (s : Session) (caller : Nat) :
    (s.recalling r).enterLifecycle (r.number caller) = (s.enterLifecycle caller).recalling r := by
  unfold Session.enterLifecycle Session.recalling
  rw [List.map_append]
  rfl

theorem proceedTo_recalling {σ : Type} (caller : Nat) (build : σ → Call)
    (result : Option (Session × σ)) :
    Session.proceedTo (r.number caller) build (r.along result) =
      (Session.proceedTo caller build result).map (·.recalling r) := by
  cases result with
  | none => rfl
  | some result => exact congrArg some (proceed_recalling result.1 caller (build result.2))

/-- A stage that needs the lifecycle lock. -/
theorem locked_recalling {σ : Type} (s : Session) (caller : Nat) (build : σ → Call)
    {mine theirs : Option (Session × σ)} (same : mine = r.along theirs) :
    (if Session.holds (s.recalling r).lifecycle (r.number caller)
      then Session.proceedTo (r.number caller) build mine else none) =
      Option.map (·.recalling r)
        (if Session.holds s.lifecycle caller then Session.proceedTo caller build theirs else none) := by
  have held : Session.holds (s.recalling r).lifecycle (r.number caller) =
      Session.holds s.lifecycle caller := r.holds_map s.lifecycle caller
  rw [held, same, proceedTo_recalling]
  split <;> rfl

/-- A call asks for the lifecycle lock. -/
theorem entering_recalling (s : Session) (caller : Nat) (call : Call) :
    ((s.recalling r).enterLifecycle (r.number caller)).proceed (r.number caller) call =
      ((s.enterLifecycle caller).proceed caller call).recalling r := by
  rw [enterLifecycle_recalling, proceed_recalling]

theorem advanceCall_recalling (behind : r.given ≤ s.replies.length) (caller : Nat) (call : Call) :
    (s.recalling r).advanceCall (r.number caller) call =
      (s.advanceCall caller call).map (·.recalling r) := by
  have returns (reply : Except SessionFailure Reply) :
      some ((s.recalling r).giveBack (r.number caller) reply) =
        Option.map (·.recalling r) (some (s.giveBack caller reply)) :=
    congrArg some (giveBack_recalling behind caller reply)
  have enters (call : Call) :
      some (((s.recalling r).enterLifecycle (r.number caller)).proceed (r.number caller) call) =
        Option.map (·.recalling r) (some ((s.enterLifecycle caller).proceed caller call)) :=
    congrArg some (entering_recalling s caller call)
  cases call with
  | start guarded =>
    cases guarded with
    | entering => exact enters _
    | inside stage =>
      cases stage with
      | finished result => exact returns _
      | _ => exact locked_recalling s caller _ (starting_recalling s caller _)
  | submit payload stage =>
    cases stage with
    | finished result => exact returns _
    | _ =>
      refine Eq.trans ?_ (proceedTo_recalling caller (Call.submit payload) _)
      exact congrArg (Session.proceedTo _ _) (submitting_recalling s payload _)
  | nested pipeline shape stage =>
    cases stage with
    | finished result => exact returns _
    | _ =>
      refine Eq.trans ?_ (proceedTo_recalling caller (Call.nested pipeline shape) _)
      exact congrArg (Session.proceedTo _ _) (nesting_recalling s caller pipeline shape _)
  | pause =>
    have length : r.given ≤ s.pauseEngine.1.replies.length := by
      rw [s.pauseEngine_effect.same_books.2.2.2.2]
      exact behind
    show some ((s.recalling r).pauseEngine.1.giveBack _ ((s.recalling r).pauseEngine.2.map _)) = _
    rw [pauseEngine_recalling]
    exact congrArg some (giveBack_recalling length caller _)
  | resume verb stage =>
    cases stage with
    | finished result => exact returns _
    | _ =>
      refine Eq.trans ?_ (proceedTo_recalling caller (Call.resume verb) _)
      exact congrArg (Session.proceedTo _ _) (resuming_recalling s caller verb _)
  | abort guarded =>
    cases guarded with
    | entering => exact enters _
    | inside stage =>
      cases stage with
      | finished result => exact returns _
      | _ => exact locked_recalling s caller _ (aborting_recalling s caller _)
  | dispose guarded =>
    cases guarded with
    | entering => exact enters _
    | inside stage =>
      cases stage with
      | finished => exact returns _
      | _ => exact locked_recalling s caller _ (disposing_recalling s caller _)

theorem lookup_calls (s : Session) (caller : Nat) :
    (s.recalling r).calls.lookup (r.number caller) = s.calls.lookup caller :=
  lookup_map r s.calls caller

theorem advance_recalling (behind : r.given ≤ s.replies.length) (caller : Nat) :
    (s.recalling r).advance (r.number caller) = (s.advance caller).map (·.recalling r) := by
  unfold Session.advance
  rw [lookup_calls]
  cases s.calls.lookup caller with
  | none => rfl
  | some call => exact advanceCall_recalling behind caller call

theorem expire_recalling (s : Session) (caller : Nat) :
    (s.recalling r).expire (r.number caller) = (s.expire caller).map (·.recalling r) := by
  have proceeds {σ : Type} (stage : Option σ) (build : σ → Call) :
      (stage.map fun stage => (s.recalling r).proceed (r.number caller) (build stage)) =
        Option.map (·.recalling r) (stage.map fun stage => s.proceed caller (build stage)) := by
    cases stage with
    | none => rfl
    | some stage => exact congrArg some (proceed_recalling s caller (build stage))
  unfold Session.expire
  rw [lookup_calls]
  split
  · exact proceeds _ _
  · exact proceeds _ _
  · rfl

/-! ### Parties -/

theorem drive_recalling (s : Session) : (s.recalling r).drive = s.drive.map (·.recalling r) := by
  have driving : (s.recalling r).driving = s.driving := rfl
  have exchange (source target : Phase) :
      (s.recalling r).exchange source target = (s.exchange source target).recalling r := by
    show (if s.phase = source then { s.recalling r with phase := target } else s.recalling r) = _
    unfold Session.exchange
    split <;> rfl
  unfold Session.drive
  rw [driving]
  cases s.driving with
  | waiting =>
    show (if s.shutdown then some { s.recalling r with driving := .closing }
      else if s.queue.items.isEmpty && !s.queue.closed then none
      else some { s.recalling r with driving := .looking }) = s.await.map (·.recalling r)
    unfold Session.await
    split
    · rfl
    · split <;> rfl
  | looking =>
    show some (s.recalling r).dequeue = some (s.dequeue.recalling r)
    have queue : (s.recalling r).queue = s.queue := rfl
    unfold Session.dequeue
    rw [queue]
    cases s.queue.take <;> rfl
  | gated request =>
    show (if s.shutdown then some ((s.recalling r).giveUp request .closing)
      else if s.standing.isPaused then none
      else some { s.recalling r with driving := .marking request }) = Option.map (Session.recalling · r)
        (if s.shutdown then _ else if s.standing.isPaused then none else _)
    split
    · rfl
    · split <;> rfl
  | marking request =>
    show some (((s.recalling r).exchange .ready .running).launch request 1) = _
    rw [exchange]
    rfl
  | attempting request attempts =>
    have working : (s.recalling r).working = s.working := rfl
    simp only [working]
    cases s.working with
    | replying busy => cases busy <;> rfl
    | _ => rfl
  | judging request attempts =>
    show some (if s.settings.retry.givesUpAfter attempts then _ else _) = _
    simp only [Session.judge]
    show _ = some (Session.recalling (if s.settings.retry.givesUpAfter attempts then _ else _) r)
    split <;> rfl
  | backing request attempts signals =>
    show (if s.shutdown then some ((s.recalling r).giveUp request .unmarking)
      else if s.signals = signals then none
      else some { s.recalling r with driving := .regated request attempts }) =
        Option.map (Session.recalling · r)
          (if s.shutdown then _ else if s.signals = signals then none else _)
    split
    · rfl
    · split <;> rfl
  | regated request attempts =>
    show (if s.shutdown then some ((s.recalling r).giveUp request .unmarking)
      else if s.standing.isPaused then none
      else some ((s.recalling r).launch request (attempts + 1))) = Option.map (Session.recalling · r)
        (if s.shutdown then _ else if s.standing.isPaused then none else _)
    split
    · rfl
    · split <;> rfl
  | unmarking =>
    show some { (s.recalling r).exchange .running .ready with driving := .waiting } = _
    rw [exchange]
    rfl
  | _ => rfl

theorem ring_recalling (s : Session) : (s.recalling r).ring = s.ring.map (·.recalling r) := by
  have driving : (s.recalling r).driving = s.driving := rfl
  unfold Session.ring
  rw [driving]
  cases s.driving with
  | backing request attempts signals =>
    show (if s.shutdown then none
      else some { s.recalling r with driving := .regated request attempts }) =
        Option.map (Session.recalling · r) (if s.shutdown then none else _)
    split <;> rfl
  | _ => rfl

theorem work_recalling (s : Session) : (s.recalling r).work = s.work.map (·.recalling r) := by
  have working : (s.recalling r).working = s.working := rfl
  have hosted : (s.recalling r).hosted = s.hosted := rfl
  unfold Session.work
  rw [working]
  cases s.working with
  | working request routine =>
    refine congrArg some ?_
    cases routine with
    | invoke pipeline next =>
      show (s.recalling r).follow request (.invoke pipeline next) =
        (s.follow request (.invoke pipeline next)).recalling r
      simp only [Session.follow, hosted]
      cases s.hosted.invoke pipeline with
      | mk outcome after => cases outcome <;> rfl
    | _ => rfl
  | awaiting request ticket next =>
    simp only [hosted]
    cases s.hosted.engine.result? ticket <;> rfl
  | _ => rfl

theorem listen_recalling (s : Session) : (s.recalling r).listen = s.listen.map (·.recalling r) := by
  have listening : (s.recalling r).listening = s.listening := rfl
  unfold Session.listen
  rw [listening]
  cases s.listening with
  | reading read =>
    show (if s.shutdown then some { s.recalling r with listening := .ended }
      else if Session.listenerCapacity < s.hosted.engine.history.size - read then
        some { s.recalling r with
          signals := s.signals + 1
          listening := .reading (s.hosted.engine.history.size - Session.listenerCapacity) }
      else s.hosted.engine.history[read]?.map ((s.recalling r).takeIn (read + 1))) = _
    simp only
    split
    · rfl
    · split
      · rfl
      · cases s.hosted.engine.history[read]? with
        | none => rfl
        | some notice => cases notice <;> rfl
  | _ => rfl

theorem compute_recalling (s : Session) : (s.recalling r).compute = s.compute.map (·.recalling r) := by
  show (s.hosted.engine.step.map fun engine =>
    { s.recalling r with hosted := { s.hosted with engine := engine } }) = _
  unfold Session.compute
  cases s.hosted.engine.step <;> rfl

/-! ### Moves -/

/-- **Every move is the same with the refusal as without it.** -/
theorem after_recalling (later : r.last ≤ s.lastCall) (behind : r.given ≤ s.replies.length)
    (move : Move) :
    (s.recalling r).after (r.move move) = (s.after move).map (·.recalling r) := by
  cases move with
  | act actor =>
    cases actor with
    | call caller => exact advance_recalling behind caller
    | listener => exact listen_recalling s
    | engine => exact compute_recalling s
    | thread => exact work_recalling s
    | driver => exact drive_recalling s
    | backoff => exact ring_recalling s
    | timeout caller => exact expire_recalling s caller
  | order order =>
    have calls : (s.calls ++ [(s.lastCall + 1, order.call)]).map
        (fun entry => (r.number entry.1, entry.2)) =
          s.calls.map (fun entry => (r.number entry.1, entry.2)) ++ [(s.lastCall + 2, order.call)] := by
      rw [List.map_append, List.map_singleton, number_of_lt (Nat.lt_succ_of_le later)]
    show some { s.recalling r with
      lastCall := s.lastCall + 2
      calls := s.calls.map (fun entry => (r.number entry.1, entry.2)) ++
        [(s.lastCall + 2, order.call)] } = some ((s.begin order.call).2.recalling r)
    rw [← calls]
    rfl
  | _ => rfl

/-- Numbers are given in order, and replies are not taken back. -/
theorem grows {move : Move} (moved : s.after move = some t) :
    s.lastCall ≤ t.lastCall ∧ s.replies.length ≤ t.replies.length := by
  have still := And.intro (Nat.le_refl s.lastCall) (Nat.le_refl s.replies.length)
  cases Session.moves_of_after moved with
  | call caller moved =>
    obtain ⟨call, next, _, advances⟩ := Session.advance_advances moved
    refine ⟨Nat.le_of_eq advances.lastCall.symm, ?_⟩
    rcases advances.replies with ⟨_, _, same⟩ | ⟨reply, _, more⟩
    · exact Nat.le_of_eq (congrArg List.length same.symm)
    · rw [more, List.length_append]
      exact Nat.le_add_right _ _
  | timeout _ _ _ => exact still
  | order order => exact ⟨Nat.le_succ _, Nat.le_refl _⟩
  | driver _ same | listener _ same | aside _ same =>
    rw [same]
    exact still

/-- **Whatever is done to a session comes to the same, with a refusal in it as without it.** -/
theorem play_recalling (moves : List Move) : ∀ {s : Session}, r.last ≤ s.lastCall →
    r.given ≤ s.replies.length →
      (s.recalling r).play (moves.map r.move) = (s.play moves).map (·.recalling r) := by
  induction moves with
  | nil => exact fun _ _ => rfl
  | cons move rest ih =>
    intro s later behind
    show ((s.recalling r).after (r.move move)).bind (fun t => t.play (rest.map r.move)) =
      ((s.after move).bind fun t => t.play rest).map (·.recalling r)
    rw [after_recalling later behind]
    cases moved : s.after move with
    | none => rfl
    | some t =>
      obtain ⟨more, further⟩ := grows moved
      exact ih (Nat.le_trans later more) (Nat.le_trans behind further)

end Refusal

end ShellSession
