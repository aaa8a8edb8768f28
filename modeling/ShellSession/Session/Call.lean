/-
**Calls of a session.**

Each function takes one step of a call, if the call can take one. Start, abort and dispose hold the
lifecycle lock from their first look to their end; a resume and a nested execution hold the gate, so
that a verb never lands inside a nested command.

* `Resuming.step`: the pause is cleared before the verb is applied, and restored when the verb fails
  while the engine is still stopped;
* `Aborting.step`: a stop is ended first, then no more requests are accepted;
* `Disposing.step`: a session that runs or is paused is aborted, then shut down;
* `Starting.step`: the driver and the listener are started, and the engine's release is asked for
  through the queue;
* `Submitting.step`, `Nesting.step`: a request queued, and a pipeline run inside a stop;
* `Session.advance`: one step of the call with a number.
-/

import ShellSession.Session.Party

namespace ShellSession

namespace Session

/-! ### What calls share -/

/-- The dialect, once the session is started and not yet disposed. -/
def currentDialect (s : Session) : Except SessionFailure Dialect :=
  match s.dialect with
  | some dialect => if s.phase = .disposed then .error .disposed else .ok dialect
  | none => .error s.phase.refusal

/-- The dialect, as long as the session refers to its engine. -/
def boundDialect (s : Session) : Except SessionFailure Dialect :=
  match s.currentDialect with
  | .error error => .error error
  | .ok dialect => if s.bound then .ok dialect else .error .disposed

/-- The failure of a request that came too late for the queue. -/
def lateRefusal (s : Session) : SessionFailure :=
  if s.phase.accepts then .disposed else s.phase.refusal

/-- A request put into the queue under the next number. -/
def push (s : Session) (payload : Payload) : Session × Except SessionFailure Nat :=
  let id := s.lastId + 1
  match s.queue.push ⟨id, payload⟩ with
  | some queue => ({ s with lastId := id, queue := queue }, .ok id)
  | none => ({ s with lastId := id }, .error s.lateRefusal)

/-- A caller in line for the gate. -/
def enterGate (s : Session) (caller : Nat) : Session :=
  { s with gate := s.gate ++ [caller] }

/-- A caller back from the gate. -/
def leaveGate (s : Session) (caller : Nat) : Session :=
  { s with gate := without s.gate caller }

/-- The pause restored, unless there is a later one. -/
def restorePause (s : Session) (stop : Stop) : Session :=
  match s.standing with
  | .active => { s with standing := .paused stop none }
  | .paused _ _ => s

end Session

/-- Whether a failure says that the engine is not stopped. -/
def SessionFailure.saysNotStopped : SessionFailure → Bool
  | execution .notStopped => true
  | _ => false

/-! ### Leaving a stop -/

/-- One step of a resume. -/
def Resuming.step (caller : Nat) (verb : Verb) (s : Session) :
    Resuming → Option (Session × Resuming)
  | binding => some (s, if s.bound then looking else finished (.error .disposed))
  | looking =>
    some (s, if s.standing.isPaused then entering else finished (.error .notPaused))
  | entering => some (s.enterGate caller, noting)
  | noting =>
    if Session.holds s.gate caller then
      match s.standing with
      | .paused stop _ => some ({ s with standing := .paused stop (some verb) }, clearing)
      | .active => some (s, leaving (.error .notPaused))
    else none
  | clearing =>
    match s.standing with
    | .paused stop _ => some ({ s with standing := .active }, applying stop)
    | .active => some (s, leaving (.error .notPaused))
  | applying stop =>
    match s.hosted.resume verb with
    | .ok hosted => some ({ s with hosted := hosted }, leaving (.ok ()))
    | .error error =>
      if error.saysNotStopped then some (s, leaving (.error error))
      else some (s, restoring stop error)
  | restoring stop error => some (s.restorePause stop, leaving (.error error))
  | leaving result => some (s.leaveGate caller, finished result)
  | finished _ => none

/-! ### Abort and dispose -/

/-- One step of an abort. -/
def Aborting.step (caller : Nat) (s : Session) : Aborting → Option (Session × Aborting)
  | checking =>
    match s.phase with
    | .aborting => some (s, finished (.ok ()))
    | .disposed => some (s, finished (.ok ()))
    | .notStarted => some (s, finished (.error (.invalidTransition .notStarted .aborting)))
    | _ => some (s, if s.standing.isPaused then resuming .binding else moving)
  | resuming (.finished _) => some (s, moving)
  | resuming stage => (stage.step caller .stop s).map fun (s, stage) => (s, resuming stage)
  | moving =>
    match s.moveTo .aborting with
    | .ok s => some (s, closing)
    | .error error => some (s, finished (.error error))
  | closing => some ({ s with queue := s.queue.close }, finished (.ok ()))
  | finished _ => none

/-- The requests turned away that nobody else will take, when there is no driver. -/
def Session.drainUnstarted (s : Session) : Session :=
  match s.driving with
  | .unborn => s.turnAwayQueued
  | _ => s

/-- Whether the driver is gone. -/
def Driving.isOver : Driving → Bool
  | exited => true
  | _ => false

/-- Whether the listener is gone or was never there. -/
def Listening.isOver : Listening → Bool
  | unborn => true
  | ended => true
  | _ => false

/-- One step of a dispose. -/
def Disposing.step (caller : Nat) (s : Session) : Disposing → Option (Session × Disposing)
  | checking =>
    if s.phase = .disposed then some (s, finished)
    else if s.phase = .running || s.standing.isPaused then some (s, aborting .checking)
    else some (s, moving)
  | aborting (.finished _) => some (s, moving)
  | aborting stage => (stage.step caller s).map fun (s, stage) => (s, aborting stage)
  | moving =>
    match s.moveTo .disposed with
    | .ok s => some (s, closing)
    | .error _ => some (s, closing)
  | closing => some ({ s with queue := s.queue.close }, cancelling)
  | cancelling => some ({ s with shutdown := true }, draining)
  | draining => some (s.drainUnstarted, awaitingDriver)
  | awaitingDriver => if s.driving.isOver then some (s, awaitingListener) else none
  | awaitingListener => if s.listening.isOver then some (s, unbinding) else none
  | unbinding => some ({ s with bound := false }, finished)
  | finished => none

/-- A dispose that does not wait any longer. -/
def Disposing.expire : Disposing → Option Disposing
  | awaitingDriver => some awaitingListener
  | awaitingListener => some unbinding
  | _ => none

/-! ### Start -/

/-- The driver and the listener started. -/
def Session.spawn (s : Session) : Session :=
  { s with driving := .waiting, listening := .reading s.hosted.engine.history.size }

/-- One step of a start. -/
def Starting.step (caller : Nat) (s : Session) : Starting → Option (Session × Starting)
  | checking =>
    match s.phase with
    | .notStarted => some (s, spawning)
    | .disposed => some (s, finished (.error .disposed))
    | phase => some (s, finished (.error (.invalidTransition phase .ready)))
  | spawning =>
    match s.bound, s.driving with
    | true, .unborn => some (s.spawn, asking)
    | _, _ => some (s, finished (.error .disposed))
  | asking =>
    match s.push (.startup s.fallback) with
    | (s, .ok id) => some (s, awaiting id)
    | (s, .error error) => some (s, finished (.error error))
  | awaiting id =>
    match s.result? id with
    | none => none
    | some (.ok (.release release)) => some (s, choosing release)
    | some (.ok _) => some (s, failing .abandoned .checking)
    | some (.error error) => some (s, failing error .checking)
  | choosing release =>
    match Dialect.ofVersion release.version with
    | .ok dialect => some (s, recording dialect release)
    | .error error => some (s, failing error .checking)
  | recording dialect release =>
    some ({ s with dialect := some dialect, details := some release }, moving release)
  | moving release =>
    match s.moveTo .ready with
    | .ok s => some (s, finished (.ok release))
    | .error error => some (s, finished (.error error))
  | failing error .finished => some (s, finished (.error error))
  | failing error stage =>
    (stage.step caller s).map fun (s, stage) => (s, failing error stage)
  | finished _ => none

/-- A start whose dispose does not wait any longer. -/
def Starting.expire : Starting → Option Starting
  | failing error stage => stage.expire.map (failing error)
  | _ => none

/-! ### Requests, nested executions and pauses -/

/-- One step of a submission. -/
def Submitting.step (payload : Payload) (s : Session) :
    Submitting → Option (Session × Submitting)
  | checking =>
    some (s, if s.phase.accepts then pushing else finished (.error s.phase.refusal))
  | pushing =>
    let (s, result) := s.push payload
    some (s, finished result)
  | finished _ => none

/-- One step of a nested execution. -/
def Nesting.step (caller : Nat) (pipeline : Pipeline) (shape : Shape) (s : Session) :
    Nesting → Option (Session × Nesting)
  | binding =>
    match s.boundDialect with
    | .ok dialect => some (s, looking dialect)
    | .error error => some (s, finished (.error error))
  | looking dialect =>
    some (s, if s.standing.isPaused then entering dialect else finished (.error .notPaused))
  | entering dialect => some (s.enterGate caller, relooking dialect)
  | relooking dialect =>
    if Session.holds s.gate caller then
      some (s, if s.standing.isPaused then posting dialect else leaving (.error .notPaused))
    else none
  | posting dialect =>
    match s.hosted.command (dialect.nestedPipeline pipeline) with
    | .ok (ticket, hosted) => some ({ s with hosted := hosted }, awaiting ticket)
    | .error error => some (s, leaving (.error error))
  | awaiting ticket =>
    match s.hosted.engine.result? ticket with
    | none => none
    | some (.ok values) =>
      some (s, leaving ((decoded (some shape) values).mapError Shortfall.failure))
    | some (.error error) => some (s, leaving (.error (.execution error)))
  | leaving result => some (s.leaveGate caller, finished result)
  | finished _ => none

/-- The engine asked to stop at its next statement. -/
def Session.pauseEngine (s : Session) : Session × Except SessionFailure Unit :=
  match s.boundDialect with
  | .error error => (s, .error error)
  | .ok dialect =>
    match s.hosted.pause dialect with
    | .error error => (s, .error error)
    | .ok hosted => ({ s with hosted := hosted }, .ok ())

namespace Session

/-! ### Calls by number -/

/-- A caller in line for the lifecycle lock. -/
def enterLifecycle (s : Session) (caller : Nat) : Session :=
  { s with lifecycle := s.lifecycle ++ [caller] }

/-- A call replaced by its next stage. -/
def proceed (caller : Nat) (call : Call) (s : Session) : Session :=
  { s with calls := s.calls.map fun entry => if entry.1 = caller then (caller, call) else entry }

/-- A call returned. Its place in line for the lifecycle lock is given up. -/
def giveBack (caller : Nat) (reply : Except SessionFailure Reply) (s : Session) : Session :=
  { s with
    calls := s.calls.filter fun entry => entry.1 ≠ caller
    lifecycle := without s.lifecycle caller
    replies := s.replies ++ [(caller, reply)] }

/-- The next stage of a call, which the session goes on with. -/
def proceedTo {σ : Type} (caller : Nat) (call : σ → Call) :
    Option (Session × σ) → Option Session :=
  Option.map fun (s, stage) => s.proceed caller (call stage)

/-- One step of a start, whose number is `caller`. -/
def advanceStart (s : Session) (caller : Nat) : Guarded Starting → Option Session
  | .entering => some ((s.enterLifecycle caller).proceed caller (.start (.inside .checking)))
  | .inside (.finished result) => some (s.giveBack caller (result.map .release))
  | .inside stage =>
    if holds s.lifecycle caller then
      proceedTo caller (fun stage => .start (.inside stage)) (stage.step caller s)
    else none

/-- One step of an abort, whose number is `caller`. -/
def advanceAbort (s : Session) (caller : Nat) : Guarded Aborting → Option Session
  | .entering => some ((s.enterLifecycle caller).proceed caller (.abort (.inside .checking)))
  | .inside (.finished result) => some (s.giveBack caller (result.map fun _ => .done))
  | .inside stage =>
    if holds s.lifecycle caller then
      proceedTo caller (fun stage => .abort (.inside stage)) (stage.step caller s)
    else none

/-- One step of a dispose, whose number is `caller`. -/
def advanceDispose (s : Session) (caller : Nat) : Guarded Disposing → Option Session
  | .entering => some ((s.enterLifecycle caller).proceed caller (.dispose (.inside .checking)))
  | .inside .finished => some (s.giveBack caller (.ok .done))
  | .inside stage =>
    if holds s.lifecycle caller then
      proceedTo caller (fun stage => .dispose (.inside stage)) (stage.step caller s)
    else none

/-- One step of a call, whose number is `caller`. -/
def advanceCall (s : Session) (caller : Nat) : Call → Option Session
  | .start stage => s.advanceStart caller stage
  | .submit _ (.finished result) => some (s.giveBack caller (result.map .accepted))
  | .submit payload stage => proceedTo caller (.submit payload) (stage.step payload s)
  | .nested _ _ (.finished result) => some (s.giveBack caller (result.map .answer))
  | .nested pipeline shape stage =>
    proceedTo caller (.nested pipeline shape) (stage.step caller pipeline shape s)
  | .pause =>
    let (s, result) := s.pauseEngine
    some (s.giveBack caller (result.map fun _ => .done))
  | .resume _ (.finished result) => some (s.giveBack caller (result.map fun _ => .done))
  | .resume verb stage => proceedTo caller (.resume verb) (stage.step caller verb s)
  | .abort stage => s.advanceAbort caller stage
  | .dispose stage => s.advanceDispose caller stage

/-- One step of the call with a number. -/
def advance (s : Session) (caller : Nat) : Option Session :=
  (s.calls.lookup caller).bind (s.advanceCall caller)

/-- The call with a number not waiting any longer for the driver or the listener. -/
def expire (s : Session) (caller : Nat) : Option Session :=
  match s.calls.lookup caller with
  | some (.dispose (.inside stage)) =>
    stage.expire.map fun stage => s.proceed caller (.dispose (.inside stage))
  | some (.start (.inside stage)) =>
    stage.expire.map fun stage => s.proceed caller (.start (.inside stage))
  | _ => none

/-- A call begun. -/
def begin (s : Session) (call : Call) : Nat × Session :=
  let caller := s.lastCall + 1
  (caller, { s with lastCall := caller, calls := s.calls ++ [(caller, call)] })

end Session

end ShellSession
