/-
**The parties inside a session.**

Each function takes one step of a party, if the party can take one.

* `Session.drive`: the driver takes the first request, waits while the engine is stopped, has it
  attempted until an attempt is not busy, and turns to the next one; behind the shutdown signal it
  turns away what is left;
* `Session.work`: the interpreter thread follows the routine of an attempt;
* `Session.listen`: the listener records stops and breakpoint changes and signals idleness;
* `Session.ring`: the driver's backoff ends by itself.
-/

import ShellSession.Session.Basic

namespace ShellSession.Session

/-! ### The driver -/

/-- An attempt handed to the interpreter thread. -/
def launch (s : Session) (request : Request) (attempts : Nat) : Session :=
  { s with
    driving := .attempting request attempts
    working := .working request (request.payload.attempt attempts) }

/-- The driver's request turned away, the driver going on elsewhere. -/
def giveUp (s : Session) (request : Request) (driving : Driving) : Session :=
  { s.complete request (.error .disposed) with driving := driving }

/-- The driver's look at the shutdown signal. It goes on when the queue holds something or is
closed. -/
def await (s : Session) : Option Session :=
  if s.shutdown then some { s with driving := .closing }
  else if s.queue.items.isEmpty && !s.queue.closed then none
  else some { s with driving := .looking }

/-- The driver's look at the queue. -/
def dequeue (s : Session) : Session :=
  match s.queue.take with
  | some (request, queue) => { s with queue := queue, driving := .gated request }
  | none => { s with driving := if s.queue.closed then .closing else .waiting }

/-- The driver's judgement of a busy attempt. -/
def judge (s : Session) (request : Request) (attempts : Nat) : Session :=
  if s.settings.retry.givesUpAfter attempts then
    { s.complete request (.error (.retriesExhausted attempts)) with driving := .unmarking }
  else { s with driving := .backing request attempts s.signals }

/-- The end of the driver: the queue is closed and what is left in it turned away. -/
def turnAwayQueued (s : Session) : Session :=
  let (requests, queue) := s.queue.close.drain
  { s.turnAway requests with queue := queue, driving := .exited }

/-- One step of the driver. -/
def drive (s : Session) : Option Session :=
  match s.driving with
  | .unborn => none
  | .waiting => s.await
  | .looking => some s.dequeue
  | .gated request =>
    if s.shutdown then some (s.giveUp request .closing)
    else if s.standing.isPaused then none
    else some { s with driving := .marking request }
  | .marking request => some ((s.exchange .ready .running).launch request 1)
  | .attempting request attempts =>
    match s.working with
    | .replying true =>
      some { s with working := .resting, driving := .judging request attempts }
    | .replying false => some { s with working := .resting, driving := .unmarking }
    | _ => none
  | .judging request attempts => some (s.judge request attempts)
  | .backing request attempts signals =>
    if s.shutdown then some (s.giveUp request .unmarking)
    else if s.signals = signals then none
    else some { s with driving := .regated request attempts }
  | .regated request attempts =>
    if s.shutdown then some (s.giveUp request .unmarking)
    else if s.standing.isPaused then none
    else some (s.launch request (attempts + 1))
  | .unmarking => some { s.exchange .running .ready with driving := .waiting }
  | .closing => some s.turnAwayQueued
  | .exited => none

/-- The driver's backoff ending by itself. -/
def ring (s : Session) : Option Session :=
  match s.driving with
  | .backing request attempts _ =>
    if s.shutdown then none else some { s with driving := .regated request attempts }
  | _ => none

/-! ### The interpreter thread -/

/-- One step along the routine of an attempt. -/
def follow (s : Session) (request : Request) : Routine → Session
  | .busy => { s with working := .replying true }
  | .complete conclusion =>
    { s.complete request (conclusion.mapError Shortfall.failure) with working := .replying false }
  | .panic payload =>
    { s.complete request (.error (.panicked payload.message)) with working := .replying false }
  | .report lines conclusion =>
    { s with output := s.output ++ lines, working := .working request (.complete conclusion) }
  | .invoke pipeline next =>
    match s.hosted.invoke pipeline with
    | (.error error, hosted) =>
      { s with hosted := hosted, working := .working request (next (.error error)) }
    | (.ok ticket, hosted) =>
      { s with hosted := hosted, working := .awaiting request ticket next }
  | .askVariable name next =>
    let (outcome, hosted) := s.hosted.askVariable name
    { s with hosted := hosted, working := .working request (next outcome) }
  | .askRelease next =>
    let (outcome, hosted) := s.hosted.askRelease
    { s with hosted := hosted, working := .working request (next outcome) }

/-- One step of the interpreter thread. -/
def work (s : Session) : Option Session :=
  match s.working with
  | .resting => none
  | .working request routine => some (s.follow request routine)
  | .awaiting request ticket next =>
    (s.hosted.engine.result? ticket).map fun outcome =>
      { s with working := .working request (next outcome) }
  | .replying _ => none

/-! ### The listener and the engine -/

/-- How many reports of the engine the listener may fall behind. -/
def listenerCapacity : Nat := 256

/-- A report taken in by the listener, which has then read `read` of them. -/
def takeIn (s : Session) (read : Nat) : Notice → Session
  | .idle => { s with signals := s.signals + 1, listening := .reading read }
  | .availability _ => { s with listening := .reading read }
  | .breakpoint update => { s with updates := s.updates ++ [update], listening := .reading read }
  | .stopped stop => { s with standing := .paused stop none, listening := .publishing read stop }

/-- One step of the listener. A listener that fell too far behind signals idleness and goes on with
the oldest report that is left. -/
def listen (s : Session) : Option Session :=
  match s.listening with
  | .unborn => none
  | .reading read =>
    let history := s.hosted.engine.history
    if s.shutdown then some { s with listening := .ended }
    else if listenerCapacity < history.size - read then
      some { s with
        signals := s.signals + 1
        listening := .reading (history.size - listenerCapacity) }
    else history[read]?.map (s.takeIn (read + 1))
  | .publishing read stop =>
    some { s with stops := s.stops ++ [stop], listening := .reading read }
  | .ended => none

/-- One step of the engine. -/
def compute (s : Session) : Option Session :=
  s.hosted.engine.step.map fun engine => { s with hosted := { s.hosted with engine := engine } }

end ShellSession.Session
