/-
**A session left to itself.**

Whoever can take a step may take it next, in any order; `Session.Step` allows every one. When a
session is left to itself until nothing moves, calls go first, then the listener, the engine, the
interpreter thread and the driver; time passes only when nobody else can go on, first for the
driver's backoff and then for those who wait for the session to shut down.

* `Session.act`: one step of a party or a call;
* `Session.Step`: the steps a session can take by itself;
* `Session.settle`: the steps until nothing moves;
* the calls of a host: `Session.start`, `Session.submit`, `Session.nested`, `Session.pause`,
  `Session.resume`, `Session.abort`, `Session.dispose`.
-/

import ShellSession.Session.Call

namespace ShellSession

/-- Who takes a step. `backoff` and `timeout` stand for the passing of time. -/
inductive Actor where
  | call (caller : Nat)
  | listener
  | engine
  | thread
  | driver
  | backoff
  | timeout (caller : Nat)
deriving Repr, DecidableEq

namespace Session

/-- One step of a party or a call. -/
def act (s : Session) : Actor → Option Session
  | .call caller => s.advance caller
  | .listener => s.listen
  | .engine => s.compute
  | .thread => s.work
  | .driver => s.drive
  | .backoff => s.ring
  | .timeout caller => s.expire caller

/-- The steps a session can take by itself. -/
def Step (s t : Session) : Prop :=
  ∃ actor, s.act actor = some t

/-- A number of attempts: a request that would come back busy so often is taken to do so forever. -/
def endlessAttempts : Nat := 10000

/-- Whether the driver would back off forever: its engine is held, it never gives up, and the
request in hand comes back busy from a held engine. -/
def isStuck (s : Session) : Bool :=
  match s.driving with
  | .backing request attempts _ =>
    s.hosted.held && s.settings.retry.maxAttempts.isNone &&
      request.payload.isHeldBack endlessAttempts (attempts + 1)
  | _ => false

/-- Those who go on without time passing, in order. -/
def busyActors (s : Session) : List Actor :=
  (s.calls.map fun entry => .call entry.1) ++ [.listener, .engine, .thread, .driver]

/-- Those for whom time passes, in order. -/
def patientActors (s : Session) : List Actor :=
  (if s.isStuck then [] else [.backoff]) ++ s.calls.map fun entry => .timeout entry.1

/-- The first step that somebody can take. -/
def next (s : Session) : Option Session :=
  match s.busyActors.findSome? s.act with
  | some next => some next
  | none => s.patientActors.findSome? s.act

/-- The steps until nothing moves. -/
def settle (s : Session) : Session :=
  exhaust next stepLimit s

/-- A call begun and followed until nothing moves. -/
def run (s : Session) (call : Call) : Option (Except SessionFailure Reply) × Session :=
  let (caller, s) := s.begin call
  let s := s.settle
  (s.reply? caller, s)

/-- A request submitted, nothing else happening meanwhile. -/
def submit (s : Session) (payload : Payload) : Except SessionFailure Nat × Session :=
  let (caller, s) := s.begin (.submit payload .checking)
  let s := exhaust (fun s => s.advance caller) stepLimit s
  match s.reply? caller with
  | some (.ok (.accepted id)) => (.ok id, s)
  | some (.error error) => (.error error, s)
  | _ => (.error .abandoned, s)

/-- The session without its owner: it shuts down. -/
def drop (s : Session) : Session :=
  { s with shutdown := true }

/-- The session asked to start. -/
def start : Call :=
  .start .entering

/-- A pipeline to be run inside the current stop. -/
def nested (pipeline : Pipeline) (shape : Shape) : Call :=
  .nested pipeline shape .binding

/-- The engine asked to stop at its next statement. -/
def pause : Call :=
  .pause

/-- The current stop to be left. -/
def resume (verb : Verb) : Call :=
  .resume verb .binding

/-- The session asked to accept no more requests. -/
def abort : Call :=
  .abort .entering

/-- The session asked to shut down. -/
def dispose : Call :=
  .dispose .entering

end Session

end ShellSession
