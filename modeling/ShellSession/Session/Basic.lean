/-
**The state of a session.**

A session owns a queue of requests and four parties that work on it: the driver, who takes requests
from the queue one at a time; the interpreter thread, on which attempts run; the listener, who reads
the engine's reports; and callers, whose calls may wait for each other and for the first three. Each
party is at a definite point, and the shared fields are changed one step at a time.

* `Driving`, `Working`, `Listening`: where the driver, the thread and the listener are;
* `Starting`, `Submitting`, `Nesting`, `Resuming`, `Aborting`, `Disposing`: where a call is;
* `Session`: all of it together.
-/

import ShellSession.Settings
import ShellSession.Session.Hosted
import ShellSession.Session.Request
import ShellSession.Work.Backlog

namespace ShellSession

/-! ### The standing and the parties -/

/-- Whether the session takes the engine to be stopped; a verb being applied is noted. -/
inductive Standing where
  | active
  | paused (stop : Stop) (verb : Option Verb)
deriving Repr, DecidableEq

/-- Whether the session takes the engine to be stopped. -/
def Standing.isPaused : Standing → Bool
  | active => false
  | paused _ _ => true

/-- Where the driver is: not started; waiting for a request; about to look for one in the queue;
holding one while the engine may be stopped; about to mark the session as running; waiting for an
attempt; about to judge a busy attempt; backing off since a number of idle signals; holding the
request again while the engine may be stopped; about to mark the session as ready; about to turn
away what is queued; gone. -/
inductive Driving where
  | unborn
  | waiting
  | looking
  | gated (request : Request)
  | marking (request : Request)
  | attempting (request : Request) (attempts : Nat)
  | judging (request : Request) (attempts : Nat)
  | backing (request : Request) (attempts : Nat) (signals : Nat)
  | regated (request : Request) (attempts : Nat)
  | unmarking
  | closing
  | exited

/-- Where the interpreter thread is: without an attempt; in a routine; waiting for a run of the
engine; or done with an attempt, which came back busy or not. -/
inductive Working where
  | resting
  | working (request : Request) (routine : Routine)
  | awaiting (request : Request) (ticket : Nat)
      (next : Except EngineFailure (List Value) → Routine)
  | replying (busy : Bool)

/-- Where the listener is: not started; behind a number of reports; about to publish a stop that it
has recorded; gone. -/
inductive Listening where
  | unborn
  | reading (read : Nat)
  | publishing (read : Nat) (stop : Stop)
  | ended
deriving Repr, DecidableEq

/-! ### Calls -/

/-- What a call returns. -/
inductive Reply where
  | done
  | accepted (id : Nat)
  | release (release : Release)
  | answer (answer : Answer)

/-- Where a resume is: about to look for the engine; about to look for a stop; about to ask for the
gate; waiting for the gate or about to note the verb; about to clear the pause; about to apply the
verb; about to restore the pause after a failure; about to leave the gate; through. -/
inductive Resuming where
  | binding
  | looking
  | entering
  | noting
  | clearing
  | applying (stop : Stop)
  | restoring (stop : Stop) (error : SessionFailure)
  | leaving (result : Except SessionFailure Unit)
  | finished (result : Except SessionFailure Unit)

/-- Where an abort is, once it holds the lifecycle lock. -/
inductive Aborting where
  | checking
  | resuming (stage : Resuming)
  | moving
  | closing
  | finished (result : Except SessionFailure Unit)

/-- Where a dispose is, once it holds the lifecycle lock. -/
inductive Disposing where
  | checking
  | aborting (stage : Aborting)
  | moving
  | closing
  | cancelling
  | draining
  | awaitingDriver
  | awaitingListener
  | unbinding
  | finished

/-- Where a start is, once it holds the lifecycle lock. -/
inductive Starting where
  | checking
  | spawning
  | asking
  | awaiting (id : Nat)
  | choosing (release : Release)
  | recording (dialect : Dialect) (release : Release)
  | moving (release : Release)
  | failing (error : SessionFailure) (stage : Disposing)
  | finished (result : Except SessionFailure Release)

/-- Where a submission is. -/
inductive Submitting where
  | checking
  | pushing
  | finished (result : Except SessionFailure Nat)

/-- Where a nested execution is: about to look for the dialect and the engine; about to look for a
stop; about to ask for the gate; waiting for the gate or about to look again; about to give the
command to the debugger; waiting for its output; about to leave the gate; through. -/
inductive Nesting where
  | binding
  | looking (dialect : Dialect)
  | entering (dialect : Dialect)
  | relooking (dialect : Dialect)
  | posting (dialect : Dialect)
  | awaiting (ticket : Nat)
  | leaving (result : Result)
  | finished (result : Result)

/-- A stage of a call that needs the lifecycle lock: about to ask for it, or with it in line. -/
inductive Guarded (σ : Type) where
  | entering
  | inside (stage : σ)

/-- A call in progress. -/
inductive Call where
  | start (stage : Guarded Starting)
  | submit (payload : Payload) (stage : Submitting)
  | nested (pipeline : Pipeline) (shape : Shape) (stage : Nesting)
  | pause
  | resume (verb : Verb) (stage : Resuming)
  | abort (stage : Guarded Aborting)
  | dispose (stage : Guarded Disposing)

/-! ### The session -/

/-- A lock: the callers that hold it or wait for it, the holder first. -/
abbrev Lock := List Nat

/-- A session. `bound` tells whether it still refers to its engine, `signals` counts the idle
signals, and `stops` and `updates` hold what was published. Results of requests are kept by request
and replies of calls by call. -/
structure Session where
  settings : Settings
  fallback : Release
  hosted : HostedEngine
  bound : Bool
  phase : Phase
  queue : Backlog Request
  lastId : Nat
  results : List (Nat × Result)
  driving : Driving
  working : Working
  listening : Listening
  standing : Standing
  signals : Nat
  shutdown : Bool
  output : List Line
  stops : List Stop
  updates : List Update
  dialect : Option Dialect
  details : Option Release
  lifecycle : Lock
  gate : Lock
  lastCall : Nat
  calls : List (Nat × Call)
  replies : List (Nat × Except SessionFailure Reply)

namespace Session

/-- A session that is not started. -/
def fresh (settings : Settings) (fallback : Release) (hosted : HostedEngine) : Session where
  settings := settings
  fallback := fallback
  hosted := hosted
  bound := true
  phase := .notStarted
  queue := .empty
  lastId := 0
  results := []
  driving := .unborn
  working := .resting
  listening := .unborn
  standing := .active
  signals := 0
  shutdown := false
  output := []
  stops := []
  updates := []
  dialect := none
  details := none
  lifecycle := []
  gate := []
  lastCall := 0
  calls := []
  replies := []

/-- A session over an engine, unless a setting is out of range. -/
def create (settings : Settings) (hosted : HostedEngine) : Except SettingsError Session :=
  match settings.check with
  | .ok fallback => .ok (fresh settings fallback hosted)
  | .error fault => .error (.invalid fault)

/-- How many requests wait in the queue. -/
def pending (s : Session) : Nat :=
  s.queue.size

/-- The result of a request. -/
def result? (s : Session) (id : Nat) : Option Result :=
  s.results.lookup id

/-- The reply of a call. -/
def reply? (s : Session) (call : Nat) : Option (Except SessionFailure Reply) :=
  s.replies.lookup call

/-- A request completed. -/
def complete (s : Session) (request : Request) (result : Result) : Session :=
  { s with results := s.results ++ [(request.id, result)] }

/-- Requests turned away. -/
def turnAway (s : Session) (requests : List Request) : Session :=
  { s with results := s.results ++ requests.map fun request => (request.id, .error .disposed) }

/-- A move to another phase, where there is one. -/
def moveTo (s : Session) (target : Phase) : Except SessionFailure Session :=
  if s.phase.leadsTo target then .ok { s with phase := target }
  else .error (.invalidTransition s.phase target)

/-- A phase exchanged for another, where it is the present one. -/
def exchange (s : Session) (source target : Phase) : Session :=
  if s.phase = source then { s with phase := target } else s

/-- Whether a caller holds a lock. -/
def holds (lock : Lock) (caller : Nat) : Bool :=
  lock.head? = some caller

/-- A lock without a caller. -/
def without (lock : Lock) (caller : Nat) : Lock :=
  lock.filter fun other => other ≠ caller

end Session

end ShellSession
