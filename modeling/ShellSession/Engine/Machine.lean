/-
**The engine.**

One pipeline runs at a time, and a second one is refused as busy. While the run is stopped in the
debugger, commands and verbs are accepted into an inbox and taken from it in order: a command is
evaluated inside the stop, a verb leaves the stop, and what is left in the inbox then is dropped,
the commands being refused. Callers hold tickets, under which they find their results.

* `Engine.invoke`, `Engine.command`, `Engine.resume`: the requests;
* `Engine.step`: one step of the engine by itself;
* `Engine.settle`: all steps until the engine is idle or waits in a stop.
-/

import ShellSession.Engine.Execution
import ShellSession.Steps
import ShellSession.Version

namespace ShellSession

namespace Engine

/-! ### Activities -/

/-- What is sent into a stop. -/
inductive StopRequest where
  | command (ticket : Nat) (pipeline : Pipeline)
  | verb (verb : Verb)

/-- An execution that waits in a stop: the frame of its run, what remains of the run, and the
callers of the run. -/
structure Waiting where
  stop : Stop
  frame : Frame
  resume : Verb → Interpreter → Run (List Value)
  callers : List Caller

/-- What the engine is doing: nothing, an execution for the holder of a ticket, or a command of a
second one inside a stop of that execution. -/
inductive Activity where
  | idle (state : Interpreter)
  | running (ticket : Nat) (execution : Execution)
  | nested (ticket : Nat) (waiting : Waiting) (asker : Nat) (execution : Execution)

/-- The state of the interpreter. -/
def Activity.state : Activity → Interpreter
  | idle s => s
  | running _ execution => execution.state
  | nested _ _ _ execution => execution.state

/-- The activity with another state to go on in. -/
def Activity.withState (s : Interpreter) : Activity → Activity
  | idle _ => idle s
  | running ticket execution => running ticket (execution.withState s)
  | nested ticket waiting asker execution => nested ticket waiting asker (execution.withState s)

/-- The stop that the engine is in. -/
def Activity.stop? : Activity → Option Stop
  | running _ execution => execution.stop?
  | nested _ waiting _ _ => some waiting.stop
  | idle _ => none

end Engine

/-! ### The engine -/

/-- An engine: the files it can run, its release, its activity, what was sent into the current stop,
the last ticket given out, and the results by ticket. -/
structure Engine where
  files : Files
  release : Option Release
  activity : Engine.Activity
  inbox : List Engine.StopRequest
  lastTicket : Nat
  results : List (Nat × Engine.Outcome)

namespace Engine

/-- The release of an engine that is not told another one. -/
def defaultRelease : Release :=
  ⟨⟨5, 1⟩, "Desktop"⟩

/-- An engine that has not run anything. -/
def fresh (files : Files) (release : Option Release) : Engine where
  files := files
  release := release
  activity := .idle .fresh
  inbox := []
  lastTicket := 0
  results := []

/-- The state of the interpreter. -/
def state (e : Engine) : Interpreter :=
  e.activity.state

/-- All reports so far. -/
def history (e : Engine) : Array Notice :=
  e.state.history

/-- Whether the engine takes new work. -/
def availability (e : Engine) : Availability :=
  e.state.availability

/-- The stop that the engine is in. -/
def stop? (e : Engine) : Option Stop :=
  e.activity.stop?

/-- Whether the engine is in a stop. -/
def isStopped (e : Engine) : Bool :=
  e.stop?.isSome

/-- The result under a ticket. -/
def result? (e : Engine) (ticket : Nat) : Option Outcome :=
  e.results.lookup ticket

/-! ### Requests -/

/-- A run begun for a caller. The error is `busy` unless the engine is idle. -/
def invoke (e : Engine) (pipeline : Pipeline) : Except EngineFailure (Nat × Engine) :=
  match e.activity with
  | .idle s =>
    let ticket := e.lastTicket + 1
    let run := evalPipeline e.files pipeline ({ s with frame := .start }.setAvailability .busy)
    .ok (ticket, { e with activity := .running ticket (.ofRun run), lastTicket := ticket })
  | _ => .error .busy

/-- A command sent into the current stop for a caller. -/
def command (e : Engine) (pipeline : Pipeline) : Except EngineFailure (Nat × Engine) :=
  if e.isStopped then
    let ticket := e.lastTicket + 1
    .ok (ticket, { e with inbox := e.inbox ++ [.command ticket pipeline], lastTicket := ticket })
  else .error .notStopped

/-- A verb sent into the current stop. -/
def resume (e : Engine) (verb : Verb) : Except EngineFailure Engine :=
  if e.isStopped then .ok { e with inbox := e.inbox ++ [.verb verb] }
  else .error .notStopped

/-- Step mode switched, at any time. -/
def setStepping (e : Engine) (enabled : Bool) : Engine :=
  { e with activity := e.activity.withState { e.state with stepping := enabled } }

/-- The value of a variable, while nothing runs. -/
def askVariable (e : Engine) (name : String) : Except EngineFailure (Option Value) :=
  match e.activity with
  | .idle s => .ok (s.scope.get? name)
  | _ => .error .busy

/-- The release, while nothing runs. -/
def askRelease (e : Engine) : Except EngineFailure Release :=
  match e.activity with
  | .idle _ =>
    match e.release with
    | some release => .ok release
    | none => .error (.runtime .noVersion none)
  | _ => .error .busy

/-! ### Steps -/

/-- The result of a caller. -/
def answer (e : Engine) (ticket : Nat) (outcome : Outcome) : Engine :=
  { e with results := e.results ++ [(ticket, outcome)] }

/-- The commands that are refused when a stop is left. -/
def refusals : List StopRequest → List (Nat × Outcome)
  | [] => []
  | .command ticket _ :: rest => (ticket, .error .notStopped) :: refusals rest
  | .verb _ :: rest => refusals rest

/-- The state behind a run. -/
def closeRun (s : Interpreter) : Interpreter :=
  (s.setAvailability .available).emit .idle

/-- The state in which a command inside a stop begins. -/
def openNested (s : Interpreter) : Interpreter :=
  { s with frame := ⟨none, s.frame.line⟩, nested := s.nested + 1 }

/-- The state behind a command inside a stop. -/
def closeNested (frame : Frame) (s : Interpreter) : Interpreter :=
  { s with frame := frame, nested := s.nested - 1 }

/-- The execution that waits in a stop, when a command inside the stop has come to an end. -/
def Waiting.execution (waiting : Waiting) (s : Interpreter) : Execution :=
  ⟨.stopped waiting.stop (closeNested waiting.frame s) waiting.resume, waiting.callers⟩

/-- One request taken from the inbox of a stopped execution. -/
def serve (e : Engine) (ticket : Nat) (waiting : Waiting) (s : Interpreter) : Option Engine :=
  match e.inbox with
  | [] => none
  | .command asker pipeline :: rest =>
    let run := evalPipeline e.files pipeline (openNested s)
    some { e with inbox := rest, activity := .nested ticket waiting asker (.ofRun run) }
  | .verb verb :: rest =>
    some { e with
      inbox := []
      activity := .running ticket ⟨waiting.resume verb s, waiting.callers⟩
      results := e.results ++ refusals rest }

/-- One step of the engine by itself, if there is one. -/
def step (e : Engine) : Option Engine :=
  match e.activity with
  | .idle _ => none
  | .running ticket ⟨.done outcome s, []⟩ =>
    some ({ e with activity := .idle (closeRun s) }.answer ticket outcome)
  | .running ticket ⟨.stopped stop s resume, callers⟩ =>
    e.serve ticket ⟨stop, s.frame, resume, callers⟩ s
  | .running ticket execution =>
    (execution.step e.files).map fun execution => { e with activity := .running ticket execution }
  | .nested ticket waiting asker ⟨.done outcome s, []⟩ =>
    some ({ e with activity := .running ticket (waiting.execution s) }.answer asker outcome)
  | .nested ticket waiting asker execution =>
    (execution.step e.files).map fun execution =>
      { e with activity := .nested ticket waiting asker execution }

/-- All steps until the engine is idle or waits in a stop. -/
def settle (e : Engine) : Engine :=
  exhaust step stepLimit e

end Engine

end ShellSession
