/-
**Executions.**

A run that calls a script file is put aside until the file has been run, in a frame of its own. An
execution is the run in hand together with the callers put aside; their number is how deep script
files have called each other.

* `Execution.step`: one step that nobody has to answer: past the look of the debugger, into a script
  file, or back to a caller;
* `Execution.end?`: the outcome of an execution without callers, and the state it has left;
* `Execution.stop?`: the stop that an execution waits in.
-/

import ShellSession.Engine.Evaluate

namespace ShellSession.Engine

/-- A caller put aside: the frame to which it goes back, and what remains of it. -/
structure Caller where
  frame : Frame
  back : Outcome → Interpreter → Run (List Value)

/-- The run in hand, and the callers put aside, the innermost one first. -/
structure Execution where
  run : Run (List Value)
  callers : List Caller

namespace Execution

/-- The execution of a run without callers. -/
def ofRun (run : Run (List Value)) : Execution :=
  ⟨run, []⟩

/-- The state of the interpreter. -/
def state (x : Execution) : Interpreter :=
  x.run.state

/-- The execution with another state to go on in. -/
def withState (s : Interpreter) (x : Execution) : Execution :=
  { x with run := x.run.withState s }

/-- The stop that an execution waits in. -/
def stop? (x : Execution) : Option Stop :=
  x.run.stop?

/-- The outcome of an execution without callers, and the state it has left. -/
def end? (x : Execution) : Option (Outcome × Interpreter) :=
  match x.run, x.callers with
  | .done outcome s, [] => some (outcome, s)
  | _, _ => none

/-- The run of a script file on behalf of a caller. -/
def enter (files : Files) (file text : String) (s : Interpreter) : Run (List Value) :=
  runText files text { s with frame := ⟨some file, s.frame.line⟩ }

/-- What remains of a caller, when the file that it called has come to an end. -/
def leave (caller : Caller) (outcome : Outcome) (s : Interpreter) : Run (List Value) :=
  caller.back outcome { s with frame := caller.frame }

/-- One step that nobody has to answer. -/
def step (files : Files) (x : Execution) : Option Execution :=
  match x.run, x.callers with
  | .ready s go, callers => some ⟨go s, callers⟩
  | .calling file text s back, callers =>
    some ⟨enter files file text s, ⟨s.frame, back⟩ :: callers⟩
  | .done outcome s, caller :: callers => some ⟨leave caller outcome s, callers⟩
  | .done _ _, [] => none
  | .stopped _ _ _, _ => none

end Execution

end ShellSession.Engine
