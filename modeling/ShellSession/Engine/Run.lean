/-
**Runs.**

An evaluation either ends, or comes to the point before a statement where the debugger looks, or
stops in the debugger and waits for a verb, or calls a script file and waits for its outcome. What
remains of it is a function of the state in which it goes on, so that others may act on the state in
between.

* `Run.andThen`, `Eval.bind`: one evaluation after another;
* `callFile`: the call of a script file;
* `mayStop`: the look of the debugger before a statement;
* `stopFor`: a stop, up to the verb that leaves it.
-/

import ShellSession.Engine.Failure
import ShellSession.Engine.Interpreter

namespace ShellSession.Engine

/-- What an evaluation gives in the end. -/
abbrev Outcome := Except EngineFailure (List Value)

/-- An evaluation and what remains of it. -/
inductive Run (α : Type) where
  | done (result : Except EngineFailure α) (state : Interpreter)
  | ready (state : Interpreter) (go : Interpreter → Run α)
  | stopped (stop : Stop) (state : Interpreter) (resume : Verb → Interpreter → Run α)
  | calling (file text : String) (state : Interpreter) (back : Outcome → Interpreter → Run α)

namespace Run

/-- The state that a run has reached. -/
def state {α : Type} : Run α → Interpreter
  | done _ s => s
  | ready s _ => s
  | stopped _ s _ => s
  | calling _ _ s _ => s

/-- The run with another state to go on in. -/
def withState {α : Type} (s : Interpreter) : Run α → Run α
  | done result _ => done result s
  | ready _ go => ready s go
  | stopped stop _ resume => stopped stop s resume
  | calling file text _ back => calling file text s back

/-- The run with an evaluation behind its end. -/
def andThen {α β : Type} (next : Except EngineFailure α → Interpreter → Run β) : Run α → Run β
  | done result s => next result s
  | ready s go => ready s fun s => andThen next (go s)
  | stopped stop s resume => stopped stop s fun verb s => andThen next (resume verb s)
  | calling file text s back => calling file text s fun outcome s => andThen next (back outcome s)

/-- The stop that a run waits in. -/
def stop? {α : Type} : Run α → Option Stop
  | stopped stop _ _ => some stop
  | _ => none

end Run

/-- Evaluations: runs that begin in any state. -/
abbrev Eval (α : Type) := Interpreter → Run α

namespace Eval

/-- The evaluation that gives a value and changes nothing. -/
def pure {α : Type} (a : α) : Eval α := fun s =>
  .done (.ok a) s

/-- The evaluation that fails. -/
def throw {α : Type} (error : EngineFailure) : Eval α := fun s =>
  .done (.error error) s

/-- One evaluation after another, unless the first fails. -/
def bind {α β : Type} (first : Eval α) (next : α → Eval β) : Eval β := fun s =>
  (first s).andThen fun
    | .ok a, s => next a s
    | .error error, s => .done (.error error) s

instance : Monad Eval where
  pure := pure
  bind := bind

/-- The evaluation that fails with a cause that has no position yet. -/
def fail {α : Type} (fault : Fault) : Eval α :=
  throw (.runtime fault none)

/-- A computation without effects, as an evaluation. -/
def ofExcept {α : Type} : Except Fault α → Eval α
  | .ok a => pure a
  | .error fault => fail fault

/-- A change of the state. -/
def modify (f : Interpreter → Interpreter) : Eval Unit := fun s =>
  .done (.ok ()) (f s)

/-- The state. -/
def get : Eval Interpreter := fun s =>
  .done (.ok s) s

/-- An evaluation whose failures are changed. -/
def mapError {α : Type} (f : EngineFailure → EngineFailure) (first : Eval α) : Eval α := fun s =>
  (first s).andThen fun
    | .ok a, s => .done (.ok a) s
    | .error error, s => .done (.error (f error)) s

end Eval

/-- The call of a script file with its text; its outcome is that of the caller. -/
def callFile (file text : String) : Eval (List Value) := fun s =>
  .calling file text s .done

/-- The state in a stop: open to nested commands, the stop being reported. -/
def enterStop (stop : Stop) (s : Interpreter) : Interpreter :=
  (s.setAvailability .nested).emit (.stopped stop)

/-- The state behind a stop: the verb decides on step mode. -/
def leaveStop (verb : Verb) (s : Interpreter) : Interpreter :=
  { s.setAvailability .busy with stepping := verb.isStep }

/-- A stop, up to the verb that leaves it. The verb `stop` ends the whole evaluation. -/
def stopFor (cause : StopCause) : Eval Unit := fun s =>
  let stop : Stop := ⟨cause, s.frame.line⟩
  .stopped stop (enterStop stop s) fun verb s =>
    .done (if verb = .stop then .error .stopped else .ok ()) (leaveStop verb s)

/-- The look of the debugger before a statement; nested commands are not stopped. -/
def mayStop : Eval Unit := fun s =>
  if 0 < s.nested then .done (.ok ()) s
  else
    .ready s fun s =>
      match s.pending? with
      | some cause => stopFor cause s
      | none => .done (.ok ()) s

end ShellSession.Engine
