/-
**Requests.**

A request is attempted until an attempt comes back with anything but a busy engine. An attempt is a
routine: it asks the engine, writes to the host, and ends with a result, a panic, or the word that
the engine was busy.

* `Payload.attempt`: the routine of an attempt, given its number;
* `Payload.startup`: the question for the engine's release;
* `decoded`: the output of a pipeline as the caller wants it.
-/

import ShellSession.Script.Path
import ShellSession.Session.Dialect
import ShellSession.Session.Console
import ShellSession.Work.Ending

namespace ShellSession

/-- What a completed request gives to its caller. -/
inductive Answer where
  | release (release : Release)
  | value (value : Value)
  | items (shape : Shape) (items : List shape.Item)
  | nothing

/-- The result of a request. -/
abbrev Result := Except SessionFailure Answer

/-- Why a request that has run failed: in the engine, or because its output has another shape. -/
inductive Shortfall where
  | execution (error : EngineFailure)
  | decode (mismatch : Mismatch)

/-- The failure that the caller of a request is told. -/
def Shortfall.failure : Shortfall → SessionFailure
  | execution error => .execution error
  | decode mismatch => .decode mismatch

/-- What a request that has run came to. -/
abbrev Conclusion := Except Shortfall Answer

/-- One attempt at a request. Lines are shown to the host only once the attempt is known not to come
back busy. -/
inductive Routine where
  | busy
  | complete (conclusion : Conclusion)
  | panic (payload : PanicPayload)
  | report (lines : List Line) (conclusion : Conclusion)
  | invoke (pipeline : Pipeline) (next : Except EngineFailure (List Value) → Routine)
  | askVariable (name : String) (next : Except EngineFailure (Option Value) → Routine)
  | askRelease (next : Except EngineFailure Release → Routine)

/-- What a request does: any routine for each attempt, or a pipeline whose output is shown to the
host and read at a shape, or dropped. -/
inductive Payload where
  | function (routine : Nat → Routine)
  | pipeline (pipeline : Pipeline) (showing : Showing) (shape : Option Shape)

/-- The output of a pipeline as the caller wants it. -/
def decoded (shape : Option Shape) (values : List Value) : Conclusion :=
  match shape with
  | none => .ok .nothing
  | some shape =>
    match shape.decodeAll values with
    | .ok items => .ok (.items shape items)
    | .error mismatch => .error (.decode mismatch)

namespace Routine

/-- Whether a routine comes back busy when the engine answers all its questions as busy. -/
def isHeldBack : Routine → Bool
  | busy => true
  | complete _ => false
  | panic _ => false
  | report _ _ => false
  | invoke _ next => (next (.error .busy)).isHeldBack
  | askVariable _ next => (next (.error .busy)).isHeldBack
  | askRelease next => (next (.error .busy)).isHeldBack

/-- The end of a routine with what the engine said. -/
def finish : Except EngineFailure Value → Routine
  | .ok value => complete (.ok (.value value))
  | .error .busy => busy
  | .error error => complete (.error (.execution error))

/-- The end of a routine with the outcome of a pipeline. -/
def finishPipeline (pipeline : Pipeline) (showing : Showing) (shape : Option Shape) :
    Except EngineFailure (List Value) → Routine
  | .error .busy => busy
  | .error error =>
    report (reported showing pipeline (.error error)) (.error (.execution error))
  | .ok values =>
    report (reported showing pipeline (.ok values)) (decoded shape values)

end Routine

namespace Payload

/-- The routine of an attempt, counted from one. -/
def attempt (number : Nat) : Payload → Routine
  | .function routine => routine number
  | .pipeline stages showing shape =>
    .invoke stages (Routine.finishPipeline stages showing shape)

/-- Whether `count` attempts in a row, from a number on, come back busy from a held engine. -/
def isHeldBack (payload : Payload) : (count number : Nat) → Bool
  | 0, _ => true
  | count + 1, number =>
    (payload.attempt number).isHeldBack && payload.isHeldBack count (number + 1)

/-- The question for the engine's release, which falls back on another one when the engine has
none. -/
def startup (fallback : Release) : Payload :=
  function fun _ => .askRelease fun
    | .ok release => .complete (.ok (.release release))
    | .error .busy => .busy
    | .error _ => .complete (.ok (.release fallback))

/-- The question for a variable, `null` when it is undefined. -/
def askVariable (name : String) : Payload :=
  function fun _ => .askVariable name fun outcome => .finish (outcome.map (·.getD .null))

/-- The output of a pipeline as a list. -/
def invoke (pipeline : Pipeline) : Payload :=
  function fun _ => .invoke pipeline fun outcome => .finish (outcome.map Value.list)

/-- A script text, its output and failures being shown. -/
def script (text : String) : Payload :=
  pipeline (.script text) .scripts (some .any)

/-- The script file at a path. With arguments the escaped path and the arguments are read as a
script; without them the path is called as a command. -/
def scriptAt (path : String) (arguments : Option String) : Payload :=
  match arguments with
  | some arguments => script (Script.Path.escape path true ++ " " ++ arguments)
  | none => pipeline ⟨[.command path []]⟩ .scripts (some .any)

end Payload

/-- A request in the queue of a session. -/
structure Request where
  id : Nat
  payload : Payload

end ShellSession
