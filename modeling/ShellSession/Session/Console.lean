/-
**Host output.**

A request may show its input, its output and its failure to the host, line by line.

* `reported`: the lines that a pipeline and its outcome show;
* `failureText`: a failure as a host shows it.
-/

import ShellSession.Engine.Failure
import ShellSession.Pipeline

namespace ShellSession

/-- Whether a line reports an error. -/
inductive Tone where
  | normal
  | error
deriving Repr, DecidableEq

/-- The label of a tone. -/
def Tone.label : Tone → String
  | normal => "normal"
  | error => "error"

/-- A line of host output. -/
structure Line where
  tone : Tone
  text : String
deriving Repr, DecidableEq

/-- What a request shows to the host. -/
structure Showing where
  input : Bool
  output : Bool
  errors : Bool
deriving Repr, DecidableEq

namespace Showing

/-- Failures only, as for commands. -/
def commands : Showing :=
  ⟨false, false, true⟩

/-- Output and failures, as for scripts. -/
def scripts : Showing :=
  ⟨false, true, true⟩

/-- Nothing. -/
def silent : Showing :=
  ⟨false, false, false⟩

end Showing

/-- A failure as a host shows it: the wording, and the position on a line of its own. -/
def failureText (error : EngineFailure) : String :=
  match error.position? with
  | none => error.message
  | some position =>
    error.message ++ "\nAt " ++ position.file.getD "line" ++ ":" ++
      Decimal.natText position.place.line ++ " char:" ++ Decimal.natText position.place.column

/-- The line that shows a pipeline. -/
def inputLine (pipeline : Pipeline) : Line :=
  ⟨.normal, "> " ++ pipeline.display⟩

/-- The lines that a pipeline and its outcome show. -/
def reported (showing : Showing) (pipeline : Pipeline) (outcome : Except EngineFailure (List Value)) :
    List Line :=
  let input := if showing.input then [inputLine pipeline] else []
  let rest := match outcome with
    | .ok values => if showing.output then values.map fun value => ⟨.normal, value.display⟩ else []
    | .error error => if showing.errors then [⟨.error, failureText error⟩] else []
  input ++ rest

end ShellSession
