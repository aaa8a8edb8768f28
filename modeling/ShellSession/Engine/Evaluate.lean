/-
**Evaluating scripts.**

Expressions, pipelines and statements are evaluated from left to right. A command that is not built
in calls the script file of its name, as part of the same session: named arguments become variables,
positional ones the list `args`. The run of a text does not go into the files that it calls; it
waits for their outcomes.

* `call`: a command call;
* `evalExpr`, `evalSegments`: expressions and pipelines;
* `evalStatement`, `runText`: a statement and a text;
* `evalPipeline`: the pipeline of a host.
-/

import ShellSession.Engine.Builtin
import ShellSession.Files
import ShellSession.Script.Reading

namespace ShellSession.Engine

open Script

/-! ### Command calls -/

/-- The named arguments as variables; one without a value is true. -/
def bindNamed : List (String × Option Value) → Interpreter → Interpreter
  | [], s => s
  | (name, value) :: rest, s => bindNamed rest (s.setVariable name (value.getD (.bool true)))

/-- The arguments of a script file as variables. -/
def bindArguments (arguments : Arguments) (s : Interpreter) : Interpreter :=
  (bindNamed arguments.named s).setVariable "args" (.list arguments.positional)

/-- The output of a script file. -/
def runFile (files : Files) (name : String) (arguments : Arguments) : Eval (List Value) := fun s =>
  if files.isFile name then
    match files.readText name with
    | .error fault => Eval.fail (.unreadableScript name fault.message) s
    | .ok text => callFile name text (bindArguments arguments s)
  else Eval.fail (.unknownCommand name) s

/-- The output of a command, built in or of a script file. -/
def call (files : Files) (name : String) (arguments : Arguments) (input : List Value) :
    Eval (List Value) :=
  match Builtin.ofName? name with
  | some builtin => builtin.run arguments input
  | none => runFile files name arguments

/-! ### Expressions and pipelines -/

/-- The value of a variable, `null` when there is none. -/
def readVariable (name : String) : Eval Value := fun s =>
  .done (.ok ((s.scope.get? name).getD .null)) s

mutual

/-- The value of an expression. -/
def evalExpr (files : Files) : Expr → Eval Value
  | .literal value => Eval.pure value
  | .reference name => readVariable name
  | .binary left operator right => do
    let a ← evalExpr files left
    let b ← evalExpr files right
    Eval.ofExcept (combine operator a b)
  | .negate operand => do
    let a ← evalExpr files operand
    Eval.ofExcept (negate a)
  | .list items => do
    let values ← evalItems files items
    pure (.list values)
  | .group segments => do
    let output ← evalSegments files segments
    pure (.ofOutput output)

/-- The values of expressions. -/
def evalItems (files : Files) : List Expr → Eval (List Value)
  | [] => Eval.pure []
  | item :: rest => do
    let value ← evalExpr files item
    let values ← evalItems files rest
    pure (value :: values)

/-- The output of the segments of a pipeline. -/
def evalSegments (files : Files) : List Segment → Eval (List Value)
  | [] => Eval.pure []
  | .expr expr :: rest => do
    let value ← evalExpr files expr
    evalFurther files rest value.items
  | .call name arguments :: rest => do
    let evaluated ← evalArguments files arguments
    let output ← call files name evaluated []
    evalFurther files rest output

/-- The output of the segments behind the first, which have to be calls. -/
def evalFurther (files : Files) : List Segment → List Value → Eval (List Value)
  | [], input => Eval.pure input
  | .expr _ :: _, _ => Eval.fail .expressionBehindPipe
  | .call name arguments :: rest, input => do
    let evaluated ← evalArguments files arguments
    let output ← call files name evaluated input
    evalFurther files rest output

/-- The evaluated arguments of a call. -/
def evalArguments (files : Files) : List Argument → Eval Arguments
  | [] => Eval.pure .none
  | .named name none :: rest => do
    let others ← evalArguments files rest
    pure (others.cons (.switch name))
  | .named name (some expr) :: rest => do
    let value ← evalExpr files expr
    let others ← evalArguments files rest
    pure (others.cons (.named name value))
  | .positional expr :: rest => do
    let value ← evalExpr files expr
    let others ← evalArguments files rest
    pure (others.cons (.positional value))

end

/-! ### Statements -/

/-- The value that an assignment gives to a variable. -/
def assigned (operator : Option Operator) (old new : Value) : Except Fault Value :=
  match operator with
  | none => .ok new
  | some operator => combine operator old new

/-- The output of a statement. -/
def evalAction (files : Files) : Action → Eval (List Value)
  | .assign name operator segments => do
    let output ← evalSegments files segments
    let old ← readVariable name
    let value ← Eval.ofExcept (assigned operator old (.ofOutput output))
    Eval.modify fun s => s.setVariable name value
    pure []
  | .raise none => Eval.fail (.thrown "ScriptHalted")
  | .raise (some expr) => do
    let value ← evalExpr files expr
    Eval.fail (.thrown value.display)
  | .run segments => evalSegments files segments

/-- The error with the position of a statement of the running text. -/
def locating {α : Type} (place : Place) (evaluation : Eval α) : Eval α := fun s =>
  Eval.mapError (EngineFailure.locate ⟨s.frame.file, place⟩) evaluation s

/-- The state at a line of the running text. -/
def atLine (line : Nat) (s : Interpreter) : Interpreter :=
  { s with frame := { s.frame with line := line } }

/-- The output of a statement, the debugger having looked before it. -/
def evalStatement (files : Files) (statement : Statement) : Eval (List Value) := do
  Eval.modify (atLine statement.place.line)
  mayStop
  locating statement.place (evalAction files statement.action)

/-- The output of statements in a row behind the output so far, which is kept backwards. -/
def evalStatements (files : Files) (before : List Value) : List Statement → Eval (List Value)
  | [] => Eval.pure before.reverse
  | statement :: rest => do
    let output ← evalStatement files statement
    evalStatements files (output.reverseAux before) rest

/-- The output of a text, refused with the position in it when it is no script. -/
def runText (files : Files) (text : String) : Eval (List Value) := fun s =>
  match Script.read text with
  | .error ⟨fault, place⟩ => Eval.throw (.parse fault ⟨s.frame.file, place⟩) s
  | .ok statements => evalStatements files [] statements s

/-! ### Pipelines of a host -/

/-- The output of a stage that receives an input. -/
def evalStage (files : Files) (input : List Value) : Stage → Eval (List Value)
  | .script text => runText files text
  | .command name parameters => call files name (.ofParameters parameters) input

/-- The output of stages, each receiving the output of the one before. -/
def evalStages (files : Files) (input : List Value) : List Stage → Eval (List Value)
  | [] => Eval.pure input
  | stage :: rest => do
    let output ← evalStage files input stage
    evalStages files output rest

/-- The output of the pipeline of a host. -/
def evalPipeline (files : Files) (pipeline : Pipeline) : Eval (List Value) :=
  evalStages files [] pipeline.stages

end ShellSession.Engine
