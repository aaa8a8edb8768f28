/-
**Evaluations with their command calls left open.**

All that an expression, a pipeline or a statement does to the interpreter it does by calling commands,
but for the variable that an assignment sets in the end. A draft is an evaluation in which the calls are
left open: it ends with a result, or calls a command and goes on with the output in the state that the
command has left. Nothing goes on behind a call that fails.

* `Draft`, `Draft.evaluated`: drafts, and the evaluations that they stand for;
* `draftExpr`, `draftSegments`, `draftAction`: the drafts of expressions, pipelines and statements;
* `draftAction_performed`: **a statement is evaluated as its draft says**.
-/

import ShellSession.Engine.Evaluate

namespace ShellSession.Engine

open Script

variable {α β γ : Type}

/-! ### Evaluations in a row -/

theorem Run.andThen_andThen (run : Run α) (first : Except EngineFailure α → Interpreter → Run β)
    (second : Except EngineFailure β → Interpreter → Run γ) :
    (run.andThen first).andThen second =
      run.andThen fun result s => (first result s).andThen second := by
  induction run with
  | done result s => rfl
  | ready s go ih => exact congrArg (Run.ready s) (funext ih)
  | stopped stop s resume ih =>
    exact congrArg (Run.stopped stop s) (funext fun verb => funext (ih verb))
  | calling file text s back ih =>
    exact congrArg (Run.calling file text s) (funext fun outcome => funext (ih outcome))

theorem Eval.bind_bind (first : Eval α) (second : α → Eval β) (third : β → Eval γ) :
    Eval.bind (Eval.bind first second) third =
      Eval.bind first fun a => Eval.bind (second a) third := by
  funext s
  refine (Run.andThen_andThen (first s) _ _).trans ?_
  refine congrArg (fun next => (first s).andThen next) (funext fun result => funext fun t => ?_)
  cases result <;> rfl

/-- Changing the failures of evaluations in a row. -/
theorem Eval.mapError_bind (change : EngineFailure → EngineFailure) (first : Eval α)
    (next : α → Eval β) :
    Eval.mapError change (Eval.bind first next) =
      Eval.bind (Eval.mapError change first) fun a => Eval.mapError change (next a) := by
  funext s
  refine (Run.andThen_andThen (first s) _ _).trans ?_
  refine Eq.trans ?_ (Run.andThen_andThen (first s) _ _).symm
  refine congrArg (fun rest => (first s).andThen rest) (funext fun result => funext fun t => ?_)
  cases result <;> rfl

/-- An evaluation with nothing behind it. -/
theorem Eval.bind_pure (evaluation : Eval α) : Eval.bind evaluation Eval.pure = evaluation := by
  funext s
  show (evaluation s).andThen _ = evaluation s
  induction evaluation s with
  | done result t => cases result <;> rfl
  | ready t go ih => exact congrArg (Run.ready t) (funext ih)
  | stopped stop t resume ih =>
    exact congrArg (Run.stopped stop t) (funext fun verb => funext (ih verb))
  | calling file text t back ih =>
    exact congrArg (Run.calling file text t) (funext fun outcome => funext (ih outcome))

/-- A text of one statement is evaluated as the statement. -/
theorem evalPipeline_statement {files : Files} {text : String} {statement : Statement}
    (reads : Script.read text = .ok [statement]) :
    evalPipeline files (.script text) = evalStatement files statement := by
  have kept : (fun output : List Value => Eval.pure (output.reverseAux []).reverse) = Eval.pure :=
    funext fun output => by rw [List.reverseAux_eq, List.append_nil, List.reverse_reverse]
  show Eval.bind (runText files text) Eval.pure = _
  rw [Eval.bind_pure]
  funext s
  unfold runText
  rw [reads]
  show Eval.bind (evalStatement files statement)
    (fun output => Eval.pure (output.reverseAux []).reverse) s = _
  rw [kept, Eval.bind_pure]

/-! ### Drafts -/

/-- An evaluation whose command calls are left open. -/
inductive Draft (α : Type) where
  | ended (result : Except Fault α)
  | calls (name : String) (arguments : Arguments) (input : List Value)
      (next : List Value → Interpreter → Draft α)

/-- Drafts of evaluations that begin in any state. -/
abbrev Drafting (α : Type) := Interpreter → Draft α

namespace Draft

/-- A draft with another behind it, which begins in the state that the first has reached. -/
def andThen (next : α → Drafting β) : Draft α → Drafting β
  | ended (.ok a), s => next a s
  | ended (.error fault), _ => ended (.error fault)
  | calls name arguments input further, _ =>
    calls name arguments input fun output s => andThen next (further output s) s

/-- The evaluation that a draft stands for. -/
def evaluated (files : Files) : Draft α → Eval α
  | ended result => Eval.ofExcept result
  | calls name arguments input next =>
    Eval.bind (call files name arguments input) fun output s => evaluated files (next output s) s

/-- **What stands behind a draft is evaluated behind it.** -/
theorem evaluated_andThen (files : Files) (next : α → Drafting β) (draft : Draft α) :
    ∀ s, (draft.andThen next s).evaluated files s =
      Eval.bind (draft.evaluated files) (fun a t => (next a t).evaluated files t) s := by
  induction draft with
  | ended result =>
    intro s
    cases result <;> rfl
  | calls name arguments input further ih =>
    intro s
    show Eval.bind _ _ s = Eval.bind (Eval.bind _ _) _ s
    rw [Eval.bind_bind]
    exact congrArg (fun rest => Eval.bind (call files name arguments input) rest s)
      (funext fun output => funext fun t => ih output t t)

end Draft

namespace Drafting

/-- The draft that gives a result and changes nothing. -/
def ofExcept (result : Except Fault α) : Drafting α := fun _ =>
  .ended result

/-- The draft of a command call. -/
def call (name : String) (arguments : Arguments) (input : List Value) : Drafting (List Value) :=
  fun _ => .calls name arguments input fun output _ => .ended (.ok output)

/-- The draft that reads a variable. -/
def readVariable (name : String) : Drafting Value := fun s =>
  .ended (.ok ((s.scope.get? name).getD .null))

instance : Monad Drafting where
  pure a := ofExcept (.ok a)
  bind first next := fun s => (first s).andThen next s

end Drafting

/-! ### Expressions, pipelines and statements -/

mutual

/-- The draft of an expression. -/
def draftExpr : Expr → Drafting Value
  | .literal value => pure value
  | .reference name => Drafting.readVariable name
  | .binary left operator right => do
    let a ← draftExpr left
    let b ← draftExpr right
    Drafting.ofExcept (combine operator a b)
  | .negate operand => do
    let a ← draftExpr operand
    Drafting.ofExcept (negate a)
  | .list items => do
    let values ← draftItems items
    pure (.list values)
  | .group segments => do
    let output ← draftSegments segments
    pure (.ofOutput output)

/-- The draft of expressions in a row. -/
def draftItems : List Expr → Drafting (List Value)
  | [] => pure []
  | item :: rest => do
    let value ← draftExpr item
    let values ← draftItems rest
    pure (value :: values)

/-- The draft of the segments of a pipeline. -/
def draftSegments : List Segment → Drafting (List Value)
  | [] => pure []
  | .expr expr :: rest => do
    let value ← draftExpr expr
    draftFurther rest value.items
  | .call name arguments :: rest => do
    let evaluated ← draftArguments arguments
    let output ← Drafting.call name evaluated []
    draftFurther rest output

/-- The draft of the segments behind the first. -/
def draftFurther : List Segment → List Value → Drafting (List Value)
  | [], input => pure input
  | .expr _ :: _, _ => Drafting.ofExcept (.error .expressionBehindPipe)
  | .call name arguments :: rest, input => do
    let evaluated ← draftArguments arguments
    let output ← Drafting.call name evaluated input
    draftFurther rest output

/-- The draft of the arguments of a call. -/
def draftArguments : List Argument → Drafting Arguments
  | [] => pure .none
  | .named name none :: rest => do
    let others ← draftArguments rest
    pure (others.cons (.switch name))
  | .named name (some expr) :: rest => do
    let value ← draftExpr expr
    let others ← draftArguments rest
    pure (others.cons (.named name value))
  | .positional expr :: rest => do
    let value ← draftExpr expr
    let others ← draftArguments rest
    pure (others.cons (.positional value))

end

/-- What a statement comes to: its output, and the variable that it sets in the end. -/
structure Yield where
  output : List Value
  assigned : Option (String × Value)

/-- The end of a statement. -/
def Yield.perform (yielded : Yield) : Eval (List Value) := fun s =>
  match yielded.assigned with
  | none => .done (.ok yielded.output) s
  | some (name, value) => .done (.ok yielded.output) (s.setVariable name value)

/-- The draft of a statement. -/
def draftAction : Action → Drafting Yield
  | .assign name operator segments => do
    let output ← draftSegments segments
    let old ← Drafting.readVariable name
    let value ← Drafting.ofExcept (assigned operator old (.ofOutput output))
    pure ⟨[], some (name, value)⟩
  | .raise none => Drafting.ofExcept (.error (.thrown "ScriptHalted"))
  | .raise (some expr) => do
    let value ← draftExpr expr
    Drafting.ofExcept (.error (.thrown value.display))
  | .run segments => do
    let output ← draftSegments segments
    pure ⟨output, none⟩

/-! ### What drafts stand for -/

/-- An evaluation that is drawn up by a draft. -/
def Drawn (files : Files) (draft : Drafting α) (evaluation : Eval α) : Prop :=
  ∀ s, evaluation s = (draft s).evaluated files s

namespace Drawn

variable {files : Files}

theorem ofExcept (result : Except Fault α) :
    Drawn files (Drafting.ofExcept result) (Eval.ofExcept result) := fun _ => rfl

theorem pure (value : α) : Drawn files (Pure.pure value) (Eval.pure value) := fun _ => rfl

theorem call (name : String) (arguments : Arguments) (input : List Value) :
    Drawn files (Drafting.call name arguments input) (Engine.call files name arguments input) := by
  intro s
  exact congrFun (Eval.bind_pure (Engine.call files name arguments input)).symm s

/-- **A draft behind another.** -/
theorem bind {first : Drafting α} {begun : Eval α} {next : α → Drafting β} {further : α → Eval β}
    (drawn : Drawn files first begun) (nextDrawn : ∀ a, Drawn files (next a) (further a)) :
    Drawn files (first >>= next) (begun >>= further) := by
  intro s
  show (begun s).andThen _ = ((first s).andThen next s).evaluated files s
  rw [Draft.evaluated_andThen, drawn s]
  refine congrArg (fun rest => ((first s).evaluated files s).andThen rest) ?_
  funext result t
  cases result with
  | ok a => exact nextDrawn a t
  | error error => rfl

end Drawn

theorem readVariable_drawn (files : Files) (name : String) :
    Drawn files (Drafting.readVariable name) (readVariable name) := fun _ => rfl

mutual

theorem draftExpr_drawn (files : Files) (expr : Expr) :
    Drawn files (draftExpr expr) (evalExpr files expr) := by
  cases expr with
  | literal value => exact .pure value
  | reference name => exact readVariable_drawn files name
  | binary left operator right =>
    exact (draftExpr_drawn files left).bind fun _ =>
      (draftExpr_drawn files right).bind fun _ => .ofExcept _
  | negate operand => exact (draftExpr_drawn files operand).bind fun _ => .ofExcept _
  | list items => exact (draftItems_drawn files items).bind fun _ => .pure _
  | group segments => exact (draftSegments_drawn files segments).bind fun _ => .pure _

theorem draftItems_drawn (files : Files) (items : List Expr) :
    Drawn files (draftItems items) (evalItems files items) := by
  cases items with
  | nil => exact .pure []
  | cons item rest =>
    exact (draftExpr_drawn files item).bind fun _ =>
      (draftItems_drawn files rest).bind fun _ => .pure _

theorem draftSegments_drawn (files : Files) (segments : List Segment) :
    Drawn files (draftSegments segments) (evalSegments files segments) := by
  match segments with
  | [] => exact .pure []
  | .expr expr :: rest =>
    exact (draftExpr_drawn files expr).bind fun _ => draftFurther_drawn files rest _
  | .call name arguments :: rest =>
    exact (draftArguments_drawn files arguments).bind fun _ =>
      (Drawn.call name _ []).bind fun _ => draftFurther_drawn files rest _

theorem draftFurther_drawn (files : Files) (segments : List Segment) (input : List Value) :
    Drawn files (draftFurther segments input) (evalFurther files segments input) := by
  match segments with
  | [] => exact .pure input
  | .expr _ :: _ => exact .ofExcept _
  | .call name arguments :: rest =>
    exact (draftArguments_drawn files arguments).bind fun _ =>
      (Drawn.call name _ input).bind fun _ => draftFurther_drawn files rest _

theorem draftArguments_drawn (files : Files) (arguments : List Argument) :
    Drawn files (draftArguments arguments) (evalArguments files arguments) := by
  match arguments with
  | [] => exact .pure Arguments.none
  | .named name none :: rest => exact (draftArguments_drawn files rest).bind fun _ => .pure _
  | .named name (some expr) :: rest =>
    exact (draftExpr_drawn files expr).bind fun _ =>
      (draftArguments_drawn files rest).bind fun _ => .pure _
  | .positional expr :: rest =>
    exact (draftExpr_drawn files expr).bind fun _ =>
      (draftArguments_drawn files rest).bind fun _ => .pure _

end

/-- A statement that is drawn up by a draft. -/
def Performed (files : Files) (draft : Drafting Yield) (evaluation : Eval (List Value)) : Prop :=
  ∀ s, evaluation s = Eval.bind ((draft s).evaluated files) Yield.perform s

/-- What a statement does behind the evaluation of its parts. -/
theorem Drawn.performed {files : Files} {first : Drafting α} {begun : Eval α}
    {next : α → Drafting Yield} {further : α → Eval (List Value)} (drawn : Drawn files first begun)
    (nextPerformed : ∀ a, Performed files (next a) (further a)) :
    Performed files (first >>= next) (begun >>= further) := by
  intro s
  show (begun s).andThen _ = (((first s).andThen next s).evaluated files s).andThen _
  rw [Draft.evaluated_andThen, drawn s]
  refine Eq.trans ?_ (Run.andThen_andThen _ _ _).symm
  refine congrArg (fun rest => ((first s).evaluated files s).andThen rest) ?_
  funext result t
  cases result with
  | ok a => exact nextPerformed a t
  | error error => rfl

/-- **A statement is evaluated as its draft says.** -/
theorem draftAction_performed (files : Files) (action : Action) :
    Performed files (draftAction action) (evalAction files action) := by
  match action with
  | .assign name operator segments =>
    exact (draftSegments_drawn files segments).performed fun _ =>
      (readVariable_drawn files name).performed fun _ =>
        (Drawn.ofExcept _).performed fun _ _ => rfl
  | .raise none => exact fun _ => rfl
  | .raise (some expr) => exact (draftExpr_drawn files expr).performed fun _ _ => rfl
  | .run segments =>
    intro s
    have performed : Performed files (draftAction (.run segments))
        (evalSegments files segments >>= Eval.pure) :=
      (draftSegments_drawn files segments).performed fun _ _ => rfl
    exact (congrFun (Eval.bind_pure (evalSegments files segments)) s).symm.trans (performed s)

end ShellSession.Engine
