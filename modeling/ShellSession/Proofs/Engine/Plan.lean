/-
**Pipelines without a debugger.**

What a pipeline of a host does, apart from debugging, is a plan: it ends; or it has reached a statement;
or it calls a command; or it sets a variable. What comes next depends on the state that is found then. A
statement is reached before anything of it is evaluated. A failure inside a statement is given the
position of the statement, and so is the failure of a call that has none yet; nothing goes on behind it.

The debugger comes in where a plan is carried out: it looks at every statement that is reached.

* `Plan`, `plan`: plans, and the plan of a pipeline;
* `Plan.debugged`: a plan carried out under the debugger;
* `evalPipeline_planned`: **a pipeline is evaluated as its plan, carried out under the debugger**;
* `Plan.Placed`, `plan_placed`: **the commands of a statement are called at its place**.
-/

import ShellSession.Proofs.Engine.Draft

namespace ShellSession.Engine

open Script

/-! ### Plans -/

/-- What is still to be done, apart from debugging. -/
inductive Plan where
  | ended (result : Outcome)
  | reached (statement : Statement) (go : Interpreter → Plan)
  | calls (position : Option Position) (name : String) (arguments : Arguments) (input : List Value)
      (next : List Value → Interpreter → Plan)
  | assigns (name : String) (value : Value) (next : Interpreter → Plan)

/-- A failure with the position of the statement that it arises in, if it arises in one. -/
def located : Option Position → EngineFailure → EngineFailure
  | none, error => error
  | some position, error => error.locate position

/-- What comes behind a call: nothing, when it has failed. -/
def proceed (position : Option Position) (next : List Value → Interpreter → Plan) :
    Outcome → Interpreter → Plan
  | .ok output, s => next output s
  | .error error, _ => .ended (.error (located position error))

/-- The plan of a statement with a position, from its draft, with a plan behind it. -/
def Draft.planned (position : Position) (next : List Value → Interpreter → Plan) :
    Draft Yield → Interpreter → Plan
  | .ended (.ok ⟨output, none⟩), s => next output s
  | .ended (.ok ⟨output, some (name, value)⟩), _ => .assigns name value (next output)
  | .ended (.error fault), _ => .ended (.error (.runtime fault (some position)))
  | .calls name arguments input further, _ =>
    .calls (some position) name arguments input fun output s =>
      planned position next (further output s) s

/-- The plan of statements in a row, behind the output so far, with a plan behind them. -/
def planStatements (next : List Value → Interpreter → Plan) :
    List Value → List Statement → Interpreter → Plan
  | before, [], s => next before.reverse s
  | before, statement :: rest, _ =>
    .reached statement fun s =>
      (draftAction statement.action s).planned ⟨s.frame.file, statement.place⟩
        (fun output => planStatements next (output.reverseAux before) rest) s

/-- The plan of a text, with a plan behind it. -/
def planText (text : String) (next : List Value → Interpreter → Plan) (s : Interpreter) : Plan :=
  match Script.read text with
  | .error ⟨fault, place⟩ => .ended (.error (.parse fault ⟨s.frame.file, place⟩))
  | .ok statements => planStatements next [] statements s

/-- The end of a text. -/
def ending (output : List Value) (_ : Interpreter) : Plan :=
  .ended (.ok output)

/-- The plan of stages, each receiving the output of the one before. -/
def planStages : List Value → List Stage → Interpreter → Plan
  | input, [], _ => .ended (.ok input)
  | _, .script text :: rest, s => planText text (fun output => planStages output rest) s
  | input, .command name parameters :: rest, _ =>
    .calls none name (.ofParameters parameters) input fun output => planStages output rest

/-- The plan of the pipeline of a host. -/
def plan (pipeline : Pipeline) : Interpreter → Plan :=
  planStages [] pipeline.stages

/-! ### Plans under the debugger -/

/-- A plan carried out under the debugger, which looks at every statement that is reached. -/
def Plan.debugged (files : Files) : Plan → Eval (List Value)
  | ended result => fun s => .done result s
  | reached statement go => fun s =>
    Eval.bind mayStop (fun _ t => debugged files (go t) t) (atLine statement.place.line s)
  | calls position name arguments input next =>
    Eval.bind (Eval.mapError (located position) (call files name arguments input)) fun output t =>
      debugged files (next output t) t
  | assigns name value next => fun s =>
    debugged files (next (s.setVariable name value)) (s.setVariable name value)

variable {files : Files} {next : List Value → Interpreter → Plan}
  {further : List Value → Eval (List Value)}

/-- An evaluation that is what a plan comes to under the debugger. -/
def Planned (files : Files) (next : List Value → Interpreter → Plan)
    (further : List Value → Eval (List Value)) : Prop :=
  ∀ output s, further output s = (next output s).debugged files s

/-- What is left of a draft is planned. -/
theorem Draft.planned_debugged (behind : Planned files next further) (position : Position)
    (draft : Draft Yield) : ∀ s,
      Eval.bind (Eval.mapError (EngineFailure.locate position)
        (Eval.bind (draft.evaluated files) Yield.perform)) further s =
      (draft.planned position next s).debugged files s := by
  induction draft with
  | ended result =>
    intro s
    cases result with
    | error fault => rfl
    | ok yielded =>
      obtain ⟨output, assigned⟩ := yielded
      cases assigned with
      | none => exact behind output s
      | some pair => exact behind output (s.setVariable pair.1 pair.2)
  | calls name arguments input following ih =>
    intro s
    show Eval.bind (Eval.mapError _ (Eval.bind (Eval.bind (call files name arguments input) _) _)) _ s =
      Eval.bind (Eval.mapError _ (call files name arguments input)) _ s
    rw [Eval.bind_bind, Eval.mapError_bind, Eval.bind_bind]
    refine congrArg (fun rest => Eval.bind (Eval.mapError _ (call files name arguments input)) rest s) ?_
    funext output t
    exact ih output t t

/-- A statement with an evaluation behind it: the debugger looks at its line first. -/
theorem evalStatement_bind (files : Files) (statement : Statement)
    (further : List Value → Eval (List Value)) (s : Interpreter) :
    Eval.bind (evalStatement files statement) further s =
      Eval.bind mayStop (fun _ =>
        Eval.bind (locating statement.place (evalAction files statement.action)) further)
        (atLine statement.place.line s) := by
  have split : evalStatement files statement =
      Eval.bind (Eval.modify (atLine statement.place.line)) fun _ =>
        Eval.bind mayStop fun _ => locating statement.place (evalAction files statement.action) := rfl
  rw [split, Eval.bind_bind]
  exact congrFun (Eval.bind_bind mayStop _ further) (atLine statement.place.line s)

/-- **Statements in a row are evaluated as planned.** -/
theorem planStatements_debugged (behind : Planned files next further) (statements : List Statement) :
    ∀ before s, Eval.bind (evalStatements files before statements) further s =
      (planStatements next before statements s).debugged files s := by
  induction statements with
  | nil => exact fun before s => behind before.reverse s
  | cons statement rest ih =>
    intro before s
    have later : Planned files (fun output => planStatements next (output.reverseAux before) rest)
        fun output => Eval.bind (evalStatements files (output.reverseAux before) rest) further :=
      fun output t => ih (output.reverseAux before) t
    have split : evalStatements files before (statement :: rest) =
        Eval.bind (evalStatement files statement) fun output =>
          evalStatements files (output.reverseAux before) rest := rfl
    rw [split, Eval.bind_bind, evalStatement_bind]
    refine congrArg (fun rest => Eval.bind mayStop rest (atLine statement.place.line s)) ?_
    funext _ t
    rw [← Draft.planned_debugged later]
    show Run.andThen _ (Run.andThen _ (evalAction files statement.action t)) = _
    rw [draftAction_performed files statement.action t]
    rfl

/-- **A text is evaluated as planned.** -/
theorem planText_debugged (behind : Planned files next further) (text : String) (s : Interpreter) :
    Eval.bind (runText files text) further s = (planText text next s).debugged files s := by
  show (runText files text s).andThen _ = _
  unfold runText planText
  cases Script.read text with
  | error refused => rfl
  | ok statements => exact planStatements_debugged behind statements [] s

/-- A text with nothing behind it is evaluated as planned. -/
theorem runText_planned (files : Files) (text : String) (s : Interpreter) :
    runText files text s = (planText text ending s).debugged files s := by
  have behind : Planned files ending Eval.pure := fun _ _ => rfl
  rw [← planText_debugged behind, Eval.bind_pure]

/-- **A pipeline is evaluated as its plan, carried out under the debugger.** -/
theorem evalPipeline_planned (files : Files) (pipeline : Pipeline) (s : Interpreter) :
    evalPipeline files pipeline s = (plan pipeline s).debugged files s := by
  suffices planned : ∀ stages, Planned files (fun input => planStages input stages)
      fun input => evalStages files input stages from planned pipeline.stages [] s
  intro stages
  induction stages with
  | nil => exact fun input s => rfl
  | cons stage rest ih =>
    intro input s
    cases stage with
    | script text => exact planText_debugged ih text s
    | command name parameters =>
      have unlocated : Eval.mapError (located none)
          (call files name (.ofParameters parameters) input) =
          call files name (.ofParameters parameters) input := by
        refine Eq.trans ?_ (Eval.bind_pure _)
        funext t
        refine congrArg (fun rest => Run.andThen rest _) (funext fun result => funext fun u => ?_)
        cases result <;> rfl
      show Eval.bind (call files name (.ofParameters parameters) input) _ s =
        Eval.bind (Eval.mapError (located none) _) _ s
      rw [unlocated]
      exact congrArg (fun rest => Eval.bind _ rest s) (funext fun output => funext (ih output))

/-! ### Places -/

/-- A plan whose statements call commands in the frame of the statement, as long as nothing else moves
the frame. -/
def Plan.Placed : Plan → Frame → Prop
  | ended _, _ => True
  | reached statement go, frame =>
    ∀ t : Interpreter, t.frame = ⟨frame.file, statement.place.line⟩ → Placed (go t) t.frame
  | calls position _ _ _ next, frame =>
    (∀ here, position = some here → frame = ⟨here.file, here.place.line⟩) ∧
      ∀ output (t : Interpreter), t.frame = frame → Placed (next output t) frame
  | assigns _ _ next, frame => ∀ t : Interpreter, t.frame = frame → Placed (next t) frame

/-- What stands behind a draft is placed wherever it begins, and so is the draft. -/
theorem Draft.planned_placed (behind : ∀ output (t : Interpreter), (next output t).Placed t.frame)
    (position : Position) (draft : Draft Yield) : ∀ s : Interpreter,
      s.frame = ⟨position.file, position.place.line⟩ →
        (draft.planned position next s).Placed s.frame := by
  induction draft with
  | ended result =>
    intro s here
    cases result with
    | error fault => exact trivial
    | ok yielded =>
      obtain ⟨output, assigned⟩ := yielded
      cases assigned with
      | none => exact behind output s
      | some pair => exact fun t same => same ▸ behind output t
  | calls name arguments input following ih =>
    intro s here
    refine ⟨fun other same => ?_, fun output t same => ?_⟩
    · cases same
      exact here
    · exact same ▸ ih output t t (same.trans here)

theorem planStatements_placed (behind : ∀ output (t : Interpreter), (next output t).Placed t.frame)
    (statements : List Statement) : ∀ before (s : Interpreter),
      (planStatements next before statements s).Placed s.frame := by
  induction statements with
  | nil => exact fun before s => behind before.reverse s
  | cons statement rest ih =>
    intro before s t here
    refine Draft.planned_placed (fun output u => ih (output.reverseAux before) u) _ _ t ?_
    rw [here]

theorem ending_placed (output : List Value) (s : Interpreter) : (ending output s).Placed s.frame :=
  trivial

theorem planText_placed (behind : ∀ output (t : Interpreter), (next output t).Placed t.frame)
    (text : String) (s : Interpreter) : (planText text next s).Placed s.frame := by
  unfold planText
  split
  · exact trivial
  · exact planStatements_placed behind _ [] s

/-- **The commands of a statement are called at its place.** -/
theorem plan_placed (pipeline : Pipeline) (s : Interpreter) : (plan pipeline s).Placed s.frame := by
  suffices placed : ∀ stages input (s : Interpreter), (planStages input stages s).Placed s.frame from
    placed pipeline.stages [] s
  intro stages
  induction stages with
  | nil => exact fun input s => trivial
  | cons stage rest ih =>
    intro input s
    cases stage with
    | script text => exact planText_placed ih text s
    | command name parameters => exact ⟨nofun, fun output t same => same ▸ ih output t⟩

end ShellSession.Engine
