/-
**Printed pipelines evaluated.**

A pipeline of commands and the script that it is printed as do the same. The script is one statement, at
whose line the debugger looks; its arguments are evaluated to the parameters of the commands; and then the
same commands are called in the same states. A failure without a position is given that of the statement.

* `evalSegments_display`: **the segments that a pipeline is read as are evaluated as the pipeline**;
* `Execution.located`, `Execution.located_step`: an execution whose failures are given a position;
* `concludes_iff`: what a run that nobody disturbs is answered with;
* `display_agrees`: **a pipeline and its printed script agree**.
-/

import ShellSession.Proofs.Engine.Draft
import ShellSession.Proofs.Engine.Undertaking
import ShellSession.Proofs.Script.Printed

namespace ShellSession.Engine

open Script

variable {files : Files}

/-! ### Arguments and calls -/

/-- The expression that a value is read as has the value. -/
theorem evalExpr_expr {value : Value} (printable : value.isPrintable = true) (files : Files) :
    evalExpr files value.expr = Eval.pure value := by
  cases value with
  | int number =>
    have negative := toInt_neg (of_decide_eq_true printable)
    show evalExpr files (if number.toInt < 0 then _ else _) = _
    split
    · have least : Decimal.toInt64? (-(-number).toInt) = some number :=
        Decimal.toInt64?_eq_some_iff.mpr (by rw [negative, Int.neg_neg])
      have negated : negate (.int (-number)) = .ok (.int number) := by
        unfold negate
        dsimp only
        rw [least]
      show Eval.bind (Eval.pure (.int (-number))) (fun a => Eval.ofExcept (negate a)) = _
      funext s
      show Eval.ofExcept (negate (.int (-number))) s = _
      rw [negated]
      rfl
    · rfl
  | text chars => rfl
  | null => cases printable
  | bool truth => cases printable
  | float number => cases printable
  | list items => cases printable

/-- **The arguments that parameters are read as are evaluated to the parameters.** -/
theorem evalArguments_arguments {parameters : List Parameter}
    (each : ∀ parameter ∈ parameters, parameter.isPrintable = true) (files : Files) :
    evalArguments files (parameters.map Parameter.argument) =
      Eval.pure (.ofParameters parameters) := by
  induction parameters with
  | nil => rfl
  | cons parameter rest ih =>
    have others := ih fun other member => each other (List.mem_cons_of_mem _ member)
    have printable := each parameter List.mem_cons_self
    cases parameter with
    | named name value =>
      have literal := (Bool.and_eq_true_iff.mp printable).2
      show Eval.bind (evalExpr files value.expr) (fun value => Eval.bind (evalArguments files _) _) = _
      rw [evalExpr_expr literal, others]
      rfl
    | switch name =>
      show Eval.bind (evalArguments files _) _ = _
      rw [others]
      rfl
    | positional value =>
      show Eval.bind (evalExpr files value.expr) (fun value => Eval.bind (evalArguments files _) _) = _
      rw [evalExpr_expr printable, others]
      rfl

/-- A stage that can be printed is a command, whose call it is read as. -/
theorem segment_of_printable {stage : Stage} (printable : stage.IsPrintable) (files : Files) :
    ∃ name arguments parameters, stage = .command name parameters ∧
      stage.segment = .call name arguments ∧
      evalArguments files arguments = Eval.pure (.ofParameters parameters) := by
  cases printable with
  | @command name parameters word each apart =>
    exact ⟨name, _, parameters, rfl, rfl, evalArguments_arguments each files⟩

/-- The segments behind the first are evaluated as the stages are. -/
theorem evalFurther_segments {stages : List Stage} (printable : ∀ stage ∈ stages, stage.IsPrintable)
    (files : Files) (input : List Value) :
    evalFurther files (stages.map Stage.segment) input = evalStages files input stages := by
  induction stages generalizing input with
  | nil => rfl
  | cons stage stages ih =>
    obtain ⟨name, arguments, parameters, rfl, segment, evaluated⟩ :=
      segment_of_printable (printable stage List.mem_cons_self) files
    have others := ih fun other member => printable other (List.mem_cons_of_mem _ member)
    rw [List.map_cons, segment]
    show Eval.bind (evalArguments files arguments) (fun arguments =>
      Eval.bind (call files name arguments input) fun output =>
        evalFurther files (stages.map Stage.segment) output) = _
    rw [evaluated, funext others]
    rfl

/-- **The segments that a pipeline is read as are evaluated as the pipeline.** -/
theorem evalSegments_display {pipeline : Pipeline} (printable : pipeline.IsPrintable) (files : Files) :
    evalSegments files (pipeline.stages.map Stage.segment) = evalPipeline files pipeline := by
  obtain ⟨stages⟩ := pipeline
  cases stages with
  | nil => rfl
  | cons stage stages =>
    obtain ⟨name, arguments, parameters, rfl, segment, evaluated⟩ :=
      segment_of_printable (printable.stages stage List.mem_cons_self) files
    have others (input : List Value) :
        evalFurther files (stages.map Stage.segment) input = evalStages files input stages :=
      evalFurther_segments
        (fun other member => printable.stages other (List.mem_cons_of_mem _ member)) files input
    rw [List.map_cons, segment]
    show Eval.bind (evalArguments files arguments) (fun arguments =>
      Eval.bind (call files name arguments []) fun output =>
        evalFurther files (stages.map Stage.segment) output) = _
    rw [evaluated, funext others]
    rfl

/-! ### Failures given a position -/

/-- A run whose failure is given a position, if it has none. -/
def Run.located (position : Position) (run : Run (List Value)) : Run (List Value) :=
  run.andThen fun result s => .done (result.mapError (EngineFailure.locate position)) s

/-- The callers put aside, the failure of the outermost one being given a position. -/
def locateLast (position : Position) : List Caller → List Caller
  | [] => []
  | [caller] => [⟨caller.frame, fun outcome s => (caller.back outcome s).located position⟩]
  | caller :: next :: rest => caller :: locateLast position (next :: rest)

namespace Execution

variable {x : Execution} {outcome : Outcome} {t : Interpreter}

/-- An execution whose failure in the end is given a position, if it has none. -/
def located (position : Position) : Execution → Execution
  | ⟨run, []⟩ => ⟨run.located position, []⟩
  | ⟨run, caller :: callers⟩ => ⟨run, locateLast position (caller :: callers)⟩

/-- **An execution takes the same steps**, whatever its failure is given in the end. -/
theorem located_step (position : Position) (x : Execution) :
    (x.located position).step files = (x.step files).map (located position) := by
  obtain ⟨run, callers⟩ := x
  cases callers with
  | nil => cases run <;> rfl
  | cons caller callers => cases callers <;> cases run <;> rfl

theorem Ends.located (ends : x.Ends files outcome t) (position : Position) :
    (x.located position).Ends files (outcome.mapError (EngineFailure.locate position)) t := by
  induction ends with
  | now outcome s => exact .now _ s
  | step stepped _ ih =>
    refine .step ?_ ih
    rw [located_step, stepped]
    rfl

/-- **An execution whose failure is given a position ends as the execution itself does.** -/
theorem ends_located_iff (position : Position) : (x.located position).Ends files outcome t ↔
    ∃ given : Outcome, given.mapError (EngineFailure.locate position) = outcome ∧
      x.Ends files given t := by
  constructor
  · intro ends
    generalize same : x.located position = y at ends
    induction ends generalizing x with
    | now outcome s =>
      obtain ⟨run, callers⟩ := x
      cases callers with
      | cons caller callers => cases callers <;> cases same
      | nil =>
        cases run with
        | done given u =>
          cases same
          exact ⟨given, rfl, .now given s⟩
        | _ => cases same
    | step stepped _ ih =>
      rw [← same, located_step] at stepped
      obtain ⟨z, taken, located⟩ := Option.map_eq_some_iff.mp stepped
      obtain ⟨given, located, ends⟩ := ih located
      exact ⟨given, located, .step taken ends⟩
  · rintro ⟨given, rfl, ends⟩
    exact ends.located position

end Execution

/-- Failures inside a statement are given its position. -/
theorem locating_eq (place : Place) (evaluation : Eval (List Value)) (s : Interpreter) :
    locating place evaluation s = (evaluation s).located ⟨s.frame.file, place⟩ := by
  refine congrArg (fun next => (evaluation s).andThen next) (funext fun result => funext fun t => ?_)
  cases result <;> rfl

/-! ### Runs that nobody disturbs -/

variable {e f : Engine} {ticket : Nat} {outcome : Outcome} {s : Interpreter}

/-- An engine by itself comes to answer the holder of a ticket, and is in a state then. -/
def Concludes (e : Engine) (ticket : Nat) (outcome : Outcome) (s : Interpreter) : Prop :=
  ∃ g, Steps e g ∧ g.result? ticket = some outcome ∧ g.state = s

/-- A run that comes to an end by itself is answered so. -/
theorem concludes_of_ends {x : Execution} {t : Interpreter} (ends : x.Ends files outcome t) :
    ∀ {e : Engine}, e.files = files → e.Made → e.activity = .running ticket x →
      e.Concludes ticket outcome (closeRun t) := by
  induction ends with
  | now outcome s =>
    intro e _ made activity
    exact ⟨_, .step (step_of_stepsTo (.finish activity)) (.rest _),
      made.lawful.2.result?_answer (owed_of_main (main?_eq activity)) outcome, rfl⟩
  | step stepped _ ih =>
    intro e same made activity
    have own := step_of_stepsTo (.run activity (same.symm ▸ stepped))
    obtain ⟨g, steps, answer⟩ :=
      @ih { e with activity := .running ticket _ } same (made.step own) rfl
    exact ⟨g, .step own steps, answer⟩

/-- A run that is answered by itself has come to an end so. -/
theorem ends_of_steps {g : Engine} (steps : Steps e g) :
    ∀ {x : Execution}, e.Made → e.activity = .running ticket x → e.inbox = [] →
      g.result? ticket = some outcome →
        ∃ t, x.Ends e.files outcome t ∧ closeRun t = g.state := by
  induction steps with
  | rest e =>
    intro x made activity _ found
    cases (made.lawful.2.unanswered (owed_of_main (main?_eq activity))).symm.trans found
  | @step e f g stepped steps ih =>
    intro x made activity empty found
    cases stepsTo_of_step stepped with
    | run doing taken =>
      cases activity.symm.trans doing
      obtain ⟨t, ends, closed⟩ := ih (made.step stepped) rfl empty found
      exact ⟨t, .step taken ends, closed⟩
    | @finish _ given s doing =>
      cases activity.symm.trans doing
      cases steps with
      | step further _ => cases (step_idle rfl).symm.trans further
      | rest =>
        have given := made.lawful.2.result?_answer (owed_of_main (main?_eq activity)) given
        cases given.symm.trans found
        exact ⟨s, .now outcome s, rfl⟩
    | take _ inbox | leave _ inbox => cases empty.symm.trans inbox
    | further doing _ | answer doing => cases activity.symm.trans doing

/-- **What a run that nobody disturbs is answered with** is what its evaluation ends with by itself. -/
theorem concludes_iff {pipeline : Pipeline} (made : e.Made)
    (invoked : e.invoke pipeline = .ok (ticket, f)) : f.Concludes ticket outcome s ↔
      ∃ t, (Execution.ofRun (evalPipeline e.files pipeline (begunFrom e.state))).Ends e.files outcome t ∧
        closeRun t = s := by
  have begun : f.Made := made.use (.invoke pipeline ticket invoked)
  have files : f.files = e.files := (invoke_leaves invoked).2
  obtain ⟨u, activity, rfl⟩ := exists_idle invoked
  have empty : e.inbox = [] := by
    refine made.lawful.1.inbox ?_
    exact isStopped_eq activity
  have running : f.inbox = [] ∧ f.activity =
      .running ticket (.ofRun (evalPipeline e.files pipeline (begunFrom e.state))) := by
    unfold Engine.invoke at invoked
    rw [activity] at invoked
    cases invoked
    exact ⟨empty, rfl⟩
  constructor
  · rintro ⟨g, steps, found, rfl⟩
    have ended := ends_of_steps steps begun running.2 running.1 found
    rwa [files] at ended
  · rintro ⟨t, ends, rfl⟩
    exact concludes_of_ends ends files begun running.2

/-! ### The script and the pipeline -/

/-- The look of the debugger, when it has nothing to stop for. -/
theorem mayStop_passes (outside : s.nested = 0) (free : s.pending? = none) :
    ∃ look, mayStop s = .ready s look ∧ look s = .done (.ok ()) s := by
  refine ⟨_, if_neg (outside ▸ Nat.lt_irrefl 0), ?_⟩
  rw [free]

/-- What the script that a pipeline is printed as evaluates, behind the look of the debugger when there is
a statement. -/
theorem ends_display_iff {pipeline : Pipeline} (printable : pipeline.IsPrintable) {t : Interpreter}
    (outside : s.nested = 0) (start : s.frame = .start) (free : s.pending? = none) :
    (Execution.ofRun (evalPipeline files (.script pipeline.display) s)).Ends files outcome t ↔
      ((Execution.ofRun (evalPipeline files pipeline s)).located ⟨none, .start⟩).Ends files outcome t := by
  have reads := read_display printable
  by_cases empty : pipeline.stages = []
  · obtain ⟨stages⟩ := pipeline
    cases empty
    exact .rfl
  · rw [if_neg empty] at reads
    have here : atLine 1 s = s := by
      unfold atLine
      rw [start]
      cases s
      cases start
      rfl
    let deed : Eval (List Value) :=
      locating .start (evalSegments files (pipeline.stages.map Stage.segment))
    obtain ⟨look, looks, passes⟩ := mayStop_passes outside free
    have reached : evalPipeline files (.script pipeline.display) s =
        .ready s (Eval.bind look fun _ => deed) := by
      rw [evalPipeline_statement reads]
      show Eval.bind mayStop (fun _ => deed) (atLine 1 s) = _
      rw [here]
      unfold Eval.bind
      rw [looks]
      rfl
    have goes : Eval.bind look (fun _ => deed) s =
        (evalPipeline files pipeline s).located ⟨none, .start⟩ := by
      unfold Eval.bind
      rw [passes]
      show locating .start (evalSegments files (pipeline.stages.map Stage.segment)) s = _
      rw [locating_eq, evalSegments_display printable, start]
      rfl
    rw [reached, Execution.ends_step (y := .ofRun (Eval.bind look (fun _ => deed) s)) rfl, goes]
    exact .rfl

/-- **A pipeline agrees with the script that it is printed as.** The script is read as one statement that
calls the same commands in the same order, with the same names of arguments, and the empty one as none; the
arguments are evaluated to the parameters. When the debugger does not stop, whatever the one run is answered
with, the other is as well, in the same state; only a failure without a position is given that of the
statement. -/
theorem display_agrees {pipeline : Pipeline} (printable : pipeline.IsPrintable) :
    Script.read pipeline.display = .ok (if pipeline.stages = [] then []
      else [⟨.start, .run (pipeline.stages.map Stage.segment)⟩]) ∧
    (∀ stage ∈ pipeline.stages, ∃ name parameters, stage = .command name parameters ∧
      stage.segment = .call name (parameters.map Parameter.argument) ∧
      ∀ files s, evalArguments files (parameters.map Parameter.argument) s =
        .done (.ok (.ofParameters parameters)) s) ∧
    ∀ (e f f' : Engine) (ticket ticket' : Nat), e.Made → e.invoke pipeline = .ok (ticket, f) →
      e.invoke (.script pipeline.display) = .ok (ticket', f') →
      (begunFrom e.state).pending? = none → ∀ outcome s, f'.Concludes ticket' outcome s ↔
        ∃ given : Outcome, given.mapError (EngineFailure.locate ⟨none, .start⟩) = outcome ∧
          f.Concludes ticket given s := by
  refine ⟨read_display printable, fun stage member => ?_, ?_⟩
  · cases printable.stages stage member with
    | @command name parameters word each apart =>
      exact ⟨name, parameters, rfl, rfl, fun files s => by rw [evalArguments_arguments each]; rfl⟩
  · intro e f f' ticket ticket' made invoked invoked' free outcome s
    obtain ⟨u, activity, same⟩ := exists_idle invoked
    have outside : (begunFrom e.state).nested = 0 := by
      rw [begunFrom, (setAvailability_keeps _ _).1]
      exact same ▸ (made.guided.of_idle activity).1
    have start : (begunFrom e.state).frame = .start := by
      obtain ⟨history, begun, _⟩ := setAvailability_eq { e.state with frame := .start } .busy
      rw [begunFrom, begun]
    rw [concludes_iff made invoked']
    constructor
    · rintro ⟨t, ends, closed⟩
      obtain ⟨given, located, ends⟩ := (Execution.ends_located_iff _).mp
        ((ends_display_iff printable outside start free).mp ends)
      exact ⟨given, located, (concludes_iff made invoked).mpr ⟨t, ends, closed⟩⟩
    · rintro ⟨given, located, concludes⟩
      obtain ⟨t, ends, closed⟩ := (concludes_iff made invoked).mp concludes
      exact ⟨t, (ends_display_iff printable outside start free).mpr
        ((Execution.ends_located_iff _).mpr ⟨given, located, ends⟩), closed⟩

/-- A pipeline with apostrophes, a line end, a pipe, a back quote and a dollar sign in its texts, a negative
number, and switches. -/
def quoting : Pipeline :=
  ⟨[.command "Write-Output" [.positional (.text "it's\n| \x60$x"), .positional (.int (-5)),
    .switch "NoNewline", .named "InputObject" (.text "'")], .command "Out-String" [.switch "wide"]]⟩

/-- Both the pipeline and its script put the texts and the number into lines. -/
theorem display_agrees_quoting : quoting.IsPrintable ∧ (fresh .none none).Made ∧
    Script.read quoting.display = .ok [⟨.start, .run [
      .call "Write-Output" [.positional (.literal (.text "it's\n| \x60$x")),
        .positional (.negate (.literal (.int 5))), .named "NoNewline" none,
        .named "InputObject" (some (.literal (.text "'")))],
      .call "Out-String" [.named "wide" none]]⟩] ∧
    (begunFrom (fresh .none none).state).pending? = none ∧
    ∃ f f' s, (fresh .none none).invoke quoting = .ok (1, f) ∧
      (fresh .none none).invoke (.script quoting.display) = .ok (1, f') ∧
      f.Concludes 1 (.ok [.text "'\nit's\n| \x60$x\n-5"]) s ∧
      f'.Concludes 1 (.ok [.text "'\nit's\n| \x60$x\n-5"]) s := by
  have printable : quoting.IsPrintable := by
    refine ⟨fun stage member => ?_, by decide⟩
    rcases List.mem_pair.mp member with rfl | rfl
    · exact .command (isWord_iff.mpr ⟨'W', _, rfl, rfl, rfl⟩) (by decide) rfl
    · exact .command (isWord_iff.mpr ⟨'O', _, rfl, rfl, rfl⟩) (by decide) rfl
  have made : (fresh .none none).Made := .fresh .none none
  have free : (begunFrom (fresh .none none).state).pending? = none := rfl
  have invokes (pipeline : Pipeline) : ∃ f, (fresh .none none).invoke pipeline = .ok (1, f) :=
    ⟨_, rfl⟩
  obtain ⟨f, invoked⟩ := invokes quoting
  obtain ⟨f', invoked'⟩ := invokes (.script quoting.display)
  obtain ⟨reads, _, agrees⟩ := display_agrees printable
  have ends : (Execution.ofRun (evalPipeline .none quoting (begunFrom .fresh))).Ends .none
      (.ok [.text "'\nit's\n| \x60$x\n-5"]) (begunFrom .fresh) := by
    have evaluated : evalPipeline .none quoting (begunFrom .fresh) =
        .done (.ok [.text "'\nit's\n| \x60$x\n-5"]) (begunFrom .fresh) := rfl
    rw [evaluated]
    exact .now _ _
  have concludes := (concludes_iff made invoked).mpr ⟨_, ends, rfl⟩
  refine ⟨printable, made, reads, free, f, f', _, invoked, invoked', concludes, ?_⟩
  exact (agrees _ f f' 1 1 made invoked invoked' free _ _).mpr ⟨_, rfl, concludes⟩

end ShellSession.Engine
