/-
**Rules of evaluation.**

A rule says what an evaluation may do to the interpreter between two points at which somebody else may
act, and with which failures it may end. What is done to the interpreter at those points is not the
evaluation's doing, so a run obeys a rule whatever state it goes on in. Besides, every run looks at
the debugger and stops there only outside nested commands; behind a stop it goes on from the state in
which a verb leaves the stop; and it comes to an end at once when that verb is `stop`.

* `Rule`: a rule, closed under the changes that an evaluation is made of;
* `Run.Obeys`, `Eval.Obeys`: a run and an evaluation obey a rule;
* `evalPipeline_obeys`: **every pipeline obeys every rule**;
* `Execution.Abides`, `Execution.step_abides`: an execution goes on obeying a rule, step by step.
-/

import ShellSession.Proofs.Engine.Stepping

namespace ShellSession.Engine

/-! ### Rules and runs -/

/-- What an evaluation may do to the interpreter, and the failures with which it may end. -/
structure Rule where
  change : Interpreter → Interpreter → Prop
  failure : EngineFailure → Prop
  refl : ∀ s, change s s
  trans : ∀ {s t u}, change s t → change t u → change s u
  nested : ∀ {s t}, change s t → t.nested = s.nested
  setVariable : ∀ s name value, change s (s.setVariable name value)
  setFrame : ∀ s frame, change s { s with frame := frame }
  setBreakpoints : ∀ s table update,
    change s ({ s with breakpoints := table : Interpreter }.emit (.breakpoint update))
  parse : ∀ fault position, failure (.parse fault position)
  runtime : ∀ fault position, failure (.runtime fault position)
  stopped : failure .stopped

variable {rule : Rule} {α β : Type}

/-- The results that a rule allows. -/
def Rule.Allows (rule : Rule) (result : Except EngineFailure α) : Prop :=
  ∀ error, result = .error error → rule.failure error

theorem Rule.allows_ok (value : α) : rule.Allows (.ok value) := by
  intro error same
  cases same

theorem Rule.allows_error {error : EngineFailure} (allowed : rule.failure error) :
    rule.Allows (.error error : Except EngineFailure α) := by
  intro other same
  cases same
  exact allowed

/-- A run that has been ended by the debugger. -/
def Run.IsEnded (run : Run α) : Prop :=
  ∃ s, run = .done (.error .stopped) s

/-- A run that began in a state obeys a rule. A stop is entered from a state that the rule allows; what
remains of the run obeys the rule from any state outside nested commands, and behind a stop from the
state in which the verb leaves it. -/
def Run.Obeys (rule : Rule) : Run α → Interpreter → Prop
  | .done result s, before => rule.change before s ∧ rule.Allows result
  | .ready s go, before =>
    before.nested = 0 ∧ rule.change before s ∧ ∀ t, t.nested = 0 → (go t).Obeys rule t
  | .stopped stop s resume, before =>
    before.nested = 0 ∧ (∃ reached, rule.change before reached ∧ s = enterStop stop reached) ∧
      (∀ verb t, t.nested = 0 → (resume verb t).Obeys rule (leaveStop verb t)) ∧
      ∀ t, (resume .stop t).IsEnded
  | .calling _ _ s back, before =>
    rule.change before s ∧
      (∀ outcome t, rule.Allows outcome → t.nested = before.nested → (back outcome t).Obeys rule t) ∧
      ∀ t, (back (.error .stopped) t).IsEnded

/-- An evaluation obeys a rule, whatever state it begins in. -/
def Eval.Obeys (rule : Rule) (evaluation : Eval α) : Prop :=
  ∀ s, (evaluation s).Obeys rule s

/-- A run obeys a rule from an earlier state as well. -/
theorem Run.Obeys.since {run : Run α} {earlier before : Interpreter}
    (changed : rule.change earlier before) (kept : run.Obeys rule before) :
    run.Obeys rule earlier := by
  have nested := rule.nested changed
  cases run with
  | done result s => exact ⟨rule.trans changed kept.1, kept.2⟩
  | ready s go =>
    obtain ⟨free, later, rest⟩ := kept
    exact ⟨nested.symm.trans free, rule.trans changed later, rest⟩
  | stopped stop s resume =>
    obtain ⟨free, ⟨reached, later, same⟩, rest⟩ := kept
    exact ⟨nested.symm.trans free, ⟨reached, rule.trans changed later, same⟩, rest⟩
  | calling file text s back =>
    obtain ⟨later, rest, ends⟩ := kept
    refine ⟨rule.trans changed later, fun outcome t allowed level => ?_, ends⟩
    exact rest outcome t allowed (level.trans nested.symm)

/-- What stands behind an evaluation does not hold up the end that the debugger has put to it. -/
theorem Run.IsEnded.andThen {run : Run α}
    {next : Except EngineFailure α → Interpreter → Run β} (ended : run.IsEnded)
    (passes : ∀ s, (next (.error .stopped) s).IsEnded) : (run.andThen next).IsEnded := by
  obtain ⟨s, rfl⟩ := ended
  exact passes s

/-- **One evaluation behind another.** -/
theorem Run.Obeys.andThen {run : Run α} {next : Except EngineFailure α → Interpreter → Run β}
    {before : Interpreter} (kept : run.Obeys rule before)
    (nextKept : ∀ result s, rule.Allows result → (next result s).Obeys rule s)
    (passes : ∀ s, (next (.error .stopped) s).IsEnded) :
    (run.andThen next).Obeys rule before := by
  induction run generalizing before with
  | done result s => exact (nextKept result s kept.2).since kept.1
  | ready s go ih =>
    obtain ⟨free, later, rest⟩ := kept
    exact ⟨free, later, fun t level => ih t (rest t level)⟩
  | stopped stop s resume ih =>
    obtain ⟨free, entered, rest, ends⟩ := kept
    exact ⟨free, entered, fun verb t level => ih verb t (rest verb t level),
      fun t => (ends t).andThen passes⟩
  | calling file text s back ih =>
    obtain ⟨later, rest, ends⟩ := kept
    exact ⟨later, fun outcome t allowed level => ih outcome t (rest outcome t allowed level),
      fun t => (ends t).andThen passes⟩

/-! ### Evaluations -/

theorem Eval.obeys_pure (value : α) : Eval.Obeys rule (pure value) := fun s =>
  ⟨rule.refl s, rule.allows_ok value⟩

theorem Eval.obeys_throw {error : EngineFailure} (allowed : rule.failure error) :
    Eval.Obeys rule (Eval.throw error : Eval α) := fun s =>
  ⟨rule.refl s, rule.allows_error allowed⟩

theorem Eval.obeys_fail (fault : Fault) : Eval.Obeys rule (Eval.fail fault : Eval α) :=
  obeys_throw (rule.runtime fault none)

theorem Eval.obeys_ofExcept (result : Except Fault α) :
    Eval.Obeys rule (Eval.ofExcept result) := by
  cases result with
  | ok value => exact obeys_pure value
  | error fault => exact obeys_fail fault

theorem Eval.obeys_modify {f : Interpreter → Interpreter} (changed : ∀ s, rule.change s (f s)) :
    Eval.Obeys rule (Eval.modify f) := fun s =>
  ⟨changed s, rule.allows_ok ()⟩

/-- **An evaluation behind another, unless the first fails.** -/
theorem Eval.Obeys.bind {first : Eval α} {next : α → Eval β} (kept : Eval.Obeys rule first)
    (nextKept : ∀ value, Eval.Obeys rule (next value)) : Eval.Obeys rule (first >>= next) := by
  intro s
  refine (kept s).andThen (fun result t allowed => ?_) fun t => ⟨t, rfl⟩
  cases result with
  | ok value => exact nextKept value t
  | error error => exact ⟨rule.refl t, rule.allows_error (allowed error rfl)⟩

/-- A position added to a failure leaves it allowed. -/
theorem Rule.failure_locate {error : EngineFailure} (allowed : rule.failure error)
    (position : Position) : rule.failure (error.locate position) := by
  cases error with
  | runtime fault place =>
    cases place with
    | none => exact rule.runtime fault (some position)
    | some other => exact allowed
  | _ => exact allowed

theorem Eval.Obeys.locating {evaluation : Eval α} (kept : Eval.Obeys rule evaluation)
    (place : Script.Place) : Eval.Obeys rule (locating place evaluation) := by
  intro s
  refine (kept s).andThen (fun result t allowed => ?_) fun t => ⟨t, rfl⟩
  cases result with
  | ok value => exact ⟨rule.refl t, rule.allows_ok value⟩
  | error error =>
    exact ⟨rule.refl t, rule.allows_error (rule.failure_locate (allowed error rfl) _)⟩

theorem callFile_obeys (file text : String) : Eval.Obeys rule (callFile file text) := fun s =>
  ⟨rule.refl s, (fun _ t allowed _ => ⟨rule.refl t, allowed⟩), fun t => ⟨t, rfl⟩⟩

/-- A stop ends with the verb `stop`, and goes on with any other. -/
theorem stopFor_obeys (cause : StopCause) {s : Interpreter} (free : s.nested = 0) :
    (stopFor cause s).Obeys rule s := by
  refine ⟨free, ⟨s, rule.refl s, rfl⟩, fun verb t _ => ⟨rule.refl _, ?_⟩,
    fun t => ⟨_, rfl⟩⟩
  by_cases stop : verb = .stop
  · rw [if_pos stop]
    exact rule.allows_error rule.stopped
  · rw [if_neg stop]
    exact rule.allows_ok ()

theorem mayStop_obeys : Eval.Obeys rule mayStop := by
  intro s
  unfold mayStop
  split
  · exact ⟨rule.refl s, rule.allows_ok ()⟩
  · rename_i free
    refine ⟨Nat.eq_zero_of_not_pos free, rule.refl s, fun t level => ?_⟩
    dsimp only
    cases t.pending? with
    | none => exact ⟨rule.refl t, rule.allows_ok ()⟩
    | some cause => exact stopFor_obeys cause level

/-! ### Commands -/

theorem Builtin.run_obeys (builtin : Builtin) (arguments : Arguments) (input : List Value) :
    Eval.Obeys rule (builtin.run arguments input) := by
  intro s
  cases builtin with
  | sleep => exact Eval.obeys_ofExcept _ s
  | waitDebugger =>
    show Run.Obeys rule (runWaitDebugger s) s
    unfold runWaitDebugger
    split
    · exact ⟨rule.refl s, rule.allows_ok []⟩
    · rename_i free
      refine (stopFor_obeys .waitDebugger (Nat.eq_zero_of_not_pos free)).andThen
        (fun result t allowed => ?_) fun t => ⟨t, rfl⟩
      cases result with
      | ok value => exact Eval.obeys_pure [] t
      | error error => exact ⟨rule.refl t, rule.allows_error (allowed error rfl)⟩
  | writeOutput => exact Eval.obeys_pure _ s
  | getVariable => exact Eval.obeys_ofExcept _ s
  | setVariable =>
    show Run.Obeys rule (Builtin.run .setVariable arguments input s) s
    unfold Builtin.run
    cases runSetVariable arguments with
    | error fault => exact Eval.obeys_fail fault s
    | ok pair => exact ⟨rule.setVariable s _ _, rule.allows_ok _⟩
  | setBreakpoint =>
    show Run.Obeys rule (runSetBreakpoint arguments s) s
    unfold runSetBreakpoint
    cases breakpointLine arguments with
    | error fault => exact Eval.obeys_fail fault s
    | ok line => exact ⟨rule.setBreakpoints s _ _, rule.allows_ok _⟩
  | removeBreakpoint =>
    show Run.Obeys rule (runRemoveBreakpoint arguments s) s
    unfold runRemoveBreakpoint
    cases breakpointToRemove s.breakpoints arguments with
    | error fault => exact Eval.obeys_fail fault s
    | ok removed => exact ⟨rule.setBreakpoints s _ _, rule.allows_ok _⟩
  | listBreakpoints => exact ⟨rule.refl s, rule.allows_ok _⟩
  | joinText => exact Eval.obeys_pure _ s

/-- The arguments of a script file are variables. -/
theorem bindArguments_change (arguments : Arguments) (s : Interpreter) :
    rule.change s (bindArguments arguments s) := by
  have named : ∀ entries s, rule.change s (bindNamed entries s) := by
    intro entries
    induction entries with
    | nil => exact rule.refl
    | cons entry rest ih => exact fun s => rule.trans (rule.setVariable s _ _) (ih _)
  exact rule.trans (named arguments.named s) (rule.setVariable _ _ _)

theorem runFile_obeys (files : Files) (name : String) (arguments : Arguments) :
    Eval.Obeys rule (runFile files name arguments) := by
  intro s
  unfold runFile
  split
  · split
    · exact Eval.obeys_fail _ s
    · exact (callFile_obeys name _ _).since (bindArguments_change arguments s)
  · exact Eval.obeys_fail _ s

theorem call_obeys (files : Files) (name : String) (arguments : Arguments) (input : List Value) :
    Eval.Obeys rule (call files name arguments input) := by
  unfold call
  cases Builtin.ofName? name with
  | some builtin => exact builtin.run_obeys arguments input
  | none => exact runFile_obeys files name arguments

/-! ### Expressions and pipelines -/

theorem readVariable_obeys (name : String) : Eval.Obeys rule (readVariable name) := fun s =>
  ⟨rule.refl s, rule.allows_ok _⟩

mutual

theorem evalExpr_obeys (files : Files) (expr : Script.Expr) :
    Eval.Obeys rule (evalExpr files expr) := by
  cases expr with
  | literal value => exact Eval.obeys_pure value
  | reference name => exact readVariable_obeys name
  | binary left operator right =>
    exact (evalExpr_obeys files left).bind fun _ =>
      (evalExpr_obeys files right).bind fun _ => Eval.obeys_ofExcept _
  | negate operand => exact (evalExpr_obeys files operand).bind fun _ => Eval.obeys_ofExcept _
  | list items => exact (evalItems_obeys files items).bind fun _ => Eval.obeys_pure _
  | group segments => exact (evalSegments_obeys files segments).bind fun _ => Eval.obeys_pure _

theorem evalItems_obeys (files : Files) (items : List Script.Expr) :
    Eval.Obeys rule (evalItems files items) := by
  cases items with
  | nil => exact Eval.obeys_pure []
  | cons item rest =>
    exact (evalExpr_obeys files item).bind fun _ =>
      (evalItems_obeys files rest).bind fun _ => Eval.obeys_pure _

theorem evalSegments_obeys (files : Files) (segments : List Script.Segment) :
    Eval.Obeys rule (evalSegments files segments) := by
  match segments with
  | [] => exact Eval.obeys_pure []
  | .expr expr :: rest =>
    exact (evalExpr_obeys files expr).bind fun _ => evalFurther_obeys files rest _
  | .call name arguments :: rest =>
    exact (evalArguments_obeys files arguments).bind fun _ =>
      (call_obeys files name _ []).bind fun _ => evalFurther_obeys files rest _

theorem evalFurther_obeys (files : Files) (segments : List Script.Segment) (input : List Value) :
    Eval.Obeys rule (evalFurther files segments input) := by
  match segments with
  | [] => exact Eval.obeys_pure input
  | .expr _ :: _ => exact Eval.obeys_fail _
  | .call name arguments :: rest =>
    exact (evalArguments_obeys files arguments).bind fun _ =>
      (call_obeys files name _ input).bind fun _ => evalFurther_obeys files rest _

theorem evalArguments_obeys (files : Files) (arguments : List Script.Argument) :
    Eval.Obeys rule (evalArguments files arguments) := by
  match arguments with
  | [] => exact Eval.obeys_pure Arguments.none
  | .named name none :: rest =>
    exact (evalArguments_obeys files rest).bind fun _ => Eval.obeys_pure _
  | .named name (some expr) :: rest =>
    exact (evalExpr_obeys files expr).bind fun _ =>
      (evalArguments_obeys files rest).bind fun _ => Eval.obeys_pure _
  | .positional expr :: rest =>
    exact (evalExpr_obeys files expr).bind fun _ =>
      (evalArguments_obeys files rest).bind fun _ => Eval.obeys_pure _

end

/-! ### Statements and texts -/

theorem evalAction_obeys (files : Files) (action : Script.Action) :
    Eval.Obeys rule (evalAction files action) := by
  match action with
  | .assign name operator segments =>
    exact (evalSegments_obeys files segments).bind fun _ =>
      (readVariable_obeys name).bind fun _ => (Eval.obeys_ofExcept _).bind fun _ =>
        (Eval.obeys_modify fun s => rule.setVariable s name _).bind fun _ => Eval.obeys_pure []
  | .raise none => exact Eval.obeys_fail _
  | .raise (some expr) => exact (evalExpr_obeys files expr).bind fun _ => Eval.obeys_fail _
  | .run segments => exact evalSegments_obeys files segments

theorem evalStatement_obeys (files : Files) (statement : Script.Statement) :
    Eval.Obeys rule (evalStatement files statement) :=
  (Eval.obeys_modify fun s => rule.setFrame s _).bind fun _ =>
    mayStop_obeys.bind fun _ => (evalAction_obeys files statement.action).locating _

theorem evalStatements_obeys (files : Files) (statements : List Script.Statement) :
    ∀ before, Eval.Obeys rule (evalStatements files before statements) := by
  induction statements with
  | nil => exact fun _ => Eval.obeys_pure _
  | cons statement rest ih => exact fun _ => (evalStatement_obeys files statement).bind fun _ => ih _

theorem runText_obeys (files : Files) (text : String) : Eval.Obeys rule (runText files text) := by
  intro s
  unfold runText
  split
  · exact Eval.obeys_throw (rule.parse _ _) s
  · exact evalStatements_obeys files _ [] s

/-! ### Pipelines of a host -/

theorem evalStage_obeys (files : Files) (input : List Value) (stage : Stage) :
    Eval.Obeys rule (evalStage files input stage) := by
  cases stage with
  | script text => exact runText_obeys files text
  | command name parameters => exact call_obeys files name _ input

/-- **Every pipeline obeys every rule.** -/
theorem evalPipeline_obeys (files : Files) (pipeline : Pipeline) :
    Eval.Obeys rule (evalPipeline files pipeline) := by
  suffices kept : ∀ stages input, Eval.Obeys rule (evalStages files input stages) from
    kept pipeline.stages []
  intro stages
  induction stages with
  | nil => exact Eval.obeys_pure
  | cons stage rest ih => exact fun input => (evalStage_obeys files input stage).bind fun _ => ih _

/-! ### Suspended runs and executions -/

theorem nested_setAvailability (s : Interpreter) (next : Availability) :
    (s.setAvailability next).nested = s.nested := by
  unfold Interpreter.setAvailability
  split <;> rfl

/-- A suspended run, at a level of nested commands, whose remains obey a rule. -/
def Run.Abides (rule : Rule) (level : Nat) : Run α → Prop
  | .done result s => s.nested = level ∧ rule.Allows result
  | .ready s go => level = 0 ∧ s.nested = 0 ∧ ∀ t, t.nested = 0 → (go t).Obeys rule t
  | .stopped _ s resume =>
    level = 0 ∧ s.nested = 0 ∧
      ∀ verb t, t.nested = 0 → (resume verb t).Obeys rule (leaveStop verb t)
  | .calling _ _ s back =>
    s.nested = level ∧
      ∀ outcome t, rule.Allows outcome → t.nested = level → (back outcome t).Obeys rule t

/-- A run that has obeyed a rule so far goes on obeying it. -/
theorem Run.Obeys.abides {run : Run α} {before : Interpreter} (obeyed : run.Obeys rule before) :
    run.Abides rule before.nested := by
  cases run with
  | done result s => exact ⟨rule.nested obeyed.1, obeyed.2⟩
  | ready s go =>
    obtain ⟨free, change, rest⟩ := obeyed
    exact ⟨free, (rule.nested change).trans free, rest⟩
  | stopped stop s resume =>
    obtain ⟨free, ⟨reached, change, rfl⟩, rest, _⟩ := obeyed
    exact ⟨free, (nested_setAvailability reached .nested).trans ((rule.nested change).trans free),
      rest⟩
  | calling file text s back =>
    obtain ⟨change, rest, _⟩ := obeyed
    exact ⟨rule.nested change, rest⟩

/-- A caller put aside, at a level of nested commands, whose remains obey a rule. -/
def Caller.Abides (rule : Rule) (level : Nat) (caller : Caller) : Prop :=
  ∀ outcome t, rule.Allows outcome → t.nested = level → (caller.back outcome t).Obeys rule t

/-- An execution, at a level of nested commands, whose remains obey a rule. -/
structure Execution.Abides (rule : Rule) (level : Nat) (x : Execution) : Prop where
  run : x.run.Abides rule level
  callers : ∀ caller ∈ x.callers, caller.Abides rule level

/-- The execution of a run that has obeyed a rule so far. -/
theorem Execution.abides_ofRun {run : Run (List Value)} {before : Interpreter}
    (obeyed : run.Obeys rule before) : (ofRun run).Abides rule before.nested :=
  ⟨obeyed.abides, nofun⟩

/-- **A step of an execution obeys the rule**, from the state of the execution in another frame, and
the execution goes on obeying it. -/
theorem Execution.step_abides {files : Files} {x y : Execution} {level : Nat}
    (abides : x.Abides rule level) (stepped : x.step files = some y) :
    y.Abides rule level ∧ x.stop? = none ∧ x.state.nested = level ∧
      ∃ frame, y.run.Obeys rule { x.state with frame := frame } := by
  cases Execution.step_eq_some_iff.mp stepped with
  | ready s go callers =>
    obtain ⟨rfl, here, rest⟩ := abides.run
    have obeyed := rest s here
    exact ⟨⟨here ▸ obeyed.abides, abides.callers⟩, rfl, here, s.frame, obeyed⟩
  | enter file text s back callers =>
    obtain ⟨rfl, rest⟩ := abides.run
    have obeyed : (enter files file text s).Obeys rule
        { s with frame := ⟨some file, s.frame.line⟩ } := runText_obeys files text _
    refine ⟨⟨obeyed.abides, fun caller member => ?_⟩, rfl, rfl, _, obeyed⟩
    rcases List.mem_cons.mp member with rfl | old
    · exact rest
    · exact abides.callers caller old
  | leave outcome s caller callers =>
    obtain ⟨rfl, allowed⟩ := abides.run
    have obeyed := abides.callers caller List.mem_cons_self outcome
      { s with frame := caller.frame } allowed rfl
    exact ⟨⟨obeyed.abides, fun other member =>
      abides.callers other (List.mem_cons_of_mem _ member)⟩, rfl, rfl, caller.frame, obeyed⟩

/-- Another state with as many nested commands may take the place of that of an execution. -/
theorem Execution.Abides.withState {x : Execution} {level : Nat} (abides : x.Abides rule level)
    {s : Interpreter} (same : s.nested = x.state.nested) : (x.withState s).Abides rule level := by
  obtain ⟨run, callers⟩ := x
  refine ⟨?_, abides.callers⟩
  have kept := abides.run
  cases run with
  | done result t => exact ⟨same.trans kept.1, kept.2⟩
  | ready t go => exact ⟨kept.1, same.trans kept.2.1, kept.2.2⟩
  | stopped stop t resume => exact ⟨kept.1, same.trans kept.2.1, kept.2.2⟩
  | calling file text t back => exact ⟨same.trans kept.1, kept.2⟩

end ShellSession.Engine
