/-
**How many steps an evaluation takes at most.**

A statement takes a step past the look of the debugger and one out of the stop there; a command that is
built in takes one at most, out of the stop that it asks for; and the call of a script file takes one into
the file and one back, besides what its text takes. Nothing is evaluated twice, so the steps of a text are
those of its statements and commands, as they occur in it, whatever values it computes and whatever others
do to the interpreter meanwhile. With every call, one file less can still be called.

* `Engine.callSteps`, `Engine.textSteps`, `Engine.pipelineSteps`: these steps, counted;
* `Run.Within`, `Eval.Within`: a run and an evaluation keep within so many steps;
* `Engine.runText_within`, `Engine.evalPipeline_within`: **texts and pipelines keep within theirs**;
* `Execution.Within`, `Execution.Within.step`: **each step of an execution uses one up**.
-/

import Mathlib.Algebra.Ring.Nat
import ShellSession.Proofs.Engine.Recursion
import ShellSession.Proofs.Engine.Stepping

namespace ShellSession.Engine

open Script

variable {α β : Type} {files : Files} {callee : String → Nat → Prop} {ofCall : String → Nat}
  {n m k : Nat}

/-! ### Steps, counted -/

/-- The steps of commands in a row. -/
def total (ofCall : String → Nat) (names : List String) : Nat :=
  (names.map ofCall).sum

@[simp] theorem total_append (first second : List String) :
    total ofCall (first ++ second) = total ofCall first + total ofCall second := by
  simp [total]

@[simp] theorem total_cons (name : String) (rest : List String) :
    total ofCall (name :: rest) = ofCall name + total ofCall rest := by
  simp [total]

/-- The steps of a statement. -/
def statementSteps (ofCall : String → Nat) (statement : Statement) : Nat :=
  2 + total ofCall statement.commands

/-- The steps of a text. -/
def textSteps (ofCall : String → Nat) (text : String) : Nat :=
  ((Script.parts text).map (statementSteps ofCall)).sum

/-- The steps of a call from which calls go so deep. -/
def callSteps (files : Files) : Nat → String → Nat
  | 0, _ => 1
  | depth + 1, name =>
    match files.readText name with
    | .ok text => textSteps (callSteps files depth) text + 2
    | .error _ => 1

/-- The steps of a stage. -/
def stageSteps (ofCall : String → Nat) : Stage → Nat
  | .script text => textSteps ofCall text
  | .command name _ => ofCall name

/-- The steps of a pipeline, when calls go no deeper than there are files. -/
def pipelineSteps (files : Files) (pipeline : Pipeline) : Nat :=
  (pipeline.stages.map (stageSteps (callSteps files files.count))).sum

theorem callSteps_pos (files : Files) (depth : Nat) (name : String) :
    0 < callSteps files depth name := by
  cases depth with
  | zero => exact Nat.one_pos
  | succ depth =>
    unfold callSteps
    split <;> omega

/-! ### Runs that keep within so many steps -/

/-- A run keeps within so many steps, whatever state it goes on in. How many the text of a file takes that
is called is said by `callee`. -/
def Run.Within (callee : String → Nat → Prop) : Run α → Nat → Prop
  | .done _ _, _ => True
  | .ready _ go, n => ∃ m < n, ∀ s, (go s).Within callee m
  | .stopped _ _ resume, n => ∃ m < n, ∀ verb s, (resume verb s).Within callee m
  | .calling _ text _ back, n =>
    ∃ inner m, callee text inner ∧ inner + m + 2 ≤ n ∧
      ∀ outcome s, (back outcome s).Within callee m

/-- An evaluation keeps within so many steps, whatever state it begins in. -/
def Eval.Within (callee : String → Nat → Prop) (n : Nat) (evaluation : Eval α) : Prop :=
  ∀ s, (evaluation s).Within callee n

theorem Run.Within.le {run : Run α} (within : run.Within callee n) (more : n ≤ m) :
    run.Within callee m := by
  cases run with
  | done result s => trivial
  | ready s go =>
    obtain ⟨less, lower, rest⟩ := within
    exact ⟨less, by omega, rest⟩
  | stopped stop s resume =>
    obtain ⟨less, lower, rest⟩ := within
    exact ⟨less, by omega, rest⟩
  | calling file text s back =>
    obtain ⟨inner, less, called, lower, rest⟩ := within
    exact ⟨inner, less, called, by omega, rest⟩

/-- **One evaluation behind another.** -/
theorem Run.Within.andThen {run : Run α} {next : Except EngineFailure α → Interpreter → Run β}
    (within : run.Within callee m) (further : ∀ result s, (next result s).Within callee k) :
    (run.andThen next).Within callee (m + k) := by
  induction run generalizing m with
  | done result s => exact (further result s).le (by omega)
  | ready s go ih =>
    obtain ⟨less, lower, rest⟩ := within
    exact ⟨less + k, by omega, fun s => ih s (rest s)⟩
  | stopped stop s resume ih =>
    obtain ⟨less, lower, rest⟩ := within
    exact ⟨less + k, by omega, fun verb s => ih verb s (rest verb s)⟩
  | calling file text s back ih =>
    obtain ⟨inner, less, called, lower, rest⟩ := within
    exact ⟨inner, less + k, called, by omega, fun outcome s => ih outcome s (rest outcome s)⟩

/-! ### Evaluations -/

theorem Eval.Within.le {evaluation : Eval α} (within : Eval.Within callee n evaluation)
    (more : n ≤ m) : Eval.Within callee m evaluation :=
  fun s => (within s).le more

/-- An evaluation that comes to its end at once takes no steps. -/
theorem Eval.within_of_done {evaluation : Eval α}
    (ends : ∀ s, ∃ result t, evaluation s = .done result t) : Eval.Within callee n evaluation := by
  intro s
  obtain ⟨result, t, same⟩ := ends s
  rw [same]
  trivial

theorem Eval.within_pure (value : α) : Eval.Within callee n (pure value) :=
  fun _ => trivial

theorem Eval.within_fail (fault : Fault) : Eval.Within callee n (Eval.fail fault : Eval α) :=
  fun _ => trivial

theorem Eval.within_ofExcept (result : Except Fault α) :
    Eval.Within callee n (Eval.ofExcept result) := by
  cases result with
  | ok value => exact within_pure value
  | error fault => exact within_fail fault

/-- **An evaluation behind another, unless the first fails.** -/
theorem Eval.Within.bind {first : Eval α} {next : α → Eval β} (within : Eval.Within callee m first)
    (further : ∀ value, Eval.Within callee k (next value)) :
    Eval.Within callee (m + k) (first >>= next) := by
  intro s
  refine (within s).andThen fun result t => ?_
  cases result with
  | ok value => exact further value t
  | error error => trivial

/-- What takes no steps may stand behind an evaluation. -/
theorem Eval.Within.bind_zero {first : Eval α} {next : α → Eval β}
    (within : Eval.Within callee n first) (further : ∀ value, Eval.Within callee 0 (next value)) :
    Eval.Within callee n (first >>= next) :=
  within.bind further

/-- What takes no steps may stand before an evaluation. -/
theorem Eval.Within.zero_bind {first : Eval α} {next : α → Eval β}
    (within : Eval.Within callee 0 first) (further : ∀ value, Eval.Within callee n (next value)) :
    Eval.Within callee n (first >>= next) :=
  (within.bind further).le (Nat.zero_add n).le

theorem Eval.Within.locating {evaluation : Eval α} (within : Eval.Within callee n evaluation)
    (place : Place) : Eval.Within callee n (locating place evaluation) := by
  intro s
  refine Run.Within.andThen (k := 0) (within s) fun result t => ?_
  cases result <;> trivial

theorem stopFor_within (cause : StopCause) : Eval.Within callee 1 (stopFor cause) :=
  fun _ => ⟨0, Nat.one_pos, fun _ _ => trivial⟩

theorem mayStop_within : Eval.Within callee 2 mayStop := by
  intro s
  unfold mayStop
  split
  · trivial
  · refine ⟨1, Nat.one_lt_two, fun s => ?_⟩
    dsimp only
    split
    · exact stopFor_within _ s
    · trivial

/-! ### Commands -/

/-- A built-in command takes a step when it asks for a stop. -/
theorem Builtin.run_within (builtin : Builtin) (arguments : Arguments) (input : List Value) :
    Eval.Within callee 1 (builtin.run arguments input) := by
  intro s
  cases builtin with
  | sleep => exact Eval.within_ofExcept _ s
  | waitDebugger =>
    show Run.Within callee (runWaitDebugger s) 1
    unfold runWaitDebugger
    split
    · trivial
    · exact (stopFor_within .waitDebugger).bind_zero (fun _ => Eval.within_pure []) s
  | writeOutput => trivial
  | getVariable => exact Eval.within_ofExcept _ s
  | setVariable =>
    show Run.Within callee (Builtin.run .setVariable arguments input s) 1
    unfold Builtin.run
    cases runSetVariable arguments <;> trivial
  | setBreakpoint =>
    show Run.Within callee (runSetBreakpoint arguments s) 1
    unfold runSetBreakpoint
    cases breakpointLine arguments <;> trivial
  | removeBreakpoint =>
    show Run.Within callee (runRemoveBreakpoint arguments s) 1
    unfold runRemoveBreakpoint
    cases breakpointToRemove s.breakpoints arguments <;> trivial
  | listBreakpoints => trivial
  | joinText => trivial

/-- The texts of files that may be called where calls go so deep at most, with their steps. -/
def Callable (files : Files) : Nat → String → Nat → Prop
  | 0, _, _ => False
  | depth + 1, text, n =>
    (∀ name ∈ Script.commands text, files.Shallow depth name) ∧
      textSteps (callSteps files depth) text ≤ n

/-- A command keeps within its steps, whatever its arguments and its input. -/
def Affords (files : Files) (callee : String → Nat → Prop) (ofCall : String → Nat) (name : String) :
    Prop :=
  ∀ arguments input, Eval.Within callee (ofCall name) (call files name arguments input)

/-- **A command keeps within its steps** where calls go as deep as from its name. -/
theorem affords_of_shallow {depth : Nat} {name : String} (shallow : files.Shallow depth name) :
    Affords files (Callable files depth) (callSteps files depth) name := by
  intro arguments input s
  unfold call
  cases unknown : Builtin.ofName? name with
  | some builtin =>
    exact (builtin.run_within arguments input).le (callSteps_pos files depth name) s
  | none =>
    dsimp only
    unfold runFile
    split
    · split
      · exact Eval.within_fail _ s
      · rename_i text read
        cases depth with
        | zero => exact absurd ⟨unknown, read⟩ (shallow text)
        | succ depth =>
          refine ⟨_, 0, ⟨shallow text ⟨unknown, read⟩, le_rfl⟩, ?_, fun _ _ => trivial⟩
          simp [callSteps, read]
    · exact Eval.within_fail _ s

/-! ### Expressions and pipelines -/

mutual

theorem evalExpr_within (expr : Expr)
    (affords : ∀ name ∈ expr.commands, Affords files callee ofCall name) :
    Eval.Within callee (total ofCall expr.commands) (evalExpr files expr) := by
  cases expr with
  | literal value => exact Eval.within_pure value
  | reference name => exact Eval.within_of_done fun s => ⟨_, s, rfl⟩
  | binary left operator right =>
    simp only [Expr.commands, total_append, List.forall_mem_append] at affords ⊢
    exact (evalExpr_within left affords.1).bind fun _ =>
      (evalExpr_within right affords.2).bind_zero fun _ => Eval.within_ofExcept _
  | negate operand =>
    exact (evalExpr_within operand affords).bind_zero fun _ => Eval.within_ofExcept _
  | list items => exact (evalItems_within items affords).bind_zero fun _ => Eval.within_pure _
  | group segments => exact (evalSegments_within segments affords).bind_zero fun _ => Eval.within_pure _

theorem evalItems_within (items : List Expr)
    (affords : ∀ name ∈ commandsOfItems items, Affords files callee ofCall name) :
    Eval.Within callee (total ofCall (commandsOfItems items)) (evalItems files items) := by
  cases items with
  | nil => exact Eval.within_pure []
  | cons item rest =>
    simp only [commandsOfItems, total_append, List.forall_mem_append] at affords ⊢
    exact (evalExpr_within item affords.1).bind fun _ =>
      (evalItems_within rest affords.2).bind_zero fun _ => Eval.within_pure _

theorem evalSegments_within (segments : List Segment)
    (affords : ∀ name ∈ commandsOfSegments segments, Affords files callee ofCall name) :
    Eval.Within callee (total ofCall (commandsOfSegments segments)) (evalSegments files segments) := by
  match segments with
  | [] => exact Eval.within_pure []
  | .expr expr :: rest =>
    simp only [commandsOfSegments, total_append, List.forall_mem_append] at affords ⊢
    exact (evalExpr_within expr affords.1).bind fun _ => evalFurther_within rest affords.2 _
  | .call name arguments :: rest =>
    simp only [commandsOfSegments, total_append, total_cons, List.forall_mem_append,
      List.forall_mem_cons] at affords ⊢
    exact (evalArguments_within arguments affords.1).bind fun _ =>
      Eval.Within.bind (affords.2.1 _ _) fun _ => evalFurther_within rest affords.2.2 _

theorem evalFurther_within (segments : List Segment)
    (affords : ∀ name ∈ commandsOfSegments segments, Affords files callee ofCall name)
    (input : List Value) : Eval.Within callee (total ofCall (commandsOfSegments segments))
      (evalFurther files segments input) := by
  match segments with
  | [] => exact Eval.within_pure input
  | .expr _ :: _ => exact Eval.within_fail _
  | .call name arguments :: rest =>
    simp only [commandsOfSegments, total_append, total_cons, List.forall_mem_append,
      List.forall_mem_cons] at affords ⊢
    exact (evalArguments_within arguments affords.1).bind fun _ =>
      Eval.Within.bind (affords.2.1 _ _) fun _ => evalFurther_within rest affords.2.2 _

theorem evalArguments_within (arguments : List Argument)
    (affords : ∀ name ∈ commandsOfArguments arguments, Affords files callee ofCall name) :
    Eval.Within callee (total ofCall (commandsOfArguments arguments))
      (evalArguments files arguments) := by
  match arguments with
  | [] => exact Eval.within_pure Arguments.none
  | .named name none :: rest =>
    exact (evalArguments_within rest affords).bind_zero fun _ => Eval.within_pure _
  | .named name (some value) :: rest =>
    simp only [commandsOfArguments, total_append, List.forall_mem_append] at affords ⊢
    exact (evalExpr_within value affords.1).bind fun _ =>
      (evalArguments_within rest affords.2).bind_zero fun _ => Eval.within_pure _
  | .positional value :: rest =>
    simp only [commandsOfArguments, total_append, List.forall_mem_append] at affords ⊢
    exact (evalExpr_within value affords.1).bind fun _ =>
      (evalArguments_within rest affords.2).bind_zero fun _ => Eval.within_pure _

end

/-! ### Statements and texts -/

theorem evalAction_within (statement : Statement)
    (affords : ∀ name ∈ statement.commands, Affords files callee ofCall name) :
    Eval.Within callee (total ofCall statement.commands) (evalAction files statement.action) := by
  obtain ⟨place, action⟩ := statement
  match action with
  | .assign name operator segments =>
    refine (evalSegments_within segments affords).bind_zero fun _ => Eval.Within.zero_bind ?_ fun _ =>
      Eval.Within.zero_bind (Eval.within_ofExcept _) fun _ => Eval.Within.zero_bind ?_ fun _ =>
        Eval.within_pure []
    · exact Eval.within_of_done fun s => ⟨_, s, rfl⟩
    · exact Eval.within_of_done fun s => ⟨_, _, rfl⟩
  | .raise none => exact Eval.within_fail _
  | .raise (some value) => exact (evalExpr_within value affords).bind_zero fun _ => Eval.within_fail _
  | .run segments => exact evalSegments_within segments affords

theorem evalStatement_within (statement : Statement)
    (affords : ∀ name ∈ statement.commands, Affords files callee ofCall name) :
    Eval.Within callee (statementSteps ofCall statement) (evalStatement files statement) := by
  have action := (evalAction_within statement affords).locating statement.place
  refine Eval.Within.zero_bind ?_ fun _ => mayStop_within.bind fun _ => action
  exact Eval.within_of_done fun s => ⟨_, _, rfl⟩

theorem evalStatements_within (statements : List Statement)
    (affords : ∀ name ∈ statements.flatMap Statement.commands, Affords files callee ofCall name)
    (before : List Value) : Eval.Within callee (statements.map (statementSteps ofCall)).sum
      (evalStatements files before statements) := by
  induction statements generalizing before with
  | nil => exact Eval.within_pure _
  | cons statement rest ih =>
    rw [List.flatMap_cons, List.forall_mem_append] at affords
    exact (evalStatement_within statement affords.1).bind fun _ => ih affords.2 _

/-- **A text keeps within its steps.** -/
theorem runText_within (text : String)
    (affords : ∀ name ∈ Script.commands text, Affords files callee ofCall name) :
    Eval.Within callee (textSteps ofCall text) (runText files text) := by
  intro s
  unfold runText
  split
  · trivial
  · rename_i statements read
    have parts : Script.parts text = statements := by
      rw [Script.parts, read]
    unfold Script.commands at affords
    unfold textSteps
    rw [parts] at affords ⊢
    exact evalStatements_within statements affords [] s

/-- **A text that may be called keeps within its steps**, and calls go less deep from it. -/
theorem Callable.within {depth : Nat} {text : String}
    (callable : Callable files (depth + 1) text n) :
    Eval.Within (Callable files depth) n (runText files text) :=
  (runText_within text fun name occurs => affords_of_shallow (callable.1 name occurs)).le callable.2

/-! ### Pipelines of a host -/

theorem evalStage_within (affords : ∀ name, Affords files callee ofCall name) (input : List Value)
    (stage : Stage) :
    Eval.Within callee (stageSteps ofCall stage) (evalStage files input stage) := by
  cases stage with
  | script text => exact runText_within text fun name _ => affords name
  | command name parameters => exact affords name _ input

/-- **Without recursion, every pipeline keeps within its steps.** -/
theorem evalPipeline_within (straight : ¬files.IsRecursive) (pipeline : Pipeline) :
    Eval.Within (Callable files files.count) (pipelineSteps files pipeline)
      (evalPipeline files pipeline) := by
  have affords (name : String) := affords_of_shallow (files.shallow_count straight name)
  unfold pipelineSteps evalPipeline
  generalize ([] : List Value) = input
  induction pipeline.stages generalizing input with
  | nil => exact Eval.within_pure input
  | cons stage rest ih => exact (evalStage_within affords input stage).bind fun _ => ih _

/-! ### Executions -/

/-- Callers put aside keep within so many steps, the way back to each of them included; from the innermost
one, calls go so deep. -/
def CallersWithin (files : Files) : Nat → List Caller → Nat → Prop
  | _, [], _ => True
  | depth, caller :: rest, n =>
    ∃ m k, (∀ outcome s, (caller.back outcome s).Within (Callable files depth) m) ∧
      CallersWithin files (depth + 1) rest k ∧ m + k < n

/-- An execution keeps within so many steps. The deeper script files have called each other, the less
deep calls go from there. -/
def Execution.Within (files : Files) (x : Execution) (n : Nat) : Prop :=
  ∃ depth m k, x.callers.length + depth = files.count ∧ x.run.Within (Callable files depth) m ∧
    CallersWithin files (depth + 1) x.callers k ∧ m + k ≤ n

namespace Execution.Within

variable {x y : Execution}

theorem length_le (within : x.Within files n) : x.callers.length ≤ files.count := by
  obtain ⟨depth, _, _, length, _⟩ := within
  omega

theorem ofRun {run : Run (List Value)} (within : run.Within (Callable files files.count) n) :
    (ofRun run).Within files n :=
  ⟨files.count, n, 0, by simp [Execution.ofRun], within, trivial, le_rfl⟩

/-- Another state may take the place of that of an execution. -/
theorem withState (within : x.Within files n) (s : Interpreter) :
    (x.withState s).Within files n := by
  obtain ⟨run, callers⟩ := x
  cases run <;> exact within

/-- **Each step of an execution uses one up**, and script files call each other no deeper than there are
files. -/
theorem step (within : x.Within files n) (stepped : x.step files = some y) :
    ∃ m < n, y.Within files m := by
  obtain ⟨depth, m, k, length, here, others, enough⟩ := within
  cases Execution.step_eq_some_iff.mp stepped with
  | ready s go callers =>
    obtain ⟨less, lower, rest⟩ := here
    exact ⟨less + k, by omega, depth, less, k, length, rest s, others, le_rfl⟩
  | enter file text s back callers =>
    obtain ⟨inner, less, called, lower, rest⟩ := here
    cases depth with
    | zero => exact called.elim
    | succ depth =>
      refine ⟨inner + (less + k + 1), by omega, depth, inner, less + k + 1, ?_, called.within _,
        ⟨less, k, rest, others, Nat.lt_succ_self _⟩, le_rfl⟩
      simp only [List.length_cons] at length ⊢
      omega
  | leave outcome s caller callers =>
    obtain ⟨less, outer, rest, further, lower⟩ := others
    refine ⟨less + outer, by omega, depth + 1, less, outer, ?_, rest _ _, further, le_rfl⟩
    simp only [List.length_cons] at length ⊢
    omega

/-- A verb that leaves a stop uses one up. -/
theorem resume {stop : Stop} {s : Interpreter} {resume : Verb → Interpreter → Run (List Value)}
    {callers : List Caller} (within : Execution.Within files ⟨.stopped stop s resume, callers⟩ n) :
    ∃ m < n, ∀ verb t, Execution.Within files ⟨resume verb t, callers⟩ m := by
  obtain ⟨depth, m, k, length, ⟨less, lower, rest⟩, others, enough⟩ := within
  exact ⟨less + k, by omega, fun verb t =>
    ⟨depth, less, k, length, rest verb t, others, le_rfl⟩⟩

end Execution.Within

end ShellSession.Engine
