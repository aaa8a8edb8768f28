/-
**What the debugger cannot change.**

An evaluation depends on its variables, on the breakpoint table and on the file that is running, and
on nothing else of the interpreter: not on step mode, the line, the reports or who may work inside a
stop. Two runs mirror each other when one of them may look at the debugger and stop in it, the other
does neither, and they call the same files and end with the same result, in states that are alike.
What happens at a look or in a stop is up to others, as long as the state stays alike and the verb
that leaves the stop is not `stop`.

* `Interpreter.Alike`, `Interpreter.Agree`: states that no evaluation tells apart, the second one
  being without stops;
* `Run.Mirrors`, `Eval.Mirrors`: runs and evaluations in step with each other;
* `evalPipeline_mirrors`: **every pipeline mirrors itself**.
-/

import ShellSession.Engine.Execution

namespace ShellSession.Engine

/-! ### States -/

/-- States with the same variables, breakpoints and running file. -/
structure Interpreter.Alike (s t : Interpreter) : Prop where
  scope : t.scope = s.scope
  breakpoints : t.breakpoints = s.breakpoints
  file : t.frame.file = s.frame.file

/-- A state and one that is alike in which nothing stops. -/
structure Interpreter.Agree (s t : Interpreter) : Prop where
  alike : s.Alike t
  nested : 0 < t.nested

namespace Interpreter

variable {s t u : Interpreter}

theorem Alike.refl (s : Interpreter) : s.Alike s :=
  ⟨rfl, rfl, rfl⟩

theorem Alike.symm (alike : s.Alike t) : t.Alike s :=
  ⟨alike.scope.symm, alike.breakpoints.symm, alike.file.symm⟩

theorem Alike.trans (first : s.Alike t) (second : t.Alike u) : s.Alike u :=
  ⟨second.scope.trans first.scope, second.breakpoints.trans first.breakpoints,
    second.file.trans first.file⟩

/-- A report and a change of availability leave a state alike. -/
theorem alike_setAvailability (s : Interpreter) (next : Availability) :
    s.Alike (s.setAvailability next) := by
  unfold setAvailability
  split <;> exact ⟨rfl, rfl, rfl⟩

theorem alike_enterStop (stop : Stop) (s : Interpreter) : s.Alike (enterStop stop s) :=
  (alike_setAvailability s .nested).trans ⟨rfl, rfl, rfl⟩

theorem alike_leaveStop (verb : Verb) (s : Interpreter) : s.Alike (leaveStop verb s) :=
  (alike_setAvailability s .busy).trans ⟨rfl, rfl, rfl⟩

namespace Agree

/-- Only what an evaluation can tell apart has to agree. -/
theorem of_alike (agree : s.Agree t) (alike : s.Alike u) : u.Agree t :=
  ⟨alike.symm.trans agree.alike, agree.nested⟩

theorem setVariable (agree : s.Agree t) (name : String) (value : Value) :
    (s.setVariable name value).Agree (t.setVariable name value) :=
  ⟨⟨congrArg (Variables.set · name value) agree.alike.scope, agree.alike.breakpoints,
    agree.alike.file⟩, agree.nested⟩

/-- Another file, whatever the line. -/
theorem setFile (agree : s.Agree t) {mine other : Frame} (file : other.file = mine.file) :
    ({ s with frame := mine } : Interpreter).Agree { t with frame := other } :=
  ⟨⟨agree.alike.scope, agree.alike.breakpoints, file⟩, agree.nested⟩

/-- Another breakpoint table, with the same report. -/
theorem setBreakpoints (agree : s.Agree t) (table : Breakpoints) (update : Notice) :
    (({ s with breakpoints := table } : Interpreter).emit update).Agree
      (({ t with breakpoints := table } : Interpreter).emit update) :=
  ⟨⟨agree.alike.scope, rfl, agree.alike.file⟩, agree.nested⟩

end Agree

end Interpreter

/-! ### Runs -/

variable {α β : Type}

/-- A run that may stop, in step with one that does not. -/
def Run.Mirrors : Run α → Run α → Prop
  | .done result s, plain => ∃ t, plain = .done result t ∧ s.Agree t
  | .ready s go, plain => ∀ u, s.Alike u → (go u).Mirrors plain
  | .stopped _ s resume, plain =>
    ∀ verb u, verb ≠ .stop → s.Alike u → (resume verb u).Mirrors plain
  | .calling file text s back, plain =>
    ∃ t further, plain = .calling file text t further ∧ s.Agree t ∧
      ∀ outcome u v, u.Agree v → (back outcome u).Mirrors (further outcome v)

/-- An evaluation that does the same whether or not it may stop. -/
def Eval.Mirrors (evaluation : Eval α) : Prop :=
  ∀ s t : Interpreter, s.Agree t → (evaluation s).Mirrors (evaluation t)

/-- **One evaluation behind another.** -/
theorem Run.Mirrors.andThen {run plain : Run α}
    {next : Except EngineFailure α → Interpreter → Run β} (mirrors : run.Mirrors plain)
    (nextMirrors : ∀ result (s t : Interpreter), s.Agree t →
      (next result s).Mirrors (next result t)) :
    (run.andThen next).Mirrors (plain.andThen next) := by
  induction run generalizing plain with
  | done result s =>
    obtain ⟨t, rfl, agree⟩ := mirrors
    exact nextMirrors result s t agree
  | ready s go ih => exact fun u alike => ih u (mirrors u alike)
  | stopped stop s resume ih => exact fun verb u goes alike => ih verb u (mirrors verb u goes alike)
  | calling file text s back ih =>
    obtain ⟨t, further, rfl, agree, rest⟩ := mirrors
    exact ⟨t, _, rfl, agree, fun outcome u v agree => ih outcome u (rest outcome u v agree)⟩

/-! ### Evaluations -/

namespace Eval

theorem mirrors_done {result : Except EngineFailure α} :
    Eval.Mirrors (fun s => .done result s) := fun _ t agree =>
  ⟨t, rfl, agree⟩

theorem mirrors_pure (value : α) : Eval.Mirrors (Eval.pure value) :=
  mirrors_done

theorem mirrors_throw (error : EngineFailure) : Eval.Mirrors (Eval.throw error : Eval α) :=
  mirrors_done

theorem mirrors_fail (fault : Fault) : Eval.Mirrors (Eval.fail fault : Eval α) :=
  mirrors_done

theorem mirrors_ofExcept (result : Except Fault α) : Eval.Mirrors (Eval.ofExcept result) := by
  cases result with
  | ok value => exact mirrors_pure value
  | error fault => exact mirrors_fail fault

theorem mirrors_modify {f : Interpreter → Interpreter}
    (keeps : ∀ s t : Interpreter, s.Agree t → (f s).Agree (f t)) :
    Eval.Mirrors (Eval.modify f) := fun s t agree =>
  ⟨f t, rfl, keeps s t agree⟩

/-- **An evaluation behind another, unless the first fails.** -/
theorem Mirrors.bind {first : Eval α} {next : α → Eval β} (mirrors : first.Mirrors)
    (nextMirrors : ∀ value, (next value).Mirrors) : Eval.Mirrors (first >>= next) := by
  intro s t agree
  refine (mirrors s t agree).andThen fun result u v agree => ?_
  cases result with
  | ok value => exact nextMirrors value u v agree
  | error error => exact mirrors_throw error u v agree

/-- The position of a failure tells the file, which is the same. -/
theorem Mirrors.locating {evaluation : Eval α} (mirrors : evaluation.Mirrors)
    (place : Script.Place) : Eval.Mirrors (locating place evaluation) := by
  intro s t agree
  unfold Engine.locating
  rw [agree.alike.file]
  refine (mirrors s t agree).andThen fun result u v agree => ?_
  cases result with
  | ok value => exact mirrors_pure value u v agree
  | error error => exact mirrors_throw _ u v agree

end Eval

/-- A stop that is not left with the verb `stop` changes nothing that counts. -/
theorem stopFor_mirrors (cause : StopCause) {s t : Interpreter} (agree : s.Agree t) :
    (stopFor cause s).Mirrors (.done (.ok ()) t) := by
  intro verb u goes alike
  dsimp only
  rw [if_neg goes]
  have same := ((Interpreter.alike_enterStop _ s).trans alike).trans
    (Interpreter.alike_leaveStop verb u)
  exact ⟨t, rfl, agree.of_alike same⟩

/-- The look of the debugger comes to nothing, or to a stop that changes nothing. -/
theorem mayStop_mirrors : Eval.Mirrors mayStop := by
  intro s t agree
  have plain : mayStop t = .done (.ok ()) t := if_pos agree.nested
  rw [plain]
  unfold mayStop
  split
  · exact ⟨t, rfl, agree⟩
  · intro u alike
    dsimp only
    cases u.pending? with
    | none => exact ⟨t, rfl, agree.of_alike alike⟩
    | some cause => exact stopFor_mirrors cause (agree.of_alike alike)

theorem callFile_mirrors (file text : String) : Eval.Mirrors (callFile file text) := fun _ t agree =>
  ⟨t, .done, rfl, agree, fun _ _ v agree => ⟨v, rfl, agree⟩⟩

/-! ### Commands -/

/-- A stop that the script asks for changes nothing either. -/
theorem Builtin.runWaitDebugger_mirrors : Eval.Mirrors runWaitDebugger := by
  intro s t agree
  have plain : runWaitDebugger t = .done (.ok []) t := if_pos agree.nested
  rw [plain]
  unfold runWaitDebugger
  split
  · exact ⟨t, rfl, agree⟩
  · refine (stopFor_mirrors .waitDebugger agree).andThen fun result u v agree => ?_
    cases result with
    | ok value => exact ⟨v, rfl, agree⟩
    | error error => exact ⟨v, rfl, agree⟩

theorem Builtin.run_mirrors (builtin : Builtin) (arguments : Arguments) (input : List Value) :
    (builtin.run arguments input).Mirrors := by
  intro s t agree
  cases builtin with
  | sleep => exact Eval.mirrors_ofExcept _ s t agree
  | waitDebugger => exact runWaitDebugger_mirrors s t agree
  | writeOutput => exact Eval.mirrors_pure _ s t agree
  | getVariable =>
    dsimp only [Builtin.run]
    rw [agree.alike.scope]
    exact Eval.mirrors_ofExcept _ s t agree
  | setVariable =>
    unfold Builtin.run
    cases runSetVariable arguments with
    | error fault => exact Eval.mirrors_fail fault s t agree
    | ok pair => exact ⟨_, rfl, agree.setVariable pair.1 pair.2⟩
  | setBreakpoint =>
    show (runSetBreakpoint arguments s).Mirrors (runSetBreakpoint arguments t)
    unfold runSetBreakpoint
    rw [agree.alike.breakpoints]
    cases breakpointLine arguments with
    | error fault => exact Eval.mirrors_fail fault s t agree
    | ok line => exact ⟨_, rfl, agree.setBreakpoints _ _⟩
  | removeBreakpoint =>
    show (runRemoveBreakpoint arguments s).Mirrors (runRemoveBreakpoint arguments t)
    unfold runRemoveBreakpoint
    rw [agree.alike.breakpoints]
    cases breakpointToRemove s.breakpoints arguments with
    | error fault => exact Eval.mirrors_fail fault s t agree
    | ok removed => exact ⟨_, rfl, agree.setBreakpoints _ _⟩
  | listBreakpoints =>
    dsimp only [Builtin.run]
    rw [agree.alike.breakpoints]
    exact ⟨t, rfl, agree⟩
  | joinText => exact Eval.mirrors_pure _ s t agree

/-- The arguments of a script file are the same variables. -/
theorem Interpreter.Agree.bindArguments {s t : Interpreter} (agree : s.Agree t)
    (arguments : Arguments) :
    (Engine.bindArguments arguments s).Agree (Engine.bindArguments arguments t) := by
  have named : ∀ entries (s t : Interpreter), s.Agree t →
      (bindNamed entries s).Agree (bindNamed entries t) := by
    intro entries
    induction entries with
    | nil => exact fun _ _ agree => agree
    | cons entry rest ih => exact fun s t agree => ih _ _ (agree.setVariable _ _)
  exact (named arguments.named s t agree).setVariable _ _

theorem runFile_mirrors (files : Files) (name : String) (arguments : Arguments) :
    (runFile files name arguments).Mirrors := by
  intro s t agree
  unfold runFile
  split
  · split
    · exact Eval.mirrors_fail _ s t agree
    · exact callFile_mirrors name _ _ _ (agree.bindArguments arguments)
  · exact Eval.mirrors_fail _ s t agree

theorem call_mirrors (files : Files) (name : String) (arguments : Arguments) (input : List Value) :
    (call files name arguments input).Mirrors := by
  unfold call
  cases Builtin.ofName? name with
  | some builtin => exact builtin.run_mirrors arguments input
  | none => exact runFile_mirrors files name arguments

/-! ### Expressions and pipelines -/

theorem readVariable_mirrors (name : String) : (readVariable name).Mirrors := by
  intro s t agree
  unfold readVariable
  rw [agree.alike.scope]
  exact ⟨t, rfl, agree⟩

mutual

theorem evalExpr_mirrors (files : Files) (expr : Script.Expr) : (evalExpr files expr).Mirrors := by
  cases expr with
  | literal value => exact Eval.mirrors_pure value
  | reference name => exact readVariable_mirrors name
  | binary left operator right =>
    exact (evalExpr_mirrors files left).bind fun _ =>
      (evalExpr_mirrors files right).bind fun _ => Eval.mirrors_ofExcept _
  | negate operand => exact (evalExpr_mirrors files operand).bind fun _ => Eval.mirrors_ofExcept _
  | list items => exact (evalItems_mirrors files items).bind fun _ => Eval.mirrors_pure _
  | group segments => exact (evalSegments_mirrors files segments).bind fun _ => Eval.mirrors_pure _

theorem evalItems_mirrors (files : Files) (items : List Script.Expr) :
    (evalItems files items).Mirrors := by
  cases items with
  | nil => exact Eval.mirrors_pure []
  | cons item rest =>
    exact (evalExpr_mirrors files item).bind fun _ =>
      (evalItems_mirrors files rest).bind fun _ => Eval.mirrors_pure _

theorem evalSegments_mirrors (files : Files) (segments : List Script.Segment) :
    (evalSegments files segments).Mirrors := by
  match segments with
  | [] => exact Eval.mirrors_pure []
  | .expr expr :: rest =>
    exact (evalExpr_mirrors files expr).bind fun _ => evalFurther_mirrors files rest _
  | .call name arguments :: rest =>
    exact (evalArguments_mirrors files arguments).bind fun _ =>
      (call_mirrors files name _ []).bind fun _ => evalFurther_mirrors files rest _

theorem evalFurther_mirrors (files : Files) (segments : List Script.Segment) (input : List Value) :
    (evalFurther files segments input).Mirrors := by
  match segments with
  | [] => exact Eval.mirrors_pure input
  | .expr _ :: _ => exact Eval.mirrors_fail _
  | .call name arguments :: rest =>
    exact (evalArguments_mirrors files arguments).bind fun _ =>
      (call_mirrors files name _ input).bind fun _ => evalFurther_mirrors files rest _

theorem evalArguments_mirrors (files : Files) (arguments : List Script.Argument) :
    (evalArguments files arguments).Mirrors := by
  match arguments with
  | [] => exact Eval.mirrors_pure Arguments.none
  | .named name none :: rest =>
    exact (evalArguments_mirrors files rest).bind fun _ => Eval.mirrors_pure _
  | .named name (some expr) :: rest =>
    exact (evalExpr_mirrors files expr).bind fun _ =>
      (evalArguments_mirrors files rest).bind fun _ => Eval.mirrors_pure _
  | .positional expr :: rest =>
    exact (evalExpr_mirrors files expr).bind fun _ =>
      (evalArguments_mirrors files rest).bind fun _ => Eval.mirrors_pure _

end

/-! ### Statements and texts -/

theorem evalAction_mirrors (files : Files) (action : Script.Action) :
    (evalAction files action).Mirrors := by
  match action with
  | .assign name operator segments =>
    exact (evalSegments_mirrors files segments).bind fun _ =>
      (readVariable_mirrors name).bind fun _ => (Eval.mirrors_ofExcept _).bind fun _ =>
        (Eval.mirrors_modify fun _ _ agree => agree.setVariable name _).bind fun _ =>
          Eval.mirrors_pure []
  | .raise none => exact Eval.mirrors_fail _
  | .raise (some expr) => exact (evalExpr_mirrors files expr).bind fun _ => Eval.mirrors_fail _
  | .run segments => exact evalSegments_mirrors files segments

/-- The line is noted and the debugger looks, and then the statement is carried out. -/
theorem evalStatement_mirrors (files : Files) (statement : Script.Statement) :
    (evalStatement files statement).Mirrors := by
  have noted : Eval.Mirrors (Eval.modify (atLine statement.place.line)) :=
    Eval.mirrors_modify fun _ _ agree => agree.setFile agree.alike.file
  exact noted.bind fun _ =>
    mayStop_mirrors.bind fun _ => (evalAction_mirrors files statement.action).locating _

theorem evalStatements_mirrors (files : Files) (statements : List Script.Statement) :
    ∀ before, (evalStatements files before statements).Mirrors := by
  induction statements with
  | nil => exact fun _ => Eval.mirrors_pure _
  | cons statement rest ih =>
    exact fun _ => (evalStatement_mirrors files statement).bind fun _ => ih _

theorem runText_mirrors (files : Files) (text : String) : (runText files text).Mirrors := by
  intro s t agree
  unfold runText
  rw [agree.alike.file]
  split
  · exact Eval.mirrors_throw _ s t agree
  · exact evalStatements_mirrors files _ [] s t agree

/-! ### Pipelines of a host -/

theorem evalStage_mirrors (files : Files) (input : List Value) (stage : Stage) :
    (evalStage files input stage).Mirrors := by
  cases stage with
  | script text => exact runText_mirrors files text
  | command name parameters => exact call_mirrors files name _ input

/-- **Every pipeline mirrors itself.** -/
theorem evalPipeline_mirrors (files : Files) (pipeline : Pipeline) :
    (evalPipeline files pipeline).Mirrors := by
  suffices mirrors : ∀ stages input, (evalStages files input stages).Mirrors from
    mirrors pipeline.stages []
  intro stages
  induction stages with
  | nil => exact Eval.mirrors_pure
  | cons stage rest ih =>
    exact fun input => (evalStage_mirrors files input stage).bind fun _ => ih _

end ShellSession.Engine
