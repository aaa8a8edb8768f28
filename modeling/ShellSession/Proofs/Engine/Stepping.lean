/-
**What a step of the engine comes to.**

An execution goes on by itself in three ways, and the engine in six: it takes its run a step further, or
a command that is evaluated inside a stop; it answers the one or the other when it has ended; and in a
stop, it takes up the command that is the next in its inbox, or leaves by the verb. What it does and what
has been sent into its stop settle which of them it is.

* `Execution.StepsTo`, `Execution.step_eq_some_iff`: what a step of an execution comes to;
* `Engine.StepsTo`, `Engine.step_eq_some_iff`: **what a step of the engine comes to, and that it is
  taken**;
* `Engine.step_idle`, `Engine.step_empty`: an engine at rest takes none, and neither does one in a stop
  into which nothing has been sent;
* `Engine.exists_step_of_stopped`, `exists_step_of_running`, `exists_step_of_nested`: any other takes one.
-/

import ShellSession.Engine.Machine

namespace ShellSession.Engine

/-! ### Executions -/

namespace Execution

/-- What a step that nobody has to answer comes to. -/
inductive StepsTo (files : Files) : Execution → Execution → Prop
  | ready (s : Interpreter) (go : Interpreter → Run (List Value)) (callers : List Caller) :
      StepsTo files ⟨.ready s go, callers⟩ ⟨go s, callers⟩
  | enter (file text : String) (s : Interpreter) (back : Outcome → Interpreter → Run (List Value))
      (callers : List Caller) : StepsTo files ⟨.calling file text s back, callers⟩
        ⟨Execution.enter files file text s, ⟨s.frame, back⟩ :: callers⟩
  | leave (outcome : Outcome) (s : Interpreter) (caller : Caller) (callers : List Caller) :
      StepsTo files ⟨.done outcome s, caller :: callers⟩ ⟨Execution.leave caller outcome s, callers⟩

variable {files : Files} {x y : Execution}

theorem step_eq_some_iff : x.step files = some y ↔ StepsTo files x y := by
  refine ⟨fun stepped => ?_, fun steps => by cases steps <;> rfl⟩
  obtain ⟨run, callers⟩ := x
  cases run with
  | ready s go =>
    cases stepped
    exact .ready s go callers
  | calling file text s back =>
    cases stepped
    exact .enter file text s back callers
  | stopped stop s resume => cases callers <;> cases stepped
  | done outcome s =>
    cases callers with
    | nil => cases stepped
    | cons caller callers =>
      cases stepped
      exact .leave outcome s caller callers

/-- A step by itself is none in a stop. -/
theorem stop?_of_step (stepped : x.step files = some y) : x.stop? = none := by
  cases step_eq_some_iff.mp stepped <;> rfl

/-- An execution that is in no stop has a step to take, or has ended. -/
theorem exists_step_or_done (goes : x.stop? = none) :
    (∃ y, x.step files = some y) ∨ ∃ outcome s, x = ⟨.done outcome s, []⟩ := by
  obtain ⟨run, callers⟩ := x
  cases run with
  | stopped stop s resume => cases goes
  | done outcome s =>
    cases callers with
    | nil => exact .inr ⟨outcome, s, rfl⟩
    | cons caller callers => exact .inl ⟨_, rfl⟩
  | _ => exact .inl ⟨_, rfl⟩

theorem state_withState (x : Execution) (s : Interpreter) : (x.withState s).state = s := by
  obtain ⟨run, callers⟩ := x
  cases run <;> rfl

theorem stop?_withState (x : Execution) (s : Interpreter) : (x.withState s).stop? = x.stop? := by
  obtain ⟨run, callers⟩ := x
  cases run <;> rfl

theorem withState_state (x : Execution) : x.withState x.state = x := by
  obtain ⟨run, callers⟩ := x
  cases run <;> rfl

end Execution

namespace Activity

variable (activity : Activity) (s : Interpreter)

theorem state_withState : (activity.withState s).state = s := by
  cases activity with
  | idle t => rfl
  | running ticket x => exact x.state_withState s
  | nested ticket waiting asker x => exact x.state_withState s

theorem stop?_withState : (activity.withState s).stop? = activity.stop? := by
  cases activity with
  | idle t => rfl
  | running ticket x => exact x.stop?_withState s
  | nested ticket waiting asker x => rfl

theorem withState_state : activity.withState activity.state = activity := by
  cases activity with
  | idle t => rfl
  | running ticket x => exact congrArg (running ticket) x.withState_state
  | nested ticket waiting asker x => exact congrArg (nested ticket waiting asker) x.withState_state

end Activity

/-! ### Engines -/

/-- What a step of the engine comes to. -/
inductive StepsTo (e : Engine) : Engine → Prop
  | run {ticket : Nat} {x y : Execution} (activity : e.activity = .running ticket x)
      (stepped : x.step e.files = some y) : StepsTo e { e with activity := .running ticket y }
  | finish {ticket : Nat} {outcome : Outcome} {s : Interpreter}
      (activity : e.activity = .running ticket ⟨.done outcome s, []⟩) :
      StepsTo e (({ e with activity := .idle (closeRun s) } : Engine).answer ticket outcome)
  | take {ticket : Nat} {stop : Stop} {s : Interpreter}
      {resume : Verb → Interpreter → Run (List Value)} {callers : List Caller} {asker : Nat}
      {pipeline : Pipeline} {rest : List StopRequest}
      (activity : e.activity = .running ticket ⟨.stopped stop s resume, callers⟩)
      (inbox : e.inbox = .command asker pipeline :: rest) : StepsTo e { e with
        inbox := rest
        activity := .nested ticket ⟨stop, s.frame, resume, callers⟩ asker
          (.ofRun (evalPipeline e.files pipeline (openNested s))) }
  | leave {ticket : Nat} {stop : Stop} {s : Interpreter}
      {resume : Verb → Interpreter → Run (List Value)} {callers : List Caller} {verb : Verb}
      {rest : List StopRequest}
      (activity : e.activity = .running ticket ⟨.stopped stop s resume, callers⟩)
      (inbox : e.inbox = .verb verb :: rest) : StepsTo e { e with
        inbox := []
        activity := .running ticket ⟨resume verb s, callers⟩
        results := e.results ++ refusals rest }
  | further {ticket asker : Nat} {waiting : Waiting} {x y : Execution}
      (activity : e.activity = .nested ticket waiting asker x)
      (stepped : x.step e.files = some y) :
      StepsTo e { e with activity := .nested ticket waiting asker y }
  | answer {ticket asker : Nat} {waiting : Waiting} {outcome : Outcome} {s : Interpreter}
      (activity : e.activity = .nested ticket waiting asker ⟨.done outcome s, []⟩) :
      StepsTo e (({ e with activity := .running ticket (waiting.execution s) } : Engine).answer
        asker outcome)

variable {e f : Engine}

/-- What an engine is like, when it is known what it is doing. -/
theorem state_eq {activity : Activity} (same : e.activity = activity) : e.state = activity.state :=
  congrArg Activity.state same

theorem stop?_eq {activity : Activity} (same : e.activity = activity) : e.stop? = activity.stop? :=
  congrArg Activity.stop? same

theorem isStopped_eq {activity : Activity} (same : e.activity = activity) :
    e.isStopped = activity.stop?.isSome :=
  congrArg Option.isSome (stop?_eq same)

theorem stepsTo_of_step (stepped : e.step = some f) : e.StepsTo f := by
  unfold step at stepped
  split at stepped
  · cases stepped
  · rename_i ticket outcome s activity
    cases stepped
    exact .finish activity
  · rename_i ticket stop s resume callers activity
    unfold serve at stepped
    split at stepped
    · cases stepped
    · rename_i asker pipeline rest inbox
      cases stepped
      exact .take activity inbox
    · rename_i verb rest inbox
      cases stepped
      exact .leave activity inbox
  · rename_i ticket x _ _ activity
    obtain ⟨y, taken, rfl⟩ := Option.map_eq_some_iff.mp stepped
    exact .run activity taken
  · rename_i ticket waiting asker outcome s activity
    cases stepped
    exact .answer activity
  · rename_i ticket waiting asker x _ activity
    obtain ⟨y, taken, rfl⟩ := Option.map_eq_some_iff.mp stepped
    exact .further activity taken

theorem step_of_stepsTo (steps : e.StepsTo f) : e.step = some f := by
  cases steps with
  | run activity stepped =>
    unfold step
    rw [activity]
    cases Execution.step_eq_some_iff.mp stepped <;> rfl
  | finish activity =>
    unfold step
    rw [activity]
  | take activity inbox =>
    unfold step
    rw [activity]
    unfold serve
    rw [inbox]
  | leave activity inbox =>
    unfold step
    rw [activity]
    unfold serve
    rw [inbox]
  | further activity stepped =>
    unfold step
    rw [activity]
    cases Execution.step_eq_some_iff.mp stepped <;> rfl
  | answer activity =>
    unfold step
    rw [activity]

/-- **The engine takes these steps, and no others.** -/
theorem step_eq_some_iff : e.step = some f ↔ e.StepsTo f :=
  ⟨stepsTo_of_step, step_of_stepsTo⟩

/-- A run that takes a step by itself is in no stop. -/
theorem isStopped_of_run {ticket : Nat} {x y : Execution} (activity : e.activity = .running ticket x)
    (stepped : x.step e.files = some y) : e.isStopped = false :=
  (isStopped_eq activity).trans (congrArg Option.isSome (Execution.stop?_of_step stepped))

/-! ### Whether there is a step -/

section

variable {ticket asker : Nat} {stop : Stop} {s : Interpreter} {x : Execution}
  {resume : Verb → Interpreter → Run (List Value)} {callers : List Caller} {waiting : Waiting}

/-- An engine at rest has no step to take. -/
theorem step_idle (activity : e.activity = .idle s) : e.step = none := by
  unfold step
  rw [activity]

/-- In a stop into which nothing has been sent there is no step to take. -/
theorem step_empty (activity : e.activity = .running ticket ⟨.stopped stop s resume, callers⟩)
    (inbox : e.inbox = []) : e.step = none := by
  unfold step
  rw [activity]
  unfold serve
  rw [inbox]

/-- In a stop into which something has been sent there is. -/
theorem exists_step_of_stopped
    (activity : e.activity = .running ticket ⟨.stopped stop s resume, callers⟩)
    (waits : e.inbox ≠ []) : ∃ f, e.step = some f := by
  cases inbox : e.inbox with
  | nil => exact absurd inbox waits
  | cons request rest =>
    cases request with
    | command asker pipeline => exact ⟨_, step_of_stepsTo (.take activity inbox)⟩
    | verb verb => exact ⟨_, step_of_stepsTo (.leave activity inbox)⟩

/-- A run that is in no stop has a step to take. -/
theorem exists_step_of_running (activity : e.activity = .running ticket x) (goes : x.stop? = none) :
    ∃ f, e.step = some f := by
  rcases Execution.exists_step_or_done goes with ⟨y, stepped⟩ | ⟨outcome, s, rfl⟩
  · exact ⟨_, step_of_stepsTo (.run activity stepped)⟩
  · exact ⟨_, step_of_stepsTo (.finish activity)⟩

/-- A command that is in no stop has one. -/
theorem exists_step_of_nested (activity : e.activity = .nested ticket waiting asker x)
    (goes : x.stop? = none) : ∃ f, e.step = some f := by
  rcases Execution.exists_step_or_done goes with ⟨y, stepped⟩ | ⟨outcome, s, rfl⟩
  · exact ⟨_, step_of_stepsTo (.further activity stepped)⟩
  · exact ⟨_, step_of_stepsTo (.answer activity)⟩

end

end ShellSession.Engine
