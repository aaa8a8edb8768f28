/-
**Stops of the engine.**

A stop is reported when it is entered and at no other time. In between, an engine in a stop answers
commands and waits for a verb; commands do not stop again, and only a verb ends the stop.

* `Law.quiet`: what an evaluation reports by itself is no stop, and it never fails as busy;
* `Execution.Lawful`, `Engine.Lawful`: what holds of everything that an engine is doing;
* `Engine.isOpen`: an engine in a stop that nobody has left yet;
* `Engine.Turn`: what a change of the engine reports;
* `Engine.step_turn`, `Engine.invoke_turn`: **a stop is reported by the change that enters it**.
-/

import ShellSession.Proofs.Engine.Law
import ShellSession.Engine.Machine

namespace ShellSession

/-! ### Reports -/

/-- Whether a report is one of a stop. -/
def Notice.isStop : Notice → Bool
  | stopped _ => true
  | _ => false

namespace Engine

/-- The reports of one state are those of another with some that report no stop behind them. -/
def Quiet (s t : Interpreter) : Prop :=
  ∃ more, t.history.toList = s.history.toList ++ more ∧ ∀ notice ∈ more, notice.isStop = false

namespace Quiet

variable {s t u : Interpreter}

/-- The same reports. -/
theorem of_eq (same : t.history = s.history) : Quiet s t :=
  ⟨[], by rw [same, List.append_nil], fun _ member => by cases member⟩

theorem trans (first : Quiet s t) (second : Quiet t u) : Quiet s u := by
  obtain ⟨some, before, quiet⟩ := first
  obtain ⟨more, after, quieter⟩ := second
  refine ⟨some ++ more, by rw [after, before, List.append_assoc], fun notice member => ?_⟩
  rcases List.mem_append.mp member with old | new
  · exact quiet notice old
  · exact quieter notice new

/-- One more report, which is not one of a stop. -/
theorem emit (s : Interpreter) {notice : Notice} (quiet : notice.isStop = false) :
    Quiet s (s.emit notice) := by
  refine ⟨[notice], Array.toList_push, fun other member => ?_⟩
  rw [List.mem_singleton.mp member]
  exact quiet

theorem setAvailability (s : Interpreter) (next : Availability) :
    Quiet s (s.setAvailability next) := by
  unfold Interpreter.setAvailability
  split
  · exact of_eq rfl
  · exact emit _ rfl

end Quiet

/-- What an evaluation reports by itself is no stop, and it does not fail as busy. -/
def Law.quiet : Law where
  change s t := t.nested = s.nested ∧ Quiet s t
  failure error := error.isBusy = false
  refl _ := ⟨rfl, .of_eq rfl⟩
  trans first second := ⟨second.1.trans first.1, first.2.trans second.2⟩
  nested change := change.1
  setVariable _ _ _ := ⟨rfl, .of_eq rfl⟩
  setFrame _ _ := ⟨rfl, .of_eq rfl⟩
  setBreakpoints s table _ := ⟨rfl, .emit { s with breakpoints := table } rfl⟩
  leaveStop _ s := ⟨nested_setAvailability s .busy, .setAvailability s .busy⟩
  parse _ _ := rfl
  runtime _ _ := rfl
  stopped := rfl

/-! ### Runs and executions -/

/-- A suspended run that goes on lawfully; in nested commands it neither stops nor looks at the
debugger. -/
def Run.Lawful {α : Type} (level : Nat) : Run α → Prop
  | .done result s => s.nested = level ∧ Law.quiet.Allows result
  | .ready s go =>
    level = 0 ∧ s.nested = 0 ∧ ∀ t, t.nested = 0 → (go t).Keeps .quiet t
  | .stopped _ s resume =>
    level = 0 ∧ s.nested = 0 ∧ (∀ verb t, t.nested = 0 → (resume verb t).Keeps .quiet t) ∧
      ∀ t, (resume .stop t).IsEnded
  | .calling _ _ s back =>
    s.nested = level ∧
      (∀ outcome t, Law.quiet.Allows outcome → t.nested = level → (back outcome t).Keeps .quiet t) ∧
      ∀ t, (back (.error .stopped) t).IsEnded

/-- A run that has kept the law goes on lawfully. -/
theorem Run.Keeps.lawful {α : Type} {run : Run α} {before : Interpreter}
    (kept : run.Keeps .quiet before) : run.Lawful before.nested := by
  cases run with
  | done result s => exact ⟨kept.1.1, kept.2⟩
  | ready s go =>
    obtain ⟨free, change, rest⟩ := kept
    exact ⟨free, change.1.trans free, rest⟩
  | stopped stop s resume =>
    obtain ⟨free, ⟨reached, change, rfl⟩, rest, ends⟩ := kept
    exact ⟨free, (nested_setAvailability reached .nested).trans (change.1.trans free), rest, ends⟩
  | calling file text s back =>
    obtain ⟨change, rest, ends⟩ := kept
    exact ⟨change.1, rest, ends⟩

/-- What a run has reported: a stop exactly when it waits in one, and last. -/
theorem Run.Keeps.reports {α : Type} {run : Run α} {before : Interpreter}
    (kept : run.Keeps .quiet before) :
    (run.stop? = none ∧ Quiet before run.state) ∨
      ∃ stop reached, run.stop? = some stop ∧ before.nested = 0 ∧ Quiet before reached ∧
        run.state = reached.emit (.stopped stop) := by
  cases run with
  | done result s => exact .inl ⟨rfl, kept.1.2⟩
  | ready s go => exact .inl ⟨rfl, kept.2.1.2⟩
  | stopped stop s resume =>
    obtain ⟨free, ⟨reached, change, rfl⟩, _⟩ := kept
    exact .inr ⟨stop, reached.setAvailability .nested, rfl, free,
      change.2.trans (.setAvailability reached .nested), rfl⟩
  | calling file text s back => exact .inl ⟨rfl, kept.1.2⟩

/-- A caller put aside that goes on lawfully, and ends when the file that it called was ended by the
debugger. -/
def Caller.Lawful (level : Nat) (caller : Caller) : Prop :=
  (∀ outcome t, Law.quiet.Allows outcome → t.nested = level →
    (caller.back outcome t).Keeps .quiet t) ∧
  ∀ t, (caller.back (.error .stopped) t).IsEnded

/-- An execution that goes on lawfully, at a level of nested commands. -/
structure Execution.Lawful (level : Nat) (x : Execution) : Prop where
  run : x.run.Lawful level
  callers : ∀ caller ∈ x.callers, caller.Lawful level

/-- The execution of a run that has kept the law. -/
theorem Execution.lawful_ofRun {run : Run (List Value)} {before : Interpreter}
    (kept : run.Keeps .quiet before) : (ofRun run).Lawful before.nested :=
  ⟨kept.lawful, fun _ member => by cases member⟩

/-- **A step of an execution is lawful**, and begins where the execution was. -/
theorem Execution.step_lawful {files : Files} {x y : Execution} {level : Nat}
    (lawful : x.Lawful level) (stepped : x.step files = some y) :
    x.stop? = none ∧ y.Lawful level ∧
      ∃ before, before.nested = level ∧ before.history = x.state.history ∧
        y.run.Keeps .quiet before := by
  cases Execution.step_eq_some_iff.mp stepped with
  | ready s go callers =>
    obtain ⟨free, level, rest⟩ := lawful.run
    have kept := rest s level
    exact ⟨rfl, ⟨free ▸ level ▸ kept.lawful, lawful.callers⟩, s, level.trans free.symm, rfl, kept⟩
  | enter file text s back callers =>
    obtain ⟨level, rest, ends⟩ := lawful.run
    have kept : (enter files file text s).Keeps .quiet
        { s with frame := ⟨some file, s.frame.line⟩ } := runText_keeps files text _
    refine ⟨rfl, ⟨level ▸ kept.lawful, fun caller member => ?_⟩,
      { s with frame := ⟨some file, s.frame.line⟩ }, level, rfl, kept⟩
    rcases List.mem_cons.mp member with rfl | old
    · exact ⟨rest, ends⟩
    · exact lawful.callers caller old
  | leave outcome s caller callers =>
    obtain ⟨level, allowed⟩ := lawful.run
    have kept := (lawful.callers caller List.mem_cons_self).1 outcome
      { s with frame := caller.frame } allowed level
    exact ⟨rfl, ⟨level ▸ kept.lawful,
      fun other member => lawful.callers other (List.mem_cons_of_mem _ member)⟩,
      { s with frame := caller.frame }, level, rfl, kept⟩

/-- An execution whose state another one with the same level takes the place of. -/
theorem Execution.Lawful.withState {x : Execution} {level : Nat} (lawful : x.Lawful level)
    {s : Interpreter} (same : s.nested = x.state.nested) : (x.withState s).Lawful level := by
  obtain ⟨run, callers⟩ := x
  refine ⟨?_, lawful.callers⟩
  have kept := lawful.run
  cases run with
  | done result t => exact ⟨same.trans kept.1, kept.2⟩
  | ready t go => exact ⟨kept.1, same.trans kept.2.1, kept.2.2⟩
  | stopped stop t resume => exact ⟨kept.1, same.trans kept.2.1, kept.2.2⟩
  | calling file text t back => exact ⟨same.trans kept.1, kept.2⟩

/-! ### Engines -/

/-- An execution that waits in a stop and goes on lawfully. -/
structure Waiting.Lawful (waiting : Waiting) : Prop where
  resume : ∀ verb t, t.nested = 0 → (waiting.resume verb t).Keeps .quiet t
  ends : ∀ t, (waiting.resume .stop t).IsEnded
  callers : ∀ caller ∈ waiting.callers, caller.Lawful 0

/-- What a lawful engine is doing. -/
def Activity.Lawful : Activity → Prop
  | idle s => s.nested = 0
  | running _ x => x.Lawful 0
  | nested _ waiting _ x => waiting.Lawful ∧ x.Lawful 1

/-- An engine whose executions go on lawfully, and which is sent nothing outside a stop. -/
structure Lawful (e : Engine) : Prop where
  activity : e.activity.Lawful
  inbox : e.isStopped = false → e.inbox = []

/-- Whether a request into a stop ends it. -/
def StopRequest.isVerb : StopRequest → Bool
  | command _ _ => false
  | verb _ => true

/-- Whether the engine is in a stop that nobody has left yet. -/
def isOpen (e : Engine) : Bool :=
  e.isStopped && e.inbox.all fun request => !request.isVerb

/-- What a change of the engine reports: no stop, and the engine is in a stop that nobody has left if
it was; or, last of all, a stop that it enters and in which it waits. -/
inductive Turn (e f : Engine) : Prop
  | quiet (reports : Quiet e.state f.state) (stays : f.isOpen = e.isOpen) : Turn e f
  | stop (free : e.isOpen = false) (opens : f.isOpen = true) (reached : Interpreter) (stop : Stop)
      (reports : Quiet e.state reached) (last : f.state = reached.emit (.stopped stop))
      (inside : f.stop? = some stop) (waits : f.step = none) : Turn e f

section

variable {e f : Engine} {before : Interpreter} {run : Run (List Value)}

theorem isOpen_of_free (free : e.isStopped = false) : e.isOpen = false := by
  unfold isOpen
  rw [free]
  rfl

/-- An engine that goes on with a run, nobody having sent it anything. -/
theorem Turn.of_running {ticket : Nat} {callers : List Caller} (kept : run.Keeps .quiet before)
    (since : Quiet e.state before) (free : e.isOpen = false)
    (activity : f.activity = .running ticket ⟨run, callers⟩) (inbox : f.inbox = []) :
    Turn e f := by
  have state : f.state = run.state := state_eq activity
  rcases kept.reports with ⟨goes, quiet⟩ | ⟨stop, reached, waits, _, quiet, last⟩
  · refine .quiet (state ▸ since.trans quiet) ((isOpen_of_free ?_).trans free.symm)
    rw [isStopped_eq activity]
    exact congrArg Option.isSome goes
  · have inside : f.stop? = some stop := (stop?_eq activity).trans waits
    refine .stop free ?_ reached stop (since.trans quiet) (state.trans last) inside ?_
    · unfold isOpen Engine.isStopped
      rw [inside, inbox]
      rfl
    · cases run with
      | stopped other s resume => exact step_empty activity inbox
      | _ => cases waits

/-- An engine that goes on with a command inside a stop. -/
theorem Turn.of_nested {ticket asker : Nat} {waiting : Waiting} {callers : List Caller}
    (kept : run.Keeps .quiet before) (level : before.nested = 1) (since : Quiet e.state before)
    (activity : f.activity = .nested ticket waiting asker ⟨run, callers⟩)
    (stays : f.isOpen = e.isOpen) : Turn e f := by
  have state : f.state = run.state := state_eq activity
  rcases kept.reports with ⟨_, quiet⟩ | ⟨_, _, _, free, _⟩
  · exact .quiet (state ▸ since.trans quiet) stays
  · rw [level] at free
    cases free

/-- Whether a stop has been left only depends on what is sent into it. -/
theorem isOpen_congr (stopped : f.isStopped = e.isStopped) (inbox : f.inbox = e.inbox) :
    f.isOpen = e.isOpen := by
  unfold isOpen
  rw [stopped, inbox]

/-- An execution that waits in a stop is lawful as such, and as a run. -/
theorem Execution.Lawful.waiting {stop : Stop} {s : Interpreter}
    {resume : Verb → Interpreter → Run (List Value)} {callers : List Caller} {frame : Frame}
    (lawful : Execution.Lawful 0 ⟨.stopped stop s resume, callers⟩) :
    Waiting.Lawful ⟨stop, frame, resume, callers⟩ :=
  ⟨lawful.run.2.2.1, lawful.run.2.2.2, lawful.callers⟩

/-- **A step of the engine is lawful**, and reports a stop when it enters one. -/
theorem step_turn (lawful : e.Lawful) (stepped : e.step = some f) : f.Lawful ∧ Turn e f := by
  have kept := lawful.activity
  cases stepsTo_of_step stepped with
  | run activity taken =>
    rw [activity] at kept
    have free : e.isStopped = false := isStopped_of_run activity taken
    obtain ⟨_, goes, before, level, history, run⟩ := Execution.step_lawful kept taken
    refine ⟨⟨goes, fun _ => lawful.inbox free⟩, ?_⟩
    refine .of_running run (.of_eq ?_) (isOpen_of_free free) rfl (lawful.inbox free)
    rw [state_eq activity]
    exact history
  | @finish ticket outcome s activity =>
    rw [activity] at kept
    have free : e.isStopped = false := isStopped_eq activity
    refine ⟨⟨?_, fun _ => lawful.inbox free⟩, .quiet ?_ ?_⟩
    · exact (nested_setAvailability s .available).trans kept.run.1
    · show Quiet e.state (closeRun s)
      rw [state_eq activity]
      exact (Quiet.setAvailability s .available).trans (.emit _ rfl)
    · exact (isOpen_of_free rfl).trans (isOpen_of_free free).symm
  | @take _ _ s _ _ _ pipeline _ activity inbox =>
    rw [activity] at kept
    have stopped : e.isStopped = true := isStopped_eq activity
    have quiet : Eval.Keeps .quiet (evalPipeline e.files pipeline) :=
      evalPipeline_keeps e.files pipeline
    have evaluates := quiet (openNested s)
    have above : (openNested s).nested = 1 := congrArg (· + 1) kept.run.2.1
    refine ⟨⟨⟨kept.waiting, above ▸ Execution.lawful_ofRun evaluates⟩, nofun⟩, ?_⟩
    refine .of_nested evaluates above (state_eq activity ▸ .of_eq rfl) rfl ?_
    unfold isOpen
    rw [stopped, inbox]
    rfl
  | @leave _ stop s resume callers verb _ activity inbox =>
    rw [activity] at kept
    have stopped : e.isStopped = true := isStopped_eq activity
    have waiting : Waiting.Lawful ⟨stop, s.frame, resume, callers⟩ := kept.waiting
    have level : s.nested = 0 := kept.run.2.1
    have goes := waiting.resume verb s level
    refine ⟨⟨⟨level ▸ goes.lawful, kept.callers⟩, fun _ => rfl⟩, ?_⟩
    refine .of_running goes (state_eq activity ▸ .of_eq rfl) ?_ rfl rfl
    unfold isOpen
    rw [stopped, inbox]
    rfl
  | further activity taken =>
    rw [activity] at kept
    obtain ⟨_, goes, before, level, history, run⟩ := Execution.step_lawful kept.2 taken
    refine ⟨⟨⟨kept.1, goes⟩, nofun⟩, ?_⟩
    refine .of_nested run level (.of_eq ?_) rfl (isOpen_congr (isStopped_eq activity).symm rfl)
    rw [state_eq activity]
    exact history
  | @answer _ _ _ _ s activity =>
    rw [activity] at kept
    have level : s.nested = 1 := kept.2.run.1
    refine ⟨⟨⟨⟨rfl, ?_, kept.1.resume, kept.1.ends⟩, kept.1.callers⟩, nofun⟩, ?_⟩
    · show s.nested - 1 = 0
      rw [level]
    · exact .quiet (state_eq activity ▸ .of_eq rfl) (isOpen_congr (isStopped_eq activity).symm rfl)

/-- **A run begun is lawful**, and reports a stop when it enters one at once. -/
theorem invoke_turn {pipeline : Pipeline} {ticket : Nat} (lawful : e.Lawful)
    (invoked : e.invoke pipeline = .ok (ticket, f)) : f.Lawful ∧ Turn e f := by
  unfold invoke at invoked
  split at invoked
  · rename_i s activity
    cases invoked
    have level : s.nested = 0 := by
      have kept := lawful.activity
      rw [activity] at kept
      exact kept
    have free : e.isStopped = false := isStopped_eq activity
    have quiet : Eval.Keeps .quiet (evalPipeline e.files pipeline) :=
      evalPipeline_keeps e.files pipeline
    have kept := quiet (({ s with frame := .start } : Interpreter).setAvailability .busy)
    have below : (({ s with frame := .start } : Interpreter).setAvailability .busy).nested = 0 :=
      (nested_setAvailability _ _).trans level
    have begun := Execution.lawful_ofRun kept
    rw [below] at begun
    refine ⟨⟨begun, fun _ => lawful.inbox free⟩, ?_⟩
    refine .of_running kept ?_ (isOpen_of_free free) rfl (lawful.inbox free)
    have state : e.state = s := state_eq activity
    rw [state]
    exact (Quiet.of_eq rfl).trans (.setAvailability { s with frame := .start } .busy)
  · cases invoked

/-- A verb closes the stop that it is sent into. -/
theorem resume_turn {verb : Verb} (lawful : e.Lawful) (resumed : e.resume verb = .ok f) :
    f.Lawful ∧ f.state = e.state ∧ e.isStopped = true := by
  unfold resume at resumed
  split at resumed
  · rename_i stopped
    cases resumed
    refine ⟨⟨lawful.activity, fun free => ?_⟩, rfl, stopped⟩
    exact absurd (free.symm.trans stopped) Bool.false_ne_true
  · cases resumed

/-- A command leaves the stop that it is sent into as it is. -/
theorem command_turn {pipeline : Pipeline} {ticket : Nat} (lawful : e.Lawful)
    (sent : e.command pipeline = .ok (ticket, f)) :
    f.Lawful ∧ f.state = e.state ∧ f.isOpen = e.isOpen := by
  unfold command at sent
  split at sent
  · rename_i stopped
    cases sent
    refine ⟨⟨lawful.activity, fun free => ?_⟩, rfl, ?_⟩
    · exact absurd (free.symm.trans stopped) Bool.false_ne_true
    · show (e.isStopped && (e.inbox ++ [StopRequest.command _ pipeline]).all _) = _
      rw [List.all_append]
      simp only [List.all_cons, List.all_nil, StopRequest.isVerb, Bool.not_false, Bool.and_true]
      rfl
  · cases sent

/-- Step mode switched leaves a stop as it is. -/
theorem stop?_setStepping (e : Engine) (enabled : Bool) :
    (e.setStepping enabled).stop? = e.stop? :=
  e.activity.stop?_withState _

/-- The state behind step mode being switched. -/
theorem state_setStepping (e : Engine) (enabled : Bool) :
    (e.setStepping enabled).state = { e.state with stepping := enabled } :=
  e.activity.state_withState _

/-- **Step mode can be switched at any time.** -/
theorem setStepping_turn (lawful : e.Lawful) (enabled : Bool) :
    (e.setStepping enabled).Lawful ∧ (e.setStepping enabled).history = e.history ∧
      (e.setStepping enabled).isOpen = e.isOpen := by
  have stops := e.stop?_setStepping enabled
  have stopped : (e.setStepping enabled).isStopped = e.isStopped := by
    unfold isStopped
    rw [stops]
  refine ⟨⟨?_, fun free => lawful.inbox (stopped.symm.trans free)⟩, ?_, ?_⟩
  · have kept := lawful.activity
    show (e.activity.withState { e.state with stepping := enabled }).Lawful
    unfold Engine.state
    cases activity : e.activity with
    | idle s =>
      rw [activity] at kept
      exact kept
    | running ticket x =>
      rw [activity] at kept
      exact kept.withState rfl
    | nested ticket waiting asker x =>
      rw [activity] at kept
      exact ⟨kept.1, kept.2.withState rfl⟩
  · unfold history
    rw [state_setStepping]
  · unfold isOpen
    rw [stopped]
    rfl

end

end Engine

end ShellSession
