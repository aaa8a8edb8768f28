/-
**What evaluations come to when others take part.**

Wherever a run waits for somebody, others may do anything to the interpreter before it goes on: at the
look of the debugger, in a stop, and when a script file is entered or left. A part is what they do at one
such point. What a run comes to is said with the parts given, in their order, those in the script files
that it calls included; and what comes of one evaluation after another is put together from what comes of
each.

* `Part`, `Run.ComesTo`: what a run comes to, and in which state, given the parts of others;
* `Run.comesTo_andThen_iff`: **one evaluation after another**;
* `Execution.Leads`, `Engine.Holds`: executions and engines that lead to what comes of a run;
* `Engine.answered_comesTo`: **whatever an engine answers, the pipeline comes to with some parts of
  others**.
-/

import ShellSession.Proofs.Engine.Undertaking

namespace ShellSession.Engine

variable {files : Files} {α β : Type}

/-! ### Runs -/

/-- What others do at a point where a run waits: they leave the interpreter in a state, and a stop with a
verb. -/
inductive Part where
  | finds (s : Interpreter)
  | leaves (verb : Verb) (s : Interpreter)

/-- What a run comes to, and in which state, given the parts of others. -/
inductive Run.ComesTo (files : Files) :
    {α : Type} → Run α → List Part → Except EngineFailure α → Interpreter → Prop
  | done {α : Type} (result : Except EngineFailure α) (s : Interpreter) :
      ComesTo files (.done result s) [] result s
  | ready {α : Type} {s t u : Interpreter} {go : Interpreter → Run α} {parts : List Part}
      {result : Except EngineFailure α} (comes : ComesTo files (go t) parts result u) :
      ComesTo files (.ready s go) (.finds t :: parts) result u
  | stopped {α : Type} {stop : Stop} {s t u : Interpreter} {resume : Verb → Interpreter → Run α}
      {verb : Verb} {parts : List Part} {result : Except EngineFailure α}
      (comes : ComesTo files (resume verb t) parts result u) :
      ComesTo files (.stopped stop s resume) (.leaves verb t :: parts) result u
  | calling {α : Type} {file text : String} {s t u v w : Interpreter}
      {back : Outcome → Interpreter → Run α} {inner parts : List Part} {outcome : Outcome}
      {result : Except EngineFailure α}
      (enters : ComesTo files (Execution.enter files file text t) inner outcome u)
      (comes : ComesTo files (back outcome { v with frame := t.frame }) parts result w) :
      ComesTo files (.calling file text s back) (.finds t :: (inner ++ .finds v :: parts)) result w

namespace Run

/-- **One evaluation after another**: the first comes to something with the first parts, and what follows
then comes to something with the others. -/
theorem comesTo_andThen_iff {run : Run α} {next : Except EngineFailure α → Interpreter → Run β}
    {parts : List Part} {result : Except EngineFailure β} {u : Interpreter} :
    (run.andThen next).ComesTo files parts result u ↔
      ∃ first rest middle t, parts = first ++ rest ∧ run.ComesTo files first middle t ∧
        (next middle t).ComesTo files rest result u := by
  constructor
  · intro comes
    induction run generalizing parts with
    | done middle t => exact ⟨[], parts, middle, t, rfl, .done middle t, comes⟩
    | ready s go ih =>
      cases comes with
      | ready comes =>
        obtain ⟨first, rest, middle, t, rfl, comes, onward⟩ := ih _ comes
        exact ⟨_, rest, middle, t, rfl, .ready comes, onward⟩
    | stopped stop s resume ih =>
      cases comes with
      | stopped comes =>
        obtain ⟨first, rest, middle, t, rfl, comes, onward⟩ := ih _ _ comes
        exact ⟨_, rest, middle, t, rfl, .stopped comes, onward⟩
    | calling file text s back ih =>
      cases comes with
      | @calling _ _ _ _ t _ v _ _ inner _ _ _ enters comes =>
        obtain ⟨first, rest, middle, w, rfl, comes, onward⟩ := ih _ _ comes
        refine ⟨.finds t :: (inner ++ .finds v :: first), rest, middle, w, ?_, .calling enters comes,
          onward⟩
        simp only [List.cons_append, List.append_assoc]
  · rintro ⟨first, rest, middle, t, rfl, comes, onward⟩
    induction run generalizing first with
    | done middle t =>
      cases comes
      exact onward
    | ready s go ih =>
      cases comes with
      | ready comes => exact .ready (ih _ _ comes)
    | stopped stop s resume ih =>
      cases comes with
      | stopped comes => exact .stopped (ih _ _ _ comes)
    | calling file text s back ih =>
      cases comes with
      | calling enters comes =>
        have behind : (Run.calling file text s fun outcome s =>
            (back outcome s).andThen next).ComesTo files _ result u :=
          .calling enters (ih _ _ _ comes)
        rw [List.cons_append, List.append_assoc, List.cons_append]
        exact behind

/-- What becomes of a run that waits does not depend on the state that it waits in. -/
theorem ComesTo.withState {run : Run α} {s t : Interpreter} {parts : List Part}
    {result : Except EngineFailure α} (comes : (run.withState s).ComesTo files parts result t)
    (waits : ∀ result u, run ≠ .done result u) : run.ComesTo files parts result t := by
  cases run with
  | done result u => exact absurd rfl (waits result u)
  | ready u go =>
    cases comes with
    | ready comes => exact .ready comes
  | stopped stop u resume =>
    cases comes with
    | stopped comes => exact .stopped comes
  | calling file text u back =>
    cases comes with
    | calling enters comes => exact .calling enters comes

end Run

/-! ### Executions -/

/-- What an execution comes to: the run in hand comes to something, and then the callers put aside, one
after another. -/
inductive Execution.ComesTo (files : Files) :
    Execution → List Part → Outcome → Interpreter → Prop
  | alone {run : Run (List Value)} {parts : List Part} {outcome : Outcome} {u : Interpreter}
      (comes : run.ComesTo files parts outcome u) : ComesTo files ⟨run, []⟩ parts outcome u
  | called {run : Run (List Value)} {caller : Caller} {callers : List Caller}
      {first rest : List Part} {middle outcome : Outcome} {t u v : Interpreter}
      (comes : run.ComesTo files first middle t)
      (behind : ComesTo files ⟨leave caller middle u, callers⟩ rest outcome v) :
      ComesTo files ⟨run, caller :: callers⟩ (first ++ .finds u :: rest) outcome v

namespace Execution

/-- What comes of the run in hand decides what comes of an execution. -/
theorem ComesTo.of_run {run other : Run (List Value)} {callers : List Caller} {parts : List Part}
    {outcome : Outcome} {u : Interpreter} (comes : ComesTo files ⟨run, callers⟩ parts outcome u)
    (more : List Part) (earlier : ∀ parts outcome t, run.ComesTo files parts outcome t →
      other.ComesTo files (more ++ parts) outcome t) :
    ComesTo files ⟨other, callers⟩ (more ++ parts) outcome u := by
  cases comes with
  | alone comes => exact .alone (earlier _ _ _ comes)
  | called comes behind =>
    rw [← List.append_assoc]
    exact .called (earlier _ _ _ comes) behind

/-- **A step** is taken in the state that the execution is in. -/
theorem ComesTo.of_step {x y : Execution} {parts : List Part} {outcome : Outcome} {u : Interpreter}
    (comes : y.ComesTo files parts outcome u) (stepped : x.step files = some y) :
    x.ComesTo files (.finds x.state :: parts) outcome u := by
  obtain ⟨run, callers⟩ := x
  cases run with
  | ready s go =>
    cases stepped
    exact comes.of_run [.finds s] fun _ _ _ comes => .ready comes
  | stopped stop s resume => cases callers <;> cases stepped
  | done middle s =>
    cases callers with
    | nil => cases stepped
    | cons caller callers =>
      cases stepped
      exact .called (.done middle s) comes
  | calling file text s back =>
    cases stepped
    cases comes with
    | @called _ _ _ first rest middle _ t v _ entered behind =>
      have onward : Execution.ComesTo files ⟨.calling file text s back, callers⟩ _ outcome u :=
        behind.of_run (.finds s :: (first ++ [.finds v])) fun parts _ _ comes => by
          rw [List.cons_append, List.append_assoc, List.singleton_append]
          exact .calling entered comes
      rw [List.cons_append, List.append_assoc, List.singleton_append] at onward
      exact onward

/-- What others do to an execution leaves what comes of it, but for the state of one that has ended. -/
theorem ComesTo.withState {x : Execution} {s u : Interpreter} {parts : List Part} {outcome : Outcome}
    (comes : (x.withState s).ComesTo files parts outcome u) (scope : s.scope = x.state.scope) :
    ∃ v, x.ComesTo files parts outcome v ∧ v.scope = u.scope := by
  obtain ⟨run, callers⟩ := x
  by_cases waits : ∀ result t, run ≠ .done result t
  · exact ⟨u, comes.of_run [] fun _ _ _ comes => comes.withState waits, rfl⟩
  · obtain ⟨result, t, rfl⟩ : ∃ result t, run = .done result t := by
      by_contra none
      exact waits fun result t same => none ⟨result, t, same⟩
    cases comes with
    | alone comes =>
      cases comes
      exact ⟨t, .alone (.done _ t), scope.symm⟩
    | called comes behind =>
      cases comes
      exact ⟨u, .called (.done _ t) behind, rfl⟩

/-- An execution leads to whatever comes of it: with the parts that others had before, the run that was
begun comes to that, up to what others do to the interpreter behind its end, which leaves the variables. -/
def Leads (files : Files) (origin : Run (List Value)) (x : Execution) : Prop :=
  ∃ past, ∀ parts outcome u, x.ComesTo files parts outcome u →
    ∃ v, origin.ComesTo files (past ++ parts) outcome v ∧ v.scope = u.scope

namespace Leads

variable {origin : Run (List Value)} {x y : Execution}

theorem refl (origin : Run (List Value)) : Leads files origin (.ofRun origin) := by
  refine ⟨[], fun parts outcome u comes => ?_⟩
  cases comes with
  | alone comes => exact ⟨u, comes, rfl⟩

/-- An execution that came with some more parts to whatever comes of another one. -/
theorem of_comesTo (leads : Leads files origin x) (more : List Part)
    (earlier : ∀ parts outcome u, y.ComesTo files parts outcome u →
      ∃ v, x.ComesTo files (more ++ parts) outcome v ∧ v.scope = u.scope) : Leads files origin y := by
  obtain ⟨past, behind⟩ := leads
  refine ⟨past ++ more, fun parts outcome u comes => ?_⟩
  obtain ⟨v, comes, scope⟩ := earlier parts outcome u comes
  obtain ⟨w, comes, same⟩ := behind _ _ _ comes
  exact ⟨w, (List.append_assoc past more parts).symm ▸ comes, same.trans scope⟩

theorem step (leads : Leads files origin x) (stepped : x.step files = some y) :
    Leads files origin y :=
  leads.of_comesTo [.finds x.state] fun _ _ u comes => ⟨u, comes.of_step stepped, rfl⟩

/-- A change of the state that leaves the variables. -/
theorem withState (leads : Leads files origin x) {s : Interpreter} (scope : s.scope = x.state.scope) :
    Leads files origin (x.withState s) :=
  leads.of_comesTo [] fun _ _ _ comes => comes.withState scope

/-- A stop, whatever state commands have left it in. -/
theorem inStop {stop : Stop} {s : Interpreter} {resume : Verb → Interpreter → Run (List Value)}
    {callers : List Caller} (leads : Leads files origin ⟨.stopped stop s resume, callers⟩)
    (t : Interpreter) : Leads files origin ⟨.stopped stop t resume, callers⟩ :=
  leads.of_comesTo [] fun _ _ u comes =>
    ⟨u, comes.of_run [] fun _ _ _ comes => by cases comes with | stopped comes => exact .stopped comes, rfl⟩

/-- A stop that is left with a verb. -/
theorem leave {stop : Stop} {s : Interpreter} {resume : Verb → Interpreter → Run (List Value)}
    {callers : List Caller} (leads : Leads files origin ⟨.stopped stop s resume, callers⟩)
    (verb : Verb) (t : Interpreter) : Leads files origin ⟨resume verb t, callers⟩ :=
  leads.of_comesTo [.leaves verb t] fun _ _ u comes =>
    ⟨u, comes.of_run [.leaves verb t] fun _ _ _ comes => .stopped comes, rfl⟩

end Leads

end Execution

/-! ### Engines -/

variable {e f : Engine} {origin : Run (List Value)} {ticket : Nat}

/-- What is asked of an engine leaves its files. -/
theorem asked_files (e : Engine) (request : Ask) : (e.asked request).files = e.files := by
  generalize same : e.asked request = f
  cases asksTo_of_asked same with
  | invoke invoked => exact (invoke_leaves invoked).2
  | command sent => exact (command_activity sent).2.2
  | resume resumed => exact (resume_activity resumed).2.2
  | switch enabled => rfl
  | same => rfl

/-- Whatever happens to an engine, its files stay what they are. -/
theorem run_files (e : Engine) (events : List Event) : (e.run events).files = e.files := by
  induction events generalizing e with
  | nil => rfl
  | cons event rest ih =>
    refine (ih (e.after event)).trans ?_
    cases event with
    | ask request => exact e.asked_files request
    | step =>
      show (e.step.getD e).files = e.files
      cases stepped : e.step with
      | none => rfl
      | some f => exact (step_leaves stepped).1

/-- An engine that holds what comes of a run under a ticket: an execution that leads to it, also while a
command is evaluated in a stop; or the answer, with the variables that the run has left. -/
inductive Holds (origin : Run (List Value)) (ticket : Nat) (e : Engine) : Prop
  | running (x : Execution) (activity : e.activity = .running ticket x)
      (leads : x.Leads e.files origin)
  | serving (waiting : Waiting) (asker : Nat) (x : Execution)
      (activity : e.activity = .nested ticket waiting asker x)
      (leads : ∀ s, (waiting.execution s).Leads e.files origin)
  | ended (s u : Interpreter) (parts : List Part) (outcome : Outcome)
      (activity : e.activity = .idle s) (found : e.result? ticket = some outcome)
      (comes : origin.ComesTo e.files parts outcome u) (scope : s.scope = u.scope)

/-- The variables behind a run are those that it has left. -/
theorem closeRun_scope (s : Interpreter) : (closeRun s).scope = s.scope := by
  obtain ⟨history, same, _⟩ := setAvailability_eq s .available
  unfold closeRun
  rw [same]
  rfl

namespace Holds

/-- What is asked of an engine leaves what comes of its run. -/
theorem asked (holds : e.Holds origin ticket) (request : Ask) (own : e.accepts (.ask request) = 0) :
    (e.asked request).Holds origin ticket := by
  cases holds with
  | running x activity leads =>
    obtain ⟨later, _, files, _⟩ := asked_busy (main?_eq activity) request
    have state : e.state = x.state := congrArg Activity.state activity
    refine .running _ (later.trans (by rw [activity]; rfl)) (files.symm ▸ leads.withState ?_)
    rw [state]
  | serving waiting asker x activity leads =>
    obtain ⟨later, _, files, _⟩ := asked_busy (main?_eq activity) request
    exact .serving waiting asker _ (later.trans (by rw [activity]; rfl)) (files.symm ▸ leads)
  | ended s u parts outcome activity found comes scope =>
    rcases asked_idle activity request own with ⟨stays, _⟩ | ⟨enabled, rfl⟩
    · rw [stays]
      exact .ended s u parts outcome activity found comes scope
    · refine .ended { s with stepping := enabled } u parts outcome ?_ found comes scope
      show e.activity.withState { e.state with stepping := enabled } = _
      rw [Engine.state, activity]
      rfl

/-- A step of an engine is a step of its run, or one in a stop of it. -/
theorem step (holds : e.Holds origin ticket) (ticketed : e.Ticketed) (stepped : e.step = some f) :
    f.Holds origin ticket := by
  cases holds with
  | ended s u parts outcome activity found comes scope =>
    cases (step_idle activity).symm.trans stepped
  | serving waiting asker x doing leads =>
    cases stepsTo_of_step stepped with
    | @further _ _ _ _ y activity taken =>
      cases doing.symm.trans activity
      exact .serving waiting asker y rfl leads
    | @answer _ _ _ _ s activity =>
      cases doing.symm.trans activity
      exact .running _ rfl (leads s)
    | run activity _ | finish activity | take activity _ | leave activity _ =>
      cases doing.symm.trans activity
  | running x doing leads =>
    cases stepsTo_of_step stepped with
    | @run _ _ y activity taken =>
      cases doing.symm.trans activity
      exact .running y rfl (leads.step taken)
    | @finish _ outcome s activity =>
      cases doing.symm.trans activity
      obtain ⟨past, behind⟩ := leads
      obtain ⟨v, comes, scope⟩ := behind [] outcome s (.alone (.done outcome s))
      exact .ended (closeRun s) v _ outcome rfl
        (ticketed.result?_answer (owed_of_main (main?_eq activity)) outcome) comes
        ((closeRun_scope s).trans scope.symm)
    | take activity _ =>
      cases doing.symm.trans activity
      exact .serving _ _ _ rfl fun t => leads.inStop _
    | leave activity _ =>
      cases doing.symm.trans activity
      exact .running _ rfl (leads.leave _ _)
    | further activity _ | answer activity => cases doing.symm.trans activity

/-- Whatever happens to an engine, as long as it accepts no other run. -/
theorem run {events : List Event} (holds : e.Holds origin ticket) (made : e.Made)
    (own : e.accepted events = 0) : (e.run events).Holds origin ticket := by
  induction events generalizing e with
  | nil => exact holds
  | cons event rest ih =>
    obtain ⟨first, later⟩ := Nat.add_eq_zero_iff.mp own
    refine ih ?_ (made.run [event]) later
    cases event with
    | ask request => exact holds.asked request first
    | step =>
      show (e.step.getD e).Holds origin ticket
      cases stepped : e.step with
      | none => exact holds
      | some f => exact holds.step made.lawful.2 stepped

end Holds

/-- **Whatever an engine answers to a run, the pipeline comes to with some parts of others**, and the
engine has the variables that the pipeline leaves, as long as it accepts no other run. -/
theorem answered_comesTo {pipeline : Pipeline} (made : e.Made)
    (invoked : e.invoke pipeline = .ok (ticket, f)) {events : List Event}
    (own : f.accepted events = 0) {outcome : Outcome}
    (answered : (f.run events).result? ticket = some outcome) :
    ∃ parts u, (evalPipeline e.files pipeline (begunFrom e.state)).ComesTo e.files parts outcome u ∧
      ∀ name, (f.run events).askVariable name = .ok (u.scope.get? name) := by
  have begun : f.Made := made.use (.invoke pipeline ticket invoked)
  obtain ⟨s, activity, rfl⟩ := exists_idle invoked
  have holds : f.Holds (evalPipeline e.files pipeline (begunFrom e.state)) ticket := by
    unfold Engine.invoke at invoked
    rw [activity] at invoked
    cases invoked
    exact .running _ rfl (.refl _)
  have files : (f.run events).files = e.files :=
    (f.run_files events).trans (invoke_leaves invoked).2
  cases holds.run begun own with
  | running x doing leads =>
    cases ((begun.run events).lawful.2.unanswered (owed_of_main (main?_eq doing))).symm.trans answered
  | serving waiting asker x doing leads =>
    cases ((begun.run events).lawful.2.unanswered (owed_of_main (main?_eq doing))).symm.trans answered
  | ended s u parts given doing found comes scope =>
    cases found.symm.trans answered
    refine ⟨parts, u, files ▸ comes, fun name => ?_⟩
    unfold askVariable
    rw [doing, ← scope]

end ShellSession.Engine
