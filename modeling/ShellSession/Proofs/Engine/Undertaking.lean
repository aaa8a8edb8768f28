/-
**What an engine undertakes.**

An engine undertakes the pipeline of a host in one of two ways: it begins a run, or it takes up a command
in the stop that its run is in. Either way it carries out the journey of the pipeline, whatever is asked of
it meanwhile, and answers with the outcome in which the journey has ended.

* `Engine.Undertakes`: an engine that has just begun with a pipeline, and the state that it begins in;
* `Engine.Tends`: an engine that evaluates a command in a stop, with what is on record of its journey;
* `Engine.Undertakes.ends`: **what is answered is how the journey has ended**;
* `Engine.Undertakes.fails`: **a failure that is answered is that of a scene**.
-/

import ShellSession.Proofs.Engine.Staging
import ShellSession.Proofs.Engine.Stopping

namespace ShellSession.Engine

variable {e f : Engine} {ticket asker : Nat} {pipeline : Pipeline} {origin : Journey}
  {acts : List Act}

/-- An engine that begins with a pipeline for the holder of a ticket, in a state: as a run of its own, or
as the command that is the next to be taken up in a stop. -/
inductive Undertakes (e : Engine) (ticket : Nat) (pipeline : Pipeline) : Interpreter → Engine → Prop
  | run {f : Engine} (invoked : e.invoke pipeline = .ok (ticket, f)) :
      Undertakes e ticket pipeline (begunFrom e.state) f
  | command {f : Engine} {main : Nat} {stop : Stop} {resume : Verb → Interpreter → Run (List Value)}
      {s : Interpreter} {callers : List Caller} {rest : List StopRequest}
      (activity : e.activity = .running main ⟨.stopped stop s resume, callers⟩)
      (inbox : e.inbox = .command ticket pipeline :: rest) (stepped : e.step = some f) :
      Undertakes e ticket pipeline (openNested s) f

/-! ### Engines that do a run -/

/-- An engine that is doing a run accepts no other. -/
theorem accepts_busy (doing : e.main? = some ticket) (event : Event) : e.accepts event = 0 := by
  by_contra accepts
  obtain ⟨pipeline, next, f, invoked, _, _⟩ := exists_invoked accepts
  obtain ⟨s, activity, _⟩ := exists_idle invoked
  cases (main?_eq activity).symm.trans doing

/-- The script files stay what they are. -/
theorem files_after (doing : e.main? = some ticket) (event : Event) :
    (e.after event).files = e.files := by
  cases event with
  | ask request => exact (asked_busy doing request).2.2.1
  | step =>
    unfold Engine.after
    cases stepped : e.step with
    | none => rfl
    | some f => exact (step_leaves stepped).1

/-- The run that an engine follows is under way as long as it is not answered. -/
theorem Follows.main (follows : e.Follows origin ticket acts) (unanswered : e.result? ticket = none) :
    e.main? = some ticket := by
  cases follows with
  | running _ journey travels rests activity => exact main?_eq activity
  | serving acts inner stop go s returns pipeline asker inside travels evaluates rests activity =>
    exact main?_eq activity
  | ended _ outcome s travels activity found => cases found.symm.trans unanswered

/-- A run that an engine follows has ended when it is answered. -/
theorem Follows.answered (follows : e.Follows origin ticket acts) (ticketed : e.Ticketed)
    {outcome : Outcome} (found : e.result? ticket = some outcome) :
    ∃ s, Travels e.files origin acts ⟨.going (.ended outcome), s, []⟩ := by
  cases follows with
  | running _ journey travels rests activity =>
    cases (ticketed.unanswered (owed_of_main (main?_eq activity))).symm.trans found
  | serving acts inner stop go s returns pipeline asker inside travels evaluates rests activity =>
    cases (ticketed.unanswered (owed_of_main (main?_eq activity))).symm.trans found
  | ended _ other s travels activity given =>
    cases given.symm.trans found
    exact ⟨s, travels⟩

/-- A run that is in a stop is outside nested commands, and its breakpoints are in order. -/
theorem Guided.of_stopped (guided : e.Guided) {stop : Stop} {s : Interpreter}
    {resume : Verb → Interpreter → Run (List Value)} {callers : List Caller}
    (activity : e.activity = .running ticket ⟨.stopped stop s resume, callers⟩) :
    s.nested = 0 ∧ s.breakpoints.Ordered := by
  cases guided with
  | idle t doing outside ordered => cases doing.symm.trans activity
  | busy origin ticket acts begun follows =>
    cases follows with
    | serving acts inner stop go t returns pipeline asker inside travels evaluates rests doing =>
      cases doing.symm.trans activity
    | ended acts outcome t travels doing found => cases doing.symm.trans activity
    | running acts journey travels rests doing =>
      have recorded := travels.recorded
      have same := doing.symm.trans activity
      cases rests with
      | ended outcome t returns => cases same
      | reached statement go t returns outside =>
        rw [execution_reached outside] at same
        cases same
      | entering position name text arguments input next t returns unknown isFile read =>
        rw [execution_entering unknown isFile read] at same
        cases same
      | stopped other go t returns outside =>
        cases same
        exact ⟨outside, recorded.ordered begun.ordered⟩

/-! ### Commands in a stop -/

/-- A journey that begins inside a stop, with its breakpoints in order. -/
structure Journey.BegunInside (journey : Journey) : Prop where
  inside : journey.state.nested ≠ 0
  ordered : journey.state.breakpoints.Ordered
  placed : journey.Placed

/-- An engine that evaluates a command in a stop, with what is on record of its journey, or has answered
it. -/
inductive Tends (origin : Journey) (asker : Nat) (e : Engine) (acts : List Act) : Prop
  | serving (ticket : Nat) (waiting : Waiting) (inside : Journey)
      (travels : Travels e.files origin acts inside) (rests : inside.Rests e.files)
      (activity : e.activity = .nested ticket waiting asker (inside.execution e.files))
  | served (outcome : Outcome) (s : Interpreter)
      (travels : Travels e.files origin acts ⟨.going (.ended outcome), s, []⟩)
      (found : e.result? asker = some outcome)

namespace Tends

/-- An engine that holds the execution that a journey inside a stop reaches by itself. -/
theorem of_reaches (e : Engine) {ticket asker : Nat} {waiting : Waiting} {inside : Journey}
    {x : Execution} (travels : Travels e.files origin acts inside) (reaches : inside.Reaches e.files x)
    (activity : e.activity = .nested ticket waiting asker x) :
    ∃ more, e.Tends origin asker (acts ++ more) ∧ more.filterMap Act.directive? = [] := by
  obtain ⟨more, later, onward, rests, rfl, silent⟩ := reaches
  exact ⟨more, .serving ticket waiting later (travels.trans onward) rests activity, silent⟩

/-- A command is evaluated during a run, as long as it is not answered. -/
theorem main (tends : e.Tends origin asker acts) (unanswered : e.result? asker = none) :
    ∃ ticket, e.main? = some ticket := by
  cases tends with
  | serving ticket waiting inside travels rests activity => exact ⟨ticket, main?_eq activity⟩
  | served outcome s travels found => cases found.symm.trans unanswered

/-- A command has ended when it is answered. -/
theorem answered (tends : e.Tends origin asker acts) (ticketed : e.Ticketed) {outcome : Outcome}
    (found : e.result? asker = some outcome) :
    ∃ s, Travels e.files origin acts ⟨.going (.ended outcome), s, []⟩ := by
  cases tends with
  | serving ticket waiting inside travels rests activity =>
    cases (unanswered_serving ticketed activity).2.symm.trans found
  | served other s travels given =>
    cases given.symm.trans found
    exact ⟨s, travels⟩

/-- **Whatever happens to the engine** is a piece of the journey, as long as the command is not
answered. -/
theorem after (tends : e.Tends origin asker acts) (begun : origin.BegunInside)
    (ticketed : e.Ticketed) (unanswered : e.result? asker = none) (event : Event) :
    ∃ more, (e.after event).Tends origin asker (acts ++ more) ∧
      more.filterMap Act.directive? = (e.directive? event).toList := by
  cases tends with
  | served outcome s travels found => cases found.symm.trans unanswered
  | serving ticket waiting inside travels rests activity =>
    cases event with
    | ask request =>
      obtain ⟨later, _, files, _⟩ := asked_busy (main?_eq activity) request
      obtain ⟨more, further, onward, rests, same, decided⟩ := rests.decided request.mode?
      have tends : (e.asked request).Tends origin asker (acts ++ more) := by
        refine .serving ticket waiting further ?_ ?_ ?_
        · exact files ▸ travels.trans onward
        · exact files ▸ rests
        · rw [later, files, same, Engine.state, activity]
          rfl
      exact ⟨more, tends, decided⟩
    | step =>
      unfold Engine.after directive?
      rw [verb?_nested activity]
      have level : inside.state.nested ≠ 0 := fun none =>
        begun.inside (travels.recorded.nested.symm.trans none)
      rcases rests.moves with ⟨y, goes⟩ | ⟨outcome, s, rfl⟩ | ⟨_, _, _, _, outside, rfl⟩
      · rw [step_of_stepsTo (.further activity goes)]
        have onward :=
          rests.step (travels.recorded.ordered begun.ordered) (travels.placed begun.placed) goes
        exact of_reaches { e with activity := .nested ticket waiting asker y } travels onward rfl
      · rw [step_served activity]
        refine ⟨[], ?_, rfl⟩
        rw [List.append_nil]
        exact .served outcome s travels
          (ticketed.result?_answer (unanswered_serving ticketed activity).1 outcome)
      · exact absurd outside level

end Tends

/-- A journey that an engine follows up to its answer: by induction on the events, of which those behind
the answer do not matter. -/
theorem ends_of_after {conducts : Engine → List Act → Prop}
    (main : ∀ {e acts}, conducts e acts → e.result? ticket = none → ∃ main, e.main? = some main)
    (after : ∀ {e acts} event, e.Made → conducts e acts → e.result? ticket = none →
      ∃ more, conducts (e.after event) (acts ++ more) ∧
        more.filterMap Act.directive? = (e.directive? event).toList)
    (answered : ∀ {e acts outcome}, e.Made → conducts e acts → e.result? ticket = some outcome →
      ∃ s, Travels e.files origin acts ⟨.going (.ended outcome), s, []⟩)
    {events : List Event} (made : e.Made) (conducted : conducts e acts) {outcome : Outcome}
    (found : (e.run events).result? ticket = some outcome) :
    ∃ more s, Travels e.files origin (acts ++ more) ⟨.going (.ended outcome), s, []⟩ ∧
      more.filterMap Act.directive? <+: e.directives events := by
  induction events generalizing e acts with
  | nil =>
    obtain ⟨s, travels⟩ := answered made conducted found
    exact ⟨[], s, by rw [List.append_nil]; exact travels, List.prefix_rfl⟩
  | cons event rest ih =>
    cases given : e.result? ticket with
    | some other =>
      cases (made.result?_run given (event :: rest)).symm.trans found
      obtain ⟨s, travels⟩ := answered made conducted given
      exact ⟨[], s, by rw [List.append_nil]; exact travels, List.nil_prefix⟩
    | none =>
      obtain ⟨doing, running⟩ := main conducted given
      obtain ⟨more, further, decided⟩ := after event made conducted given
      obtain ⟨others, s, travels, later⟩ := ih (made.run [event]) further found
      refine ⟨more ++ others, s, ?_, ?_⟩
      · rw [← List.append_assoc, ← files_after running event]
        exact travels
      · rw [List.filterMap_append, decided]
        exact List.prefix_append_right_inj _ |>.mpr later

namespace Undertakes

variable {s : Interpreter}

/-- An engine that undertakes a pipeline has come about like any other. -/
theorem made (undertakes : e.Undertakes ticket pipeline s f) (made : e.Made) : f.Made := by
  cases undertakes with
  | run invoked => exact made.use (.invoke pipeline ticket invoked)
  | command activity inbox stepped => exact made.step stepped

/-- A pipeline begins in no script file. -/
theorem host (undertakes : e.Undertakes ticket pipeline s f) : s.frame.file = none := by
  cases undertakes with
  | run invoked =>
    unfold begunFrom
    obtain ⟨history, same, _⟩ := setAvailability_eq { e.state with frame := .start } .busy
    rw [same]
    rfl
  | command activity inbox stepped => rfl

/-- The script files stay what they are. -/
theorem keeps (undertakes : e.Undertakes ticket pipeline s f) : f.files = e.files := by
  cases undertakes with
  | run invoked => exact (invoke_leaves invoked).2
  | command activity inbox stepped => exact (step_leaves stepped).1

/-- **What is answered is how the journey has ended**, whatever has happened meanwhile. What others have
decided on the journey comes first among what they decide. -/
theorem ends (undertakes : e.Undertakes ticket pipeline s f) (made : e.Made) {events : List Event}
    {outcome : Outcome} (answered : (f.run events).result? ticket = some outcome) :
    ∃ acts t, Travels e.files (.begin pipeline s) acts ⟨.going (.ended outcome), t, []⟩ ∧
      acts.filterMap Act.directive? <+: f.directives events := by
  have begun : f.Made := undertakes.made made
  have files : f.files = e.files := undertakes.keeps
  have placed := Journey.begin_placed pipeline s
  have extend : ∀ {acts}, acts.filterMap Act.directive? = [] → (∃ more t,
      Travels f.files (.begin pipeline s) (acts ++ more) ⟨.going (.ended outcome), t, []⟩ ∧
        more.filterMap Act.directive? <+: f.directives events) →
      ∃ acts t, Travels e.files (.begin pipeline s) acts ⟨.going (.ended outcome), t, []⟩ ∧
        acts.filterMap Act.directive? <+: f.directives events := by
    rintro acts silent ⟨more, t, travels, decided⟩
    refine ⟨acts ++ more, t, files ▸ travels, ?_⟩
    rw [List.filterMap_append, silent]
    exact decided
  cases undertakes with
  | run invoked =>
    obtain ⟨t, activity, rfl⟩ := exists_idle invoked
    obtain ⟨outside, ordered⟩ := made.guided.of_idle activity
    obtain ⟨nested, _, table, _⟩ := setAvailability_keeps { e.state with frame := .start } .busy
    obtain ⟨acts, follows, silent⟩ := Follows.invoke activity invoked
    refine extend silent (ends_of_after (fun follows unanswered => ⟨_, follows.main unanswered⟩)
      (fun event made follows unanswered => ?_)
      (fun made follows found => follows.answered made.lawful.2 found) begun follows answered)
    exact follows.after ⟨nested.trans outside, table.symm ▸ ordered, placed⟩ made.lawful.2 event
      (accepts_busy (follows.main unanswered) event)
  | @command _ main stop resume u callers rest activity inbox stepped =>
    obtain ⟨outside, ordered⟩ := made.guided.of_stopped activity
    have inside : (Journey.begin pipeline (openNested u)).BegunInside :=
      ⟨Nat.succ_ne_zero _, ordered, placed⟩
    let waiting : Waiting := ⟨stop, u.frame, resume, callers⟩
    have held : e.activity = .running main (waiting.held u) := activity
    cases (step_queued held rfl inbox).symm.trans stepped
    have state : e.state = u := congrArg Activity.state activity
    have begins := going_reaches e.files (plan pipeline (openNested u)) (openNested u) [] placed.standing
    obtain ⟨acts, tends, silent⟩ := Tends.of_reaches { e with
      inbox := rest
      activity := .nested main waiting ticket (e.undebugged pipeline) }
      (.rest _) begins (by
        unfold undebugged
        rw [state, evalPipeline_planned]
        rfl)
    exact extend silent (ends_of_after (fun tends unanswered => tends.main unanswered)
      (fun event made tends unanswered => tends.after inside made.lawful.2 unanswered event)
      (fun made tends found => tends.answered made.lawful.2 found) begun tends answered)

/-- **A failure that is answered is that of a scene** of the pipeline. -/
theorem fails (undertakes : e.Undertakes ticket pipeline s f) (made : e.Made) {events : List Event}
    {error : EngineFailure} (answered : (f.run events).result? ticket = some (.error error)) :
    ∃ acts scene, (Scene.begin e.files pipeline s).Travels acts scene ∧ scene.Fails error ∧
      acts.filterMap Act.directive? <+: f.directives events := by
  obtain ⟨acts, t, travels, decided⟩ := undertakes.ends made answered
  obtain ⟨shown, first, scene, onward, fails⟩ := travels.fails undertakes.host
  obtain ⟨others, rfl⟩ := first
  rw [List.filterMap_append] at decided
  exact ⟨shown, scene, onward, fails, (List.prefix_append _ _).trans decided⟩

end Undertakes

end ShellSession.Engine
