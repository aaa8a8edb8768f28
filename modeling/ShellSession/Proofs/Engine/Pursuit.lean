/-
**Engines follow journeys.**

Whatever an engine does with a run that it has accepted is the journey of the pipeline, with what others
decide on the way: the verbs that the engine takes, and the switches of step mode. The engine is at a
point of rest of the journey; or it evaluates a command in a stop of the journey, which is a journey of
its own; or the journey has come to its end and the run is answered.

* `Engine.directives`: what others decide on, as the events come;
* `Engine.Follows`: an engine that follows a journey, with what is on record of it;
* `Engine.Follows.run`: **whatever happens, the engine goes on following the journey**;
* `Engine.Made.guided`: **an engine that is not idle follows a journey**.
-/

import ShellSession.Proofs.Engine.Tracking

namespace ShellSession.Engine

variable {e f : Engine} {origin : Journey} {ticket : Nat} {acts : List Act}

/-! ### What others decide -/

/-- The verb that the engine takes with its next step. -/
def verb? (e : Engine) : Option Verb :=
  match e.activity, e.inbox with
  | .running _ execution, .verb verb :: _ => if execution.stop?.isSome then some verb else none
  | _, _ => none

/-- What others decide in an event. -/
def directive? (e : Engine) : Event → Option Directive
  | .step => e.verb?.map .verb
  | .ask request => request.mode?.map .mode

/-- What others decide as the events come. -/
def directives (e : Engine) : List Event → List Directive
  | [] => []
  | event :: rest => (e.directive? event).toList ++ (e.after event).directives rest

/-- No verb is taken outside stops. -/
theorem verb?_eq_none {x : Execution} (activity : e.activity = .running ticket x)
    (free : x.stop? = none) : e.verb? = none := by
  unfold verb?
  rw [activity]
  split
  · rename_i same _
    cases same
    rw [free]
    rfl
  · rfl

/-- No verb is taken while a command is evaluated. -/
theorem verb?_nested {waiting : Waiting} {asker : Nat} {x : Execution}
    (activity : e.activity = .nested ticket waiting asker x) : e.verb? = none := by
  unfold verb?
  rw [activity]

/-- An engine that has no step to take takes no verb. -/
theorem verb?_of_rest (rests : e.step = none) : e.verb? = none := by
  unfold verb?
  split
  · rename_i ticket x verb rest activity inbox
    obtain ⟨run, callers⟩ := x
    cases run with
    | stopped stop s resume => cases rests.symm.trans (step_of_stepsTo (.leave activity inbox))
    | _ => rfl
  · rfl

/-! ### Steps of an engine -/

/-- At a point of rest the execution has a step to take, or has ended, or is in a stop. -/
theorem Journey.Rests.moves {files : Files} {journey : Journey} (rests : journey.Rests files) :
    (∃ y, (journey.execution files).step files = some y) ∨
      (∃ outcome s, journey = ⟨.going (.ended outcome), s, []⟩) ∨
      ∃ stop go s returns, s.nested = 0 ∧ journey = ⟨.stopped stop go, s, returns⟩ := by
  cases rests with
  | ended outcome s returns =>
    cases returns with
    | nil => exact .inr (.inl ⟨outcome, s, rfl⟩)
    | cons caller returns => exact .inl ⟨_, rfl⟩
  | stopped stop go s returns outside => exact .inr (.inr ⟨stop, go, s, returns, outside, rfl⟩)
  | reached statement go s returns outside =>
    rw [execution_reached outside]
    exact .inl ⟨_, rfl⟩
  | entering position name text arguments input next s returns unknown isFile read =>
    rw [execution_entering unknown isFile read]
    exact .inl ⟨_, rfl⟩

/-! ### Engines that follow a journey -/

/-- A journey that begins outside nested commands, with its breakpoints in order. -/
structure Journey.Begun (journey : Journey) : Prop where
  outside : journey.state.nested = 0
  ordered : journey.state.breakpoints.Ordered
  placed : journey.Placed

/-- The state in which a run begins. -/
def begunFrom (s : Interpreter) : Interpreter :=
  ({ s with frame := .start } : Interpreter).setAvailability .busy

/-- An engine that follows the journey of the run under a ticket, with what is on record of it. -/
inductive Follows (origin : Journey) (ticket : Nat) (e : Engine) : List Act → Prop
  | running (acts : List Act) (journey : Journey) (travels : Travels e.files origin acts journey)
      (rests : journey.Rests e.files)
      (activity : e.activity = .running ticket (journey.execution e.files)) :
      Follows origin ticket e acts
  | serving (acts inner : List Act) (stop : Stop) (go : Interpreter → Plan) (s : Interpreter)
      (returns : List Return) (pipeline : Pipeline) (asker : Nat) (inside : Journey)
      (travels : Travels e.files origin acts ⟨.stopped stop go, s, returns⟩)
      (evaluates : Travels e.files (.begin pipeline (openNested s)) inner inside)
      (rests : inside.Rests e.files)
      (activity : e.activity = .nested ticket
        ⟨stop, s.frame, resumed e.files go, returns.map (Return.caller e.files)⟩ asker
        (inside.execution e.files)) : Follows origin ticket e (acts ++ inner)
  | ended (acts : List Act) (outcome : Outcome) (s : Interpreter)
      (travels : Travels e.files origin acts ⟨.going (.ended outcome), s, []⟩)
      (activity : e.activity = .idle (closeRun s)) (found : e.result? ticket = some outcome) :
      Follows origin ticket e acts

/-- The state behind a run, in another step mode. -/
theorem closeRun_switched (s : Interpreter) (enabled : Bool) :
    closeRun { s with stepping := enabled } = { closeRun s with stepping := enabled } := by
  unfold closeRun Interpreter.setAvailability
  dsimp only
  split <;> rfl

/-- An idle engine grants nothing but runs and switches of step mode, apart from questions. -/
theorem asked_idle {s : Interpreter} (activity : e.activity = .idle s) (request : Ask)
    (own : e.accepts (.ask request) = 0) : (e.asked request = e ∧ request.mode? = none) ∨
      ∃ enabled, request = .setStepping enabled := by
  have free : e.isStopped = false := isStopped_eq activity
  cases request with
  | setStepping enabled => exact .inr ⟨enabled, rfl⟩
  | invoke pipeline =>
    unfold accepts invoke at own
    rw [activity] at own
    cases own
  | command pipeline => exact .inl ⟨by simp [asked, ask, Engine.command, free, Except.map], rfl⟩
  | resume verb => exact .inl ⟨by simp [asked, ask, Engine.resume, free], rfl⟩
  | valueOf name => exact .inl ⟨by simp [asked, ask, askVariable, activity, Except.map], rfl⟩
  | release =>
    refine .inl ⟨?_, rfl⟩
    unfold asked ask
    cases e.askRelease <;> rfl

/-- Step mode switched, or left, at a point of rest. -/
theorem Journey.Rests.decided {files : Files} {journey : Journey} (rests : journey.Rests files)
    (mode : Option Bool) : ∃ more later, Travels files journey more later ∧ later.Rests files ∧
      later.execution files = (journey.execution files).withState
        { (journey.execution files).state with
          stepping := mode.getD (journey.execution files).state.stepping } ∧
      more.filterMap Act.directive? = (mode.map Directive.mode).toList := by
  cases mode with
  | none =>
    exact ⟨[], journey, .rest journey, rests, (journey.execution files).withState_state.symm, rfl⟩
  | some enabled =>
    obtain ⟨later, same⟩ := rests.switched enabled
    exact ⟨_, _, .move (.rest journey) (.switches journey enabled), later, same, rfl⟩

namespace Follows

/-- **What is asked of an engine** is a switch of step mode, or nothing to the journey. -/
theorem asked (follows : e.Follows origin ticket acts) (request : Ask)
    (own : e.accepts (.ask request) = 0) :
    ∃ more, (e.asked request).Follows origin ticket (acts ++ more) ∧
      more.filterMap Act.directive? = (e.directive? (.ask request)).toList := by
  cases follows with
  | running _ journey travels rests activity =>
    obtain ⟨later, _, files, _⟩ := asked_busy (main?_eq activity) request
    obtain ⟨more, further, onward, rests, same, decided⟩ := rests.decided request.mode?
    refine ⟨more, .running _ further ?_ ?_ ?_, decided⟩
    · exact files ▸ travels.trans onward
    · exact files ▸ rests
    · rw [later, files, same, Engine.state, activity]
      rfl
  | serving acts inner stop go s returns pipeline asker inside travels evaluates rests activity =>
    obtain ⟨later, _, files, _⟩ := asked_busy (main?_eq activity) request
    obtain ⟨more, further, onward, rests, same, decided⟩ := rests.decided request.mode?
    refine ⟨more, ?_, decided⟩
    rw [List.append_assoc]
    refine .serving acts (inner ++ more) stop go s returns pipeline asker further ?_ ?_ ?_ ?_
    · exact files ▸ travels
    · exact files ▸ evaluates.trans onward
    · exact files ▸ rests
    · rw [later, files, same, Engine.state, activity]
      rfl
  | ended _ outcome s travels activity found =>
    rcases asked_idle activity request own with ⟨stays, mode⟩ | ⟨enabled, rfl⟩
    · refine ⟨[], ?_, ?_⟩
      · rw [stays, List.append_nil]
        exact .ended acts outcome s travels activity found
      · show [] = (request.mode?.map Directive.mode).toList
        rw [mode]
        rfl
    · refine ⟨_, .ended _ outcome { s with stepping := enabled }
        (travels.move (.switches _ enabled)) ?_ found, rfl⟩
      show e.activity.withState { e.state with stepping := enabled } = _
      rw [Engine.state, activity]
      exact congrArg Activity.idle (closeRun_switched s enabled).symm

/-- An engine that holds the execution that a journey reaches by itself. -/
theorem of_reaches (e : Engine) {ticket : Nat} {journey : Journey} {x : Execution}
    (travels : Travels e.files origin acts journey) (reaches : journey.Reaches e.files x)
    (activity : e.activity = .running ticket x) :
    ∃ more, e.Follows origin ticket (acts ++ more) ∧ more.filterMap Act.directive? = [] := by
  obtain ⟨more, later, onward, rests, rfl, silent⟩ := reaches
  exact ⟨more, .running _ later (travels.trans onward) rests activity, silent⟩

/-- An engine that evaluates a command that a journey inside a stop reaches by itself. -/
theorem of_reaches_inside (e : Engine) {ticket asker : Nat} {stop : Stop} {go : Interpreter → Plan}
    {s : Interpreter} {returns : List Return} {pipeline : Pipeline} {inner : List Act}
    {inside : Journey} {x : Execution}
    (travels : Travels e.files origin acts ⟨.stopped stop go, s, returns⟩)
    (evaluates : Travels e.files (.begin pipeline (openNested s)) inner inside)
    (reaches : inside.Reaches e.files x) (activity : e.activity = .nested ticket
      ⟨stop, s.frame, resumed e.files go, returns.map (Return.caller e.files)⟩ asker x) :
    ∃ more, e.Follows origin ticket (acts ++ inner ++ more) ∧
      more.filterMap Act.directive? = [] := by
  obtain ⟨more, later, onward, rests, rfl, silent⟩ := reaches
  refine ⟨more, ?_, silent⟩
  rw [List.append_assoc]
  exact .serving acts (inner ++ more) stop go s returns pipeline asker later travels
    (evaluates.trans onward) rests activity

/-- **A request that is served** is a verb that leaves the stop, or begins a journey inside it. -/
theorem serve {stop : Stop} {go : Interpreter → Plan} {s : Interpreter} {returns : List Return}
    (travels : Travels e.files origin acts ⟨.stopped stop go, s, returns⟩) (placed : origin.Placed)
    (activity : e.activity = .running ticket
      ((Journey.mk (.stopped stop go) s returns).execution e.files))
    (stepped : e.step = some f) : ∃ more, f.Follows origin ticket (acts ++ more) ∧
      more.filterMap Act.directive? = (e.verb?.map Directive.verb).toList := by
  unfold verb?
  rw [activity]
  cases inbox : e.inbox with
  | nil => cases (step_empty activity inbox).symm.trans stepped
  | cons request rest =>
    cases request with
    | command asker pipeline =>
      cases (step_of_stepsTo (.take activity inbox)).symm.trans stepped
      have begins := going_reaches e.files (plan pipeline (openNested s)) (openNested s) []
        (plan_placed pipeline (openNested s))
      obtain ⟨inner, follows, silent⟩ := of_reaches_inside { e with
        inbox := rest
        activity := .nested ticket
          ⟨stop, s.frame, resumed e.files go, returns.map (Return.caller e.files)⟩ asker
          (.ofRun (evalPipeline e.files pipeline (openNested s))) } travels (.rest _) begins (by
            rw [evalPipeline_planned]
            rfl)
      rw [List.append_nil] at follows
      exact ⟨inner, follows, silent⟩
    | verb verb =>
      cases (step_of_stepsTo (.leave activity inbox)).symm.trans stepped
      by_cases halts : verb = .stop
      · subst halts
        exact ⟨_, .running _ _ (travels.move .halts) (.ended _ _ returns) rfl, rfl⟩
      · have moved := travels.move (.resumes halts rfl)
        have onward := going_reaches e.files _ _ returns (moved.placed placed).standing
        obtain ⟨more, follows, silent⟩ := of_reaches { e with
          inbox := []
          activity := .running ticket ⟨resumed e.files go verb s, returns.map (Return.caller e.files)⟩
          results := e.results ++ refusals rest } moved onward (by
            unfold resumed
            rw [if_neg halts]
            rfl)
        rw [List.append_assoc] at follows
        refine ⟨_, follows, ?_⟩
        rw [List.filterMap_append, silent]
        rfl

/-- **A step of the engine** takes a verb, or is nothing that others decide. -/
theorem step (follows : e.Follows origin ticket acts) (begun : origin.Begun) (ticketed : e.Ticketed)
    (stepped : e.step = some f) : ∃ more, f.Follows origin ticket (acts ++ more) ∧
      more.filterMap Act.directive? = (e.verb?.map Directive.verb).toList := by
  cases follows with
  | ended _ outcome s travels activity found => cases (step_idle activity).symm.trans stepped
  | running _ journey travels rests activity =>
    rcases rests.moves with ⟨y, goes⟩ | ⟨outcome, s, rfl⟩ | ⟨stop, go, s, returns, level, rfl⟩
    · cases (step_of_stepsTo (.run activity goes)).symm.trans stepped
      have onward :=
        rests.step (travels.recorded.ordered begun.ordered) (travels.placed begun.placed) goes
      rw [verb?_eq_none activity (Execution.stop?_of_step goes)]
      exact of_reaches { e with activity := .running ticket y } travels onward rfl
    · cases (step_of_stepsTo (.finish activity)).symm.trans stepped
      rw [verb?_eq_none activity rfl]
      refine ⟨[], ?_, rfl⟩
      rw [List.append_nil]
      exact .ended acts outcome s travels rfl
        (ticketed.result?_answer (owed_of_main (main?_eq activity)) outcome)
    · exact serve travels begun.placed activity stepped
  | serving acts inner stop go s returns pipeline asker inside travels evaluates rests activity =>
    rw [verb?_nested activity]
    have level : inside.state.nested = s.nested + 1 := evaluates.recorded.nested
    have here : s.nested = 0 := travels.recorded.nested.trans begun.outside
    rcases rests.moves with ⟨y, goes⟩ | ⟨outcome, t, rfl⟩ | ⟨_, _, t, _, below, rfl⟩
    · cases (step_of_stepsTo (.further activity goes)).symm.trans stepped
      have onward := rests.step
        (evaluates.recorded.ordered (travels.recorded.ordered begun.ordered))
        (evaluates.placed (Journey.begin_placed pipeline _)) goes
      exact of_reaches_inside { e with activity := .nested ticket _ asker y } travels evaluates
        onward rfl
    · cases (step_served activity).symm.trans stepped
      have served := travels.serves evaluates
      refine ⟨[], ?_, rfl⟩
      rw [List.append_nil]
      have outside := served.recorded.nested.trans begun.outside
      exact .running _ _ served (.stopped stop go _ returns outside) rfl
    · cases level.symm.trans below

/-- A run begun is the beginning of a journey. -/
theorem invoke {pipeline : Pipeline} {s : Interpreter} (activity : e.activity = .idle s)
    (invoked : e.invoke pipeline = .ok (ticket, f)) :
    ∃ acts, f.Follows (.begin pipeline (begunFrom s)) ticket acts ∧
      acts.filterMap Act.directive? = [] := by
  unfold Engine.invoke at invoked
  rw [activity] at invoked
  cases invoked
  have begins := going_reaches e.files (plan pipeline (begunFrom s)) (begunFrom s) []
    (plan_placed pipeline (begunFrom s))
  refine of_reaches _ (.rest _) begins ?_
  show Activity.running _ (.ofRun _) = _
  rw [evalPipeline_planned]
  rfl

/-- **Whatever happens to the engine**, it goes on following the journey. -/
theorem after (follows : e.Follows origin ticket acts) (begun : origin.Begun)
    (ticketed : e.Ticketed) (event : Event)
    (own : e.accepts event = 0) : ∃ more, (e.after event).Follows origin ticket (acts ++ more) ∧
      more.filterMap Act.directive? = (e.directive? event).toList := by
  cases event with
  | ask request => exact follows.asked request own
  | step =>
    unfold Engine.after directive?
    cases stepped : e.step with
    | some f => exact follows.step begun ticketed stepped
    | none =>
      refine ⟨[], (List.append_nil acts).symm ▸ follows, ?_⟩
      rw [verb?_of_rest stepped]
      rfl

/-- **As long as the engine accepts no other run, it follows the journey of this one**, with what others
decide as the events come. -/
theorem run {events : List Event} (follows : e.Follows origin ticket acts) (begun : origin.Begun)
    (made : e.Made)
    (own : e.accepted events = 0) : ∃ more, (e.run events).Follows origin ticket (acts ++ more) ∧
      more.filterMap Act.directive? = e.directives events := by
  induction events generalizing e acts with
  | nil => exact ⟨[], (List.append_nil acts).symm ▸ follows, rfl⟩
  | cons event rest ih =>
    obtain ⟨first, later⟩ := Nat.add_eq_zero_iff.mp own
    obtain ⟨some, further, decided⟩ := follows.after begun made.lawful.2 event first
    obtain ⟨more, final, others⟩ := ih further (made.run [event]) later
    refine ⟨some ++ more, List.append_assoc acts some more ▸ final, ?_⟩
    rw [List.filterMap_append, decided, others]
    rfl

end Follows

/-! ### All engines -/

/-- An engine that is idle, outside nested commands and with its breakpoints in order; or that follows
the journey of its run. -/
inductive Guided (e : Engine) : Prop
  | idle (s : Interpreter) (activity : e.activity = .idle s) (outside : s.nested = 0)
      (ordered : s.breakpoints.Ordered)
  | busy (origin : Journey) (ticket : Nat) (acts : List Act) (begun : origin.Begun)
      (follows : e.Follows origin ticket acts)

/-- What the state is like in which a run begins. -/
theorem setAvailability_keeps (s : Interpreter) (next : Availability) :
    (s.setAvailability next).nested = s.nested ∧ (s.setAvailability next).stepping = s.stepping ∧
      (s.setAvailability next).breakpoints = s.breakpoints ∧
      stopsIn (s.setAvailability next).history = stopsIn s.history := by
  obtain ⟨history, same, stops⟩ := setAvailability_eq s next
  rw [same]
  exact ⟨rfl, rfl, rfl, stops⟩

/-- What the state behind a run is like. -/
theorem closeRun_keeps (s : Interpreter) :
    (closeRun s).nested = s.nested ∧ (closeRun s).stepping = s.stepping ∧
      (closeRun s).breakpoints = s.breakpoints ∧ stopsIn (closeRun s).history = stopsIn s.history := by
  obtain ⟨nested, stepping, breakpoints, stops⟩ := setAvailability_keeps s .available
  exact ⟨nested, stepping, breakpoints,
    (stopsIn_push _ _).trans ((List.append_nil _).trans stops)⟩

/-- Only an idle engine begins a run. -/
theorem exists_idle {pipeline : Pipeline} (invoked : e.invoke pipeline = .ok (ticket, f)) :
    ∃ s, e.activity = .idle s ∧ e.state = s := by
  unfold Engine.invoke at invoked
  unfold Engine.state
  split at invoked
  · rename_i s activity
    exact ⟨s, activity, by rw [activity]; rfl⟩
  · cases invoked

namespace Guided

/-- An idle engine is outside nested commands, and its breakpoints are in order. -/
theorem of_idle {s : Interpreter} (guided : e.Guided) (activity : e.activity = .idle s) :
    s.nested = 0 ∧ s.breakpoints.Ordered := by
  cases guided with
  | idle t doing outside ordered =>
    cases doing.symm.trans activity
    exact ⟨outside, ordered⟩
  | busy origin ticket acts begun follows =>
    cases follows with
    | running acts journey travels rests doing => cases doing.symm.trans activity
    | serving acts inner stop go t returns pipeline asker inside travels evaluates rests doing =>
      cases doing.symm.trans activity
    | ended acts outcome t travels doing found =>
      cases doing.symm.trans activity
      obtain ⟨nested, _, breakpoints, _⟩ := closeRun_keeps t
      have recorded := travels.recorded
      exact ⟨nested.trans (recorded.nested.trans begun.outside),
        breakpoints ▸ recorded.ordered begun.ordered⟩

/-- A run begun is the beginning of a journey. -/
theorem invoke {pipeline : Pipeline} (guided : e.Guided)
    (invoked : e.invoke pipeline = .ok (ticket, f)) : f.Guided := by
  obtain ⟨s, activity, _⟩ := exists_idle invoked
  obtain ⟨level, breakpoints⟩ := guided.of_idle activity
  obtain ⟨acts, follows, _⟩ := Follows.invoke activity invoked
  obtain ⟨nested, _, table, _⟩ := setAvailability_keeps { s with frame := .start } .busy
  exact .busy _ ticket acts
    ⟨nested.trans level, table.symm ▸ breakpoints, Journey.begin_placed pipeline _⟩ follows

/-- Whatever else is asked of an engine. -/
theorem asked (guided : e.Guided) (request : Ask) (own : e.accepts (.ask request) = 0) :
    (e.asked request).Guided := by
  cases guided with
  | busy origin ticket acts begun follows =>
    obtain ⟨more, further, _⟩ := follows.asked request own
    exact .busy origin ticket _ begun further
  | idle s activity outside ordered =>
    rcases asked_idle activity request own with ⟨stays, _⟩ | ⟨enabled, rfl⟩
    · rw [stays]
      exact .idle s activity outside ordered
    · refine .idle { s with stepping := enabled } ?_ outside ordered
      show e.activity.withState { e.state with stepping := enabled } = _
      rw [Engine.state, activity]
      rfl

/-- A step of an engine. -/
theorem step (guided : e.Guided) (made : e.Made) (stepped : e.step = some f) : f.Guided := by
  cases guided with
  | idle s activity outside ordered => cases (step_idle activity).symm.trans stepped
  | busy origin ticket acts begun follows =>
    obtain ⟨more, further, _⟩ := follows.step begun made.lawful.2 stepped
    exact .busy origin ticket _ begun further

end Guided

/-- **However an engine has come about, it is idle or follows the journey of its run.** -/
theorem Made.guided (made : e.Made) : e.Guided := by
  refine made.invariant Guided (fun files release => .idle .fresh rfl rfl ⟨.nil, nofun⟩) ?_ ?_ ?_
  · exact fun made guided stepped => guided.step made stepped
  · exact fun _ guided invoked => guided.invoke invoked
  · exact fun request _ guided own => guided.asked request own

end ShellSession.Engine
