/-
**Where the debugger stops.**

The stops that an engine reports for a run are those of its journey: one for each statement that is
reached in step mode, before anything of it is evaluated; else one for each statement that is reached on
the line of an enabled breakpoint, namely of the one with the lowest number; and one for each call of the
command that asks for a stop. Commands inside a stop are passed by. Step mode is what the last verb or the
last switch has made it, from one run to the next.

* `Engine.Follows.recorded`: an engine has reported what is on record of its journey;
* `Engine.Made.mode`: **step mode is what was decided last**;
* `Engine.stops_exactly`: **the debugger stops exactly where it should**.
-/

import ShellSession.Proofs.Engine.Pursuit

namespace ShellSession.Engine

variable {e f : Engine} {origin : Journey} {ticket : Nat} {acts : List Act} {pipeline : Pipeline}

/-- An engine has reported what is on record of its journey, and is in the step mode that is. -/
theorem Follows.recorded (follows : e.Follows origin ticket acts) :
    ∃ t, Recorded origin.state acts t ∧ stopsIn e.history = stopsIn t.history ∧
      e.state.stepping = t.stepping := by
  unfold history Engine.state
  cases follows with
  | running _ journey travels rests activity =>
    obtain ⟨history, _, stepping⟩ := rests.state
    refine ⟨journey.state, travels.recorded, ?_, ?_⟩
    · rw [activity]
      exact congrArg stopsIn history
    · rw [activity]
      exact stepping
  | serving acts inner stop go s returns pipeline asker inside travels evaluates rests activity =>
    obtain ⟨history, _, stepping⟩ := rests.state
    refine ⟨_, travels.recorded.trans (evaluates.recorded.closeNested s.frame), ?_, ?_⟩
    · rw [activity]
      exact congrArg stopsIn history
    · rw [activity]
      exact stepping
  | ended _ outcome s travels activity found =>
    obtain ⟨_, stepping, _, stops⟩ := closeRun_keeps s
    refine ⟨s, travels.recorded, ?_, ?_⟩
    · rw [activity]
      exact stops
    · rw [activity]
      exact stepping

/-! ### Step mode -/

/-- A run is accepted when it is begun. -/
theorem exists_invoked {event : Event} (accepts : e.accepts event ≠ 0) :
    ∃ pipeline ticket f, e.invoke pipeline = .ok (ticket, f) ∧ e.after event = f ∧
      e.directive? event = none := by
  cases event with
  | step => exact absurd rfl accepts
  | ask request =>
    cases request with
    | invoke pipeline =>
      cases invoked : e.invoke pipeline with
      | error error =>
        have refused : e.accepts (.ask (.invoke pipeline)) = 0 := by
          simp only [Engine.accepts, invoked]
        exact absurd refused accepts
      | ok pair =>
        have granted : e.ask (.invoke pipeline) = .ok pair.2 := by
          simp [ask, invoked, Except.map]
        exact ⟨pipeline, pair.1, pair.2, invoked, asked_of_granted granted, rfl⟩
    | _ => exact absurd rfl accepts

theorem steered_append (stepping : Bool) (earlier later : List Directive) :
    steered stepping (earlier ++ later) = steered (steered stepping earlier) later :=
  List.foldl_append

/-- Step mode behind one event. -/
theorem Guided.mode (guided : e.Guided) (ticketed : e.Ticketed) (event : Event) :
    (e.after event).state.stepping = steered e.state.stepping (e.directive? event).toList := by
  by_cases own : e.accepts event = 0
  · cases guided with
    | busy origin ticket acts begun follows =>
      obtain ⟨more, further, decided⟩ := follows.after begun ticketed event own
      obtain ⟨s, recorded, _, before⟩ := follows.recorded
      obtain ⟨t, later, _, behind⟩ := further.recorded
      rw [behind, later.mode, List.filterMap_append, decided, steered_append, before, recorded.mode]
    | idle s activity outside ordered =>
      cases event with
      | step =>
        have rests : e.step = none := step_idle activity
        show (e.step.getD e).state.stepping = steered _ (e.verb?.map Directive.verb).toList
        rw [rests, verb?_of_rest rests]
        rfl
      | ask request =>
        rcases asked_idle activity request own with ⟨stays, mode⟩ | ⟨enabled, rfl⟩
        · show (e.asked request).state.stepping = steered _ (request.mode?.map Directive.mode).toList
          rw [stays, mode]
          rfl
        · show (e.setStepping enabled).state.stepping = enabled
          rw [state_setStepping]
  · obtain ⟨pipeline, ticket, f, invoked, after, undecided⟩ := exists_invoked own
    obtain ⟨s, activity, state⟩ := exists_idle invoked
    obtain ⟨acts, follows, silent⟩ := Follows.invoke activity invoked
    obtain ⟨t, recorded, _, stepping⟩ := follows.recorded
    rw [after, stepping, recorded.mode, silent, state, undecided]
    exact (setAvailability_keeps { s with frame := .start } .busy).2.1

/-- **Step mode is what was decided last**, by a verb or a switch, in whatever happens to an engine. -/
theorem Made.mode (made : e.Made) (events : List Event) :
    (e.run events).state.stepping = steered e.state.stepping (e.directives events) := by
  induction events generalizing e with
  | nil => rfl
  | cons event rest ih =>
    have later := ih (made.run [event])
    rw [show (e.run [event]) = e.after event from rfl, made.guided.mode made.lawful.2 event,
      ← steered_append] at later
    exact later

/-! ### Stops -/

/-- **The debugger stops exactly where it should**, for every pipeline, all script files, and whatever
happens while the run is under way. The engine follows the journey of the pipeline, with what others
decide as the events come; its stops are those of the statements that are reached and of the commands
that ask for one, in their order; and all of these are outside nested commands. Behind a verb step mode is
on exactly when the verb is one that steps, and it stays so up to the next decision, in later runs as
well. -/
theorem stops_exactly (made : e.Made) (invoked : e.invoke pipeline = .ok (ticket, f)) :
    (∀ events, f.accepted events = 0 → ∃ acts,
      (f.run events).Follows (.begin pipeline (begunFrom e.state)) ticket acts ∧
      acts.filterMap Act.directive? = f.directives events ∧
      stopsIn (f.run events).history = stopsIn e.history ++ acts.filterMap Act.stop? ∧
      ∀ mark, .mark mark ∈ acts → mark.state.nested = 0) ∧
    ∀ events, (f.run events).state.stepping = steered e.state.stepping (f.directives events) := by
  obtain ⟨s, activity, state⟩ := exists_idle invoked
  obtain ⟨outside, ordered⟩ := made.guided.of_idle activity
  obtain ⟨nested, stepping, table, stops⟩ := setAvailability_keeps { s with frame := .start } .busy
  have begun : (Journey.begin pipeline (begunFrom s)).Begun :=
    ⟨nested.trans outside, table.symm ▸ ordered, Journey.begin_placed pipeline _⟩
  have accepted : f.Made := made.use (.invoke pipeline ticket invoked)
  obtain ⟨acts, follows, silent⟩ := Follows.invoke activity invoked
  refine ⟨fun events own => ?_, fun events => ?_⟩
  · obtain ⟨more, further, decided⟩ := follows.run begun accepted own
    obtain ⟨t, recorded, reported, _⟩ := further.recorded
    refine ⟨acts ++ more, state ▸ further, ?_, ?_, recorded.outside⟩
    · rw [List.filterMap_append, silent, decided]
      rfl
    · rw [reported, recorded.reports]
      unfold history
      rw [state]
      exact congrArg (· ++ _) stops
  · rw [accepted.mode]
    obtain ⟨t, recorded, _, mode⟩ := follows.recorded
    rw [mode, recorded.mode, silent, state]
    exact congrArg (fun before => steered before _) stepping

/-- What happens to a run that stops three times: it is led on by two verbs that step and one that does
not. -/
def ledThrice : List Event :=
  [.step, .step, .ask (.resume .stepInto), .step, .step, .ask (.resume .stepOut), .step, .step,
    .ask (.resume .resume), .step, .step, .step, .step]

/-- A script that stops at a breakpoint that it sets itself, in the step mode that follows, and of its own
accord. -/
theorem stops_exactly_thrice : ∃ f acts, (fresh .none none).Made ∧
    (fresh .none none).invoke stoppingTwice = .ok (1, f) ∧ f.accepted ledThrice = 0 ∧
    (f.run ledThrice).Follows (.begin stoppingTwice (begunFrom .fresh)) 1 acts ∧
    acts.filterMap Act.directive? = f.directives ledThrice ∧
    acts.filterMap Act.stop? = [⟨.breakpoint 1, 2⟩, ⟨.step, 3⟩, ⟨.waitDebugger, 3⟩] ∧
    (f.run ledThrice).state.stepping = steered false (f.directives ledThrice) := by
  have made : (fresh .none none).Made := .fresh .none none
  obtain ⟨f, invoked⟩ : ∃ f, (fresh .none none).invoke stoppingTwice = .ok (1, f) := ⟨_, rfl⟩
  have same : f = (fresh .none none).asked (.invoke stoppingTwice) := by
    simp only [asked, ask, invoked, Except.map]
  have own : f.accepted ledThrice = 0 := by
    rw [same]
    decide +kernel
  obtain ⟨stops, mode⟩ := stops_exactly made invoked
  obtain ⟨acts, follows, decided, reported, _⟩ := stops ledThrice own
  refine ⟨f, acts, made, invoked, own, follows, decided, ?_, mode ledThrice⟩
  have three : stopsIn (f.run ledThrice).history =
      [⟨.breakpoint 1, 2⟩, ⟨.step, 3⟩, ⟨.waitDebugger, 3⟩] := by
    rw [same]
    decide +kernel
  exact reported.symm.trans three

end ShellSession.Engine
