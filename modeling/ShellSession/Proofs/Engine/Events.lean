/-
**Whatever happens to an engine.**

An engine takes steps of its own, and requests come in between, in any order. All engines that come
about in this way are lawful. While a run is under way, a request switches step mode, or is sent into
the stop that the engine is in, or is refused.

* `Engine.Made.run`: **an engine has come about in one of the ways that there are, whatever happens**;
* `Engine.Made.invariant`: what steps, runs begun and other requests preserve holds of every engine;
* `Engine.Made.telling`: **however an engine has come about, it has kept the stream of reports**;
* `Engine.Made.result?_run`: **an answer that is given stays, whatever happens**;
* `Engine.asked_busy`: what requests do to an engine that is doing a run;
* `Engine.modeAfter`: step mode, as far as requests switch it.
-/

import ShellSession.Proofs.Engine.Stream

namespace ShellSession.Engine

/-! ### Step mode -/

/-- The step mode that a request asks for. -/
def Ask.mode? : Ask → Option Bool
  | setStepping enabled => some enabled
  | _ => none

/-- The step mode that is asked for in an event. -/
def Event.mode? : Event → Option Bool
  | step => none
  | ask request => request.mode?

/-- Whether the engine is to take a step. -/
def Event.isStep : Event → Bool
  | step => true
  | ask _ => false

/-- Step mode behind events in which nothing but requests switches it. -/
def modeAfter (mode : Bool) (events : List Event) : Bool :=
  events.foldl (fun mode event => event.mode?.getD mode) mode

variable {e f : Engine}

/-! ### Engines that come about -/

/-- The engine behind a request that is granted. -/
theorem asked_of_granted {request : Ask} (granted : e.ask request = .ok f) :
    e.asked request = f := by
  unfold asked
  rw [granted]

/-- What is asked of an engine makes it what a use or a verb makes it, or leaves it. -/
theorem Made.asked (made : e.Made) (request : Ask) : (e.asked request).Made := by
  generalize same : e.asked request = f
  cases asksTo_of_asked same with
  | invoke invoked => exact made.use (.invoke _ _ invoked)
  | command sent => exact made.use (.command _ _ sent)
  | resume resumed => exact made.verb resumed
  | switch enabled => exact made.use (.switch enabled)
  | same => exact made

/-- **Whatever happens to an engine, it has come about in one of the ways that there are.** -/
theorem Made.run (made : e.Made) (events : List Event) : (e.run events).Made := by
  induction events generalizing e with
  | nil => exact made
  | cons event rest ih =>
    refine ih ?_
    cases event with
    | ask request => exact made.asked request
    | step =>
      unfold after
      cases stepped : e.step with
      | none => exact made
      | some f => exact made.step stepped

/-- **What holds of a fresh engine and stays** by steps, by runs that are begun and by whatever else is
asked, holds of an engine however it has come about. -/
theorem Made.invariant (holds : Engine → Prop)
    (fresh : ∀ files release, holds (Engine.fresh files release))
    (step : ∀ {e f}, e.Made → holds e → e.step = some f → holds f)
    (invoke : ∀ {e f pipeline ticket}, e.Made → holds e → e.invoke pipeline = .ok (ticket, f) →
      holds f)
    (asked : ∀ {e} request, e.Made → holds e → e.accepts (.ask request) = 0 →
      holds (e.asked request)) (made : e.Made) : holds e := by
  induction made with
  | fresh files release => exact fresh files release
  | step made stepped ih => exact step made ih stepped
  | @use e f made used ih =>
    cases used with
    | invoke pipeline ticket invoked => exact invoke made ih invoked
    | command pipeline ticket sent =>
      have granted : e.ask (.command pipeline) = .ok f := by simp [ask, sent, Except.map]
      exact asked_of_granted granted ▸ asked (.command pipeline) made ih rfl
    | switch enabled => exact asked (.setStepping enabled) made ih rfl
  | @verb e f verb made resumed ih =>
    have granted : e.ask (.resume verb) = .ok f := resumed
    exact asked_of_granted granted ▸ asked (.resume verb) made ih rfl

/-- **However an engine has come about, it has kept the stream of reports.** -/
theorem Made.telling (made : e.Made) : ∃ count, e.Telling [] count := by
  refine made.invariant (fun e => ∃ count, e.Telling [] count)
    (fun files release => ⟨0, fresh_telling files release⟩) ?_ ?_ ?_
  · rintro e f _ ⟨count, telling⟩ stepped
    exact ⟨count, step_telling telling stepped⟩
  · rintro e f pipeline ticket _ ⟨count, telling⟩ invoked
    exact ⟨count + 1, invoke_telling telling invoked⟩
  · rintro e request _ ⟨count, telling⟩ _
    exact ⟨_, asked_telling telling request⟩

/-- The availability of an engine is that of the moment that it is at. -/
theorem Made.availability (made : e.Made) : e.availability = e.moment.availability := by
  obtain ⟨count, telling⟩ := made.telling
  exact telling.told.availability

/-- An engine in which a run has come to a stop is open to commands. -/
theorem Made.nested {ticket : Nat} {stop : Stop} {s : Interpreter}
    {resume : Verb → Eval (List Value)} {callers : List Caller} (made : e.Made)
    (activity : e.activity = .running ticket ⟨.stopped stop s resume, callers⟩) :
    s.availability = .nested := by
  have told := made.availability
  unfold Engine.availability Engine.state moment at told
  rw [activity] at told
  exact told

/-! ### Answers that stay -/

/-- What is asked of an engine gives no answer. -/
theorem asked_results (ticketed : e.Ticketed) (request : Ask) :
    (e.asked request).results = e.results := by
  generalize same : e.asked request = f
  cases asksTo_of_asked same with
  | invoke invoked => exact (invoke_answers ticketed invoked).2.1
  | command sent => exact (command_answers ticketed sent).2.1
  | resume resumed => exact (resume_answers ticketed resumed).2.1
  | switch enabled => rfl
  | same => rfl

/-- **An answer that is given stays**, whatever happens. -/
theorem Made.result?_run (made : e.Made) {ticket : Nat} {outcome : Outcome}
    (found : e.result? ticket = some outcome) (events : List Event) :
    (e.run events).result? ticket = some outcome := by
  induction events generalizing e with
  | nil => exact found
  | cons event rest ih =>
    refine ih (made.run [event]) ?_
    show (e.after event).result? ticket = some outcome
    cases event with
    | step =>
      unfold Engine.after
      cases stepped : e.step with
      | none => exact found
      | some f => exact (step_answers made.lawful.1 made.lawful.2 stepped).2.result? found
    | ask request =>
      unfold Engine.after Engine.result?
      rw [asked_results made.lawful.2]
      exact found

/-! ### Requests during a run -/

/-- What is asked of an engine that is doing a run switches step mode, or is sent into the stop that the
engine is in, or is refused. -/
theorem asked_busy {ticket : Nat} (doing : e.main? = some ticket) (request : Ask) :
    (e.asked request).activity = e.activity.withState
        { e.state with stepping := request.mode?.getD e.state.stepping } ∧
      (∃ more, (e.asked request).inbox = e.inbox ++ more) ∧
      (e.asked request).files = e.files ∧ (e.asked request).results = e.results := by
  have same : e.activity.withState e.state = e.activity := e.activity.withState_state
  have refused : e.asked request = e → request.mode? = none →
      (e.asked request).activity = e.activity.withState
          { e.state with stepping := request.mode?.getD e.state.stepping } ∧
        (∃ more, (e.asked request).inbox = e.inbox ++ more) ∧
        (e.asked request).files = e.files ∧ (e.asked request).results = e.results := by
    intro stays mode
    rw [stays, mode]
    exact ⟨same.symm, ⟨[], (List.append_nil _).symm⟩, rfl, rfl⟩
  have refuses : ∀ request : Ask, request.isExclusive = true → e.asked request = e := by
    intro request exclusive
    have busy : e.ask request = .error .busy := by
      refine (e.ask_busy_iff request).mpr ⟨exclusive, fun ⟨s, activity⟩ => ?_⟩
      rw [main?_eq activity] at doing
      cases doing
    unfold asked
    rw [busy]
  cases request with
  | setStepping enabled => exact ⟨rfl, ⟨[], (List.append_nil _).symm⟩, rfl, rfl⟩
  | command pipeline =>
    by_cases inside : e.isStopped = true
    · have sent : e.asked (.command pipeline) = { e with
          inbox := e.inbox ++ [.command (e.lastTicket + 1) pipeline]
          lastTicket := e.lastTicket + 1 } := by
        simp only [asked, ask, Engine.command, if_pos inside, Except.map]
      rw [sent]
      exact ⟨same.symm, ⟨_, rfl⟩, rfl, rfl⟩
    · refine refused ?_ rfl
      simp only [asked, ask, Engine.command, if_neg inside, Except.map]
  | resume verb =>
    by_cases inside : e.isStopped = true
    · have sent : e.asked (.resume verb) = { e with inbox := e.inbox ++ [.verb verb] } := by
        simp only [asked, ask, Engine.resume, if_pos inside]
      rw [sent]
      exact ⟨same.symm, ⟨_, rfl⟩, rfl, rfl⟩
    · refine refused ?_ rfl
      simp only [asked, ask, Engine.resume, if_neg inside]
  | invoke pipeline => exact refused (refuses (.invoke pipeline) rfl) rfl
  | valueOf name => exact refused (refuses (.valueOf name) rfl) rfl
  | release => exact refused (refuses .release rfl) rfl

end ShellSession.Engine
