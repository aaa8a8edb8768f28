/-
**Attempts in a serial run.**

An attempt is a serial run with a single job. Nothing shows that it has been made when it comes back
busy and leaves the engine alone: then the same cues lead from the engine before it to the engine
behind it without the attempt.

* `Serial.Sound`: a serial run over a lawful engine, whose answers are never that it is busy;
* `Payload.Courteous`: a payload whose attempts leave the engine alone when they come back busy;
* `Serial.Runs.without`: **a courteous attempt that comes back busy can be left out**;
* `Payload.courteous_of_routine`: how to see that a payload is courteous;
* `Payload.Passes`: a payload whose attempts come back busy as soon as the engine has been busy.
-/

import ShellSession.Proofs.Session.Pause
import ShellSession.Proofs.Session.Serial

namespace ShellSession

/-! ### Step mode -/

/-- Step mode switched on where it is on already. -/
theorem Engine.setStepping_same {e : Engine} (stepping : e.state.stepping = true) :
    e.setStepping true = e := by
  have state : { e.state with stepping := true } = e.state := by
    rw [← stepping]
  have same : e.activity.withState e.state = e.activity := e.activity.withState_state
  unfold Engine.setStepping
  rw [state, same]

/-- An engine that is the same but for step mode, which may have been switched on. -/
def Engine.SameBut (e f : Engine) : Prop :=
  f = e ∨ f = e.setStepping true

theorem Engine.SameBut.pause {e f : Engine} (same : e.SameBut f) :
    e.SameBut (f.setStepping true) := by
  rcases same with rfl | rfl
  · exact .inr rfl
  · refine .inr (Engine.setStepping_same ?_)
    rw [Engine.state_setStepping]

theorem Engine.SameBut.lastTicket {e f : Engine} (same : e.SameBut f) :
    f.lastTicket = e.lastTicket := by
  rcases same with rfl | rfl <;> rfl

namespace Serial

variable {x y z : Serial}

/-! ### Soundness -/

/-- A serial run over a lawful engine, which owes or has given the answer that is waited for. -/
structure Sound (x : Serial) : Prop where
  lawful : x.engine.Lawful
  ticketed : x.engine.Ticketed
  awaited : ∀ request ticket next, x.working = .awaiting request ticket next →
    x.engine.main? = some ticket ∨
      ∃ outcome, x.engine.result? ticket = some outcome ∧ Engine.Law.quiet.Allows outcome

/-- A serial run that does not wait for the engine. -/
theorem Sound.of_free (lawful : x.engine.Lawful) (ticketed : x.engine.Ticketed)
    (free : ∀ request ticket next, x.working ≠ .awaiting request ticket next) : x.Sound :=
  ⟨lawful, ticketed, fun request ticket next waits => absurd waits (free request ticket next)⟩

/-- Every move keeps a serial run sound, and no ticket is given back. -/
theorem Moves.sound (moves : x.Moves y) (sound : x.Sound) :
    y.Sound ∧ x.engine.lastTicket ≤ y.engine.lastTicket := by
  obtain ⟨lawful, ticketed, awaited⟩ := sound
  cases moves with
  | begin request pipeline next ticket engine rest working gates invoked =>
    obtain ⟨kept, _, main, _, given, _⟩ := Engine.invoke_answers ticketed invoked
    refine ⟨⟨(Engine.invoke_turn lawful invoked).1, kept, fun other number later waits => ?_⟩, ?_⟩
    · cases waits
      exact .inl main
    · have bounded := (kept.waiting ticket (Engine.owed_of_main main)).1
      show x.engine.lastTicket ≤ engine.lastTicket
      omega
  | compute request ticket next engine awaiting waits stepped =>
    obtain ⟨kept, answers⟩ := Engine.step_answers lawful ticketed stepped
    refine ⟨⟨(Engine.step_turn lawful stepped).1, kept, fun other number later mine => ?_⟩,
      Nat.le_of_eq answers.lastTicket.symm⟩
    rcases awaited other number later mine with main | ⟨outcome, found, allowed⟩
    · rcases answers.main with same | ⟨_, theirs, outcome, owner, found, allowed⟩
      · exact .inl (same.trans main)
      · have alike : theirs = number := Option.some.inj (owner.symm.trans main)
        exact .inr ⟨outcome, alike ▸ found, allowed⟩
    · exact .inr ⟨outcome, answers.result? found, allowed⟩
  | resume request ticket next verb engine rest awaiting waits stands cues resumed =>
    obtain ⟨kept, results, main, _⟩ := Engine.resume_answers ticketed resumed
    refine ⟨⟨(Engine.resume_turn lawful resumed).1, kept, fun other number later mine => ?_⟩, ?_⟩
    · show engine.main? = _ ∨ ∃ outcome, engine.results.lookup number = _ ∧ _
      rw [main, results]
      exact awaited other number later mine
    · unfold Engine.resume at resumed
      split at resumed <;> cases resumed
      exact Nat.le_refl _
  | take job rest resting waiting =>
    exact ⟨.of_free lawful ticketed (fun _ _ _ other => by cases other), Nat.le_refl _⟩
  | settle request routine result working ended =>
    exact ⟨.of_free lawful ticketed (fun _ _ _ other => by cases other), Nat.le_refl _⟩
  | _ => exact ⟨.of_free lawful ticketed (fun _ _ _ other => by cases other), Nat.le_refl _⟩

/-- **A serial run stays sound**, and no ticket is given back. -/
theorem Runs.sound (runs : x.Runs y) (sound : x.Sound) :
    y.Sound ∧ x.engine.lastTicket ≤ y.engine.lastTicket := by
  induction runs with
  | rest => exact ⟨sound, Nat.le_refl _⟩
  | step _ stepped ih =>
    obtain ⟨kept, later⟩ := (moves_of_step stepped).sound ih.1
    exact ⟨kept, Nat.le_trans ih.2 later⟩
  | @pause y rest _ given ih =>
    obtain ⟨⟨lawful, ticketed, awaited⟩, before⟩ := ih
    obtain ⟨kept, main, _⟩ := Engine.setStepping_answers ticketed true
    refine ⟨⟨(Engine.setStepping_turn lawful true).1, kept, fun other number later mine => ?_⟩,
      before⟩
    show (y.engine.setStepping true).main? = _ ∨ _
    rw [main]
    exact awaited other number later mine

/-! ### Attempts -/

/-- A serial run that has nothing more to do. -/
def spent (x : Serial) : Serial :=
  { x with waiting := [], working := .resting, gates := [], cues := [] }

/-- A serial run with nothing to do but one attempt. -/
def attempt (x : Serial) (job : Job) (cues : List Cue) : Serial :=
  { x with
    waiting := []
    working := .working job.request job.routine
    gates := job.gates
    cues := cues }

/-- An attempt is made as soon as its job is there. -/
theorem runs_attempt (x : Serial) (job : Job) (cues : List Cue) :
    (x.spent.extend [job] cues).Runs (x.attempt job cues) :=
  .step .rest (Moves.take (x := x.spent.extend [job] cues) job [] rfl rfl).step

theorem sound_attempt (rest : x.engine.AtRest) (job : Job) (cues : List Cue) :
    (x.attempt job cues).Sound :=
  .of_free rest.lawful rest.ticketed fun _ _ _ other => by cases other

/-- What an attempt has come to: an end; or the engine has begun a run for it; or, the attempt being
left out, the cues lead to the same. -/
inductive Progress (x : Serial) (cues : List Cue) (y : Serial) : Prop
  | concluded (resting : y.working = .resting) : Progress x cues y
  | told (request : Request) (conclusion : Conclusion)
      (working : y.working = .working request (.complete conclusion)) : Progress x cues y
  | begun (later : x.engine.lastTicket < y.engine.lastTicket) : Progress x cues y
  | free (request : Request) (routine : Routine) (working : y.working = .working request routine)
      (without : (x.spent.extend [] cues).Runs (y.spent.extend [] y.cues)) : Progress x cues y

/-- Every move of an attempt keeps what it has come to. -/
theorem Progress.move {cues : List Cue} (progress : x.Progress cues y) (moves : y.Moves z)
    (sound : y.Sound) (since : x.engine.lastTicket ≤ y.engine.lastTicket)
    (single : y.waiting = []) : x.Progress cues z := by
  have later : x.engine.lastTicket < y.engine.lastTicket → x.Progress cues z := fun before =>
    .begun (Nat.lt_of_lt_of_le before (moves.sound sound).2)
  have awaits {request : Request} {ticket : Nat}
      {next : Except EngineFailure (List Value) → Routine}
      (awaiting : y.working = .awaiting request ticket next) : x.Progress cues z := by
    cases progress with
    | concluded resting => exact absurd (resting.symm.trans awaiting) nofun
    | told _ _ working => exact absurd (working.symm.trans awaiting) nofun
    | begun before => exact later before
    | free _ _ working _ => exact absurd (working.symm.trans awaiting) nofun
  -- A question is asked by a routine that has not come to its end.
  have asks {request : Request} {routine : Routine} (working : y.working = .working request routine)
      (unended : routine.result? = none)
      (goes : (x.spent.extend [] cues).Runs (y.spent.extend [] y.cues) → x.Progress cues z) :
      x.Progress cues z := by
    cases progress with
    | concluded resting => exact absurd (resting.symm.trans working) nofun
    | told other conclusion told =>
      cases told.symm.trans working
      cases unended
    | begun before => exact later before
    | free _ _ _ without => exact goes without
  cases moves with
  | take job rest resting waiting => exact absurd (single.symm.trans waiting) nofun
  | settle request routine result working ended => exact .concluded rfl
  | report request lines conclusion working => exact .told request conclusion rfl
  | refuse request routine further rest working gates refused =>
    exact asks working (by cases routine <;> first | rfl | cases refused) fun without =>
      .free request further rfl without
  | answer request routine further rest working gates answered =>
    exact asks working (by cases routine <;> first | rfl | cases answered) fun without =>
      .free request further rfl without
  | begin request pipeline next ticket engine rest working gates invoked =>
    obtain ⟨kept, _, main, _, given, _⟩ := Engine.invoke_answers sound.ticketed invoked
    refine .begun ?_
    have bounded := (kept.waiting ticket (Engine.owed_of_main main)).1
    show x.engine.lastTicket < engine.lastTicket
    omega
  | receive request ticket next outcome awaiting found => exact awaits awaiting
  | compute request ticket next engine awaiting waits stepped => exact awaits awaiting
  | resume request ticket next verb engine rest awaiting waits stands cues resumed =>
    exact awaits awaiting

/-- What an attempt over an engine at rest has come to. -/
theorem Runs.progress {job : Job} {cues : List Cue} (rest : x.engine.AtRest)
    (runs : (x.attempt job cues).Runs y) : x.Progress cues y := by
  induction runs with
  | rest => exact .free job.request job.routine rfl .rest
  | step before stepped ih =>
    obtain ⟨sound, since⟩ := before.sound (sound_attempt rest job cues)
    exact ih.move (moves_of_step stepped) sound since (before.waiting_nil rfl)
  | @pause y rest before given ih =>
    cases ih with
    | concluded resting => exact .concluded resting
    | told request conclusion working => exact .told request conclusion working
    | begun later => exact .begun later
    | free request routine working without =>
      exact .free request routine working (without.pause given)

/-- **An attempt that comes back busy and has left the engine as it was can be left out.** -/
theorem Runs.without {job : Job} {cues : List Cue} {request : Request} (rest : x.engine.AtRest)
    (runs : (x.attempt job cues).Runs y) (busy : y.working = .working request .busy)
    (same : x.engine.SameBut y.engine) :
    (x.spent.extend [] cues).Runs (y.spent.extend [] y.cues) := by
  cases runs.progress rest with
  | concluded resting => exact absurd (resting.symm.trans busy) nofun
  | told other conclusion working => exact absurd (working.symm.trans busy) nofun
  | begun later => exact absurd same.lastTicket (Nat.ne_of_gt later)
  | free other routine working without => exact without

end Serial

/-! ### Courtesy -/

/-- **A payload that leaves the engine as it was whenever an attempt at it comes back busy**, but for
step mode, which callers may have switched on meanwhile. -/
def Payload.Courteous (payload : Payload) : Prop :=
  ∀ (x y : Serial) (job : Job) (cues : List Cue), job.request.payload = payload →
    x.engine.AtRest → (x.attempt job cues).Runs y → y.working = .working job.request .busy →
      x.engine.SameBut y.engine

namespace Routine

/-- One stage of a routine behind another, whatever the engine answers. -/
inductive Next : Routine → Routine → Prop
  | report (lines : List Line) (conclusion : Conclusion) :
      Next (.report lines conclusion) (.complete conclusion)
  | invoke (pipeline : Pipeline) (next : Except EngineFailure (List Value) → Routine)
      (outcome : Except EngineFailure (List Value)) : Next (.invoke pipeline next) (next outcome)
  | askVariable (name : String) (next : Except EngineFailure (Option Value) → Routine)
      (outcome : Except EngineFailure (Option Value)) : Next (.askVariable name next) (next outcome)
  | askRelease (next : Except EngineFailure Release → Routine)
      (outcome : Except EngineFailure Release) : Next (.askRelease next) (next outcome)

/-- A routine that never comes back busy. -/
def Decided : Routine → Prop
  | busy => False
  | complete _ => True
  | panic _ => True
  | report _ _ => True
  | invoke _ next => ∀ outcome, (next outcome).Decided
  | askVariable _ next => ∀ outcome, (next outcome).Decided
  | askRelease next => ∀ outcome, (next outcome).Decided

/-- A routine that does not come back busy once the engine has begun a run for it. -/
def Courteous : Routine → Prop
  | invoke _ next => (next (.error .busy)).Courteous ∧
      ∀ outcome, Engine.Law.quiet.Allows outcome → (next outcome).Decided
  | askVariable _ next => ∀ outcome, (next outcome).Courteous
  | askRelease next => ∀ outcome, (next outcome).Courteous
  | _ => True

end Routine

/-- What the thread is doing is at a stage of a kind, whatever the engine still answers. -/
def Working.Asks (kind : Routine → Prop) : Working → Prop
  | working _ routine => kind routine
  | awaiting _ _ next => ∀ outcome, Engine.Law.quiet.Allows outcome → kind (next outcome)
  | _ => False

/-- A run is refused for one reason only. -/
theorem Engine.invoke_error {e : Engine} {pipeline : Pipeline} {error : EngineFailure}
    (refused : e.invoke pipeline = .error error) : error = .busy := by
  unfold Engine.invoke at refused
  split at refused <;> cases refused
  rfl

namespace Routine

variable {routine later : Routine}

theorem next_of_refused (refused : routine.refused? = some later) : routine.Next later := by
  cases routine with
  | invoke pipeline next => cases refused; exact .invoke pipeline next _
  | askVariable name next => cases refused; exact .askVariable name next _
  | askRelease next => cases refused; exact .askRelease next _
  | _ => cases refused

/-- An answer at once is the next stage; that of a run is that the engine is busy. -/
theorem answered_cases {e : Engine} (answered : routine.answered? e = some later) :
    routine.Next later ∧ ∀ pipeline next, routine = .invoke pipeline next →
      later = next (.error .busy) := by
  cases routine with
  | invoke pipeline next =>
    simp only [answered?] at answered
    split at answered
    · rename_i error refused
      cases answered
      cases Engine.invoke_error refused
      refine ⟨.invoke pipeline next _, fun other rest same => ?_⟩
      cases same
      rfl
    · cases answered
  | askVariable name next =>
    cases answered
    exact ⟨.askVariable name next _, fun _ _ other => by cases other⟩
  | askRelease next =>
    cases answered
    exact ⟨.askRelease next _, fun _ _ other => by cases other⟩
  | _ => cases answered

theorem Decided.next (decided : routine.Decided) (next : routine.Next later) : later.Decided := by
  cases next with
  | report lines conclusion => exact trivial
  | _ => exact decided _

theorem Courteous.refused (courteous : routine.Courteous)
    (refused : routine.refused? = some later) : later.Courteous := by
  cases routine with
  | invoke pipeline next => cases refused; exact courteous.1
  | askVariable name next => cases refused; exact courteous _
  | askRelease next => cases refused; exact courteous _
  | _ => cases refused

theorem Courteous.answered {e : Engine} (courteous : routine.Courteous)
    (answered : routine.answered? e = some later) : later.Courteous := by
  have busy := (answered_cases answered).2
  cases routine with
  | invoke pipeline next =>
    rw [busy pipeline next rfl]
    exact courteous.1
  | askVariable name next => cases answered; exact courteous _
  | askRelease next => cases answered; exact courteous _
  | _ => cases answered

end Routine

namespace Serial

variable {x y z : Serial}

/-- What the thread of a serial run is told by the engine satisfies an allowance. -/
theorem Sound.allowed {request : Request} {ticket : Nat}
    {next : Except EngineFailure (List Value) → Routine} {outcome : Except EngineFailure (List Value)}
    (sound : x.Sound) (awaiting : x.working = .awaiting request ticket next)
    (found : x.engine.result? ticket = some outcome) : Engine.Law.quiet.Allows outcome := by
  rcases sound.awaited request ticket next awaiting with main | ⟨other, same, allowed⟩
  · have none := sound.ticketed.unanswered (Engine.owed_of_main main)
    exact absurd (none.symm.trans found) nofun
  · cases same.symm.trans found
    exact allowed

/-- Within a single job nothing begins from rest. -/
theorem Moves.not_resting (moves : x.Moves y) (single : x.waiting = []) :
    x.working ≠ .resting := by
  intro resting
  cases moves with
  | take job rest _ waiting => exact absurd (single.symm.trans waiting) nofun
  | settle _ _ _ working _ => exact absurd (resting.symm.trans working) nofun
  | report _ _ _ working => exact absurd (resting.symm.trans working) nofun
  | refuse _ _ _ _ working _ _ => exact absurd (resting.symm.trans working) nofun
  | answer _ _ _ _ working _ _ => exact absurd (resting.symm.trans working) nofun
  | begin _ _ _ _ _ _ working _ _ => exact absurd (resting.symm.trans working) nofun
  | receive _ _ _ _ awaiting _ => exact absurd (resting.symm.trans awaiting) nofun
  | compute _ _ _ _ awaiting _ _ => exact absurd (resting.symm.trans awaiting) nofun
  | resume _ _ _ _ _ _ awaiting _ _ _ _ => exact absurd (resting.symm.trans awaiting) nofun

/-- **What lasts from stage to stage of a routine lasts until the routine has come to its end.** -/
theorem Moves.asks {lasting : Routine → Prop}
    (lasts : ∀ {routine later : Routine}, lasting routine → routine.Next later → lasting later)
    (moves : x.Moves y) (sound : x.Sound) (single : x.waiting = [])
    (asks : x.working.Asks lasting) : y.working.Asks lasting ∨ y.working = .resting ∧
      ∃ routine, lasting routine ∧ routine.result? ≠ none := by
  cases moves with
  | take job rest resting waiting => exact absurd (single.symm.trans waiting) nofun
  | settle request routine result working ended =>
    rw [working] at asks
    exact .inr ⟨rfl, routine, asks, by rw [ended]; exact nofun⟩
  | report request lines conclusion working =>
    rw [working] at asks
    exact .inl (lasts asks (.report lines conclusion))
  | refuse request routine later rest working gates refused =>
    rw [working] at asks
    exact .inl (lasts asks (Routine.next_of_refused refused))
  | answer request routine later rest working gates answered =>
    rw [working] at asks
    exact .inl (lasts asks (Routine.answered_cases answered).1)
  | begin request pipeline next ticket engine rest working gates invoked =>
    rw [working] at asks
    exact .inl fun outcome _ => lasts asks (.invoke pipeline next outcome)
  | receive request ticket next outcome awaiting found =>
    have allowed := sound.allowed awaiting found
    rw [awaiting] at asks
    exact .inl (asks outcome allowed)
  | compute request ticket next engine awaiting waits stepped => exact .inl asks
  | resume request ticket next verb engine rest awaiting waits stands cues resumed =>
    exact .inl asks

/-- How far a courteous attempt has come: it is over; or it has left the engine alone so far; or it
will not come back busy. -/
inductive Minds (x y : Serial) : Prop
  | concluded (resting : y.working = .resting) : Minds x y
  | asking (request : Request) (routine : Routine) (working : y.working = .working request routine)
      (courteous : routine.Courteous) (same : x.engine.SameBut y.engine) : Minds x y
  | decided (asks : y.working.Asks Routine.Decided) : Minds x y

theorem Minds.move (minds : x.Minds y) (moves : y.Moves z) (sound : y.Sound)
    (single : y.waiting = []) : x.Minds z := by
  cases minds with
  | concluded resting => exact absurd resting (moves.not_resting single)
  | decided asks =>
    rcases moves.asks Routine.Decided.next sound single asks with later | ⟨resting, _⟩
    · exact .decided later
    · exact .concluded resting
  | asking request routine mine courteous same =>
    cases moves with
    | take job rest resting waiting => exact absurd (single.symm.trans waiting) nofun
    | settle other ending result working ended => exact .concluded rfl
    | report other lines conclusion working => exact .decided trivial
    | refuse other asked later rest working gates refused =>
      cases mine.symm.trans working
      exact .asking request later rfl (courteous.refused refused) same
    | answer other asked later rest working gates answered =>
      cases mine.symm.trans working
      exact .asking request later rfl (courteous.answered answered) same
    | begin other pipeline next ticket engine rest working gates invoked =>
      cases mine.symm.trans working
      exact .decided courteous.2
    | receive _ _ _ _ awaiting _ => exact absurd (mine.symm.trans awaiting) nofun
    | compute _ _ _ _ awaiting _ _ => exact absurd (mine.symm.trans awaiting) nofun
    | resume _ _ _ _ _ _ awaiting _ _ _ _ => exact absurd (mine.symm.trans awaiting) nofun

end Serial

/-- **A payload whose routines do not come back busy once the engine has begun a run is courteous.** -/
theorem Payload.courteous_of_routine {payload : Payload}
    (routines : ∀ number, (payload.attempt number).Courteous) : payload.Courteous := by
  intro x y job cues mine rest runs busy
  have minds : x.Minds y := by
    clear busy
    induction runs with
    | rest =>
      refine .asking job.request job.routine rfl ?_ (.inl rfl)
      unfold Job.routine
      rw [mine]
      exact routines job.number
    | step before stepped ih =>
      exact ih.move (Serial.moves_of_step stepped) (before.sound (Serial.sound_attempt rest job cues)).1
        (before.waiting_nil rfl)
    | pause before given ih =>
      cases ih with
      | concluded resting => exact .concluded resting
      | asking request routine working courteous same =>
        exact .asking request routine working courteous same.pause
      | decided asks => exact .decided asks
  cases minds with
  | concluded resting => exact absurd (resting.symm.trans busy) nofun
  | asking request routine working courteous same => exact same
  | decided asks =>
    rw [busy] at asks
    exact asks.elim

/-- A pipeline has come back busy or has run to its end. -/
theorem Payload.courteous_pipeline (pipeline : Pipeline) (showing : Showing)
    (shape : Option Shape) : (Payload.pipeline pipeline showing shape).Courteous := by
  refine courteous_of_routine fun number => ⟨trivial, fun outcome allowed => ?_⟩
  cases outcome with
  | ok values => exact trivial
  | error error =>
    cases error with
    | busy => exact absurd (allowed _ rfl) nofun
    | _ => exact trivial

/-- The question for the engine's release only asks. -/
theorem Payload.courteous_startup (fallback : Release) : (startup fallback).Courteous := by
  refine courteous_of_routine fun number outcome => ?_
  cases outcome with
  | ok release => exact trivial
  | error error => cases error <;> exact trivial

/-! ### Attempts that pass it on when the engine is busy -/

namespace Routine

/-- A routine that comes back busy, whatever the engine answers. -/
def Refused : Routine → Prop
  | busy => True
  | complete _ => False
  | panic _ => False
  | report _ _ => False
  | invoke _ next => ∀ outcome, (next outcome).Refused
  | askVariable _ next => ∀ outcome, (next outcome).Refused
  | askRelease next => ∀ outcome, (next outcome).Refused

/-- A routine that comes back busy once the engine has been busy. -/
def Passes : Routine → Prop
  | invoke _ next => (next (.error .busy)).Refused ∧
      ∀ outcome, Engine.Law.quiet.Allows outcome → (next outcome).Passes
  | askVariable _ next => (next (.error .busy)).Refused ∧
      ∀ outcome, Engine.Law.quiet.Allows outcome → (next outcome).Passes
  | askRelease next => (next (.error .busy)).Refused ∧
      ∀ outcome, Engine.Law.quiet.Allows outcome → (next outcome).Passes
  | _ => True

variable {routine later : Routine}

theorem Refused.next (refused : routine.Refused) (next : routine.Next later) : later.Refused := by
  cases next with
  | report lines conclusion => exact refused.elim
  | _ => exact refused _

theorem Refused.unended (refused : routine.Refused) : routine.result? = none := by
  cases routine <;> first | rfl | exact refused.elim

theorem Passes.refused (passes : routine.Passes) (refused : routine.refused? = some later) :
    later.Refused := by
  cases routine with
  | invoke pipeline next => cases refused; exact passes.1
  | askVariable name next => cases refused; exact passes.1
  | askRelease next => cases refused; exact passes.1
  | _ => cases refused

/-- An answer is that the engine is busy, or another one. -/
theorem busy_or_allowed {α : Type} (answer : Except EngineFailure α) :
    answer = .error .busy ∨ Engine.Law.quiet.Allows answer := by
  cases answer with
  | ok value => exact .inr (Engine.Law.allows_ok value)
  | error error =>
    cases error with
    | busy => exact .inl rfl
    | _ => exact .inr (Engine.Law.allows_error rfl)

theorem Passes.answered {e : Engine} (passes : routine.Passes)
    (answered : routine.answered? e = some later) : later.Refused ∨ later.Passes := by
  have busy := (answered_cases answered).2
  cases routine with
  | invoke pipeline next =>
    rw [busy pipeline next rfl]
    exact .inl passes.1
  | askVariable name next =>
    cases answered
    rcases busy_or_allowed (e.askVariable name) with busy | allowed
    · rw [busy]
      exact .inl passes.1
    · exact .inr (passes.2 _ allowed)
  | askRelease next =>
    cases answered
    rcases busy_or_allowed e.askRelease with busy | allowed
    · rw [busy]
      exact .inl passes.1
    · exact .inr (passes.2 _ allowed)
  | _ => cases answered

end Routine

/-- A payload whose attempts come back busy once the engine has been busy. -/
def Payload.Passes (payload : Payload) : Prop :=
  ∀ number, (payload.attempt number).Passes

theorem Payload.passes_pipeline (pipeline : Pipeline) (showing : Showing) (shape : Option Shape) :
    (Payload.pipeline pipeline showing shape).Passes := by
  refine fun number => ⟨trivial, fun outcome allowed => ?_⟩
  cases outcome with
  | ok values => exact trivial
  | error error => cases error <;> exact trivial

theorem Payload.passes_startup (fallback : Release) : (startup fallback).Passes := by
  refine fun number => ⟨trivial, fun outcome allowed => ?_⟩
  cases outcome with
  | ok release => exact trivial
  | error error => cases error <;> exact trivial

namespace Serial

variable {x y z : Serial}

/-- The engine has been let answer every question so far. -/
def Answered (gates : List Bool) (y : Serial) : Prop :=
  ∃ used, gates = used ++ y.gates ∧ false ∉ used

theorem Answered.further {gates rest : List Bool} (answered : y.Answered gates)
    (given : y.gates = true :: rest) (left : z.gates = rest) : z.Answered gates := by
  obtain ⟨used, split, clean⟩ := answered
  refine ⟨used ++ [true], ?_, ?_⟩
  · rw [split, given, left, List.append_assoc]
    rfl
  · intro member
    rcases List.mem_append.mp member with old | new
    · exact clean old
    · cases List.mem_singleton.mp new

/-- How far an attempt has come that passes it on when the engine is busy: it is over, or goes on,
having been answered every question; or it is about to come back busy. -/
inductive Heeds (gates : List Bool) (y : Serial) : Prop
  | concluded (resting : y.working = .resting) (answered : y.Answered gates) : Heeds gates y
  | asking (asks : y.working.Asks Routine.Passes) (answered : y.Answered gates) : Heeds gates y
  | refused (asks : y.working.Asks Routine.Refused) : Heeds gates y

theorem Heeds.move {gates : List Bool} (heeds : y.Heeds gates) (moves : y.Moves z) (sound : y.Sound)
    (single : y.waiting = []) : z.Heeds gates := by
  cases heeds with
  | concluded resting => exact absurd resting (moves.not_resting single)
  | refused asks =>
    rcases moves.asks Routine.Refused.next sound single asks with later | ⟨_, _, refused, ended⟩
    · exact .refused later
    · exact absurd refused.unended ended
  | asking asks answered =>
    cases moves with
    | take job rest resting waiting => exact absurd (single.symm.trans waiting) nofun
    | settle request routine result working ended => exact .concluded rfl answered
    | report request lines conclusion working => exact .asking trivial answered
    | refuse request routine later rest working given refused =>
      rw [working] at asks
      exact .refused (Routine.Passes.refused asks refused)
    | answer request routine later rest working given replied =>
      rw [working] at asks
      rcases Routine.Passes.answered asks replied with refused | passes
      · exact .refused refused
      · exact .asking passes (answered.further given rfl)
    | begin request pipeline next ticket engine rest working given invoked =>
      rw [working] at asks
      exact .asking asks.2 (answered.further given rfl)
    | receive request ticket next outcome awaiting found =>
      have allowed := sound.allowed awaiting found
      rw [awaiting] at asks
      exact .asking (asks outcome allowed) answered
    | compute request ticket next engine awaiting waits stepped => exact .asking asks answered
    | resume request ticket next verb engine rest awaiting waits stands cues resumed =>
      exact .asking asks answered

/-- **An attempt that passes it on when the engine is busy, and has come to an end, has been answered
every question.** -/
theorem Runs.answered {job : Job} {cues : List Cue} (rest : x.engine.AtRest)
    (passes : job.routine.Passes) (runs : (x.attempt job cues).Runs y)
    (resting : y.working = .resting) (spent : y.gates = []) : false ∉ job.gates := by
  have heeds : y.Heeds job.gates := by
    clear resting spent
    induction runs with
    | rest => exact .asking passes ⟨[], rfl, nofun⟩
    | step before stepped ih =>
      exact ih.move (moves_of_step stepped) (before.sound (sound_attempt rest job cues)).1
        (before.waiting_nil rfl)
    | pause before given ih =>
      cases ih with
      | concluded resting answered => exact .concluded resting answered
      | asking asks answered => exact .asking asks answered
      | refused asks => exact .refused asks
  have answered : y.Answered job.gates := by
    cases heeds with
    | concluded _ answered => exact answered
    | asking asks answered => exact answered
    | refused asks =>
      rw [resting] at asks
      exact asks.elim
  obtain ⟨used, split, clean⟩ := answered
  rw [split, spent, List.append_nil]
  exact clean

end Serial

end ShellSession
