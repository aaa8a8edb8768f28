/-
**Requests whose run has been told to stop.**

When the verb `stop` has been sent, the run comes to its end whatever else happens, and the attempt
that waits for it goes on with the failure. A pipeline is completed with that failure; a function may
make something else of it.

* `Routine.closes?`: the result of a routine that asks the engine nothing more;
* `Session.ending_after`: a run that has been told to stop stays so, whatever else happens;
* `Session.Closing`: the way of the attempt from there to the result of its request;
* `Session.Released`: **the run ends and its request is completed**.
-/

import ShellSession.Proofs.Session.Parked

namespace ShellSession

/-! ### Routines that come to an end -/

/-- The result of a routine that asks the engine nothing more. -/
def Routine.closes? : Routine → Option Result
  | complete conclusion => some (conclusion.mapError Shortfall.failure)
  | panic payload => some (.error (.panicked payload.message))
  | report _ conclusion => some (conclusion.mapError Shortfall.failure)
  | _ => none

/-- The stages of an attempt at a pipeline. -/
theorem Payload.hears_pipeline {pipeline : Pipeline} {showing : Showing} {shape : Option Shape}
    {number : Nat} {heard : List Said} {stage : Routine}
    (hears : ((Payload.pipeline pipeline showing shape).attempt number).Hears heard stage) :
    stage = .invoke pipeline (.finishPipeline pipeline showing shape) ∨ stage = .busy ∨
      (∃ lines conclusion, stage = .report lines conclusion) ∨
      ∃ conclusion, stage = .complete conclusion := by
  have behind (outcome : Except EngineFailure (List Value)) :
      Routine.finishPipeline pipeline showing shape outcome = .busy ∨
        ∃ lines conclusion,
          Routine.finishPipeline pipeline showing shape outcome = .report lines conclusion := by
    unfold Routine.finishPipeline
    split
    · exact .inl rfl
    · exact .inr ⟨_, _, rfl⟩
    · exact .inr ⟨_, _, rfl⟩
  induction hears with
  | here => exact .inl rfl
  | told hears told ih =>
    rcases ih with rfl | rfl | ⟨lines, conclusion, rfl⟩ | ⟨conclusion, rfl⟩
    · cases told with
      | refused _ _ error => exact .inr ((behind (.error error)).imp id .inl)
    · cases told
    · cases told
      exact .inr (.inr (.inr ⟨_, rfl⟩))
    · cases told
  | ended ticket outcome hears ih =>
    rcases ih with same | same | ⟨_, _, same⟩ | ⟨_, same⟩ <;> cases same
    exact .inr ((behind outcome).imp id .inl)

/-- An attempt at a pipeline that is stopped comes to an end as such. -/
theorem Payload.closes?_stopped {pipeline : Pipeline} {showing : Showing} {shape : Option Shape}
    {number : Nat} {asked : Pipeline} {next : Except EngineFailure (List Value) → Routine}
    {heard : List Said} (hears : ((Payload.pipeline pipeline showing shape).attempt number).Hears
      heard (.invoke asked next)) :
    (next (.error .stopped)).closes? = some (.error (.execution .stopped)) := by
  rcases hears_pipeline hears with same | same | ⟨_, _, same⟩ | ⟨_, same⟩
  · cases same
    rfl
  · cases same
  · cases same
  · cases same

namespace Session

variable {s t : Session} {move : Move}

/-! ### The run -/

/-- **A run that has been told to stop stays so along every move**, while nobody else uses the
engine. -/
theorem ending_after {ticket : Nat} (ending : s.hosted.engine.Ending ticket) (linked : s.Linked)
    (alone : ∀ engine, move ≠ .outside engine) (moved : s.after move = some t) :
    t.hosted.engine.Ending ticket := by
  cases touches_after alone moved with
  | none engine => rw [engine]; exact ending
  | step stepped => exact ending.step linked.lawful linked.ticketed stepped
  | invoke request pipeline next other working invoked => exact ending.invoke linked.ticketed invoked
  | command caller call mine nested pipeline asker sent => exact ending.command sent
  | pause caller switched => rw [switched]; exact ending.setStepping true
  | verb caller call mine grips verb asked resumed => exact ending.resume resumed

/-- A session whose engine has gone on. -/
def withEngine (s : Session) (engine : Engine) : Session :=
  { s with hosted := { s.hosted with engine := engine } }

/-- Steps of the engine are a course of the session. -/
theorem exists_course_steps {e f : Engine} (steps : Engine.Steps e f) :
    ∀ (s : Session) (j : Journal), s.hosted.engine = e →
      ∃ k, Course (.only []) s j k (s.withEngine f) := by
  induction steps with
  | rest e =>
    intro s j same
    subst same
    exact ⟨j, .rest⟩
  | @step e f g stepped _ ih =>
    intro s j same
    subst same
    have taken : s.after (.act .engine) = some (s.withEngine f) := by
      show s.hosted.engine.step.map _ = _
      rw [stepped]
      rfl
    obtain ⟨k, course⟩ := ih (s.withEngine f) (j.note s (.act .engine) (s.withEngine f)) rfl
    exact ⟨k, (Course.rest.move (.act .engine) (.inl ⟨_, rfl⟩) taken).trans course⟩

/-! ### The request -/

/-- The way of an attempt whose run has been told to stop: it waits for the run; or it has heard of
its end, and asks the engine nothing more; or its request has the result. -/
inductive Closing (request : Request) (ticket : Nat)
    (next : Except EngineFailure (List Value) → Routine) (result : Result) (s : Session) : Prop
  | waiting (working : s.working = .awaiting request ticket next) : Closing request ticket next result s
  | ending (routine : Routine) (working : s.working = .working request routine)
      (closes : routine.closes? = some result) : Closing request ticket next result s
  | settled (done : (request.id, result) ∈ s.results) : Closing request ticket next result s

namespace Closing

variable {request : Request} {ticket : Nat} {next : Except EngineFailure (List Value) → Routine}
  {result : Result}

/-- A routine that asks the engine nothing more gives its result within two steps. -/
theorem follow {routine : Routine} (closes : routine.closes? = some result) :
    (s.follow request routine).Closing request ticket next result := by
  cases routine with
  | complete conclusion =>
    cases closes
    exact .settled (List.mem_append_right _ (List.mem_singleton_self _))
  | panic payload =>
    cases closes
    exact .settled (List.mem_append_right _ (List.mem_singleton_self _))
  | report lines conclusion => exact .ending (.complete conclusion) rfl closes
  | _ => cases closes

/-- **Every move keeps the attempt on its way.** -/
theorem after (closing : s.Closing request ticket next result)
    (closes : (next (.error .stopped)).closes? = some result)
    (ending : s.hosted.engine.Ending ticket) (linked : s.Linked)
    (agree : s.driving.Agrees s.working) (moved : s.after move = some t) :
    t.Closing request ticket next result := by
  cases closing with
  | waiting working =>
    by_cases thread : move = .act .thread
    · subst thread
      have moved : s.work = some t := moved
      unfold Session.work at moved
      rw [working] at moved
      obtain ⟨outcome, found, rfl⟩ := Option.map_eq_some_iff.mp moved
      rw [ending.outcome linked.ticketed found]
      exact .ending _ rfl closes
    · have busy : s.working.request? = some request := by rw [working]; rfl
      exact .waiting ((working_after agree busy thread moved).trans working)
  | ending routine working closes =>
    by_cases thread : move = .act .thread
    · subst thread
      have moved : s.work = some t := moved
      unfold Session.work at moved
      rw [working] at moved
      cases moved
      exact follow closes
    · have busy : s.working.request? = some request := by rw [working]; rfl
      exact .ending routine ((working_after agree busy thread moved).trans working) closes
  | settled done =>
    obtain ⟨more, results⟩ := (after_handling moved).results
    have grown : t.results = s.results ++ more := results
    refine .settled ?_
    rw [grown]
    exact List.mem_append_left more done

/-- The thread by itself settles a request whose routine asks the engine nothing more. -/
theorem exists_settled {routine : Routine} (j : Journal)
    (working : s.working = .working request routine) (closes : routine.closes? = some result) :
    ∃ k t, Course (.only []) s j k t ∧ (request.id, result) ∈ t.results := by
  have stepped : ∀ (s : Session) (j : Journal) (routine : Routine),
      s.working = .working request routine → ∃ k, Course (.only []) s j k (s.follow request routine) := by
    intro s j routine working
    refine ⟨_, Course.rest.move (.act .thread) (.inl ⟨_, rfl⟩) ?_⟩
    show s.work = _
    unfold Session.work
    rw [working]
  obtain ⟨k, first⟩ := stepped s j routine working
  cases routine with
  | complete conclusion =>
    cases closes
    exact ⟨k, _, first, List.mem_append_right _ (List.mem_singleton_self _)⟩
  | panic payload =>
    cases closes
    exact ⟨k, _, first, List.mem_append_right _ (List.mem_singleton_self _)⟩
  | report lines conclusion =>
    cases closes
    obtain ⟨l, second⟩ := stepped (s.follow request (.report lines conclusion)) k
      (.complete conclusion) rfl
    exact ⟨l, _, first.trans second, List.mem_append_right _ (List.mem_singleton_self _)⟩
  | _ => cases closes

/-- **The session by itself completes the request.** -/
theorem completed (closing : s.Closing request ticket next result) (j : Journal)
    (closes : (next (.error .stopped)).closes? = some result)
    (ending : s.hosted.engine.Ending ticket) (linked : s.Linked) :
    ∃ k t, Course (.only []) s j k t ∧ (request.id, result) ∈ t.results := by
  cases closing with
  | waiting working =>
    obtain ⟨f, steps, answer⟩ := ending.answered linked.lawful linked.ticketed
    obtain ⟨k, first⟩ := exists_course_steps steps s j rfl
    let u := s.withEngine f
    have heard : u.work =
        some { u with working := .working request (next (.error .stopped)) } := by
      have waits : u.working = .awaiting request ticket next := working
      unfold Session.work
      rw [waits]
      show (f.result? ticket).map _ = _
      rw [answer]
      rfl
    have second := first.move (.act .thread) (.inl ⟨_, rfl⟩) heard
    obtain ⟨l, t, third, done⟩ := exists_settled
      (s := { u with working := .working request (next (.error .stopped)) }) _ rfl closes
    exact ⟨l, t, second.trans third, done⟩
  | ending routine working closes => exact exists_settled j working closes
  | settled done => exact ⟨j, s, .rest, done⟩

end Closing

end Session

end ShellSession
