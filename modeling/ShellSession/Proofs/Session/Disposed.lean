/-
**A dispose of a paused session.**

A dispose of a session that still accepts requests does not return before the verb `stop` is sent, so
the run ends and the request is completed. A dispose of a session that is aborting goes past the
pause: the abort has closed the queue, but what was queued before still runs and may stop. Then the
request is parked for ever.

* `Call.isTimely`: the calls that have not looked for the pause yet, or are over;
* `Environment.Steady`: nobody else leaves the stop;
* `Session.Released`: the run ends and its request is completed;
* `Course.dispose_ends_stop`: **a dispose leaves the stop unless the session is aborting**.
-/

import ShellSession.Proofs.Session.Departure

namespace ShellSession

/-! ### Calls and environments -/

/-- A call that has not looked for the pause yet and sends no verb but `stop`, or is over. -/
def Call.isTimely : Call → Bool
  | start .entering => true
  | start (.inside .checking) => true
  | start (.inside (.finished _)) => true
  | start _ => false
  | resume _ (.finished _) => true
  | resume _ _ => false
  | abort .entering => true
  | abort (.inside .checking) => true
  | abort (.inside (.finished _)) => true
  | abort _ => false
  | dispose .entering => true
  | dispose (.inside .checking) => true
  | dispose _ => false
  | _ => true

namespace Call

/-- Such a call is before the verb, and in a session that accepts no more requests it is blind. -/
theorem of_timely {call : Call} (timely : call.isTimely = true) :
    call.isAhead = true ∧ call.isBlind = true := by
  have waits : ∀ {σ : Type} (build : Guarded σ → Call) (stage : Guarded σ),
      (build .entering).isAhead = true ∧ (build .entering).isBlind = true →
      (∀ inner, stage = .inside inner →
        (build stage).isAhead = true ∧ (build stage).isBlind = true) →
      (build stage).isAhead = true ∧ (build stage).isBlind = true := by
    intro σ build stage first inside
    cases stage with
    | entering => exact first
    | inside inner => exact inside inner rfl
  cases call with
  | start stage =>
    refine waits .start stage ⟨rfl, rfl⟩ ?_
    rintro inner rfl
    cases inner <;> first | exact ⟨rfl, rfl⟩ | cases timely
  | resume verb stage => cases stage <;> first | exact ⟨rfl, rfl⟩ | cases timely
  | abort stage =>
    refine waits .abort stage ⟨rfl, rfl⟩ ?_
    rintro inner rfl
    cases inner <;> first | exact ⟨rfl, rfl⟩ | cases timely
  | dispose stage =>
    refine waits .dispose stage ⟨rfl, rfl⟩ ?_
    rintro inner rfl
    cases inner <;> first | exact ⟨rfl, rfl⟩ | cases timely
  | _ => exact ⟨rfl, rfl⟩

theorem begun_of_timely {call : Call} (timely : call.isTimely = true) (verb : Verb) :
    call ≠ .resume verb .binding := by
  rintro rfl
  cases timely

end Call

/-- An environment in which the stop is left to aborts and disposes: nobody else uses the engine or
asks for a resume, and the debugger stays there and willing. -/
def Environment.Steady (env : Environment) : Prop :=
  ∀ s move, env s move → move.IsSteady

theorem Environment.Steady.alone {env : Environment} (steady : env.Steady) : env.Private :=
  fun s engine allowed => steady s (.outside engine) allowed

theorem Environment.Steady.unasked {env : Environment} (steady : env.Steady) (s : Session)
    (verb : Verb) : ¬ env s (.order (.resume verb)) := fun allowed =>
  steady s (.order (.resume verb)) allowed verb rfl

/-! ### Requests that are released -/

/-- The run that a request waits for has been told to stop, whatever else happens: its outcome is
that it was stopped, and the engine gets there by itself; the session by itself then completes the
request with what the attempt makes of it, and a pipeline makes a failure of it. -/
structure Session.Released (s : Session) (j : Journal) (request : Request) (ticket : Nat)
    (next : Except EngineFailure (List Value) → Routine) : Prop where
  stopped : ∀ {env : Environment} {k t}, env.Private → Course env s j k t → ∀ outcome,
    t.hosted.engine.result? ticket = some outcome → outcome = .error .stopped
  answered : ∀ {env : Environment} {k t}, env.Private → Course env s j k t → ∃ l u,
    Course (.only []) t k l u ∧ u.hosted.engine.result? ticket = some (.error .stopped)
  completed : ∀ {env : Environment} {k t result}, env.Private → Course env s j k t →
    (next (.error .stopped)).closes? = some result → ∃ l u,
      Course (.only []) t k l u ∧ (request.id, result) ∈ u.results
  pipeline : ∀ pipeline showing shape, request.payload = .pipeline pipeline showing shape →
    (next (.error .stopped)).closes? = some (.error (.execution .stopped))

/-- A session in which the run of a request has been told to stop. -/
structure Session.Told (request : Request) (ticket : Nat)
    (next : Except EngineFailure (List Value) → Routine) (s : Session) : Prop where
  ending : s.hosted.engine.Ending ticket
  closing : ∀ result, (next (.error .stopped)).closes? = some result →
    s.Closing request ticket next result

/-- What a parked pipeline makes of a run that was stopped. -/
theorem Session.Parked.closes {s : Session} {j : Journal} {request : Request} {ticket : Nat}
    {next : Except EngineFailure (List Value) → Routine} {stop : Stop}
    (parked : s.Parked request ticket next stop) (sound : s.Sound j) {pipeline : Pipeline}
    {showing : Showing} {shape : Option Shape}
    (payload : request.payload = .pipeline pipeline showing shape) :
    (next (.error .stopped)).closes? = some (.error (.execution .stopped)) := by
  obtain ⟨attempts, attempting⟩ := Desk.attempting_of_awaiting sound.custody.agree parked.working
  have underway := sound.accounts.underway
  have working : s.desk.working = .awaiting request ticket next := parked.working
  unfold Desk.Underway at underway
  rw [show s.desk.driving = .attempting request attempts from attempting] at underway
  obtain ⟨_, _, _, _, _, follows⟩ := underway
  rw [working] at follows
  obtain ⟨_, _, _, hears⟩ := follows
  rw [payload] at hears
  exact Payload.closes?_stopped hears

namespace Course

variable {env : Environment} {s t u : Session} {i j k : Journal} {request : Request} {ticket : Nat}
  {next : Except EngineFailure (List Value) → Routine} {stop : Stop}

/-- A run that has been told to stop stays so along every course on which nobody else uses the
engine. -/
theorem told (course : Course env s j k t) (alone : env.Private) (sound : s.Sound j)
    (attached : s.Attached) (told : s.Told request ticket next) :
    t.Sound k ∧ t.Attached ∧ t.Told request ticket next := by
  refine course.invariant (fun t k => t.Sound k ∧ t.Attached ∧ t.Told request ticket next) ?_
    ⟨sound, attached, told⟩
  rintro t u k move ⟨sound, attached, told⟩ allowed moved
  have others : ∀ engine, move ≠ .outside engine := fun engine same => alone t engine (same ▸ allowed)
  exact ⟨sound.after moved, Session.attached_after attached sound.custody.agree others moved,
    Session.ending_after told.ending attached.linked others moved, fun result closes =>
      (told.closing result closes).after closes told.ending attached.linked sound.custody.agree
        moved⟩

/-- **A request whose run has been told to stop is released.** -/
theorem released (sound : s.Sound j) (attached : s.Attached) (told : s.Told request ticket next)
    (pipeline : ∀ pipeline showing shape, request.payload = .pipeline pipeline showing shape →
      (next (.error .stopped)).closes? = some (.error (.execution .stopped))) :
    s.Released j request ticket next where
  stopped := by
    intro env k t alone course outcome found
    obtain ⟨_, attached, told⟩ := course.told alone sound attached told
    exact told.ending.outcome attached.linked.ticketed found
  answered := by
    intro env k t alone course
    obtain ⟨_, attached, told⟩ := course.told alone sound attached told
    obtain ⟨f, steps, answer⟩ :=
      told.ending.answered attached.linked.lawful attached.linked.ticketed
    obtain ⟨l, further⟩ := Session.exists_course_steps steps t k rfl
    exact ⟨l, _, further, answer⟩
  completed := by
    intro env k t result alone course closes
    obtain ⟨_, attached, told⟩ := course.told alone sound attached told
    exact (told.closing result closes).completed k closes told.ending attached.linked
  pipeline := pipeline

/-- A session on its way to the verb `stop` comes to it, along every steady course. -/
theorem approaching {disposer : Nat} (course : Course env s j k t) (steady : env.Steady)
    (sound : s.Sound j) (attached : s.Attached)
    (approaching : s.Approaching request ticket next stop disposer) :
    t.Sound k ∧ t.Attached ∧ (t.Approaching request ticket next stop disposer ∧ k.verbs = j.verbs ∨
      (∃ more, k.verbs = j.verbs ++ .stop :: more) ∧ t.Told request ticket next) := by
  refine course.invariant (fun t k => t.Sound k ∧ t.Attached ∧
    (t.Approaching request ticket next stop disposer ∧ k.verbs = j.verbs ∨
      (∃ more, k.verbs = j.verbs ++ .stop :: more) ∧ t.Told request ticket next)) ?_
    ⟨sound, attached, .inl ⟨approaching, rfl⟩⟩
  rintro t u k move ⟨sound, attached, place⟩ allowed moved
  have others : ∀ engine, move ≠ .outside engine := fun engine same =>
    steady.alone t engine (same ▸ allowed)
  have agree := sound.custody.agree
  refine ⟨sound.after moved, Session.attached_after attached agree others moved, ?_⟩
  rcases place with ⟨approaching, verbs⟩ | ⟨⟨more, verbs⟩, told⟩
  · rcases Session.approaching_after approaching attached agree (steady t move allowed) moved k
      with ⟨still, none⟩ | ⟨sent, ending, working⟩
    · exact .inl ⟨still, none.trans verbs⟩
    · refine .inr ⟨⟨[], ?_⟩, ending, fun result _ => .waiting working⟩
      rw [sent, verbs]
  · refine .inr ⟨?_, Session.ending_after told.ending attached.linked others moved,
      fun result closes => (told.closing result closes).after closes told.ending attached.linked
        agree moved⟩
    rcases (Session.touches_after others moved).verbs k with same | ⟨_, _, verb, _, _, _, _, _, sent⟩
    · exact ⟨more, same.trans verbs⟩
    · refine ⟨more ++ [verb], ?_⟩
      rw [sent, verbs, List.append_assoc]
      rfl

/-! ### Behind the order to dispose -/

/-- The order to dispose changes nothing but the calls. -/
theorem dispose_begun (sound : t.Sound i) (attached : t.Attached) :
    (t.begin Session.dispose).2.Sound
        (i.note t (.order .dispose) (t.begin Session.dispose).2) ∧
      (t.begin Session.dispose).2.Attached ∧
      (i.note t (.order .dispose) (t.begin Session.dispose).2).verbs = i.verbs := by
  have moved : t.after (.order .dispose) = some (t.begin Session.dispose).2 := rfl
  exact ⟨sound.after moved, Session.attached_after attached sound.custody.agree
    (fun _ other => by cases other) moved, i.verbs_other t _ fun _ other => by cases other⟩

theorem timely_begun (timely : ∀ entry ∈ t.calls, entry.2.isTimely = true) :
    ∀ entry ∈ (t.begin Session.dispose).2.calls, entry.2.isTimely = true := by
  intro entry member
  rcases List.mem_append.mp member with old | new
  · exact timely entry old
  · rw [List.mem_singleton.mp new]
    rfl

/-- **A dispose of a session that accepts requests does not return before the verb is sent.** -/
theorem dispose_sends (sound : t.Sound i) (attached : t.Attached)
    (parked : t.Parked request ticket next stop) (paused : t.standing.isPaused = true)
    (accepts : t.phase.accepts = true) (bound : t.bound = true) (willing : t.hosted.Willing)
    (timely : ∀ entry ∈ t.calls, entry.2.isTimely = true)
    (after : Course env (t.begin Session.dispose).2
      (i.note t (.order .dispose) (t.begin Session.dispose).2) k u)
    (steady : env.Steady) (returned : (u.reply? (t.begin Session.dispose).1).isSome = true) :
    (∃ more, k.verbs = i.verbs ++ .stop :: more) ∧ u.Released k request ticket next := by
  obtain ⟨soundBegun, attachedBegun, none⟩ := dispose_begun sound attached
  have begun : (t.begin Session.dispose).2.Approaching request ticket next stop
      (t.begin Session.dispose).1 :=
    ⟨⟨parked.working, parked.held⟩, accepts, bound, willing, .inl paused,
      fun entry member => (Call.of_timely (timely_begun timely entry member)).1,
      .entering, List.mem_append_right _ (List.mem_singleton_self _)⟩
  obtain ⟨soundLater, attachedLater, place⟩ :=
    after.approaching steady soundBegun attachedBegun begun
  rcases place with ⟨approaching, _⟩ | ⟨⟨more, verbs⟩, told⟩
  · -- While the verb is not sent, the dispose is still in progress.
    obtain ⟨stage, mine⟩ := approaching.going
    obtain ⟨reply, found⟩ := Option.isSome_iff_exists.mp returned
    exact absurd rfl ((attachedLater.orderly.returned _ (Session.mem_of_lookup found)).2 _ mine)
  · refine ⟨⟨more, by rw [verbs, none]⟩, released soundLater attachedLater told ?_⟩
    exact fun pipeline showing shape payload => parked.closes sound payload

/-- **A dispose of a session that accepts no more requests goes past the pause**, and when it has
taken the engine away, the request is parked for ever. -/
theorem dispose_passes (sound : t.Sound i) (attached : t.Attached)
    (parked : t.Parked request ticket next stop) (paused : t.standing.isPaused = true)
    (late : t.phase.isLate = true) (timely : ∀ entry ∈ t.calls, entry.2.isTimely = true)
    (after : Course env (t.begin Session.dispose).2
      (i.note t (.order .dispose) (t.begin Session.dispose).2) k u)
    (steady : env.Steady) (unbound : u.bound = false) :
    k.verbs = i.verbs ∧ ∀ {wider : Environment} {l v}, wider.Private → Course wider u k l v →
      v.Parked request ticket next stop ∧ l.verbs = i.verbs ∧
        ∀ result, (request.id, result) ∉ v.results := by
  obtain ⟨soundBegun, attachedBegun, none⟩ := dispose_begun sound attached
  have grown := timely_begun timely
  have stranded : (t.begin Session.dispose).2.Stranded :=
    ⟨late, paused, fun entry member => (Call.of_timely (grown entry member)).2,
      .inr fun entry member => Call.begun_of_timely (grown entry member)⟩
  have parkedBegun : (t.begin Session.dispose).2.Parked request ticket next stop :=
    ⟨parked.working, parked.held⟩
  obtain ⟨⟨soundLater, attachedLater, strandedLater⟩, parkedLater, verbs, _⟩ :=
    after.stranded steady.alone (.inr steady.unasked) soundBegun attachedBegun stranded parkedBegun
  refine ⟨verbs.trans none, fun alone further => ?_⟩
  obtain ⟨_, still, same, unsettled⟩ := further.stranded alone (.inl unbound) soundLater
    attachedLater strandedLater parkedLater
  exact ⟨still, same.trans (verbs.trans none), unsettled⟩

/-- **What a dispose of a paused session does about the stop.** Let nobody but the session use the
engine, whatever has been asked of the session and however it has come to the pause, and let the
debugger be there and willing; and let the stop be left to aborts and disposes from then on. Then a
request is parked in a stop. If the session still accepts requests, the verb `stop` is sent before the
dispose returns, and the request is released. If the session is aborting, no verb is sent: the
dispose returns, the session is disposed, and the request is parked for ever, whatever is asked of
the session later. -/
theorem dispose_ends_stop {later : Environment} {settings : Settings} {hosted : HostedEngine}
    (created : Session.create settings hosted = .ok s) (rest : hosted.engine.AtRest)
    (before : Course env s .empty i t) (alone : env.Private)
    (paused : t.standing.isPaused = true)
    (phase : t.phase = .ready ∨ t.phase = .running ∨ t.phase = .aborting)
    (willing : t.hosted.Willing) (timely : ∀ entry ∈ t.calls, entry.2.isTimely = true)
    (after : Course later (t.begin Session.dispose).2
      (i.note t (.order .dispose) (t.begin Session.dispose).2) k u)
    (steady : later.Steady) (returned : (u.reply? (t.begin Session.dispose).1).isSome = true) :
    u.phase = .disposed ∧ ∃ request ticket next stop, t.Parked request ticket next stop ∧
      (t.phase ≠ .aborting → (∃ more, k.verbs = i.verbs ++ .stop :: more) ∧
        u.Released k request ticket next) ∧
      (t.phase = .aborting → k.verbs = i.verbs ∧ ∀ {wider : Environment} {l v}, wider.Private →
        Course wider u k l v → v.Parked request ticket next stop ∧ l.verbs = i.verbs ∧
          ∀ result, (request.id, result) ∉ v.results) := by
  have reached {stage : Nat} {reached : Session → Prop} (milestone : Milestone stage reached)
      (short : stage ≠ 4 ∧ stage ≠ 5) : reached u :=
    Course.returned milestone (.inl short) created (before.weaken fun _ _ _ => trivial)
      (after.weaken  fun _ _ _ => trivial) returned
  have sound : t.Sound i := before.sound (Session.sound_of_create created)
  have attached : t.Attached := by
    refine before.attached alone (Session.sound_of_create created) ?_
    obtain ⟨fallback, _, rfl⟩ := Session.fresh_of_create created
    exact Session.attached_fresh settings fallback rest
  obtain ⟨request, ticket, next, stop, parked⟩ := attached.exists_parked paused
  refine ⟨reached .disposed (by decide), request, ticket, next, stop, parked, fun accepting => ?_,
    fun aborting => ?_⟩
  · have accepts : t.phase.accepts = true := by
      rcases phase with ready | running | aborting
      · rw [ready]
        rfl
      · rw [running]
        rfl
      · exact absurd aborting accepting
    have bound : t.bound = true := by
      obtain ⟨fallback, _, rfl⟩ := Session.fresh_of_create created
      refine (before.bound_or_disposed (Session.orderly_fresh settings fallback hosted)
        (Session.passed_fresh settings fallback hosted 0 _) rfl).resolve_right fun disposed => ?_
      rw [disposed] at accepts
      cases accepts
    exact dispose_sends sound attached parked paused accepts bound willing timely after steady
      returned
  · have late : t.phase.isLate = true := by
      rw [aborting]
      rfl
    exact dispose_passes sound attached parked paused late timely after steady
      (reached .unbound (by decide))

end Course

namespace Session

/-- A session that was aborted in a stop, and whose next request has stopped as well. -/
def stoppedAgain : Session :=
  plain.carryOut
    [.start, .submit (.script "Wait-Debugger"), .submit (.script "Wait-Debugger"), .abort]

theorem exists_course_stoppedAgain : ∃ i, Course
    (.only [.start, .submit (.script "Wait-Debugger"), .submit (.script "Wait-Debugger"), .abort])
    plain .empty i stoppedAgain :=
  plain.exists_course_carryOut .empty
    [.start, .submit (.script "Wait-Debugger"), .submit (.script "Wait-Debugger"), .abort]

end Session

theorem Environment.only_steady : (Environment.only []).Steady := by
  rintro s move (⟨actor, rfl⟩ | ⟨order, listed, _⟩)
  · exact trivial
  · cases listed

namespace Course

/-- A session that is aborting and has stopped again is disposed: the dispose returns without a verb,
and the request stays parked in its stop. -/
theorem dispose_strands_stop : ∃ i k u,
    Course (.only [.start, .submit (.script "Wait-Debugger"), .submit (.script "Wait-Debugger"),
      .abort]) Session.plain .empty i Session.stoppedAgain ∧
    Course (.only []) (Session.stoppedAgain.begin Session.dispose).2
      (i.note Session.stoppedAgain (.order .dispose)
        (Session.stoppedAgain.begin Session.dispose).2) k u ∧
    (u.reply? (Session.stoppedAgain.begin Session.dispose).1).isSome = true ∧
    u.phase = .disposed ∧ k.verbs = i.verbs ∧ ∃ request ticket next stop,
      ∀ {wider : Environment} {l v}, wider.Private → Course wider u k l v →
        v.Parked request ticket next stop ∧ ∀ result, (request.id, result) ∉ v.results := by
  obtain ⟨i, before⟩ := Session.exists_course_stoppedAgain
  obtain ⟨k, after⟩ := Session.stoppedAgain.exists_course_run
    (i.note Session.stoppedAgain (.order .dispose) (Session.stoppedAgain.begin Session.dispose).2)
    Session.dispose []
  have returned : ((Session.stoppedAgain.run Session.dispose).2.reply?
      (Session.stoppedAgain.begin Session.dispose).1).isSome = true := by
    decide +kernel
  have phase : Session.stoppedAgain.phase = .aborting := by decide +kernel
  have there : Session.stoppedAgain.hosted.debuggerPresent = true := by decide +kernel
  have accepts : Session.stoppedAgain.hosted.refusal.isNone = true := by decide +kernel
  have timely : Session.stoppedAgain.calls.all (fun entry => entry.2.isTimely) = true := by
    decide +kernel
  obtain ⟨disposed, request, ticket, next, stop, _, _, stranded⟩ :=
    dispose_ends_stop Session.create_plain ⟨⟨.fresh, rfl, rfl⟩, rfl, fun _ member => by cases member⟩
      before (Environment.only_private _) (by decide +kernel) (.inr (.inr phase))
      ⟨there, Option.isNone_iff_eq_none.mp accepts⟩
      (fun entry member => List.all_eq_true.mp timely entry member)
      after Environment.only_steady returned
  obtain ⟨verbs, parked⟩ := stranded phase
  refine ⟨i, k, _, before, after, returned, disposed, verbs, request, ticket, next, stop,
    fun alone further => ?_⟩
  obtain ⟨still, _, unsettled⟩ := parked alone further
  exact ⟨still, unsettled⟩

end Course

end ShellSession
