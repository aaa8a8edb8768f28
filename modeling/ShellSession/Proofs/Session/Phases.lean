/-
**The lifecycle of a session.**

Whatever is asked of a session and however its steps interleave, it goes through its phases the way
they lead to each other; it runs only while the driver serves a request; its queue is closed when it
accepts no more requests, but for the moments in which a call is about to close it; a submission that
nobody disturbs is answered by the phase it meets; and when a dispose has returned, nothing that is
asked of the session reaches the engine.

* `Session.Quiet`, `Session.Admits`: a submission while no call changes the life of the session;
* `Course.lifecycle`: **all of it, along every course on which nobody lets go of the session**.
-/

import ShellSession.Proofs.Session.Afterlife
import ShellSession.Proofs.Session.Lifecycle
import ShellSession.Proofs.Session.Simulation

namespace ShellSession

/-! ### Submissions that nobody disturbs -/

namespace Session

variable {s t : Session} {caller : Nat} {move : Move}

/-- A session in which no call is in progress that may abort, dispose or start it. -/
def Quiet (s : Session) : Prop :=
  ∀ entry ∈ s.calls, entry.2.order.aborts = false

end Session

/-- An environment in which nobody asks for a session to be started, aborted or disposed. -/
def Environment.Calm (env : Environment) : Prop :=
  ∀ s order, env s (.order order) → order.aborts = false

/-- What a submission returns in a phase. -/
def Phase.Admits : Phase → Except SessionFailure Reply → Prop
  | ready, reply => ∃ id, reply = .ok (.accepted id)
  | running, reply => ∃ id, reply = .ok (.accepted id)
  | notStarted, reply => reply = .error .notStarted
  | aborting, reply => reply = .error (.rejected .aborting)
  | disposed, reply => reply = .error .disposed

/-- The stages of a submission in a phase. -/
def Submitting.Suits (phase : Phase) : Submitting → Prop
  | checking => True
  | pushing => phase.accepts = true
  | finished result => phase.Admits (result.map .accepted)

theorem Phase.admits_accepted {phase : Phase} (accepts : phase.accepts = true) (id : Nat) :
    phase.Admits (.ok (.accepted id)) := by
  cases phase <;> first | exact ⟨id, rfl⟩ | cases accepts

theorem Phase.admits_refusal {phase : Phase} (refuses : phase.accepts = false) :
    phase.Admits (.error phase.refusal) := by
  cases phase <;> first | rfl | cases refuses

namespace Session

variable {s t : Session} {caller : Nat} {move : Move}

/-- A session stays quiet as long as nobody asks for anything else. -/
theorem Quiet.after (quiet : s.Quiet) (calm : ∀ order, move = .order order → order.aborts = false)
    (moved : s.after move = some t) : t.Quiet := by
  intro entry member
  rcases order_after moved member with ⟨call, before, same⟩ | ⟨order, asked, same⟩
  · rw [same]
    exact quiet _ before
  · rw [same]
    exact calm order asked

/-- In a quiet session ready and running take turns, and every other phase stays. -/
theorem Quiet.phase (quiet : s.Quiet) (moved : s.after move = some t) :
    t.phase.accepts = s.phase.accepts ∧ (s.phase.accepts = false → t.phase = s.phase) := by
  rcases phase_after moved with same | (⟨before, behind⟩ | ⟨before, behind⟩) | ⟨⟨entry, member, aborts⟩, _⟩
  · exact ⟨by rw [same], fun _ => same⟩
  · rw [before, behind]
    exact ⟨rfl, fun other => by cases other⟩
  · rw [before, behind]
    exact ⟨rfl, fun other => by cases other⟩
  · rw [quiet entry member] at aborts
    cases aborts

/-- **Between starts, aborts and disposes the queue is closed exactly when the session is aborting or
disposed.** -/
theorem Quiet.closed_iff (quiet : s.Quiet) (alive : s.Alive) :
    s.queue.closed = true ↔ s.phase = .aborting ∨ s.phase = .disposed := by
  have late : s.phase.isLate = true ↔ s.phase = .aborting ∨ s.phase = .disposed := by
    cases s.phase <;> decide
  rw [← late]
  refine ⟨alive.sane.closed, fun last => (alive.closing last).resolve_right ?_⟩
  rintro ⟨entry, member, target, closing⟩
  have spares := quiet entry member
  obtain ⟨number, call⟩ := entry
  cases call with
  | start stage => cases spares
  | abort stage => cases spares
  | dispose stage => cases spares
  | submit payload stage => cases stage <;> cases closing
  | _ => cases closing

/-- A submission begun in a phase, in a session that has been quiet since. -/
structure Admitting (s : Session) (caller : Nat) (phase : Phase) : Prop where
  orderly : s.Orderly
  alive : s.Alive
  quiet : s.Quiet
  accepts : s.phase.accepts = phase.accepts
  same : phase.accepts = false → s.phase = phase
  follows : s.Follows caller (fun call => ∃ payload stage, call = .submit payload stage ∧
    Submitting.Suits phase stage) phase.Admits

/-- A step of the submission. -/
theorem Admitting.step {phase : Phase} (admitting : s.Admitting caller phase) {payload : Payload}
    {stage : Submitting} (suits : stage.Suits phase)
    (moved : s.advanceCall caller (.submit payload stage) = some t) :
    (∀ later, (caller, later) ∈ t.calls → ∃ payload stage, later = .submit payload stage ∧
        Submitting.Suits phase stage) ∧
      ∀ reply, (caller, reply) ∈ t.replies → (caller, reply) ∈ s.replies ∨ phase.Admits reply := by
  rcases advanceSubmit_cases moved with ⟨result, rfl, rfl⟩ | ⟨u, next, stepped, rfl⟩
  · refine ⟨fun later member => absurd member (not_mem_giveBack _), fun reply replied => ?_⟩
    rcases List.mem_append.mp replied with before | now
    · exact .inl before
    · rw [(Prod.mk.inj (List.mem_singleton.mp now)).2]
      exact .inr suits
  · have replies : u.replies = s.replies := (Submitting.step_effect stepped).same_replies
    suffices still : next.Suits phase from
      ⟨fun later member => ⟨payload, next, eq_of_mem_proceed member, still⟩,
        fun reply replied => .inl (replies ▸ replied)⟩
    cases Submitting.goes_of_step stepped with
    | letIn accepts => exact admitting.accepts.symm.trans accepts
    | bar refuses =>
      have barred := admitting.accepts.symm.trans refuses
      rw [admitting.same barred]
      exact Phase.admits_refusal barred
    | push opened => exact Phase.admits_accepted suits _
    | refuse closed =>
      have late : s.phase.isLate = true := admitting.alive.sane.closed closed
      rw [Phase.late_of_accepts (admitting.accepts.trans suits)] at late
      cases late

/-- Every move keeps it so, as long as nobody asks for anything else and the session is kept. -/
theorem Admitting.after {phase : Phase} (admitting : s.Admitting caller phase)
    (owned : move ≠ .drop) (calm : ∀ order, move = .order order → order.aborts = false)
    (moved : s.after move = some t) : t.Admitting caller phase where
  orderly := orderly_after admitting.orderly moved
  alive := alive_after admitting.alive admitting.orderly owned moved
  quiet := admitting.quiet.after calm moved
  accepts := (admitting.quiet.phase moved).1.trans admitting.accepts
  same := fun refuses =>
    ((admitting.quiet.phase moved).2 (admitting.accepts.trans refuses)).trans (admitting.same refuses)
  follows := by
    refine admitting.follows.after moved (fun u expired => ?_) ?_
    · obtain ⟨call, _, mine, expires, _⟩ := expires_of_expire expired
      obtain ⟨payload, stage, rfl, _⟩ := admitting.follows.going call mine
      cases expires
    · rintro _ u mine ⟨payload, stage, rfl, suits⟩ taken
      exact admitting.step suits taken

theorem admitting_begin (orderly : s.Orderly) (alive : s.Alive) (quiet : s.Quiet)
    (payload : Payload) :
    (s.begin (Order.submit payload).call).2.Admitting (s.begin (Order.submit payload).call).1
      s.phase :=
  have begun : s.after (.order (.submit payload)) = some (s.begin (Order.submit payload).call).2 :=
    rfl
  ⟨orderly_after orderly begun, alive_after alive orderly (fun other => by cases other) begun,
    quiet.after (fun order same => by cases same; rfl) begun, rfl, fun _ => rfl,
    follows_begin orderly _ ⟨payload, .checking, rfl, trivial⟩⟩

/-- A submission can always take a step, up to its end. -/
theorem submit_step {payload : Payload} {stage : Submitting}
    (mine : (caller, Call.submit payload stage) ∈ s.calls) :
    ∃ t, s.advanceCall caller (.submit payload stage) = some t ∧
      ((∃ reply, (caller, reply) ∈ t.replies) ∨ ∃ later, (caller, later) ∈ t.calls ∧
        (∃ payload stage, later = .submit payload stage) ∧
        later.distance < (Call.submit payload stage).distance) := by
  have here : ∀ {u : Session} {later : Call}, u.calls = s.calls →
      (caller, later) ∈ (u.proceed caller later).calls := fun same =>
    mem_proceed_self (same ▸ mine)
  cases stage with
  | checking =>
    refine ⟨_, rfl, .inr ⟨_, here rfl, ⟨payload, _, rfl⟩, ?_⟩⟩
    split
    · exact Nat.lt_succ_self 1
    · exact Nat.two_pos
  | pushing =>
    have same : (s.push payload).1.calls = s.calls :=
      (s.push_effect payload (.inl rfl)).same_books.2.2.2.1
    exact ⟨_, rfl, .inr ⟨_, here same, ⟨payload, _, rfl⟩, Nat.one_pos⟩⟩
  | finished result =>
    exact ⟨_, rfl, .inl ⟨_, List.mem_append_right _ (List.mem_singleton_self _)⟩⟩

/-- **A submission can always return.** -/
theorem exists_course_submit (j : Journal) (orderly : s.Orderly) {payload : Payload}
    {stage : Submitting} (mine : (caller, Call.submit payload stage) ∈ s.calls) :
    ∃ k t, Course (.only []) s j k t ∧ ∃ reply, (caller, reply) ∈ t.replies := by
  have goes (u : Session) (call : Call) (_ : u.Orderly) (mine : (caller, call) ∈ u.calls)
      (submits : ∃ payload stage, call = .submit payload stage) :
      ∃ t, u.advanceCall caller call = some t ∧ ((∃ reply, (caller, reply) ∈ t.replies) ∨
        ∃ later, (caller, later) ∈ t.calls ∧ (∃ payload stage, later = .submit payload stage) ∧
          later.distance < call.distance) := by
    obtain ⟨payload, stage, rfl⟩ := submits
    exact submit_step mine
  exact exists_course_done goes s j _ orderly mine ⟨payload, stage, rfl⟩

end Session

/-! ### The lifecycle -/

/-- A request at which the session is at work: the driver has attempts made at it, or the interpreter
thread makes one. -/
def Session.Executes (s : Session) (request : Request) : Prop :=
  s.driving.executing? = some request ∨ (∃ routine, s.working = .working request routine) ∨
    ∃ ticket next, s.working = .awaiting request ticket next

/-- A number that has been given to a caller's request, whether the caller has heard of it or not. -/
def Session.Granted (s : Session) (id : Nat) : Prop :=
  (∃ caller payload, (caller, Call.submit payload (.finished (.ok id))) ∈ s.calls) ∨
    ∃ caller, (caller, .ok (.accepted id)) ∈ s.replies

/-- What can be said of a session at any moment. -/
structure Session.Lifecycle (s : Session) : Prop where
  /-- Whoever moves next, the phase goes where it leads, if it goes anywhere. -/
  path : ∀ {move t}, s.after move = some t → t.phase = s.phase ∨ s.phase.leadsTo t.phase = true
  /-- The last phase is never left. -/
  last : ∀ {env : Environment} {j k t}, Course env s j k t → s.phase = .disposed →
    t.phase = .disposed
  /-- The session runs only while the driver serves a request. -/
  running : s.phase = .running → s.driving.isServing = true
  /-- Before it is started and as long as it does not run, nothing but the question of the start is
  executed, and no caller's request. -/
  executing : s.phase = .notStarted ∨ s.phase = .ready → ∀ request, s.Executes request →
    request = ⟨1, .startup s.fallback⟩ ∧ ¬ s.Granted request.id
  /-- Between starts, aborts and disposes the queue is closed exactly when the session is aborting or
  disposed. -/
  queue : s.Quiet → (s.queue.closed = true ↔ s.phase = .aborting ∨ s.phase = .disposed)
  /-- A submission during which nobody starts, aborts or disposes the session is answered by the phase
  in which it is made, and it can always return. -/
  submission : s.Quiet → ∀ payload {env : Environment} {j k t}, env.Owned → env.Calm →
    Course env (s.begin (Order.submit payload).call).2 j k t →
      (∀ reply, t.reply? (s.begin (Order.submit payload).call).1 = some reply →
        s.phase.Admits reply) ∧
      ∃ l u, Course (.only []) t k l u ∧
        (u.reply? (s.begin (Order.submit payload).call).1).isSome = true
  /-- When a dispose has returned, the session is disposed and has no engine. Whatever is asked of it
  later is answered in vain: nothing but the late answer is returned, no step of the call changes
  anything but the bookkeeping of calls, and the call can always return. -/
  disposed : ∀ {env : Environment} {j k t}, Course env (s.begin Order.dispose.call).2 j k t →
    (t.reply? (s.begin Order.dispose.call).1).isSome = true →
      t.phase = .disposed ∧ t.bound = false ∧
      ∀ {later : Environment} {l u}, Course later t k l u → ∀ (order : Order) {wider : Environment} {i m v},
        Course wider (u.begin order.call).2 i m v →
          (∀ reply, v.reply? (u.begin order.call).1 = some reply → reply = order.lateAnswer) ∧
          (∀ w, v.after (.act (.call (u.begin order.call).1)) = some w → v.Books w) ∧
          ∃ n w, Course (.only []) v m n w ∧
            w.reply? (u.begin order.call).1 = some order.lateAnswer

namespace Session

variable {s : Session}

/-- The thread is at work on the request at which the driver has attempts made. -/
theorem executing_of_executes (agree : s.driving.Agrees s.working) {request : Request}
    (executes : s.Executes request) : s.driving.executing? = some request := by
  have attempting : ∀ attempts, s.driving = .attempting request attempts →
      s.driving.executing? = some request := by
    intro attempts driving
    rw [driving]
    rfl
  rcases executes with driven | ⟨routine, working⟩ | ⟨ticket, next, awaiting⟩
  · exact driven
  · obtain ⟨attempts, driving⟩ := Desk.attempting_of_working (d := s.desk) agree working
    exact attempting attempts driving
  · obtain ⟨attempts, driving⟩ := Desk.attempting_of_awaiting (d := s.desk) agree awaiting
    exact attempting attempts driving

/-- The number of the start's question is given to nobody. -/
theorem Alive.granted (alive : s.Alive) {id : Nat} (granted : s.Granted id) : 1 < id := by
  rcases granted with ⟨caller, payload, member⟩ | ⟨caller, replied⟩
  · exact alive.stands _ member id rfl
  · exact alive.accepted caller id replied

/-- Before a session runs it executes no caller's request. -/
theorem Alive.executing (alive : s.Alive) (agree : s.driving.Agrees s.working)
    (early : s.phase = .notStarted ∨ s.phase = .ready) {request : Request}
    (executes : s.Executes request) :
    request = ⟨1, .startup s.fallback⟩ ∧ ¬ s.Granted request.id := by
  have question : request = ⟨1, .startup s.fallback⟩ :=
    alive.sane.executing early request (executing_of_executes agree executes)
  refine ⟨question, fun granted => ?_⟩
  rw [question] at granted
  exact absurd (alive.granted granted) (Nat.lt_irrefl 1)

end Session

namespace Course

variable {env : Environment} {s t u : Session} {i j k : Journal}

/-- A submission during which the session is quiet is answered by the phase it meets. -/
theorem submission (orderly : s.Orderly) (alive : s.Alive) (quiet : s.Quiet) (payload : Payload)
    (owned : env.Owned) (calm : env.Calm)
    (course : Course env (s.begin (Order.submit payload).call).2 j k t) :
    (∀ reply, t.reply? (s.begin (Order.submit payload).call).1 = some reply → s.phase.Admits reply) ∧
      ∃ l u, Course (.only []) t k l u ∧
        (u.reply? (s.begin (Order.submit payload).call).1).isSome = true := by
  have admitting := course.invariant
    (fun t _ => t.Admitting (s.begin (Order.submit payload).call).1 s.phase)
    (fun move admitting allowed moved => admitting.after (fun same => owned _ (same ▸ allowed))
      (fun order same => calm _ order (same ▸ allowed)) moved)
    (Session.admitting_begin orderly alive quiet payload)
  refine ⟨fun reply replied => admitting.follows.reply replied, ?_⟩
  rcases admitting.follows.present with ⟨call, mine⟩ | ⟨reply, replied⟩
  · obtain ⟨_, stage, rfl, _⟩ := admitting.follows.going call mine
    obtain ⟨l, u, further, reply, replied⟩ :=
      Session.exists_course_submit k admitting.orderly mine
    exact ⟨l, u, further, Session.replied_of_mem replied⟩
  · exact ⟨k, t, .rest, Session.replied_of_mem replied⟩

/-- A session of which a dispose has returned is gone. -/
theorem gone_of_returned {settings : Settings} {hosted : HostedEngine}
    (created : Session.create settings hosted = .ok s) (before : Course env s .empty i t)
    {later : Environment} (after : Course later (t.begin Order.dispose.call).2 j k u)
    (returned : (u.reply? (t.begin Order.dispose.call).1).isSome = true) : u.Tidy ∧ u.Gone := by
  have any : ∀ {env : Environment} {s t : Session} {i j : Journal}, Course env s i j t →
      Course (fun _ _ => True) s i j t := fun course => course.weaken fun _ _ _ => trivial
  have unbound : u.bound = false :=
    Course.returned Milestone.unbound (.inl (by decide)) created (any before) (any after) returned
  obtain ⟨fallback, _, rfl⟩ := Session.fresh_of_create created
  have begun : t.after (.order .dispose) = some (t.begin Order.dispose.call).2 := rfl
  have tidy := before.tidy (Session.tidy_fresh settings fallback hosted)
  have behind := after.tidy (tidy.after begun)
  exact ⟨behind, behind.gone unbound⟩

/-- **The lifecycle of a session.** Whatever is asked of a session that somebody holds on to, and
however its steps interleave, at every moment: the phase goes where it leads and the last one is never
left; the session runs only while the driver serves a request, and executes no caller's request before
it runs; its queue is closed exactly when it accepts no more requests, unless a call is in progress
that may start, abort or dispose it; a submission that meets no such call is answered by the phase it
meets; and behind a dispose everything is answered in vain. -/
theorem lifecycle {settings : Settings} {hosted : HostedEngine}
    (created : Session.create settings hosted = .ok s) (course : Course env s .empty j t)
    (owned : env.Owned) : s.phase = .notStarted ∧ t.Lifecycle := by
  have fresh := created
  obtain ⟨fallback, _, rfl⟩ := Session.fresh_of_create created
  obtain ⟨orderly, alive⟩ := course.alive owned (Session.orderly_fresh settings fallback hosted)
    (Session.alive_fresh settings fallback hosted)
  have agree := (course.sound (Session.sound_of_create fresh)).custody.agree
  refine ⟨rfl,
    { path := Session.leadsTo_after
      last := fun later disposed => later.invariant (fun t _ => t.phase = .disposed)
        (fun _ disposed _ moved => Session.disposed_after moved disposed) disposed
      running := alive.sane.running
      executing := fun early request executes => alive.executing agree early executes
      queue := fun quiet => quiet.closed_iff alive
      submission := fun quiet payload _ _ _ _ owned calm further =>
        further.submission orderly alive quiet payload owned calm
      disposed := fun after returned => ?_ }⟩
  obtain ⟨tidy, gone⟩ := gone_of_returned fresh course after returned
  refine ⟨gone.disposed, gone.unbound, fun further order _ _ _ _ last => ?_⟩
  have behind := further.tidy tidy
  exact last.in_vain behind.orderly (further.still_gone gone) behind.lined order

/-- A session that is started and aborted: its queue is closed. -/
theorem lifecycle_aborted : ∃ j t, Course (.only [.start, .abort]) Session.plain .empty j t ∧
    t.phase = .aborting ∧ t.queue.closed = true := by
  obtain ⟨j, course⟩ := Session.plain.exists_course_carryOut .empty [.start, .abort]
  have whole := (course.lifecycle Session.create_plain (Environment.only_owned _)).2
  have aborting : (Session.plain.carryOut [.start, .abort]).phase = .aborting := by decide +kernel
  have quiet : (Session.plain.carryOut [.start, .abort]).Quiet := by
    have none : (Session.plain.carryOut [.start, .abort]).calls.all
        (fun entry => !entry.2.order.aborts) = true := by decide +kernel
    exact fun entry member => by simpa using List.all_eq_true.mp none entry member
  exact ⟨j, _, course, aborting, (whole.queue quiet).mpr (.inl aborting)⟩

end Course

end ShellSession
