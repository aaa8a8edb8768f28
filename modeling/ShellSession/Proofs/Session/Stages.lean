/-
**What a step of a call can do.**

A step of a call depends on the stage that the call is at, and on little of what the session is like. All
that it can do, and when, is said here once; whatever is shown of a step is shown by these cases.

* `Resuming.Goes`, `Aborting.Goes`, `Disposing.Goes`, `Starting.Goes`, `Submitting.Goes`,
  `Nesting.Goes`: the steps of each kind of call, a failed start going through a dispose, a dispose
  through an abort, and an abort through a resume;
* `Resuming.goes_of_step` and the like: **every step is one of these**;
* `Session.Takes`, `Session.takes_of_advanceCall`: a call takes its place in line, goes on with a stage,
  or returns what it has come to, whatever it is;
* `Call.Expires`, `Session.expires_of_expire`: a call that does not wait any longer.
-/

import ShellSession.Session.Call

namespace ShellSession

theorem Standing.eq_active {standing : Standing} (active : standing.isPaused = false) :
    standing = .active := by
  cases standing with
  | active => rfl
  | paused stop verb => cases active

namespace Session

variable {s t : Session}

/-- What is done by the holder of a lock only. -/
theorem holds_of_stage {α : Type} {lock : Lock} {caller : Nat} {o : Option α} {a : α}
    (same : (if holds lock caller then o else none) = some a) :
    holds lock caller = true ∧ o = some a := by
  split at same
  · exact ⟨‹_›, same⟩
  · cases same

/-- A session moves to a phase where the present one leads there, and stays where it is otherwise. -/
theorem moveTo_cases (s : Session) (target : Phase) :
    s.phase.leadsTo target = true ∧ s.moveTo target = .ok { s with phase := target } ∨
      s.phase.leadsTo target = false ∧
        s.moveTo target = .error (.invalidTransition s.phase target) := by
  unfold moveTo
  cases leads : s.phase.leadsTo target with
  | true => exact .inl ⟨rfl, rfl⟩
  | false => exact .inr ⟨rfl, rfl⟩

/-- A request goes to the end of an open queue; it has a number in any case. -/
theorem push_cases (s : Session) (payload : Payload) :
    s.queue.closed = false ∧ s.push payload = ({ s with
        lastId := s.lastId + 1
        queue := ⟨s.queue.items ++ [⟨s.lastId + 1, payload⟩], false⟩ }, .ok (s.lastId + 1)) ∨
      s.queue.closed = true ∧
        s.push payload = ({ s with lastId := s.lastId + 1 }, .error s.lateRefusal) := by
  unfold push Backlog.push
  cases closed : s.queue.closed with
  | false => exact .inl ⟨rfl, rfl⟩
  | true => exact .inr ⟨rfl, rfl⟩

/-- The pause is put back where there is none. -/
theorem restorePause_of_active (stop : Stop) (active : s.standing = .active) :
    s.restorePause stop = { s with standing := .paused stop none } := by
  unfold restorePause
  rw [active]

/-- A pause that is there is not restored. -/
theorem restorePause_of_paused (stop : Stop) (paused : s.standing.isPaused = true) :
    s.restorePause stop = s := by
  unfold restorePause
  cases here : s.standing with
  | active =>
    rw [here] at paused
    cases paused
  | paused other noted => rfl

theorem restorePause_cases (s : Session) (stop : Stop) :
    s.standing = .active ∧ s.restorePause stop = { s with standing := .paused stop none } ∨
      s.standing.isPaused = true ∧ s.restorePause stop = s := by
  cases standing : s.standing with
  | active => exact .inl ⟨rfl, restorePause_of_active stop standing⟩
  | paused other verb => exact .inr ⟨rfl, restorePause_of_paused stop (by rw [standing]; rfl)⟩

end Session

section

variable {s t : Session} {caller : Nat}

/-! ### Leaving a stop -/

/-- The steps of a resume. -/
inductive Resuming.Goes (caller : Nat) (verb : Verb) (s : Session) :
    Resuming → Session → Resuming → Prop
  | bound (bound : s.bound = true) : Goes caller verb s .binding s .looking
  | unbound (unbound : s.bound = false) :
      Goes caller verb s .binding s (.finished (.error .disposed))
  | paused (paused : s.standing.isPaused = true) : Goes caller verb s .looking s .entering
  | active (active : s.standing.isPaused = false) :
      Goes caller verb s .looking s (.finished (.error .notPaused))
  | enter : Goes caller verb s .entering (s.enterGate caller) .noting
  | note (stop : Stop) (other : Option Verb) (held : Session.holds s.gate caller = true)
      (standing : s.standing = .paused stop other) :
      Goes caller verb s .noting { s with standing := .paused stop (some verb) } .clearing
  | missed (held : Session.holds s.gate caller = true) (standing : s.standing = .active) :
      Goes caller verb s .noting s (.leaving (.error .notPaused))
  | lift (stop : Stop) (other : Option Verb) (standing : s.standing = .paused stop other) :
      Goes caller verb s .clearing { s with standing := .active } (.applying stop)
  | gone (standing : s.standing = .active) :
      Goes caller verb s .clearing s (.leaving (.error .notPaused))
  | apply (stop : Stop) (hosted : HostedEngine) (applied : s.hosted.resume verb = .ok hosted) :
      Goes caller verb s (.applying stop) { s with hosted := hosted } (.leaving (.ok ()))
  | lose (stop : Stop) (error : SessionFailure) (refused : s.hosted.resume verb = .error error)
      (claims : error.saysNotStopped = true) :
      Goes caller verb s (.applying stop) s (.leaving (.error error))
  | fail (stop : Stop) (error : SessionFailure) (refused : s.hosted.resume verb = .error error)
      (claims : error.saysNotStopped = false) :
      Goes caller verb s (.applying stop) s (.restoring stop error)
  | restore (stop : Stop) (error : SessionFailure) :
      Goes caller verb s (.restoring stop error) (s.restorePause stop) (.leaving (.error error))
  | leave (result : Except SessionFailure Unit) :
      Goes caller verb s (.leaving result) (s.leaveGate caller) (.finished result)

/-- **Every step of a resume is one of these.** -/
theorem Resuming.goes_of_step {verb : Verb} {stage next : Resuming}
    (stepped : stage.step caller verb s = some (t, next)) : stage.Goes caller verb s t next := by
  cases stage with
  | binding =>
    cases stepped
    cases bound : s.bound with
    | true => exact .bound bound
    | false => exact .unbound bound
  | looking =>
    cases stepped
    cases paused : s.standing.isPaused with
    | true => exact .paused paused
    | false => exact .active paused
  | entering =>
    cases stepped
    exact .enter
  | noting =>
    obtain ⟨held, stepped⟩ := Session.holds_of_stage stepped
    split at stepped <;> rename_i standing <;> cases stepped
    · exact .note _ _ held standing
    · exact .missed held standing
  | clearing =>
    rw [step] at stepped
    split at stepped <;> rename_i standing <;> cases stepped
    · exact .lift _ _ standing
    · exact .gone standing
  | applying stop =>
    rw [step] at stepped
    split at stepped <;> rename_i result
    · cases stepped
      exact .apply stop _ result
    · split at stepped <;> rename_i claims <;> cases stepped
      · exact .lose stop _ result claims
      · exact .fail stop _ result (eq_false_of_ne_true claims)
  | restoring stop error =>
    cases stepped
    exact .restore stop error
  | leaving result =>
    cases stepped
    exact .leave result
  | finished result => cases stepped

/-! ### Abort and dispose -/

/-- The steps of an abort. -/
inductive Aborting.Goes (caller : Nat) (s : Session) : Aborting → Session → Aborting → Prop
  | late (ended : s.phase = .aborting ∨ s.phase = .disposed) :
      Goes caller s .checking s (.finished (.ok ()))
  | early (phase : s.phase = .notStarted) :
      Goes caller s .checking s (.finished (.error (.invalidTransition .notStarted .aborting)))
  | paused (alive : s.phase = .ready ∨ s.phase = .running) (paused : s.standing.isPaused = true) :
      Goes caller s .checking s (.resuming .binding)
  | active (alive : s.phase = .ready ∨ s.phase = .running) (active : s.standing.isPaused = false) :
      Goes caller s .checking s .moving
  | resume (inner later : Resuming) (t : Session)
      (stepped : inner.step caller .stop s = some (t, later)) :
      Goes caller s (.resuming inner) t (.resuming later)
  | resumed (result : Except SessionFailure Unit) :
      Goes caller s (.resuming (.finished result)) s .moving
  | move (leads : s.phase.leadsTo .aborting = true) :
      Goes caller s .moving { s with phase := .aborting } .closing
  | stay (leads : s.phase.leadsTo .aborting = false) :
      Goes caller s .moving s (.finished (.error (.invalidTransition s.phase .aborting)))
  | close : Goes caller s .closing { s with queue := s.queue.close } (.finished (.ok ()))

/-- An abort that waits for its resume takes a step of the resume, or goes on behind it. -/
theorem Aborting.step_resuming {inner : Resuming} {next : Aborting}
    (stepped : (resuming inner).step caller s = some (t, next)) :
    (∃ result, inner = .finished result ∧ t = s ∧ next = moving) ∨
      ∃ later, inner.step caller .stop s = some (t, later) ∧ next = resuming later := by
  by_cases concluded : ∃ result, inner = .finished result
  · obtain ⟨result, rfl⟩ := concluded
    cases stepped
    exact .inl ⟨result, rfl, rfl, rfl⟩
  · rw [step] at stepped
    · obtain ⟨⟨u, later⟩, same, whole⟩ := Option.map_eq_some_iff.mp stepped
      cases whole
      exact .inr ⟨later, same, rfl⟩
    · exact fun result same => concluded ⟨result, same⟩

/-- **Every step of an abort is one of these.** -/
theorem Aborting.goes_of_step {stage next : Aborting}
    (stepped : stage.step caller s = some (t, next)) : stage.Goes caller s t next := by
  cases stage with
  | checking =>
    have looks (alive : s.phase = .ready ∨ s.phase = .running) :
        Goes caller s .checking s (if s.standing.isPaused then resuming .binding else moving) := by
      cases paused : s.standing.isPaused with
      | true => exact .paused alive paused
      | false => exact .active alive paused
    rw [step] at stepped
    cases phase : s.phase <;> rw [phase] at stepped <;> cases stepped
    · exact .early phase
    · exact looks (.inl phase)
    · exact looks (.inr phase)
    · exact .late (.inl phase)
    · exact .late (.inr phase)
  | resuming inner =>
    rcases step_resuming stepped with ⟨result, rfl, rfl, rfl⟩ | ⟨later, same, rfl⟩
    · exact .resumed result
    · exact .resume inner later t same
  | moving =>
    rw [step] at stepped
    rcases s.moveTo_cases .aborting with ⟨leads, moved⟩ | ⟨leads, moved⟩ <;>
      rw [moved] at stepped <;> cases stepped
    · exact .move leads
    · exact .stay leads
  | closing =>
    cases stepped
    exact .close
  | finished result => cases stepped

/-- The steps of a dispose. -/
inductive Disposing.Goes (caller : Nat) (s : Session) : Disposing → Session → Disposing → Prop
  | already (disposed : s.phase = .disposed) : Goes caller s .checking s .finished
  | busy (alive : s.phase ≠ .disposed) (busy : s.phase = .running ∨ s.standing.isPaused = true) :
      Goes caller s .checking s (.aborting .checking)
  | free (alive : s.phase ≠ .disposed) (free : s.phase ≠ .running)
      (active : s.standing.isPaused = false) : Goes caller s .checking s .moving
  | abort (inner later : Aborting) (t : Session) (stepped : inner.step caller s = some (t, later)) :
      Goes caller s (.aborting inner) t (.aborting later)
  | aborted (result : Except SessionFailure Unit) :
      Goes caller s (.aborting (.finished result)) s .moving
  | move (leads : s.phase.leadsTo .disposed = true) :
      Goes caller s .moving { s with phase := .disposed } .closing
  | stay (leads : s.phase.leadsTo .disposed = false) : Goes caller s .moving s .closing
  | close : Goes caller s .closing { s with queue := s.queue.close } .cancelling
  | cancel : Goes caller s .cancelling { s with shutdown := true } .draining
  | drain (free : s.driving = .unborn) :
      Goes caller s .draining s.turnAwayQueued .awaitingDriver
  | leave (served : s.driving ≠ .unborn) : Goes caller s .draining s .awaitingDriver
  | driverOver (ended : s.driving.isOver = true) : Goes caller s .awaitingDriver s .awaitingListener
  | listenerOver (ended : s.listening.isOver = true) : Goes caller s .awaitingListener s .unbinding
  | unbind : Goes caller s .unbinding { s with bound := false } .finished

/-- A dispose that waits for its abort takes a step of the abort, or goes on behind it. -/
theorem Disposing.step_aborting {inner : Aborting} {next : Disposing}
    (stepped : (aborting inner).step caller s = some (t, next)) :
    (∃ result, inner = .finished result ∧ t = s ∧ next = moving) ∨
      ∃ later, inner.step caller s = some (t, later) ∧ next = aborting later := by
  by_cases concluded : ∃ result, inner = .finished result
  · obtain ⟨result, rfl⟩ := concluded
    cases stepped
    exact .inl ⟨result, rfl, rfl, rfl⟩
  · rw [step] at stepped
    · obtain ⟨⟨u, later⟩, same, whole⟩ := Option.map_eq_some_iff.mp stepped
      cases whole
      exact .inr ⟨later, same, rfl⟩
    · exact fun result same => concluded ⟨result, same⟩

/-- **Every step of a dispose is one of these.** -/
theorem Disposing.goes_of_step {stage next : Disposing}
    (stepped : stage.step caller s = some (t, next)) : stage.Goes caller s t next := by
  cases stage with
  | checking =>
    rw [step] at stepped
    split at stepped <;> rename_i phase
    · cases stepped
      exact .already phase
    · split at stepped <;> rename_i busy <;> cases stepped <;>
        simp only [Bool.or_eq_true, decide_eq_true_eq, not_or, Bool.not_eq_true] at busy
      · exact .busy phase busy
      · exact .free phase busy.1 busy.2
  | aborting inner =>
    rcases step_aborting stepped with ⟨result, rfl, rfl, rfl⟩ | ⟨later, same, rfl⟩
    · exact .aborted result
    · exact .abort inner later t same
  | moving =>
    rw [step] at stepped
    rcases s.moveTo_cases .disposed with ⟨leads, moved⟩ | ⟨leads, moved⟩ <;>
      rw [moved] at stepped <;> cases stepped
    · exact .move leads
    · exact .stay leads
  | closing =>
    cases stepped
    exact .close
  | cancelling =>
    cases stepped
    exact .cancel
  | draining =>
    cases stepped
    unfold Session.drainUnstarted
    split <;> rename_i driving
    · exact .drain driving
    · exact .leave driving
  | awaitingDriver =>
    rw [step] at stepped
    split at stepped <;> rename_i ended <;> cases stepped
    exact .driverOver ended
  | awaitingListener =>
    rw [step] at stepped
    split at stepped <;> rename_i ended <;> cases stepped
    exact .listenerOver ended
  | unbinding =>
    cases stepped
    exact .unbind
  | finished => cases stepped

/-! ### Start -/

/-- The steps of a start. -/
inductive Starting.Goes (caller : Nat) (s : Session) : Starting → Session → Starting → Prop
  | first (phase : s.phase = .notStarted) : Goes caller s .checking s .spawning
  | late (phase : s.phase = .disposed) : Goes caller s .checking s (.finished (.error .disposed))
  | again (started : s.phase ≠ .notStarted) (alive : s.phase ≠ .disposed) :
      Goes caller s .checking s (.finished (.error (.invalidTransition s.phase .ready)))
  | spawn (bound : s.bound = true) (free : s.driving = .unborn) :
      Goes caller s .spawning s.spawn .asking
  | bar (barred : s.bound = true → s.driving ≠ .unborn) :
      Goes caller s .spawning s (.finished (.error .disposed))
  | ask (opened : s.queue.closed = false) : Goes caller s .asking { s with
      lastId := s.lastId + 1
      queue := ⟨s.queue.items ++ [⟨s.lastId + 1, .startup s.fallback⟩], false⟩ }
      (.awaiting (s.lastId + 1))
  | refuse (closed : s.queue.closed = true) :
      Goes caller s .asking { s with lastId := s.lastId + 1 } (.finished (.error s.lateRefusal))
  | hear (id : Nat) (release : Release) (found : s.result? id = some (.ok (.release release))) :
      Goes caller s (.awaiting id) s (.choosing release)
  | miss (id : Nat) (answer : Answer) (found : s.result? id = some (.ok answer))
      (other : ∀ release, answer ≠ .release release) :
      Goes caller s (.awaiting id) s (.failing .abandoned .checking)
  | lose (id : Nat) (error : SessionFailure) (found : s.result? id = some (.error error)) :
      Goes caller s (.awaiting id) s (.failing error .checking)
  | choose (release : Release) (dialect : Dialect)
      (known : Dialect.ofVersion release.version = .ok dialect) :
      Goes caller s (.choosing release) s (.recording dialect release)
  | reject (release : Release) (error : SessionFailure)
      (unknown : Dialect.ofVersion release.version = .error error) :
      Goes caller s (.choosing release) s (.failing error .checking)
  | record (dialect : Dialect) (release : Release) : Goes caller s (.recording dialect release)
      { s with dialect := some dialect, details := some release } (.moving release)
  | move (release : Release) (leads : s.phase.leadsTo .ready = true) :
      Goes caller s (.moving release) { s with phase := .ready } (.finished (.ok release))
  | stay (release : Release) (leads : s.phase.leadsTo .ready = false) :
      Goes caller s (.moving release) s (.finished (.error (.invalidTransition s.phase .ready)))
  | dispose (error : SessionFailure) (inner later : Disposing) (t : Session)
      (stepped : inner.step caller s = some (t, later)) :
      Goes caller s (.failing error inner) t (.failing error later)
  | disposed (error : SessionFailure) :
      Goes caller s (.failing error .finished) s (.finished (.error error))

/-- A failed start takes a step of its dispose, or goes on behind it. -/
theorem Starting.step_failing {error : SessionFailure} {inner : Disposing} {next : Starting}
    (stepped : (failing error inner).step caller s = some (t, next)) :
    (inner = .finished ∧ t = s ∧ next = finished (.error error)) ∨
      ∃ later, inner.step caller s = some (t, later) ∧ next = failing error later := by
  by_cases concluded : inner = .finished
  · subst concluded
    cases stepped
    exact .inl ⟨rfl, rfl, rfl⟩
  · rw [step] at stepped
    · obtain ⟨⟨u, later⟩, same, whole⟩ := Option.map_eq_some_iff.mp stepped
      cases whole
      exact .inr ⟨later, same, rfl⟩
    · exact concluded

/-- **Every step of a start is one of these.** -/
theorem Starting.goes_of_step {stage next : Starting}
    (stepped : stage.step caller s = some (t, next)) : stage.Goes caller s t next := by
  cases stage with
  | checking =>
    rw [step] at stepped
    split at stepped <;> cases stepped
    · exact .first ‹_›
    · exact .late ‹_›
    · exact .again ‹_› ‹_›
  | spawning =>
    rw [step] at stepped
    split at stepped <;> cases stepped
    · exact .spawn ‹_› ‹_›
    · rename_i barred
      exact .bar barred
  | asking =>
    rw [step] at stepped
    rcases s.push_cases (.startup s.fallback) with ⟨opened, pushed⟩ | ⟨closed, pushed⟩ <;>
      rw [pushed] at stepped <;> cases stepped
    · exact .ask opened
    · exact .refuse closed
  | awaiting id =>
    rw [step] at stepped
    split at stepped <;> cases stepped
    · exact .hear id _ ‹_›
    · rename_i other found
      exact .miss id _ found other
    · exact .lose id _ ‹_›
  | choosing release =>
    rw [step] at stepped
    split at stepped <;> cases stepped
    · exact .choose release _ ‹_›
    · exact .reject release _ ‹_›
  | recording dialect release =>
    cases stepped
    exact .record dialect release
  | moving release =>
    rw [step] at stepped
    rcases s.moveTo_cases .ready with ⟨leads, moved⟩ | ⟨leads, moved⟩ <;>
      rw [moved] at stepped <;> cases stepped
    · exact .move release leads
    · exact .stay release leads
  | failing error inner =>
    rcases step_failing stepped with ⟨rfl, rfl, rfl⟩ | ⟨later, same, rfl⟩
    · exact .disposed error
    · exact .dispose error inner later t same
  | finished result => cases stepped

/-! ### Requests and nested executions -/

/-- The steps of a submission. -/
inductive Submitting.Goes (payload : Payload) (s : Session) :
    Submitting → Session → Submitting → Prop
  | letIn (accepts : s.phase.accepts = true) : Goes payload s .checking s .pushing
  | bar (refuses : s.phase.accepts = false) :
      Goes payload s .checking s (.finished (.error s.phase.refusal))
  | push (opened : s.queue.closed = false) : Goes payload s .pushing { s with
      lastId := s.lastId + 1
      queue := ⟨s.queue.items ++ [⟨s.lastId + 1, payload⟩], false⟩ } (.finished (.ok (s.lastId + 1)))
  | refuse (closed : s.queue.closed = true) : Goes payload s .pushing
      { s with lastId := s.lastId + 1 } (.finished (.error s.lateRefusal))

/-- **Every step of a submission is one of these.** -/
theorem Submitting.goes_of_step {payload : Payload} {stage next : Submitting}
    (stepped : stage.step payload s = some (t, next)) : stage.Goes payload s t next := by
  cases stage with
  | checking =>
    cases stepped
    cases accepts : s.phase.accepts with
    | true => exact .letIn accepts
    | false => exact .bar accepts
  | pushing =>
    rw [step] at stepped
    rcases s.push_cases payload with ⟨opened, pushed⟩ | ⟨closed, pushed⟩ <;>
      rw [pushed] at stepped <;> cases stepped
    · exact .push opened
    · exact .refuse closed
  | finished result => cases stepped

/-- The steps of a nested execution. -/
inductive Nesting.Goes (caller : Nat) (pipeline : Pipeline) (shape : Shape) (s : Session) :
    Nesting → Session → Nesting → Prop
  | bind (dialect : Dialect) (bound : s.boundDialect = .ok dialect) :
      Goes caller pipeline shape s .binding s (.looking dialect)
  | unbound (error : SessionFailure) (unbound : s.boundDialect = .error error) :
      Goes caller pipeline shape s .binding s (.finished (.error error))
  | paused (dialect : Dialect) (paused : s.standing.isPaused = true) :
      Goes caller pipeline shape s (.looking dialect) s (.entering dialect)
  | active (dialect : Dialect) (active : s.standing.isPaused = false) :
      Goes caller pipeline shape s (.looking dialect) s (.finished (.error .notPaused))
  | enter (dialect : Dialect) :
      Goes caller pipeline shape s (.entering dialect) (s.enterGate caller) (.relooking dialect)
  | still (dialect : Dialect) (held : Session.holds s.gate caller = true)
      (paused : s.standing.isPaused = true) :
      Goes caller pipeline shape s (.relooking dialect) s (.posting dialect)
  | missed (dialect : Dialect) (held : Session.holds s.gate caller = true)
      (active : s.standing.isPaused = false) :
      Goes caller pipeline shape s (.relooking dialect) s (.leaving (.error .notPaused))
  | post (dialect : Dialect) (ticket : Nat) (hosted : HostedEngine)
      (posted : s.hosted.command (dialect.nestedPipeline pipeline) = .ok (ticket, hosted)) :
      Goes caller pipeline shape s (.posting dialect) { s with hosted := hosted } (.awaiting ticket)
  | refuse (dialect : Dialect) (error : SessionFailure)
      (refused : s.hosted.command (dialect.nestedPipeline pipeline) = .error error) :
      Goes caller pipeline shape s (.posting dialect) s (.leaving (.error error))
  | answer (ticket : Nat) (values : List Value)
      (found : s.hosted.engine.result? ticket = some (.ok values)) :
      Goes caller pipeline shape s (.awaiting ticket) s
        (.leaving ((decoded (some shape) values).mapError Shortfall.failure))
  | fail (ticket : Nat) (error : EngineFailure)
      (found : s.hosted.engine.result? ticket = some (.error error)) :
      Goes caller pipeline shape s (.awaiting ticket) s (.leaving (.error (.execution error)))
  | leave (result : Result) :
      Goes caller pipeline shape s (.leaving result) (s.leaveGate caller) (.finished result)

/-- **Every step of a nested execution is one of these.** -/
theorem Nesting.goes_of_step {pipeline : Pipeline} {shape : Shape} {stage next : Nesting}
    (stepped : stage.step caller pipeline shape s = some (t, next)) :
    stage.Goes caller pipeline shape s t next := by
  cases stage with
  | binding =>
    rw [step] at stepped
    split at stepped <;> cases stepped
    · exact .bind _ ‹_›
    · exact .unbound _ ‹_›
  | looking dialect =>
    cases stepped
    cases paused : s.standing.isPaused with
    | true => exact .paused dialect paused
    | false => exact .active dialect paused
  | entering dialect =>
    cases stepped
    exact .enter dialect
  | relooking dialect =>
    obtain ⟨held, stepped⟩ := Session.holds_of_stage stepped
    cases stepped
    cases paused : s.standing.isPaused with
    | true => exact .still dialect held paused
    | false => exact .missed dialect held paused
  | posting dialect =>
    rw [step] at stepped
    split at stepped <;> cases stepped
    · exact .post dialect _ _ ‹_›
    · exact .refuse dialect _ ‹_›
  | awaiting ticket =>
    rw [step] at stepped
    split at stepped <;> cases stepped
    · exact .answer ticket _ ‹_›
    · exact .fail ticket _ ‹_›
  | leaving result =>
    cases stepped
    exact .leave result
  | finished result => cases stepped

end

/-! ### Calls -/

/-- The calls that have come to their ends, and what they return. A request for a pause comes to no end
before it returns. -/
inductive Call.Returns : Call → Except SessionFailure Reply → Prop
  | start (result : Except SessionFailure Release) :
      Returns (.start (.inside (.finished result))) (result.map .release)
  | submit (payload : Payload) (result : Except SessionFailure Nat) :
      Returns (.submit payload (.finished result)) (result.map .accepted)
  | nested (pipeline : Pipeline) (shape : Shape) (result : Result) :
      Returns (.nested pipeline shape (.finished result)) (result.map .answer)
  | resume (verb : Verb) (result : Except SessionFailure Unit) :
      Returns (.resume verb (.finished result)) (result.map fun _ => .done)
  | abort (result : Except SessionFailure Unit) :
      Returns (.abort (.inside (.finished result))) (result.map fun _ => .done)
  | dispose : Returns (.dispose (.inside .finished)) (.ok .done)

/-- The calls that stand in line for the lifecycle lock, and the stages at which they do. -/
inductive Call.LinesUp : Call → Call → Prop
  | start : LinesUp (.start .entering) (.start (.inside .checking))
  | abort : LinesUp (.abort .entering) (.abort (.inside .checking))
  | dispose : LinesUp (.dispose .entering) (.dispose (.inside .checking))

/-- The stages of calls, with what the session is like behind them. Those of starts, aborts and disposes
are behind the lifecycle lock. -/
inductive Call.Goes (caller : Nat) (s : Session) : Call → Session → Call → Prop
  | start (stage next : Starting) (t : Session) (held : Session.holds s.lifecycle caller = true)
      (stepped : stage.step caller s = some (t, next)) :
      Goes caller s (.start (.inside stage)) t (.start (.inside next))
  | submit (payload : Payload) (stage next : Submitting) (t : Session)
      (stepped : stage.step payload s = some (t, next)) :
      Goes caller s (.submit payload stage) t (.submit payload next)
  | nested (pipeline : Pipeline) (shape : Shape) (stage next : Nesting) (t : Session)
      (stepped : stage.step caller pipeline shape s = some (t, next)) :
      Goes caller s (.nested pipeline shape stage) t (.nested pipeline shape next)
  | resume (verb : Verb) (stage next : Resuming) (t : Session)
      (stepped : stage.step caller verb s = some (t, next)) :
      Goes caller s (.resume verb stage) t (.resume verb next)
  | abort (stage next : Aborting) (t : Session) (held : Session.holds s.lifecycle caller = true)
      (stepped : stage.step caller s = some (t, next)) :
      Goes caller s (.abort (.inside stage)) t (.abort (.inside next))
  | dispose (stage next : Disposing) (t : Session) (held : Session.holds s.lifecycle caller = true)
      (stepped : stage.step caller s = some (t, next)) :
      Goes caller s (.dispose (.inside stage)) t (.dispose (.inside next))

namespace Session

variable {s t : Session} {caller : Nat}

/-- The steps of the call with a number: it takes its place in line, goes on with a stage, or returns. A
request for a pause does what it does and returns at once. -/
inductive Takes (s : Session) (caller : Nat) (call : Call) : Session → Prop
  | line (later : Call) (lines : call.LinesUp later) :
      Takes s caller call ((s.enterLifecycle caller).proceed caller later)
  | stage (u : Session) (later : Call) (goes : call.Goes caller s u later) :
      Takes s caller call (u.proceed caller later)
  | reply (result : Except SessionFailure Reply) (returns : call.Returns result) :
      Takes s caller call (s.giveBack caller result)
  | pause (asked : call = .pause) : Takes s caller call
      (s.pauseEngine.1.giveBack caller (s.pauseEngine.2.map fun _ => .done))

/-- The next stage of a call. -/
theorem stage_of_proceedTo {σ : Type} {build : σ → Call} {o : Option (Session × σ)}
    (moved : proceedTo caller build o = some t) :
    ∃ u stage, o = some (u, stage) ∧ t = u.proceed caller (build stage) := by
  obtain ⟨⟨u, stage⟩, same, rfl⟩ := Option.map_eq_some_iff.mp moved
  exact ⟨u, stage, same, rfl⟩

theorem takes_of_advanceStart {stage : Guarded Starting}
    (moved : s.advanceStart caller stage = some t) : s.Takes caller (.start stage) t := by
  cases stage with
  | entering =>
    cases moved
    exact .line _ .start
  | inside stage =>
    by_cases concluded : ∃ result, stage = .finished result
    · obtain ⟨result, rfl⟩ := concluded
      cases moved
      exact .reply _ (.start result)
    · rw [advanceStart] at moved
      · obtain ⟨held, moved⟩ := holds_of_stage moved
        obtain ⟨u, next, stepped, rfl⟩ := stage_of_proceedTo moved
        exact .stage u _ (.start stage next u held stepped)
      · exact fun result same => concluded ⟨result, same⟩

theorem takes_of_advanceAbort {stage : Guarded Aborting}
    (moved : s.advanceAbort caller stage = some t) : s.Takes caller (.abort stage) t := by
  cases stage with
  | entering =>
    cases moved
    exact .line _ .abort
  | inside stage =>
    by_cases concluded : ∃ result, stage = .finished result
    · obtain ⟨result, rfl⟩ := concluded
      cases moved
      exact .reply _ (.abort result)
    · rw [advanceAbort] at moved
      · obtain ⟨held, moved⟩ := holds_of_stage moved
        obtain ⟨u, next, stepped, rfl⟩ := stage_of_proceedTo moved
        exact .stage u _ (.abort stage next u held stepped)
      · exact fun result same => concluded ⟨result, same⟩

theorem takes_of_advanceDispose {stage : Guarded Disposing}
    (moved : s.advanceDispose caller stage = some t) : s.Takes caller (.dispose stage) t := by
  cases stage with
  | entering =>
    cases moved
    exact .line _ .dispose
  | inside stage =>
    by_cases concluded : stage = .finished
    · subst concluded
      cases moved
      exact .reply _ .dispose
    · rw [advanceDispose] at moved
      · obtain ⟨held, moved⟩ := holds_of_stage moved
        obtain ⟨u, next, stepped, rfl⟩ := stage_of_proceedTo moved
        exact .stage u _ (.dispose stage next u held stepped)
      · exact concluded

/-- **Every step of a call is one of these.** -/
theorem takes_of_advanceCall {call : Call} (moved : s.advanceCall caller call = some t) :
    s.Takes caller call t := by
  cases call with
  | start stage => exact takes_of_advanceStart moved
  | submit payload stage =>
    by_cases concluded : ∃ result, stage = .finished result
    · obtain ⟨result, rfl⟩ := concluded
      cases moved
      exact .reply _ (.submit payload result)
    · rw [advanceCall] at moved
      · obtain ⟨u, next, stepped, rfl⟩ := stage_of_proceedTo moved
        exact .stage u _ (.submit payload stage next u stepped)
      · exact fun result same => concluded ⟨result, same⟩
  | nested pipeline shape stage =>
    by_cases concluded : ∃ result, stage = .finished result
    · obtain ⟨result, rfl⟩ := concluded
      cases moved
      exact .reply _ (.nested pipeline shape result)
    · rw [advanceCall] at moved
      · obtain ⟨u, next, stepped, rfl⟩ := stage_of_proceedTo moved
        exact .stage u _ (.nested pipeline shape stage next u stepped)
      · exact fun result same => concluded ⟨result, same⟩
  | pause =>
    cases moved
    exact .pause rfl
  | resume verb stage =>
    by_cases concluded : ∃ result, stage = .finished result
    · obtain ⟨result, rfl⟩ := concluded
      cases moved
      exact .reply _ (.resume verb result)
    · rw [advanceCall] at moved
      · obtain ⟨u, next, stepped, rfl⟩ := stage_of_proceedTo moved
        exact .stage u _ (.resume verb stage next u stepped)
      · exact fun result same => concluded ⟨result, same⟩
  | abort stage => exact takes_of_advanceAbort moved
  | dispose stage => exact takes_of_advanceDispose moved

end Session

/-! ### Calls that do not wait any longer -/

/-- A dispose that does not wait any longer, for the driver or for the listener. -/
inductive Disposing.Expires : Disposing → Disposing → Prop
  | driver : Expires .awaitingDriver .awaitingListener
  | listener : Expires .awaitingListener .unbinding

/-- A call that does not wait any longer: a dispose, or the dispose of a failed start. -/
inductive Call.Expires : Call → Call → Prop
  | dispose {now later : Disposing} (expires : now.Expires later) :
      Expires (.dispose (.inside now)) (.dispose (.inside later))
  | start (error : SessionFailure) {now later : Disposing} (expires : now.Expires later) :
      Expires (.start (.inside (.failing error now))) (.start (.inside (.failing error later)))

theorem Disposing.expires_of_expire {now later : Disposing} (expired : now.expire = some later) :
    now.Expires later := by
  cases now <;> cases expired
  · exact .driver
  · exact .listener

namespace Session

theorem mem_of_lookup {α : Type} {key : Nat} {value : α} {entries : List (Nat × α)}
    (found : entries.lookup key = some value) : (key, value) ∈ entries := by
  obtain ⟨before, behind, same, _⟩ := List.lookup_eq_some_iff.mp found
  rw [same]
  exact List.mem_append_right before List.mem_cons_self

variable {s t : Session} {caller : Nat}

/-- **Nothing else comes of a call that does not wait any longer.** -/
theorem expires_of_expire (moved : s.expire caller = some t) :
    ∃ call later, (caller, call) ∈ s.calls ∧ call.Expires later ∧ t = s.proceed caller later := by
  unfold expire at moved
  split at moved
  · rename_i stage found
    obtain ⟨later, expired, rfl⟩ := Option.map_eq_some_iff.mp moved
    exact ⟨_, _, mem_of_lookup found, .dispose (Disposing.expires_of_expire expired), rfl⟩
  · rename_i stage found
    obtain ⟨later, expired, rfl⟩ := Option.map_eq_some_iff.mp moved
    cases stage with
    | failing error inner =>
      obtain ⟨next, ended, rfl⟩ := Option.map_eq_some_iff.mp expired
      exact ⟨_, _, mem_of_lookup found, .start error (Disposing.expires_of_expire ended), rfl⟩
    | _ => cases expired
  · cases moved

end Session

end ShellSession
