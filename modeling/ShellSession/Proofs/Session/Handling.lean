/-
**How requests are handled.**

All that happens to requests happens at a session's desk: the driver, the interpreter thread and the
calls change it in a few ways, and nobody else does.

* `Routine.Told`, `Routine.Hears`: the stages of an attempt, with what the engine says on the way;
* `Handling`: the changes of a desk;
* `Session.Drives`, `Session.Listens`: what a step of the driver and one of the listener come to;
* `Session.Moves`: what a move comes to;
* `Session.after_handling`: **every move changes the desk in one of these ways, or not at all**.
-/

import ShellSession.Proofs.Session.Advance

namespace ShellSession

/-! ### Stages of an attempt -/

namespace Routine

/-- One stage of a routine behind another, with what the engine says in between, where it is asked
and answers at once. -/
inductive Told : Routine → Option Said → Routine → Prop
  | report (lines : List Line) (conclusion : Conclusion) :
      Told (.report lines conclusion) none (.complete conclusion)
  | refused (pipeline : Pipeline) (next : Except EngineFailure (List Value) → Routine)
      (error : EngineFailure) :
      Told (.invoke pipeline next) (some (.refused pipeline error)) (next (.error error))
  | variableIs (name : String) (next : Except EngineFailure (Option Value) → Routine)
      (answer : Except EngineFailure (Option Value)) :
      Told (.askVariable name next) (some (.variableIs name answer)) (next answer)
  | releaseIs (next : Except EngineFailure Release → Routine)
      (answer : Except EngineFailure Release) :
      Told (.askRelease next) (some (.releaseIs answer)) (next answer)

/-- A routine comes to a stage when it hears what the engine says. With a run that the engine begins,
it goes on with what the run under that ticket has come to. -/
inductive Hears (routine : Routine) : List Said → Routine → Prop
  | here : Hears routine [] routine
  | told {said : List Said} {stage later : Routine} {answer : Option Said} :
      Hears routine said stage → stage.Told answer later →
        Hears routine (said ++ answer.toList) later
  | ended {said : List Said} {pipeline : Pipeline}
      {next : Except EngineFailure (List Value) → Routine} (ticket : Nat)
      (outcome : Except EngineFailure (List Value)) : Hears routine said (.invoke pipeline next) →
        Hears routine (said ++ [.begun pipeline ticket, .ended ticket outcome]) (next outcome)

/-- The result of a routine that has come to an end other than a busy engine. -/
def result? : Routine → Option Result
  | complete conclusion => some (conclusion.mapError Shortfall.failure)
  | panic payload => some (.error (.panicked payload.message))
  | _ => none

end Routine

/-! ### Changes of a desk -/

/-- The requests turned away, with their results. -/
def rejections (requests : List Request) : List (Nat × Result) :=
  requests.map fun request => (request.id, .error .disposed)

/-- The changes of a desk, with what the engine says in them. -/
inductive Handling (d : Desk) : Option Said → Desk → Prop
  | idle : Handling d none d
  | spawn (free : d.driving = .unborn) : Handling d none { d with driving := .waiting }
  | accept (payload : Payload) (opened : d.queue.closed = false) : Handling d none { d with
      lastId := d.lastId + 1
      queue := ⟨d.queue.items ++ [⟨d.lastId + 1, payload⟩], false⟩ }
  | refuse (closed : d.queue.closed = true) : Handling d none { d with lastId := d.lastId + 1 }
  | close : Handling d none { d with queue := d.queue.close }
  | fire : Handling d none { d with shutdown := true }
  | turnAway (free : d.driving = .unborn ∨ d.driving = .closing) : Handling d none { d with
      results := d.results ++ rejections d.queue.items
      queue := ⟨[], true⟩
      driving := .exited }
  | withdraw (waiting : d.driving = .waiting) (fired : d.shutdown = true) :
      Handling d none { d with driving := .closing }
  | turn (waiting : d.driving = .waiting) (held : d.shutdown = false) :
      Handling d none { d with driving := .looking }
  | take (request : Request) (rest : List Request) (looking : d.driving = .looking)
      (queued : d.queue.items = request :: rest) :
      Handling d none { d with queue := ⟨rest, d.queue.closed⟩, driving := .gated request }
  | conclude (looking : d.driving = .looking) (empty : d.queue.items = [])
      (closed : d.queue.closed = true) : Handling d none { d with driving := .closing }
  | wait (looking : d.driving = .looking) (empty : d.queue.items = [])
      (opened : d.queue.closed = false) : Handling d none { d with driving := .waiting }
  | reject (request : Request) (gated : d.driving = .gated request) (fired : d.shutdown = true) :
      Handling d none { d with
        results := d.results ++ [(request.id, .error .disposed)]
        driving := .closing }
  | mark (request : Request) (gated : d.driving = .gated request) (held : d.shutdown = false) :
      Handling d none { d with driving := .marking request }
  | launch (request : Request) (marking : d.driving = .marking request) : Handling d none { d with
      driving := .attempting request 1
      working := .working request (request.payload.attempt 1) }
  | relaunch (request : Request) (attempts : Nat) (regated : d.driving = .regated request attempts)
      (held : d.shutdown = false) : Handling d none { d with
        driving := .attempting request (attempts + 1)
        working := .working request (request.payload.attempt (attempts + 1)) }
  | hear (request : Request) (attempts : Nat) (attempting : d.driving = .attempting request attempts)
      (replying : d.working = .replying true) :
      Handling d none { d with working := .resting, driving := .judging request attempts }
  | leave (request : Request) (attempts : Nat)
      (attempting : d.driving = .attempting request attempts)
      (replying : d.working = .replying false) :
      Handling d none { d with working := .resting, driving := .unmarking }
  | exhaust (request : Request) (attempts : Nat) (judging : d.driving = .judging request attempts)
      (concluded : d.retry.givesUpAfter attempts = true) : Handling d none { d with
        results := d.results ++ [(request.id, .error (.retriesExhausted attempts))]
        driving := .unmarking }
  | backOff (request : Request) (attempts signals : Nat)
      (judging : d.driving = .judging request attempts)
      (more : d.retry.givesUpAfter attempts = false) :
      Handling d none { d with driving := .backing request attempts signals }
  | retry (request : Request) (attempts signals : Nat)
      (backing : d.driving = .backing request attempts signals) (held : d.shutdown = false) :
      Handling d none { d with driving := .regated request attempts }
  | abandon (request : Request) (attempts : Nat)
      (retrying : (∃ signals, d.driving = .backing request attempts signals) ∨
        d.driving = .regated request attempts)
      (fired : d.shutdown = true) : Handling d none { d with
        results := d.results ++ [(request.id, .error .disposed)]
        driving := .unmarking }
  | unmark (unmarking : d.driving = .unmarking) : Handling d none { d with driving := .waiting }
  | holdBack (request : Request) (working : d.working = .working request .busy) :
      Handling d none { d with working := .replying true }
  | settle (request : Request) (routine : Routine) (result : Result)
      (working : d.working = .working request routine) (ended : routine.result? = some result) :
      Handling d none { d with
        results := d.results ++ [(request.id, result)]
        working := .replying false }
  | proceed (request : Request) (routine later : Routine) (said : Option Said)
      (working : d.working = .working request routine) (told : routine.Told said later) :
      Handling d said { d with working := .working request later }
  | ask (request : Request) (pipeline : Pipeline) (ticket : Nat)
      (next : Except EngineFailure (List Value) → Routine)
      (working : d.working = .working request (.invoke pipeline next)) :
      Handling d (some (.begun pipeline ticket))
        { d with working := .awaiting request ticket next }
  | receive (request : Request) (ticket : Nat)
      (next : Except EngineFailure (List Value) → Routine)
      (outcome : Except EngineFailure (List Value))
      (awaiting : d.working = .awaiting request ticket next) :
      Handling d (some (.ended ticket outcome)) { d with working := .working request (next outcome) }

/-! ### Steps of the driver -/

namespace Session

variable {s t : Session}

theorem exchange_eq (s : Session) (source target : Phase) : s.exchange source target =
    { s with phase := if s.phase = source then target else s.phase } := by
  unfold exchange
  split <;> rfl

/-- What a step of the driver comes to. -/
inductive Drives (s : Session) : Session → Prop
  | withdraw (waiting : s.driving = .waiting) (fired : s.shutdown = true) :
      Drives s { s with driving := .closing }
  | turn (waiting : s.driving = .waiting) (held : s.shutdown = false)
      (sought : s.queue.items ≠ [] ∨ s.queue.closed = true) : Drives s { s with driving := .looking }
  | take (request : Request) (rest : List Request) (looking : s.driving = .looking)
      (queued : s.queue.items = request :: rest) :
      Drives s { s with queue := ⟨rest, s.queue.closed⟩, driving := .gated request }
  | conclude (looking : s.driving = .looking) (empty : s.queue.items = [])
      (closed : s.queue.closed = true) : Drives s { s with driving := .closing }
  | wait (looking : s.driving = .looking) (empty : s.queue.items = [])
      (opened : s.queue.closed = false) : Drives s { s with driving := .waiting }
  | reject (request : Request) (gated : s.driving = .gated request) (fired : s.shutdown = true) :
      Drives s (s.giveUp request .closing)
  | mark (request : Request) (gated : s.driving = .gated request) (held : s.shutdown = false)
      (free : s.standing.isPaused = false) : Drives s { s with driving := .marking request }
  | launch (request : Request) (marking : s.driving = .marking request) : Drives s { s with
      phase := if s.phase = .ready then .running else s.phase
      driving := .attempting request 1
      working := .working request (request.payload.attempt 1) }
  | relaunch (request : Request) (attempts : Nat) (regated : s.driving = .regated request attempts)
      (held : s.shutdown = false) (free : s.standing.isPaused = false) :
      Drives s (s.launch request (attempts + 1))
  | hear (request : Request) (attempts : Nat) (attempting : s.driving = .attempting request attempts)
      (replying : s.working = .replying true) :
      Drives s { s with working := .resting, driving := .judging request attempts }
  | leave (request : Request) (attempts : Nat)
      (attempting : s.driving = .attempting request attempts)
      (replying : s.working = .replying false) :
      Drives s { s with working := .resting, driving := .unmarking }
  | exhaust (request : Request) (attempts : Nat) (judging : s.driving = .judging request attempts)
      (concluded : s.settings.retry.givesUpAfter attempts = true) :
      Drives s { s.complete request (.error (.retriesExhausted attempts)) with driving := .unmarking }
  | backOff (request : Request) (attempts : Nat) (judging : s.driving = .judging request attempts)
      (more : s.settings.retry.givesUpAfter attempts = false) :
      Drives s { s with driving := .backing request attempts s.signals }
  | retry (request : Request) (attempts signals : Nat)
      (backing : s.driving = .backing request attempts signals) (held : s.shutdown = false)
      (signalled : s.signals ≠ signals) : Drives s { s with driving := .regated request attempts }
  | abandon (request : Request) (attempts : Nat)
      (retrying : (∃ signals, s.driving = .backing request attempts signals) ∨
        s.driving = .regated request attempts)
      (fired : s.shutdown = true) : Drives s (s.giveUp request .unmarking)
  | unmark (unmarking : s.driving = .unmarking) : Drives s { s with
      phase := if s.phase = .running then .ready else s.phase
      driving := .waiting }
  | exit (closing : s.driving = .closing) : Drives s s.turnAwayQueued

theorem drives_of_await (waiting : s.driving = .waiting) (moved : s.await = some t) : s.Drives t := by
  unfold await at moved
  split at moved
  · rename_i fired
    cases moved
    exact .withdraw waiting fired
  · rename_i held
    split at moved <;> cases moved
    rename_i sought
    exact .turn waiting (eq_false_of_ne_true held)
      (by simpa [Classical.or_iff_not_imp_left] using sought)

theorem drives_dequeue (looking : s.driving = .looking) : s.Drives s.dequeue := by
  unfold dequeue Backlog.take
  cases queued : s.queue.items with
  | nil =>
    cases closed : s.queue.closed with
    | true => exact .conclude looking queued closed
    | false => exact .wait looking queued closed
  | cons request rest => exact .take request rest looking queued

theorem drives_judge {request : Request} {attempts : Nat}
    (judging : s.driving = .judging request attempts) : s.Drives (s.judge request attempts) := by
  unfold judge
  cases concluded : s.settings.retry.givesUpAfter attempts with
  | true => exact .exhaust request attempts judging concluded
  | false => exact .backOff request attempts judging concluded

/-- **Every step of the driver is one of these.** -/
theorem drives_of_drive (moved : s.drive = some t) : s.Drives t := by
  unfold drive at moved
  cases driving : s.driving <;> simp only [driving] at moved
  case unborn => cases moved
  case waiting => exact drives_of_await driving moved
  case looking =>
    cases moved
    exact drives_dequeue driving
  case gated request =>
    split at moved
    · rename_i fired
      cases moved
      exact .reject request driving fired
    · rename_i held
      split at moved <;> cases moved
      rename_i free
      exact .mark request driving (eq_false_of_ne_true held) (eq_false_of_ne_true free)
  case marking request =>
    cases moved
    rw [exchange_eq]
    exact .launch request driving
  case attempting request attempts =>
    split at moved <;> cases moved <;> rename_i replying
    · exact .hear request attempts driving replying
    · exact .leave request attempts driving replying
  case judging request attempts =>
    cases moved
    exact drives_judge driving
  case backing request attempts signals =>
    split at moved
    · rename_i fired
      cases moved
      exact .abandon request attempts (.inl ⟨signals, driving⟩) fired
    · rename_i held
      split at moved <;> cases moved
      rename_i signalled
      exact .retry request attempts signals driving (eq_false_of_ne_true held) signalled
  case regated request attempts =>
    split at moved
    · rename_i fired
      cases moved
      exact .abandon request attempts (.inr driving) fired
    · rename_i held
      split at moved <;> cases moved
      rename_i free
      exact .relaunch request attempts driving (eq_false_of_ne_true held) (eq_false_of_ne_true free)
  case unmarking =>
    cases moved
    rw [exchange_eq]
    exact .unmark driving
  case closing =>
    cases moved
    exact .exit driving
  case exited => cases moved

end Session

/-! ### Moves of a session -/

theorem Effect.handling {s t : Session} {order : Order} {before after : Bool}
    (effect : Effect s order before t after) : Handling s.desk none t.desk := by
  cases effect with
  | spawn asked free bound => exact .spawn free
  | accept payload asked opened => exact .accept payload opened
  | refuse payload asked closed => exact .refuse closed
  | close asked => exact .close
  | cancel asked => exact .fire
  | drain asked free => exact .turnAway (.inl free)
  | _ => exact .idle

namespace Session

variable {s t : Session}

/-- A desk that is left as it was. -/
theorem handling_idle (same : t.desk = s.desk) : Handling s.desk none t.desk := by
  rw [same]
  exact .idle

/-- The bookkeeping of calls does not concern the desk. -/
theorem Books.desk (books : s.Books t) : t.desk = s.desk := by
  rw [books]
  rfl

theorem advance_handling {caller : Nat} (moved : s.advance caller = some t) :
    Handling s.desk none t.desk := by
  obtain ⟨call, next, _, advances⟩ := advance_advances moved
  obtain ⟨u, effect, books⟩ := advances.effect
  rw [books.desk]
  exact effect.handling

/-- A call that does not wait any longer has changed the bookkeeping only. -/
theorem expire_books {caller : Nat} (moved : s.expire caller = some t) : s.Books t := by
  obtain ⟨_, _, _, _, rfl⟩ := expires_of_expire moved
  rfl

theorem drive_handling (moved : s.drive = some t) : Handling s.desk none t.desk := by
  cases drives_of_drive moved with
  | withdraw waiting fired => exact .withdraw waiting fired
  | turn waiting held _ => exact .turn waiting held
  | take request rest looking queued => exact .take request rest looking queued
  | conclude looking empty closed => exact .conclude looking empty closed
  | wait looking empty opened => exact .wait looking empty opened
  | reject request gated fired => exact .reject request gated fired
  | mark request gated held _ => exact .mark request gated held
  | launch request marking => exact .launch request marking
  | relaunch request attempts regated held _ => exact .relaunch request attempts regated held
  | hear request attempts attempting replying => exact .hear request attempts attempting replying
  | leave request attempts attempting replying => exact .leave request attempts attempting replying
  | exhaust request attempts judging concluded => exact .exhaust request attempts judging concluded
  | backOff request attempts judging more => exact .backOff request attempts s.signals judging more
  | retry request attempts signals backing held _ =>
    exact .retry request attempts signals backing held
  | abandon request attempts retrying fired => exact .abandon request attempts retrying fired
  | unmark unmarking => exact .unmark unmarking
  | exit closing => exact .turnAway (.inr closing)

theorem ring_handling (moved : s.ring = some t) : Handling s.desk none t.desk := by
  unfold ring at moved
  split at moved
  · rename_i request attempts signals backing
    split at moved
    · cases moved
    · rename_i unfired
      cases moved
      exact Handling.retry (d := s.desk) request attempts signals backing
        (eq_false_of_ne_true unfired)
  · cases moved

/-- A step along a routine, with the answer of the engine where the routine asks it. -/
theorem follow_handling {request : Request} {routine : Routine}
    (working : s.working = .working request routine) :
    Handling s.desk s.heard? (s.follow request routine).desk := by
  unfold heard?
  rw [working]
  have proceed : ∀ {said : Option Said} {later : Routine}, routine.Told said later →
      Handling s.desk said { s.desk with working := .working request later } := fun told =>
    .proceed request routine _ _ working told
  cases routine with
  | busy => exact .holdBack request working
  | complete conclusion => exact .settle request _ _ working rfl
  | panic payload => exact .settle request _ _ working rfl
  | report lines conclusion => exact proceed (.report lines conclusion)
  | invoke pipeline next =>
    rw [follow]
    dsimp only
    rcases s.hosted.invoke pipeline with ⟨error | ticket, hosted⟩
    · exact proceed (.refused pipeline next error)
    · exact Handling.ask (d := s.desk) request pipeline ticket next working
  | askVariable name next => exact proceed (.variableIs name next _)
  | askRelease next => exact proceed (.releaseIs next _)

/-- A step of the thread, with what the engine says in it. -/
theorem work_handling (moved : s.work = some t) : Handling s.desk s.heard? t.desk := by
  unfold work at moved
  split at moved
  · cases moved
  · rename_i request routine working
    cases moved
    exact follow_handling working
  · rename_i request ticket next awaiting
    obtain ⟨outcome, found, rfl⟩ := Option.map_eq_some_iff.mp moved
    have heard : s.heard? = some (.ended ticket outcome) := by
      unfold heard?
      rw [awaiting]
      simp only [found, Option.map_some]
    rw [heard]
    exact .receive request ticket next outcome awaiting
  · cases moved

/-! ### What each party changes -/

/-- A step of the driver changes the desk, and marks the session as running or as ready again. The
thread is put to work at the request in hand or to rest, or left alone. -/
theorem drive_frame (moved : s.drive = some t) :
    t = { s with
      phase := t.phase, queue := t.queue, results := t.results, driving := t.driving
      working := t.working } ∧
    (t.phase = s.phase ∨ s.phase = .ready ∧ t.phase = .running ∨
      s.phase = .running ∧ t.phase = .ready) ∧
    (t.working = s.working ∨ t.working = .resting ∨
      ∃ request attempts,
        (s.driving = .marking request ∨ ∃ made, s.driving = .regated request made) ∧
          t.working = .working request (request.payload.attempt attempts)) := by
  have exchanged (source target : Phase) : (if s.phase = source then target else s.phase) = s.phase ∨
      s.phase = source ∧ (if s.phase = source then target else s.phase) = target := by
    split
    · rename_i present
      exact .inr ⟨present, rfl⟩
    · exact .inl rfl
  cases drives_of_drive moved with
  | launch request marking =>
    exact ⟨rfl, (exchanged .ready .running).imp id .inl, .inr (.inr ⟨_, _, .inl marking, rfl⟩)⟩
  | relaunch request attempts regated _ _ =>
    exact ⟨rfl, .inl rfl, .inr (.inr ⟨_, _, .inr ⟨_, regated⟩, rfl⟩)⟩
  | hear request attempts _ _ => exact ⟨rfl, .inl rfl, .inr (.inl rfl)⟩
  | leave request attempts _ _ => exact ⟨rfl, .inl rfl, .inr (.inl rfl)⟩
  | unmark _ => exact ⟨rfl, (exchanged .running .ready).imp id .inr, .inl rfl⟩
  | _ => exact ⟨rfl, .inl rfl, .inl rfl⟩

theorem drive_changes (moved : s.drive = some t) : t = { s with
    phase := t.phase, queue := t.queue, results := t.results, driving := t.driving
    working := t.working } :=
  (drive_frame moved).1

theorem drive_phase (moved : s.drive = some t) : t.phase = s.phase ∨
    s.phase = .ready ∧ t.phase = .running ∨ s.phase = .running ∧ t.phase = .ready :=
  (drive_frame moved).2.1

theorem ring_changes (moved : s.ring = some t) : t = { s with driving := t.driving } := by
  unfold ring at moved
  split at moved
  · split at moved <;> cases moved
    rfl
  · cases moved

theorem follow_changes (s : Session) (request : Request) (routine : Routine) :
    s.follow request routine = { s with
      hosted := (s.follow request routine).hosted
      output := (s.follow request routine).output
      results := (s.follow request routine).results
      working := (s.follow request routine).working } := by
  cases routine with
  | invoke pipeline next =>
    rw [follow]
    rcases s.hosted.invoke pipeline with ⟨error | ticket, hosted⟩ <;> rfl
  | _ => rfl

theorem work_changes (moved : s.work = some t) : t = { s with
    hosted := t.hosted, output := t.output, results := t.results, working := t.working } := by
  unfold work at moved
  split at moved
  · cases moved
  · cases moved
    exact follow_changes s _ _
  · obtain ⟨outcome, _, rfl⟩ := Option.map_eq_some_iff.mp moved
    rfl
  · cases moved

/-- What a step of the listener comes to: it is told to shut down; it has fallen too far behind, and
goes on with the oldest report that is left; it takes in the next report; or it publishes a stop. -/
inductive Listens (s : Session) : Session → Prop
  | quit (read : Nat) (listening : s.listening = .reading read) (fired : s.shutdown = true) :
      Listens s { s with listening := .ended }
  | skip (read : Nat) (listening : s.listening = .reading read) (live : s.shutdown = false)
      (lag : listenerCapacity < s.hosted.engine.history.size - read) :
      Listens s { s with
        signals := s.signals + 1
        listening := .reading (s.hosted.engine.history.size - listenerCapacity) }
  | take (read : Nat) (notice : Notice) (listening : s.listening = .reading read)
      (near : s.hosted.engine.history.size - read ≤ listenerCapacity)
      (found : s.hosted.engine.history[read]? = some notice) :
      Listens s (s.takeIn (read + 1) notice)
  | publish (read : Nat) (stop : Stop) (listening : s.listening = .publishing read stop) :
      Listens s { s with stops := s.stops ++ [stop], listening := .reading read }

theorem listens_of_listen (moved : s.listen = some t) : s.Listens t := by
  unfold listen at moved
  split at moved
  · cases moved
  · rename_i read listening
    dsimp only at moved
    split at moved
    · rename_i fired
      cases moved
      exact .quit read listening fired
    · rename_i held
      split at moved
      · rename_i lag
        cases moved
        exact .skip read listening (eq_false_of_ne_true held) lag
      · rename_i near
        obtain ⟨notice, found, rfl⟩ := Option.map_eq_some_iff.mp moved
        exact .take read notice listening (Nat.le_of_not_lt near) found
  · rename_i read stop listening
    cases moved
    exact .publish read stop listening
  · cases moved

theorem listen_changes (moved : s.listen = some t) : t = { s with
    listening := t.listening, standing := t.standing, signals := t.signals, stops := t.stops
    updates := t.updates } := by
  cases listens_of_listen moved with
  | take read notice listening found => cases notice <;> rfl
  | _ => rfl

theorem compute_changes (moved : s.compute = some t) : t = { s with hosted := t.hosted } := by
  obtain ⟨engine, _, rfl⟩ := Option.map_eq_some_iff.mp moved
  rfl

/-! ### Every move -/

/-- What a move comes to, told by what it may change. The calls have the books and whatever their
effects are; the driver changes the phase and the queue, the listener what the session knows of its
stops. All others change what is the engine's, the thread's or the driver's own. -/
inductive Moves (s : Session) : Move → Session → Prop
  | call {t : Session} (caller : Nat) (moved : s.advance caller = some t) :
      Moves s (.act (.call caller)) t
  | timeout {call later : Call} (caller : Nat) (mine : (caller, call) ∈ s.calls)
      (expires : call.Expires later) : Moves s (.act (.timeout caller)) (s.proceed caller later)
  | order (order : Order) : Moves s (.order order) (s.begin order.call).2
  | driver {t : Session} (moved : s.drive = some t) (same : t = { s with
      phase := t.phase, queue := t.queue, results := t.results, driving := t.driving
      working := t.working }) : Moves s (.act .driver) t
  | listener {t : Session} (moved : s.listen = some t) (same : t = { s with
      listening := t.listening, standing := t.standing, signals := t.signals, stops := t.stops
      updates := t.updates }) : Moves s (.act .listener) t
  | aside {move : Move} {t : Session} (others : ∀ caller, move ≠ .act (.call caller))
      (same : t = { s with
        hosted := t.hosted, results := t.results, driving := t.driving, working := t.working
        shutdown := t.shutdown, output := t.output }) : Moves s move t

/-- **Every move is one of these.** -/
theorem moves_of_after {move : Move} (moved : s.after move = some t) : s.Moves move t := by
  cases move with
  | act actor =>
    cases actor with
    | call caller => exact .call caller moved
    | timeout caller =>
      obtain ⟨call, later, mine, expires, rfl⟩ := expires_of_expire moved
      exact .timeout caller mine expires
    | driver => exact .driver moved (drive_changes moved)
    | listener => exact .listener moved (listen_changes moved)
    | engine => exact .aside (fun _ other => by cases other) (by rw [compute_changes moved])
    | thread => exact .aside (fun _ other => by cases other) (by rw [work_changes moved])
    | backoff => exact .aside (fun _ other => by cases other) (by rw [ring_changes moved])
  | order order =>
    cases moved
    exact .order order
  | _ =>
    cases moved
    exact .aside (fun _ other => by cases other) rfl

theorem listen_desk (moved : s.listen = some t) : t.desk = s.desk := by
  rw [listen_changes moved]
  rfl

theorem compute_desk (moved : s.compute = some t) : t.desk = s.desk := by
  rw [compute_changes moved]
  rfl

/-- **Every move changes the desk in one of the ways of `Handling`.** -/
theorem after_handling {move : Move} (moved : s.after move = some t) :
    Handling s.desk (s.saidIn move) t.desk := by
  cases move with
  | act actor =>
    cases actor with
    | call caller => exact advance_handling moved
    | listener => exact handling_idle (listen_desk moved)
    | engine => exact handling_idle (compute_desk moved)
    | thread => exact work_handling moved
    | driver => exact drive_handling moved
    | backoff => exact ring_handling moved
    | timeout caller => exact handling_idle (expire_books moved).desk
  | order order =>
    cases moved
    exact handling_idle rfl
  | host held heldFor present refusal =>
    cases moved
    exact handling_idle rfl
  | outside engine =>
    cases moved
    exact handling_idle rfl
  | drop =>
    cases moved
    exact .fire

end Session

end ShellSession
