/-
**A start arrives.**

A start that is left to itself comes to its end: every step brings it nearer, and as long as it has not
returned there is somebody who can take one. What it comes to is what the answers of the engine come
to, whatever is asked of the session meanwhile.

* `Session.Expects`: a session that is left to a start;
* `Expects.after`: **every step leaves it so, with fewer steps to go**;
* `Expects.exists_step`: as long as the start has not returned, there is a step;
* `Session.start_all_or_nothing`: **a start is all or nothing**.
-/

import ShellSession.Proofs.Session.Countdown

namespace ShellSession

namespace Session

variable {s t : Session} {j : Journal} {caller total : Nat} {e : Engine}
  {answers : List ReleaseAnswer}

/-- A session that is left to a start, which has been asked for or is the first in line. -/
structure Expects (s : Session) (caller total : Nat) (e : Engine) (j : Journal)
    (answers : List ReleaseAnswer) : Prop where
  kept : s.Kept j
  founded : s.Founded
  asks : s.desk.Asks s.fallback answers
  spends : s.Spends total e answers
  solitary : s.Solitary caller e
  begun : s.Inaugurates caller ∨ s.phase = .notStarted ∧ s.lifecycle = [] ∧
    s.driving = .unborn ∧ s.calls = [(caller, start)]

namespace Expects

/-- A step of whoever takes it makes the remaining ones fewer. -/
theorem solitary_after (expects : s.Expects caller total e j answers)
    (idle : e.askRelease ≠ .error .busy) (still : e.step = none) {actor : Actor}
    (moved : s.after (.act actor) = some t) : t.Solitary caller e ∧ t.remaining < s.remaining ∧
      t.Spends total e (answers ++ (s.answer? (.act actor)).toList) := by
  have solitary := expects.solitary
  have silent (quiet : s.answer? (.act actor) = none) (hosted : t.hosted = s.hosted) :
      t.Spends total e (answers ++ (s.answer? (.act actor)).toList) := by
    rw [quiet]
    exact (List.append_nil answers).symm ▸ expects.spends.frame (congrArg HostedEngine.heldFor hosted)
  cases actor with
  | call other =>
    obtain ⟨behind, less, hosted⟩ := solitary.advance expects.kept.alive.stands moved
    exact ⟨behind, less, silent rfl hosted⟩
  | listener =>
    obtain ⟨behind, less⟩ := solitary.listen moved
    exact ⟨behind, less, silent rfl (by rw [listen_changes moved])⟩
  | engine =>
    have none : s.hosted.engine.step = none := by rw [solitary.engine, still]
    obtain ⟨_, stepped, _⟩ := Option.map_eq_some_iff.mp moved
    cases none.symm.trans stepped
  | thread =>
    obtain ⟨request, busy⟩ : ∃ request, s.working.request? = some request := by
      rcases (work_engine moved).1 with ⟨request, routine, working⟩ | ⟨request, ticket, next, _, waits, _⟩
      · exact ⟨request, by rw [working]; rfl⟩
      · exact ⟨request, by rw [waits]; rfl⟩
    exact solitary.work (solitary.asked expects.kept expects.asks busy) idle expects.spends moved
  | driver =>
    obtain ⟨behind, less⟩ := solitary.drive moved
    exact ⟨behind, less, silent rfl (by rw [drive_changes moved])⟩
  | backoff =>
    obtain ⟨behind, less⟩ := solitary.ring moved
    exact ⟨behind, less, silent rfl (by rw [ring_changes moved])⟩
  | timeout other =>
    obtain ⟨behind, less, hosted⟩ := solitary.expire moved
    exact ⟨behind, less, silent rfl hosted⟩

/-- The start that was asked for gets into line, and is the first there. -/
theorem begun_after (expects : s.Expects caller total e j answers) {actor : Actor}
    (moved : s.after (.act actor) = some t) : t.Inaugurates caller ∨ t.phase = .notStarted ∧
      t.lifecycle = [] ∧ t.driving = .unborn ∧ t.calls = [(caller, start)] := by
  rcases expects.begun with inaugurates | ⟨fresh, free, unborn, one⟩
  · exact .inl (inaugurates_after inaugurates expects.kept expects.founded moved)
  · have asked : (caller, start) ∈ s.calls := by
      rw [one]
      exact List.mem_singleton_self _
    have found : ∀ other call, s.calls.lookup other = some call → other = caller ∧ call = start := by
      intro other call found
      have member := mem_of_lookup found
      rw [one] at member
      cases List.mem_singleton.mp member
      exact ⟨rfl, rfl⟩
    cases actor with
    | call other =>
      obtain ⟨call, here, _⟩ := Option.bind_eq_some_iff.mp moved
      obtain ⟨rfl, _⟩ := found other call here
      exact .inl (inaugurates_first expects.kept expects.founded fresh free asked moved).1
    | timeout other =>
      obtain ⟨call, later, mine, expires, _⟩ := expires_of_expire moved
      rw [one] at mine
      cases List.mem_singleton.mp mine
      cases expires
    | driver =>
      have stuck : s.drive = none := by rw [drive, unborn]
      cases stuck.symm.trans moved
    | backoff =>
      have stuck : s.ring = none := by rw [ring, unborn]
      cases stuck.symm.trans moved
    | listener => rw [listen_changes moved]; exact .inr ⟨fresh, free, unborn, one⟩
    | engine => rw [compute_changes moved]; exact .inr ⟨fresh, free, unborn, one⟩
    | thread => rw [work_changes moved]; exact .inr ⟨fresh, free, unborn, one⟩

/-- **Every step brings a start that is left to itself nearer to its end.** -/
theorem after (expects : s.Expects caller total e j answers) (idle : e.askRelease ≠ .error .busy)
    (still : e.step = none) {actor : Actor} (moved : s.after (.act actor) = some t) :
    t.Expects caller total e (j.note s (.act actor) t) (answers ++ (s.answer? (.act actor)).toList) ∧
      t.remaining < s.remaining := by
  obtain ⟨solitary, less, spends⟩ := expects.solitary_after idle still moved
  exact ⟨{
    kept := expects.kept.after nofun moved
    founded := founded_after expects.founded expects.kept moved
    asks := question_after expects.asks expects.kept expects.founded moved
    spends := spends
    solitary := solitary
    begun := expects.begun_after moved }, less⟩

/-! ### Somebody can go on -/

/-- A driver that is there and has something to do, or the thread, can go on while the engine is not
taken to be stopped. -/
theorem exists_party_step (expects : s.Expects caller total e j answers)
    (born : s.driving ≠ .unborn) (stays : s.driving ≠ .exited)
    (waits : s.driving = .waiting → s.queue.items ≠ []) : ∃ actor t, s.after (.act actor) = some t := by
  have paused : s.standing.isPaused = false := by
    rw [expects.solitary.active]
    rfl
  have drives (some_ : s.drive ≠ none) : ∃ actor t, s.after (.act actor) = some t := by
    obtain ⟨t, moved⟩ := Option.ne_none_iff_exists'.mp some_
    exact ⟨.driver, t, moved⟩
  cases driving : s.driving with
  | unborn => exact absurd driving born
  | exited => exact absurd driving stays
  | waiting =>
    refine drives ?_
    have more : s.queue.items.isEmpty = false := by simpa using waits driving
    rw [drive, driving]
    simp only [await, more]
    split <;> exact Option.some_ne_none _
  | gated request =>
    refine drives ?_
    rw [drive, driving]
    simp only [paused]
    split <;> exact Option.some_ne_none _
  | regated request attempts =>
    refine drives ?_
    rw [drive, driving]
    simp only [paused]
    split <;> exact Option.some_ne_none _
  | backing request attempts signals =>
    cases fired : s.shutdown with
    | true =>
      refine drives ?_
      rw [drive, driving]
      simp only [fired]
      exact Option.some_ne_none _
    | false =>
      refine ⟨.backoff, { s with driving := .regated request attempts }, ?_⟩
      show s.ring = _
      rw [ring, driving]
      simp only [fired]
      rfl
  | attempting request attempts =>
    have agree := expects.kept.sound.custody.agree
    have place : s.desk.driving = .attempting request attempts := driving
    rw [place] at agree
    cases working : s.working with
    | resting =>
      have thread : s.desk.working = .resting := working
      rw [thread] at agree
      exact agree.elim
    | working other routine =>
      refine ⟨.thread, s.follow other routine, ?_⟩
      show s.work = _
      rw [work, working]
    | awaiting other ticket next =>
      have held : s.working.request? = some other := by rw [working]; rfl
      have asked := expects.solitary.asked expects.kept expects.asks held
      rw [driving, working] at asked
      cases asked
    | replying busy =>
      refine drives ?_
      rw [drive, driving, working]
      cases busy <;> exact Option.some_ne_none _
  | _ =>
    refine drives ?_
    rw [drive, driving]
    exact Option.some_ne_none _

end Expects

/-- The question of a start that waits for its result is on its way. -/
theorem Expects.exists_step_awaiting (expects : s.Expects caller total e j answers)
    (fresh : s.phase = .notStarted) (numbered : 1 ≤ s.lastId) (none : s.result? 1 = none) :
    ∃ actor t, s.after (.act actor) = some t := by
  have custody := expects.kept.sound.custody
  have born : s.driving ≠ .unborn := fun unborn => by
    have zero : s.lastId = 0 := expects.kept.alive.sane.unasked fresh unborn
    omega
  cases expects.asks with
  | unasked zero =>
    have zero : s.lastId = 0 := zero
    omega
  | queued waits =>
    have some_ : s.queue.items ≠ [] := List.ne_nil_of_mem waits
    exact expects.exists_party_step born (fun gone => some_ (custody.exited gone).2) fun _ => some_
  | held asked =>
    refine expects.exists_party_step born (fun gone => ?_) fun waiting => ?_
    · have asked : Asked s.settings.retry s.fallback s.driving s.working answers := asked
      rw [gone] at asked
      cases asked
    · have asked : Asked s.settings.retry s.fallback s.driving s.working answers := asked
      rw [waiting] at asked
      cases asked
  | settled result found settles =>
    have found : (s.results.lookup 1).isSome = true :=
      List.lookup_isSome_iff.mpr ⟨_, found, beq_self_eq_true 1⟩
    have none : s.results.lookup 1 = .none := none
    rw [none] at found
    cases found

/-- A start that holds the lifecycle lock takes the step of its stage. -/
theorem exists_advanceStart {stage : Starting} (held : holds s.lifecycle caller = true)
    (steps : stage.step caller s ≠ none) : ∃ t, s.advanceStart caller (.inside stage) = some t := by
  obtain ⟨⟨u, next⟩, stepped⟩ := Option.ne_none_iff_exists'.mp steps
  have taken : proceedTo caller (fun stage => Call.start (.inside stage)) (stage.step caller s) =
      some (u.proceed caller (.start (.inside next))) := by
    rw [stepped]
    rfl
  refine ⟨u.proceed caller (.start (.inside next)), ?_⟩
  cases stage with
  | finished result => exact absurd rfl steps
  | _ =>
    rw [advanceStart, if_pos held]
    · exact taken
    · exact fun _ other => by cases other

/-- A dispose in a start that leaves no stop waits for nobody but the driver and the listener. -/
theorem steps_of_calm {stage : Disposing} (calm : stage.resumes = false)
    (driver : stage ≠ .awaitingDriver) (listener : stage ≠ .awaitingListener)
    (going : stage ≠ .finished) : stage.step caller s ≠ none := by
  cases stage with
  | checking =>
    rw [Disposing.step]
    split
    · exact Option.some_ne_none _
    · split <;> exact Option.some_ne_none _
  | aborting inner =>
    cases inner with
    | resuming last => cases calm
    | checking =>
      rw [Disposing.step]
      · rw [Aborting.step]
        split <;> exact Option.some_ne_none _
      · exact fun _ other => by cases other
    | moving =>
      rw [Disposing.step]
      · rw [Aborting.step]
        split <;> exact Option.some_ne_none _
      · exact fun _ other => by cases other
    | _ => exact Option.some_ne_none _
  | moving =>
    rw [Disposing.step]
    split <;> exact Option.some_ne_none _
  | awaitingDriver => exact absurd rfl driver
  | awaitingListener => exact absurd rfl listener
  | finished => exact absurd rfl going
  | _ => exact Option.some_ne_none _

/-- **As long as a start that is left to itself has not returned, there is a step.** -/
theorem Expects.exists_step (expects : s.Expects caller total e j answers)
    (waiting : s.calls ≠ []) : ∃ actor t, s.after (.act actor) = some t := by
  obtain ⟨guarded, one⟩ := expects.solitary.calls.resolve_left waiting
  have mine : (caller, Call.start guarded) ∈ s.calls := by
    rw [one]
    exact List.mem_singleton_self _
  have orderly := expects.kept.tidy.orderly
  have goes {t : Session} (taken : s.advanceStart caller guarded = some t) :
      ∃ actor t, s.after (.act actor) = some t := ⟨.call caller, t, orderly.act mine taken⟩
  cases guarded with
  | entering => exact goes rfl
  | inside stage =>
    have held : holds s.lifecycle caller = true := by
      rcases expects.begun with inaugurates | ⟨_, _, _, other⟩
      · exact (inaugurates.going _ mine).1
      · rw [one] at other
        cases other
    have stands : stage.station.Stands s.life := expects.kept.alive.stands _ mine
    have steps (some_ : stage.step caller s ≠ none) : ∃ actor t, s.after (.act actor) = some t := by
      obtain ⟨t, taken⟩ := exists_advanceStart held some_
      exact goes taken
    cases stage with
    | finished result => exact goes rfl
    | awaiting id =>
      obtain rfl : id = 1 := expects.founded.knows caller _ mine
      cases found : s.result? 1 with
      | none => exact expects.exists_step_awaiting stands.1 stands.2 found
      | some result =>
        refine steps ?_
        rw [Starting.step, found]
        cases result with
        | ok answer => cases answer <;> exact Option.some_ne_none _
        | error error => exact Option.some_ne_none _
    | failing error inner =>
      have calm : inner.resumes = false := expects.solitary.calm _ mine
      have late {later : Disposing} (expired : inner.expire = some later) :
          ∃ actor t, s.after (.act actor) = some t := by
        refine ⟨.timeout caller, s.proceed caller (.start (.inside (.failing error later))), ?_⟩
        show s.expire caller = _
        rw [expire, orderly.lookup mine]
        show (Option.map _ (inner.expire.map _)) = _
        rw [expired]
        rfl
      by_cases driver : inner = .awaitingDriver
      · subst driver
        exact late rfl
      by_cases listener : inner = .awaitingListener
      · subst listener
        exact late rfl
      by_cases gone : inner = .finished
      · subst gone
        exact steps (Option.some_ne_none _)
      · refine steps ?_
        have inside : inner.step caller s ≠ none := steps_of_calm calm driver listener gone
        obtain ⟨⟨u, next⟩, stepped⟩ := Option.ne_none_iff_exists'.mp inside
        rw [Starting.step]
        · rw [stepped]
          exact Option.some_ne_none _
        · exact gone
    | recording dialect release => exact steps (Option.some_ne_none _)
    | _ =>
      refine steps ?_
      rw [Starting.step]
      split <;> exact Option.some_ne_none _

end Session

/-- Settings that have been checked name the release on which a session falls back. -/
theorem Settings.fallback_of_check {settings : Settings} {fallback : Release}
    (checked : settings.check = .ok fallback) : settings.fallback? = some fallback := by
  unfold check at checked
  split at checked
  · cases checked
  · split at checked
    · cases checked
    · split at checked
      · cases checked
      · split at checked
        · cases checked
        · rename_i named
          cases checked
          exact named

namespace Course

variable {env : Environment} {s t : Session} {j k : Journal} {caller : Nat}

/-- The release on which a session falls back stays the same. -/
theorem fallback (course : Course env s j k t) : t.fallback = s.fallback :=
  course.invariant (fun t _ => t.fallback = s.fallback)
    (fun _ same _ moved => (Session.fallback_after moved).trans same) rfl

/-- A start that is the first in line is taken on by all moves by which nobody lets go of the session. -/
theorem inaugurates (course : Course env s j k t) (owned : env.Owned) (kept : s.Kept j)
    (founded : s.Founded) (inaugurates : s.Inaugurates caller) : t.Inaugurates caller := by
  have all : t.Kept k ∧ t.Founded ∧ t.Inaugurates caller := by
    refine course.invariant (fun t k => t.Kept k ∧ t.Founded ∧ t.Inaugurates caller) ?_
      ⟨kept, founded, inaugurates⟩
    rintro t u k move ⟨kept, founded, inaugurates⟩ allowed moved
    have holds : move ≠ .drop := by
      rintro rfl
      exact owned t allowed
    exact ⟨kept.after holds moved, Session.founded_after founded kept moved,
      Session.inaugurates_after inaugurates kept founded moved⟩
  exact all.2.2

end Course

namespace Session

variable {s t : Session} {j : Journal} {caller total : Nat} {e : Engine}
  {answers : List ReleaseAnswer}

/-! ### All or nothing -/

/-- How often a busy engine is tried again is settled with the creation of a session. -/
theorem retry_after {move : Move} (moved : s.after move = some t) :
    t.settings.retry = s.settings.retry :=
  (after_handling moved).retry_eq

/-- Steps of a session that is left to a start, one after another. -/
theorem Expects.play (idle : e.askRelease ≠ .error .busy) (still : e.step = none) :
    ∀ (actors : List Actor) {s t : Session} {j : Journal} {answers : List ReleaseAnswer},
      s.Expects caller total e j answers → s.play (actors.map .act) = some t →
        ∃ k more, t.Expects caller total e k more ∧ actors.length + t.remaining ≤ s.remaining ∧
          t.settings.retry = s.settings.retry ∧ t.fallback = s.fallback := by
  intro actors
  induction actors with
  | nil =>
    intro s t j answers expects played
    cases played
    exact ⟨j, answers, expects, Nat.le_of_eq (Nat.zero_add _), rfl, rfl⟩
  | cons actor rest ih =>
    intro s t j answers expects played
    obtain ⟨u, moved, later⟩ := Option.bind_eq_some_iff.mp played
    obtain ⟨behind, less⟩ := expects.after idle still moved
    obtain ⟨k, more, arrives, bounded, retry, fallback⟩ := ih behind later
    refine ⟨k, more, arrives, ?_, retry.trans (retry_after moved), fallback.trans (fallback_after moved)⟩
    rw [List.length_cons]
    omega

/-- A start that is left to itself has returned when nothing moves any more, and has come to what the
answers come to. -/
theorem Expects.arrived (expects : s.Expects caller total e j answers)
    (idle : e.askRelease ≠ .error .busy) (ended : ∀ actor, s.act actor = none) :
    (s.reply? caller).isSome = true ∧
      s.Inaugurated caller (startOutcome s.settings.retry s.fallback total e.askRelease) := by
  have none : s.calls = [] := by
    refine Classical.byContradiction fun waiting => ?_
    obtain ⟨actor, t, moved⟩ := expects.exists_step waiting
    cases (ended actor).symm.trans moved
  rcases expects.begun with inaugurates | ⟨_, _, _, other⟩
  · refine ⟨?_, inaugurates.inaugurated expects.kept expects.founded expects.asks idle
      expects.spends.answering⟩
    rcases inaugurates.present with ⟨call, member⟩ | ⟨reply, replied⟩
    · rw [none] at member
      cases member
    · exact replied_of_mem replied
  · rw [none] at other
    cases other

/-- A start that is asked for in a session that was created. -/
theorem expects_begin {settings : Settings} {hosted : HostedEngine}
    (created : create settings hosted = .ok s) (free : hosted.held = false) :
    (s.begin start).2.Expects (s.begin start).1 hosted.heldFor hosted.engine
      (Journal.empty.note s (.order .start) (s.begin start).2) [] := by
  have kept := kept_of_create created
  obtain ⟨fallback, _, rfl⟩ := fresh_of_create created
  have founded := founded_fresh settings fallback hosted
  have begun : (fresh settings fallback hosted).after (.order .start) =
      some ((fresh settings fallback hosted).begin start).2 := rfl
  refine ⟨kept.after nofun begun, founded_after founded kept begun, .unasked rfl,
    .inl ⟨0, rfl, Nat.zero_add _⟩, ?_, .inr ⟨rfl, rfl, rfl, rfl⟩⟩
  exact {
    calls := .inr ⟨.entering, rfl⟩
    calm := fun entry member => by cases List.mem_singleton.mp member; rfl
    engine := rfl
    free := free
    active := rfl
    reads := .inl rfl
    items := fun _ member => by cases member
    hand := fun _ held => by cases held
    sought := fun looking => by cases looking }

/-- **A start is all or nothing.** Take a start that finds nobody in line for the lifecycle lock of a
session that is not started, and whatever is asked of the session meanwhile and later, by whomever. If
the engine answers the question for its release as busy a number of times, and then with a release or a
failure, then the start returns that release, or the fallback for a failure, exactly when the busy
answers do not reach the bound and the version is supported. The session is ready then, and works with
the release from then on. Otherwise the start returns that the attempts are exhausted, or that the
version is not supported, and the session is torn down for good. No request of a caller is accepted
before the session is ready. And a start that is left to itself, over an engine that is idle and held
back for a number of questions, does return, whoever takes the next step. -/
theorem start_all_or_nothing {settings : Settings} {hosted : HostedEngine}
    (created : create settings hosted = .ok s) :
    ∃ fallback, settings.fallback? = some fallback ∧
      (∀ {before : Environment} {i t}, Course before s .empty i t → before.Owned →
        t.phase = .notStarted → t.lifecycle = [] →
        ∀ {caller u}, (caller, start) ∈ t.calls → t.after (.act (.call caller)) = some u →
        ∀ {around : Environment} {answers v}, Enquiry around u answers v → around.Owned →
        ∀ count last, last ≠ .error .busy → answers <+: busyAnswers count ++ [last] →
          v.Inaugurated caller (startOutcome settings.retry fallback count last)) ∧
      (∀ state, hosted.engine.activity = .idle state → hosted.held = false →
        ∃ bound, ∀ (actors : List Actor) t, (s.begin start).2.play (actors.map .act) = some t →
          actors.length ≤ bound ∧ ((∀ actor, t.act actor = none) →
            (t.reply? (s.begin start).1).isSome = true ∧ t.Inaugurated (s.begin start).1
              (startOutcome settings.retry fallback hosted.heldFor hosted.engine.askRelease))) := by
  obtain ⟨fallback, checked, same⟩ := fresh_of_create created
  refine ⟨fallback, Settings.fallback_of_check checked, ?_, ?_⟩
  · intro before i t course owned fresh free caller u asked first around answers v enquiry held count
      last apart answering
    obtain ⟨kept, founded⟩ := course.founded created owned
    obtain ⟨inaugurates, unasked⟩ := inaugurates_first kept founded fresh free asked first
    have behind : u.Kept (i.note t (.act (.call caller)) u) := kept.after nofun first
    have established := founded_after founded kept first
    obtain ⟨k, further⟩ := enquiry.course (i.note t (.act (.call caller)) u)
    obtain ⟨l, settled, upholds, asks⟩ := enquiry.asks held behind established unasked
    have retry : v.settings.retry = settings.retry := by
      have through : v.settings.retry = u.settings.retry := further.retry
      have until_ : t.settings.retry = s.settings.retry := course.retry
      rw [through, retry_after first, until_, same]
      rfl
    have falls : v.fallback = fallback := by
      rw [further.fallback, fallback_after first, course.fallback, same]
      rfl
    have seen := (further.inaugurates held behind established inaugurates).inaugurated settled upholds
      asks apart answering
    rw [retry, falls] at seen
    exact seen
  · intro state idle free
    have still : hosted.engine.step = none := by rw [Engine.step, idle]
    have apart : hosted.engine.askRelease ≠ .error .busy := by
      rw [Engine.askRelease, idle]
      cases hosted.engine.release <;> exact nofun
    refine ⟨(s.begin start).2.remaining, fun actors t played => ?_⟩
    obtain ⟨k, more, expects, bounded, retry, falls⟩ :=
      Expects.play apart still actors (expects_begin created free) played
    refine ⟨by omega, fun ended => ?_⟩
    have arrived := expects.arrived apart ended
    rw [retry, falls] at arrived
    subst same
    exact arrived

/-- A session that gives up behind two attempts, over an engine that holds back a number of
questions. -/
def busied (count : Nat) : Session :=
  fresh { Settings.standard with retry := ⟨1, some 2⟩ } ⟨⟨5, 0⟩, "Desktop"⟩
    { HostedEngine.ofEngine (.fresh .none (some Engine.defaultRelease)) with heldFor := count }

/-- Nothing moves where no call is in progress and no party can go on. -/
theorem ended_of_quiet (calls : s.calls.isEmpty = true)
    (parties : [Actor.listener, .engine, .thread, .driver, .backoff].all
      (fun actor => (s.act actor).isNone) = true) : ∀ actor, s.act actor = none := by
  have none : s.calls = [] := List.isEmpty_iff.mp calls
  have quiet {actor : Actor} (member : actor ∈ [Actor.listener, .engine, .thread, .driver, .backoff]) :
      s.act actor = Option.none := Option.isNone_iff_eq_none.mp (List.all_eq_true.mp parties actor member)
  intro actor
  cases actor with
  | call caller =>
    show (s.calls.lookup caller).bind _ = _
    rw [none]
    rfl
  | timeout caller =>
    show s.expire caller = _
    rw [expire, none]
    rfl
  | _ => exact quiet (by decide)

/-- The steps of a start up to the end of its second attempt, where the first one was busy. -/
def toSecondAttempt : List Actor :=
  List.replicate 4 (.call 1) ++ List.replicate 4 .driver ++
    [.thread, .thread, .driver, .driver, .backoff, .driver, .thread, .thread]

/-- The steps of a start that gets a release from its second attempt. -/
def toRelease : List Actor :=
  toSecondAttempt ++ List.replicate 5 (.call 1) ++ [.driver, .driver]

/-- The steps of a start whose second attempt is busy too, and the last one. -/
def toGivingUp : List Actor :=
  toSecondAttempt ++ [.driver, .driver] ++ List.replicate 6 (.call 1) ++
    [.listener, .driver, .driver, .driver] ++ List.replicate 5 (.call 1)

/-- One busy answer is outlasted, and the session works with the release of its engine; two are too
many, and the session is torn down. -/
theorem start_all_or_nothing_busied :
    (∃ t, ((busied 1).begin start).2.play (toRelease.map .act) = some t ∧
      t.reply? 1 = some (.ok (.release Engine.defaultRelease)) ∧
      t.WorksWith Engine.defaultRelease) ∧
    ∃ t, ((busied 2).begin start).2.play (toGivingUp.map .act) = some t ∧
      t.reply? 1 = some (.error (.retriesExhausted 2)) ∧ t.TornDown := by
  have ends (count : Nat) (actors : List Actor)
      (possible : (((busied count).begin start).2.play (actors.map .act)).any (fun t =>
        t.calls.isEmpty && [Actor.listener, .engine, .thread, .driver, .backoff].all
          (fun actor => (t.act actor).isNone)) = true) :
      ∃ t, ((busied count).begin start).2.play (actors.map .act) = some t ∧
        (t.reply? 1).isSome = true ∧ t.Inaugurated 1 (startOutcome ⟨1, some 2⟩ ⟨⟨5, 0⟩, "Desktop"⟩ count
          (.ok Engine.defaultRelease)) := by
    obtain ⟨t, played, quiet⟩ := (Option.any_eq_true _ _).mp possible
    obtain ⟨calls, parties⟩ := Bool.and_eq_true_iff.mp quiet
    have created : create { Settings.standard with retry := ⟨1, some 2⟩ }
        { HostedEngine.ofEngine (.fresh .none (some Engine.defaultRelease)) with heldFor := count } =
          .ok (busied count) := rfl
    obtain ⟨fallback, named, _, left⟩ := start_all_or_nothing created
    cases named
    obtain ⟨_, bounded⟩ := left _ rfl rfl
    exact ⟨t, played, (bounded actors t played).2 (ended_of_quiet calls parties)⟩
  constructor
  · obtain ⟨t, played, returned, seen⟩ := ends 1 toRelease (by decide +kernel)
    obtain ⟨reply, found⟩ := Option.isSome_iff_exists.mp returned
    refine ⟨t, played, ?_, seen.works _ rfl returned⟩
    rw [found, seen.reply reply found]
    rfl
  · obtain ⟨t, played, returned, seen⟩ := ends 2 toGivingUp (by decide +kernel)
    obtain ⟨reply, found⟩ := Option.isSome_iff_exists.mp returned
    refine ⟨t, played, ?_, seen.torn _ rfl returned⟩
    rw [found, seen.reply reply found]
    rfl

end Session

end ShellSession
