/-
**No stop is lost, and none is invented.**

A session that has been started knows of every stop that nobody has left, unless the channel has dropped
the report of it: the report is on the way to the listener, or the session is paused, or a call has
lifted the pause to apply its verb. So when all that was reported has been pumped and no resume is in
progress, the session is paused exactly when its engine is stopped, and in the stop that the engine is
in. The channel holds so many reports that it drops that of a stop only if somebody sends commands into
the stop past the session.

* `Session.Aware`, `Session.aware_after`: **an open stop is one that the session knows of**;
* `Session.hears_after`, `Chronicle.hears`: what the listener records or misses is what the engine has
  entered;
* `Session.Watchful`, `Chronicle.watchful`: all that holds of a session that is not disposed;
* `Session.Pumped`, `Session.Unresumed`: all reports are pumped, and no resume is in progress;
* `Chronicle.stops_known`: **no stop is lost or invented, along every chronicle**;
* `Chronicle.stop_dropped`: what the channel drops is not pumped, and may be a stop.
-/

import ShellSession.Proofs.Session.Reading
import ShellSession.Proofs.Session.Startup
import ShellSession.Proofs.Session.Exclusion

namespace ShellSession

/-- An environment in which the debugger says that it is not stopped only when it is not. -/
def Environment.Honest (env : Environment) : Prop :=
  ∀ s caller, env s (.act (.call caller)) → s.hosted.refusal = some .notStopped →
    s.hosted.engine.isStopped = false

/-- The standing that goes with a stop of the engine, no verb being noted. -/
def Standing.of : Option Stop → Standing
  | none => active
  | some stop => paused stop none

namespace Engine

variable {e f : Engine} {read : Nat}

/-- What a change of the engine adds to the stops reported does not hang on where one reads from. -/
theorem Reports.stopsFrom_eq (reports : Reports e f) (within : read ≤ e.history.size) :
    f.stopsFrom read = e.stopsFrom read ++ f.stopsFrom e.history.size := by
  have nothing : e.stopsFrom e.history.size = [] := stopsFrom_of_le (Nat.le_refl _)
  cases reports with
  | none grows stops opens =>
    rw [stops read within, stops _ (Nat.le_refl _), nothing, List.append_nil]
  | stop stop grows stops free inside waits last =>
    rw [stops read within, stops _ (Nat.le_refl _), nothing, List.nil_append]

/-- A stop is open as long as no verb is on its way into it. -/
theorem isOpen_of_stop? {stop : Stop} (inside : e.stop? = some stop) (none : e.verbsWaiting = 0) :
    e.isOpen = true := by
  unfold isOpen isStopped
  rw [inside]
  refine List.all_eq_true.mpr fun request member => ?_
  have other := List.countP_eq_zero.mp none request member
  rw [Bool.eq_false_iff.mpr other]
  rfl

end Engine

namespace Session

variable {s t : Session} {move : Move} {caller : Nat} {stop : Stop} {plight : Plight}

/-! ### Ends of a resume -/

/-- A stop is ended with a verb that is sent into it. -/
theorem Leads.closed_of_ended {order : Order} {before after : Standpoint} {who : Nat}
    (leads : s.Leads caller order before t after)
    (ended : before.deed? caller after = some (.ended who stop)) :
    t.hosted.engine.isOpen = false := by
  cases leads with
  | aside passes standing => cases passes <;> cases ended
  | stage verb asked now later u stepped books =>
    cases Resuming.goes_of_step stepped with
    | apply here hosted applied =>
      obtain ⟨f, resumed, same⟩ := HostedEngine.resume_ok applied
      have engine : t.hosted.engine = f := by rw [books, same]
      rw [engine]
      exact Engine.closed_of_resume resumed
    | _ => cases ended

/-- Behind a verb that has failed the pause is restored, unless the verb has come too late for the
stop. -/
theorem Leads.restored {order : Order} {before after : Standpoint} {who : Nat}
    {error : SessionFailure} (leads : s.Leads caller order before t after)
    (active : before.lifted?.isSome = true → s.standing = .active)
    (failed : before.deed? caller after = some (.failed who stop error)) :
    t.standing = .paused stop none ∨
      before.lifted? = some stop ∧ error.saysNotStopped = true ∧
        ∃ verb, s.hosted.resume verb = .error error := by
  cases leads with
  | aside passes standing => cases passes <;> cases failed
  | stage verb asked now later u stepped books =>
    have standing : t.standing = u.standing := by rw [books]
    cases Resuming.goes_of_step stepped with
    | lose here other refused claims =>
      cases failed
      exact .inr ⟨rfl, claims, verb, refused⟩
    | restore here other =>
      cases failed
      refine .inl (standing.trans ?_)
      rw [restorePause_of_active _ (active rfl)]
    | _ => cases failed

/-- What is written down of a call is written down of a step of that call. -/
theorem call_of_deed {done : Deed} (same : s.deed? move t = some done)
    (theirs : done.caller? = some caller) : move = .act (.call caller) := by
  unfold deed? at same
  split at same
  · cases (Standpoint.deed?_caller same).symm.trans theirs
    rfl
  · cases (heeded?_caller same).symm.trans theirs
  · cases same

/-- What is written down of a call is a step of its resume. -/
theorem leads_of_deed (orderly : s.Orderly) (moved : s.after move = some t) {done : Deed}
    (same : s.deed? move t = some done) (theirs : done.caller? = some caller) :
    ∃ order, s.Leads caller order (s.standpoint caller) t (t.standpoint caller) ∧
      (s.standpoint caller).deed? caller (t.standpoint caller) = some done := by
  have marks := marks_after orderly moved
  generalize s.deed? move t = deed at marks same
  cases marks with
  | call other order leads others lastCall engine =>
    cases (Standpoint.deed?_caller same).symm.trans theirs
    exact ⟨order, leads, same⟩
  | listen moved => cases (heeded?_caller same).symm.trans theirs
  | aside standing points lastCall => cases same

/-- The debugger says that it is not stopped only when it is not, where a call asks it. -/
def Frank (s : Session) (move : Move) : Prop :=
  ∀ caller, move = .act (.call caller) → s.hosted.refusal = some .notStopped →
    s.hosted.engine.isStopped = false

/-- **A verb that fails leaves the session paused in the same stop.** -/
theorem Faithful.restored (faithful : s.Faithful) (frank : s.Frank move)
    (moved : s.after move = some t) {error : SessionFailure}
    (same : s.deed? move t = some (.failed caller stop error)) :
    t.standing = .paused stop none := by
  obtain ⟨order, leads, failed⟩ := leads_of_deed faithful.orderly moved same rfl
  refine (leads.restored (fun lifted => ?_) failed).resolve_right ?_
  · obtain ⟨here, lifts⟩ := Option.isSome_iff_exists.mp lifted
    exact (faithful.single_of_lifted lifts).1
  · rintro ⟨lifted, claims, verb, refused⟩
    obtain ⟨call, mine, lifts⟩ := mem_of_lifted lifted
    have inside : s.hosted.engine.isStopped = true := by
      unfold Engine.isStopped
      rw [faithful.names stop (.lifted (caller, call) mine lifts)]
      rfl
    rcases HostedEngine.refuses_of_resume inside refused with ⟨_, rfl⟩ | ⟨refusal, given, rfl⟩
    · cases claims
    · cases refusal with
      | notStopped => cases (frank caller (call_of_deed same rfl) given).symm.trans inside
      | _ => cases claims

/-! ### What the listener hears -/

/-- The session behind a move of one whose listener listens: it goes on to listen, and what it records
or drops it takes from the stops reported. -/
theorem hears_after {read : Nat} (reads : s.listening.read? = some read) (live : s.shutdown = false)
    (unborn : s.driving = .unborn → s.listening = .unborn) (moved : s.after move = some t) :
    ∃ further, t.listening.read? = some further ∧
      t.hosted.engine.stopsFrom read =
        Deed.passed (s.deed? move t).toList ++ t.hosted.engine.stopsFrom further := by
  have minds := minds_after moved
  generalize s.deed? move t = deed at minds
  cases minds with
  | step mine listened =>
    have engine : t.hosted.engine = s.hosted.engine := by rw [listen_changes listened]
    rw [engine]
    exact (pumps_of_listen listened).reads live reads
  | spawn theirs free born listening hosted stops =>
    rw [unborn free] at reads
    cases reads
  | aside theirs listening stops idle =>
    refine ⟨read, listening ▸ reads, ?_⟩
    rw [(Deed.untaken theirs).2]
    rfl

/-! ### Stops that the session knows of -/

/-- An open stop is one that the session knows of: if it is neither paused nor lifted, and no stop has
been dropped, its report is still to be read. -/
def Aware (s : Session) (deeds : List Deed) : Prop :=
  Deed.losses deeds = [] → s.hosted.engine.isOpen = true → s.Bears .free → 0 < s.unread

/-- What leaves no pause, and drops no stop, neither records one nor takes one away. -/
theorem unpassed_of_free (faithful : s.Faithful) (bears : s.Bears plight) (frank : s.Frank move)
    (moved : s.after move = some t) (opens : t.hosted.engine.isOpen = true) (free : t.Bears .free)
    (lossless : Deed.losses (s.deed? move t).toList = []) :
    plight = .free ∧ Deed.passed (s.deed? move t).toList = [] := by
  rw [Deed.passed_of_losses lossless]
  obtain ⟨after, stands, step⟩ := (marks_after faithful.orderly moved).step faithful bears
  cases free.eq_free stands
  rcases step with ⟨none, same⟩ | ⟨done, same, step⟩
  · rw [none]
    exact ⟨same.symm, rfl⟩
  · cases step with
    | ended caller stop =>
      obtain ⟨order, leads, ended⟩ := leads_of_deed faithful.orderly moved same rfl
      cases (leads.closed_of_ended ended).symm.trans opens
    | lost caller stop error claims =>
      cases free with
      | free active loose => cases active.symm.trans (faithful.restored frank moved same)
    | published | dropped | returned =>
      rw [same]
      exact ⟨rfl, rfl⟩

/-- **An open stop stays one that the session knows of.** -/
theorem aware_after {deeds : List Deed} {read : Nat} (aware : s.Aware deeds) (faithful : s.Faithful)
    (bears : s.Bears plight) (within : s.Within) (reads : s.listening.read? = some read)
    (live : s.shutdown = false) (unborn : s.driving = .unborn → s.listening = .unborn)
    (frank : s.Frank move)
    (others : ∀ engine, move = .outside engine → s.hosted.engine.Used engine)
    (moved : s.after move = some t) : t.Aware (deeds ++ (s.deed? move t).toList) := by
  intro lossless opens free
  rw [Deed.losses_append] at lossless
  obtain ⟨before, now⟩ := List.append_eq_nil_iff.mp lossless
  obtain ⟨rfl, silent⟩ := unpassed_of_free faithful bears frank moved opens free now
  have reports := reports_after faithful.lawful others moved
  obtain ⟨further, later, hears⟩ := hears_after reads live unborn moved
  rw [reports.stopsFrom_eq (within read reads), silent, List.nil_append] at hears
  rw [unread_eq_length later, ← hears, List.length_append]
  cases reports with
  | stop stop grows stops free inside waits last =>
    rw [stops _ (Nat.le_refl _), List.length_append]
    exact Nat.lt_of_lt_of_le (Nat.succ_pos _) (Nat.le_add_left _ _)
  | none grows stops opened =>
    have left := aware before (opened opens) bears
    rw [unread_eq_length reads] at left
    exact Nat.lt_of_lt_of_le left (Nat.le_add_right _ _)

/-! ### Sessions that are started -/

/-- The listener is started together with the driver. -/
def Attended (s : Session) : Prop :=
  s.driving = .unborn ∨ s.driving = .exited ∨ ∃ read, s.listening.read? = some read

theorem attended_after (attended : s.Attended) (live : s.shutdown = false)
    (unborn : s.driving = .unborn → s.listening = .unborn) (moved : s.after move = some t) :
    t.Attended := by
  rcases attended with free | gone | ⟨read, reads⟩
  · have minds := minds_after moved
    generalize s.deed? move t = deed at minds
    cases minds with
    | step mine listened =>
      have stuck := listened
      unfold listen at stuck
      rw [unborn free] at stuck
      cases stuck
    | spawn theirs free born listening hosted stops =>
      exact .inr (.inr ⟨_, by rw [listening]; rfl⟩)
    | aside theirs listening stops idle => exact (idle free).imp id .inl
  · exact .inr (.inl ((after_handling moved).exited gone))
  · obtain ⟨further, later, _⟩ := hears_after reads live unborn moved
    exact .inr (.inr ⟨further, later⟩)

/-- A session that listens, and knows of every open stop. -/
structure Alert (s : Session) (deeds : List Deed) : Prop where
  listens : ∃ read, s.listening.read? = some read
  aware : s.Aware deeds

/-- While the thread is at work at a request, the listener listens. -/
theorem Attended.listens (attended : s.Attended) (agree : s.driving.Agrees s.working)
    {request : Request} {routine : Routine} (working : s.working = .working request routine) :
    ∃ read, s.listening.read? = some read := by
  obtain ⟨attempts, driving⟩ := Desk.attempting_of_working (d := s.desk) agree working
  have driving : s.driving = .attempting request attempts := driving
  rcases attended with free | gone | listens
  · cases driving.symm.trans free
  · cases driving.symm.trans gone
  · exact listens

end Session

/-! ### Along a chronicle -/

/-- What holds of a session until it is disposed: its tokens name the engine's stop, the listener has
read no more than there is, and it either has not been started, or knows of every open stop. -/
structure Session.Watchful (s : Session) (deeds : List Deed) : Prop where
  faithful : s.Faithful
  within : s.Within
  attended : s.phase ≠ .disposed → s.Attended
  alert : s.phase ≠ .disposed → s.Early ∨ s.Alert deeds

namespace Chronicle

variable {env : Environment} {s t : Session} {deeds : List Deed} {settings : Settings}
  {fallback : Release} {hosted : HostedEngine}

/-- The listener has read no more than has been reported. -/
theorem within (chronicle : Chronicle env (.fresh settings fallback hosted) deeds t)
    (verbless : env.Verbless) (made : hosted.engine.Made) : t.Within := by
  induction chronicle with
  | rest => exact nofun
  | @move deeds t u m before allowed moved ih =>
    exact Session.within_after ih (before.after verbless made).1.lawful
      (fun engine same => verbless t engine (same ▸ allowed)) moved

/-- **A session that is started knows of every open stop, until it is disposed.** -/
theorem watchful (chronicle : Chronicle env (.fresh settings fallback hosted) deeds t)
    (verbless : env.Verbless) (owned : env.Owned) (honest : env.Honest)
    (made : hosted.engine.Made) : t.Watchful deeds := by
  induction chronicle with
  | rest =>
    exact ⟨Session.faithful_fresh settings fallback made, nofun, fun _ => .inl rfl,
      fun _ => .inl (Session.early_fresh settings fallback hosted)⟩
  | @move deeds t u m before allowed moved ih =>
    have others : ∀ engine, m = .outside engine → t.hosted.engine.Used engine :=
      fun engine same => verbless t engine (same ▸ allowed)
    obtain ⟨faithful, plight, _, bears⟩ := before.after verbless made
    obtain ⟨j, course⟩ := before.course .empty
    have alive : t.Alive := (course.alive owned (Session.orderly_fresh settings fallback hosted)
      (Session.alive_fresh settings fallback hosted)).2
    have agree := (course.custody (Session.custody_fresh settings fallback hosted)).agree
    have unborn := before.publishes.unborn
    -- A session that is not disposed behind the move was not so before, and nobody has shut it down.
    have spared : u.phase ≠ .disposed → t.phase ≠ .disposed ∧ t.shutdown = false := fun late =>
      have early : t.phase ≠ .disposed := fun disposed => late (Session.disposed_after moved disposed)
      ⟨early, Bool.eq_false_iff.mpr fun fired => early (alive.sane.shut fired)⟩
    have goes : u.phase ≠ .disposed → t.Alert deeds → u.Alert (deeds ++ (t.deed? m u).toList) :=
      fun late alert => by
        obtain ⟨_, live⟩ := spared late
        obtain ⟨read, reads⟩ := alert.listens
        obtain ⟨further, later, _⟩ := Session.hears_after reads live unborn moved
        exact ⟨⟨further, later⟩, Session.aware_after alert.aware faithful bears ih.within reads live
          unborn (fun caller same => honest t caller (same ▸ allowed)) others moved⟩
    refine ⟨Session.faithful_after faithful others moved,
      Session.within_after ih.within faithful.lawful others moved, fun late => ?_, fun late => ?_⟩
    · obtain ⟨before, live⟩ := spared late
      exact Session.attended_after (ih.attended before) live unborn moved
    · rcases ih.alert (spared late).1 with early | alert
      · by_cases answered : ∃ request routine state,
            t.working = .working request routine ∧ t.hosted.engine.activity = .idle state
        · -- The thread has its answer from an engine that is idle, and so in no stop.
          obtain ⟨request, routine, state, working, idle⟩ := answered
          have free : t.hosted.engine.isStopped = false := by
            unfold Engine.isStopped Engine.stop?
            rw [idle]
            rfl
          refine .inr (goes late ⟨(ih.attended (spared late).1).listens agree working,
            fun _ opens => ?_⟩)
          cases (Engine.isOpen_of_free free).symm.trans opens
        · exact .inl (Session.early_after early alive (fun request routine working state idle =>
            answered ⟨request, routine, state, working, idle⟩) moved late)
      · exact .inr (goes late alert)

/-! ### Where nothing is dropped -/

/-- A listener that keeps up finds every report. -/
theorem drops_of_attentive (chronicle : Chronicle env s deeds t) (attentive : env.Attentive) :
    Deed.drops deeds = [] := by
  induction chronicle with
  | rest => rfl
  | @move deeds t u m before allowed moved ih =>
    rw [Deed.drops_append, ih, List.nil_append]
    refine (Session.drops_after moved).resolve_right ?_
    rintro ⟨rfl, _, read, listening, lag⟩
    exact Nat.not_le_of_lt lag (attentive t read allowed listening)

/-- Where others send nothing into stops, no stop is dropped. -/
theorem losses_of_discreet (chronicle : Chronicle env (.fresh settings fallback hosted) deeds t)
    (verbless : env.Verbless) (made : hosted.engine.Made) (discreet : env.Discreet) :
    Deed.losses deeds = [] := by
  suffices kept : t.Still ∧ Deed.losses deeds = [] from kept.2
  induction chronicle with
  | rest => exact ⟨nofun, rfl⟩
  | @move deeds t u m before allowed moved ih =>
    obtain ⟨still, none⟩ := ih
    obtain ⟨faithful, _⟩ := before.after verbless made
    refine ⟨Session.still_after still faithful (before.within verbless made)
      (fun engine same => verbless t engine (same ▸ allowed))
      (fun engine same => discreet t engine (same ▸ allowed)) moved, ?_⟩
    rw [Deed.losses_append, none, List.nil_append]
    unfold Deed.losses
    rcases Session.drops_after moved with none | ⟨_, dropped, _⟩
    · rw [none]
      rfl
    · rw [dropped]
      exact still.lossless faithful

/-- The listener passes over no stop, where it keeps up or others send nothing into stops. -/
theorem lossless (chronicle : Chronicle env (.fresh settings fallback hosted) deeds t)
    (verbless : env.Verbless) (made : hosted.engine.Made) (keeps : env.Attentive ∨ env.Discreet) :
    Deed.losses deeds = [] :=
  keeps.elim (fun attentive => Deed.losses_of_drops (chronicle.drops_of_attentive attentive))
    (chronicle.losses_of_discreet verbless made)

/-- Once a session has been started it stays so. -/
theorem started (run : Chronicle env s deeds t) (started : s.phase ≠ .notStarted) :
    t.phase ≠ .notStarted := by
  refine run.invariant (fun t _ => t.phase ≠ .notStarted) ?_ started
  intro t u deeds move before allowed moved after
  rcases Session.leadsTo_after moved with same | leads
  · exact before (same.symm.trans after)
  · rw [after] at leads
    cases phase : t.phase <;> rw [phase] at leads <;> cases leads

end Chronicle

/-! ### What is announced -/

namespace Session

variable {s t : Session} {move : Move} {stop : Stop} {verb : Option Verb}

/-- The stops reported that the listener has not come to yet. -/
def unheard (s : Session) : List Stop :=
  match s.listening.read? with
  | some read => s.hosted.engine.stopsFrom read
  | none => []

/-- All that the engine has reported is taken in. -/
def CaughtUp (s : Session) : Prop :=
  s.listening = .reading s.hosted.engine.history.size

/-- No resume is in progress: no call has noted its verb or lifted the pause, and no verb is on its way
into a stop. -/
structure Unresumed (s : Session) : Prop where
  calls : ∀ entry ∈ s.calls,
    entry.2.standpoint.isNoted = false ∧ entry.2.standpoint.lifted? = none
  verbs : s.hosted.engine.verbsWaiting = 0

/-- No resume is in progress where there are no calls and no verb is on its way. -/
theorem Unresumed.of_calls (none : s.calls.isEmpty = true)
    (verbless : s.hosted.engine.verbsWaiting = 0) : s.Unresumed := by
  refine ⟨fun entry member => ?_, verbless⟩
  rw [List.isEmpty_iff.mp none] at member
  cases member

/-- **A session to which nothing is on its way is paused exactly in the stop of its engine.** -/
theorem Alert.standing {deeds : List Deed} (alert : s.Alert deeds)
    (lossless : Deed.losses deeds = []) (faithful : s.Faithful) (caught : s.CaughtUp)
    (unresumed : s.Unresumed) : s.standing = .of s.hosted.engine.stop? := by
  cases standing : s.standing with
  | paused stop verb =>
    rw [faithful.names stop (.paused verb standing)]
    cases verb with
    | none => rfl
    | some verb =>
      obtain ⟨entry, member, noted⟩ := faithful.noted stop verb standing
      cases (unresumed.calls entry member).1.symm.trans noted
  | active =>
    have free : s.Bears .free := .free standing fun caller => by
      cases lifted : (s.standpoint caller).lifted? with
      | none => rfl
      | some stop =>
        obtain ⟨call, mine, lifts⟩ := mem_of_lifted lifted
        cases (unresumed.calls _ mine).2.symm.trans lifts
    cases inside : s.hosted.engine.stop? with
    | none => rfl
    | some stop =>
      have left := alert.aware lossless (Engine.isOpen_of_stop? inside unresumed.verbs) free
      rw [unread_eq_length (by rw [show s.listening = _ from caught]; rfl),
        Engine.stopsFrom_of_le (Nat.le_refl _)] at left
      cases left

end Session

/-- A stop that is recorded is the one that the session is paused in, until a call lifts the pause. -/
theorem Plight.After.held {deeds past since : List Deed} {plight : Plight} {stop : Stop}
    (after : Plight.After deeds plight) (split : deeds = past ++ .recorded stop :: since)
    (unlifted : ∀ caller other, .lifted caller other ∉ since) : plight = .paused stop := by
  induction after generalizing since with
  | nil => exact absurd split.symm (List.append_ne_nil_of_right_ne_nil _ (List.cons_ne_nil _ _))
  | snoc sofar step ih =>
    rcases List.eq_nil_or_concat since with rfl | ⟨rest, last, rfl⟩
    · obtain ⟨rfl, same⟩ := List.append_inj' split rfl
      cases same
      cases step
      rfl
    · rw [List.concat_eq_append] at split unlifted
      rw [← List.cons_append, ← List.append_assoc] at split
      obtain ⟨rfl, same⟩ := List.append_inj' split rfl
      cases same
      cases ih rfl fun caller other member => unlifted caller other (List.mem_append_left _ member)
      cases step with
      | lifted caller stop =>
        exact absurd (List.mem_append_right _ (List.mem_singleton_self _)) (unlifted caller stop)
      | published | dropped | returned => rfl

namespace Chronicle

variable {env : Environment} {s t : Session} {earlier deeds : List Deed} {settings : Settings}
  {fallback : Release} {hosted : HostedEngine}

/-- **What the listener is past between two moments**, with what is unread at the second, is what was
unread at the first and what the engine has entered since. -/
theorem hears (before : Chronicle env (.fresh settings fallback hosted) earlier s)
    (run : Chronicle env s deeds t) (verbless : env.Verbless) (owned : env.Owned)
    (made : hosted.engine.Made) {read : Nat} (reads : s.listening.read? = some read)
    (spared : t.phase ≠ .disposed) :
    s.hosted.engine.history.size ≤ t.hosted.engine.history.size ∧
      ∃ further, t.listening.read? = some further ∧
        Deed.passed deeds ++ t.hosted.engine.stopsFrom further =
          s.hosted.engine.stopsFrom read ++
            t.hosted.engine.stopsFrom s.hosted.engine.history.size := by
  induction run with
  | rest =>
    refine ⟨Nat.le_refl _, read, reads, ?_⟩
    rw [Engine.stopsFrom_of_le (Nat.le_refl _), List.append_nil]
    rfl
  | @move deeds t u m run allowed moved ih =>
    have sofar := before.trans run
    obtain ⟨j, course⟩ := sofar.course .empty
    have alive := (course.alive owned (Session.orderly_fresh settings fallback hosted)
      (Session.alive_fresh settings fallback hosted)).2
    have early : t.phase ≠ .disposed := fun disposed => spared (Session.disposed_after moved disposed)
    have live : t.shutdown = false :=
      Bool.eq_false_iff.mpr fun fired => early (alive.sane.shut fired)
    obtain ⟨grows, further, later, heard⟩ := ih early
    obtain ⟨next, last, hears⟩ := Session.hears_after later live sofar.publishes.unborn moved
    have reports := Session.reports_after (sofar.after verbless made).1.lawful
      (fun engine same => verbless t engine (same ▸ allowed)) moved
    refine ⟨Nat.le_trans grows reports.grows, next, last, ?_⟩
    calc Deed.passed (deeds ++ (t.deed? m u).toList) ++ u.hosted.engine.stopsFrom next
        = Deed.passed deeds ++ u.hosted.engine.stopsFrom further := by
          rw [Deed.passed_append, List.append_assoc, ← hears]
      _ = Deed.passed deeds ++ t.hosted.engine.stopsFrom further ++
            u.hosted.engine.stopsFrom t.hosted.engine.history.size := by
          rw [reports.stopsFrom_eq (sofar.within verbless made further later), List.append_assoc]
      _ = s.hosted.engine.stopsFrom read ++
            (t.hosted.engine.stopsFrom s.hosted.engine.history.size ++
              u.hosted.engine.stopsFrom t.hosted.engine.history.size) := by
          rw [heard, List.append_assoc]
      _ = s.hosted.engine.stopsFrom read ++
            u.hosted.engine.stopsFrom s.hosted.engine.history.size := by
          rw [← reports.stopsFrom_eq grows]

/-- The same, told of the stops that the listener has not come to. -/
theorem passes (before : Chronicle env (.fresh settings fallback hosted) earlier s)
    (run : Chronicle env s deeds t) (verbless : env.Verbless) (owned : env.Owned)
    (made : hosted.engine.Made) {read : Nat} (reads : s.listening.read? = some read)
    (spared : t.phase ≠ .disposed) :
    Deed.passed deeds ++ t.unheard =
      s.unheard ++ t.hosted.engine.stopsFrom s.hosted.engine.history.size := by
  obtain ⟨_, further, later, heard⟩ := before.hears run verbless owned made reads spared
  unfold Session.unheard
  rw [reads, later]
  exact heard

end Chronicle

/-! ### A session that waits -/

namespace HostedEngine

variable {h : HostedEngine}

/-- A gate leaves what the debugger refuses as it is. -/
theorem letThrough_refusal (h : HostedEngine) : h.letThrough.2.refusal = h.refusal := by
  unfold letThrough
  split
  · rfl
  · split <;> rfl

/-- A run begun leaves what the debugger refuses as it is. -/
theorem invoke_refusal (h : HostedEngine) (pipeline : Pipeline) :
    (h.invoke pipeline).2.refusal = h.refusal := by
  have refusal := h.letThrough_refusal
  unfold invoke
  split <;> rename_i passed <;> rw [passed] at refusal
  · exact refusal
  · split <;> exact refusal

/-- A question leaves what the debugger refuses as it is. -/
theorem askVariable_refusal (h : HostedEngine) (name : String) :
    (h.askVariable name).2.refusal = h.refusal := by
  have refusal := h.letThrough_refusal
  unfold askVariable
  split <;> rename_i passed <;> rw [passed] at refusal <;> exact refusal

/-- A question leaves what the debugger refuses as it is. -/
theorem askRelease_refusal (h : HostedEngine) : h.askRelease.2.refusal = h.refusal := by
  have refusal := h.letThrough_refusal
  unfold askRelease
  split <;> rename_i passed <;> rw [passed] at refusal <;> exact refusal

end HostedEngine

/-- No effect changes what the debugger refuses. -/
theorem Effect.refusal {s t : Session} {order : Order} {before after : Bool}
    (effect : Effect s order before t after) : t.hosted.refusal = s.hosted.refusal := by
  cases effect with
  | apply verb asked hosted applied =>
    obtain ⟨f, _, rfl⟩ := HostedEngine.resume_ok applied
    rfl
  | command pipeline shape asked dialect ticket hosted posted =>
    obtain ⟨f, _, rfl⟩ := HostedEngine.command_ok posted
    rfl
  | pause asked dialect hosted switched =>
    rw [HostedEngine.pause_ok switched]
  | _ => rfl

namespace Session

variable {s t : Session} {move : Move}

theorem follow_refusal (s : Session) (request : Request) (routine : Routine) :
    (s.follow request routine).hosted.refusal = s.hosted.refusal := by
  cases routine with
  | invoke pipeline next =>
    have refusal := s.hosted.invoke_refusal pipeline
    rw [follow]
    generalize s.hosted.invoke pipeline = asked at refusal
    obtain ⟨result, hosted⟩ := asked
    cases result <;> exact refusal
  | askVariable name next => exact s.hosted.askVariable_refusal name
  | askRelease next => exact s.hosted.askRelease_refusal
  | _ => rfl

/-- **Only the host decides what its debugger refuses.** -/
theorem refusal_after (others : ∀ held heldFor present refusal,
    move ≠ .host held heldFor present refusal) (moved : s.after move = some t) :
    t.hosted.refusal = s.hosted.refusal := by
  cases move with
  | act actor =>
    cases actor with
    | call caller =>
      obtain ⟨call, next, found, advances⟩ := advance_advances moved
      obtain ⟨u, effect, books⟩ := advances.effect
      have same : t.hosted = u.hosted := by rw [books]
      rw [same]
      exact effect.refusal
    | listener => rw [listen_changes moved]
    | engine =>
      obtain ⟨engine, _, rfl⟩ := Option.map_eq_some_iff.mp moved
      rfl
    | thread =>
      have taken : s.work = some t := moved
      unfold work at taken
      split at taken
      · cases taken
      · cases taken
        exact follow_refusal s _ _
      · obtain ⟨outcome, _, rfl⟩ := Option.map_eq_some_iff.mp taken
        rfl
      · cases taken
    | driver => rw [drive_changes moved]
    | backoff => rw [ring_changes moved]
    | timeout caller => rw [expire_books moved]
  | host held heldFor present refusal => exact absurd rfl (others held heldFor present refusal)
  | _ =>
    cases moved
    rfl

end Session

/-- A session left to itself but for some orders, and for what others do to its engine short of verbs,
over a debugger that takes every verb. -/
def Environment.shared (orders : List Order) : Environment := fun s move =>
  (Environment.only orders s move ∨ ∃ engine, move = .outside engine ∧ s.hosted.engine.Used engine) ∧
    s.hosted.refusal = none

namespace Environment

variable {orders : List Order}

theorem shared_verbless (orders : List Order) : (shared orders).Verbless := by
  rintro s engine ⟨alone | ⟨_, same, used⟩, _⟩
  · exact absurd alone (only_private orders s engine)
  · cases same
    exact used

theorem shared_owned (orders : List Order) : (shared orders).Owned := by
  rintro s ⟨alone | ⟨_, other, _⟩, _⟩
  · exact only_owned orders s alone
  · cases other

theorem shared_honest (orders : List Order) : (shared orders).Honest := by
  rintro s caller ⟨_, willing⟩ given
  cases willing.symm.trans given

end Environment

/-- A debugger that takes every verb goes on to do so. -/
theorem Chronicle.shared {orders : List Order} {s t : Session} {deeds : List Deed}
    (chronicle : Chronicle (.only orders) s deeds t) (willing : s.hosted.refusal = none) :
    Chronicle (.shared orders) s deeds t ∧ t.hosted.refusal = none := by
  induction chronicle with
  | rest => exact ⟨.rest, willing⟩
  | move m before allowed moved ih =>
    obtain ⟨chronicle, none⟩ := ih
    refine ⟨chronicle.move m ⟨.inl allowed, none⟩ moved, (Session.refusal_after ?_ moved).trans none⟩
    rintro held heldFor present refusal rfl
    rcases allowed with ⟨actor, other⟩ | ⟨order, _, other⟩ <;> cases other

namespace Session

/-- A session that has been started, and is left to itself. -/
def opened : Session :=
  plain.carryOut [.start]

end Session

/-- What callers ask for who run a script that waits in the debugger. -/
def Order.stopping : List Order :=
  [.start, .submit (.script "Wait-Debugger")]

/-- How a session comes to be started. -/
theorem Chronicle.exists_opening : ∃ earlier,
    Chronicle (.shared Order.stopping) Session.plain earlier Session.opened ∧
      Session.opened.hosted.refusal = none := by
  obtain ⟨_, course⟩ := Session.plain.exists_course_carryOut .empty [.start]
  obtain ⟨earlier, chronicle⟩ := course.chronicle
  refine ⟨earlier, (chronicle.weaken (Environment.only_mono fun order member => ?_)).shared rfl⟩
  exact List.mem_cons.mpr (.inl (List.mem_singleton.mp member))

/-- The moves by which a session that is started comes to run that script, until its engine stops. The
listener takes none. -/
def Move.stopping : List Move :=
  [.order (.submit (.script "Wait-Debugger")), .act (.call 2), .act (.call 2), .act (.call 2),
    .act .driver, .act .driver, .act .driver, .act .driver, .act .thread, .act .engine]

/-- The engine runs what was sent into its stop, and only then does the listener read. -/
def Move.late : List Move :=
  .act .engine :: List.replicate 257 (.act .listener)

/-- A pipeline that makes more reports than the channel holds. -/
def Pipeline.flood : Pipeline :=
  ⟨List.replicate 257 (.command "Set-PSBreakpoint" [.positional (.int 7)])⟩

namespace Session

/-- A session whose engine has stopped, before the listener has come to the report of that. -/
def overtaken : Session :=
  (opened.play Move.stopping).getD opened

theorem play_stopping : opened.play Move.stopping = some overtaken := by
  have possible : (opened.play Move.stopping).isSome = true := by decide +kernel
  obtain ⟨t, played⟩ := Option.isSome_iff_exists.mp possible
  rw [overtaken, played]
  rfl

/-- The same session, where somebody else has sent that pipeline into the stop. -/
def besieged : Session :=
  match overtaken.hosted.engine.command .flood with
  | .ok (_, engine) => { overtaken with hosted := { overtaken.hosted with engine } }
  | .error _ => overtaken

theorem after_overtaken : ∃ engine, overtaken.hosted.engine.Used engine ∧
    overtaken.after (.outside engine) = some besieged := by
  have stopped : overtaken.hosted.engine.isStopped = true := by decide +kernel
  have taken : ∃ ticket engine, overtaken.hosted.engine.command .flood = .ok (ticket, engine) := by
    unfold Engine.command
    rw [if_pos stopped]
    exact ⟨_, _, rfl⟩
  obtain ⟨ticket, engine, sent⟩ := taken
  refine ⟨engine, .command _ ticket sent, ?_⟩
  rw [besieged, sent]
  rfl

/-- Whether a session takes itself to be active that runs a script, has taken in the last report and
has no call, although its engine waits in the debugger. -/
def overlooks (t : Session) : Bool :=
  t.listening = .reading t.hosted.engine.history.size ∧ t.calls.isEmpty ∧
    t.hosted.engine.verbsWaiting = 0 ∧ t.hosted.engine.stop? = some ⟨.waitDebugger, 1⟩ ∧
    t.standing = .active ∧ t.phase = .running

end Session

/-- How a session comes to be overtaken: the script is run until the engine stops, and somebody else sends
the pipeline into the stop. -/
theorem Chronicle.exists_besieging (willing : Session.opened.hosted.refusal = none) : ∃ deeds,
    Chronicle (.shared Order.stopping) Session.opened deeds Session.besieged ∧
      Session.besieged.hosted.refusal = none := by
  have stops : ∃ deeds, Chronicle (.only Order.stopping) Session.opened deeds Session.overtaken := by
    refine Session.exists_chronicle_play (fun move member u => ?_) Session.play_stopping
    rcases List.mem_cons.mp member with rfl | acts
    · exact .inr ⟨_, List.mem_cons_of_mem _ (List.mem_singleton_self _), rfl⟩
    · simp only [List.mem_cons, List.not_mem_nil, or_false] at acts
      rcases acts with rfl | rfl | rfl | rfl | rfl | rfl | rfl | rfl | rfl <;> exact .inl ⟨_, rfl⟩
  obtain ⟨_, stops⟩ := stops
  obtain ⟨stops, willing⟩ := stops.shared willing
  obtain ⟨engine, used, moved⟩ := Session.after_overtaken
  exact ⟨_, stops.move (.outside engine) ⟨.inr ⟨engine, rfl, used⟩, willing⟩ moved,
    (Session.refusal_after (fun _ _ _ _ other => by cases other) moved).trans willing⟩

/-- **A listener that is past the last report may have missed a stop**, where others send commands past
the session: not all that was reported has been pumped. The engine stops, and before the listener has
come to the report of that, somebody else has a pipeline run in the stop that makes more reports than the
channel holds. When the listener has come to the last of them, the session takes itself to be active. -/
theorem Chronicle.stop_dropped : ∃ earlier deeds t,
    Chronicle (.shared Order.stopping) Session.plain earlier Session.opened ∧
    Chronicle (.shared Order.stopping) Session.opened deeds t ∧ t.CaughtUp ∧ t.Unresumed ∧
    t.hosted.engine.stop? = some ⟨.waitDebugger, 1⟩ ∧ t.standing = .active ∧
    Deed.losses (earlier ++ deeds) ≠ [] := by
  obtain ⟨earlier, start, willing⟩ := exists_opening
  obtain ⟨_, besieged, willing⟩ := exists_besieging willing
  have overlooked : (Session.besieged.play Move.late).any Session.overlooks = true := by
    decide +kernel
  cases reached : Session.besieged.play Move.late with
  | none =>
    rw [reached] at overlooked
    cases overlooked
  | some t =>
    rw [reached] at overlooked
    obtain ⟨caught, idle, verbless, inside, active, running⟩ := of_decide_eq_true overlooked
    have reads : ∃ deeds, Chronicle (.only Order.stopping) Session.besieged deeds t := by
      refine Session.exists_chronicle_play (fun move member u => ?_) reached
      rcases List.mem_cons.mp member with rfl | reading
      · exact .inl ⟨_, rfl⟩
      · exact .inl ⟨.listener, List.eq_of_mem_replicate reading⟩
    obtain ⟨_, reads⟩ := reads
    have run := besieged.trans (reads.shared willing).1
    have unresumed : t.Unresumed := .of_calls idle verbless
    refine ⟨earlier, _, t, start, run, caught, unresumed, inside, active, fun lossless => ?_⟩
    -- Had no stop been dropped, the session would be paused.
    have watchful := (start.trans run).watchful (Environment.shared_verbless _)
      (Environment.shared_owned _) (Environment.shared_honest _) (.fresh _ _)
    have alert := (watchful.alert (by rw [running]; decide)).resolve_left fun early => by
      cases early.phase.symm.trans running
    have paused := alert.standing lossless watchful.faithful caught unresumed
    rw [active, inside] at paused
    cases paused

end ShellSession
