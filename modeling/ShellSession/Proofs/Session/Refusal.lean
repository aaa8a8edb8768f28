/-
**A call is refused before it leaves a trace, or not at all.**

A call that is asked for at the wrong time is refused, and so is a resume that the debugger does not
carry out. With nobody else about, a call comes to a point behind which it is not refused any more: a
start that finds the session not started, a submission that has been let in, a nested execution whose
command has been taken, an abort that finds the session at work. Up to there it has left no trace, and
a refusal leaves none.

* `Order.isRefusedBy`: the failures by which a call is refused;
* `Call.Commits`: a call that is not refused any more;
* `Call.Commits.step`, `Session.commits_after`: it stays so;
* `Session.Visits.advance`: **every step of a call that has left no trace leaves none, unless it
  commits the call**.
-/

import ShellSession.Proofs.Session.Visit

namespace ShellSession

/-- A call that has noted its verb holds the gate. -/
theorem Call.gated_of_noted {call : Call} (noted : call.standpoint.isNoted = true) :
    call.isGated = true := by
  have within {stage : Resuming} (noted : (Standpoint.within stage).isNoted = true) :
      stage.isGated = true := by
    cases stage <;> first | rfl | cases noted
  have aborting {stage : Aborting} (noted : stage.standpoint.isNoted = true) :
      stage.isGated = true := by
    cases stage with
    | resuming inner => exact within noted
    | _ => cases noted
  have disposing {stage : Disposing} (noted : stage.standpoint.isNoted = true) :
      stage.isGated = true := by
    cases stage with
    | aborting inner => exact aborting noted
    | _ => cases noted
  cases call with
  | start guarded =>
    cases guarded with
    | entering => cases noted
    | inside stage =>
      cases stage with
      | failing error inner => exact disposing noted
      | _ => cases noted
  | resume verb stage => exact within noted
  | abort guarded =>
    cases guarded with
    | entering => cases noted
    | inside stage => exact aborting noted
  | dispose guarded =>
    cases guarded with
    | entering => cases noted
    | inside stage => exact disposing noted
  | _ => cases noted

/-! ### Refusals -/

/-- The failures by which a call is refused: it was made at the wrong time; or it is a resume that fails
for any other reason than that the engine is not stopped any more. -/
def Order.isRefusedBy : Order → SessionFailure → Bool
  | resume _, error => !error.saysNotStopped
  | _, error => error.isUsage

/-- A result by which a call is not refused. -/
def Order.Spares {α : Type} (order : Order) (result : Except SessionFailure α) : Prop :=
  ∀ error, result = .error error → order.isRefusedBy error = false

theorem Order.Spares.map {α β : Type} {order : Order} {result : Except SessionFailure α}
    (spares : order.Spares result) (f : α → β) : order.Spares (result.map f) := by
  intro error same
  cases result with
  | ok value => cases same
  | error other =>
    cases same
    exact spares _ rfl

theorem Order.spares_ok {α : Type} (order : Order) (value : α) : order.Spares (.ok value) :=
  fun _ other => by cases other

/-- A call that is not refused any more. -/
def Call.Commits (s : Session) (caller : Nat) : Call → Prop
  | submit _ (.finished (.ok _)) => True
  | nested _ _ (.awaiting _) => True
  | nested pipeline shape (.leaving result) => (Order.nested pipeline shape).Spares result
  | nested pipeline shape (.finished result) => (Order.nested pipeline shape).Spares result
  | resume verb (.leaving result) => (Order.resume verb).Spares result
  | resume verb (.finished result) => (Order.resume verb).Spares result
  | abort (.inside (.resuming _)) =>
    Session.holds s.lifecycle caller = true ∧ s.phase.accepts = true
  | abort (.inside .moving) => Session.holds s.lifecycle caller = true ∧ s.phase.accepts = true
  | abort (.inside .closing) => True
  | abort (.inside (.finished (.ok _))) => True
  | dispose _ => True
  | _ => False

namespace Session

variable {s t u v : Session} {caller : Nat} {call later : Call} {move : Move} {order : Order}

/-- A call of an order that is not refused any more, or has returned without being refused. -/
def Commits (s : Session) (order : Order) (caller : Nat) : Prop :=
  s.Follows caller (fun call => call.order = order ∧ call.Commits s caller) order.Spares

/-- What a step leaves behind that returns a result to the caller. -/
theorem left_of_giveBack {reply : Except SessionFailure Reply} {stages : Call → Prop}
    {answers : Except SessionFailure Reply → Prop} (replies : u.replies = s.replies)
    (answer : answers reply) :
    (∀ later, (caller, later) ∈ (u.giveBack caller reply).calls → stages later) ∧
      ∀ other, (caller, other) ∈ (u.giveBack caller reply).replies →
        (caller, other) ∈ s.replies ∨ answers other := by
  refine ⟨fun later member => absurd member (not_mem_giveBack _), fun other replied => ?_⟩
  rcases List.mem_append.mp replied with before | now
  · exact .inl (replies ▸ before)
  · rw [(Prod.mk.inj (List.mem_singleton.mp now)).2]
    exact .inr answer

/-- What a step leaves behind that takes the call to its next stage. -/
theorem left_of_proceed {stages : Call → Prop} {answers : Except SessionFailure Reply → Prop}
    (replies : u.replies = s.replies) (stage : stages later) :
    (∀ other, (caller, other) ∈ (u.proceed caller later).calls → stages other) ∧
      ∀ reply, (caller, reply) ∈ (u.proceed caller later).replies →
        (caller, reply) ∈ s.replies ∨ answers reply :=
  ⟨fun other member => by rw [eq_of_mem_proceed member]; exact stage,
    fun reply replied => .inl (replies ▸ replied)⟩

end Session

section Committed

variable {s t u : Session} {caller : Nat} {call : Call} {move : Move}

/-- An abort that has got through to its end is not refused. -/
theorem Aborting.step_commits {stage next : Aborting}
    (commits : (Call.abort (.inside stage)).Commits s caller)
    (stepped : stage.step caller s = some (u, next)) :
    (Call.abort (.inside next)).Commits (u.proceed caller (.abort (.inside next))) caller := by
  have affects : s.Affects .abort stage.grips u next.grips := Aborting.step_effect rfl stepped
  have lifecycle : u.lifecycle = s.lifecycle := by
    obtain ⟨v, effect, books⟩ := affects
    rw [books]
    exact effect.same_books.1
  cases goes_of_step stepped with
  | late | early | paused | active => exact commits.elim
  | resume inner later t same =>
    obtain ⟨held, accepts⟩ : Session.holds s.lifecycle caller = true ∧ s.phase.accepts = true :=
      commits
    have phase : u.phase = s.phase := congrArg Life.phase (Resuming.step_life same)
    show Session.holds u.lifecycle caller = true ∧ u.phase.accepts = true
    rw [lifecycle, phase]
    exact ⟨held, accepts⟩
  | resumed result => exact commits
  | stay leads =>
    obtain ⟨_, accepts⟩ : Session.holds s.lifecycle caller = true ∧ s.phase.accepts = true := commits
    have free : s.phase.leadsTo .aborting = true := by
      cases phase : s.phase <;> rw [phase] at accepts <;> first | rfl | cases accepts
    cases free.symm.trans leads
  | move | close => trivial

/-- A nested execution whose command has been taken is not refused. -/
theorem Nesting.step_commits {pipeline : Pipeline} {shape : Shape} {stage next : Nesting}
    (commits : (Call.nested pipeline shape stage).Commits s caller)
    (stepped : stage.step caller pipeline shape s = some (u, next)) :
    (Call.nested pipeline shape next).Commits (u.proceed caller (.nested pipeline shape next))
      caller := by
  cases goes_of_step stepped with
  | answer ticket values found =>
    intro error same
    unfold decoded at same
    simp only at same
    split at same
    · cases same
    · cases same
      rfl
  | fail ticket error found =>
    rintro other ⟨⟩
    rfl
  | leave result => exact commits
  | _ => exact commits.elim

/-- **A call that is not refused any more is not refused**: its own steps keep it so. -/
theorem Call.Commits.step (commits : call.Commits s caller)
    (taken : s.advanceCall caller call = some t) :
    (∀ later, (caller, later) ∈ t.calls → later.order = call.order ∧ later.Commits t caller) ∧
      ∀ reply, (caller, reply) ∈ t.replies →
        (caller, reply) ∈ s.replies ∨ call.order.Spares reply := by
  cases Session.takes_of_advanceCall taken with
  | line later lines =>
    cases lines with
    | dispose => exact Session.left_of_proceed rfl ⟨rfl, trivial⟩
    | _ => exact commits.elim
  | stage u later goes =>
    refine Session.left_of_proceed goes.affects.same_replies ⟨goes.order, ?_⟩
    cases goes with
    | start stage next u held stepped => exact commits.elim
    | submit payload stage next u stepped =>
      cases stage with
      | finished result => cases stepped
      | _ => exact commits.elim
    | nested pipeline shape stage next u stepped => exact Nesting.step_commits commits stepped
    | resume verb stage next u stepped =>
      cases Resuming.goes_of_step stepped with
      | leave result => exact commits
      | _ => exact commits.elim
    | abort stage next u held stepped => exact Aborting.step_commits commits stepped
    | dispose stage next u held stepped => trivial
  | reply result returns =>
    refine Session.left_of_giveBack rfl ?_
    cases returns with
    | start result => exact commits.elim
    | submit payload result | abort result =>
      cases result with
      | ok value => exact Order.spares_ok _ _
      | error error => exact commits.elim
    | nested pipeline shape result | resume verb result => exact Order.Spares.map commits _
    | dispose => exact Order.spares_ok _ _
  | pause asked =>
    subst asked
    exact commits.elim

/-- The moves of others keep a call so that is not refused any more. -/
theorem Call.Commits.elsewhere (commits : call.Commits s caller)
    (apart : move ≠ .act (.call caller)) (moved : s.after move = some t) : call.Commits t caller := by
  have held (both : Session.holds s.lifecycle caller = true ∧ s.phase.accepts = true) :
      Session.holds t.lifecycle caller = true ∧ t.phase.accepts = true := by
    refine ⟨Session.holds_after both.1 apart moved, ?_⟩
    rcases Session.phase_while_held both.1 apart moved with same | ⟨_, accepts⟩
    · rw [same]
      exact both.2
    · exact accepts
  cases call with
  | abort guarded =>
    cases guarded with
    | entering => exact commits
    | inside stage =>
      cases stage with
      | resuming inner => exact held commits
      | moving => exact held commits
      | finished result => cases result <;> exact commits
      | _ => exact commits
  | submit payload stage =>
    cases stage with
    | finished result => cases result <;> exact commits
    | _ => exact commits
  | nested pipeline shape stage => cases stage <;> exact commits
  | resume verb stage => cases stage <;> exact commits
  | _ => exact commits

end Committed

namespace Session

variable {s t u v : Session} {caller : Nat} {call later : Call} {move : Move} {order : Order}

/-- **Every move keeps a call so that is not refused any more.** -/
theorem commits_after (commits : s.Commits order caller) (moved : s.after move = some t) :
    t.Commits order caller := by
  by_cases own : move = .act (.call caller)
  · subst own
    obtain ⟨call, found, taken⟩ := Option.bind_eq_some_iff.mp moved
    have mine := mem_of_lookup found
    obtain ⟨next, advances⟩ := advanceCall_advances taken
    obtain ⟨rfl, commit⟩ := commits.going call mine
    obtain ⟨going, answered⟩ := commit.step taken
    exact Follows.mine commits mine advances going answered
  have further : s.Follows caller (fun call => call.order = order ∧ call.Commits t caller)
      order.Spares :=
    commits.weaken (fun call _ commit => ⟨commit.1, commit.2.elsewhere own moved⟩) fun _ => id
  by_cases late : move = .act (.timeout caller)
  · -- Only a dispose is taken on in time, for a start is not among these calls.
    subst late
    obtain ⟨call, following, mine, expires, rfl⟩ := expires_of_expire moved
    obtain ⟨same, commit⟩ := further.going call mine
    refine ⟨further.begun, fun other member => ?_, further.answered,
      .inl ⟨following, mem_proceed_self mine⟩⟩
    rw [eq_of_mem_proceed member]
    refine ⟨expires.order.trans same, ?_⟩
    cases expires with
    | dispose expires => trivial
    | start error expires => exact commit.elim
  · exact further.elsewhere moved own late

/-- How far a call has come that had left no trace when it began: it has still left none; it is not
refused any more; it is a start that is the first in line; or it has been refused. -/
inductive Treads (v : Session) (order : Order) (t : Session) : Prop
  | visits {later : Call} (same : later.order = order) (visits : v.Visits later t)
  | commits (commits : t.Commits order (v.lastCall + 1))
  | inaugurates (starts : order = .start) (inaugurates : t.Inaugurates (v.lastCall + 1))
  | refused (error : SessionFailure) (same : t = v.refused error)

/-- A call in progress has not returned. -/
theorem Orderly.pending {answers : Except SessionFailure Reply → Prop} (orderly : s.Orderly)
    (mine : (caller, call) ∈ s.calls) : s.Follows caller (fun _ => True) answers where
  begun := orderly.numbered _ mine
  going := fun _ _ => trivial
  answered := fun _ replied => absurd rfl ((orderly.returned _ replied).2 _ mine)
  present := .inl ⟨call, mine⟩

/-- A step that commits a call, or returns a result by which it is not refused. -/
theorem Orderly.commit (orderly : s.Orderly) (mine : (caller, call) ∈ s.calls)
    (taken : s.advanceCall caller call = some t)
    (left : (∀ later, (caller, later) ∈ t.calls → later.order = order ∧ later.Commits t caller) ∧
      ∀ reply, (caller, reply) ∈ t.replies → (caller, reply) ∈ s.replies ∨ order.Spares reply) :
    t.Commits order caller := by
  obtain ⟨next, advances⟩ := advanceCall_advances taken
  exact (orderly.pending mine).mine mine advances left.1 left.2

/-- The holder of the gate that has not noted a verb finds none noted: another call that had noted its
verb would hold the gate. -/
theorem AtGate.unnoted (atGate : s.AtGate) (orderly : s.Orderly) (mine : (caller, call) ∈ s.calls)
    (held : holds s.gate caller = true) (unmarked : call.standpoint.isNoted = false) {stop : Stop}
    {verb : Option Verb} (paused : s.standing = .paused stop verb) : verb = none := by
  refine Option.eq_none_iff_forall_ne_some.mpr fun noted same => ?_
  subst same
  obtain ⟨entry, member, mark⟩ := atGate.noted stop noted paused
  have number := orderly.eq_of_gated member (Call.gated_of_noted mark) held
  rw [orderly.eq_of_number member mine number, unmarked] at mark
  cases mark

namespace Visits

variable {now : Standing}

/-- The call is in progress. -/
theorem mem (v : Session) (call : Call) (now : Standing) :
    (v.lastCall + 1, call) ∈ (v.visited call now).calls :=
  List.mem_append_right _ (List.mem_singleton_self _)

/-- A resume that has left no trace. -/
theorem resume {verb : Verb} {stage : Resuming} (numbered : v.Numbered) (orderly : s.Orderly)
    (atGate : s.AtGate) (visits : v.Visits (.resume verb stage) s)
    (taken : s.advanceCall (v.lastCall + 1) (.resume verb stage) = some t) :
    v.Treads (.resume verb) t := by
  obtain ⟨now, rfl, traceless⟩ := visits
  have mine := mem v (.resume verb stage) now
  have stay (later : Resuming) (traceless : later.Traceless v.standing now)
      (same : later.isAtGate = stage.isAtGate) : v.Treads (.resume verb)
        ((v.visited (.resume verb stage) now).proceed (v.lastCall + 1) (.resume verb later)) :=
    .visits rfl (.stay numbered (.resume verb later) traceless rfl same)
  rcases advanceResume_cases taken with ⟨result, rfl, rfl⟩ | ⟨u, next, stepped, rfl⟩
  · cases result with
    | ok done => exact traceless.elim
    | error error =>
      obtain ⟨_, rfl⟩ : error.saysNotStopped = false ∧ now = v.standing := traceless
      exact .refused error (giveBack_visited numbered rfl)
  have affects : Affects _ (.resume verb) stage.grips u next.grips :=
    Resuming.step_effect rfl stepped
  have commit (commits : (Call.resume verb next).Commits
      (u.proceed (v.lastCall + 1) (.resume verb next)) (v.lastCall + 1)) :
      v.Treads (.resume verb) (u.proceed (v.lastCall + 1) (.resume verb next)) :=
    .commits (orderly.commit mine taken
      (left_of_proceed affects.same_replies ⟨rfl, commits⟩))
  cases Resuming.goes_of_step stepped with
  | bound | paused => exact stay _ traceless rfl
  | unbound | active => exact stay _ ⟨rfl, traceless⟩ rfl
  | enter => exact .visits rfl (.turn numbered (.resume verb .noting) now rfl traceless)
  | note stop other held paused =>
    obtain rfl : now = .paused stop other := paused
    obtain rfl : other = none := atGate.unnoted orderly mine held rfl rfl
    exact .visits rfl (.turn numbered (.resume verb .clearing) (.paused stop (some verb)) rfl
      ⟨stop, Eq.symm traceless, .inr ⟨verb, rfl⟩⟩)
  | missed held active => exact stay (.leaving (.error .notPaused)) ⟨rfl, traceless⟩ rfl
  | lift stop other paused =>
    obtain rfl : now = .paused stop other := paused
    obtain ⟨before, same, lifts⟩ : ∃ before, v.standing = .paused before none ∧
      (Standing.paused stop other = v.standing ∨
        ∃ verb, Standing.paused stop other = .paused before (some verb)) := traceless
    have stops : v.standing = .paused stop none := by
      rcases lifts with here | ⟨noted, here⟩
      · rw [same] at here ⊢
        cases here
        rfl
      · cases here
        exact same
    exact .visits rfl (.turn numbered (.resume verb (.applying stop)) .active rfl
      ⟨by rw [stops]; rfl, .inr ⟨rfl, stops⟩⟩)
  | gone active =>
    -- A trace of the pause is there until it is lifted.
    obtain rfl : now = .active := active
    obtain ⟨before, same, here | ⟨noted, here⟩⟩ : ∃ before, v.standing = .paused before none ∧
      (Standing.active = v.standing ∨ ∃ verb, Standing.active = .paused before (some verb)) :=
        traceless
    · cases here.trans same
    · cases here
  | apply stop hosted applied => exact commit (Order.spares_ok _ _)
  | lose stop error refused claims =>
    refine commit fun other same => ?_
    cases same
    show (!error.saysNotStopped) = false
    rw [claims]
    rfl
  | fail stop error refused claims => exact stay _ ⟨claims, traceless⟩ rfl
  | restore stop error =>
    obtain ⟨other, paused, restored⟩ : error.saysNotStopped = false ∧ v.standing.isPaused = true ∧
      (now = v.standing ∨ now = .active ∧ v.standing = .paused stop none) := traceless
    rcases restored with rfl | ⟨rfl, before⟩
    · have same : (v.visited (.resume verb (.restoring stop error)) v.standing).restorePause stop = _ :=
        restorePause_of_paused stop paused
      rw [same]
      exact stay _ ⟨other, rfl⟩ rfl
    · exact .visits rfl (.turn numbered (.resume verb (.leaving (.error error)))
        (.paused stop none) rfl ⟨other, before.symm⟩)
  | leave result =>
    cases result with
    | ok done => exact traceless.elim
    | error error => exact .visits rfl (.turn numbered (.resume verb (.finished (.error error))) now
        (leaveGate_visited numbered rfl) traceless)

/-- A nested execution that has left no trace. -/
theorem nested {pipeline : Pipeline} {shape : Shape} {stage : Nesting} (numbered : v.Numbered)
    (orderly : s.Orderly) (visits : v.Visits (.nested pipeline shape stage) s)
    (taken : s.advanceCall (v.lastCall + 1) (.nested pipeline shape stage) = some t) :
    v.Treads (.nested pipeline shape) t := by
  obtain ⟨now, rfl, traceless⟩ := visits
  obtain ⟨clean, rfl⟩ : stage.isTraceless = true ∧ now = v.standing := traceless
  have mine := mem v (.nested pipeline shape stage) v.standing
  have stay (later : Nesting) (traceless : later.isTraceless = true)
      (same : later.isAtGate = stage.isAtGate) : v.Treads (.nested pipeline shape)
        ((v.visited (.nested pipeline shape stage) v.standing).proceed (v.lastCall + 1)
          (.nested pipeline shape later)) :=
    .visits rfl (.stay numbered (.nested pipeline shape later) ⟨traceless, rfl⟩ rfl same)
  rcases advanceNested_cases taken with ⟨result, rfl, rfl⟩ | ⟨u, next, stepped, rfl⟩
  · cases result with
    | ok answer => cases clean
    | error error => exact .refused error (giveBack_visited numbered rfl)
  have affects : Affects _ (.nested pipeline shape) false u false := Nesting.step_effect stepped
  cases Nesting.goes_of_step stepped with
  | enter dialect =>
    exact .visits rfl (.turn numbered (.nested pipeline shape (.relooking dialect)) v.standing rfl
      ⟨rfl, rfl⟩)
  | post dialect ticket hosted posted =>
    exact .commits (orderly.commit mine taken (left_of_proceed affects.same_replies ⟨rfl, trivial⟩))
  | answer | fail => cases clean
  | leave result =>
    cases result with
    | ok answer => cases clean
    | error error => exact .visits rfl (.turn numbered (.nested pipeline shape
        (.finished (.error error))) v.standing (leaveGate_visited numbered rfl) ⟨rfl, rfl⟩)
  | _ => exact stay _ rfl rfl

/-- A submission that has left no trace. It is not refused by the queue once it has been let in. -/
theorem submit {payload : Payload} {stage : Submitting} (numbered : v.Numbered)
    (orderly : s.Orderly) (sane : s.life.Sane) (visits : v.Visits (.submit payload stage) s)
    (taken : s.advanceCall (v.lastCall + 1) (.submit payload stage) = some t) :
    v.Treads (.submit payload) t := by
  obtain ⟨now, rfl, traceless⟩ := visits
  have mine := mem v (.submit payload stage) now
  rcases advanceSubmit_cases taken with ⟨result, rfl, rfl⟩ | ⟨u, next, stepped, rfl⟩
  · cases result with
    | ok id => exact traceless.elim
    | error error =>
      obtain rfl : now = v.standing := traceless
      exact .refused error (giveBack_visited numbered rfl)
  have affects : Affects _ (.submit payload) false u false := Submitting.step_effect stepped
  cases Submitting.goes_of_step stepped with
  | letIn accepts =>
    obtain rfl : now = v.standing := traceless
    exact .visits rfl (.stay numbered (.submit payload .pushing) ⟨accepts, rfl⟩ rfl rfl)
  | bar refuses =>
    obtain rfl : now = v.standing := traceless
    exact .visits rfl (.stay numbered (.submit payload (.finished (.error _))) rfl rfl rfl)
  | push opened =>
    exact .commits (orderly.commit mine taken (left_of_proceed affects.same_replies ⟨rfl, trivial⟩))
  | refuse closed =>
    obtain ⟨accepts, _⟩ : v.phase.accepts = true ∧ now = v.standing := traceless
    have late : v.phase.isLate = true := sane.closed closed
    rw [Phase.late_of_accepts accepts] at late
    cases late

/-- A pause that has left no trace. -/
theorem pause (numbered : v.Numbered) (orderly : s.Orderly) (visits : v.Visits .pause s)
    (taken : s.advanceCall (v.lastCall + 1) .pause = some t) : v.Treads .pause t := by
  obtain ⟨now, rfl, traceless⟩ := visits
  obtain rfl : now = v.standing := traceless
  have mine := mem v .pause v.standing
  have replies := (v.visited .pause v.standing).pauseEngine_effect.same_books.2.2.2.2
  have whole : some ((v.visited .pause v.standing).pauseEngine.1.giveBack (v.lastCall + 1)
      ((v.visited .pause v.standing).pauseEngine.2.map fun _ => .done)) = some t := taken
  cases outcome : (v.visited .pause v.standing).pauseEngine.2 with
  | ok done =>
    rw [outcome] at whole
    obtain rfl := Option.some.inj whole
    exact .commits (orderly.commit mine taken (left_of_giveBack replies (Order.spares_ok _ _)))
  | error error =>
    have still : (v.visited .pause v.standing).pauseEngine.1 = v.visited .pause v.standing := by
      unfold pauseEngine at outcome ⊢
      split
      · rfl
      · rename_i dialect bound
        rw [bound] at outcome
        simp only at outcome ⊢
        split
        · rfl
        · rename_i hosted paused
          rw [paused] at outcome
          cases outcome
    rw [outcome, still] at whole
    obtain rfl := Option.some.inj whole
    exact .refused error (giveBack_visited numbered rfl)

/-- A call that asks for the lifecycle lock. -/
theorem enter (numbered : v.Numbered) (later : Call) {now : Standing}
    (traceless : later.Traceless v now) (before : call.isInLine = false)
    (inLine : later.isInLine = true) (gate : call.isAtGate = later.isAtGate) :
    v.Visits later (((v.visited call now).enterLifecycle (v.lastCall + 1)).proceed
      (v.lastCall + 1) later) := by
  have books : (v.visited call now).enterLifecycle (v.lastCall + 1) = v.rebooked now
      (if later.isInLine then v.lifecycle ++ [v.lastCall + 1] else v.lifecycle)
      (if later.isAtGate then v.gate ++ [v.lastCall + 1] else v.gate) (v.lastCall + 1)
      (v.calls ++ [(v.lastCall + 1, call)]) v.replies := by
    unfold visited
    rw [before, inLine, gate]
    rfl
  exact .turn numbered later now books traceless

/-- A start that has left no trace. It goes on where the session has not been started. -/
theorem start {stage : Guarded Starting} {j : Journal} (numbered : v.Numbered) (kept : s.Kept j)
    (founded : s.Founded) (visits : v.Visits (.start stage) s)
    (taken : s.advanceCall (v.lastCall + 1) (.start stage) = some t) : v.Treads .start t := by
  obtain ⟨now, rfl, traceless⟩ := visits
  have mine := mem v (.start stage) now
  have orderly := kept.tidy.orderly
  rcases advanceStart_cases taken with ⟨rfl, rfl⟩ | ⟨result, rfl, rfl⟩ |
    ⟨inner, u, next, rfl, held, stepped, rfl⟩
  · exact .visits rfl (enter numbered (.start (.inside .checking)) traceless rfl rfl rfl)
  · cases result with
    | ok release => exact traceless.elim
    | error error =>
      obtain rfl : now = v.standing := traceless
      exact .refused error (giveBack_visited numbered rfl)
  · cases inner with
    | checking =>
      by_cases fresh : v.phase = .notStarted
      · have before : (v.visited (.start (.inside .checking)) now).Inaugurates (v.lastCall + 1) := by
          refine (orderly.pending mine).weaken (fun call member _ => ⟨held, .checking, ?_, fresh⟩)
            fun _ => id
          exact (Prod.mk.inj (orderly.eq_of_number member mine rfl)).2
        exact .inaugurates rfl (inaugurates_after before kept founded (orderly.act mine taken))
      · have stays : ∃ error, u = v.visited (.start (.inside .checking)) now ∧
            next = .finished (.error error) := by
          have phase : (v.visited (.start (.inside .checking)) now).phase = v.phase := rfl
          rw [Starting.step, phase] at stepped
          cases here : v.phase <;> rw [here] at stepped <;> cases stepped
          · exact absurd here fresh
          all_goals exact ⟨_, rfl, rfl⟩
        obtain ⟨error, rfl, rfl⟩ := stays
        exact .visits rfl (.stay numbered (.start (.inside (.finished (.error error)))) traceless rfl rfl)
    | finished result => cases stepped
    | _ => exact traceless.elim

/-- An abort that has left no trace. It goes on where the session accepts requests. -/
theorem abort {stage : Guarded Aborting} (numbered : v.Numbered) (orderly : s.Orderly)
    (visits : v.Visits (.abort stage) s)
    (taken : s.advanceCall (v.lastCall + 1) (.abort stage) = some t) : v.Treads .abort t := by
  obtain ⟨now, rfl, traceless⟩ := visits
  have mine := mem v (.abort stage) now
  rcases advanceAbort_cases taken with ⟨rfl, rfl⟩ | ⟨result, rfl, rfl⟩ |
    ⟨inner, u, next, rfl, held, stepped, rfl⟩
  · exact .visits rfl (enter numbered (.abort (.inside .checking)) traceless rfl rfl rfl)
  · cases result with
    | ok done => exact traceless.elim
    | error error =>
      obtain rfl : now = v.standing := traceless
      exact .refused error (giveBack_visited numbered rfl)
  · have affects : Affects _ .abort inner.grips u next.grips := Aborting.step_effect rfl stepped
    have commit (commits : (Call.abort (.inside next)).Commits
        (u.proceed (v.lastCall + 1) (.abort (.inside next))) (v.lastCall + 1)) :
        v.Treads .abort (u.proceed (v.lastCall + 1) (.abort (.inside next))) :=
      .commits (orderly.commit mine taken
        (left_of_proceed affects.same_replies ⟨rfl, commits⟩))
    have accepts (alive : v.phase = .ready ∨ v.phase = .running) : v.phase.accepts = true := by
      rcases alive with phase | phase <;> rw [phase] <;> rfl
    cases Aborting.goes_of_step stepped with
    | late ended => exact commit trivial
    | early phase =>
      exact .visits rfl (.stay numbered (.abort (.inside (.finished (.error _)))) traceless rfl rfl)
    | paused alive paused => exact commit ⟨held, accepts alive⟩
    | active alive active => exact commit ⟨held, accepts alive⟩
    | _ => exact traceless.elim

/-- **Every step of a call that has left no trace leaves none, unless it commits the call.** -/
theorem advance {j : Journal} (numbered : v.Numbered) (kept : s.Kept j) (founded : s.Founded)
    (atGate : s.AtGate) (visits : v.Visits call s)
    (taken : s.advanceCall (v.lastCall + 1) call = some t) : v.Treads call.order t := by
  have orderly := kept.tidy.orderly
  cases call with
  | start stage => exact visits.start numbered kept founded taken
  | submit payload stage => exact visits.submit numbered orderly kept.alive.sane taken
  | nested pipeline shape stage => exact visits.nested numbered orderly taken
  | pause => exact visits.pause numbered orderly taken
  | resume verb stage => exact visits.resume numbered orderly atGate taken
  | abort stage => exact visits.abort numbered orderly taken
  | dispose stage =>
    obtain ⟨_, _, traceless⟩ := visits
    exact traceless.elim

end Visits

end Session

end ShellSession
