/-
**A start is all or nothing.**

A start that is the first in line in a session that is not started asks its question and goes by the
answers. Either it records the release that they come to and makes the session ready, or it disposes
of the session, which then has neither a release nor debugger operations nor an engine. Nobody is let
in before the one, and nobody ever after the other.

* `startOutcome`: what the answers to the question come to;
* `Starting.Earnest`, `Session.Inaugurates`: a start that is the first in line, and what is known of
  it at every stage;
* `Session.inaugurates_after`: **every move keeps it so**;
* `Session.Inaugurated`: what such a start comes to, as callers see it.
-/

import ShellSession.Proofs.Session.Question

namespace ShellSession

/-! ### What answers come to -/

/-- What a start comes to whose question is answered as busy a number of times, and then by a last
answer: it gives up when the busy answers reach the bound; otherwise it goes by the release that is the
last answer, or by the fallback where that is a failure. -/
def startOutcome (retry : Retries) (fallback : Release) (count : Nat) (last : ReleaseAnswer) :
    Except SessionFailure Release :=
  match retry.maxAttempts.filter fun bound => bound ≤ count with
  | some bound => .error (.retriesExhausted bound)
  | none =>
    let release := last.toOption.getD fallback
    if 3 ≤ release.version.major then .ok release else .error (.unsupportedVersion release.version)

section Answers

variable {retry : Retries} {fallback : Release} {count : Nat} {last : ReleaseAnswer}

theorem startOutcome_of_givesUp {bound : Nat} (most : retry.maxAttempts = some bound)
    (reached : bound ≤ count) :
    startOutcome retry fallback count last = .error (.retriesExhausted bound) := by
  have kept : (retry.maxAttempts.filter fun bound => bound ≤ count) = some bound := by
    rw [most]
    exact Option.filter_some_pos (decide_eq_true reached)
  rw [startOutcome, kept]

theorem startOutcome_of_more (more : retry.givesUpAfter count = false) :
    startOutcome retry fallback count last =
      Starting.verdict (.ok (.release (last.toOption.getD fallback))) := by
  have none : (retry.maxAttempts.filter fun bound => bound ≤ count) = none := by
    unfold Retries.givesUpAfter at more
    cases most : retry.maxAttempts with
    | none => rfl
    | some bound =>
      rw [most] at more
      exact Option.filter_some_neg more
  rw [startOutcome, none]
  show _ = (Dialect.ofVersion (last.toOption.getD fallback).version).map fun _ => _
  generalize last.toOption.getD fallback = release
  unfold Dialect.ofVersion
  by_cases modern : 5 ≤ release.version.major
  · rw [if_pos modern, if_pos (by omega)]
    rfl
  · rw [if_neg modern]
    by_cases fourth : release.version.major = 4
    · rw [if_pos fourth, if_pos (by omega)]
      rfl
    · rw [if_neg fourth]
      by_cases third : release.version.major = 3
      · rw [if_pos third, if_pos (by omega)]
        rfl
      · rw [if_neg third, if_neg (by omega)]
        rfl

/-- A busy answer among the first ones is among those that come before the last one. -/
theorem busyAnswers_lt {number : Nat} {rest : List ReleaseAnswer} (free : last ≠ .error .busy)
    (same : busyAnswers number ++ rest = busyAnswers count ++ [last]) : number ≤ count := by
  refine Nat.le_of_not_lt fun beyond => free ?_
  have here := congrArg (·[count]?) same
  simp only [busyAnswers, List.getElem?_append_left, List.length_replicate, beyond,
    List.getElem?_replicate, if_pos, List.getElem?_append_right, Nat.le_refl, Nat.sub_self,
    List.getElem?_cons_zero, Option.some.injEq] at here
  exact here.symm

/-- **What the answers settle decides the start**, whatever the engine would have answered behind
them. -/
theorem Settles.verdict {answers : List ReleaseAnswer} {result : Result}
    (settles : Settles retry fallback answers result) (free : last ≠ .error .busy)
    (answering : answers <+: busyAnswers count ++ [last]) :
    Starting.verdict result = startOutcome retry fallback count last := by
  obtain ⟨rest, same⟩ := answering
  cases settles with
  | exhausted bound most => exact (startOutcome_of_givesUp most (busyAnswers_lt free same)).symm
  | answered number other apart more =>
    rw [List.append_assoc] at same
    have below : number ≤ count := busyAnswers_lt free same
    have equal : number = count := by
      refine Nat.le_antisymm below (Nat.le_of_not_lt fun short => apart ?_)
      have here := congrArg (·[number]?) same
      simp only [busyAnswers, List.getElem?_append_right, List.length_replicate, Nat.le_refl,
        Nat.sub_self, List.singleton_append, List.getElem?_cons_zero, List.getElem?_append_left, short,
        List.getElem?_replicate, if_pos, Option.some.injEq] at here
      exact here
    subst equal
    have tail := List.append_cancel_left same
    obtain rfl := (List.cons.inj tail).1
    exact (startOutcome_of_more more).symm

end Answers

/-! ### A start that is the first in line -/

/-- What a start that is the first in line has met or done: it looks at a session that is not started;
when it is through, it has made the session ready, or has disposed of it. -/
def Starting.Earnest (s : Session) : Starting → Prop
  | checking => s.phase = .notStarted
  | finished (.ok _) => s.phase.accepts = true
  | finished (.error error) => s.Decides (.error error) ∧ s.phase = .disposed ∧ s.bound = false
  | _ => True

namespace Session

/-- What a start has left behind that has returned. -/
def Settled (s : Session) : Except SessionFailure Release → Prop
  | .ok release => s.Decides (.ok release) ∧ s.HasOpened
  | .error error => s.Decides (.error error) ∧ s.phase = .disposed ∧ s.bound = false

/-- A start that is the first in line. -/
def Presides (s : Session) (caller : Nat) (call : Call) : Prop :=
  holds s.lifecycle caller = true ∧ ∃ stage, call = .start (.inside stage) ∧ stage.Earnest s

/-- A reply of a start that has settled what it returns. -/
def Confirms (s : Session) (reply : Except SessionFailure Reply) : Prop :=
  ∃ outcome, reply = outcome.map .release ∧ s.Settled outcome

/-- A start that was the first in line in a session that was not started: it still is, or it has
returned what it has settled. -/
def Inaugurates (s : Session) (caller : Nat) : Prop :=
  s.Follows caller (s.Presides caller) s.Confirms

variable {s t : Session} {j : Journal} {move : Move} {caller : Nat}

/-- What is settled stays so. -/
theorem Settled.after {outcome : Except SessionFailure Release} (settled : s.Settled outcome)
    (founded : s.Founded) (kept : s.Kept j) (moved : s.after move = some t) : t.Settled outcome := by
  cases outcome with
  | ok release =>
    exact ⟨settled.1.grow (results_after moved), founded.hasOpened_after kept settled.2 moved⟩
  | error error =>
    obtain ⟨decides, disposed, unbound⟩ := settled
    exact ⟨decides.grow (results_after moved), disposed_after moved disposed,
      unbound_after moved unbound⟩

end Session

section Stages

variable {s t : Session} {j : Journal} {caller : Nat}

/-- The bookkeeping of calls does not concern what a start has met or done. -/
theorem Starting.Earnest.proceed {stage : Starting} {call : Call} (earnest : stage.Earnest s) :
    stage.Earnest (s.proceed caller call) := by
  cases stage with
  | finished result => cases result <;> exact earnest
  | _ => exact earnest

/-- **A step of a start that is the first in line**: it is refused nowhere. -/
theorem Starting.step_earnest {stage next : Starting} (earnest : stage.Earnest s)
    (kept : s.Kept j) (founded : s.Founded) (mine : (caller, Call.start (.inside stage)) ∈ s.calls)
    (held : Session.holds s.lifecycle caller = true)
    (stepped : stage.step caller s = some (t, next)) : next.Earnest t := by
  have sane : s.life.Sane := kept.alive.sane
  have stands := kept.alive.stands _ mine
  have knows := founded.knows caller stage mine
  cases goes_of_step stepped with
  | late disposed =>
    have fresh : s.phase = .notStarted := earnest
    cases fresh.symm.trans disposed
  | again started alive => exact absurd earnest started
  | bar barred =>
    have fresh : s.phase = .notStarted := stands
    have bound : s.bound = true := by
      refine eq_true_of_ne_false fun unbound => ?_
      cases fresh.symm.trans (kept.tidy.gone unbound).disposed
    -- A driver would be there for another start, which would hold the lock.
    obtain ⟨entry, member, underway⟩ := founded.underway fresh (barred bound)
    have number := kept.tidy.orderly.eq_of_locked member (Call.locked_of_underway underway) held
    have same := kept.tidy.orderly.eq_of_number member mine number
    rw [same] at underway
    cases underway
  | refuse closed =>
    obtain ⟨fresh, _, _⟩ : s.phase = .notStarted ∧ s.lastId = 0 ∧ s.driving ≠ .unborn := stands
    have late : s.phase.isLate = true := sane.closed closed
    rw [fresh] at late
    cases late
  | move release leads => rfl
  | stay release leads =>
    obtain ⟨fresh, _⟩ : s.phase = .notStarted ∧ 1 ≤ s.lastId := stands
    rw [fresh] at leads
    cases leads
  | disposed error => exact ⟨knows, stands, kept.passed.beyond _ mine .finished rfl (by decide)⟩
  | _ => trivial

end Stages

namespace Session

variable {s t : Session} {j : Journal} {move : Move} {caller : Nat}

/-- While a call holds the lifecycle lock, the others exchange ready and running for each other, and do
nothing else to the phase. -/
theorem phase_while_held (held : holds s.lifecycle caller = true) (apart : move ≠ .act (.call caller))
    (moved : s.after move = some t) :
    t.phase = s.phase ∨ s.phase.accepts = true ∧ t.phase.accepts = true := by
  cases moves_of_after moved with
  | call other moved =>
    obtain ⟨_, _, _, _, ages⟩ := advance_life moved
    have unlocked : holds s.lifecycle other = false := eq_false_of_ne_true fun first =>
      apart (by rw [Option.some.inj ((of_decide_eq_true first).symm.trans (of_decide_eq_true held))])
    have step := ages.step
    rw [unlocked] at step
    rcases step.unlocked with same | ⟨_, phase, _⟩
    · exact .inl (congrArg Life.phase same)
    · exact .inl phase
  | driver moved _ =>
    rcases drive_phase moved with same | ⟨before, behind⟩ | ⟨before, behind⟩
    · exact .inl same
    · exact .inr (by rw [before, behind]; exact ⟨rfl, rfl⟩)
    · exact .inr (by rw [before, behind]; exact ⟨rfl, rfl⟩)
  | order _ | timeout _ _ _ => exact .inl rfl
  | listener _ same | aside _ same => exact .inl (by rw [same])

/-- The holder of the lifecycle lock holds it until it takes a step. -/
theorem holds_after (held : holds s.lifecycle caller = true) (apart : move ≠ .act (.call caller))
    (moved : s.after move = some t) : holds t.lifecycle caller = true := by
  cases moves_of_after moved with
  | call other moved =>
    obtain ⟨_, _, _, advances⟩ := advance_advances moved
    have head := advances.lifecycle.holder (fun same => apart (same ▸ rfl)) (of_decide_eq_true held)
    exact decide_eq_true head
  | order _ | timeout _ _ _ => exact held
  | driver _ same | listener _ same | aside _ same =>
    rw [same]
    exact held

/-- What a start has met or done is not undone while it holds the lifecycle lock. -/
theorem earnest_while_held {stage : Starting} (earnest : stage.Earnest s)
    (held : holds s.lifecycle caller = true) (apart : move ≠ .act (.call caller))
    (moved : s.after move = some t) : stage.Earnest t := by
  have phase := phase_while_held held apart moved
  cases stage with
  | checking =>
    have fresh : s.phase = .notStarted := earnest
    rcases phase with same | ⟨accepts, _⟩
    · exact same.trans fresh
    · rw [fresh] at accepts
      cases accepts
  | finished result =>
    cases result with
    | ok release =>
      have accepts : s.phase.accepts = true := earnest
      rcases phase with same | ⟨_, behind⟩
      · show t.phase.accepts = true
        rw [same]
        exact accepts
      · exact behind
    | error error =>
      obtain ⟨decides, disposed, unbound⟩ := earnest
      exact ⟨decides.grow (results_after moved), disposed_after moved disposed,
        unbound_after moved unbound⟩
  | _ => trivial

/-- What a start has returned stays settled. -/
theorem Confirms.after {reply : Except SessionFailure Reply} (confirms : s.Confirms reply)
    (kept : s.Kept j) (founded : s.Founded) (moved : s.after move = some t) : t.Confirms reply :=
  let ⟨outcome, same, settled⟩ := confirms
  ⟨outcome, same, settled.after founded kept moved⟩

/-- A start that is the first in line is so until it takes a step. -/
theorem Presides.after {call : Call} (presides : s.Presides caller call)
    (apart : move ≠ .act (.call caller)) (moved : s.after move = some t) : t.Presides caller call :=
  let ⟨held, stage, same, earnest⟩ := presides
  ⟨holds_after held apart moved, stage, same, earnest_while_held earnest held apart moved⟩

/-- The step of a start that is the first in line: it goes on, or returns what it has settled. -/
theorem Inaugurates.own (inaugurates : s.Inaugurates caller) (kept : s.Kept j) (founded : s.Founded)
    (moved : s.after (.act (.call caller)) = some t) : t.Inaugurates caller := by
  obtain ⟨call, found, taken⟩ := Option.bind_eq_some_iff.mp moved
  have mine := mem_of_lookup found
  obtain ⟨held, stage, rfl, earnest⟩ := inaugurates.going call mine
  have knows := founded.knows caller stage mine
  obtain ⟨next, advances⟩ := advanceCall_advances taken
  have still : s.Follows caller (s.Presides caller) t.Confirms :=
    inaugurates.weaken (fun _ _ => id) fun _ confirms => confirms.after kept founded moved
  rcases advanceStart_cases taken with ⟨other, _⟩ | ⟨result, same, rfl⟩ |
    ⟨inner, u, later, same, _, stepped, rfl⟩
  · cases other
  · cases same
    refine still.mine mine advances (fun call member => absurd member (not_mem_giveBack _))
      fun reply replied => ?_
    rcases List.mem_append.mp replied with before | now
    · exact .inl before
    · have confirms : s.Confirms (result.map .release) := by
        refine ⟨result, rfl, ?_⟩
        cases result with
        | ok release => exact ⟨knows.1, Phase.started_of_accepts earnest, knows.2⟩
        | error error => exact earnest
      rw [(Prod.mk.inj (List.mem_singleton.mp now)).2]
      exact .inr (confirms.after kept founded moved)
  · cases same
    have affects : s.Affects .start stage.grips u later.grips := Starting.step_effect stepped
    obtain ⟨v, effect, books⟩ := affects
    have lifecycle : u.lifecycle = s.lifecycle := by
      rw [books]
      exact effect.same_books.1
    have replies : u.replies = s.replies := by
      rw [books]
      exact effect.same_books.2.2.2.2
    refine still.mine mine advances (fun call member => ⟨?_, later, eq_of_mem_proceed member,
      (Starting.step_earnest earnest kept founded mine held stepped).proceed⟩)
      fun reply replied => .inl (replies ▸ replied)
    show holds u.lifecycle caller = true
    rw [lifecycle]
    exact held

/-- A start that disposes of the session, and does not wait any longer, is still the first in line. -/
theorem Inaugurates.expired (inaugurates : s.Inaugurates caller)
    (moved : s.after (.act (.timeout caller)) = some t) : t.Inaugurates caller := by
  obtain ⟨call, following, mine, expires, rfl⟩ := expires_of_expire moved
  obtain ⟨held, stage, rfl, _⟩ := inaugurates.going call mine
  refine ⟨inaugurates.begun, fun later member => ?_, inaugurates.answered,
    .inl ⟨following, mem_proceed_self mine⟩⟩
  rw [eq_of_mem_proceed member]
  cases expires
  exact ⟨held, _, rfl, trivial⟩

/-- **A start that is the first in line is taken on by every move**, and by its own steps only to what
it settles. -/
theorem inaugurates_after (inaugurates : s.Inaugurates caller) (kept : s.Kept j)
    (founded : s.Founded) (moved : s.after move = some t) : t.Inaugurates caller := by
  by_cases own : move = .act (.call caller)
  · subst own
    exact inaugurates.own kept founded moved
  by_cases late : move = .act (.timeout caller)
  · subst late
    exact inaugurates.expired moved
  · have behind : s.Follows caller (t.Presides caller) t.Confirms :=
      inaugurates.weaken (fun _ _ presides => presides.after own moved)
        fun _ confirms => confirms.after kept founded moved
    exact behind.elsewhere moved own late

/-- A start that finds nobody in line, in a session that is not started, is the first in line, and
nothing has been asked before it. -/
theorem inaugurates_first (kept : s.Kept j) (founded : s.Founded) (fresh : s.phase = .notStarted)
    (free : s.lifecycle = []) (asked : (caller, start) ∈ s.calls)
    (moved : s.after (.act (.call caller)) = some t) : t.Inaugurates caller ∧ t.lastId = 0 := by
  have orderly := kept.tidy.orderly
  have unborn : s.driving = .unborn := by
    refine Classical.byContradiction fun born => ?_
    obtain ⟨entry, member, underway⟩ := founded.underway fresh born
    have head := orderly.lifecycle entry member (Call.locked_of_underway underway)
    rw [free] at head
    cases head
  have taken : s.advanceStart caller .entering = some t := orderly.taken asked moved
  cases taken
  refine ⟨⟨orderly.numbered _ asked, fun call member => ⟨?_, .checking, eq_of_mem_proceed member, fresh⟩,
    fun reply replied => absurd rfl ((orderly.returned _ replied).2 _ asked),
    .inl ⟨_, mem_callsBehind_self asked⟩⟩, kept.alive.sane.unasked fresh unborn⟩
  show holds (s.lifecycle ++ [caller]) caller = true
  rw [free]
  exact decide_eq_true rfl

/-! ### What callers see of it -/

/-- A session that works with a release: this is what it gives as its details, and the debugger
operations are those of its version, as long as it is not disposed. -/
structure WorksWith (s : Session) (release : Release) : Prop where
  details : s.details = some release
  operations : ∃ dialect, Dialect.ofVersion release.version = .ok dialect ∧
    s.dialect = some dialect ∧ (s.phase ≠ .disposed → s.boundDialect = .ok dialect)

/-- A session that was torn down: it is disposed, it has neither a release nor debugger operations nor
an engine, and no request of a caller was ever accepted. -/
structure TornDown (s : Session) : Prop where
  disposed : s.phase = .disposed
  unbound : s.bound = false
  details : s.details = none
  operations : s.dialect = none ∧ s.boundDialect = .error .disposed
  empty : ∀ id, ¬ s.Granted id

/-- What callers see of a start with an outcome, at any moment. -/
structure Inaugurated (s : Session) (caller : Nat) (outcome : Except SessionFailure Release) : Prop where
  /-- The start returns its outcome, and nothing else. -/
  reply : ∀ reply, s.reply? caller = some reply → reply = outcome.map .release
  /-- When it returns a release, the session is ready, or already runs another request. -/
  ready : ∀ release, outcome = .ok release → ∀ move t, s.reply? caller = none →
    s.after move = some t → (t.reply? caller).isSome = true →
      t.phase = .ready ∨ t.phase = .running ∧ 1 < t.lastId
  /-- From then on the session works with the release. -/
  works : ∀ release, outcome = .ok release → (s.reply? caller).isSome = true → s.WorksWith release
  /-- When it has returned a failure, and from then on, the session is torn down. -/
  torn : ∀ error, outcome = .error error → (s.reply? caller).isSome = true → s.TornDown
  /-- No request of a caller is accepted unless the start comes to a release. -/
  granted : ∀ id, s.Granted id → s.phase ≠ .notStarted ∧ ∃ release, outcome = .ok release
  /-- A session whose start comes to a release leaves its first phase for being ready. -/
  leaves : ∀ release, outcome = .ok release → ∀ move t, s.phase = .notStarted →
    s.after move = some t → t.phase ≠ .notStarted → t.phase = .ready

/-- Once the question of a start has a result, it is the one that the answers settle. -/
theorem Kept.settles (kept : s.Kept j) {fallback : Release} {answers : List ReleaseAnswer}
    (asks : s.desk.Asks fallback answers) {result : Result} (found : (1, result) ∈ s.results) :
    Settles s.settings.retry fallback answers result := by
  have custody := kept.sound.custody
  cases asks with
  | unasked none =>
    obtain ⟨request, accepted, number⟩ := custody.accepted_of_settled found
    have below : request.id ≤ s.lastId := custody.bounded request accepted
    have zero : s.lastId = 0 := none
    omega
  | queued waits =>
    exact absurd (custody.settled_lt found (List.mem_append_right _ waits)) (Nat.lt_irrefl 1)
  | held asked => exact absurd (custody.settled_lt found asked.unsettled) (Nat.lt_irrefl 1)
  | settled other there settles =>
    rw [kept.result_unique found there]
    exact settles

section Seen

variable {answers : List ReleaseAnswer} {count : Nat} {last : ReleaseAnswer}

/-- Whatever a start goes by is what the answers come to. -/
theorem Kept.outcome_eq (kept : s.Kept j) (asks : s.desk.Asks s.fallback answers)
    (free : last ≠ .error .busy) (answering : answers <+: busyAnswers count ++ [last])
    {outcome : Except SessionFailure Release} (decides : s.Decides outcome) :
    outcome = startOutcome s.settings.retry s.fallback count last := by
  obtain ⟨result, found, rfl⟩ := decides
  exact (kept.settles asks found).verdict free answering

/-- Whoever has been granted a request has been so in a session that has been opened. -/
theorem Founded.hasOpened_of_granted (founded : s.Founded) {id : Nat} (granted : s.Granted id) :
    s.HasOpened := by
  rcases granted with ⟨caller, payload, member⟩ | ⟨caller, replied⟩
  · exact founded.letIn _ member rfl
  · exact founded.accepted caller id replied

/-- A session of which a release has been recorded works with it. -/
theorem Founded.worksWith (founded : s.Founded) (kept : s.Kept j) {release : Release}
    (recorded : s.details = some release) : s.WorksWith release := by
  obtain ⟨_, dialect, speaks, version⟩ := founded.recorded release recorded
  refine ⟨recorded, dialect, version, speaks, fun alive => ?_⟩
  have bound : s.bound = true := eq_true_of_ne_false fun unbound => alive (kept.tidy.gone unbound).disposed
  rw [boundDialect, currentDialect, speaks]
  simp only [if_neg alive, bound, if_true]

/-- A call that returns does so by a step of its own, at its last stage. -/
theorem Inaugurates.returns (inaugurates : s.Inaugurates caller) (quiet : s.reply? caller = none)
    (moved : s.after move = some t) (returned : (t.reply? caller).isSome = true) :
    ∃ result, (caller, Call.start (.inside (.finished result))) ∈ s.calls ∧
      Starting.Earnest s (.finished result) ∧ t.phase = s.phase ∧ t.lastId = s.lastId := by
  obtain ⟨reply, replied⟩ := Option.isSome_iff_exists.mp returned
  have silent : s.Follows caller (fun _ => True) fun _ => False :=
    ⟨inaugurates.begun, fun _ _ => trivial,
      fun reply given => absurd (replied_of_mem given) (by rw [quiet]; exact Bool.false_ne_true),
      inaugurates.present⟩
  by_cases own : move = .act (.call caller)
  · subst own
    obtain ⟨call, found, taken⟩ := Option.bind_eq_some_iff.mp moved
    have mine := mem_of_lookup found
    obtain ⟨_, stage, rfl, earnest⟩ := inaugurates.going call mine
    rcases advanceStart_cases taken with ⟨other, _⟩ | ⟨result, same, rfl⟩ |
      ⟨inner, u, later, _, _, stepped, rfl⟩
    · cases other
    · cases same
      exact ⟨result, mine, earnest, rfl, rfl⟩
    · have replies : u.replies = s.replies := (Starting.step_effect stepped).same_replies
      have none : u.replies.lookup caller = none := replies ▸ quiet
      cases none.symm.trans replied
  by_cases late : move = .act (.timeout caller)
  · subst late
    obtain ⟨_, _, _, _, rfl⟩ := expires_of_expire moved
    cases quiet.symm.trans replied
  · exact ((silent.elsewhere moved own late).reply replied).elim

/-- A start that goes by a release leads the session out of its first phase by making it ready. -/
theorem Inaugurates.leaves (inaugurates : s.Inaugurates caller) (kept : s.Kept j)
    (founded : s.Founded) (fresh : s.phase = .notStarted) (moved : s.after move = some t)
    (left : t.phase ≠ .notStarted) (never : ∀ error, ¬ s.Decides (.error error)) :
    t.phase = .ready := by
  have stays : t.phase ≠ s.phase := fun same => left (same.trans fresh)
  rcases inaugurates.present with ⟨call, member⟩ | ⟨reply, replied⟩
  · obtain ⟨held, stage, rfl, _⟩ := inaugurates.going call member
    -- Only the holder of the lifecycle lock leads a session out of its first phase.
    obtain ⟨leaver, other, mine, first, taken, _⟩ := exists_leaver moved fresh left
    have number : leaver = caller :=
      Option.some.inj ((of_decide_eq_true first).symm.trans (of_decide_eq_true held))
    cases kept.tidy.orderly.eq_of_number mine member number
    rcases advanceStart_cases taken with ⟨_, rfl⟩ | ⟨result, _, rfl⟩ |
      ⟨inner, u, later, whole, _, stepped, rfl⟩
    · exact absurd rfl stays
    · exact absurd rfl stays
    · cases whole
      rcases Starting.step_phase stepped with same | ⟨release, rfl⟩ | ⟨error, inner, rfl, _⟩
      · exact absurd same stays
      · rw [Starting.step, moveTo, if_pos (by rw [fresh]; rfl)] at stepped
        cases stepped
        rfl
      · exact absurd (founded.knows caller _ member) (never error)
  · obtain ⟨outcome, _, settled⟩ := inaugurates.answered reply replied
    cases outcome with
    | ok release => exact absurd fresh settled.2.1
    | error error => exact absurd settled.1 (never error)

/-- **What callers see of a start that is the first in line is what the answers come to.** -/
theorem Inaugurates.inaugurated (inaugurates : s.Inaugurates caller) (kept : s.Kept j)
    (founded : s.Founded) (asks : s.desk.Asks s.fallback answers) (free : last ≠ .error .busy)
    (answering : answers <+: busyAnswers count ++ [last]) :
    s.Inaugurated caller (startOutcome s.settings.retry s.fallback count last) := by
  have comes {outcome : Except SessionFailure Release} (decides : s.Decides outcome) :
      outcome = startOutcome s.settings.retry s.fallback count last :=
    kept.outcome_eq asks free answering decides
  generalize startOutcome s.settings.retry s.fallback count last = whole at comes
  -- What has been returned is settled, and has this outcome.
  have settled (reply : Except SessionFailure Reply) (replied : s.reply? caller = some reply) :
      reply = whole.map .release ∧ s.Settled whole := by
    obtain ⟨outcome, rfl, settled⟩ := inaugurates.reply replied
    have decides : s.Decides outcome := by
      cases outcome with
      | ok release => exact settled.1
      | error error => exact settled.1
    obtain rfl := comes decides
    exact ⟨rfl, settled⟩
  have granted (id : Nat) (granted : s.Granted id) :
      s.phase ≠ .notStarted ∧ ∃ release, whole = .ok release := by
    obtain ⟨started, there⟩ := founded.hasOpened_of_granted granted
    obtain ⟨release, recorded⟩ := Option.ne_none_iff_exists'.mp there
    exact ⟨started, release, (comes (founded.recorded release recorded).1).symm⟩
  refine ⟨fun reply replied => (settled reply replied).1, ?_, ?_, ?_, granted, ?_⟩
  · rintro release rfl move t quiet moved returned
    obtain ⟨result, _, earnest, phase, lastId⟩ := inaugurates.returns quiet moved returned
    rw [phase, lastId]
    cases result with
    | error error => cases comes earnest.1
    | ok other =>
      have accepts : s.phase.accepts = true := earnest
      cases here : s.phase with
      | ready => exact .inl rfl
      | running => exact .inr ⟨rfl, founded.running here⟩
      | _ =>
        rw [here] at accepts
        cases accepts
  · rintro release rfl returned
    obtain ⟨reply, replied⟩ := Option.isSome_iff_exists.mp returned
    obtain ⟨other, recorded⟩ := Option.ne_none_iff_exists'.mp (settled reply replied).2.2.2
    cases comes (founded.recorded other recorded).1
    exact founded.worksWith kept recorded
  · rintro error rfl returned
    obtain ⟨reply, replied⟩ := Option.isSome_iff_exists.mp returned
    obtain ⟨_, _, disposed, unbound⟩ := settled reply replied
    have details : s.details = none := by
      refine Option.eq_none_iff_forall_ne_some.mpr fun release recorded => ?_
      cases comes (founded.recorded release recorded).1
    have dialect := founded.blank details
    refine ⟨disposed, unbound, details, ⟨dialect, ?_⟩, fun id given => ?_⟩
    · rw [boundDialect, currentDialect, dialect, disposed]
      rfl
    · obtain ⟨_, release, other⟩ := granted id given
      cases other
  · rintro release rfl move t fresh moved left
    exact inaugurates.leaves kept founded fresh moved left fun error decides => by cases comes decides

end Seen

end Session

end ShellSession
