/-
**The question of a start.**

A start asks for the engine's release through the queue, like everybody else, so that its question is
attempted until the engine is not busy or the driver gives up. What comes out of it is decided by the
answers of the engine alone: by the number of the busy ones, and by the one behind them.

* `Enquiry`: the moves from one session to another, with the answers to the question;
* `Settles`: the result that answers settle;
* `Asked`, `Desk.Asks`: how far the question has come, with the answers so far;
* `Enquiry.asks`: **the result of the question is the one that the answers settle**.
-/

import ShellSession.Proofs.Session.Founding

namespace ShellSession

/-! ### Answers -/

/-- What the engine answers to a question for its release. -/
abbrev ReleaseAnswer := Except EngineFailure Release

/-- The answer that a move gets to the question of the start, which is the first request. -/
def Session.answer? (s : Session) : Move → Option ReleaseAnswer
  | .act .thread =>
    match s.working with
    | .working ⟨1, _⟩ (.askRelease _) => some s.hosted.askRelease.1
    | _ => none
  | _ => none

/-- The moves from one session to another that an environment allows, with the answers of the engine to
the question of the start. -/
inductive Enquiry (env : Environment) (s : Session) : List ReleaseAnswer → Session → Prop
  | rest : Enquiry env s [] s
  | move {answers : List ReleaseAnswer} {t u : Session} (move : Move) :
      Enquiry env s answers t → env t move → t.after move = some u →
      Enquiry env s (answers ++ (t.answer? move).toList) u

namespace Enquiry

variable {env : Environment} {s t : Session} {answers : List ReleaseAnswer}

/-- An enquiry is a course. -/
theorem course (enquiry : Enquiry env s answers t) (j : Journal) : ∃ k, Course env s j k t := by
  induction enquiry with
  | rest => exact ⟨j, .rest⟩
  | move m _ allowed same ih =>
    obtain ⟨k, course⟩ := ih
    exact ⟨_, course.move m allowed same⟩

end Enquiry

/-- Every course is an enquiry, with some answers. -/
theorem Course.enquiry {env : Environment} {s t : Session} {j k : Journal}
    (course : Course env s j k t) : ∃ answers, Enquiry env s answers t := by
  induction course with
  | rest => exact ⟨[], .rest⟩
  | move m _ allowed same ih =>
    obtain ⟨answers, enquiry⟩ := ih
    exact ⟨_, enquiry.move m allowed same⟩

/-- A number of busy answers. -/
def busyAnswers (count : Nat) : List ReleaseAnswer :=
  List.replicate count (.error .busy)

/-- The result that the answers to the question settle: all of them were busy, and as many as are
allowed; or there was one behind the busy ones that was not, while more were allowed. Where that one
is a failure, the fallback takes the place of the release. -/
inductive Settles (retry : Retries) (fallback : Release) : List ReleaseAnswer → Result → Prop
  | exhausted (count : Nat) (bound : retry.maxAttempts = some count) :
      Settles retry fallback (busyAnswers count) (.error (.retriesExhausted count))
  | answered (count : Nat) (last : ReleaseAnswer) (free : last ≠ .error .busy)
      (more : retry.givesUpAfter count = false) :
      Settles retry fallback (busyAnswers count ++ [last])
        (.ok (.release (last.toOption.getD fallback)))

/-! ### How far the question has come -/

/-- The question of a start. -/
def questionOf (fallback : Release) : Request :=
  ⟨1, .startup fallback⟩

/-- What the driver and the thread do at the question of the start, with the answers so far: it waits at
the gate; it is attempted; an attempt is over, and was busy; it waits for the next attempt; or it is
answered. -/
inductive Asked (retry : Retries) (fallback : Release) :
    Driving → Working → List ReleaseAnswer → Prop
  | gated : Asked retry fallback (.gated (questionOf fallback)) .resting []
  | marking : Asked retry fallback (.marking (questionOf fallback)) .resting []
  | asking (count : Nat) (more : retry.givesUpAfter count = false) :
      Asked retry fallback (.attempting (questionOf fallback) (count + 1))
        (.working (questionOf fallback) ((Payload.startup fallback).attempt (count + 1)))
        (busyAnswers count)
  | refused (count : Nat) (more : retry.givesUpAfter count = false) :
      Asked retry fallback (.attempting (questionOf fallback) (count + 1))
        (.working (questionOf fallback) .busy) (busyAnswers (count + 1))
  | hearing (count : Nat) (more : retry.givesUpAfter count = false) :
      Asked retry fallback (.attempting (questionOf fallback) (count + 1)) (.replying true)
        (busyAnswers (count + 1))
  | judging (count : Nat) (more : retry.givesUpAfter count = false) :
      Asked retry fallback (.judging (questionOf fallback) (count + 1)) .resting
        (busyAnswers (count + 1))
  | backing (count signals : Nat) (more : retry.givesUpAfter count = false) :
      Asked retry fallback (.backing (questionOf fallback) count signals) .resting
        (busyAnswers count)
  | regated (count : Nat) (more : retry.givesUpAfter count = false) :
      Asked retry fallback (.regated (questionOf fallback) count) .resting (busyAnswers count)
  | told (count : Nat) (last : ReleaseAnswer) (free : last ≠ .error .busy)
      (more : retry.givesUpAfter count = false) :
      Asked retry fallback (.attempting (questionOf fallback) (count + 1))
        (.working (questionOf fallback)
          (.complete (.ok (.release (last.toOption.getD fallback)))))
        (busyAnswers count ++ [last])

/-- How far the question of the start has come at a desk, with the answers so far: it was not asked; it
waits in the queue; it is in the driver's hand; or it has its result. -/
inductive Desk.Asks (fallback : Release) (d : Desk) : List ReleaseAnswer → Prop
  | unasked (none : d.lastId = 0) : Asks fallback d []
  | queued (waits : questionOf fallback ∈ d.queue.items) : Asks fallback d []
  | held {answers : List ReleaseAnswer}
      (asked : Asked d.retry fallback d.driving d.working answers) : Asks fallback d answers
  | settled {answers : List ReleaseAnswer} (result : Result) (found : (1, result) ∈ d.results)
      (settles : Settles d.retry fallback answers result) : Asks fallback d answers

/-! ### The driver and the thread -/

section Desks

variable {d e : Desk} {said : Option Said} {fallback : Release} {answers : List ReleaseAnswer}

/-- Where nobody goes on with the routine of an attempt, the question is on its way with the answers
that it has. -/
theorem Asked.handled (asked : Asked d.retry fallback d.driving d.working answers)
    (handling : Handling d said e) (first : d.retry.givesUpAfter 0 = false)
    (calm : d.shutdown = false)
    (rests : ∀ request routine, d.working = .working request routine → e.working = d.working) :
    e.Asks fallback answers := by
  have fired : d.shutdown = true → False := fun fired => by
    rw [calm] at fired
    cases fired
  obtain ⟨retry, queue, lastId, results, driving, working, shutdown⟩ := d
  cases handling with
  | idle | accept | refuse | close | fire => exact .held asked
  | mark request gated held =>
    cases gated
    cases asked
    exact .held .marking
  | launch request marking =>
    cases marking
    cases asked
    exact .held (.asking 0 first)
  | relaunch request attempts regated held =>
    cases regated
    cases asked with
    | regated _ more => exact .held (.asking _ more)
  | hear request attempts attempting replying =>
    cases attempting
    cases replying
    cases asked with
    | hearing count more => exact .held (.judging count more)
  | exhaust request attempts judging concluded =>
    cases judging
    cases asked with
    | judging count more =>
      exact .settled _ (List.mem_append_right _ (List.mem_singleton_self _))
        (.exhausted _ (Retries.bound_of_givesUp concluded more))
  | backOff request attempts signals judging more =>
    cases judging
    cases asked
    exact .held (.backing _ signals more)
  | retry request attempts signals backing held =>
    cases backing
    cases asked with
    | backing _ _ more => exact .held (.regated _ more)
  | reject request gated fire => exact (fired fire).elim
  | abandon request attempts retrying fire => exact (fired fire).elim
  | spawn free => cases free; cases asked
  | turnAway free => rcases free with free | free <;> cases free <;> cases asked
  | withdraw waiting fire => exact (fired fire).elim
  | turn here _ | take _ _ here _ | conclude here _ _ | wait here _ _ => cases here; cases asked
  | leave request attempts attempting replying => cases attempting; cases replying; cases asked
  | unmark unmarking => cases unmarking; cases asked
  | holdBack _ working | settle _ _ _ working _ | ask _ _ _ _ working =>
    cases working
    cases rests _ _ rfl
  | proceed request routine later said working told =>
    cases working
    have same := rests _ _ rfl
    cases same
    exact .held asked
  | receive request ticket next outcome awaiting => cases awaiting; cases asked

end Desks

/-- One more busy answer. -/
theorem busyAnswers_succ (count : Nat) :
    busyAnswers count ++ [.error .busy] = busyAnswers (count + 1) :=
  List.replicate_succ'.symm

/-- What the thread does behind the answer of the engine: a busy engine is asked again, and one that
does not tell its release is taken to be the one to fall back on. -/
def Routine.behindAnswer (fallback : Release) : ReleaseAnswer → Routine
  | .ok release => .complete (.ok (.release release))
  | .error .busy => .busy
  | .error _ => .complete (.ok (.release fallback))

namespace Session

variable {s t : Session} {j : Journal} {move : Move} {answers : List ReleaseAnswer}

/-- What the answer of the engine makes of an attempt at the question. -/
theorem asks_of_answer {count : Nat} (more : s.settings.retry.givesUpAfter count = false)
    (driving : s.driving = .attempting (questionOf s.fallback) (count + 1))
    (working : s.working =
      .working (questionOf s.fallback) ((Payload.startup s.fallback).attempt (count + 1)))
    (moved : s.work = some t) :
    t.desk.Asks s.fallback (busyAnswers count ++ [s.hosted.askRelease.1]) := by
  have goes : t.working =
      .working (questionOf s.fallback) (.behindAnswer s.fallback s.hosted.askRelease.1) := by
    rw [work, working] at moved
    cases moved
    rfl
  have same : t.driving = s.driving ∧ t.settings = s.settings := by
    rw [work_changes moved]
    exact ⟨rfl, rfl⟩
  have asked : ∀ {later reading}, t.working = .working (questionOf s.fallback) later →
      Asked s.settings.retry s.fallback (.attempting (questionOf s.fallback) (count + 1))
        (.working (questionOf s.fallback) later) reading → t.desk.Asks s.fallback reading := by
    intro later reading thread asked
    refine .held ?_
    show Asked t.settings.retry s.fallback t.driving t.working reading
    rw [same.1, same.2, driving, thread]
    exact asked
  rcases answer : s.hosted.askRelease.1 with error | release
  · by_cases busy : error = .busy
    · subst busy
      rw [answer] at goes
      rw [busyAnswers_succ]
      exact asked goes (.refused count more)
    · have failed : t.working =
          .working (questionOf s.fallback) (.complete (.ok (.release s.fallback))) := by
        rw [goes, answer]
        cases error <;> first | rfl | exact absurd rfl busy
      exact asked failed (.told count (.error error) (fun same => busy (Except.error.inj same)) more)
  · rw [answer] at goes
    exact asked goes (.told count (.ok release) nofun more)

/-- A step of the thread takes the question on by the answer that it gets. -/
theorem asks_of_work
    (asked : Asked s.settings.retry s.fallback s.driving s.working answers)
    (moved : s.work = some t) :
    t.desk.Asks s.fallback (answers ++ (s.answer? (.act .thread)).toList) := by
  generalize place : s.driving = driving at asked
  generalize thread : s.working = working at asked
  have silent : s.answer? (.act .thread) = none →
      t.desk.Asks s.fallback answers →
        t.desk.Asks s.fallback (answers ++ (s.answer? (.act .thread)).toList) := by
    intro none asks
    rw [none]
    exact (List.append_nil answers).symm ▸ asks
  have stuck : s.work = none → t.desk.Asks s.fallback
      (answers ++ (s.answer? (.act .thread)).toList) := fun none => by cases none.symm.trans moved
  cases asked with
  | asking count more =>
    have answer : s.answer? (.act .thread) = some s.hosted.askRelease.1 := by
      rw [answer?, thread]
      rfl
    rw [answer]
    exact asks_of_answer more place thread moved
  | refused count more =>
    refine silent (by rw [answer?, thread]; rfl) ?_
    rw [work, thread] at moved
    cases moved
    refine .held ?_
    show Asked s.settings.retry s.fallback s.driving (.replying true) _
    rw [place]
    exact .hearing count more
  | told count last free more =>
    refine silent (by rw [answer?, thread]; rfl) ?_
    rw [work, thread] at moved
    cases moved
    exact .settled _ (List.mem_append_right _ (List.mem_singleton_self _))
      (.answered count last free more)
  | _ => exact stuck (by rw [work, thread])

/-- A move that does not go on with an attempt at the question gets no answer to it. -/
theorem answer?_eq_none
    (other : ∀ request routine, s.working = .working request routine → request.id ≠ 1) :
    s.answer? move = none := by
  unfold answer?
  split
  · split
    · rename_i working
      exact absurd rfl (other _ _ working)
    · rfl
  · rfl

/-- The request of the attempt under way is not settled yet. -/
theorem Kept.unsettled_of_working (kept : s.Kept j) {request : Request} {routine : Routine}
    (working : s.working = .working request routine) : request ∈ s.desk.unsettled := by
  have thread : s.desk.working = .working request routine := working
  obtain ⟨attempts, driving⟩ :=
    Desk.attempting_of_working (d := s.desk) kept.sound.custody.agree thread
  refine List.mem_append_left _ ?_
  rw [show s.desk.inHand = [request] by simp only [Desk.inHand, driving, thread]]
  exact List.mem_singleton_self request

/-- What a call does never concerns the release on which the session falls back. -/
theorem same_fallback {order : Order} {before after : Bool} (effect : Effect s order before t after) :
    t.fallback = s.fallback := by
  cases effect <;> rfl

/-- The release on which a session falls back is settled with its creation. -/
theorem fallback_after (moved : s.after move = some t) : t.fallback = s.fallback := by
  cases moves_of_after moved with
  | call caller moved =>
    obtain ⟨_, _, _, advances⟩ := advance_advances moved
    obtain ⟨u, effect, books⟩ := advances.effect
    have same : u.fallback = s.fallback := same_fallback effect
    rw [books]
    exact same
  | order _ | timeout _ _ _ => rfl
  | driver _ same | listener _ same | aside _ same => rw [same]

/-- While its question has no result, a session that has asked it is not started. -/
theorem Founded.fresh_of_unsettled (founded : s.Founded) (kept : s.Kept j)
    (waits : questionOf s.fallback ∈ s.desk.unsettled) : s.phase = .notStarted := by
  have asked : 1 ≤ s.lastId :=
    kept.sound.custody.bounded _ (kept.sound.custody.accepted_of_unsettled waits)
  refine (founded.answered asked).resolve_right ?_
  rintro ⟨result, found⟩
  exact Nat.lt_irrefl 1 (kept.sound.custody.settled_lt found waits)

end Session

/-- The question in the driver's hand has no result. -/
theorem Asked.unsettled {d : Desk} {fallback : Release} {answers : List ReleaseAnswer}
    (asked : Asked d.retry fallback d.driving d.working answers) :
    questionOf fallback ∈ d.unsettled := by
  refine List.mem_append_left _ ?_
  generalize driving : d.driving = place at asked
  generalize working : d.working = thread at asked
  suffices hand : d.inHand = [questionOf fallback] by
    rw [hand]
    exact List.mem_singleton_self _
  cases asked <;> simp only [Desk.inHand, driving, working]

namespace Session

variable {s t : Session} {j : Journal} {move : Move} {answers : List ReleaseAnswer}

/-- A question that was not asked is asked by a start. -/
theorem asks_of_unasked (kept : s.Kept j) (moved : s.after move = some t) (none : s.lastId = 0) :
    t.desk.Asks s.fallback [] := by
  have aside : t.lastId = s.lastId → t.desk.Asks s.fallback [] := fun same =>
    .unasked (same.trans none)
  have never : 1 ≤ s.lastId → False := fun some => by omega
  cases moves_of_after moved with
  | call caller moved =>
    obtain ⟨call, next, mine, _, ages⟩ := advance_life moved
    have stands := kept.alive.stands _ mine
    have step := ages.step
    generalize call.station = source at step stands
    generalize Call.stationOf next = target at step
    generalize behind : t.life = after at step
    have number : t.lastId = after.lastId := by rw [← behind]; rfl
    have queue : t.queue = after.queue := by rw [← behind]; rfl
    cases step with
    | ask first opened =>
      refine .queued ?_
      show questionOf s.fallback ∈ t.queue.items
      rw [queue]
      refine List.mem_append_right _ (List.mem_singleton.mpr ?_)
      show _ = (⟨s.lastId + 1, _⟩ : Request)
      rw [none]
      rfl
    | unasked first closed =>
      have late : s.phase.isLate = true := kept.alive.sane.closed closed
      have fresh : s.phase = .notStarted := stands.1
      rw [fresh] at late
      cases late
    | accept payload opened => exact (never stands.2).elim
    | refuse error closed => exact (never stands.2).elim
    | _ => exact aside number
  | order _ | timeout _ _ _ => exact aside rfl
  | driver _ same | listener _ same | aside _ same => exact aside (by rw [same])

/-- A question that waits in the queue is taken by the driver. -/
theorem asks_of_queued (kept : s.Kept j) {said : Option Said} (handling : Handling s.desk said t.desk)
    (fresh : s.phase = .notStarted) (waits : questionOf s.fallback ∈ s.queue.items) :
    t.desk.Asks s.fallback [] := by
  have asked : 1 ≤ s.lastId := kept.sound.custody.bounded _
    (kept.sound.custody.accepted_of_unsettled (List.mem_append_right _ waits))
  have agree : s.desk.driving.Agrees s.desk.working := kept.sound.custody.agree
  generalize behind : t.desk = after at handling
  cases handling with
  | accept payload opened => exact .queued (List.mem_append_left _ waits)
  | turnAway free =>
    rcases free with unborn | closing
    · have none : s.lastId = 0 := kept.alive.sane.unasked fresh unborn
      omega
    · rcases kept.alive.sane.winding closing with fired | closed
      · cases fresh.symm.trans (kept.alive.sane.shut fired)
      · have late : s.phase.isLate = true := kept.alive.sane.closed closed
        rw [fresh] at late
        cases late
  | take request rest looking queued =>
    have first : request ∈ s.queue.items := by
      rw [show s.queue.items = request :: rest from queued]
      exact List.mem_cons_self
    have same : request = questionOf s.fallback :=
      kept.alive.sane.early fresh request (.inl first)
    rw [looking] at agree
    refine .held ?_
    show Asked s.settings.retry s.fallback (.gated request) s.desk.working []
    rw [same, show s.desk.working = .resting from agree]
    exact .gated
  | _ => exact .queued waits

/-- **Every move takes the question of a start on by the answer that it gets**, if it gets one. -/
theorem question_after (asks : s.desk.Asks s.fallback answers) (kept : s.Kept j)
    (founded : s.Founded) (moved : s.after move = some t) :
    t.desk.Asks t.fallback (answers ++ (s.answer? move).toList) := by
  have custody := kept.sound.custody
  have handling := after_handling moved
  have retry : t.settings.retry = s.settings.retry := handling.retry_eq
  rw [fallback_after moved]
  have silent (other : ∀ request routine, s.working = .working request routine → request.id ≠ 1)
      (behind : t.desk.Asks s.fallback answers) :
      t.desk.Asks s.fallback (answers ++ (s.answer? move).toList) := by
    rw [answer?_eq_none other]
    exact (List.append_nil answers).symm ▸ behind
  cases asks with
  | unasked none =>
    refine silent (fun request routine working same => ?_) (asks_of_unasked kept moved none)
    have below : request.id ≤ s.lastId :=
      custody.bounded _ (custody.accepted_of_unsettled (kept.unsettled_of_working working))
    have zero : s.lastId = 0 := none
    omega
  | queued waits =>
    have fresh := founded.fresh_of_unsettled kept (List.mem_append_right _ waits)
    refine silent (fun request routine working same => ?_) (asks_of_queued kept handling fresh waits)
    obtain ⟨attempts, driving⟩ :=
      Desk.attempting_of_working (d := s.desk) custody.agree working
    have thread : s.desk.working = .working request routine := working
    have hand : s.desk.inHand = [request] := by simp only [Desk.inHand, driving, thread]
    have before : request.id < 1 := custody.inHand_lt hand waits
    omega
  | held asked =>
    have fresh := founded.fresh_of_unsettled kept asked.unsettled
    by_cases other : move = .act .thread
    · subst other
      exact asks_of_work asked moved
    · have none : s.answer? move = none := by
        unfold answer?
        split
        · exact absurd rfl other
        · rfl
      have calm : s.shutdown = false := by
        refine eq_false_of_ne_true fun fired => ?_
        cases fresh.symm.trans (kept.alive.sane.shut fired)
      rw [none]
      refine (List.append_nil answers).symm ▸
        asked.handled handling kept.sound.accounts.bound calm fun request routine working => ?_
      have busy : s.working.request? = some request := by rw [show s.working = _ from working]; rfl
      exact working_after custody.agree busy other moved
  | settled result found settles =>
    refine silent (fun request routine working same => ?_) (.settled result ?_ ?_)
    · have above := custody.settled_lt found (kept.unsettled_of_working working)
      omega
    · obtain ⟨more, results⟩ := results_after moved
      show (1, result) ∈ t.results
      rw [results]
      exact List.mem_append_left more found
    · show Settles t.settings.retry s.fallback answers result
      rw [retry]
      exact settles

end Session

/-- **The question of a start has come as far as its answers take it**, along all moves by which nobody
lets go of the session. -/
theorem Enquiry.asks {env : Environment} {s t : Session} {j : Journal} {answers : List ReleaseAnswer}
    (enquiry : Enquiry env s answers t) (owned : env.Owned) (kept : s.Kept j) (founded : s.Founded)
    (unasked : s.lastId = 0) :
    ∃ k, t.Kept k ∧ t.Founded ∧ t.desk.Asks t.fallback answers := by
  induction enquiry with
  | rest => exact ⟨j, kept, founded, .unasked unasked⟩
  | @move answers t u move _ allowed moved ih =>
    obtain ⟨k, kept, founded, asks⟩ := ih
    have holds : move ≠ .drop := by
      rintro rfl
      exact owned t allowed
    exact ⟨_, kept.after holds moved, Session.founded_after founded kept moved,
      Session.question_after asks kept founded moved⟩

end ShellSession
