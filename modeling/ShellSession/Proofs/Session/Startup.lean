/-
**A session whose question is not answered.**

A start asks for the engine's release through the queue, and the session is started only with the
answer. An engine that is not idle is busy for every question, so that attempts at it come back busy,
until the driver gives up and the session is disposed.

* `Session.Early`: a session that is not started, in which no question has been answered;
* `Session.early_after`: **it stays so while the engine is not idle**, unless it is disposed.
-/

import ShellSession.Proofs.Session.Phases
import ShellSession.Proofs.Session.Resumption

namespace ShellSession

/-- A start that has got the answer to its question. -/
def Starting.hasAnswer : Starting → Bool
  | choosing _ => true
  | recording _ _ => true
  | moving _ => true
  | _ => false

/-- A start that has got the answer to its question. -/
def Call.hasAnswer : Call → Bool
  | start (.inside stage) => stage.hasAnswer
  | _ => false

/-- The thread rests, or it is at work at the question of a start and has no answer. -/
def Working.Questions : Working → Prop
  | resting => True
  | working _ routine =>
    (∃ fallback number, routine = (Payload.startup fallback).attempt number) ∨ routine = .busy
  | awaiting _ _ _ => False
  | replying _ => True

/-- No question is answered but by the thread. -/
theorem Handling.unanswered {d e : Desk} {said : Option Said} (handling : Handling d said e)
    (asks : d.working.Questions)
    (none : ∀ entry ∈ d.results, ∀ answer, entry.2 ≠ .ok answer) :
    ∀ entry ∈ e.results, ∀ answer, entry.2 ≠ .ok answer := by
  -- What is added to the results is a failure.
  have failed : ∀ {more : List (Nat × Result)}, (∀ entry ∈ more, ∃ error, entry.2 = .error error) →
      ∀ entry ∈ d.results ++ more, ∀ answer, entry.2 ≠ .ok answer := by
    intro more fails entry member answer same
    rcases List.mem_append.mp member with before | now
    · exact none entry before answer same
    · obtain ⟨error, other⟩ := fails entry now
      cases same.symm.trans other
  have single : ∀ {id : Nat} {error : SessionFailure},
      ∀ entry ∈ [(id, (.error error : Result))], ∃ error, entry.2 = .error error :=
    fun {_ error} entry member => ⟨error, by rw [List.mem_singleton.mp member]⟩
  cases handling with
  | turnAway free =>
    refine failed fun entry member => ?_
    obtain ⟨request, _, rfl⟩ := List.mem_map.mp member
    exact ⟨.disposed, rfl⟩
  | reject request gated fired => exact failed single
  | exhaust request attempts judging concluded => exact failed single
  | abandon request attempts retrying fired => exact failed single
  | settle request routine result working ended =>
    rw [working] at asks
    rcases asks with ⟨fallback, number, rfl⟩ | rfl <;> cases ended
  | _ => exact none

section Stages

variable {s t : Session} {caller : Nat}

/-- Only a start makes a session ready. -/
theorem Effect.starts {order : Order} {before after : Bool}
    (effect : Effect s order before t after) (ready : t.phase = .ready) (unready : s.phase ≠ .ready) :
    order.starts = true := by
  cases effect with
  | moveTo target asked leads =>
    cases ready
    exact asked
  | _ => exact absurd ready unready

/-- A start makes the session ready only with the answer to its question. -/
theorem Starting.answer_of_ready {stage next : Starting}
    (stepped : stage.step caller s = some (t, next)) (ready : t.phase = .ready)
    (unready : s.phase ≠ .ready) : stage.hasAnswer = true := by
  cases goes_of_step stepped with
  | move release leads => rfl
  | dispose error inner later t same =>
    obtain ⟨u, effect, books⟩ : s.Affects .dispose inner.grips t later.grips :=
      Disposing.step_effect rfl same
    rw [books] at ready
    cases effect.starts ready unready
  | _ => exact absurd ready unready

/-- A start gets no answer where there is none. -/
theorem Starting.step_unanswered {stage next : Starting} (waits : stage.hasAnswer = false)
    (none : ∀ id answer, s.result? id ≠ some (.ok answer))
    (stepped : stage.step caller s = some (t, next)) : next.hasAnswer = false := by
  cases goes_of_step stepped with
  | hear id release found => exact absurd found (none id _)
  | choose release dialect known => cases waits
  | record dialect release => cases waits
  | _ => rfl

end Stages

namespace Session

variable {s t : Session} {caller : Nat} {move : Move}

/-- A session that is not started, in which no question has been answered. -/
structure Early (s : Session) : Prop where
  phase : s.phase = .notStarted
  asks : s.working.Questions
  unanswered : ∀ entry ∈ s.results, ∀ answer, entry.2 ≠ .ok answer
  calls : ∀ entry ∈ s.calls, entry.2.hasAnswer = false

/-- An engine that is not idle is busy for every question. -/
theorem busy_of_askRelease {h : HostedEngine} (busy : ∀ state, h.engine.activity ≠ .idle state) :
    h.askRelease.1 = .error .busy := by
  have engine := h.letThrough_engine
  unfold HostedEngine.askRelease
  split
  · rfl
  · rename_i other passed
    rw [passed] at engine
    show other.engine.askRelease = _
    rw [engine]
    unfold Engine.askRelease
    split
    · rename_i state idle
      exact absurd idle (busy state)
    · rfl

/-- The thread gets no answer from an engine that is not idle. -/
theorem work_asks (asks : s.working.Questions) (moved : s.work = some t)
    (busy : ∀ state, s.hosted.engine.activity ≠ .idle state) : t.working.Questions := by
  unfold Session.work at moved
  cases working : s.working with
  | working request routine =>
    rw [working] at asks moved
    cases moved
    rcases asks with ⟨fallback, number, rfl⟩ | rfl
    · have answer := busy_of_askRelease busy
      show Working.Questions (s.follow request (.askRelease _)).working
      rw [follow]
      generalize s.hosted.askRelease = asked at answer
      obtain ⟨outcome, hosted⟩ := asked
      cases answer
      exact .inr rfl
    · trivial
  | awaiting request ticket next =>
    rw [working] at asks
    exact asks.elim
  | _ =>
    rw [working] at moved
    cases moved

/-- **Whatever the thread is put to work at, it is the question of the start**, as long as the session
is not started. -/
theorem asks_after (early : s.Early) (alive : s.Alive)
    (busy : ∀ request routine, s.working = .working request routine →
      ∀ state, s.hosted.engine.activity ≠ .idle state)
    (moved : s.after move = some t) : t.working.Questions := by
  have kept : t.working = s.working → t.working.Questions := fun same => same ▸ early.asks
  cases move with
  | act actor =>
    cases actor with
    | call caller =>
      obtain ⟨call, next, found, advances⟩ := advance_advances moved
      obtain ⟨u, effect, books⟩ := advances.effect
      exact kept (by rw [books]; exact effect.same_working)
    | listener => exact kept (by rw [listen_changes moved])
    | engine => exact kept (by rw [compute_changes moved])
    | thread =>
      rcases (work_engine moved).1 with ⟨request, routine, working⟩ |
        ⟨request, ticket, next, _, waits, _⟩
      · exact work_asks early.asks moved (busy request routine working)
      · have other := early.asks
        rw [waits] at other
        exact other.elim
    | driver =>
      rcases (drive_frame moved).2.2 with same | rest | ⟨request, attempts, driving, works⟩
      · exact kept same
      · rw [rest]
        trivial
      · have held : s.driving.held? = some request := by
          rcases driving with marking | ⟨made, regated⟩
          · rw [marking]
            rfl
          · rw [regated]
            rfl
        have question := alive.sane.early early.phase request (.inr held)
        rw [works, question]
        exact .inl ⟨s.fallback, attempts, rfl⟩
    | backoff => exact kept (by rw [ring_changes moved])
    | timeout caller => exact kept (by rw [expire_books moved])
  | _ =>
    cases moved
    exact kept rfl

/-- A call that goes on without an answer has none. -/
theorem unanswered_after (early : s.Early) (moved : s.after move = some t) :
    ∀ entry ∈ t.calls, entry.2.hasAnswer = false := by
  rintro ⟨caller, later⟩ member
  rcases mem_after moved member with old | ⟨call, rfl, mine, taken⟩ | ⟨now, _, disposing, _⟩ |
    ⟨order, _, fresh⟩
  · exact early.calls _ old
  · obtain ⟨next, advances⟩ := advanceCall_advances taken
    have order := advances.order _ (advances.next_of_mem member)
    cases later with
    | start guarded =>
      cases call with
      | start stage =>
        rcases advanceStart_cases taken with ⟨rfl, rfl⟩ | ⟨result, rfl, rfl⟩ |
          ⟨inner, u, following, rfl, held, stepped, rfl⟩
        · cases eq_of_mem_proceed member
          rfl
        · exact absurd member (not_mem_giveBack _)
        · cases eq_of_mem_proceed member
          exact Starting.step_unanswered (early.calls _ mine)
            (fun id answer found => early.unanswered _ (mem_of_lookup found) answer rfl) stepped
      | _ => cases order
    | _ => rfl
  · cases later with
    | start guarded =>
      cases guarded with
      | entering => rfl
      | inside stage => cases stage <;> first | rfl | cases disposing
    | _ => rfl
  · have begun : later = order.call := fresh
    rw [begun]
    cases order <;> rfl

/-- A session becomes ready only with an answer. -/
theorem unready_after (early : s.Early) (moved : s.after move = some t) : t.phase ≠ .ready := by
  intro ready
  have unready : s.phase ≠ .ready := by
    rw [early.phase]
    exact fun other => by cases other
  cases moves_of_after moved with
  | call caller moved =>
    obtain ⟨call, next, found, advances⟩ := advance_advances moved
    obtain ⟨u, effect, books⟩ := advances.effect
    have starts := effect.starts (by rw [books] at ready; exact ready) unready
    have taken : s.advanceCall caller call = some t := by
      have stepped : (s.calls.lookup caller).bind (s.advanceCall caller) = some t := moved
      rw [found] at stepped
      exact stepped
    cases call with
    | start stage =>
      rcases advanceStart_cases taken with ⟨rfl, rfl⟩ | ⟨result, rfl, rfl⟩ |
        ⟨inner, u, following, rfl, held, stepped, rfl⟩
      · exact unready ready
      · exact unready ready
      · have none := early.calls _ (mem_of_lookup found)
        exact Bool.false_ne_true
          (none.symm.trans (Starting.answer_of_ready stepped ready unready))
    | _ => cases starts
  | driver moved _ =>
    rcases drive_phase moved with same | ⟨before, _⟩ | ⟨before, _⟩
    · exact unready (same.symm.trans ready)
    · exact unready before
    · cases early.phase.symm.trans before
  | order _ | timeout _ _ _ => exact unready ready
  | listener _ same | aside _ same =>
    rw [same] at ready
    exact unready ready

/-- **A session stays not started while the engine is not idle**, unless it is disposed. -/
theorem early_after (early : s.Early) (alive : s.Alive)
    (busy : ∀ request routine, s.working = .working request routine →
      ∀ state, s.hosted.engine.activity ≠ .idle state)
    (moved : s.after move = some t) (spared : t.phase ≠ .disposed) : t.Early where
  phase := by
    rcases leadsTo_after moved with same | leads
    · exact same.trans early.phase
    · have ready := unready_after early moved
      rw [early.phase] at leads
      cases phase : t.phase <;> rw [phase] at leads ready spared <;>
        first | exact absurd rfl ready | exact absurd rfl spared | cases leads
  asks := asks_after early alive busy moved
  unanswered := (after_handling moved).unanswered early.asks early.unanswered
  calls := unanswered_after early moved

theorem early_fresh (settings : Settings) (fallback : Release) (hosted : HostedEngine) :
    (fresh settings fallback hosted).Early :=
  ⟨rfl, trivial, (fun _ member => by cases member), fun _ member => by cases member⟩

end Session

end ShellSession
