/-
**How a session opens.**

The first request is the start's own question for the release, and it is asked once the driver is
there. Until then nobody can put a request into the queue. A start that fails disposes the session,
but only after its question has been answered, when there is nothing left to be turned away.

* `Session.Unopened`: what holds as long as there is no driver;
* `Session.Undisturbed`: what holds as long as nobody disposes or drops the session;
* `Course.unopened`, `Course.undisturbed`: both hold along every course.
-/

import ShellSession.Proofs.Session.Accounts
import ShellSession.Proofs.Session.Locks

namespace ShellSession

/-! ### Calls that may ask for a request -/

/-- A start that has put the driver to work and has not come to an end. -/
def Starting.isUnderway : Starting → Bool
  | asking => true
  | awaiting _ => true
  | choosing _ => true
  | recording _ _ => true
  | moving _ => true
  | failing _ _ => true
  | _ => false

namespace Call

/-- A start that has put the driver to work and has not come to an end. -/
def isUnderway : Call → Bool
  | start (.inside stage) => stage.isUnderway
  | _ => false

/-- A submission that has been let in. -/
def isPushing : Call → Bool
  | submit _ .pushing => true
  | _ => false

end Call

/-- An order that asks for no request. -/
def Order.isAside : Order → Bool
  | start => false
  | submit _ => false
  | _ => true

theorem Call.waits_of_aside {call : Call} (aside : call.order.isAside = true) :
    call.isUnderway = false ∧ call.isPushing = false := by
  cases call with
  | start stage => cases aside
  | submit payload stage => cases aside
  | _ => exact ⟨rfl, rfl⟩

/-- A call that has just begun asks for nothing yet. -/
theorem Order.waits_call (order : Order) :
    order.call.isUnderway = false ∧ order.call.isPushing = false := by
  cases order <;> exact ⟨rfl, rfl⟩

/-- A phase before the session is ready or after its end. -/
def Phase.isOutside : Phase → Bool
  | notStarted => true
  | disposed => true
  | _ => false

theorem Phase.not_accepts_of_outside {phase : Phase} (outside : phase.isOutside = true) :
    phase.accepts = false := by
  cases phase <;> first | rfl | cases outside

/-! ### Before there is a driver -/

/-- What holds as long as there is no driver: the session is not ready, its queue is empty, and no
call is about to put a request into it. -/
structure Session.Unopened (s : Session) : Prop where
  outside : s.phase.isOutside = true
  empty : s.queue.items = []
  calls : ∀ entry ∈ s.calls, entry.2.isUnderway = false ∧ entry.2.isPushing = false

/-- Nothing makes the driver disappear. -/
theorem Handling.unborn {d e : Desk} {said : Option Said} (handling : Handling d said e)
    (free : e.driving = .unborn) : d.driving = .unborn := by
  cases handling <;> first | exact free | cases free

/-- An order that asks for no request leaves the numbers of requests alone, and does not make the
session ready. -/
theorem Effect.of_aside {s t : Session} {order : Order} {before after : Bool}
    (effect : Effect s order before t after) (aside : order.isAside = true) :
    t.lastId = s.lastId ∧ (s.phase.isOutside = true → t.phase.isOutside = true) ∧
      (t.queue.items = s.queue.items ∨ t.queue.items = []) := by
  cases effect with
  | spawn asked free bound => exact ⟨rfl, id, .inl rfl⟩
  | accept payload asked opened =>
    rcases asked with rfl | ⟨rfl, _⟩ <;> cases aside
  | refuse payload asked closed =>
    rcases asked with rfl | ⟨rfl, _⟩ <;> cases aside
  | moveTo target asked leads =>
    refine ⟨rfl, fun outside => ?_, .inl rfl⟩
    cases target with
    | ready =>
      cases order with
      | start => cases aside
      | _ => cases asked
    | aborting =>
      cases phase : s.phase <;> rw [phase] at outside leads <;>
        simp [Phase.isOutside, Phase.leadsTo] at outside leads
    | disposed => rfl
    | _ => cases asked
  | drain asked free => exact ⟨rfl, id, .inr rfl⟩
  | _ => exact ⟨rfl, id, .inl rfl⟩

/-- A start that has not yet put the driver to work only looks around, or does it now. -/
theorem Starting.step_before {s t : Session} {caller : Nat} {stage next : Starting}
    (before : stage.isUnderway = false) (stepped : stage.step caller s = some (t, next)) :
    t = s ∧ next.isUnderway = false ∨
      s.driving = .unborn ∧ t = s.spawn ∧ next = .asking := by
  cases goes_of_step stepped with
  | first | late | again | bar => exact .inl ⟨rfl, rfl⟩
  | spawn bound free => exact .inr ⟨free, rfl, rfl⟩
  | _ => cases before

namespace Session

variable {s t : Session} {caller : Nat}

/-- A call goes on at a stage that asks for nothing. -/
theorem Unopened.proceed (unopened : s.Unopened) {later : Call}
    (waits : later.isUnderway = false ∧ later.isPushing = false) :
    (s.proceed caller later).Unopened := by
  refine ⟨unopened.outside, unopened.empty, fun entry member => ?_⟩
  rcases mem_proceed member with ⟨_, old⟩ | rfl
  · exact unopened.calls entry old
  · exact waits

theorem Unopened.giveBack (unopened : s.Unopened) (reply : Except SessionFailure Reply) :
    (s.giveBack caller reply).Unopened :=
  ⟨unopened.outside, unopened.empty, fun entry member =>
    unopened.calls entry (List.mem_filter.mp member).1⟩

theorem Unopened.advance (unopened : s.Unopened) (moved : s.advance caller = some t)
    (free : t.driving = .unborn) : t.Unopened := by
  obtain ⟨call, found, moved⟩ := Option.bind_eq_some_iff.mp moved
  have mine := unopened.calls _ (mem_of_lookup found)
  cases call with
  | start stage =>
    rcases advanceStart_cases moved with ⟨rfl, rfl⟩ | ⟨result, rfl, rfl⟩ |
      ⟨inner, u, next, rfl, _, stepped, rfl⟩
    · have lined : (s.enterLifecycle caller).Unopened :=
        ⟨unopened.outside, unopened.empty, unopened.calls⟩
      exact lined.proceed ⟨rfl, rfl⟩
    · exact unopened.giveBack _
    · rcases Starting.step_before mine.1 stepped with ⟨rfl, waits⟩ | ⟨_, rfl, _⟩
      · exact unopened.proceed ⟨waits, rfl⟩
      · cases free
  | submit payload stage =>
    rcases advanceSubmit_cases moved with ⟨result, rfl, rfl⟩ | ⟨u, next, stepped, rfl⟩
    · exact unopened.giveBack _
    · cases Submitting.goes_of_step stepped with
      | letIn accepts =>
        rw [Phase.not_accepts_of_outside unopened.outside] at accepts
        cases accepts
      | bar refuses => exact unopened.proceed ⟨rfl, rfl⟩
      | push | refuse => cases mine.2
  | _ =>
    obtain ⟨next, advances⟩ := advanceCall_advances moved
    obtain ⟨u, effect, books⟩ := advances.effect
    obtain ⟨_, outside, items⟩ := effect.of_aside rfl
    refine ⟨?_, ?_, fun entry member => ?_⟩
    · rw [books]
      exact outside unopened.outside
    · rw [books]
      exact items.elim (fun same => same.trans unopened.empty) id
    · rw [advances.calls] at member
      rcases mem_callsBehind member with ⟨_, old⟩ | ⟨later, same, rfl⟩
      · exact unopened.calls entry old
      · refine Call.waits_of_aside ?_
        rw [advances.order later same]
        rfl

/-- **As long as there is no driver, nobody opens the session.** -/
theorem unopened_after {move : Move} (kept : s.driving = .unborn → s.Unopened)
    (moved : s.after move = some t) (free : t.driving = .unborn) : t.Unopened := by
  have before : s.driving = .unborn := (after_handling moved).unborn free
  have unopened := kept before
  have ⟨outside, empty, calls⟩ := unopened
  cases moves_of_after moved with
  | call caller moved => exact unopened.advance moved free
  | timeout caller mine expires =>
    cases expires with
    | dispose expires => exact unopened.proceed ⟨rfl, rfl⟩
    | start error expires => cases (calls _ mine).1
  | order order =>
    refine ⟨outside, empty, fun entry member => ?_⟩
    rcases List.mem_append.mp member with old | new
    · exact calls entry old
    · rw [List.mem_singleton.mp new]
      exact order.waits_call
  | driver moved _ =>
    rw [drive, before] at moved
    cases moved
  | listener _ same | aside _ same =>
    rw [same]
    exact ⟨outside, empty, calls⟩

theorem unopened_fresh (settings : Settings) (fallback : Release) (hosted : HostedEngine) :
    (fresh settings fallback hosted).Unopened :=
  ⟨rfl, rfl, fun _ member => by cases member⟩

end Session

/-! ### While nobody disposes of the session -/

namespace Starting

/-- A start that may still make the session ready. -/
def isHopeful : Starting → Bool
  | asking => true
  | awaiting _ => true
  | choosing _ => true
  | recording _ _ => true
  | moving _ => true
  | _ => false

/-- A start whose question has been answered. -/
def isAnswered : Starting → Bool
  | choosing _ => true
  | recording _ _ => true
  | moving _ => true
  | failing _ _ => true
  | _ => false

/-- A start that is not underway has no more hope of making the session ready. -/
theorem hopeless_of_waits {stage : Starting} (waits : stage.isUnderway = false) :
    stage.isHopeful = false := by
  cases stage <;> first | rfl | cases waits

theorem underway_of_answered {stage : Starting} (answered : stage.isAnswered = true) :
    stage.isUnderway = true := by
  cases stage <;> first | rfl | cases answered

end Starting

/-- What holds as long as nobody disposes or drops the session: one start at most is underway, and
only while the session is not ready; its question is the last request; and behind the answer, or
behind the shutdown signal, nothing is left to be settled. -/
structure Session.Undisturbed (s : Session) : Prop where
  orders : ∀ entry ∈ s.calls, entry.2.order ≠ .dispose
  single : ∀ entry ∈ s.calls, ∀ other ∈ s.calls,
    entry.2.isUnderway = true → other.2.isUnderway = true → entry = other
  underway : ∀ entry ∈ s.calls, entry.2.isUnderway = true →
    s.phase.isOutside = true ∧ s.driving ≠ .unborn
  pushing : s.phase.isOutside = true → ∀ entry ∈ s.calls, entry.2.isPushing = false
  asked : ∀ caller id, (caller, Call.start (.inside (.awaiting id))) ∈ s.calls → id = s.lastId
  answered : ∀ caller stage, (caller, Call.start (.inside stage)) ∈ s.calls →
    stage.isAnswered = true → s.desk.unsettled = []
  shut : s.shutdown = true → s.phase.isOutside = true ∧ s.driving ≠ .unborn ∧
    s.desk.unsettled = [] ∧ ∀ caller stage, (caller, Call.start (.inside stage)) ∈ s.calls →
      stage.isHopeful = false

section

variable {d e : Desk} {l : Ledger} {said : Option Said}

/-- Requests are numbered as they are accepted. -/
theorem Handling.items_length (handling : Handling d said e) (ids : e.lastId = d.lastId) :
    e.queue.items.length ≤ d.queue.items.length := by
  cases handling with
  | accept payload opened => exact absurd ids (Nat.succ_ne_self d.lastId)
  | turnAway free => exact Nat.zero_le _
  | take request rest looking queued =>
    rw [queued]
    exact Nat.le_succ _
  | _ => exact Nat.le_refl _

/-- Results are added behind the others, and never changed. -/
theorem Handling.results (handling : Handling d said e) : ∃ more, e.results = d.results ++ more := by
  cases handling with
  | turnAway free => exact ⟨_, rfl⟩
  | reject request gated fired => exact ⟨_, rfl⟩
  | exhaust request attempts judging concluded => exact ⟨_, rfl⟩
  | abandon request attempts retrying fired => exact ⟨_, rfl⟩
  | settle request routine result working ended => exact ⟨_, rfl⟩
  | _ => exact ⟨[], (List.append_nil _).symm⟩

/-- Where everything is settled and nothing is accepted, everything stays settled. -/
theorem Handling.unsettled_nil (handling : Handling d said e) (custody : d.Custody l)
    (ids : e.lastId = d.lastId) (done : d.unsettled = []) : e.unsettled = [] := by
  obtain ⟨settled, order, settledIds⟩ := custody.order
  obtain ⟨later, laterOrder, laterIds⟩ := (handling.custody custody).order
  obtain ⟨more, results⟩ := handling.results
  rw [l.accepted_note (handling.items_length ids), order, done, List.append_nil] at laterOrder
  have before : settled.length = d.results.length := by
    simpa only [List.length_map] using congrArg List.length settledIds
  have after : later.length = d.results.length + more.length := by
    simpa only [List.length_map, results, List.length_append] using congrArg List.length laterIds
  have all := congrArg List.length laterOrder
  rw [List.length_append] at all
  exact List.eq_nil_of_length_eq_zero (by omega)

end

/-- An order that neither asks for a request nor disposes of the session leaves what is to be settled
as it is. -/
theorem Effect.of_bystander {s t : Session} {order : Order} {before after : Bool}
    (effect : Effect s order before t after) (aside : order.isAside = true)
    (other : order ≠ .dispose) : t.shutdown = s.shutdown ∧
      t.phase.isOutside = s.phase.isOutside ∧ t.driving = s.driving ∧
      t.desk.unsettled = s.desk.unsettled := by
  have lasting : order.shuts = true → False := fun asked => by
    cases order with
    | start => cases aside
    | dispose => exact other rfl
    | _ => cases asked
  cases effect with
  | spawn asked free bound =>
    subst asked
    cases aside
  | accept payload asked opened =>
    rcases asked with rfl | ⟨rfl, _⟩ <;> cases aside
  | moveTo target asked leads =>
    refine ⟨rfl, ?_, rfl, rfl⟩
    cases target with
    | ready =>
      cases order with
      | start => cases aside
      | _ => cases asked
    | aborting =>
      cases phase : s.phase <;> rw [phase] at leads <;> first | rfl | cases leads
    | disposed => exact (lasting asked).elim
    | _ => cases asked
  | cancel asked => exact (lasting asked).elim
  | drain asked free => exact (lasting asked).elim
  | _ => exact ⟨rfl, rfl, rfl, rfl⟩

namespace Session

variable {s t : Session} {l : Ledger} {caller : Nat}

/-- Once an answer for the last request is there, nothing is left to be settled. -/
theorem unsettled_of_last (custody : s.desk.Custody l) {result : Result}
    (found : s.result? s.lastId = some result) : s.desk.unsettled = [] := by
  refine List.eq_nil_iff_forall_not_mem.mpr fun request member => ?_
  have above := custody.settled_lt (mem_of_lookup found) member
  have below := custody.bounded request (custody.accepted_of_unsettled member)
  exact Nat.not_lt_of_le below above

/-- The driver does not lead a session into or out of being ready or running. -/
theorem drive_outside (moved : s.drive = some t) : t.phase.isOutside = s.phase.isOutside := by
  rcases drive_phase moved with same | ⟨before, after⟩ | ⟨before, after⟩
  · rw [same]
  · rw [before, after]
    rfl
  · rw [before, after]
    rfl

namespace Undisturbed

/-- What concerns calls is unchanged, and nothing is accepted. -/
theorem frame (kept : s.Undisturbed) (calls : t.calls = s.calls)
    (outside : t.phase.isOutside = s.phase.isOutside) (ids : t.lastId = s.lastId)
    (shutdown : t.shutdown = s.shutdown) (driving : t.driving = .unborn → s.driving = .unborn)
    (unsettled : s.desk.unsettled = [] → t.desk.unsettled = []) : t.Undisturbed where
  orders := by
    rw [calls]
    exact kept.orders
  single := by
    rw [calls]
    exact kept.single
  underway := by
    rw [calls, outside]
    intro entry member underway
    exact (kept.underway entry member underway).imp id fun born unborn => born (driving unborn)
  pushing := by
    rw [calls, outside]
    exact kept.pushing
  asked := by
    rw [calls, ids]
    exact kept.asked
  answered := by
    rw [calls]
    exact fun caller stage member answered => unsettled (kept.answered caller stage member answered)
  shut := by
    rw [shutdown, outside, calls]
    intro fired
    obtain ⟨outside, born, done, hopeless⟩ := kept.shut fired
    exact ⟨outside, fun unborn => born (driving unborn), unsettled done, hopeless⟩

/-- While one start is underway, the other calls are not. -/
theorem others_wait (kept : s.Undisturbed) {call : Call} (mine : (caller, call) ∈ s.calls)
    (underway : call.isUnderway = true) :
    ∀ entry ∈ s.calls, entry.1 ≠ caller → entry.2.isUnderway = false := by
  intro entry member other
  refine eq_false_of_ne_true fun same => other ?_
  rw [kept.single entry member (caller, call) mine same underway]

/-- A call goes on, or is over, while the other calls stay where they are. -/
theorem follow (kept : s.Undisturbed) {next : Option Call}
    (calls : t.calls = s.callsBehind caller next)
    (orders : ∀ later, next = some later → later.order ≠ .dispose)
    (others : ∀ entry ∈ s.calls, entry.1 ≠ caller → entry.2.isUnderway = true →
      t.phase.isOutside = true ∧ t.driving ≠ .unborn ∧ t.lastId = s.lastId ∧
        (s.desk.unsettled = [] → t.desk.unsettled = []))
    (underway : ∀ later, next = some later → later.isUnderway = true →
      t.phase.isOutside = true ∧ t.driving ≠ .unborn ∧
        ∀ entry ∈ s.calls, entry.1 ≠ caller → entry.2.isUnderway = false)
    (pushing : t.phase.isOutside = true → s.phase.isOutside = true ∧
      ∀ later, next = some later → later.isPushing = false)
    (asked : ∀ id, next = some (.start (.inside (.awaiting id))) → id = t.lastId)
    (answered : ∀ stage, next = some (.start (.inside stage)) → stage.isAnswered = true →
      t.desk.unsettled = [])
    (shut : t.shutdown = true → t.phase.isOutside = true ∧ t.driving ≠ .unborn ∧
      t.desk.unsettled = [] ∧
      (∀ other stage, (other, Call.start (.inside stage)) ∈ s.calls → other ≠ caller →
        stage.isHopeful = false) ∧
      ∀ stage, next = some (.start (.inside stage)) → stage.isHopeful = false) :
    t.Undisturbed where
  orders := by
    intro entry member
    rw [calls] at member
    rcases mem_callsBehind member with ⟨_, old⟩ | ⟨later, same, rfl⟩
    · exact kept.orders entry old
    · exact orders later same
  single := by
    intro entry member other otherMember first second
    rw [calls] at member otherMember
    rcases mem_callsBehind member with ⟨apart, old⟩ | ⟨later, same, rfl⟩ <;>
      rcases mem_callsBehind otherMember with ⟨otherApart, otherOld⟩ | ⟨otherLater, otherSame, rfl⟩
    · exact kept.single entry old other otherOld first second
    · have waits := (underway otherLater otherSame second).2.2 entry old apart
      rw [waits] at first
      cases first
    · have waits := (underway later same first).2.2 other otherOld otherApart
      rw [waits] at second
      cases second
    · rw [same] at otherSame
      cases otherSame
      rfl
  underway := by
    intro entry member first
    rw [calls] at member
    rcases mem_callsBehind member with ⟨apart, old⟩ | ⟨later, same, rfl⟩
    · obtain ⟨outside, born, _⟩ := others entry old apart first
      exact ⟨outside, born⟩
    · obtain ⟨outside, born, _⟩ := underway later same first
      exact ⟨outside, born⟩
  pushing := by
    intro outside entry member
    obtain ⟨before, mine⟩ := pushing outside
    rw [calls] at member
    rcases mem_callsBehind member with ⟨_, old⟩ | ⟨later, same, rfl⟩
    · exact kept.pushing before entry old
    · exact mine later same
  asked := by
    intro other id member
    rw [calls] at member
    rcases mem_callsBehind member with ⟨apart, old⟩ | ⟨later, same, whole⟩
    · obtain ⟨_, _, ids, _⟩ := others _ old apart rfl
      rw [ids]
      exact kept.asked other id old
    · cases whole
      exact asked id same
  answered := by
    intro other stage member behind
    rw [calls] at member
    rcases mem_callsBehind member with ⟨apart, old⟩ | ⟨later, same, whole⟩
    · obtain ⟨_, _, _, unsettled⟩ := others _ old apart (Starting.underway_of_answered behind)
      exact unsettled (kept.answered other stage old behind)
    · cases whole
      exact answered stage same behind
  shut := by
    intro fired
    obtain ⟨outside, born, done, hopeless, mine⟩ := shut fired
    refine ⟨outside, born, done, fun other stage member => ?_⟩
    rw [calls] at member
    rcases mem_callsBehind member with ⟨apart, old⟩ | ⟨later, same, whole⟩
    · exact hopeless other stage old apart
    · cases whole
      exact mine stage same

/-- The one start that is underway goes on. -/
theorem solo (kept : s.Undisturbed) {stage next : Starting}
    (mine : (caller, Call.start (.inside stage)) ∈ s.calls) (first : stage.isUnderway = true)
    (calls : t.calls = s.callsBehind caller (some (.start (.inside next))))
    (underway : next.isUnderway = true → t.phase.isOutside = true ∧ t.driving ≠ .unborn)
    (asked : ∀ id, next = .awaiting id → id = t.lastId)
    (answered : next.isAnswered = true → t.desk.unsettled = [])
    (shut : t.shutdown = true → t.phase.isOutside = true ∧ t.driving ≠ .unborn ∧
      t.desk.unsettled = [] ∧ next.isHopeful = false) : t.Undisturbed := by
  have waits := kept.others_wait mine first
  have outside := (kept.underway _ mine first).1
  refine kept.follow calls ?_ ?_ ?_ ?_ ?_ ?_ ?_
  · rintro later ⟨⟩ other
    cases other
  · intro entry member apart second
    rw [waits entry member apart] at second
    cases second
  · rintro later ⟨⟩ second
    obtain ⟨after, born⟩ := underway second
    exact ⟨after, born, waits⟩
  · refine fun _ => ⟨outside, ?_⟩
    rintro later ⟨⟩
    rfl
  · rintro id ⟨⟩
    exact asked id rfl
  · rintro later ⟨⟩ behind
    exact answered behind
  · intro fired
    obtain ⟨after, born, done, hopeless⟩ := shut fired
    refine ⟨after, born, done, fun other stage member apart => ?_, ?_⟩
    · exact Starting.hopeless_of_waits (waits _ member apart)
    · rintro later ⟨⟩
      exact hopeless

/-- A call that asks for no request goes on without touching the desk or the phase. -/
theorem look (kept : s.Undisturbed) (next : Option Call) (calls : t.calls = s.callsBehind caller next)
    (phase : t.phase.isOutside = s.phase.isOutside) (driving : t.driving = s.driving)
    (ids : t.lastId = s.lastId) (shutdown : t.shutdown = s.shutdown)
    (unsettled : s.desk.unsettled = [] → t.desk.unsettled = [])
    (waits : ∀ later, next = some later → later.order ≠ .dispose ∧ later.isUnderway = false ∧
      (s.phase.isOutside = true → later.isPushing = false)) : t.Undisturbed := by
  refine kept.follow calls (fun later same => (waits later same).1) ?_ ?_ ?_ ?_ ?_ ?_
  · intro entry member _ second
    rw [phase, driving]
    obtain ⟨outside, born⟩ := kept.underway entry member second
    exact ⟨outside, born, ids, unsettled⟩
  · intro later same second
    rw [(waits later same).2.1] at second
    cases second
  · intro outside
    rw [phase] at outside
    exact ⟨outside, fun later same => (waits later same).2.2 outside⟩
  · intro id same
    have waiting := (waits _ same).2.1
    cases waiting
  · intro stage same behind
    have waiting : stage.isUnderway = false := (waits _ same).2.1
    rw [Starting.underway_of_answered behind] at waiting
    cases waiting
  · intro fired
    rw [shutdown] at fired
    obtain ⟨outside, born, done, hopeless⟩ := kept.shut fired
    rw [phase, driving]
    refine ⟨outside, born, unsettled done, fun other stage member _ => hopeless other stage member,
      fun stage same => Starting.hopeless_of_waits (waits _ same).2.1⟩

/-- A step of the start that is underway. -/
theorem start_step (kept : s.Undisturbed) (custody : s.desk.Custody l) {stage next : Starting}
    (mine : (caller, Call.start (.inside stage)) ∈ s.calls) (first : stage.isUnderway = true)
    (stepped : stage.step caller s = some (t, next)) :
    (t.proceed caller (.start (.inside next))).Undisturbed := by
  obtain ⟨outside, born⟩ := kept.underway _ mine first
  have alive : stage.isHopeful = true → s.shutdown = false := fun hopeful => by
    refine eq_false_of_ne_true fun fired => ?_
    rw [(kept.shut fired).2.2.2 caller stage mine] at hopeful
    cases hopeful
  have dead : stage.isHopeful = true → s.shutdown = true → False := fun hopeful fired => by
    rw [alive hopeful] at fired
    cases fired
  cases Starting.goes_of_step stepped with
  | ask opened =>
    refine kept.solo mine rfl rfl (fun _ => ⟨outside, born⟩) ?_ (fun second => by cases second)
      fun fired => (dead rfl fired).elim
    rintro id ⟨⟩
    rfl
  | refuse closed =>
    exact kept.solo mine rfl rfl (fun second => by cases second) (fun id same => by cases same)
      (fun second => by cases second) fun fired => (dead rfl fired).elim
  | hear id release found | miss id answer found | lose id error found =>
    have done : s.desk.unsettled = [] :=
      unsettled_of_last custody (kept.asked caller id mine ▸ found)
    exact kept.solo mine rfl rfl (fun _ => ⟨outside, born⟩) (fun id same => by cases same)
      (fun _ => done) fun fired => (dead rfl fired).elim
  | choose | reject | record =>
    have done := kept.answered caller _ mine rfl
    exact kept.solo mine rfl rfl (fun _ => ⟨outside, born⟩) (fun id same => by cases same)
      (fun _ => done) fun fired => (dead rfl fired).elim
  | move | stay =>
    exact kept.solo mine rfl rfl (fun second => by cases second) (fun id same => by cases same)
      (fun second => by cases second) fun fired => (dead rfl fired).elim
  | disposed error =>
    have done := kept.answered caller _ mine rfl
    exact kept.solo mine rfl rfl (fun second => by cases second) (fun id same => by cases same)
      (fun second => by cases second) fun fired => ⟨outside, born, done, rfl⟩
  | dispose error inner later t same =>
    have done := kept.answered caller _ mine rfl
    -- The dispose asks for no request, so that nothing comes up that would have to be settled.
    have affects : s.Affects .dispose inner.grips t later.grips :=
      Disposing.step_effect rfl same
    obtain ⟨u, effect, books⟩ := affects
    obtain ⟨ids, stays, _⟩ := effect.of_aside rfl
    have calls := effect.same_books.2.2.2.1
    have handled := effect.handling
    have free : u.driving ≠ .unborn := fun unborn => born (handled.unborn unborn)
    have still := handled.unsettled_nil custody ids done
    have behind : (t.proceed caller (.start (.inside (.failing error later)))).calls =
        s.callsBehind caller (some (.start (.inside (.failing error later)))) := by
      rw [books]
      show u.calls.map _ = s.calls.map _
      rw [calls]
    refine kept.solo mine rfl behind (fun _ => ?_) (fun id same => by cases same) (fun _ => ?_)
      (fun fired => ⟨?_, ?_, ?_, rfl⟩)
    all_goals rw [books]
    · exact ⟨stays outside, free⟩
    · exact still
    · exact stays outside
    · exact free
    · exact still
  | first | late | again | spawn | bar => cases first

/-- The driver put to work by a start. -/
theorem spawn_step (kept : s.Undisturbed) (unopened : s.Unopened) (free : s.driving = .unborn) :
    (s.spawn.proceed caller (.start (.inside .asking))).Undisturbed := by
  have alive : s.shutdown = true → False := fun fired => (kept.shut fired).2.1 free
  have behind : (s.spawn.proceed caller (.start (.inside .asking))).calls =
      s.callsBehind caller (some (.start (.inside .asking))) := rfl
  refine kept.follow behind ?_ ?_ ?_ ?_ (fun id same => by cases same)
    (fun stage same behind => by cases same; cases behind) fun fired => (alive fired).elim
  · rintro later ⟨⟩ other
    cases other
  · intro entry member _ first
    rw [(unopened.calls entry member).1] at first
    cases first
  · exact fun later _ _ =>
      ⟨unopened.outside, nofun, fun entry member _ => (unopened.calls entry member).1⟩
  · refine fun outside => ⟨outside, ?_⟩
    rintro later ⟨⟩
    rfl

/-- A request put into the queue by a submission, which finds the session ready or running. -/
theorem push_step (kept : s.Undisturbed) {payload : Payload} {next : Submitting}
    (mine : (caller, Call.submit payload .pushing) ∈ s.calls)
    (stepped : Submitting.pushing.step payload s = some (u, next)) :
    (u.proceed caller (.submit payload next)).Undisturbed := by
  have inside : s.phase.isOutside = true → False := fun outside => by
    have waits := kept.pushing outside _ mine
    cases waits
  have waits : ∀ entry ∈ s.calls, entry.2.isUnderway = true → False := fun entry member first =>
    inside (kept.underway entry member first).1
  have same : u.phase = s.phase ∧ u.shutdown = s.shutdown ∧ u.calls = s.calls := by
    cases Submitting.goes_of_step stepped <;> exact ⟨rfl, rfl, rfl⟩
  obtain ⟨phase, shutdown, calls⟩ := same
  have behind : (u.proceed caller (.submit payload next)).calls =
      s.callsBehind caller (some (.submit payload next)) := by
    show u.calls.map _ = s.calls.map _
    rw [calls]
  refine kept.follow behind ?_ (fun entry member _ first => (waits entry member first).elim) ?_ ?_
    (fun id same => by cases same) (fun stage same => by cases same) fun fired => ?_
  · rintro later ⟨⟩ other
    cases other
  · rintro later ⟨⟩ first
    cases first
  · exact fun outside => (inside (phase ▸ outside)).elim
  · exact (inside (kept.shut (shutdown ▸ fired)).1).elim

end Undisturbed

namespace Undisturbed

/-- A call that has just begun asks for nothing yet. -/
theorem begin (kept : s.Undisturbed) {order : Order} (other : order ≠ .dispose) :
    (s.begin order.call).2.Undisturbed := by
  have cases_of_mem : ∀ entry ∈ (s.begin order.call).2.calls,
      entry ∈ s.calls ∨ entry.2 = order.call := by
    intro entry member
    refine (List.mem_append.mp member).imp id fun new => ?_
    rw [List.mem_singleton.mp new]
  have old_of_underway : ∀ entry ∈ (s.begin order.call).2.calls, entry.2.isUnderway = true →
      entry ∈ s.calls := by
    intro entry member first
    refine (cases_of_mem entry member).resolve_right fun new => ?_
    rw [new, order.waits_call.1] at first
    cases first
  refine ⟨?_, ?_, ?_, ?_, ?_, ?_, ?_⟩
  · intro entry member
    rcases cases_of_mem entry member with old | new
    · exact kept.orders entry old
    · rw [new, order.order_call]
      exact other
  · intro entry member another anotherMember first second
    exact kept.single entry (old_of_underway entry member first) another
      (old_of_underway another anotherMember second) first second
  · intro entry member first
    exact kept.underway entry (old_of_underway entry member first) first
  · intro outside entry member
    rcases cases_of_mem entry member with old | new
    · exact kept.pushing outside entry old
    · rw [new]
      exact order.waits_call.2
  · intro caller id member
    exact kept.asked caller id (old_of_underway _ member rfl)
  · intro caller stage member behind
    exact kept.answered caller stage
      (old_of_underway _ member (Starting.underway_of_answered behind)) behind
  · intro fired
    obtain ⟨outside, born, done, hopeless⟩ := kept.shut fired
    refine ⟨outside, born, done, fun caller stage member => ?_⟩
    cases first : stage.isUnderway with
    | true => exact hopeless caller stage (old_of_underway _ member first)
    | false => exact Starting.hopeless_of_waits first

/-- **A step of a call leaves the session undisturbed.** -/
theorem advance (kept : s.Undisturbed) (custody : s.desk.Custody l)
    (unopened : s.driving = .unborn → s.Unopened) (moved : s.advance caller = some t) :
    t.Undisturbed := by
  obtain ⟨call, found, moved⟩ := Option.bind_eq_some_iff.mp moved
  have mine := mem_of_lookup found
  have order := kept.orders _ mine
  cases call with
  | start stage =>
    rcases advanceStart_cases moved with ⟨rfl, rfl⟩ | ⟨result, rfl, rfl⟩ |
      ⟨inner, u, next, rfl, _, stepped, rfl⟩
    · refine kept.look (some (.start (.inside .checking))) rfl rfl rfl rfl rfl id ?_
      rintro later ⟨⟩
      exact ⟨nofun, rfl, fun _ => rfl⟩
    · exact kept.look none rfl rfl rfl rfl rfl id fun _ same => by cases same
    · cases first : inner.isUnderway with
      | true => exact kept.start_step custody mine first stepped
      | false =>
        rcases Starting.step_before first stepped with ⟨rfl, waits⟩ | ⟨free, rfl, rfl⟩
        · refine kept.look (some (.start (.inside next))) rfl rfl rfl rfl rfl id ?_
          rintro later ⟨⟩
          exact ⟨nofun, waits, fun _ => rfl⟩
        · exact kept.spawn_step (unopened free) free
  | submit payload stage =>
    rcases advanceSubmit_cases moved with ⟨result, rfl, rfl⟩ | ⟨u, next, stepped, rfl⟩
    · exact kept.look none rfl rfl rfl rfl rfl id fun _ same => by cases same
    · cases Submitting.goes_of_step stepped with
      | letIn accepts =>
        refine kept.look (some (.submit payload .pushing)) rfl rfl rfl rfl rfl id ?_
        rintro later ⟨⟩
        refine ⟨nofun, rfl, fun outside => ?_⟩
        rw [Phase.not_accepts_of_outside outside] at accepts
        cases accepts
      | bar refuses =>
        refine kept.look (some (.submit payload (.finished _))) rfl rfl rfl rfl rfl id ?_
        rintro later ⟨⟩
        exact ⟨nofun, rfl, fun _ => rfl⟩
      | push opened => exact kept.push_step mine stepped
      | refuse closed => exact kept.push_step mine stepped
  | dispose stage => exact absurd rfl order
  | _ =>
    obtain ⟨next, advances⟩ := advanceCall_advances moved
    obtain ⟨u, effect, books⟩ := advances.effect
    obtain ⟨ids, _, _⟩ := effect.of_aside rfl
    obtain ⟨shutdown, outside, driving, unsettled⟩ := effect.of_bystander rfl order
    refine kept.look next advances.calls ?_ ?_ ?_ ?_ ?_ ?_
    · rw [books]
      exact outside
    · rw [books]
      exact driving
    · rw [books]
      exact ids
    · rw [books]
      exact shutdown
    · rw [books]
      exact fun done => unsettled.trans done
    · intro later same
      have sameOrder := advances.order later same
      have waits : later.isUnderway = false ∧ later.isPushing = false :=
        Call.waits_of_aside (by rw [sameOrder]; rfl)
      exact ⟨by rw [sameOrder]; exact order, waits.1, fun _ => waits.2⟩

end Undisturbed

/-- **Whatever happens but a dispose or a drop leaves the session undisturbed.** -/
theorem undisturbed_after {move : Move} (kept : s.Undisturbed) (custody : s.desk.Custody l)
    (unopened : s.driving = .unborn → s.Unopened) (undropped : move ≠ .drop)
    (undisposed : move ≠ .order .dispose) (moved : s.after move = some t) : t.Undisturbed := by
  have handling := after_handling moved
  cases move with
  | act actor =>
    cases actor with
    | call caller => exact kept.advance custody unopened moved
    | listener =>
      rw [listen_changes moved]
      exact kept.frame rfl rfl rfl rfl id id
    | engine =>
      rw [compute_changes moved]
      exact kept.frame rfl rfl rfl rfl id id
    | thread =>
      have same := work_changes moved
      have ids : t.lastId = s.lastId := by rw [same]
      refine kept.frame ?_ ?_ ids ?_ handling.unborn (handling.unsettled_nil custody ids)
      all_goals rw [same]
    | driver =>
      have same := drive_changes moved
      have ids : t.lastId = s.lastId := by rw [same]
      refine kept.frame ?_ (drive_outside moved) ids ?_ handling.unborn
        (handling.unsettled_nil custody ids)
      all_goals rw [same]
    | backoff =>
      have same := ring_changes moved
      have ids : t.lastId = s.lastId := by rw [same]
      refine kept.frame ?_ ?_ ids ?_ handling.unborn (handling.unsettled_nil custody ids)
      all_goals rw [same]
    | timeout caller =>
      obtain ⟨call, later, mine, expires, rfl⟩ := expires_of_expire moved
      cases expires with
      | dispose expires => exact absurd rfl (kept.orders _ mine)
      | @start error now later expires =>
        obtain ⟨outside, born⟩ := kept.underway _ mine rfl
        have done := kept.answered caller _ mine rfl
        have behind : (s.proceed caller (.start (.inside (.failing error later)))).calls =
            s.callsBehind caller (some (.start (.inside (.failing error later)))) := rfl
        exact kept.solo mine rfl behind (fun _ => ⟨outside, born⟩) (fun id same => by cases same)
          (fun _ => done) fun _ => ⟨outside, born, done, rfl⟩
  | order order =>
    cases moved
    exact kept.begin fun same => undisposed (by rw [same])
  | host held heldFor present refusal =>
    cases moved
    exact kept.frame rfl rfl rfl rfl id id
  | outside engine =>
    cases moved
    exact kept.frame rfl rfl rfl rfl id id
  | drop => exact absurd rfl undropped

theorem undisturbed_fresh (settings : Settings) (fallback : Release) (hosted : HostedEngine) :
    (fresh settings fallback hosted).Undisturbed where
  orders := fun _ member => by cases member
  single := fun _ member => by cases member
  underway := fun _ member => by cases member
  pushing := fun _ _ member => by cases member
  asked := fun _ _ member => by cases member
  answered := fun _ _ member => by cases member
  shut := fun fired => by cases fired

end Session

end ShellSession
