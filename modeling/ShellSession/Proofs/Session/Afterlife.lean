/-
**What is asked of a session behind its dispose.**

A dispose that has returned has taken the session's engine away. From then on nobody gets past a first
look at the session, not even behind the lifecycle lock: whoever has the lock lets go of it after a
step or two, and the next one in line finds the session disposed as well. So everything that is asked
of the session is answered, the same way every time, and nothing of it reaches the engine.

* `Session.Gone`: a session that has been disposed and that no call changes any more;
* `Session.Tidy`, `Course.tidy`: **a session that does not refer to its engine is one of these**;
* `Call.Vain`, `Order.lateAnswer`: calls to such a session, and their answers;
* `Session.Vanishes`: a step of such a call, which changes nothing but the bookkeeping of calls;
* `Session.exists_course_vain`: **every such call can return**, whoever stands before it in line.
-/

import ShellSession.Proofs.Session.Following
import ShellSession.Proofs.Session.Stranded

namespace ShellSession

/-! ### Calls that are through -/

/-- A call that does not hold the lifecycle lock, or has disposed of the session and is about to let
go of the lock. -/
def Call.isThrough : Call → Bool
  | start (.inside (.failing _ .finished)) => true
  | call => !call.isLocked

/-- How many steps a call is away from its end, if it only takes a look at the session or queues a
request. -/
def Call.distance : Call → Nat
  | start .entering => 2
  | abort .entering => 2
  | dispose .entering => 2
  | submit _ .checking => 2
  | start (.inside (.finished _)) => 0
  | submit _ (.finished _) => 0
  | nested _ _ (.finished _) => 0
  | resume _ (.finished _) => 0
  | abort (.inside (.finished _)) => 0
  | dispose (.inside .finished) => 0
  | _ => 1

theorem Call.through_of_unlocked {call : Call} (unlocked : call.isLocked = false) :
    call.isThrough = true := by
  unfold isThrough
  split
  · rfl
  · rw [unlocked]
    rfl

namespace Session

variable {s t : Session} {caller : Nat} {call : Call} {move : Move}

/-- A session that has been disposed, without an engine, and in which every call is through. -/
structure Gone (s : Session) : Prop where
  disposed : s.phase = .disposed
  unbound : s.bound = false
  through : ∀ entry ∈ s.calls, entry.2.isThrough = true

/-- What a call in line for the lifecycle lock does in a session that has been disposed, when it is the
first: it goes on to its end, or returns. -/
theorem first_advance (disposed : s.phase = .disposed) (inLine : call.isInLine = true)
    (through : call.isThrough = true) (first : s.lifecycle.head? = some caller) :
    (∃ reply, s.advanceCall caller call = some (s.giveBack caller reply)) ∨
      ∃ later, s.advanceCall caller call = some (s.proceed caller later) ∧ later.isInLine = true ∧
        later.isThrough = true ∧ later.distance < call.distance := by
  have held : holds s.lifecycle caller = true := by
    unfold holds
    exact decide_eq_true first
  cases call with
  | start stage =>
    cases stage with
    | entering => cases inLine
    | inside stage =>
      cases stage with
      | checking =>
        refine .inr ⟨.start (.inside (.finished (.error .disposed))), ?_, rfl, rfl, Nat.one_pos⟩
        show (if holds s.lifecycle caller then proceedTo caller (fun stage => .start (.inside stage))
          (Starting.step caller s .checking) else none) = _
        rw [if_pos held, Starting.step, disposed]
        rfl
      | failing error inner =>
        cases inner with
        | finished =>
          refine .inr ⟨.start (.inside (.finished (.error error))), ?_, rfl, rfl, Nat.one_pos⟩
          show (if holds s.lifecycle caller then proceedTo caller (fun stage => .start (.inside stage))
            (Starting.step caller s (.failing error .finished)) else none) = _
          rw [if_pos held]
          rfl
        | _ => cases through
      | finished result => exact .inl ⟨_, rfl⟩
      | _ => cases through
  | abort stage =>
    cases stage with
    | entering => cases inLine
    | inside stage =>
      cases stage with
      | checking =>
        refine .inr ⟨.abort (.inside (.finished (.ok ()))), ?_, rfl, rfl, Nat.one_pos⟩
        show (if holds s.lifecycle caller then proceedTo caller (fun stage => .abort (.inside stage))
          (Aborting.step caller s .checking) else none) = _
        rw [if_pos held, Aborting.step, disposed]
        rfl
      | finished result => exact .inl ⟨_, rfl⟩
      | _ => cases through
  | dispose stage =>
    cases stage with
    | entering => cases inLine
    | inside stage =>
      cases stage with
      | checking =>
        refine .inr ⟨.dispose (.inside .finished), ?_, rfl, rfl, Nat.one_pos⟩
        show (if holds s.lifecycle caller then proceedTo caller (fun stage => .dispose (.inside stage))
          (Disposing.step caller s .checking) else none) = _
        rw [if_pos held, Disposing.step, if_pos disposed]
        rfl
      | finished => exact .inl ⟨_, rfl⟩
      | _ => cases through
  | _ => cases inLine

/-- A call that is through in a session that has been disposed stays so. -/
theorem through_advance (disposed : s.phase = .disposed) (through : call.isThrough = true)
    (moved : s.advanceCall caller call = some t) {later : Call} (goes : (caller, later) ∈ t.calls) :
    later.isThrough = true := by
  cases takes_of_advanceCall moved with
  | line next lines =>
    rw [eq_of_mem_proceed goes]
    cases lines <;> rfl
  | stage u next stage =>
    rw [eq_of_mem_proceed goes]
    cases stage with
    | start stage next u held stepped =>
      cases Starting.goes_of_step stepped with
      | first phase => cases disposed.symm.trans phase
      | late | again | disposed => rfl
      | dispose error inner later u same =>
        cases inner with
        | finished => cases same
        | _ => cases through
      | _ => cases through
    | abort stage next u held stepped =>
      cases Aborting.goes_of_step stepped with
      | late | early => rfl
      | paused alive | active alive =>
        rcases alive with phase | phase <;> cases disposed.symm.trans phase
      | _ => cases through
    | dispose stage next u held stepped =>
      cases Disposing.goes_of_step stepped with
      | already => rfl
      | busy alive | free alive => exact absurd disposed alive
      | _ => cases through
    | _ => rfl
  | _ => exact absurd goes (not_mem_giveBack _)

/-- Whoever waits for the parties to go is not through. -/
theorem expire_none (through : ∀ entry ∈ s.calls, entry.2.isThrough = true) (caller : Nat)
    (t : Session) : s.expire caller ≠ some t := by
  intro moved
  obtain ⟨call, _, mine, expires, _⟩ := expires_of_expire moved
  have stays := through _ mine
  cases expires with
  | dispose expires => cases expires <;> cases stays
  | start error expires => cases expires <;> cases stays

/-- **A session that is gone stays so.** -/
theorem Gone.after (gone : s.Gone) (moved : s.after move = some t) : t.Gone where
  disposed := disposed_after moved gone.disposed
  unbound := unbound_after moved gone.unbound
  through := by
    intro entry member
    rcases mem_after moved member with before | ⟨call, _, mine, taken⟩ | ⟨_, rfl, _⟩ |
      ⟨order, _, same⟩
    · exact gone.through entry before
    · exact through_advance gone.disposed (gone.through _ mine) taken member
    · exact absurd moved (expire_none gone.through entry.1 t)
    · rw [same]
      cases order <;> rfl

/-- A dispose that takes the engine away leaves everybody else through. -/
theorem gone_of_advance (orderly : s.Orderly) (passed : s.Passed 0 fun s => s.phase = .disposed)
    (bound : s.bound = true) (moved : s.advance caller = some t) (unbound : t.bound = false) :
    t.Gone := by
  obtain ⟨call, next, mine, calls, _, disposes⟩ := advance_disposes moved
  cases disposes with
  | aside _ _ _ same =>
    rw [same, bound] at unbound
    cases unbound
  | stage now later u disposing goes held stepped books =>
    rcases Disposing.step_bound stepped with same | rfl
    · rw [books, show u.bound = true from same.trans bound] at unbound
      cases unbound
    · have disposed : s.phase = .disposed := passed.beyond _ mine _ disposing (by decide)
      cases stepped
      refine ⟨by rw [books]; exact disposed, unbound, fun entry member => ?_⟩
      rw [calls] at member
      rcases mem_callsBehind member with ⟨apart, before⟩ | ⟨following, rfl, rfl⟩
      · refine Call.through_of_unlocked (eq_false_of_ne_true fun locked => apart ?_)
        exact orderly.eq_of_locked before locked held
      · have through : following.disposing? = some .finished := goes
        cases following with
        | start guarded =>
          cases guarded with
          | entering => cases through
          | inside inner =>
            cases inner with
            | failing error inner =>
              cases through
              rfl
            | _ => cases through
        | dispose guarded =>
          cases guarded with
          | entering => cases through
          | inside inner =>
            cases through
            rfl
        | _ => cases through

/-- **A move that takes the engine away leaves a session that is gone.** -/
theorem gone_after (orderly : s.Orderly) (passed : s.Passed 0 fun s => s.phase = .disposed)
    (gone : s.bound = false → s.Gone) (moved : s.after move = some t) (unbound : t.bound = false) :
    t.Gone := by
  cases bound : s.bound with
  | false => exact (gone bound).after moved
  | true =>
    have lost : t.bound ≠ s.bound := by
      rw [unbound, bound]
      exact Bool.false_ne_true
    cases moves_of_after moved with
    | call caller moved => exact gone_of_advance orderly passed bound moved unbound
    | order _ | timeout _ _ _ => exact absurd rfl lost
    | driver _ same | listener _ same | aside _ same =>
      exact absurd (by rw [same]) lost

/-- A session whose calls are in order and in line, and that is gone as soon as it has no engine. -/
structure Tidy (s : Session) : Prop where
  orderly : s.Orderly
  lined : s.Lined
  passed : s.Passed 0 fun s => s.phase = .disposed
  gone : s.bound = false → s.Gone

/-- **Every move leaves a session tidy.** -/
theorem Tidy.after (tidy : s.Tidy) (moved : s.after move = some t) : t.Tidy where
  orderly := orderly_after tidy.orderly moved
  lined := lined_after tidy.lined tidy.orderly moved
  passed := passed_after Milestone.disposed tidy.orderly (.inl (by decide)) tidy.passed moved
  gone := gone_after tidy.orderly tidy.passed tidy.gone moved

theorem tidy_fresh (settings : Settings) (fallback : Release) (hosted : HostedEngine) :
    (fresh settings fallback hosted).Tidy where
  orderly := orderly_fresh settings fallback hosted
  lined := lined_fresh settings fallback hosted
  passed := passed_fresh settings fallback hosted 0 _
  gone := fun unbound => by cases unbound

end Session

namespace Course

variable {env : Environment} {s t : Session} {j k : Journal}

/-- A session is tidy along every course. -/
theorem tidy (course : Course env s j k t) (tidy : s.Tidy) : t.Tidy :=
  course.invariant (fun t _ => t.Tidy) (fun _ tidy _ moved => tidy.after moved) tidy

/-- A session that is gone stays so along every course. -/
theorem still_gone (course : Course env s j k t) (gone : s.Gone) : t.Gone :=
  course.invariant (fun t _ => t.Gone) (fun _ gone _ moved => gone.after moved) gone

end Course

/-! ### The line -/

namespace Session

variable {s t : Session} {caller : Nat} {call : Call}

/-- A line without somebody in it is shorter. -/
theorem length_without {lock : Lock} (waits : caller ∈ lock) :
    (without lock caller).length < lock.length :=
  List.length_filter_lt_length_iff_exists.mpr ⟨caller, waits, by simp⟩

/-- On the way of the first in line to its end: the line of `s` is as it was, and another call is
still in progress. -/
structure Fronts (s : Session) (first caller : Nat) (call : Call) (t : Session) (now : Call) :
    Prop where
  disposed : t.phase = .disposed
  line : t.lifecycle = s.lifecycle
  stands : now.isInLine = true
  through : now.isThrough = true
  waits : caller ≠ first → (caller, call) ∈ t.calls

/-- The first in line has come to its end, and another call is still in progress. -/
structure Fronted (s : Session) (first caller : Nat) (call : Call) (t : Session) : Prop where
  replied : ∃ reply, (first, reply) ∈ t.replies
  line : t.lifecycle = without s.lifecycle first
  waits : caller ≠ first → (caller, call) ∈ t.calls

/-- A step of the first in line. -/
theorem Fronts.step {first : Nat} {u : Session} {now : Call} (fronts : s.Fronts first caller call u now)
    (head : s.lifecycle.head? = some first) (here : (first, now) ∈ u.calls) :
    ∃ t, u.advanceCall first now = some t ∧ (s.Fronted first caller call t ∨
      ∃ later, (first, later) ∈ t.calls ∧ s.Fronts first caller call t later ∧
        later.distance < now.distance) := by
  rcases first_advance fronts.disposed fronts.stands fronts.through (fronts.line ▸ head) with
    ⟨reply, moved⟩ | ⟨later, moved, still, through, nearer⟩
  · refine ⟨_, moved, .inl ⟨⟨reply, ?_⟩, ?_, fun apart => ?_⟩⟩
    · exact List.mem_append_right _ (List.mem_singleton_self _)
    · show without u.lifecycle first = _
      rw [fronts.line]
    · exact List.mem_filter.mpr ⟨fronts.waits apart, decide_eq_true apart⟩
  · exact ⟨_, moved, .inr ⟨later, mem_proceed_self here, ⟨fronts.disposed, fronts.line, still,
      through, fun apart => mem_proceed_of_ne (fronts.waits apart) apart⟩, nearer⟩⟩

/-- The first in line comes to its end, while another one waits. -/
theorem exists_course_first (orderly : s.Orderly) (gone : s.Gone) {first : Nat} {now : Call}
    (head : s.lifecycle.head? = some first) (here : (first, now) ∈ s.calls)
    (stands : now.isInLine = true) (mine : (caller, call) ∈ s.calls) (j : Journal) :
    ∃ k t, Course (.only []) s j k t ∧ s.Fronted first caller call t :=
  have goes (u : Session) (now : Call) (_ : u.Orderly) (here : (first, now) ∈ u.calls)
      (fronts : s.Fronts first caller call u now) := fronts.step head here
  exists_course_done goes s j now orderly here
    ⟨gone.disposed, rfl, stands, gone.through _ here, fun _ => mine⟩

/-- **Whoever stands in line in a session that is gone can return.** -/
theorem exists_course_inLine (stands : call.isInLine = true) : ∀ (length : Nat) (s : Session)
    (j : Journal), s.lifecycle.length < length → s.Orderly → s.Gone → s.Lined →
      (caller, call) ∈ s.calls →
        ∃ k t, Course (.only []) s j k t ∧ ∃ reply, (caller, reply) ∈ t.replies := by
  intro length
  induction length with
  | zero => exact fun _ _ other => absurd other (Nat.not_lt_zero _)
  | succ length ih =>
    intro s j short orderly gone lined mine
    have waits := lined.placed _ mine stands
    obtain ⟨first, rest, line⟩ := List.exists_cons_of_ne_nil (List.ne_nil_of_mem waits)
    have head : s.lifecycle.head? = some first := by
      rw [line]
      rfl
    have inFront : first ∈ s.lifecycle := List.mem_of_head? head
    obtain ⟨now, here, inLine⟩ := lined.waiting first inFront
    obtain ⟨k, t, course, replied, behind, still⟩ :=
      exists_course_first orderly gone head here inLine mine j
    by_cases same : caller = first
    · exact ⟨k, t, course, same ▸ replied⟩
    · have shorter : t.lifecycle.length < length := by
        rw [behind]
        exact Nat.lt_of_lt_of_le (length_without inFront) (Nat.le_of_lt_succ short)
      have kept := course.invariant (fun t _ => t.Orderly ∧ t.Lined)
        (fun _ kept _ moved => ⟨orderly_after kept.1 moved, lined_after kept.2 kept.1 moved⟩)
        ⟨orderly, lined⟩
      obtain ⟨l, u, further, returned⟩ :=
        ih t k shorter kept.1 (course.still_gone gone) kept.2 (still same)
      exact ⟨l, u, course.trans further, returned⟩

end Session

/-! ### Calls in vain -/

/-- The answer of a session that has been disposed. -/
def Order.lateAnswer : Order → Except SessionFailure Reply
  | abort => .ok .done
  | dispose => .ok .done
  | _ => .error .disposed

/-- A call to a session that has been disposed: it has not looked at it, or it has been told. -/
def Call.Vain : Call → Prop
  | start .entering => True
  | start (.inside .checking) => True
  | start (.inside (.finished result)) => result = .error .disposed
  | submit _ .checking => True
  | submit _ (.finished result) => result = .error .disposed
  | nested _ _ .binding => True
  | nested _ _ (.finished result) => result = .error .disposed
  | pause => True
  | resume _ .binding => True
  | resume _ (.finished result) => result = .error .disposed
  | abort .entering => True
  | abort (.inside .checking) => True
  | abort (.inside (.finished result)) => result = .ok ()
  | dispose .entering => True
  | dispose (.inside .checking) => True
  | dispose (.inside .finished) => True
  | _ => False

theorem Order.vain_call (order : Order) : order.call.Vain := by
  cases order <;> trivial

namespace Session

variable {s t : Session} {caller : Nat} {call : Call}

/-- A step of a call in vain: it changes nothing but the bookkeeping of calls, and the call goes on in
vain or returns with the late answer. -/
inductive Vanishes (s : Session) (caller : Nat) (call : Call) : Session → Prop
  | goes (u : Session) (later : Call) (books : s.Books u) (calls : u.calls = s.calls)
      (replies : u.replies = s.replies) (vain : later.Vain) (order : later.order = call.order)
      (nearer : later.distance < call.distance) : Vanishes s caller call (u.proceed caller later)
  | returns : Vanishes s caller call (s.giveBack caller call.order.lateAnswer)

/-- A session that has been disposed speaks no dialect. -/
theorem boundDialect_of_disposed (disposed : s.phase = .disposed) :
    s.boundDialect = .error .disposed := by
  have late : s.currentDialect = .error .disposed := by
    unfold currentDialect
    split
    · exact if_pos disposed
    · rw [disposed]
      rfl
  unfold boundDialect
  rw [late]

/-- A stage of a call in vain takes a look at the session, and does nothing else. -/
theorem vain_stage {u : Session} {later : Call} (vain : call.Vain) (disposed : s.phase = .disposed)
    (unbound : s.bound = false) (goes : call.Goes caller s u later) :
    u = s ∧ later.Vain ∧ later.distance < call.distance := by
  have undecided := boundDialect_of_disposed disposed
  cases goes with
  | start stage next u held stepped =>
    cases Starting.goes_of_step stepped with
    | first phase => cases disposed.symm.trans phase
    | late phase => exact ⟨rfl, rfl, Nat.one_pos⟩
    | again started alive => exact absurd disposed alive
    | _ => exact vain.elim
  | submit payload stage next u stepped =>
    cases Submitting.goes_of_step stepped with
    | letIn accepts =>
      rw [disposed] at accepts
      cases accepts
    | bar refuses =>
      rw [disposed]
      exact ⟨rfl, rfl, Nat.two_pos⟩
    | _ => exact vain.elim
  | nested pipeline shape stage next u stepped =>
    cases Nesting.goes_of_step stepped with
    | bind dialect decided => cases undecided.symm.trans decided
    | unbound error refused =>
      cases undecided.symm.trans refused
      exact ⟨rfl, rfl, Nat.one_pos⟩
    | _ => exact vain.elim
  | resume verb stage next u stepped =>
    cases Resuming.goes_of_step stepped with
    | bound bound => cases unbound.symm.trans bound
    | unbound => exact ⟨rfl, rfl, Nat.one_pos⟩
    | _ => exact vain.elim
  | abort stage next u held stepped =>
    cases Aborting.goes_of_step stepped with
    | late ended => exact ⟨rfl, rfl, Nat.one_pos⟩
    | early phase => cases disposed.symm.trans phase
    | paused alive | active alive =>
      rcases alive with phase | phase <;> cases disposed.symm.trans phase
    | _ => exact vain.elim
  | dispose stage next u held stepped =>
    cases Disposing.goes_of_step stepped with
    | already => exact ⟨rfl, trivial, Nat.one_pos⟩
    | busy alive | free alive => exact absurd disposed alive
    | _ => exact vain.elim

/-- **A call in vain stays in vain.** -/
theorem vanishes (vain : call.Vain) (disposed : s.phase = .disposed) (unbound : s.bound = false)
    (moved : s.advanceCall caller call = some t) : s.Vanishes caller call t := by
  cases takes_of_advanceCall moved with
  | line later lines =>
    cases lines <;> exact .goes _ _ rfl rfl rfl trivial rfl (Nat.lt_succ_self 1)
  | stage u later goes =>
    obtain ⟨rfl, still, nearer⟩ := vain_stage vain disposed unbound goes
    exact .goes u later rfl rfl rfl still goes.order nearer
  | reply result returns =>
    have late : result = call.order.lateAnswer := by
      cases returns with
      | dispose => rfl
      | abort result =>
        obtain rfl : result = .ok () := vain
        rfl
      | start result | submit payload result | nested pipeline shape result | resume verb result =>
        obtain rfl : result = .error .disposed := vain
        rfl
    rw [late]
    exact .returns
  | pause asked =>
    subst asked
    have turned : s.pauseEngine = (s, .error .disposed) := by
      unfold pauseEngine
      rw [boundDialect_of_disposed disposed]
    rw [turned]
    exact .returns

/-- A call in vain that is not about to wait for the lifecycle lock can take a step. -/
theorem exists_advance (vain : call.Vain) (free : call.isInLine = false) :
    ∃ t, s.advanceCall caller call = some t := by
  cases call with
  | start stage =>
    cases stage with
    | entering => exact ⟨_, rfl⟩
    | inside stage => cases free
  | submit payload stage => cases stage <;> exact ⟨_, rfl⟩
  | nested pipeline shape stage =>
    cases stage with
    | binding =>
      show ∃ t, proceedTo caller (Call.nested pipeline shape)
        (Nesting.step caller pipeline shape s .binding) = some t
      rw [Nesting.step]
      split <;> exact ⟨_, rfl⟩
    | finished result => exact ⟨_, rfl⟩
    | _ => exact vain.elim
  | pause => exact ⟨_, rfl⟩
  | resume verb stage =>
    cases stage with
    | binding => exact ⟨_, rfl⟩
    | finished result => exact ⟨_, rfl⟩
    | _ => exact vain.elim
  | abort stage =>
    cases stage with
    | entering => exact ⟨_, rfl⟩
    | inside stage => cases free
  | dispose stage =>
    cases stage with
    | entering => exact ⟨_, rfl⟩
    | inside stage => cases free

/-- A call in vain that need not wait for the lifecycle lock. -/
structure Straying (s : Session) (call : Call) : Prop where
  gone : s.Gone
  lined : s.Lined
  vain : call.Vain
  free : call.isInLine = false

/-- A call that has returned, or stands in line in a session that is gone. -/
def Arrived (caller : Nat) (s : Session) : Prop :=
  (∃ reply, (caller, reply) ∈ s.replies) ∨
    s.Orderly ∧ s.Gone ∧ s.Lined ∧ ∃ call, (caller, call) ∈ s.calls ∧ call.isInLine = true

/-- A step of a call that need not wait: it returns, or is in line, or goes on. -/
theorem Straying.step (straying : s.Straying call) (orderly : s.Orderly)
    (mine : (caller, call) ∈ s.calls) :
    ∃ t, s.advanceCall caller call = some t ∧ (Arrived caller t ∨
      ∃ later, (caller, later) ∈ t.calls ∧ t.Straying later ∧ later.distance < call.distance) := by
  obtain ⟨t, moved⟩ : ∃ t, s.advanceCall caller call = some t :=
    exists_advance straying.vain straying.free
  have taken := orderly.act mine moved
  have kept := orderly_after orderly taken
  have gone := straying.gone.after taken
  have lined := lined_after straying.lined orderly taken
  refine ⟨t, moved, ?_⟩
  cases vanishes straying.vain straying.gone.disposed straying.gone.unbound moved with
  | goes u later books calls replies vain order nearer =>
    have here : (caller, later) ∈ (u.proceed caller later).calls := mem_proceed_self (calls ▸ mine)
    cases stands : later.isInLine with
    | true => exact .inl (.inr ⟨kept, gone, lined, later, here, stands⟩)
    | false => exact .inr ⟨later, here, ⟨gone, lined, vain, stands⟩, nearer⟩
  | returns => exact .inl (.inl ⟨_, List.mem_append_right _ (List.mem_singleton_self _)⟩)

/-- **Every call in vain can return**, whoever stands before it in line for the lifecycle lock. -/
theorem exists_course_vain (j : Journal) (orderly : s.Orderly) (gone : s.Gone) (lined : s.Lined)
    (mine : (caller, call) ∈ s.calls) (vain : call.Vain) :
    ∃ k t, Course (.only []) s j k t ∧ ∃ reply, (caller, reply) ∈ t.replies := by
  cases stands : call.isInLine with
  | true => exact exists_course_inLine stands _ s j (Nat.lt_succ_self _) orderly gone lined mine
  | false =>
    have goes (u : Session) (call : Call) (orderly : u.Orderly) (mine : (caller, call) ∈ u.calls)
        (straying : u.Straying call) := straying.step orderly mine
    obtain ⟨k, t, course, returned | ⟨orderly, gone, lined, later, mine, stands⟩⟩ :=
      exists_course_done goes s j call orderly mine ⟨gone, lined, vain, stands⟩
    · exact ⟨k, t, course, returned⟩
    · obtain ⟨l, u, further, returned⟩ :=
        exists_course_inLine stands _ t k (Nat.lt_succ_self _) orderly gone lined mine
      exact ⟨l, u, course.trans further, returned⟩

end Session

/-! ### Orders behind a dispose -/

namespace Session

variable {s t : Session} {caller : Nat} {call : Call}

/-- A step of a call in vain leaves the engine and the desk alone. -/
theorem Vanishes.books (vanishes : s.Vanishes caller call t) : s.Books t := by
  cases vanishes with
  | goes u later books =>
    show u.proceed caller later = _
    rw [books]
    rfl
  | returns => rfl

/-- What a step of a call in vain leaves behind: the call still in vain, or its late answer. -/
theorem Vanishes.behind (vanishes : s.Vanishes caller call t) :
    (∀ later, (caller, later) ∈ t.calls → later.Vain ∧ later.order = call.order) ∧
      ∀ reply, (caller, reply) ∈ t.replies →
        (caller, reply) ∈ s.replies ∨ reply = call.order.lateAnswer := by
  cases vanishes with
  | goes u later books calls replies vain order nearer =>
    refine ⟨fun following member => ?_, fun reply replied => .inl (replies ▸ replied)⟩
    rw [eq_of_mem_proceed member]
    exact ⟨vain, order⟩
  | returns =>
    refine ⟨fun following member => absurd member (not_mem_giveBack _), fun reply replied => ?_⟩
    rcases List.mem_append.mp replied with before | now
    · exact .inl before
    · exact .inr (Prod.mk.inj (List.mem_singleton.mp now)).2

/-- A session that is gone and has been asked for something: the call is in vain, or has got its late
answer. -/
structure Dismisses (s : Session) (caller : Nat) (order : Order) : Prop where
  orderly : s.Orderly
  gone : s.Gone
  lined : s.Lined
  follows : s.Follows caller (fun call => call.Vain ∧ call.order = order)
    (fun reply => reply = order.lateAnswer)

theorem dismisses_begin (orderly : s.Orderly) (gone : s.Gone) (lined : s.Lined) (order : Order) :
    (s.begin order.call).2.Dismisses (s.begin order.call).1 order :=
  have begun : s.after (.order order) = some (s.begin order.call).2 := rfl
  ⟨orderly_after orderly begun, gone.after begun, lined_after lined orderly begun,
    follows_begin orderly order ⟨order.vain_call, order.order_call⟩⟩

/-- Every move keeps it so. -/
theorem Dismisses.after {order : Order} {move : Move} (dismisses : s.Dismisses caller order)
    (moved : s.after move = some t) : t.Dismisses caller order where
  orderly := orderly_after dismisses.orderly moved
  gone := dismisses.gone.after moved
  lined := lined_after dismisses.lined dismisses.orderly moved
  follows := by
    refine dismisses.follows.after moved (expire_none dismisses.gone.through caller) ?_
    rintro call u _ ⟨vain, rfl⟩ taken
    exact (vanishes vain dismisses.gone.disposed dismisses.gone.unbound taken).behind

end Session

namespace Course

variable {env : Environment} {t u : Session} {j k : Journal}

/-- **Whatever is asked of a session that is gone is asked in vain**: the call returns nothing but the
late answer, its steps change nothing but the bookkeeping of calls, and it can always return. -/
theorem in_vain (orderly : t.Orderly) (gone : t.Gone) (lined : t.Lined) (order : Order)
    (course : Course env (t.begin order.call).2 j k u) :
    (∀ reply, u.reply? (t.begin order.call).1 = some reply → reply = order.lateAnswer) ∧
    (∀ v, u.after (.act (.call (t.begin order.call).1)) = some v → u.Books v) ∧
    ∃ l v, Course (.only []) u k l v ∧
      v.reply? (t.begin order.call).1 = some order.lateAnswer := by
  have dismissed := course.invariant (fun u _ => u.Dismisses (t.begin order.call).1 order)
    (fun _ dismisses _ moved => dismisses.after moved)
    (Session.dismisses_begin orderly gone lined order)
  refine ⟨fun reply replied => dismissed.follows.reply replied, fun v moved => ?_, ?_⟩
  · obtain ⟨call, found, taken⟩ := Option.bind_eq_some_iff.mp moved
    have vain := (dismissed.follows.going call (Session.mem_of_lookup found)).1
    exact (Session.vanishes vain dismissed.gone.disposed dismissed.gone.unbound taken).books
  · have returned : ∃ l v, Course (.only []) u k l v ∧
        ∃ reply, ((t.begin order.call).1, reply) ∈ v.replies := by
      rcases dismissed.follows.present with ⟨call, mine⟩ | replied
      · exact Session.exists_course_vain k dismissed.orderly dismissed.gone dismissed.lined mine
          (dismissed.follows.going call mine).1
      · exact ⟨k, u, .rest, replied⟩
    obtain ⟨l, v, further, reply, replied⟩ := returned
    have later := further.invariant (fun u _ => u.Dismisses (t.begin order.call).1 order)
      (fun _ dismisses _ moved => dismisses.after moved) dismissed
    obtain ⟨found, same⟩ := Option.isSome_iff_exists.mp (Session.replied_of_mem replied)
    refine ⟨l, v, further, ?_⟩
    rw [same, later.follows.reply same]

end Course

end ShellSession
