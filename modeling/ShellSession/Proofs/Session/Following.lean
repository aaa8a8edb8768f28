/-
**Following one call.**

What a caller can rely on is said of one call: at which stages it is found, and what it returns,
whatever everybody else does meanwhile. Two questions come up again and again. What the call returns,
if it returns: its own steps decide, for nobody else takes them. And whether it can return: it can, if
there is always somebody to take the next step and the steps come to an end.

* `Session.Follows`: what has become of a call so far;
* `Session.Follows.onward`: **only its own steps take a call further**;
* `Session.exists_course_done`: a call that can always take a step, and comes nearer to its end with
  each of them, gets there;
* `Session.Lined`: who stands in line for the lifecycle lock.
-/

import ShellSession.Proofs.Session.Life
import ShellSession.Proofs.Session.Departure

namespace ShellSession

namespace Session

variable {s t : Session} {caller : Nat} {move : Move}

/-! ### Calls by their numbers -/

/-- A call in progress is found under its number. -/
theorem Orderly.lookup (orderly : s.Orderly) {call : Call} (mine : (caller, call) ∈ s.calls) :
    s.calls.lookup caller = some call := by
  have present : (s.calls.lookup caller).isSome = true :=
    List.lookup_isSome_iff.mpr ⟨_, mine, beq_self_eq_true caller⟩
  obtain ⟨other, found⟩ := Option.isSome_iff_exists.mp present
  have same := orderly.eq_of_number (mem_of_lookup found) mine rfl
  rw [found, (Prod.mk.inj same).2]

/-- A call in progress takes the step that its stage takes. -/
theorem Orderly.act (orderly : s.Orderly) {call : Call} (mine : (caller, call) ∈ s.calls)
    (moved : s.advanceCall caller call = some t) : s.after (.act (.call caller)) = some t := by
  show (s.calls.lookup caller).bind (s.advanceCall caller) = some t
  rw [orderly.lookup mine]
  exact moved

/-- The step that a call in progress takes is that of its stage. -/
theorem Orderly.taken (orderly : s.Orderly) {call : Call} (mine : (caller, call) ∈ s.calls)
    (moved : s.after (.act (.call caller)) = some t) : s.advanceCall caller call = some t := by
  have stepped : (s.calls.lookup caller).bind (s.advanceCall caller) = some t := moved
  rw [orderly.lookup mine] at stepped
  exact stepped

/-- A call that has returned is found to have returned. -/
theorem replied_of_mem {reply : Except SessionFailure Reply} (replied : (caller, reply) ∈ s.replies) :
    (s.reply? caller).isSome = true :=
  List.lookup_isSome_iff.mpr ⟨_, replied, beq_self_eq_true caller⟩

/-- A call that returns is found to have returned with its reply. -/
theorem Orderly.reply?_giveBack (orderly : s.Orderly) {call : Call}
    (mine : (caller, call) ∈ s.calls) (reply : Except SessionFailure Reply) :
    (s.giveBack caller reply).reply? caller = some reply := by
  have none : s.replies.lookup caller = none := List.lookup_eq_none_iff.mpr fun other given => by
    have apart := (orderly.returned other given).2 _ mine
    simpa using apart
  show (s.replies ++ [(caller, reply)]).lookup caller = some reply
  rw [List.lookup_append, none, List.lookup_cons_self]
  rfl

/-! ### What becomes of a call -/

/-- What has become so far of the call with a number: it is in progress, at a stage of some kind, or
it has returned, with an answer of some kind. -/
structure Follows (s : Session) (caller : Nat) (stages : Call → Prop)
    (answers : Except SessionFailure Reply → Prop) : Prop where
  begun : caller ≤ s.lastCall
  going : ∀ call, (caller, call) ∈ s.calls → stages call
  answered : ∀ reply, (caller, reply) ∈ s.replies → answers reply
  present : (∃ call, (caller, call) ∈ s.calls) ∨ ∃ reply, (caller, reply) ∈ s.replies

variable {stages : Call → Prop} {answers : Except SessionFailure Reply → Prop}

/-- A call that begins. -/
theorem follows_begin (orderly : s.Orderly) (order : Order) (first : stages order.call) :
    (s.begin order.call).2.Follows (s.begin order.call).1 stages answers where
  begun := Nat.le_refl _
  going := fun call member => by
    rcases List.mem_append.mp member with before | now
    · exact absurd (orderly.numbered _ before) (Nat.not_succ_le_self s.lastCall)
    · cases List.mem_singleton.mp now
      exact first
  answered := fun reply replied =>
    absurd (orderly.returned _ replied).1 (Nat.not_succ_le_self s.lastCall)
  present := .inl ⟨order.call, List.mem_append_right _ (List.mem_singleton_self _)⟩

namespace Follows

/-- A move that does not concern calls. -/
theorem frame (follows : s.Follows caller stages answers) (calls : t.calls = s.calls)
    (replies : t.replies = s.replies) (lastCall : t.lastCall = s.lastCall) :
    t.Follows caller stages answers where
  begun := lastCall ▸ follows.begun
  going := calls ▸ follows.going
  answered := replies ▸ follows.answered
  present := by
    rw [calls, replies]
    exact follows.present

/-- A step of another call. -/
theorem others (follows : s.Follows caller stages answers) {other : Nat} {call : Call}
    {next : Option Call} (apart : caller ≠ other) (advances : s.Advances other call next t) :
    t.Follows caller stages answers where
  begun := advances.lastCall ▸ follows.begun
  going := fun mine member => by
    rw [advances.calls] at member
    rcases mem_callsBehind member with ⟨_, before⟩ | ⟨later, _, same⟩
    · exact follows.going mine before
    · exact absurd (Prod.mk.inj same).1 apart
  answered := fun reply replied => by
    rcases advances.replies with ⟨_, _, same⟩ | ⟨latest, _, same⟩
    · exact follows.answered reply (same ▸ replied)
    · rw [same] at replied
      rcases List.mem_append.mp replied with before | now
      · exact follows.answered reply before
      · exact absurd (Prod.mk.inj (List.mem_singleton.mp now)).1 apart
  present := by
    rcases follows.present with ⟨mine, member⟩ | ⟨reply, replied⟩
    · refine .inl ⟨mine, ?_⟩
      rw [advances.calls]
      exact mem_callsBehind_of_ne member apart
    · refine .inr ⟨reply, ?_⟩
      rcases advances.replies with ⟨_, _, same⟩ | ⟨latest, _, same⟩
      · exact same ▸ replied
      · rw [same]
        exact List.mem_append_left _ replied

/-- What is said of a call may be less. -/
theorem weaken {wider : Call → Prop} {more : Except SessionFailure Reply → Prop}
    (follows : s.Follows caller stages answers)
    (further : ∀ call, (caller, call) ∈ s.calls → stages call → wider call)
    (also : ∀ reply, answers reply → more reply) : s.Follows caller wider more where
  begun := follows.begun
  going := fun call mine => further call mine (follows.going call mine)
  answered := fun reply replied => also reply (follows.answered reply replied)
  present := follows.present

/-- A step of the call itself. -/
theorem mine {others : Call → Prop} (follows : s.Follows caller stages answers) {call : Call}
    {next : Option Call} (member : (caller, call) ∈ s.calls)
    (advances : s.Advances caller call next t)
    (going : ∀ later, (caller, later) ∈ t.calls → others later)
    (answered : ∀ reply, (caller, reply) ∈ t.replies → (caller, reply) ∈ s.replies ∨ answers reply) :
    t.Follows caller others answers where
  begun := advances.lastCall ▸ follows.begun
  going := going
  answered := fun reply replied => (answered reply replied).elim (follows.answered reply) id
  present := by
    cases next with
    | some later =>
      refine .inl ⟨later, ?_⟩
      rw [advances.calls]
      exact mem_callsBehind_self member
    | none =>
      rcases advances.replies with ⟨_, other, _⟩ | ⟨latest, _, same⟩
      · cases other
      · refine .inr ⟨latest, ?_⟩
        rw [same]
        exact List.mem_append_right _ (List.mem_singleton_self _)

/-- The moves of others do not take a call further. -/
theorem elsewhere (follows : s.Follows caller stages answers) (moved : s.after move = some t)
    (apart : move ≠ .act (.call caller)) (timely : move ≠ .act (.timeout caller)) :
    t.Follows caller stages answers := by
  cases moves_of_after moved with
  | call other moved =>
    obtain ⟨call, next, found, advances⟩ := advance_advances moved
    exact follows.others (fun same => apart (same ▸ rfl)) advances
  | timeout other _ _ =>
    have apart : caller ≠ other := fun same => timely (same ▸ rfl)
    refine ⟨follows.begun, fun mine still => ?_, follows.answered, ?_⟩
    · rcases mem_proceed still with ⟨_, before⟩ | same
      · exact follows.going mine before
      · exact absurd (Prod.mk.inj same).1 apart
    · exact follows.present.imp_left fun ⟨mine, before⟩ =>
        ⟨mine, mem_proceed_of_ne before apart⟩
  | order order =>
    refine ⟨Nat.le_succ_of_le follows.begun, fun mine member => ?_, follows.answered, ?_⟩
    · rcases List.mem_append.mp member with before | now
      · exact follows.going mine before
      · have number := (Prod.mk.inj (List.mem_singleton.mp now)).1
        rw [number] at follows
        exact absurd follows.begun (Nat.not_succ_le_self s.lastCall)
    · exact follows.present.imp_left fun ⟨mine, before⟩ => ⟨mine, List.mem_append_left _ before⟩
  | driver _ same | listener _ same | aside _ same =>
    exact follows.frame (by rw [same]) (by rw [same]) (by rw [same])

/-- Nor does the passing of time, as long as the call does not wait for it. -/
theorem aside (follows : s.Follows caller stages answers) (moved : s.after move = some t)
    (patient : ∀ u, s.expire caller ≠ some u) (apart : move ≠ .act (.call caller)) :
    t.Follows caller stages answers := by
  refine follows.elsewhere moved apart ?_
  rintro rfl
  exact patient t moved

/-- **Only its own steps take a call further**, as long as it does not wait for time to pass. What is
said of its stages may change with the session. -/
theorem onward {others : Call → Prop} (follows : s.Follows caller stages answers)
    (moved : s.after move = some t) (patient : ∀ u, s.expire caller ≠ some u)
    (idle : ∀ call, move ≠ .act (.call caller) → (caller, call) ∈ s.calls → stages call → others call)
    (own : ∀ call, move = .act (.call caller) → (caller, call) ∈ s.calls → stages call →
      s.advanceCall caller call = some t → (∀ later, (caller, later) ∈ t.calls → others later) ∧
        ∀ reply, (caller, reply) ∈ t.replies → (caller, reply) ∈ s.replies ∨ answers reply) :
    t.Follows caller others answers := by
  by_cases mine : move = .act (.call caller)
  · subst mine
    obtain ⟨call, next, found, advances⟩ := advance_advances moved
    have member := mem_of_lookup found
    have taken : s.advanceCall caller call = some t := by
      have stepped : (s.calls.lookup caller).bind (s.advanceCall caller) = some t := moved
      rw [found] at stepped
      exact stepped
    obtain ⟨going, answered⟩ := own call rfl member (follows.going call member) taken
    exact follows.mine member advances going answered
  · exact (follows.weaken (fun call => idle call mine) fun _ => id).aside moved patient mine

/-- A kind of stages that its own steps keep is kept by every move. -/
theorem after (follows : s.Follows caller stages answers)
    (moved : s.after move = some t) (patient : ∀ u, s.expire caller ≠ some u)
    (own : ∀ call u, (caller, call) ∈ s.calls → stages call → s.advanceCall caller call = some u →
      (∀ later, (caller, later) ∈ u.calls → stages later) ∧
        ∀ reply, (caller, reply) ∈ u.replies → (caller, reply) ∈ s.replies ∨ answers reply) :
    t.Follows caller stages answers :=
  follows.onward moved patient (fun _ _ _ => id) fun call _ mine suits => own call t mine suits

/-- What a call has returned is an answer of the kind. -/
theorem reply (follows : s.Follows caller stages answers) {reply : Except SessionFailure Reply}
    (replied : s.reply? caller = some reply) : answers reply :=
  follows.answered reply (mem_of_lookup replied)

end Follows

/-! ### Getting there -/

/-- A step of a call is a course of the session left to itself. -/
theorem Orderly.course (orderly : s.Orderly) {call : Call} (mine : (caller, call) ∈ s.calls)
    (moved : s.advanceCall caller call = some t) (j : Journal) :
    Course (.only []) s j (j.note s (.act (.call caller)) t) t :=
  Course.rest.move (.act (.call caller)) (.inl ⟨_, rfl⟩) (orderly.act mine moved)

/-- **A call that can always take a step, and comes nearer to its end with each of them, gets
there.** -/
theorem exists_course_done {good : Session → Call → Prop} {done : Session → Prop} {rank : Call → Nat}
    (goes : ∀ (s : Session) (call : Call), s.Orderly → (caller, call) ∈ s.calls → good s call →
      ∃ t, s.advanceCall caller call = some t ∧ (done t ∨
        ∃ later, (caller, later) ∈ t.calls ∧ good t later ∧ rank later < rank call)) :
    ∀ (s : Session) (j : Journal) (call : Call), s.Orderly → (caller, call) ∈ s.calls → good s call →
      ∃ k t, Course (.only []) s j k t ∧ done t := by
  suffices bounded : ∀ (bound : Nat) (s : Session) (j : Journal) (call : Call), rank call < bound →
      s.Orderly → (caller, call) ∈ s.calls → good s call →
        ∃ k t, Course (.only []) s j k t ∧ done t from
    fun s j call => bounded (rank call + 1) s j call (Nat.lt_succ_self _)
  intro bound
  induction bound with
  | zero => exact fun _ _ _ other => absurd other (Nat.not_lt_zero _)
  | succ bound ih =>
    intro s j call below orderly mine fits
    obtain ⟨t, moved, there | ⟨later, still, further, nearer⟩⟩ := goes s call orderly mine fits
    · exact ⟨_, t, orderly.course mine moved j, there⟩
    · have kept := orderly_after orderly (orderly.act mine moved)
      obtain ⟨k, u, course, there⟩ :=
        ih t _ later (Nat.lt_of_lt_of_le nearer (Nat.le_of_lt_succ below)) kept still further
      exact ⟨k, u, (orderly.course mine moved j).trans course, there⟩

/-! ### The line for the lifecycle lock -/

end Session

/-- A call that stands in line for the lifecycle lock. -/
def Call.isInLine : Call → Bool
  | start (.inside _) => true
  | abort (.inside _) => true
  | dispose (.inside _) => true
  | _ => false

namespace Session

variable {s t u : Session} {caller : Nat} {call later : Call}

/-- In line for the lifecycle lock are the calls that say so, and nobody else. -/
structure Lined (s : Session) : Prop where
  waiting : ∀ number ∈ s.lifecycle, ∃ call, (number, call) ∈ s.calls ∧ call.isInLine = true
  placed : ∀ entry ∈ s.calls, entry.2.isInLine = true → entry.1 ∈ s.lifecycle

namespace Lined

/-- A move that concerns neither calls nor the line. -/
theorem frame (lined : s.Lined) (calls : t.calls = s.calls) (lifecycle : t.lifecycle = s.lifecycle) :
    t.Lined := by
  constructor
  · rw [calls, lifecycle]
    exact lined.waiting
  · rw [calls, lifecycle]
    exact lined.placed

/-- A call that goes on, in line as before or not. -/
theorem proceed (lined : s.Lined) (orderly : s.Orderly) (mine : (caller, call) ∈ s.calls)
    (calls : u.calls = s.calls) (lifecycle : u.lifecycle = s.lifecycle)
    (same : later.isInLine = call.isInLine) : (u.proceed caller later).Lined := by
  have behind : (u.proceed caller later).calls = s.callsBehind caller (some later) := by
    show u.calls.map _ = s.calls.map _
    rw [calls]
  have line : (u.proceed caller later).lifecycle = s.lifecycle := lifecycle
  constructor
  · rw [behind, line]
    intro number waits
    obtain ⟨other, member, inLine⟩ := lined.waiting number waits
    by_cases here : number = caller
    · subst here
      have found := orderly.eq_of_number member mine rfl
      rw [(Prod.mk.inj found).2, ← same] at inLine
      exact ⟨later, mem_callsBehind_self mine, inLine⟩
    · exact ⟨other, mem_callsBehind_of_ne member here, inLine⟩
  · rw [behind, line]
    intro entry member inLine
    rcases mem_callsBehind member with ⟨_, before⟩ | ⟨following, found, rfl⟩
    · exact lined.placed entry before inLine
    · cases found
      rw [same] at inLine
      exact lined.placed (caller, call) mine inLine

/-- A stage of a call that is in line as before or not. -/
theorem affected (lined : s.Lined) (orderly : s.Orderly) (mine : (caller, call) ∈ s.calls)
    {order : Order} {before after : Bool} (affects : s.Affects order before u after)
    (same : later.isInLine = call.isInLine) : (u.proceed caller later).Lined := by
  obtain ⟨v, effect, books⟩ := affects
  obtain ⟨lifecycle, _, _, calls, _⟩ := effect.same_books
  refine lined.proceed orderly mine ?_ ?_ same
  · rw [books]
    exact calls
  · rw [books]
    exact lifecycle

/-- A call that goes to the end of the line. -/
theorem enter (lined : s.Lined) (mine : (caller, call) ∈ s.calls) (inLine : later.isInLine = true) :
    ((s.enterLifecycle caller).proceed caller later).Lined := by
  have here : (caller, later) ∈ (s.proceed caller later).calls := mem_proceed_self mine
  constructor
  · intro number waits
    rcases List.mem_append.mp waits with before | now
    · obtain ⟨other, member, stands⟩ := lined.waiting number before
      by_cases same : number = caller
      · exact ⟨later, same ▸ here, inLine⟩
      · exact ⟨other, mem_proceed_of_ne member same, stands⟩
    · exact ⟨later, List.mem_singleton.mp now ▸ here, inLine⟩
  · intro entry member stands
    rcases mem_proceed member with ⟨_, before⟩ | rfl
    · exact List.mem_append_left _ (lined.placed entry before stands)
    · exact List.mem_append_right _ (List.mem_singleton_self _)

/-- A call that returns gives up its place. -/
theorem giveBack (lined : s.Lined) (reply : Except SessionFailure Reply) :
    (s.giveBack caller reply).Lined := by
  constructor
  · intro number waits
    obtain ⟨before, apart⟩ := List.mem_filter.mp waits
    obtain ⟨other, member, stands⟩ := lined.waiting number before
    exact ⟨other, List.mem_filter.mpr ⟨member, apart⟩, stands⟩
  · intro entry member stands
    obtain ⟨before, apart⟩ := List.mem_filter.mp member
    exact List.mem_filter.mpr ⟨lined.placed entry before stands, apart⟩

/-- A step of a call. -/
theorem advance (lined : s.Lined) (orderly : s.Orderly) (mine : (caller, call) ∈ s.calls)
    (moved : s.advanceCall caller call = some t) : t.Lined := by
  cases takes_of_advanceCall moved with
  | line later lines => cases lines <;> exact lined.enter mine rfl
  | stage u later goes => exact lined.affected orderly mine goes.affects (by cases goes <;> rfl)
  | reply result returns => exact lined.giveBack result
  | pause asked =>
    obtain ⟨lifecycle, _, _, calls, _⟩ := s.pauseEngine_effect.same_books
    exact (lined.frame calls lifecycle).giveBack _

end Lined

/-- **Every move keeps the line.** -/
theorem lined_after {move : Move} (lined : s.Lined) (orderly : s.Orderly)
    (moved : s.after move = some t) : t.Lined := by
  cases moves_of_after moved with
  | call caller moved =>
    obtain ⟨call, found, taken⟩ := Option.bind_eq_some_iff.mp moved
    exact lined.advance orderly (mem_of_lookup found) taken
  | timeout caller mine expires =>
    exact lined.proceed orderly mine rfl rfl (by cases expires <;> rfl)
  | order order =>
    refine ⟨fun number waits => ?_, fun entry member inLine => ?_⟩
    · obtain ⟨call, before, stands⟩ := lined.waiting number waits
      exact ⟨call, List.mem_append_left _ before, stands⟩
    · rcases List.mem_append.mp member with before | now
      · exact lined.placed entry before inLine
      · obtain rfl := List.mem_singleton.mp now
        cases order <;> cases inLine
  | driver _ same | listener _ same | aside _ same =>
    exact lined.frame (by rw [same]) (by rw [same])

theorem lined_fresh (settings : Settings) (fallback : Release) (hosted : HostedEngine) :
    (fresh settings fallback hosted).Lined where
  waiting := fun _ other => by cases other
  placed := fun _ other => by cases other

end Session

end ShellSession
