/-
**Calls and the locks they hold.**

A call keeps its number from its beginning to its end, and no other call has it. A call that goes on
only as the holder of a lock is the first in line for it, so there is one such call at most: starts,
aborts and disposes take turns, and so do resumes and nested executions.

* `Session.mem_callsBehind`, `Session.mem_proceed`: the calls behind a step;
* `Session.advanceStart_cases` and the like: a step of a call is its place in line, a step of its
  stage, or its end;
* `Session.Orderly`: numbers are unique, and a call behind a lock is its holder;
* `Session.orderly_after`: **every move keeps calls in order**.
-/

import ShellSession.Proofs.Session.Handling

namespace ShellSession.Session

/-! ### Steps of calls, once more -/

variable {s t u : Session} {caller : Nat}

/-- The calls behind a step: those of others, and the next stage of the one that has taken it. -/
theorem mem_callsBehind {next : Option Call} {entry : Nat × Call}
    (member : entry ∈ s.callsBehind caller next) :
    entry.1 ≠ caller ∧ entry ∈ s.calls ∨ ∃ later, next = some later ∧ entry = (caller, later) := by
  cases next with
  | none =>
    obtain ⟨old, other⟩ := List.mem_filter.mp member
    exact .inl ⟨of_decide_eq_true other, old⟩
  | some call =>
    obtain ⟨before, old, same⟩ := List.mem_map.mp member
    by_cases mine : before.1 = caller
    · rw [if_pos mine] at same
      exact .inr ⟨call, rfl, same.symm⟩
    · rw [if_neg mine] at same
      rw [← same]
      exact .inl ⟨mine, old⟩

/-- The calls of others are still there behind a step. -/
theorem mem_callsBehind_of_ne {next : Option Call} {entry : Nat × Call}
    (member : entry ∈ s.calls) (apart : entry.1 ≠ caller) :
    entry ∈ s.callsBehind caller next := by
  cases next with
  | none => exact List.mem_filter.mpr ⟨member, decide_eq_true apart⟩
  | some later =>
    refine List.mem_map.mpr ⟨entry, member, ?_⟩
    rw [if_neg apart]

/-- The call that has taken a step is at its next stage behind it. -/
theorem mem_callsBehind_self {call later : Call} (mine : (caller, call) ∈ s.calls) :
    (caller, later) ∈ s.callsBehind caller (some later) :=
  List.mem_map.mpr ⟨(caller, call), mine, if_pos rfl⟩

/-- The calls behind a step of a call that goes on. -/
theorem mem_proceed {call : Call} {entry : Nat × Call}
    (member : entry ∈ (s.proceed caller call).calls) :
    entry.1 ≠ caller ∧ entry ∈ s.calls ∨ entry = (caller, call) := by
  have behind : entry ∈ s.callsBehind caller (some call) := member
  rcases mem_callsBehind behind with old | ⟨_, ⟨⟩, same⟩
  · exact .inl old
  · exact .inr same

theorem mem_proceed_of_ne {call : Call} {entry : Nat × Call} (member : entry ∈ s.calls)
    (apart : entry.1 ≠ caller) : entry ∈ (s.proceed caller call).calls := by
  show entry ∈ s.callsBehind caller (some call)
  exact mem_callsBehind_of_ne member apart

theorem mem_proceed_self {call later : Call} (mine : (caller, call) ∈ s.calls) :
    (caller, later) ∈ (s.proceed caller later).calls :=
  mem_callsBehind_self mine

/-- A call that goes on is at its next stage. -/
theorem eq_of_mem_proceed {call later : Call}
    (member : (caller, later) ∈ (s.proceed caller call).calls) : later = call := by
  rcases mem_proceed member with ⟨apart, _⟩ | same
  · exact absurd rfl apart
  · exact congrArg Prod.snd same

/-- A call that has returned is no longer in progress. -/
theorem not_mem_giveBack {call : Call} (reply : Except SessionFailure Reply) :
    (caller, call) ∉ (s.giveBack caller reply).calls := fun member =>
  of_decide_eq_true (List.mem_filter.mp member).2 rfl

/-- A step of a start: in line for the lock, a stage behind the lock, or back to the caller. -/
theorem advanceStart_cases {stage : Guarded Starting} (moved : s.advanceStart caller stage = some t) :
    stage = .entering ∧ t = (s.enterLifecycle caller).proceed caller (.start (.inside .checking)) ∨
    (∃ result, stage = .inside (.finished result) ∧
      t = s.giveBack caller (result.map Reply.release)) ∨
    ∃ inner u next, stage = .inside inner ∧ holds s.lifecycle caller = true ∧
      inner.step caller s = some (u, next) ∧ t = u.proceed caller (.start (.inside next)) := by
  cases takes_of_advanceStart moved with
  | line later lines =>
    cases lines
    exact .inl ⟨rfl, rfl⟩
  | stage u later goes =>
    cases goes with
    | start inner next u held stepped => exact .inr (.inr ⟨inner, u, next, rfl, held, stepped, rfl⟩)
  | reply reply returns =>
    cases returns with
    | start result => exact .inr (.inl ⟨result, rfl, rfl⟩)
  | pause asked => cases asked

/-- A step of a submission: a stage, or back to the caller. -/
theorem advanceSubmit_cases {payload : Payload} {stage : Submitting}
    (moved : s.advanceCall caller (.submit payload stage) = some t) :
    (∃ result, stage = .finished result ∧ t = s.giveBack caller (result.map Reply.accepted)) ∨
    ∃ u next, stage.step payload s = some (u, next) ∧
      t = u.proceed caller (.submit payload next) := by
  cases takes_of_advanceCall moved with
  | line later lines => cases lines
  | stage u later goes =>
    cases goes with
    | submit payload stage next u stepped => exact .inr ⟨u, next, stepped, rfl⟩
  | reply reply returns =>
    cases returns with
    | submit payload result => exact .inl ⟨result, rfl, rfl⟩
  | pause asked => cases asked

/-- A step of a resume: a stage, or back to the caller. -/
theorem advanceResume_cases {verb : Verb} {stage : Resuming}
    (moved : s.advanceCall caller (.resume verb stage) = some t) :
    (∃ result, stage = .finished result ∧ t = s.giveBack caller (result.map fun _ => .done)) ∨
    ∃ u next, stage.step caller verb s = some (u, next) ∧
      t = u.proceed caller (.resume verb next) := by
  cases takes_of_advanceCall moved with
  | line later lines => cases lines
  | stage u later goes =>
    cases goes with
    | resume verb stage next u stepped => exact .inr ⟨u, next, stepped, rfl⟩
  | reply reply returns =>
    cases returns with
    | resume verb result => exact .inl ⟨result, rfl, rfl⟩
  | pause asked => cases asked

/-- A step of a nested execution: a stage, or back to the caller. -/
theorem advanceNested_cases {pipeline : Pipeline} {shape : Shape} {stage : Nesting}
    (moved : s.advanceCall caller (.nested pipeline shape stage) = some t) :
    (∃ result, stage = .finished result ∧ t = s.giveBack caller (result.map Reply.answer)) ∨
    ∃ u next, stage.step caller pipeline shape s = some (u, next) ∧
      t = u.proceed caller (.nested pipeline shape next) := by
  cases takes_of_advanceCall moved with
  | line later lines => cases lines
  | stage u later goes =>
    cases goes with
    | nested pipeline shape stage next u stepped => exact .inr ⟨u, next, stepped, rfl⟩
  | reply reply returns =>
    cases returns with
    | nested pipeline shape result => exact .inl ⟨result, rfl, rfl⟩
  | pause asked => cases asked

/-- A step of an abort: in line for the lock, a stage behind the lock, or back to the caller. -/
theorem advanceAbort_cases {stage : Guarded Aborting} (moved : s.advanceAbort caller stage = some t) :
    stage = .entering ∧ t = (s.enterLifecycle caller).proceed caller (.abort (.inside .checking)) ∨
    (∃ result, stage = .inside (.finished result) ∧
      t = s.giveBack caller (result.map fun _ => .done)) ∨
    ∃ inner u next, stage = .inside inner ∧ holds s.lifecycle caller = true ∧
      inner.step caller s = some (u, next) ∧ t = u.proceed caller (.abort (.inside next)) := by
  cases takes_of_advanceAbort moved with
  | line later lines =>
    cases lines
    exact .inl ⟨rfl, rfl⟩
  | stage u later goes =>
    cases goes with
    | abort inner next u held stepped => exact .inr (.inr ⟨inner, u, next, rfl, held, stepped, rfl⟩)
  | reply reply returns =>
    cases returns with
    | abort result => exact .inr (.inl ⟨result, rfl, rfl⟩)
  | pause asked => cases asked

/-! ### Calls in order -/

/-- Calls are told apart by their numbers, one that has returned is no longer in progress, and a
call behind a lock is the first in line for it. -/
structure Orderly (s : Session) : Prop where
  numbers : (s.calls.map Prod.fst).Nodup
  numbered : ∀ entry ∈ s.calls, entry.1 ≤ s.lastCall
  returned : ∀ reply ∈ s.replies, reply.1 ≤ s.lastCall ∧ ∀ entry ∈ s.calls, entry.1 ≠ reply.1
  lifecycle : ∀ entry ∈ s.calls, entry.2.isLocked = true → s.lifecycle.head? = some entry.1
  gate : ∀ entry ∈ s.calls, entry.2.isGated = true → s.gate.head? = some entry.1

/-- The numbers behind a step are among those before. -/
theorem numbers_callsBehind (s : Session) (caller : Nat) (next : Option Call) :
    ((s.callsBehind caller next).map Prod.fst).Sublist (s.calls.map Prod.fst) := by
  cases next with
  | none => exact List.filter_sublist.map Prod.fst
  | some call =>
    have same : (s.callsBehind caller (some call)).map Prod.fst = s.calls.map Prod.fst := by
      show (s.calls.map _).map Prod.fst = s.calls.map Prod.fst
      rw [List.map_map]
      refine List.map_congr_left fun entry _ => ?_
      show (if entry.1 = caller then (caller, call) else entry).1 = entry.1
      split
      · rename_i mine
        exact mine.symm
      · rfl
    exact same ▸ List.Sublist.refl _

namespace Orderly

/-- A call is found under its number. -/
theorem eq_of_number (orderly : s.Orderly) {one other : Nat × Call} (first : one ∈ s.calls)
    (second : other ∈ s.calls) (same : one.1 = other.1) : one = other := by
  obtain ⟨before, behind, split⟩ := List.append_of_mem first
  have numbers := orderly.numbers
  rw [split, List.map_append, List.map_cons] at numbers
  obtain ⟨_, tail, apart⟩ := List.nodup_append.mp numbers
  have fresh := (List.nodup_cons.mp tail).1
  rw [split] at second
  rcases List.mem_append.mp second with early | late
  · exact absurd same.symm
      (apart other.1 (List.mem_map_of_mem early) one.1 List.mem_cons_self)
  · rcases List.mem_cons.mp late with rfl | late
    · rfl
    · exact absurd (same ▸ List.mem_map_of_mem late) fresh

/-- The lifecycle lock is held by one call at most. -/
theorem eq_of_locked (orderly : s.Orderly) {entry : Nat × Call} (member : entry ∈ s.calls)
    (locked : entry.2.isLocked = true) (held : holds s.lifecycle caller = true) :
    entry.1 = caller :=
  Option.some.inj ((orderly.lifecycle entry member locked).symm.trans (of_decide_eq_true held))

/-- The gate is held by one call at most. -/
theorem eq_of_gated (orderly : s.Orderly) {entry : Nat × Call} (member : entry ∈ s.calls)
    (gated : entry.2.isGated = true) (held : holds s.gate caller = true) : entry.1 = caller :=
  Option.some.inj ((orderly.gate entry member gated).symm.trans (of_decide_eq_true held))

/-- A move that does not concern calls. -/
theorem frame (orderly : s.Orderly) (calls : t.calls = s.calls)
    (lifecycle : t.lifecycle = s.lifecycle) (gate : t.gate = s.gate)
    (lastCall : t.lastCall = s.lastCall) (replies : t.replies = s.replies) : t.Orderly := by
  refine ⟨?_, ?_, ?_, ?_, ?_⟩
  · rw [calls]
    exact orderly.numbers
  · rw [calls, lastCall]
    exact orderly.numbered
  · rw [calls, lastCall, replies]
    exact orderly.returned
  · rw [calls, lifecycle]
    exact orderly.lifecycle
  · rw [calls, gate]
    exact orderly.gate

/-- A step of one call. -/
theorem step (orderly : s.Orderly) {call : Call} (next : Option Call)
    (mine : (caller, call) ∈ s.calls) (calls : t.calls = s.callsBehind caller next)
    (lifecycle : LockMove s.lifecycle caller call.isLocked t.lifecycle (next.any Call.isLocked))
    (gate : LockMove s.gate caller call.isGated t.gate (next.any Call.isGated))
    (lastCall : t.lastCall = s.lastCall)
    (replies : (∃ later, next = some later ∧ t.replies = s.replies) ∨
      ∃ reply, next = none ∧ t.replies = s.replies ++ [(caller, reply)]) : t.Orderly := by
  have old : ∀ entry ∈ t.calls, ∃ before ∈ s.calls, before.1 = entry.1 := by
    rw [calls]
    intro entry member
    rcases mem_callsBehind member with ⟨_, old⟩ | ⟨later, _, rfl⟩
    · exact ⟨entry, old, rfl⟩
    · exact ⟨(caller, call), mine, rfl⟩
  refine ⟨?_, ?_, ?_, ?_, ?_⟩
  · rw [calls]
    exact (numbers_callsBehind s caller next).nodup orderly.numbers
  · rw [lastCall]
    intro entry member
    obtain ⟨before, listed, same⟩ := old entry member
    exact same ▸ orderly.numbered before listed
  · rw [lastCall]
    intro reply given
    have earlier : reply ∈ s.replies →
        reply.1 ≤ s.lastCall ∧ ∀ entry ∈ t.calls, entry.1 ≠ reply.1 := by
      intro listed
      refine ⟨(orderly.returned reply listed).1, fun entry member => ?_⟩
      obtain ⟨before, within, same⟩ := old entry member
      exact same ▸ (orderly.returned reply listed).2 before within
    rcases replies with ⟨later, _, kept⟩ | ⟨answer, concluded, more⟩
    · exact earlier (kept ▸ given)
    · rw [more] at given
      rcases List.mem_append.mp given with listed | new
      · exact earlier listed
      · rw [List.mem_singleton.mp new]
        refine ⟨orderly.numbered (caller, call) mine, fun entry member => ?_⟩
        rw [calls, concluded] at member
        exact of_decide_eq_true (List.mem_filter.mp member).2
  · rw [calls]
    intro entry member locked
    rcases mem_callsBehind member with ⟨apart, old⟩ | ⟨later, same, rfl⟩
    · exact lifecycle.holder apart (orderly.lifecycle entry old locked)
    · refine lifecycle.mine (orderly.lifecycle (caller, call) mine) ?_
      rw [same]
      exact locked
  · rw [calls]
    intro entry member gated
    rcases mem_callsBehind member with ⟨apart, old⟩ | ⟨later, same, rfl⟩
    · exact gate.holder apart (orderly.gate entry old gated)
    · refine gate.mine (orderly.gate (caller, call) mine) ?_
      rw [same]
      exact gated

/-- A call that begins, with a number of its own. -/
theorem begin (orderly : s.Orderly) (order : Order) : (s.begin order.call).2.Orderly := by
  have waits : order.call.isLocked = false ∧ order.call.isGated = false := by
    cases order <;> exact ⟨rfl, rfl⟩
  refine ⟨?_, ?_, ?_, ?_, ?_⟩
  · show ((s.calls ++ [(s.lastCall + 1, order.call)]).map Prod.fst).Nodup
    rw [List.map_append]
    refine List.nodup_append.mpr ⟨orderly.numbers, List.pairwise_singleton _ _, ?_⟩
    intro number listed new last same
    obtain ⟨entry, member, rfl⟩ := List.mem_map.mp listed
    have bounded := orderly.numbered entry member
    have fresh : new = s.lastCall + 1 := List.mem_singleton.mp last
    omega
  · intro entry member
    rcases List.mem_append.mp member with old | new
    · exact Nat.le_trans (orderly.numbered entry old) (Nat.le_succ _)
    · exact Nat.le_of_eq (congrArg Prod.fst (List.mem_singleton.mp new))
  · intro reply given
    obtain ⟨bounded, apart⟩ := orderly.returned reply given
    refine ⟨Nat.le_trans bounded (Nat.le_succ _), fun entry member => ?_⟩
    rcases List.mem_append.mp member with old | new
    · exact apart entry old
    · rw [List.mem_singleton.mp new]
      exact Nat.ne_of_gt (Nat.lt_succ_of_le bounded)
  · intro entry member locked
    rcases List.mem_append.mp member with old | new
    · exact orderly.lifecycle entry old locked
    · rw [List.mem_singleton.mp new, waits.1] at locked
      cases locked
  · intro entry member gated
    rcases List.mem_append.mp member with old | new
    · exact orderly.gate entry old gated
    · rw [List.mem_singleton.mp new, waits.2] at gated
      cases gated

/-- A call that does not wait any longer leaves the locks as they are. -/
theorem expire {call later : Call} (orderly : s.Orderly) (mine : (caller, call) ∈ s.calls)
    (expires : call.Expires later) : (s.proceed caller later).Orderly := by
  have locked : later.isLocked = true → call.isLocked = true := by
    cases expires with
    | dispose expires => cases expires <;> exact id
    | start error expires => exact id
  have gated : later.isGated = false ∧ call.isGated = false := by
    cases expires with
    | dispose expires => cases expires <;> exact ⟨rfl, rfl⟩
    | start error expires => cases expires <;> exact ⟨rfl, rfl⟩
  refine orderly.step (some later) mine rfl (.stay _ fun still => .inl (locked still)) ?_ rfl
    (.inl ⟨_, rfl, rfl⟩)
  show LockMove s.gate caller call.isGated s.gate later.isGated
  rw [gated.1, gated.2]
  exact .rest s.gate caller false

end Orderly

/-- **Every move keeps calls in order.** -/
theorem orderly_after {move : Move} (orderly : s.Orderly) (moved : s.after move = some t) :
    t.Orderly := by
  cases moves_of_after moved with
  | call caller moved =>
    obtain ⟨call, next, found, advances⟩ := advance_advances moved
    exact orderly.step next (mem_of_lookup found) advances.calls advances.lifecycle advances.gate
      advances.lastCall advances.replies
  | timeout caller mine expires => exact orderly.expire mine expires
  | order order => exact orderly.begin order
  | driver _ same | listener _ same | aside _ same =>
    rw [same]
    exact orderly.frame rfl rfl rfl rfl rfl

theorem orderly_fresh (settings : Settings) (fallback : Release) (hosted : HostedEngine) :
    (fresh settings fallback hosted).Orderly :=
  ⟨List.nodup_nil, (fun _ member => by cases member), (fun _ member => by cases member),
    (fun _ member => by cases member), fun _ member => by cases member⟩

end ShellSession.Session
