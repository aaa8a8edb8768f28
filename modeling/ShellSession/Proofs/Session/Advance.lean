/-
**What a step of a call leaves behind.**

A step of a call has an effect on the session and leaves the call at a later stage, or over. On the
way a call stands in line for the lifecycle lock and for the gate; it goes on only as the first in
line, and gives up its place when it is through.

* `LockMove`: what becomes of a lock and of a caller's claim to it;
* `Call.isLocked`, `Call.isGated`: the calls that go on only as the holder of a lock;
* `Session.Advances`: a step of a call;
* `Session.advance_advances`: **every step of a call is one of these**.
-/

import ShellSession.Proofs.Session.Effect

namespace ShellSession

/-! ### Locks -/

/-- What becomes of a lock in a step of a caller. The flags say whether the caller goes on as the
holder, before and after the step. -/
inductive LockMove (lock : Lock) (caller : Nat) (before : Bool) : Lock → Bool → Prop
  | stay (after : Bool)
      (held : after = true → before = true ∨ Session.holds lock caller = true) :
      LockMove lock caller before lock after
  | enter : LockMove lock caller before (lock ++ [caller]) false
  | leave : LockMove lock caller before (Session.without lock caller) false

namespace LockMove

variable {lock next : Lock} {caller other : Nat} {before after : Bool}

/-- A lock that the caller has nothing to do with. -/
theorem rest (lock : Lock) (caller : Nat) (flag : Bool) : LockMove lock caller flag lock flag :=
  .stay flag .inl

/-- The holder of a lock stays the holder, unless it is the one that takes the step. -/
theorem holder (move : LockMove lock caller before next after) (apart : other ≠ caller)
    (held : lock.head? = some other) : next.head? = some other := by
  obtain ⟨rest, rfl⟩ := List.head?_eq_some_iff.mp held
  cases move with
  | stay after held => rfl
  | enter => rfl
  | leave =>
    unfold Session.without
    rw [List.filter_cons_of_pos (by simpa using apart)]
    rfl

/-- The caller goes on as the holder only when it is the first in line. -/
theorem mine (move : LockMove lock caller before next after)
    (holds : before = true → lock.head? = some caller) (goes : after = true) :
    next.head? = some caller := by
  cases move with
  | stay after held =>
    rcases held goes with same | first
    · exact holds same
    · exact of_decide_eq_true first
  | enter => cases goes
  | leave => cases goes

end LockMove

/-! ### Calls that hold a lock -/

/-- A resume that goes on only as the holder of the gate. -/
def Resuming.isGated : Resuming → Bool
  | clearing => true
  | applying _ => true
  | restoring _ _ => true
  | leaving _ => true
  | _ => false

/-- An abort whose resume holds the gate. -/
def Aborting.isGated : Aborting → Bool
  | resuming stage => stage.isGated
  | _ => false

/-- A dispose whose abort holds the gate. -/
def Disposing.isGated : Disposing → Bool
  | aborting stage => stage.isGated
  | _ => false

/-- A failed start whose dispose holds the gate. -/
def Starting.isGated : Starting → Bool
  | failing _ stage => stage.isGated
  | _ => false

/-- A nested execution that goes on only as the holder of the gate. -/
def Nesting.isGated : Nesting → Bool
  | posting _ => true
  | awaiting _ => true
  | leaving _ => true
  | _ => false

/-- An abort that goes on only as the holder of the lifecycle lock. -/
def Aborting.isLocked : Aborting → Bool
  | checking => false
  | finished _ => false
  | _ => true

/-- A dispose that goes on only as the holder of the lifecycle lock. -/
def Disposing.isLocked : Disposing → Bool
  | checking => false
  | finished => false
  | _ => true

/-- A start that goes on only as the holder of the lifecycle lock. -/
def Starting.isLocked : Starting → Bool
  | checking => false
  | finished _ => false
  | _ => true

namespace Call

/-- A call that goes on only as the holder of the gate. -/
def isGated : Call → Bool
  | start (.inside stage) => stage.isGated
  | nested _ _ stage => stage.isGated
  | resume _ stage => stage.isGated
  | abort (.inside stage) => stage.isGated
  | dispose (.inside stage) => stage.isGated
  | _ => false

/-- A call that goes on only as the holder of the lifecycle lock. -/
def isLocked : Call → Bool
  | start (.inside stage) => stage.isLocked
  | abort (.inside stage) => stage.isLocked
  | dispose (.inside stage) => stage.isLocked
  | _ => false

end Call

/-! ### Stages at the gate -/

section Stages

variable {s t : Session} {caller : Nat}

theorem Session.gate_restorePause (s : Session) (stop : Stop) : (s.restorePause stop).gate = s.gate := by
  rcases s.restorePause_cases stop with ⟨_, same⟩ | ⟨_, same⟩ <;> rw [same]

theorem Resuming.step_gate {verb : Verb} {stage next : Resuming}
    (stepped : stage.step caller verb s = some (t, next)) :
    LockMove s.gate caller stage.isGated t.gate next.isGated := by
  cases goes_of_step stepped with
  | bound | unbound | paused | active => exact .rest _ _ false
  | enter => exact .enter
  | note stop other held standing => exact .stay true fun _ => .inr held
  | missed held standing => exact .stay true fun _ => .inr held
  | restore stop error => exact s.gate_restorePause stop ▸ .rest _ _ true
  | leave result => exact .leave
  | _ => exact .rest _ _ true

theorem Aborting.step_gate {stage next : Aborting}
    (stepped : stage.step caller s = some (t, next)) :
    LockMove s.gate caller stage.isGated t.gate next.isGated := by
  cases goes_of_step stepped with
  | resume inner later t same => exact Resuming.step_gate same
  | _ => exact .rest _ _ false

theorem Disposing.step_gate {stage next : Disposing}
    (stepped : stage.step caller s = some (t, next)) :
    LockMove s.gate caller stage.isGated t.gate next.isGated := by
  cases goes_of_step stepped with
  | abort inner later t same => exact Aborting.step_gate same
  | _ => exact .rest _ _ false

theorem Starting.step_gate {stage next : Starting}
    (stepped : stage.step caller s = some (t, next)) :
    LockMove s.gate caller stage.isGated t.gate next.isGated := by
  cases goes_of_step stepped with
  | dispose error inner later t same => exact Disposing.step_gate same
  | _ => exact .rest _ _ false

theorem Submitting.step_gate {payload : Payload} {stage next : Submitting}
    (stepped : stage.step payload s = some (t, next)) : LockMove s.gate caller false t.gate false := by
  cases goes_of_step stepped <;> exact .rest _ _ false

theorem Nesting.step_gate {pipeline : Pipeline} {shape : Shape} {stage next : Nesting}
    (stepped : stage.step caller pipeline shape s = some (t, next)) :
    LockMove s.gate caller stage.isGated t.gate next.isGated := by
  cases goes_of_step stepped with
  | bind | unbound | paused | active => exact .rest _ _ false
  | enter dialect => exact .enter
  | still dialect held paused => exact .stay true fun _ => .inr held
  | missed dialect held active => exact .stay true fun _ => .inr held
  | leave result => exact .leave
  | _ => exact .rest _ _ true

end Stages

/-! ### Calls -/

namespace Call

variable {s t : Session} {caller : Nat} {call later : Call}

theorem LinesUp.order (lines : call.LinesUp later) : later.order = call.order := by
  cases lines <;> rfl

namespace Goes

theorem order (goes : call.Goes caller s t later) : later.order = call.order := by
  cases goes <;> rfl

/-- What a stage does is allowed by what the call has been made for. -/
theorem affects (goes : call.Goes caller s t later) :
    s.Affects call.order call.grips t later.grips := by
  cases goes with
  | start stage next t held stepped => exact Starting.step_effect stepped
  | submit payload stage next t stepped => exact Submitting.step_effect stepped
  | nested pipeline shape stage next t stepped => exact Nesting.step_effect stepped
  | resume verb stage next t stepped => exact Resuming.step_effect rfl stepped
  | abort stage next t held stepped => exact Aborting.step_effect rfl stepped
  | dispose stage next t held stepped => exact Disposing.step_effect rfl stepped

theorem gate (goes : call.Goes caller s t later) :
    LockMove s.gate caller call.isGated t.gate later.isGated := by
  cases goes with
  | start stage next t held stepped => exact Starting.step_gate stepped
  | submit payload stage next t stepped => exact Submitting.step_gate stepped
  | nested pipeline shape stage next t stepped => exact Nesting.step_gate stepped
  | resume verb stage next t stepped => exact Resuming.step_gate stepped
  | abort stage next t held stepped => exact Aborting.step_gate stepped
  | dispose stage next t held stepped => exact Disposing.step_gate stepped

/-- A call is behind the lifecycle lock only when it holds it. -/
theorem locked (goes : call.Goes caller s t later) (locked : later.isLocked = true) :
    call.isLocked = true ∨ Session.holds s.lifecycle caller = true := by
  cases goes with
  | start stage next t held stepped => exact .inr held
  | abort stage next t held stepped => exact .inr held
  | dispose stage next t held stepped => exact .inr held
  | _ => cases locked

end Goes

/-- A call that has come to its end does not hold the gate, nor a pause that it has lifted. -/
theorem Returns.loose {result : Except SessionFailure Reply} (returns : call.Returns result) :
    call.grips = false ∧ call.isGated = false := by
  cases returns <;> exact ⟨rfl, rfl⟩

end Call

namespace Session

/-- The calls behind a step of the one with a number, which goes on at a later stage or is over. -/
def callsBehind (s : Session) (caller : Nat) : Option Call → List (Nat × Call)
  | some call => s.calls.map fun entry => if entry.1 = caller then (caller, call) else entry
  | none => s.calls.filter fun entry => entry.1 ≠ caller

/-- A step of the call with a number, which goes on at a later stage or is over: the effect, and the
bookkeeping behind it. -/
structure Advances (s : Session) (caller : Nat) (call : Call) (next : Option Call) (t : Session) :
    Prop where
  effect : ∃ u, Effect s call.order call.grips u (next.any Call.grips) ∧ u.Books t
  calls : t.calls = s.callsBehind caller next
  order : ∀ later, next = some later → later.order = call.order
  lifecycle : LockMove s.lifecycle caller call.isLocked t.lifecycle (next.any Call.isLocked)
  gate : LockMove s.gate caller call.isGated t.gate (next.any Call.isGated)
  lastCall : t.lastCall = s.lastCall
  replies : (∃ later, next = some later ∧ t.replies = s.replies) ∨
    ∃ reply, next = none ∧ t.replies = s.replies ++ [(caller, reply)]

variable {s t u : Session} {caller : Nat}

/-- A call that goes on at a later stage. -/
theorem Affects.proceed {call later : Call} (affects : s.Affects call.order call.grips u later.grips)
    (order : later.order = call.order)
    (gate : LockMove s.gate caller call.isGated u.gate later.isGated)
    (locked : later.isLocked = true → call.isLocked = true ∨ holds s.lifecycle caller = true) :
    s.Advances caller call (some later) (u.proceed caller later) := by
  obtain ⟨v, effect, same⟩ := affects
  obtain ⟨lifecycle, _, lastCall, calls, replies⟩ := effect.same_books
  have lifecycle' : u.lifecycle = s.lifecycle := by rw [same]; exact lifecycle
  have lastCall' : u.lastCall = s.lastCall := by rw [same]; exact lastCall
  have calls' : u.calls = s.calls := by rw [same]; exact calls
  have replies' : u.replies = s.replies := by rw [same]; exact replies
  refine ⟨⟨v, effect, ?_⟩, ?_, ?_, ?_, gate, lastCall', .inl ⟨later, rfl, replies'⟩⟩
  · rw [same]
    rfl
  · show u.calls.map _ = s.calls.map _
    rw [calls']
  · rintro _ ⟨⟩
    exact order
  · show LockMove s.lifecycle caller call.isLocked u.lifecycle later.isLocked
    rw [lifecycle']
    exact .stay later.isLocked locked

/-- A call that is over. -/
theorem advances_giveBack {call : Call} (free : call.grips = false) (open_ : call.isGated = false)
    (reply : Except SessionFailure Reply) :
    s.Advances caller call none (s.giveBack caller reply) where
  effect := ⟨s, free ▸ .look false, rfl⟩
  calls := rfl
  order := fun _ other => by cases other
  lifecycle := .leave
  gate := open_ ▸ .rest s.gate caller false
  lastCall := rfl
  replies := .inr ⟨reply, rfl, rfl⟩

/-- A call that asks for the lifecycle lock. -/
theorem advances_enterLifecycle {call later : Call} (free : call.grips = false)
    (open_ : call.isGated = false) (waits : later.grips = false ∧ later.isGated = false ∧
      later.isLocked = false) (order : later.order = call.order) :
    s.Advances caller call (some later) ((s.enterLifecycle caller).proceed caller later) := by
  obtain ⟨grips, gated, locked⟩ := waits
  refine ⟨⟨s, ?_, rfl⟩, rfl, ?_, ?_, ?_, rfl, .inl ⟨later, rfl, rfl⟩⟩
  · show Effect s call.order call.grips s later.grips
    rw [free, grips]
    exact .look false
  · rintro _ ⟨⟩
    exact order
  · show LockMove s.lifecycle caller call.isLocked (s.lifecycle ++ [caller]) later.isLocked
    rw [locked]
    exact .enter
  · show LockMove s.gate caller call.isGated s.gate later.isGated
    rw [open_, gated]
    exact .rest s.gate caller false

/-- The engine asked to stop is at most put into step mode. -/
theorem pauseEngine_effect (s : Session) : Effect s .pause false s.pauseEngine.1 false := by
  unfold pauseEngine
  cases s.boundDialect with
  | error error => exact .look false
  | ok dialect =>
    cases asked : s.hosted.pause dialect with
    | error error =>
      simp only [asked]
      exact .look false
    | ok hosted =>
      simp only [asked]
      exact .pause rfl dialect hosted asked

theorem advanceCall_advances {call : Call} (moved : s.advanceCall caller call = some t) :
    ∃ next, s.Advances caller call next t := by
  cases takes_of_advanceCall moved with
  | line later lines =>
    refine ⟨some later, ?_⟩
    cases lines <;> exact advances_enterLifecycle rfl rfl ⟨rfl, rfl, rfl⟩ rfl
  | stage u later goes =>
    exact ⟨some later, goes.affects.proceed goes.order goes.gate goes.locked⟩
  | reply result returns =>
    obtain ⟨loose, outside⟩ := returns.loose
    exact ⟨none, advances_giveBack loose outside result⟩
  | pause asked =>
    subst asked
    obtain ⟨lifecycle, gate, lastCall, calls, replies⟩ := s.pauseEngine_effect.same_books
    refine ⟨none, ⟨s.pauseEngine.1, s.pauseEngine_effect, rfl⟩, ?_, (fun _ other => by cases other),
      ?_, ?_, lastCall, .inr ⟨s.pauseEngine.2.map fun _ => .done, rfl, ?_⟩⟩
    · show s.pauseEngine.1.calls.filter _ = s.calls.filter _
      rw [calls]
    · show LockMove s.lifecycle caller false (without s.pauseEngine.1.lifecycle caller) false
      rw [lifecycle]
      exact .leave
    · show LockMove s.gate caller false s.pauseEngine.1.gate false
      rw [gate]
      exact .rest s.gate caller false
    · show s.pauseEngine.1.replies ++ _ = s.replies ++ _
      rw [replies]

/-- **Every step of a call has one of the effects**, and leaves the call at a later stage or over. -/
theorem advance_advances (moved : s.advance caller = some t) :
    ∃ call next, s.calls.lookup caller = some call ∧ s.Advances caller call next t := by
  obtain ⟨call, found, moved⟩ := Option.bind_eq_some_iff.mp moved
  obtain ⟨next, advances⟩ := advanceCall_advances moved
  exact ⟨call, next, found, advances⟩

end Session

end ShellSession
