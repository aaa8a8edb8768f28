/-
**The course of a session.**

Nothing is said about who acts next. Callers place orders at any time, calls and parties take their
steps in any order, the host may hold the engine or take its debugger away, others may use the
engine, and the session may be dropped. An environment says which of these moves are possible, so
that a statement about every environment is one about every schedule.

* `Move`, `Session.after`: a move, and the session behind it;
* `Desk`, `Ledger`: the fields through which requests pass, and what becomes of requests there;
* `Said`, `Session.heard?`, `HostedEngine.Says`: what the engine says to the thread;
* `Journal`: all that an observer writes down along the way;
* `Course`: the moves from one session to another, with their journal;
* `Course.invariant`: what every move preserves holds all along;
* `Session.exists_course_settle`, `Session.exists_course_carryOut`: a session left to itself takes a
  course, and so do orders carried out one after another.
-/

import ShellSession.Session.Settle

namespace ShellSession

/-! ### Moves -/

/-- What a caller can ask of a session. -/
inductive Order where
  | start
  | submit (payload : Payload)
  | nested (pipeline : Pipeline) (shape : Shape)
  | pause
  | resume (verb : Verb)
  | abort
  | dispose

/-- The call that an order begins. -/
def Order.call : Order → Call
  | start => Session.start
  | submit payload => .submit payload .checking
  | nested pipeline shape => Session.nested pipeline shape
  | pause => Session.pause
  | resume verb => Session.resume verb
  | abort => Session.abort
  | dispose => Session.dispose

/-- A move: a step of the session itself, an order of a caller, a decision of the host, whatever
others do to the engine, or the end of the session's owner. -/
inductive Move where
  | act (actor : Actor)
  | order (order : Order)
  | host (held : Bool) (heldFor : Nat) (debuggerPresent : Bool) (refusal : Option EngineFailure)
  | outside (engine : Engine)
  | drop

namespace Session

/-- The session behind a move, where the move is possible. -/
def after (s : Session) : Move → Option Session
  | .act actor => s.act actor
  | .order order => some (s.begin order.call).2
  | .host held heldFor debuggerPresent refusal =>
    some { s with hosted := ⟨s.hosted.engine, held, heldFor, debuggerPresent, refusal⟩ }
  | .outside engine => some { s with hosted := { s.hosted with engine := engine } }
  | .drop => some s.drop

end Session

/-! ### Journals -/

/-- The desk of a session: the fields through which requests pass. -/
structure Desk where
  retry : Retries
  queue : Backlog Request
  lastId : Nat
  results : List (Nat × Result)
  driving : Driving
  working : Working
  shutdown : Bool

/-- The desk of a session. -/
def Session.desk (s : Session) : Desk :=
  ⟨s.settings.retry, s.queue, s.lastId, s.results, s.driving, s.working, s.shutdown⟩

namespace Desk

/-- The attempt that the driver waits for. -/
def attempt? (d : Desk) : Option (Request × Nat) :=
  match d.driving with
  | .attempting request attempts => some (request, attempts)
  | _ => none

/-- The attempt that the driver has to judge, since it came back busy. -/
def busyAttempt? (d : Desk) : Option (Request × Nat) :=
  match d.driving with
  | .judging request attempts => some (request, attempts)
  | _ => none

end Desk

/-- What the engine says to the thread: that it refuses to run a pipeline, or has begun to, under a
ticket; what the run under a ticket has come to; and what it answers to a question. -/
inductive Said where
  | refused (pipeline : Pipeline) (error : EngineFailure)
  | begun (pipeline : Pipeline) (ticket : Nat)
  | ended (ticket : Nat) (outcome : Except EngineFailure (List Value))
  | variableIs (name : String) (answer : Except EngineFailure (Option Value))
  | releaseIs (answer : Except EngineFailure Release)

namespace Session

/-- What the engine says to the thread in the next step of it. -/
def heard? (s : Session) : Option Said :=
  match s.working with
  | .working _ (.invoke pipeline _) =>
    match (s.hosted.invoke pipeline).1 with
    | .error error => some (.refused pipeline error)
    | .ok ticket => some (.begun pipeline ticket)
  | .working _ (.askVariable name _) => some (.variableIs name (s.hosted.askVariable name).1)
  | .working _ (.askRelease _) => some (.releaseIs s.hosted.askRelease.1)
  | .awaiting _ ticket _ => (s.hosted.engine.result? ticket).map (.ended ticket)
  | _ => none

/-- What the engine says to the thread in a move. -/
def saidIn (s : Session) : Move → Option Said
  | .act .thread => s.heard?
  | _ => none

end Session

/-- What it is that the engine says: its answer to the pipeline or the question, or the result that it
has for the ticket. -/
def HostedEngine.Says (h : HostedEngine) : Said → Prop
  | .refused pipeline error => (h.invoke pipeline).1 = .error error
  | .begun pipeline ticket => (h.invoke pipeline).1 = .ok ticket
  | .ended ticket outcome => h.engine.result? ticket = some outcome
  | .variableIs name answer => (h.askVariable name).1 = answer
  | .releaseIs answer => h.askRelease.1 = answer

/-- The requests in the order of their acceptance, the attempts begun, the attempts that came back
busy, and what the engine said in which attempt, each request with the number of the attempt. -/
structure Ledger where
  accepted : List Request
  begun : List (Request × Nat)
  busy : List (Request × Nat)
  said : List ((Request × Nat) × Said)

/-- What is there now and was not before. -/
def appearing {α : Type} (before after : Option α) : List α :=
  match before with
  | none => after.toList
  | some _ => []

/-- The ledger with a change of the desk written down, and what the engine says in it. -/
def Ledger.note (l : Ledger) (d : Desk) (said : Option Said) (e : Desk) : Ledger where
  accepted := l.accepted ++ e.queue.items.drop d.queue.items.length
  begun := l.begun ++ appearing d.attempt? e.attempt?
  busy := l.busy ++ appearing d.busyAttempt? e.busyAttempt?
  said := l.said ++ d.attempt?.toList.zip said.toList

/-- What callers do to the engine while requests run on it. -/
inductive Cue where
  | verb (verb : Verb)
  | pause
deriving Repr, DecidableEq

/-- The cue that a request sent into a stop stands for. -/
def Engine.cue? : StopRequest → Option Cue
  | .verb verb => some (.verb verb)
  | .command _ _ => none

/-- The cues that a move gives to the engine: the verbs that a call has sent into a stop, and step
mode switched on by a call. -/
def Engine.newCues (e : Engine) (move : Move) (f : Engine) : List Cue :=
  match move with
  | .act (.call _) =>
    (f.inbox.drop e.inbox.length).filterMap cue? ++
      if f.state.stepping && !e.state.stepping then [.pause] else []
  | _ => []

/-- The call that a move begins. -/
def Session.newCalls (t : Session) (move : Move) : List (Nat × Order) :=
  match move with
  | .order order => [(t.lastCall, order)]
  | _ => []

/-- What an observer writes down: what becomes of requests, the calls begun, and the cues. -/
structure Journal where
  ledger : Ledger
  called : List (Nat × Order)
  cues : List Cue

namespace Journal

/-- The journal before the first move. -/
def empty : Journal :=
  ⟨⟨[], [], [], []⟩, [], []⟩

/-- The journal with a move from `s` to `t` written down. -/
def note (j : Journal) (s : Session) (move : Move) (t : Session) : Journal where
  ledger := j.ledger.note s.desk (s.saidIn move) t.desk
  called := j.called ++ t.newCalls move
  cues := j.cues ++ s.hosted.engine.newCues move t.hosted.engine

end Journal

/-! ### Courses -/

/-- The moves that are possible in an environment. -/
abbrev Environment := Session → Move → Prop

/-- The moves from one session to another that an environment allows, with their journal, which
goes on from an earlier one. -/
inductive Course (env : Environment) (s : Session) (j : Journal) : Journal → Session → Prop
  | rest : Course env s j j s
  | move {k : Journal} {t u : Session} (move : Move) :
      Course env s j k t → env t move → t.after move = some u → Course env s j (k.note t move u) u

namespace Course

variable {env : Environment} {s t u : Session} {i j k : Journal}

/-- One course behind another. -/
theorem trans (first : Course env s i j t) (second : Course env t j k u) : Course env s i k u := by
  induction second with
  | rest => exact first
  | move m _ allowed same ih => exact ih.move m allowed same

/-- **What every move preserves holds all along.** -/
theorem invariant (kept : Session → Journal → Prop)
    (preserved : ∀ {t u k} move, kept t k → env t move → t.after move = some u →
      kept u (k.note t move u))
    (course : Course env s j k t) (holds : kept s j) : kept t k := by
  induction course with
  | rest => exact holds
  | move m _ allowed same ih => exact preserved m ih allowed same

/-- A course in an environment is one in every environment that allows more. -/
theorem weaken {wider : Environment} (more : ∀ t move, env t move → wider t move)
    (course : Course env s j k t) : Course wider s j k t := by
  induction course with
  | rest => exact .rest
  | move m _ allowed same ih => exact ih.move m (more _ _ allowed) same

end Course

/-- The environment in which a session is left to itself, but for some orders. -/
def Environment.only (orders : List Order) : Environment := fun _ move =>
  (∃ actor, move = .act actor) ∨ ∃ order ∈ orders, move = .order order

/-- More orders allow more. -/
theorem Environment.only_mono {orders others : List Order} (more : ∀ order ∈ orders, order ∈ others)
    (s : Session) (move : Move) (allowed : Environment.only orders s move) :
    Environment.only others s move :=
  allowed.imp id fun ⟨order, member, same⟩ => ⟨order, more order member, same⟩

namespace Session

/-- The first step that somebody can take is a step. -/
theorem step_next {s t : Session} (same : s.next = some t) : s.Step t := by
  unfold next at same
  cases first : s.busyActors.findSome? s.act with
  | some other =>
    rw [first] at same
    obtain ⟨actor, _, acted⟩ := List.exists_of_findSome?_eq_some first
    cases same
    exact ⟨actor, acted⟩
  | none =>
    rw [first] at same
    obtain ⟨actor, _, acted⟩ := List.exists_of_findSome?_eq_some same
    exact ⟨actor, acted⟩

/-- **A session left to itself until nothing moves has taken a course of its own steps.** -/
theorem exists_course_settle (s : Session) (j : Journal) (orders : List Order) :
    ∃ k, Course (.only orders) s j k s.settle := by
  suffices taken : ∀ limit s j, ∃ k, Course (.only orders) s j k (exhaust next limit s) from
    taken stepLimit s j
  intro limit
  induction limit with
  | zero => exact fun s j => ⟨j, .rest⟩
  | succ limit ih =>
    intro s j
    unfold exhaust
    cases same : s.next with
    | none => exact ⟨j, .rest⟩
    | some t =>
      obtain ⟨actor, acted⟩ := step_next same
      obtain ⟨k, course⟩ := ih t (j.note s (.act actor) t)
      exact ⟨k, (Course.rest.move (.act actor) (.inl ⟨actor, rfl⟩) acted).trans course⟩

/-- A call begun and followed until nothing moves is a course behind its beginning. -/
theorem exists_course_run (s : Session) (j : Journal) (call : Call) (orders : List Order) :
    ∃ k, Course (.only orders) (s.begin call).2 j k (s.run call).2 :=
  exists_course_settle (s.begin call).2 j orders

/-- Orders carried out one after another, the session being left to itself in between. -/
def carryOut (s : Session) (orders : List Order) : Session :=
  orders.foldl (fun s order => (s.run order.call).2) s

/-- **Orders carried out one after another are a course.** -/
theorem exists_course_carryOut (s : Session) (j : Journal) (orders : List Order) :
    ∃ k, Course (.only orders) s j k (s.carryOut orders) := by
  suffices taken : ∀ rest, (∀ order ∈ rest, order ∈ orders) → ∀ s j,
      ∃ k, Course (.only orders) s j k (s.carryOut rest) from taken orders (fun _ => id) s j
  intro rest
  induction rest with
  | nil => exact fun _ s j => ⟨j, .rest⟩
  | cons order rest ih =>
    intro within s j
    have listed := within order List.mem_cons_self
    obtain ⟨i, settled⟩ := s.exists_course_run
      (j.note s (.order order) (s.begin order.call).2) order.call orders
    obtain ⟨k, course⟩ := ih (fun other member => within other (List.mem_cons_of_mem order member))
      (s.run order.call).2 i
    have begun : Course (.only orders) s j (j.note s (.order order) (s.begin order.call).2)
        (s.begin order.call).2 :=
      Course.rest.move (.order order) (.inr ⟨order, listed, rfl⟩) rfl
    exact ⟨k, (begun.trans settled).trans course⟩

/-- A session that is not started, over an engine without files, with the standard settings. -/
def plain : Session :=
  fresh .standard ⟨⟨5, 0⟩, "Desktop"⟩ (.ofEngine (.fresh .none (some Engine.defaultRelease)))

theorem create_plain : create .standard (.ofEngine (.fresh .none (some Engine.defaultRelease))) =
    .ok plain := by
  rfl

end Session

end ShellSession
