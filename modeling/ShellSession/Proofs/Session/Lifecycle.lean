/-
**The phases of a session, the driver and the queue.**

The phase is a cell that four parties write, two of them without a lock. What keeps it from going
astray is that each of them knows where it stands: whoever has closed the session to requests still
holds the lifecycle lock, whoever is about to make it ready has found it not started and holds the
lock since, and the driver exchanges ready and running for each other and nothing else.

* `Life.Sane`: what a life says of itself, whoever looks at it;
* `Station.Stands`: what a station says of the life of the session;
* `Life.Step.sane`, `Life.Serves.sane`: **every step of a call and of the driver keeps it so**;
* `Session.Alive`, `Course.alive`: all of it together, along every course on which nobody lets go of
  the session.
-/

import ShellSession.Proofs.Session.Life
import ShellSession.Proofs.Session.Stranded

namespace ShellSession

/-! ### Sane lives -/

/-- The request at which the driver has attempts made. -/
def Driving.executing? : Driving → Option Request
  | attempting request _ => some request
  | judging request _ => some request
  | backing request _ _ => some request
  | regated request _ => some request
  | _ => none

/-- The request that the driver has taken from the queue and is not through with. -/
def Driving.held? : Driving → Option Request
  | gated request => some request
  | marking request => some request
  | driving => driving.executing?

/-- Whether the driver is between marking the session as running, for a request that it has taken
from the queue, and marking it as ready again. -/
def Driving.isServing : Driving → Bool
  | unmarking => true
  | driving => driving.executing?.isSome

/-- The request with which a start asks for the engine's release. -/
def Life.question (l : Life) : Request :=
  ⟨1, .startup l.fallback⟩

/-- What a life says of itself: it runs only while the driver serves a request; it is shut down only
when it is disposed; the queue is closed only when no more requests are accepted; once it has been
ready, a request was queued; before that nothing is queued but the question of the start, and as
long as it does not run, nothing else is attempted. -/
structure Life.Sane (l : Life) : Prop where
  running : l.phase = .running → l.driving.isServing = true
  shut : l.shutdown = true → l.phase = .disposed
  closed : l.queue.closed = true → l.phase.isLate = true
  winding : l.driving = .closing → l.shutdown = true ∨ l.queue.closed = true
  numbered : l.phase.accepts = true ∨ l.phase = .aborting → 1 ≤ l.lastId
  unasked : l.phase = .notStarted → l.driving = .unborn → l.lastId = 0
  early : l.phase = .notStarted → ∀ request,
    request ∈ l.queue.items ∨ l.driving.held? = some request → request = l.question
  executing : l.phase = .notStarted ∨ l.phase = .ready → ∀ request,
    l.driving.executing? = some request → request = l.question

/-- What a station says of the life of the session. -/
def Station.Stands (l : Life) : Station → Prop
  | opening => l.phase = .notStarted
  | asking => l.phase = .notStarted ∧ l.lastId = 0 ∧ l.driving ≠ .unborn
  | opened => l.phase = .notStarted ∧ 1 ≤ l.lastId
  | pushing => l.phase ≠ .notStarted ∧ 1 ≤ l.lastId
  | pushed result => ∀ id, result = .ok id → 1 < id
  | closing target => l.phase = target ∧ target.isLate = true
  | cancelling => l.phase = .disposed ∧ l.queue.closed = true
  | shutting => l.phase = .disposed ∧ l.queue.closed = true
  | through => l.phase = .disposed
  | aside => True

namespace Phase

theorem late_of_accepts {phase : Phase} (accepts : phase.accepts = true) : phase.isLate = false := by
  cases phase <;> first | rfl | cases accepts

theorem started_of_accepts {phase : Phase} (accepts : phase.accepts = true) : phase ≠ .notStarted := by
  rintro rfl
  cases accepts

/-- Only a session that is not started becomes ready without having run. -/
theorem accepts_of_leadsTo {source target : Phase} (leads : source.leadsTo target = true)
    (late : target = .aborting) : source.accepts = true := by
  subst late
  cases source <;> first | rfl | cases leads

/-- No phase leads back to the first one. -/
theorem started_of_leadsTo {source target : Phase} (leads : source.leadsTo target = true) :
    target ≠ .notStarted := by
  rintro rfl
  cases source <;> cases leads

end Phase

/-! ### Steps of calls -/

namespace Life

variable {l m : Life} {held : Bool} {source target : Station}

/-- The life behind a request let in. -/
theorem Sane.accept (sane : l.Sane) (payload : Payload) (opened : l.queue.closed = false)
    (early : l.phase = .notStarted → (l.accept payload).lastId = 1 ∧ payload = .startup l.fallback)
    (unasked : l.phase = .notStarted → l.driving ≠ .unborn) : (l.accept payload).Sane where
  running := sane.running
  shut := sane.shut
  closed := fun other => by cases other
  winding := fun closing => by
    rcases sane.winding closing with fired | closed
    · exact .inl fired
    · rw [opened] at closed
      cases closed
  numbered := fun _ => Nat.le_add_left 1 l.lastId
  unasked := fun fresh unborn => absurd unborn (unasked fresh)
  early := fun fresh request member => by
    obtain ⟨first, rfl⟩ := early fresh
    rcases member with queued | inHand
    · rcases List.mem_append.mp queued with before | now
      · exact sane.early fresh request (.inl before)
      · obtain rfl := List.mem_singleton.mp now
        show (⟨l.lastId + 1, _⟩ : Request) = ⟨1, _⟩
        rw [show l.lastId + 1 = 1 from first]
        rfl
    · exact sane.early fresh request (.inr inHand)
  executing := sane.executing

/-- The life behind a request that came too late. -/
theorem Sane.refuse (sane : l.Sane) (started : l.phase ≠ .notStarted) :
    Sane { l with lastId := l.lastId + 1 } where
  running := sane.running
  shut := sane.shut
  closed := sane.closed
  winding := sane.winding
  numbered := fun _ => Nat.le_add_left 1 l.lastId
  unasked := fun fresh => absurd fresh started
  early := fun fresh => absurd fresh started
  executing := sane.executing

/-- The life behind a turn of the phase to one in which no more requests are accepted. -/
theorem Sane.turn (sane : l.Sane) {target : Phase} (leads : l.phase.leadsTo target = true)
    (last : target = .aborting ∨ target = .disposed) : Sane { l with phase := target } where
  running := fun running => by
    rcases last with rfl | rfl <;> cases running
  shut := fun fired => by
    rw [sane.shut fired] at leads
    cases target <;> cases leads
  closed := fun _ => by
    rcases last with rfl | rfl <;> rfl
  winding := sane.winding
  numbered := fun later => by
    rcases last with rfl | rfl
    · exact sane.numbered (.inl (Phase.accepts_of_leadsTo leads rfl))
    · rcases later with other | other <;> cases other
  unasked := fun fresh => by
    rcases last with rfl | rfl <;> cases fresh
  early := fun fresh => by
    rcases last with rfl | rfl <;> cases fresh
  executing := fun calm => by
    rcases last with rfl | rfl <;> rcases calm with other | other <;> cases other

/-- The life behind the end of a start. -/
theorem Sane.ready (sane : l.Sane) (fresh : l.phase = .notStarted) (asked : 1 ≤ l.lastId) :
    Sane { l with phase := .ready } where
  running := fun other => by cases other
  shut := fun fired => by
    have disposed := sane.shut fired
    rw [fresh] at disposed
    cases disposed
  closed := fun closed => by
    have late := sane.closed closed
    rw [fresh] at late
    cases late
  winding := sane.winding
  numbered := fun _ => asked
  unasked := fun other => by cases other
  early := fun other => by cases other
  executing := fun _ request executing =>
    sane.executing (.inl fresh) request executing

/-- The life behind the start of the parties. -/
theorem Sane.spawn (sane : l.Sane) (fresh : l.phase = .notStarted) :
    Sane { l with driving := .waiting } where
  running := fun running => by
    rw [show l.phase = .running from running] at fresh
    cases fresh
  shut := sane.shut
  closed := sane.closed
  winding := fun other => by cases other
  numbered := sane.numbered
  unasked := fun _ other => by cases other
  early := fun fresh request member => by
    rcases member with queued | other
    · exact sane.early fresh request (.inl queued)
    · cases other
  executing := fun _ request other => by cases other

/-- The life behind the queue closed. -/
theorem Sane.close (sane : l.Sane) (late : l.phase.isLate = true) :
    Sane { l with queue := l.queue.close } where
  running := sane.running
  shut := sane.shut
  closed := fun _ => late
  winding := fun _ => .inr rfl
  numbered := sane.numbered
  unasked := sane.unasked
  early := sane.early
  executing := sane.executing

/-- A life that is disposed is sane with whatever driver, as long as its queue is closed. -/
theorem Sane.of_disposed (disposed : m.phase = .disposed) (closed : m.queue.closed = true) :
    m.Sane where
  running := fun other => by
    rw [disposed] at other
    cases other
  shut := fun _ => disposed
  closed := fun _ => by rw [disposed]; rfl
  winding := fun _ => .inr closed
  numbered := fun later => by
    rw [disposed] at later
    rcases later with other | other <;> cases other
  unasked := fun other => by
    rw [disposed] at other
    cases other
  early := fun other => by
    rw [disposed] at other
    cases other
  executing := fun calm => by
    rw [disposed] at calm
    rcases calm with other | other <;> cases other

/-- **A step of a call from where it stands leads to where it stands**, and keeps the life sane. -/
theorem Step.sane (step : l.Step held source m target) (sane : l.Sane) (stands : source.Stands l) :
    m.Sane ∧ target.Stands m := by
  cases step with
  | stay => exact ⟨sane, stands⟩
  | leave => exact ⟨sane, trivial⟩
  | found first disposed => exact ⟨sane, disposed⟩
  | look first fresh => exact ⟨sane, fresh⟩
  | letIn accepts => exact ⟨sane, Phase.started_of_accepts accepts, sane.numbered (.inl accepts)⟩
  | turnDown refuses => exact ⟨sane, fun id other => by cases other⟩
  | spawn first free =>
    exact ⟨sane.spawn stands, stands, sane.unasked stands free, fun other => by cases other⟩
  | ask first opened =>
    obtain ⟨fresh, none, born⟩ := stands
    refine ⟨sane.accept _ opened (fun _ => ⟨?_, rfl⟩) fun _ => born, fresh, Nat.le_add_left 1 _⟩
    show l.lastId + 1 = 1
    rw [none]
  | unasked first closed =>
    have late := sane.closed closed
    rw [stands.1] at late
    cases late
  | accept payload opened =>
    obtain ⟨started, numbered⟩ := stands
    refine ⟨sane.accept payload opened (fun fresh => absurd fresh started)
      fun fresh => absurd fresh started, fun id same => ?_⟩
    cases same
    exact Nat.lt_succ_of_le numbered
  | refuse error closed => exact ⟨sane.refuse stands.1, fun id other => by cases other⟩
  | ready first leads => exact ⟨sane.ready stands.1 stands.2, trivial⟩
  | turn last first leads late =>
    refine ⟨sane.turn leads late, rfl, ?_⟩
    rcases late with rfl | rfl <;> rfl
  | again first disposed => exact ⟨sane, disposed, rfl⟩
  | close last first => exact ⟨sane.close (stands.1 ▸ stands.2), trivial⟩
  | conclude first => exact ⟨sane.close (stands.1 ▸ stands.2), stands.1, rfl⟩
  | cancel first => exact ⟨.of_disposed stands.1 stands.2, stands⟩
  | drain first free => exact ⟨.of_disposed stands.1 rfl, stands.1, rfl⟩
  | unbind first => exact ⟨.of_disposed stands.1 stands.2, stands.1⟩

/-- A call without the lifecycle lock changes at most the queue, and then it is a submission. -/
theorem Step.unlocked (step : l.Step false source m target) :
    m = l ∨ source = .pushing ∧ m.phase = l.phase ∧ (l.queue.closed = true → m.queue = l.queue) := by
  cases step with
  | stay => exact .inl rfl
  | leave => exact .inl rfl
  | letIn => exact .inl rfl
  | turnDown => exact .inl rfl
  | accept payload opened =>
    refine .inr ⟨rfl, rfl, fun closed => ?_⟩
    rw [opened] at closed
    cases closed
  | refuse error closed => exact .inr ⟨rfl, rfl, fun _ => rfl⟩
  | _ => exact absurd ‹false = true› Bool.false_ne_true

/-- A step of one call leaves the others standing, those in the way of the lifecycle lock apart. -/
theorem Step.stands_other (step : l.Step held source m target) (stands : source.Stands l)
    {other : Station} (others : other.Stands l)
    (apart : held = true → other.isLocked = false) : other.Stands m := by
  have fresh : m.phase = .notStarted → l.phase = .notStarted := by
    cases step with
    | ready first leads => exact fun other => by cases other
    | turn last first leads late =>
      exact fun other => absurd other (Phase.started_of_leadsTo leads)
    | _ => exact id
  have disposed : l.phase = .disposed → m.phase = .disposed := by
    intro disposed
    cases step with
    | ready first leads =>
      rw [disposed] at leads
      cases leads
    | turn last first leads late =>
      rw [disposed] at leads
      cases last <;> cases leads
    | _ => exact disposed
  have number : l.lastId ≤ m.lastId := by
    cases step <;> first | exact Nat.le_refl _ | exact Nat.le_succ _
  by_cases locked : other.isLocked = true
  · have free : held = false := by
      cases held with
      | false => rfl
      | true => exact absurd locked (by rw [apart rfl]; exact Bool.false_ne_true)
    subst free
    rcases step.unlocked with rfl | ⟨rfl, phase, queue⟩
    · exact others
    · cases other with
      | opening => exact absurd others stands.1
      | asking => exact absurd others.1 stands.1
      | opened => exact absurd others.1 stands.1
      | closing aim => exact ⟨phase.trans others.1, others.2⟩
      | cancelling => exact ⟨phase.trans others.1, (queue others.2).symm ▸ others.2⟩
      | shutting => exact ⟨phase.trans others.1, (queue others.2).symm ▸ others.2⟩
      | _ => cases locked
  · cases other with
    | aside => trivial
    | pushing => exact ⟨fun later => others.1 (fresh later), Nat.le_trans others.2 number⟩
    | pushed result => exact others
    | through => exact disposed others
    | _ => exact absurd rfl locked

/-- Behind a step of a call the queue is closed, or the call is about to close it, or it is left to
others to close it, as before. -/
theorem Step.closing (step : l.Step held source m target) (late : m.phase.isLate = true) :
    m.queue.closed = true ∨ (∃ aim, target = .closing aim) ∨
      (l.phase.isLate = true ∧ (l.queue.closed = true → m.queue.closed = true) ∧
        ∀ aim, source ≠ .closing aim) := by
  cases step with
  | stay =>
    cases source with
    | closing aim => exact .inr (.inl ⟨aim, rfl⟩)
    | _ => exact .inr (.inr ⟨late, id, fun _ other => by cases other⟩)
  | leave station free =>
    refine .inr (.inr ⟨late, id, fun aim other => ?_⟩)
    subst other
    cases free
  | ready first leads => cases late
  | turn aim first leads last => exact .inr (.inl ⟨_, rfl⟩)
  | again first disposed => exact .inr (.inl ⟨_, rfl⟩)
  | close aim first => exact .inl rfl
  | conclude first => exact .inl rfl
  | drain first free => exact .inl rfl
  | ask first opened =>
    exact .inr (.inr ⟨late, fun closed => absurd (opened.symm.trans closed) Bool.false_ne_true,
      fun _ other => by cases other⟩)
  | accept payload opened =>
    exact .inr (.inr ⟨late, fun closed => absurd (opened.symm.trans closed) Bool.false_ne_true,
      fun _ other => by cases other⟩)
  | _ => exact .inr (.inr ⟨late, id, fun _ other => by cases other⟩)

/-! ### Steps of the driver -/

/-- What a step of the driver does to the life of the session, or the end of its backoff: it goes on
elsewhere, with the request it had or without one; it takes the first request from the queue; it marks
the session as running, and as ready again; or it is through, and nothing is left in the queue. -/
inductive Serves (l : Life) : Life → Prop
  | switch (driving : Driving) (born : driving ≠ .unborn)
      (serving : l.driving.isServing = true → driving.isServing = true)
      (winding : driving = .closing → l.shutdown = true ∨ l.queue.closed = true)
      (held : ∀ request, driving.held? = some request → l.driving.held? = some request)
      (executing : ∀ request, driving.executing? = some request →
        l.driving.executing? = some request) : Serves l { l with driving := driving }
  | take (request : Request) (rest : List Request) (looking : l.driving = .looking)
      (queued : l.queue.items = request :: rest) :
      Serves l { l with queue := ⟨rest, l.queue.closed⟩, driving := .gated request }
  | mark (request : Request) (marking : l.driving = .marking request) :
      Serves l { l with
        phase := if l.phase = .ready then .running else l.phase
        driving := .attempting request 1 }
  | unmark (unmarking : l.driving = .unmarking) :
      Serves l { l with
        phase := if l.phase = .running then .ready else l.phase
        driving := .waiting }
  | exit (closing : l.driving = .closing) :
      Serves l { l with queue := ⟨[], true⟩, driving := .exited }

/-- The life behind the driver gone elsewhere. -/
theorem Sane.switch (sane : l.Sane) {driving : Driving} (born : driving ≠ .unborn)
    (serving : l.driving.isServing = true → driving.isServing = true)
    (winding : driving = .closing → l.shutdown = true ∨ l.queue.closed = true)
    (held : ∀ request, driving.held? = some request → l.driving.held? = some request)
    (executing : ∀ request, driving.executing? = some request →
      l.driving.executing? = some request) : Sane { l with driving := driving } where
  running := fun running => serving (sane.running running)
  shut := sane.shut
  closed := sane.closed
  winding := winding
  numbered := sane.numbered
  unasked := fun _ unborn => absurd unborn born
  early := fun fresh request member => sane.early fresh request (member.imp id (held request))
  executing := fun calm request other => sane.executing calm request (executing request other)

/-- The life behind the driver's look at the queue. -/
theorem Sane.take (sane : l.Sane) {request : Request} {rest : List Request}
    (looking : l.driving = .looking) (queued : l.queue.items = request :: rest) :
    Sane { l with queue := ⟨rest, l.queue.closed⟩, driving := .gated request } where
  running := fun running => by
    have serving := sane.running running
    rw [looking] at serving
    cases serving
  shut := sane.shut
  closed := sane.closed
  winding := fun other => by cases other
  numbered := sane.numbered
  unasked := fun _ other => by cases other
  early := fun fresh other member => by
    refine sane.early fresh other (.inl ?_)
    rw [queued]
    rcases member with later | now
    · exact List.mem_cons_of_mem request later
    · cases now
      exact List.mem_cons_self
  executing := fun _ request other => by cases other

/-- The life behind the session marked as running. A session that is not started stays so. -/
theorem Sane.mark (sane : l.Sane) {request : Request} (marking : l.driving = .marking request) :
    Sane { l with
      phase := if l.phase = .ready then .running else l.phase
      driving := .attempting request 1 } := by
  have held : l.phase = .notStarted → request = l.question := fun fresh =>
    sane.early fresh request (.inr (by rw [marking]; rfl))
  by_cases ready : l.phase = .ready
  · rw [if_pos ready]
    exact
      { running := fun _ => rfl
        shut := fun fired => by
          have disposed := sane.shut fired
          rw [ready] at disposed
          cases disposed
        closed := fun closed => by
          have late := sane.closed closed
          rw [ready] at late
          cases late
        winding := fun other => by cases other
        numbered := fun _ => sane.numbered (.inl (by rw [ready]; rfl))
        unasked := fun other => by cases other
        early := fun other => by cases other
        executing := fun calm => by rcases calm with other | other <;> cases other }
  · rw [if_neg ready]
    exact
      { running := fun _ => rfl
        shut := sane.shut
        closed := sane.closed
        winding := fun other => by cases other
        numbered := sane.numbered
        unasked := fun _ other => by cases other
        early := fun fresh other member => by
          rcases member with queued | now
          · exact sane.early fresh other (.inl queued)
          · cases now
            exact held fresh
        executing := fun calm other now => by
          cases now
          exact held (calm.resolve_right ready) }

/-- The life behind the session marked as ready again. -/
theorem Sane.unmark (sane : l.Sane) :
    Sane { l with
      phase := if l.phase = .running then .ready else l.phase
      driving := .waiting } := by
  by_cases running : l.phase = .running
  · rw [if_pos running]
    exact
      { running := fun other => by cases other
        shut := fun fired => by
          have disposed := sane.shut fired
          rw [running] at disposed
          cases disposed
        closed := fun closed => by
          have late := sane.closed closed
          rw [running] at late
          cases late
        winding := fun other => by cases other
        numbered := fun _ => sane.numbered (.inl (by rw [running]; rfl))
        unasked := fun other => by cases other
        early := fun other => by cases other
        executing := fun _ request other => by cases other }
  · rw [if_neg running]
    exact
      { running := fun other => absurd other running
        shut := sane.shut
        closed := sane.closed
        winding := fun other => by cases other
        numbered := sane.numbered
        unasked := fun _ other => by cases other
        early := fun fresh request member => by
          rcases member with queued | other
          · exact sane.early fresh request (.inl queued)
          · cases other
        executing := fun _ request other => by cases other }

/-- The life behind the end of the driver. -/
theorem Sane.exit (sane : l.Sane) (closing : l.driving = .closing) :
    Sane { l with queue := ⟨[], true⟩, driving := .exited } where
  running := fun running => by
    have serving := sane.running running
    rw [closing] at serving
    cases serving
  shut := sane.shut
  closed := fun _ => by
    rcases sane.winding closing with fired | closed
    · rw [sane.shut fired]
      rfl
    · exact sane.closed closed
  winding := fun other => by cases other
  numbered := sane.numbered
  unasked := fun _ other => by cases other
  early := fun _ request member => by
    rcases member with queued | other
    · cases queued
    · cases other
  executing := fun _ request other => by cases other

namespace Serves

/-- **Every step of the driver keeps a life sane.** -/
theorem sane (serves : l.Serves m) (sane : l.Sane) : m.Sane := by
  cases serves with
  | switch driving born serving winding held executing =>
    exact sane.switch born serving winding held executing
  | take request rest looking queued => exact sane.take looking queued
  | mark request marking => exact sane.mark marking
  | unmark unmarking => exact sane.unmark
  | exit closing => exact sane.exit closing

/-- The driver exchanges ready and running for each other, and leaves every other phase alone. -/
theorem phase (serves : l.Serves m) : m.phase = l.phase ∨
    l.phase = .ready ∧ m.phase = .running ∨ l.phase = .running ∧ m.phase = .ready := by
  cases serves with
  | mark request marking =>
    by_cases ready : l.phase = .ready
    · exact .inr (.inl ⟨ready, if_pos ready⟩)
    · exact .inl (if_neg ready)
  | unmark unmarking =>
    by_cases running : l.phase = .running
    · exact .inr (.inr ⟨running, if_pos running⟩)
    · exact .inl (if_neg running)
  | _ => exact .inl rfl

/-- A queue that is closed stays closed, and requests keep their numbers. -/
theorem queue (serves : l.Serves m) :
    (l.queue.closed = true → m.queue.closed = true) ∧ m.lastId = l.lastId ∧ m.driving ≠ .unborn := by
  cases serves with
  | switch driving born serving winding held executing => exact ⟨id, rfl, born⟩
  | exit closing => exact ⟨fun _ => rfl, rfl, fun other => by cases other⟩
  | _ => exact ⟨id, rfl, fun other => by cases other⟩

/-- **Every step of the driver leaves the calls standing.** -/
theorem stands (serves : l.Serves m) {station : Station} (stands : station.Stands l) :
    station.Stands m := by
  obtain ⟨closed, number, born⟩ := serves.queue
  have same : ∀ {phase : Phase}, phase ≠ .ready → phase ≠ .running → l.phase = phase →
      m.phase = phase := by
    intro phase unready unrunning here
    rcases serves.phase with same | ⟨ready, _⟩ | ⟨running, _⟩
    · exact same.trans here
    · exact absurd (here.symm.trans ready) unready
    · exact absurd (here.symm.trans running) unrunning
  cases station with
  | aside => trivial
  | opening => exact same (by decide) (by decide) stands
  | asking => exact ⟨same (by decide) (by decide) stands.1, number ▸ stands.2.1, born⟩
  | opened => exact ⟨same (by decide) (by decide) stands.1, number ▸ stands.2⟩
  | pushing =>
    refine ⟨fun fresh => ?_, number ▸ stands.2⟩
    rcases serves.phase with same | ⟨_, running⟩ | ⟨_, ready⟩
    · exact stands.1 (same.symm.trans fresh)
    · rw [fresh] at running
      cases running
    · rw [fresh] at ready
      cases ready
  | pushed result => exact stands
  | closing aim =>
    refine ⟨same ?_ ?_ stands.1, stands.2⟩ <;> rintro rfl <;> cases stands.2
  | cancelling => exact ⟨same (by decide) (by decide) stands.1, closed stands.2⟩
  | shutting => exact ⟨same (by decide) (by decide) stands.1, closed stands.2⟩
  | through => exact same (by decide) (by decide) stands

end Serves

end Life

namespace Session

variable {s t : Session} {caller : Nat}

/-- **What a step of the driver does to the life of the session.** -/
theorem drive_life (moved : s.drive = some t) : s.life.Serves t.life := by
  have elsewhere : ∀ driving : Driving, t.life = { s.life with driving := driving } →
      driving ≠ .unborn → (s.driving.isServing = true → driving.isServing = true) →
      (driving = .closing → s.shutdown = true ∨ s.queue.closed = true) →
      (∀ request, driving.held? = some request → s.driving.held? = some request) →
      (∀ request, driving.executing? = some request → s.driving.executing? = some request) →
      s.life.Serves t.life := by
    intro driving life born serving winding held executing
    rw [life]
    exact .switch driving born serving winding held executing
  cases drives_of_drive moved with
  | withdraw waiting fired =>
    rw [waiting] at elsewhere
    exact elsewhere .closing rfl nofun nofun (fun _ => .inl fired) nofun nofun
  | turn waiting held sought =>
    rw [waiting] at elsewhere
    exact elsewhere .looking rfl nofun nofun nofun nofun nofun
  | take request rest looking queued => exact .take request rest looking queued
  | conclude looking empty closed =>
    rw [looking] at elsewhere
    exact elsewhere .closing rfl nofun nofun (fun _ => .inr closed) nofun nofun
  | wait looking empty opened =>
    rw [looking] at elsewhere
    exact elsewhere .waiting rfl nofun nofun nofun nofun nofun
  | reject request gated fired =>
    rw [gated] at elsewhere
    exact elsewhere .closing rfl nofun nofun (fun _ => .inl fired) nofun nofun
  | mark request gated held free =>
    rw [gated] at elsewhere
    exact elsewhere (.marking request) rfl nofun nofun nofun (fun _ => id) nofun
  | launch request marking => exact .mark request marking
  | relaunch request attempts regated held free =>
    rw [regated] at elsewhere
    exact elsewhere (.attempting request (attempts + 1)) rfl nofun (fun _ => rfl) nofun
      (fun _ => id) (fun _ => id)
  | hear request attempts attempting replying =>
    rw [attempting] at elsewhere
    exact elsewhere (.judging request attempts) rfl nofun (fun _ => rfl) nofun (fun _ => id)
      (fun _ => id)
  | leave request attempts attempting replying =>
    exact elsewhere .unmarking rfl nofun (fun _ => rfl) nofun nofun nofun
  | exhaust request attempts judging concluded =>
    exact elsewhere .unmarking rfl nofun (fun _ => rfl) nofun nofun nofun
  | backOff request attempts judging more =>
    rw [judging] at elsewhere
    exact elsewhere (.backing request attempts s.signals) rfl nofun (fun _ => rfl) nofun
      (fun _ => id) (fun _ => id)
  | retry request attempts signals backing held signalled =>
    rw [backing] at elsewhere
    exact elsewhere (.regated request attempts) rfl nofun (fun _ => rfl) nofun (fun _ => id)
      (fun _ => id)
  | abandon request attempts retrying fired =>
    exact elsewhere .unmarking rfl nofun (fun _ => rfl) nofun nofun nofun
  | unmark unmarking => exact .unmark unmarking
  | exit closing => exact .exit closing

/-- The backoff that ends by itself lets the driver go on with the same request. -/
theorem ring_life (moved : s.ring = some t) : s.life.Serves t.life := by
  unfold ring at moved
  split at moved
  · rename_i request attempts signals backing
    split at moved
    · cases moved
    · cases moved
      refine .switch (.regated request attempts) nofun (fun _ => rfl) nofun ?_ ?_
      · intro other held
        show s.driving.held? = some other
        rw [backing]
        exact held
      · intro other executing
        show s.driving.executing? = some other
        rw [backing]
        exact executing
  · cases moved

/-! ### What a session says of itself -/

/-- A session whose life is sane and in which every call stands where its station says; a session
that accepts no more requests has closed its queue, or a call is about to; and the numbers given to
submissions come behind that of the start's question. -/
structure Alive (s : Session) : Prop where
  sane : s.life.Sane
  stands : ∀ entry ∈ s.calls, entry.2.station.Stands s.life
  closing : s.phase.isLate = true → s.queue.closed = true ∨
    ∃ entry ∈ s.calls, ∃ target, entry.2.station = .closing target
  accepted : ∀ caller id, (caller, .ok (.accepted id)) ∈ s.replies → 1 < id

namespace Alive

/-- A move that concerns neither the life of the session nor its calls. -/
theorem frame (alive : s.Alive) (life : t.life = s.life) (calls : t.calls = s.calls)
    (replies : t.replies = s.replies) : t.Alive where
  sane := life ▸ alive.sane
  stands := by
    rw [life, calls]
    exact alive.stands
  closing := by
    have phase : t.phase = s.phase := congrArg Life.phase life
    have queue : t.queue = s.queue := congrArg Life.queue life
    rw [phase, queue, calls]
    exact alive.closing
  accepted := by
    rw [replies]
    exact alive.accepted

/-- A step of the driver. -/
theorem serves (alive : s.Alive) (serves : s.life.Serves t.life) (calls : t.calls = s.calls)
    (replies : t.replies = s.replies) : t.Alive where
  sane := serves.sane alive.sane
  stands := by
    rw [calls]
    exact fun entry member => serves.stands (alive.stands entry member)
  closing := by
    intro late
    have before : s.phase.isLate = true := by
      have phase : t.phase = s.phase ∨ s.phase = .ready ∧ t.phase = .running ∨
          s.phase = .running ∧ t.phase = .ready := serves.phase
      rcases phase with same | ⟨_, running⟩ | ⟨_, ready⟩
      · exact same ▸ late
      · rw [running] at late
        cases late
      · rw [ready] at late
        cases late
    rw [calls]
    exact (alive.closing before).imp serves.queue.1 id
  accepted := by
    rw [replies]
    exact alive.accepted

end Alive

/-- Only a submission that has got a number returns one. -/
theorem accepted_of_advance {other id : Nat} {call : Call} (moved : s.advanceCall caller call = some t)
    (replied : (other, .ok (.accepted id)) ∈ t.replies) :
    (other, .ok (.accepted id)) ∈ s.replies ∨ call.station = .pushed (.ok id) := by
  have latest : ∀ {u : Session} {reply : Except SessionFailure Reply}, u.replies = s.replies →
      (other, .ok (.accepted id)) ∈ (u.giveBack caller reply).replies →
        (other, .ok (.accepted id)) ∈ s.replies ∨ reply = .ok (.accepted id) := by
    intro u reply same member
    rcases List.mem_append.mp member with before | now
    · exact .inl (same ▸ before)
    · exact .inr (Prod.mk.inj (List.mem_singleton.mp now)).2.symm
  rcases advanceCall_replies moved with same | ⟨reply, returns, rfl⟩ | ⟨rfl, rfl⟩
  · exact .inl (same ▸ replied)
  · refine (latest rfl replied).imp_right fun same => ?_
    cases returns with
    | submit payload result =>
      cases result <;> cases same
      rfl
    | dispose => cases same
    | start result | nested pipeline shape result | resume verb result | abort result =>
      cases result <;> cases same
  · have same : s.pauseEngine.1.replies = s.replies := s.pauseEngine_effect.same_books.2.2.2.2
    refine (latest same replied).imp_right fun other => ?_
    cases result : s.pauseEngine.2 <;> rw [result] at other <;> cases other

/-- **A step of a call keeps what the session says of itself.** -/
theorem Alive.advance (alive : s.Alive) (orderly : s.Orderly) (moved : s.advance caller = some t) :
    t.Alive := by
  obtain ⟨call, next, mine, taken, ages⟩ := advance_life moved
  have stands := alive.stands _ mine
  obtain ⟨sane, mineStands⟩ := ages.step.sane alive.sane stands
  refine ⟨sane, fun entry member => ?_, fun late => ?_, fun other id replied => ?_⟩
  · rw [ages.calls] at member
    rcases mem_callsBehind member with ⟨apart, before⟩ | ⟨later, rfl, rfl⟩
    · refine ages.step.stands_other stands (alive.stands entry before) fun held => ?_
      refine eq_false_of_ne_true fun locked => apart ?_
      exact orderly.eq_of_locked before (locked_of_station locked) held
    · exact mineStands
  · rw [ages.calls]
    rcases ages.step.closing late with closed | ⟨aim, turned⟩ | ⟨before, closed, spares⟩
    · exact .inl closed
    · cases next with
      | none => cases turned
      | some later => exact .inr ⟨_, mem_callsBehind_self mine, aim, turned⟩
    · refine (alive.closing before).imp closed ?_
      rintro ⟨entry, member, aim, closing⟩
      refine ⟨entry, mem_callsBehind_of_ne member fun same => ?_, aim, closing⟩
      have here := orderly.eq_of_number member mine same
      rw [here] at closing
      exact spares aim closing
  · rcases accepted_of_advance taken replied with before | here
    · exact alive.accepted other id before
    · rw [here] at stands
      exact stands id rfl

/-- A call that does not wait any longer stands where it stood. -/
theorem Alive.expire (alive : s.Alive) (orderly : s.Orderly) (moved : s.expire caller = some t) :
    t.Alive := by
  obtain ⟨call, following, mine, expires, rfl⟩ := expires_of_expire moved
  have station := station_of_expires expires
  refine ⟨alive.sane, fun entry member => ?_, fun late => ?_, alive.accepted⟩
  · rcases mem_proceed member with ⟨_, before⟩ | rfl
    · exact alive.stands entry before
    · have stands := alive.stands _ mine
      rw [← station] at stands
      exact stands
  · refine (alive.closing late).imp id ?_
    rintro ⟨entry, member, aim, closing⟩
    by_cases apart : entry.1 = caller
    · have here := orderly.eq_of_number member mine apart
      rw [here] at closing
      exact ⟨_, mem_proceed_self mine, aim, station.trans closing⟩
    · exact ⟨entry, mem_proceed_of_ne member apart, aim, closing⟩

/-- No call has seen anything when it begins. -/
theorem station_call (order : Order) : order.call.station = .aside := by
  cases order <;> rfl

/-- **Every move keeps what the session says of itself**, unless its owner lets go of it. -/
theorem alive_after {move : Move} (alive : s.Alive) (orderly : s.Orderly)
    (owned : move ≠ .drop) (moved : s.after move = some t) : t.Alive := by
  cases move with
  | act actor =>
    cases actor with
    | call caller => exact alive.advance orderly moved
    | listener =>
      have changes := listen_changes moved
      exact alive.frame (by rw [changes]; rfl) (by rw [changes]) (by rw [changes])
    | engine =>
      have changes := compute_changes moved
      exact alive.frame (by rw [changes]; rfl) (by rw [changes]) (by rw [changes])
    | thread =>
      have changes := work_changes moved
      exact alive.frame (by rw [changes]; rfl) (by rw [changes]) (by rw [changes])
    | driver =>
      have changes := drive_changes moved
      exact alive.serves (drive_life moved) (by rw [changes]) (by rw [changes])
    | backoff =>
      have changes := ring_changes moved
      exact alive.serves (ring_life moved) (by rw [changes]) (by rw [changes])
    | timeout caller => exact alive.expire orderly moved
  | order order =>
    cases moved
    refine ⟨alive.sane, fun entry member => ?_, fun late => ?_, alive.accepted⟩
    · rcases List.mem_append.mp member with before | now
      · exact alive.stands entry before
      · obtain rfl := List.mem_singleton.mp now
        show (Order.call order).station.Stands s.life
        rw [station_call]
        trivial
    · refine (alive.closing late).imp id ?_
      rintro ⟨entry, member, closing⟩
      exact ⟨entry, List.mem_append_left _ member, closing⟩
  | host held heldFor present refusal =>
    cases moved
    exact alive.frame rfl rfl rfl
  | outside engine =>
    cases moved
    exact alive.frame rfl rfl rfl
  | drop => exact absurd rfl owned

theorem alive_fresh (settings : Settings) (fallback : Release) (hosted : HostedEngine) :
    (fresh settings fallback hosted).Alive where
  sane :=
    { running := fun other => by cases other
      shut := fun other => by cases other
      closed := fun other => by cases other
      winding := fun other => by cases other
      numbered := fun later => by rcases later with other | other <;> cases other
      unasked := fun _ _ => rfl
      early := fun _ request member => by rcases member with other | other <;> cases other
      executing := fun _ request other => by cases other }
  stands := fun entry member => by cases member
  closing := fun late => by cases late
  accepted := fun caller id replied => by cases replied

end Session

/-- An environment in which nobody lets go of the session. -/
def Environment.Owned (env : Environment) : Prop :=
  ∀ s, ¬ env s .drop

theorem Environment.only_owned (orders : List Order) : (Environment.only orders).Owned := by
  rintro s (⟨actor, other⟩ | ⟨order, _, other⟩) <;> cases other

/-- **A session says the same of itself along every course on which nobody lets go of it.** -/
theorem Course.alive {env : Environment} {s t : Session} {j k : Journal}
    (course : Course env s j k t) (owned : env.Owned) (orderly : s.Orderly) (alive : s.Alive) :
    t.Orderly ∧ t.Alive := by
  refine course.invariant (fun t _ => t.Orderly ∧ t.Alive) ?_ ⟨orderly, alive⟩
  intro t u k move ⟨orderly, alive⟩ allowed moved
  refine ⟨Session.orderly_after orderly moved, Session.alive_after alive orderly ?_ moved⟩
  rintro rfl
  exact owned t allowed

end ShellSession
