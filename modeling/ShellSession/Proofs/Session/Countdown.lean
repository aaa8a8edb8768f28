/-
**A start that is left to itself comes nearer to its end.**

Where nobody else asks anything of a session, its engine is idle and its host holds back no more than a
number of questions, every step brings the start nearer to its end, whoever takes it. A stage of the call
is left for good, and so are the stages of an attempt at its question, but for a busy answer, which uses
up one of the questions that are held back.

* `Starting.remaining`, `Driving.remaining`, `Session.remaining`: how many steps are left at most;
* `Session.Solitary`: a session that is left to one start, and an engine that nobody else makes use of;
* `Session.Spends`: the answers of an engine that holds back a number of questions;
* `Solitary.advance`, `Solitary.drive`, `Solitary.work` and so on: **whoever takes a step, fewer are
  left**.
-/

import ShellSession.Proofs.Session.Chronicle
import ShellSession.Proofs.Session.Equivalence
import ShellSession.Proofs.Session.Inauguration

namespace ShellSession

/-! ### How much is left -/

/-- The steps that a resume has left at most. -/
def Resuming.remaining : Resuming → Nat
  | binding => 8
  | looking => 7
  | entering => 6
  | noting => 5
  | clearing => 4
  | applying _ => 3
  | restoring _ _ => 2
  | leaving _ => 1
  | finished _ => 0

/-- The steps that an abort has left at most. -/
def Aborting.remaining : Aborting → Nat
  | checking => 12
  | resuming stage => 3 + stage.remaining
  | moving => 2
  | closing => 1
  | finished _ => 0

/-- The steps that a dispose has left at most. -/
def Disposing.remaining : Disposing → Nat
  | checking => 21
  | aborting stage => 8 + stage.remaining
  | moving => 7
  | closing => 6
  | cancelling => 5
  | draining => 4
  | awaitingDriver => 3
  | awaitingListener => 2
  | unbinding => 1
  | finished => 0

/-- The steps that a start has left at most, and those that are taken for it by the others, in an engine
that holds back questions for a number of steps. -/
def Starting.remaining (load : Nat) : Starting → Nat
  | checking => load + 69
  | spawning => load + 68
  | asking => load + 63
  | awaiting _ => 27
  | choosing _ => 26
  | recording _ _ => 25
  | moving _ => 24
  | failing _ stage => 2 + stage.remaining
  | finished _ => 1

/-- The steps that a call has left at most. Only starts count. -/
def Call.remaining (load : Nat) : Call → Nat
  | start .entering => load + 70
  | start (.inside stage) => stage.remaining load
  | _ => 0

/-- The steps that are left of an attempt at the question of a start, and behind it. -/
def Working.remaining (load : Nat) : Working → Nat
  | working _ (.askRelease _) => load + 16
  | working _ .busy => load + 23
  | replying true => load + 22
  | working _ (.complete _) => 6
  | replying false => 5
  | _ => 0

/-- The steps that the driver has left at most with what it holds. -/
def Driving.remaining (load : Nat) (working : Working) : Driving → Nat
  | unborn => 0
  | exited => 0
  | closing => 1
  | looking => 2
  | waiting => 3
  | unmarking => 4
  | attempting _ _ => working.remaining load
  | marking _ => load + 17
  | gated _ => load + 18
  | regated _ _ => load + 19
  | backing _ _ _ => load + 20
  | judging _ _ => load + 21

/-- The steps that the listener has left, where there is nothing to read. -/
def Listening.remaining : Listening → Nat
  | reading _ => 1
  | publishing _ _ => 2
  | _ => 0

namespace Session

/-- The steps that are taken for the questions that are still held back. -/
def load (s : Session) : Nat :=
  8 * s.hosted.heldFor

/-- The steps that are taken for the question of a start. -/
def deskRemaining (s : Session) : Nat :=
  (s.load + 30) * s.queue.items.length + s.driving.remaining s.load s.working

/-- The steps of the calls in flight. -/
def callsRemaining (s : Session) : Nat :=
  s.calls.foldr (fun entry rest => entry.2.remaining s.load + rest) 0

/-- The steps that are left at most. -/
def remaining (s : Session) : Nat :=
  s.callsRemaining + s.deskRemaining + s.listening.remaining

end Session

/-! ### Stages -/

section Stages

variable {s t : Session} {caller : Nat}

theorem Resuming.step_remaining {verb : Verb} {stage next : Resuming}
    (stepped : stage.step caller verb s = some (t, next)) : next.remaining < stage.remaining := by
  cases goes_of_step stepped <;> simp [remaining]

theorem Aborting.step_remaining {stage next : Aborting}
    (stepped : stage.step caller s = some (t, next)) : next.remaining < stage.remaining := by
  cases goes_of_step stepped with
  | resume inner later t same => exact Nat.add_lt_add_left (Resuming.step_remaining same) 3
  | _ => simp [remaining, Resuming.remaining]

theorem Disposing.step_remaining {stage next : Disposing}
    (stepped : stage.step caller s = some (t, next)) : next.remaining < stage.remaining := by
  cases goes_of_step stepped with
  | abort inner later t same => exact Nat.add_lt_add_left (Aborting.step_remaining same) 8
  | _ => simp [remaining, Aborting.remaining]

/-- What a step of a dispose leaves to the others is not more than before. -/
theorem Effect.deskRemaining_le {order : Order} {before after : Bool}
    (effect : Effect s order before t after) (shuts : order = .dispose) :
    t.deskRemaining ≤ s.deskRemaining := by
  subst shuts
  cases effect with
  | spawn asked => cases asked
  | accept payload asked => rcases asked with asked | ⟨asked, _⟩ <;> cases asked
  | apply verb asked hosted applied =>
    have held : hosted.heldFor = s.hosted.heldFor := by
      unfold HostedEngine.resume at applied
      split at applied
      · split at applied
        · cases applied
        · split at applied <;> cases applied
          rfl
      · cases applied
    refine Nat.le_of_eq ?_
    unfold Session.deskRemaining Session.load
    rw [held]
  | drain asked free =>
    show (s.load + 30) * 0 + 0 ≤ _
    exact Nat.zero_le _
  | command pipeline shape asked => cases asked
  | pause asked => cases asked
  | record dialect release asked => cases asked
  | _ => exact Nat.le_refl _

/-- Only a start has to do with the listener. -/
theorem Effect.same_listening {order : Order} {before after : Bool}
    (effect : Effect s order before t after) (other : order ≠ .start) :
    t.listening = s.listening := by
  cases effect with
  | spawn asked => exact absurd asked other
  | _ => rfl

/-- **A step of a start comes nearer to its end**, with all that it leaves to the others. -/
theorem Starting.step_remaining {stage next : Starting}
    (stepped : stage.step caller s = some (t, next)) (load : t.hosted.heldFor = s.hosted.heldFor) :
    next.remaining t.load + t.deskRemaining + t.listening.remaining <
      stage.remaining s.load + s.deskRemaining + s.listening.remaining := by
  have same : t.load = s.load := congrArg (8 * ·) load
  rw [same]
  -- Where the others have no more to do than before, the stage alone counts.
  have aside (less : next.remaining s.load < stage.remaining s.load)
      (desk : t.deskRemaining ≤ s.deskRemaining)
      (listening : t.listening.remaining ≤ s.listening.remaining) :
      next.remaining s.load + t.deskRemaining + t.listening.remaining <
        stage.remaining s.load + s.deskRemaining + s.listening.remaining := by omega
  cases goes_of_step stepped with
  | first | late | again | bar =>
    exact aside (by simp only [remaining]; omega) (Nat.le_refl _) (Nat.le_refl _)
  | spawn bound free =>
    have before : s.driving.remaining s.load s.working = 0 := by rw [free]; rfl
    have behind : s.spawn.deskRemaining = (s.load + 30) * s.queue.items.length + 3 := rfl
    have listens : s.spawn.listening.remaining = 1 := rfl
    rw [behind, listens]
    unfold Session.deskRemaining
    simp only [remaining]
    omega
  | ask opened =>
    have longer (request : Request) : (s.load + 30) * (s.queue.items ++ [request]).length =
        (s.load + 30) * s.queue.items.length + (s.load + 30) := by
      rw [List.length_append]
      exact Nat.mul_succ _ _
    show 27 + ((s.load + 30) * (s.queue.items ++ [_]).length +
      s.driving.remaining s.load s.working) + s.listening.remaining <
        s.load + 63 + s.deskRemaining + s.listening.remaining
    rw [longer]
    unfold Session.deskRemaining
    omega
  | refuse closed =>
    exact aside (by simp only [remaining]; omega) (Nat.le_refl _) (Nat.le_refl _)
  | dispose error inner later t moved =>
    have affects : s.Affects .dispose inner.grips t later.grips := Disposing.step_effect rfl moved
    obtain ⟨u, effect, books⟩ := affects
    have desk : t.deskRemaining = u.deskRemaining := by rw [books]; rfl
    have listening : t.listening = s.listening := by
      rw [books]
      exact effect.same_listening fun asked => by cases asked
    exact aside (Nat.add_lt_add_left (Disposing.step_remaining moved) 2)
      (desk ▸ effect.deskRemaining_le rfl) (Nat.le_of_eq (congrArg _ listening))
  | _ => exact aside (by simp [remaining, Disposing.remaining]) (Nat.le_refl _) (Nat.le_refl _)

end Stages

namespace Life.Serves

variable {l m : Life} {request : Request}

/-- The driver puts nothing into the queue. -/
theorem queued (serves : l.Serves m) (member : request ∈ m.queue.items) :
    request ∈ l.queue.items := by
  cases serves with
  | take other rest looking queued =>
    rw [queued]
    exact List.mem_cons_of_mem other member
  | exit closing => cases member
  | _ => exact member

/-- What the driver holds it held before, or it has taken it from the queue. -/
theorem holds (serves : l.Serves m) (held : m.driving.held? = some request) :
    l.driving.held? = some request ∨ request ∈ l.queue.items := by
  cases serves with
  | switch driving born serving winding kept executing => exact .inl (kept request held)
  | take other rest looking queued =>
    cases held
    rw [queued]
    exact .inr List.mem_cons_self
  | mark other marking =>
    cases held
    rw [marking]
    exact .inl rfl
  | unmark unmarking => cases held
  | exit closing => cases held

end Life.Serves

/-! ### A session that is left to one start -/

/-- A dispose that leaves a stop. -/
def Disposing.resumes : Disposing → Bool
  | aborting (.resuming _) => true
  | _ => false

/-- A start that leaves a stop, since it disposes of the session. -/
def Call.resumes : Call → Bool
  | start (.inside (.failing _ stage)) => stage.resumes
  | _ => false

/-- A session that is left to one start, and an engine of which nobody else makes use. -/
structure Session.Solitary (s : Session) (caller : Nat) (e : Engine) : Prop where
  calls : s.calls = [] ∨ ∃ guarded, s.calls = [(caller, .start guarded)]
  calm : ∀ entry ∈ s.calls, entry.2.resumes = false
  engine : s.hosted.engine = e
  free : s.hosted.held = false
  active : s.standing = .active
  reads : s.listening = .unborn ∨ s.listening = .ended ∨
    s.listening = .reading e.history.size
  items : ∀ request ∈ s.queue.items, request = questionOf s.fallback
  hand : ∀ request, s.driving.held? = some request → request = questionOf s.fallback
  sought : s.driving = .looking → s.queue.items ≠ [] ∨ s.queue.closed = true

namespace Session.Solitary

variable {s t : Session} {j : Journal} {caller : Nat} {e : Engine}

/-- The listener has nothing to read, and goes when it is told to. -/
theorem listen (solitary : s.Solitary caller e) (moved : s.listen = some t) :
    t.Solitary caller e ∧ t.remaining < s.remaining := by
  rcases solitary.reads with unborn | ended | reading
  · rw [Session.listen, unborn] at moved
    cases moved
  · rw [Session.listen, ended] at moved
    cases moved
  · have size : s.hosted.engine.history.size = e.history.size := by rw [solitary.engine]
    have short : ¬ listenerCapacity < s.hosted.engine.history.size - e.history.size := by
      rw [size, Nat.sub_self]
      exact Nat.not_lt_zero _
    have read : s.hosted.engine.history[e.history.size]? = none :=
      Array.getElem?_eq_none (Nat.le_of_eq size)
    rw [Session.listen, reading] at moved
    simp only [if_neg short, read, Option.map_none] at moved
    split at moved <;> cases moved
    refine ⟨{ solitary with reads := .inr (.inl rfl) }, ?_⟩
    have before : s.listening.remaining = 1 := by rw [reading]; rfl
    unfold remaining
    rw [before]
    exact Nat.lt_succ_self _

/-- The driver comes nearer to the end of what it holds. -/
theorem drive_remaining (hand : ∀ request, s.driving.held? = some request →
      request = questionOf s.fallback)
    (sought : s.driving = .looking → s.queue.items ≠ [] ∨ s.queue.closed = true)
    (moved : s.drive = some t) : t.deskRemaining < s.deskRemaining := by
  have goes {u : Session} (left : Nat) (same : u.deskRemaining =
      (s.load + 30) * s.queue.items.length + left)
      (less : left < s.driving.remaining s.load s.working) : u.deskRemaining < s.deskRemaining := by
    rw [same]
    exact Nat.add_lt_add_left less _
  cases drives_of_drive moved with
  | withdraw waiting fired => exact goes 1 rfl (by rw [waiting]; exact Nat.le_of_ble_eq_true rfl)
  | turn waiting held found => exact goes 2 rfl (by rw [waiting]; exact Nat.le_refl _)
  | take request rest looking queued =>
    unfold Session.deskRemaining
    rw [looking, queued]
    show (s.load + 30) * rest.length + (s.load + 18) < (s.load + 30) * (rest.length + 1) + 2
    have longer : (s.load + 30) * (rest.length + 1) =
        (s.load + 30) * rest.length + (s.load + 30) := Nat.mul_succ _ _
    omega
  | conclude looking empty closed => exact goes 1 rfl (by rw [looking]; exact Nat.le_refl _)
  | wait looking empty opened =>
    have closed := (sought looking).resolve_left fun some => some empty
    rw [opened] at closed
    cases closed
  | reject request gated fired => exact goes 1 rfl (by rw [gated]; simp [Driving.remaining])
  | mark request gated held free =>
    exact goes (s.load + 17) rfl (by rw [gated]; exact Nat.le_refl _)
  | launch request marking =>
    obtain rfl := hand request (by rw [marking]; rfl)
    exact goes (s.load + 16) rfl (by rw [marking]; exact Nat.le_refl _)
  | relaunch request attempts regated held free =>
    obtain rfl := hand request (by rw [regated]; rfl)
    exact goes (s.load + 16) rfl (by rw [regated]; simp only [Driving.remaining]; omega)
  | hear request attempts attempting replying =>
    exact goes (s.load + 21) rfl (by rw [attempting, replying]; exact Nat.le_refl _)
  | leave request attempts attempting replying =>
    exact goes 4 rfl (by rw [attempting, replying]; exact Nat.le_refl _)
  | exhaust request attempts judging concluded =>
    exact goes 4 rfl (by rw [judging]; simp only [Driving.remaining]; omega)
  | backOff request attempts judging more =>
    exact goes (s.load + 20) rfl (by rw [judging]; exact Nat.le_refl _)
  | retry request attempts signals backing held signalled =>
    exact goes (s.load + 19) rfl (by rw [backing]; exact Nat.le_refl _)
  | abandon request attempts retrying fired =>
    refine goes 4 rfl ?_
    rcases retrying with ⟨signals, driving⟩ | driving <;> rw [driving] <;>
      simp only [Driving.remaining] <;> omega
  | unmark unmarking => exact goes 3 rfl (by rw [unmarking]; exact Nat.le_refl _)
  | exit closing =>
    show (s.load + 30) * 0 + 0 < s.deskRemaining
    unfold Session.deskRemaining
    rw [closing]
    exact Nat.succ_pos _

/-- The driver turns to the queue only when it holds something, or is closed. -/
theorem drive_looking (moved : s.drive = some t) (looking : t.driving = .looking) :
    t.queue.items ≠ [] ∨ t.queue.closed = true := by
  cases drives_of_drive moved with
  | turn waiting held sought => exact sought
  | _ => cases looking

/-- A step of the driver. -/
theorem drive (solitary : s.Solitary caller e) (moved : s.drive = some t) :
    t.Solitary caller e ∧ t.remaining < s.remaining := by
  have changes := drive_changes moved
  have calls : t.calls = s.calls := by rw [changes]
  have hosted : t.hosted = s.hosted := by rw [changes]
  have listening : t.listening = s.listening := by rw [changes]
  have fallback : t.fallback = s.fallback := by rw [changes]
  have less := drive_remaining solitary.hand solitary.sought moved
  have load : t.load = s.load := by
    unfold Session.load
    rw [hosted]
  refine ⟨{
    calls := calls ▸ solitary.calls
    calm := calls ▸ solitary.calm
    engine := hosted ▸ solitary.engine
    free := hosted ▸ solitary.free
    active := by rw [changes]; exact solitary.active
    reads := listening ▸ solitary.reads
    items := ?_
    hand := ?_
    sought := ?_ }, ?_⟩
  · intro request member
    rw [fallback]
    exact solitary.items request ((drive_life moved).queued member)
  · intro request held
    rw [fallback]
    rcases (drive_life moved).holds held with before | queued
    · exact solitary.hand request before
    · exact solitary.items request queued
  · exact drive_looking moved
  · unfold remaining callsRemaining
    rw [calls, load, listening]
    omega

/-- The end of the driver's backoff. -/
theorem ring (solitary : s.Solitary caller e) (moved : s.ring = some t) :
    t.Solitary caller e ∧ t.remaining < s.remaining := by
  unfold Session.ring at moved
  split at moved
  · rename_i request attempts signals backing
    split at moved <;> cases moved
    refine ⟨{ solitary with
      hand := fun other held => solitary.hand other (by rw [backing]; exact held)
      sought := fun other => by cases other }, ?_⟩
    have before : s.deskRemaining = (s.load + 30) * s.queue.items.length + (s.load + 20) := by
      unfold Session.deskRemaining
      rw [backing]
      rfl
    show s.callsRemaining +
      ((s.load + 30) * s.queue.items.length + (s.load + 19)) + s.listening.remaining < s.remaining
    unfold remaining
    rw [before]
    omega
  · cases moved

/-- An attempt that is under way is one at the question of the start. -/
theorem asked (solitary : s.Solitary caller e) (kept : s.Kept j) {answers : List ReleaseAnswer}
    (asks : s.desk.Asks s.fallback answers) {request : Request}
    (busy : s.working.request? = some request) :
    Asked s.settings.retry s.fallback s.driving s.working answers := by
  have custody := kept.sound.custody
  obtain ⟨attempts, driving⟩ : ∃ attempts, s.driving = .attempting request attempts := by
    cases working : s.working with
    | working other routine =>
      rw [working] at busy
      cases busy
      exact Desk.attempting_of_working (d := s.desk) custody.agree working
    | awaiting other ticket next =>
      rw [working] at busy
      cases busy
      exact Desk.attempting_of_awaiting (d := s.desk) custody.agree working
    | _ =>
      rw [working] at busy
      cases busy
  obtain rfl := solitary.hand request (by rw [driving]; rfl)
  have mine : s.desk.inHand = [questionOf s.fallback] := inHand_of_busy driving busy
  have waits : questionOf s.fallback ∈ s.desk.unsettled := by
    refine List.mem_append_left _ ?_
    rw [mine]
    exact List.mem_singleton_self _
  cases asks with
  | unasked none =>
    have below : 1 ≤ s.lastId := custody.bounded _ (custody.accepted_of_unsettled waits)
    have zero : s.lastId = 0 := none
    omega
  | queued queued => exact absurd (custody.inHand_lt mine queued) (Nat.lt_irrefl 1)
  | held asked => exact asked
  | settled result found settles =>
    exact absurd (custody.settled_lt found waits) (Nat.lt_irrefl 1)

end Session.Solitary

/-- An engine whose host holds it back for a number of calls at most is asked for its release. -/
theorem HostedEngine.askRelease_free {h : HostedEngine} (free : h.held = false) :
    h.askRelease = if h.heldFor = 0 then (h.engine.askRelease, h)
      else (.error .busy, { h with heldFor := h.heldFor - 1 }) := by
  have gate : h.letThrough =
      if h.heldFor = 0 then (true, h) else (false, { h with heldFor := h.heldFor - 1 }) := by
    unfold letThrough
    rw [free]
    rfl
  unfold askRelease
  rw [gate]
  by_cases none : h.heldFor = 0
  · rw [if_pos none, if_pos none]
  · rw [if_neg none, if_neg none]

/-- Fewer questions held back leave no more to do. -/
theorem Call.remaining_mono {less more : Nat} (le : less ≤ more) (call : Call) :
    call.remaining less ≤ call.remaining more := by
  cases call with
  | start guarded =>
    cases guarded with
    | entering => exact Nat.add_le_add_right le 70
    | inside stage =>
      cases stage <;>
        simp only [Call.remaining, Starting.remaining, Nat.add_le_add_iff_right, le, Nat.le_refl]
  | _ => exact Nat.le_refl _

namespace Session

variable {s t : Session} {caller : Nat} {e : Engine} {answers : List ReleaseAnswer} {total : Nat}

/-- The answers of an engine that holds back a number of questions: as many busy ones as it does not
hold back any more, or all of them, and its own answer behind. -/
def Spends (s : Session) (total : Nat) (e : Engine) (answers : List ReleaseAnswer) : Prop :=
  (∃ count, answers = busyAnswers count ∧ count + s.hosted.heldFor = total) ∨
    answers = busyAnswers total ++ [e.askRelease]

theorem Spends.answering (spends : s.Spends total e answers) :
    answers <+: busyAnswers total ++ [e.askRelease] := by
  rcases spends with ⟨count, rfl, rfl⟩ | rfl
  · refine ⟨busyAnswers s.hosted.heldFor ++ [e.askRelease], ?_⟩
    unfold busyAnswers
    rw [← List.append_assoc, List.replicate_append_replicate]
  · exact List.prefix_rfl

/-- A move by which the engine is not asked. -/
theorem Spends.frame (spends : s.Spends total e answers)
    (held : t.hosted.heldFor = s.hosted.heldFor) : t.Spends total e answers := by
  unfold Spends
  rw [held]
  exact spends

/-- A question, behind a number of busy answers. -/
theorem Spends.ask {count : Nat} (spends : s.Spends total e (busyAnswers count))
    (solitary : s.Solitary caller e) (idle : e.askRelease ≠ .error .busy)
    (hosted : t.hosted = s.hosted.askRelease.2) :
    t.Spends total e (busyAnswers count ++ [s.hosted.askRelease.1]) := by
  have spent : count + s.hosted.heldFor = total := by
    rcases spends with ⟨other, same, spent⟩ | same
    · have length := congrArg List.length same
      simp only [busyAnswers, List.length_replicate] at length
      rw [length]
      exact spent
    · -- The last answer would be a busy one.
      have length := congrArg List.length same
      simp only [busyAnswers, List.length_replicate, List.length_append, List.length_singleton]
        at length
      have whole : busyAnswers count ++ [] = busyAnswers total ++ [e.askRelease] :=
        (List.append_nil _).trans same
      have below := busyAnswers_lt idle whole
      omega
  unfold Spends
  rw [hosted, HostedEngine.askRelease_free solitary.free, solitary.engine]
  by_cases none : s.hosted.heldFor = 0
  · rw [if_pos none]
    refine .inr ?_
    rw [show count = total by omega]
  · rw [if_neg none]
    refine .inl ⟨count + 1, busyAnswers_succ count, ?_⟩
    show count + 1 + (s.hosted.heldFor - 1) = total
    omega

namespace Solitary

/-- What the thread does concerns its own place, what is written, and the engine. -/
theorem frame_work (solitary : s.Solitary caller e) (moved : s.work = some t)
    (engine : t.hosted.engine = e) (free : t.hosted.held = false) : t.Solitary caller e := by
  have changes := work_changes moved
  rw [changes]
  exact { solitary with engine := engine, free := free }

/-- The thread leaves less to do where less is left of its own attempt. -/
theorem remaining_lt (solitary : s.Solitary caller e) (moved : s.work = some t)
    (lighter : t.load ≤ s.load)
    (left : t.driving.remaining t.load t.working < s.driving.remaining s.load s.working) :
    t.remaining < s.remaining := by
  have changes := work_changes moved
  have same : t.calls = s.calls := by rw [changes]
  have queue : t.queue = s.queue := by rw [changes]
  have listening : t.listening = s.listening := by rw [changes]
  have calls : t.callsRemaining ≤ s.callsRemaining := by
    unfold callsRemaining
    rw [same]
    rcases solitary.calls with none | ⟨guarded, one⟩
    · rw [none]
      exact Nat.le_refl 0
    · rw [one]
      exact Nat.add_le_add_right ((Call.start guarded).remaining_mono lighter) 0
  have queued : (t.load + 30) * t.queue.items.length ≤ (s.load + 30) * s.queue.items.length := by
    rw [queue]
    exact Nat.mul_le_mul_right _ (Nat.add_le_add_right lighter 30)
  unfold remaining deskRemaining
  rw [listening]
  omega

/-- The thread asks the engine, which holds back one question less, or gives its own answer. -/
theorem work_asks {count : Nat} (solitary : s.Solitary caller e)
    (driving : s.driving = .attempting (questionOf s.fallback) (count + 1))
    (thread : s.working = .working (questionOf s.fallback)
      ((Payload.startup s.fallback).attempt (count + 1)))
    (idle : e.askRelease ≠ .error .busy) (spends : s.Spends total e (busyAnswers count))
    (moved : s.work = some t) :
    t.Solitary caller e ∧ t.remaining < s.remaining ∧
      t.Spends total e (busyAnswers count ++ (s.answer? (.act .thread)).toList) := by
  have still := solitary.frame_work moved
  have less := solitary.remaining_lt moved
  have same : t.driving = s.driving := by rw [work_changes moved]
  have answer : s.answer? (.act .thread) = some s.hosted.askRelease.1 := by
    rw [answer?, thread]
    rfl
  rw [Session.work, thread] at moved
  have whole : s.follow (questionOf s.fallback) ((Payload.startup s.fallback).attempt (count + 1)) = t :=
    Option.some.inj moved
  have hosted : t.hosted = s.hosted.askRelease.2 := by rw [← whole]; rfl
  have goes : t.working =
      .working (questionOf s.fallback) (.behindAnswer s.fallback s.hosted.askRelease.1) := by
    rw [← whole]
    rfl
  have spent := spends.ask (t := t) solitary idle hosted
  have asks := HostedEngine.askRelease_free solitary.free
  rw [answer]
  by_cases none : s.hosted.heldFor = 0
  · rw [if_pos none] at asks
    rw [asks] at hosted goes
    have load : t.load = s.load := congrArg (8 * ·.heldFor) hosted
    refine ⟨still (hosted ▸ solitary.engine) (hosted ▸ solitary.free),
      less (Nat.le_of_eq load) ?_, spent⟩
    have left : t.working.remaining t.load = 6 := by
      rw [goes, solitary.engine]
      cases own : e.askRelease with
      | ok release => rfl
      | error error => cases error <;> first | rfl | exact absurd own idle
    rw [same, driving, thread]
    show t.working.remaining t.load < s.load + 16
    omega
  · rw [if_neg none] at asks
    rw [asks] at hosted goes
    have load : t.load = 8 * (s.hosted.heldFor - 1) := congrArg (8 * ·.heldFor) hosted
    have before : s.load = 8 * s.hosted.heldFor := rfl
    refine ⟨still (hosted ▸ solitary.engine) (hosted ▸ solitary.free),
      less (by omega) ?_, spent⟩
    rw [same, driving, thread, goes]
    show t.load + 23 < s.load + 16
    omega

/-- A step of the thread goes on with the question of the start. -/
theorem work (solitary : s.Solitary caller e)
    (asked : Asked s.settings.retry s.fallback s.driving s.working answers)
    (idle : e.askRelease ≠ .error .busy) (spends : s.Spends total e answers)
    (moved : s.work = some t) :
    t.Solitary caller e ∧ t.remaining < s.remaining ∧
      t.Spends total e (answers ++ (s.answer? (.act .thread)).toList) := by
  have still := solitary.frame_work moved
  have less := solitary.remaining_lt moved
  generalize place : s.driving = driver at asked
  generalize thread : s.working = working at asked
  have stuck : s.work = none → False := fun none => by cases none.symm.trans moved
  cases asked with
  | asking count more => exact solitary.work_asks place thread idle spends moved
  | refused count more =>
    have silent : s.answer? (.act .thread) = none := by
      rw [answer?, thread]
      rfl
    rw [Session.work, thread] at moved
    cases moved
    rw [silent]
    refine ⟨still solitary.engine solitary.free, less (Nat.le_refl _) ?_,
      (List.append_nil _).symm ▸ spends.frame rfl⟩
    show s.driving.remaining s.load (.replying true) < s.driving.remaining s.load s.working
    rw [place, thread]
    exact Nat.lt_succ_self _
  | told count last free more =>
    have silent : s.answer? (.act .thread) = none := by
      rw [answer?, thread]
      rfl
    rw [Session.work, thread] at moved
    cases moved
    rw [silent]
    refine ⟨still solitary.engine solitary.free, less (Nat.le_refl _) ?_,
      (List.append_nil _).symm ▸ spends.frame rfl⟩
    show s.driving.remaining s.load (.replying false) < s.driving.remaining s.load s.working
    rw [place, thread]
    exact Nat.lt_succ_self _
  | _ => exact (stuck (by rw [Session.work, thread])).elim

end Solitary

end Session

section Steps

variable {s t u : Session} {caller : Nat} {e : Engine}

/-- Where no stop is left, no pause is lifted. -/
theorem Starting.loose_of_calm {stage : Starting}
    (calm : (Call.start (.inside stage)).resumes = false) : stage.grips = false := by
  cases stage with
  | failing error inner =>
    cases inner with
    | aborting last => cases last <;> first | rfl | cases calm
    | _ => rfl
  | _ => rfl

/-- While there is no stop to be left, none is. -/
theorem Aborting.step_calm {stage next : Aborting} (calm : (Disposing.aborting stage).resumes = false)
    (active : s.standing = .active) (stepped : stage.step caller s = some (t, next)) :
    (Disposing.aborting next).resumes = false := by
  cases goes_of_step stepped with
  | paused alive paused =>
    rw [active] at paused
    cases paused
  | resume inner later t same => cases calm
  | _ => rfl

theorem Disposing.step_calm {stage next : Disposing} (calm : stage.resumes = false)
    (active : s.standing = .active) (stepped : stage.step caller s = some (t, next)) :
    next.resumes = false := by
  cases goes_of_step stepped with
  | abort inner later t same => exact Aborting.step_calm calm active same
  | _ => rfl

theorem Starting.step_calm {stage next : Starting}
    (calm : (Call.start (.inside stage)).resumes = false) (active : s.standing = .active)
    (stepped : stage.step caller s = some (t, next)) :
    (Call.start (.inside next)).resumes = false := by
  cases goes_of_step stepped with
  | dispose error inner later t same => exact Disposing.step_calm calm active same
  | _ => rfl

/-- A start never lets a request of a caller in. -/
theorem Starting.station_ne_pushing (stage : Starting) : stage.station ≠ .pushing := by
  have disposing (inner : Disposing) : inner.station ≠ .pushing := by
    cases inner with
    | aborting last => cases last <;> exact nofun
    | _ => exact nofun
  cases stage with
  | failing error inner => exact disposing inner
  | _ => exact nofun

/-- But for submissions, only the question of a start is put into the queue. -/
theorem Life.Step.items {l m : Life} {held : Bool} {source target : Station}
    (step : l.Step held source m target) (start : source ≠ .pushing) :
    ∀ request ∈ m.queue.items, request ∈ l.queue.items ∨
      source = .asking ∧ request = ⟨l.lastId + 1, .startup l.fallback⟩ := by
  intro request member
  cases step with
  | ask first opened =>
    exact (List.mem_append.mp member).imp_right fun now => ⟨rfl, List.mem_singleton.mp now⟩
  | accept payload opened => exact absurd rfl start
  | drain first free => cases member
  | _ => exact .inl member

/-- What a step of a start does while there is no stop to be left. -/
theorem Effect.of_start {after : Bool} (effect : Effect s .start false u after)
    (active : s.standing = .active)
    (sought : s.driving = .looking → s.queue.items ≠ [] ∨ s.queue.closed = true) :
    u.hosted = s.hosted ∧ u.standing = .active ∧ u.fallback = s.fallback ∧
      (u.listening = s.listening ∨ u.listening = .reading s.hosted.engine.history.size) ∧
      (∀ request, u.driving.held? = some request → s.driving.held? = some request) ∧
      (u.driving = .looking → u.queue.items ≠ [] ∨ u.queue.closed = true) := by
  cases effect with
  | spawn asked free bound =>
    exact ⟨rfl, active, rfl, .inr rfl, (fun _ other => by cases other), fun other => by cases other⟩
  | accept payload asked opened =>
    exact ⟨rfl, active, rfl, .inl rfl, fun _ => id,
      fun _ => .inl (List.append_ne_nil_of_right_ne_nil _ (List.cons_ne_nil _ _))⟩
  | close asked => exact ⟨rfl, active, rfl, .inl rfl, fun _ => id, fun _ => .inr rfl⟩
  | drain asked free =>
    exact ⟨rfl, active, rfl, .inl rfl, (fun _ other => by cases other), fun other => by cases other⟩
  | note stop other verb paused => cases active.symm.trans paused
  | lift stop other paused => cases active.symm.trans paused
  | command pipeline shape asked => cases asked
  | pause asked => cases asked
  | _ => exact ⟨rfl, active, rfl, .inl rfl, fun _ => id, sought⟩

namespace Session

theorem calls_proceed {call later : Call} (single : s.calls = [(caller, call)]) :
    (s.proceed caller later).calls = [(caller, later)] := by
  show s.calls.map _ = _
  rw [single]
  exact congrArg (· :: []) (if_pos rfl)

theorem calls_giveBack {call : Call} (single : s.calls = [(caller, call)])
    (reply : Except SessionFailure Reply) : (s.giveBack caller reply).calls = [] := by
  show s.calls.filter _ = _
  rw [single]
  exact List.filter_cons_of_neg (by simp)

/-- What is left to do where there is one call. -/
theorem remaining_of_single {call : Call} (single : s.calls = [(caller, call)]) :
    s.remaining = call.remaining s.load + s.deskRemaining + s.listening.remaining := by
  unfold remaining callsRemaining
  rw [single]
  rfl

namespace Solitary

/-- The call in a solitary session is the start. -/
theorem mine {other : Nat} {call : Call} (solitary : s.Solitary caller e)
    (member : (other, call) ∈ s.calls) :
    other = caller ∧ ∃ guarded, call = .start guarded ∧ s.calls = [(caller, .start guarded)] := by
  rcases solitary.calls with none | ⟨guarded, one⟩
  · rw [none] at member
    cases member
  · rw [one] at member
    cases List.mem_singleton.mp member
    exact ⟨rfl, guarded, rfl, one⟩

/-- The start goes on with a stage in which it leaves no stop. -/
theorem proceed {call : Call} {guarded : Guarded Starting} (solitary : s.Solitary caller e)
    (single : s.calls = [(caller, call)]) (calm : (Call.start guarded).resumes = false) :
    (s.proceed caller (.start guarded)).Solitary caller e := by
  have calls : (s.proceed caller (.start guarded)).calls = [(caller, .start guarded)] :=
    calls_proceed single
  exact { solitary with
    calls := .inr ⟨guarded, calls⟩
    calm := fun entry member => by
      rw [calls] at member
      cases List.mem_singleton.mp member
      exact calm }

/-- What a stage of the start does besides going on. -/
theorem stage {stage next : Starting} (solitary : s.Solitary caller e)
    (single : s.calls = [(caller, .start (.inside stage))])
    (calm : (Call.start (.inside stage)).resumes = false) (stands : stage.station.Stands s.life)
    (stepped : stage.step caller s = some (t, next)) :
    t.Solitary caller e ∧ t.hosted = s.hosted := by
  have affects : s.Affects .start stage.grips t next.grips := Starting.step_effect stepped
  obtain ⟨u, effect, books⟩ := affects
  rw [Starting.loose_of_calm calm] at effect
  obtain ⟨hosted, active, fallback, reads, hand, sought⟩ :=
    effect.of_start solitary.active solitary.sought
  have question : t.fallback = s.fallback := by rw [books]; exact fallback
  have same : t.hosted = s.hosted := by rw [books]; exact hosted
  have calls : t.calls = s.calls := by rw [books]; exact effect.same_books.2.2.2.1
  have driving : t.driving = u.driving := by rw [books]
  have queue : t.queue = u.queue := by rw [books]
  have listening : t.listening = u.listening := by rw [books]
  refine ⟨{
    calls := .inr ⟨_, calls.trans single⟩
    calm := calls ▸ solitary.calm
    engine := same ▸ solitary.engine
    free := same ▸ solitary.free
    active := by rw [books]; exact active
    reads := ?_
    items := ?_
    hand := ?_
    sought := by rw [driving, queue]; exact sought }, same⟩
  · rw [listening]
    rcases reads with kept | reading
    · rw [kept]
      exact solitary.reads
    · rw [reading, solitary.engine]
      exact .inr (.inr rfl)
  · intro request queued
    rw [question]
    rcases (Starting.step_life stepped).items stage.station_ne_pushing request queued with
      before | ⟨asking, now⟩
    · exact solitary.items request before
    · rw [asking] at stands
      have none : s.lastId = 0 := stands.2.1
      rw [now]
      show (⟨s.lastId + 1, _⟩ : Request) = _
      rw [none]
      rfl
  · intro request held
    rw [question]
    exact solitary.hand request (hand request (driving ▸ held))

/-- A step of the start comes nearer to its end. -/
theorem advance {other : Nat} (solitary : s.Solitary caller e)
    (stands : ∀ entry ∈ s.calls, entry.2.station.Stands s.life) (moved : s.advance other = some t) :
    t.Solitary caller e ∧ t.remaining < s.remaining ∧ t.hosted = s.hosted := by
  obtain ⟨call, found, taken⟩ := Option.bind_eq_some_iff.mp moved
  obtain ⟨rfl, guarded, rfl, one⟩ := solitary.mine (mem_of_lookup found)
  rw [remaining_of_single one]
  rcases advanceStart_cases taken with ⟨rfl, rfl⟩ | ⟨result, rfl, rfl⟩ |
    ⟨stage, u, later, rfl, _, stepped, rfl⟩
  · have lined : (s.enterLifecycle other).Solitary other e := { solitary with }
    have calls : ((s.enterLifecycle other).proceed other (.start (.inside .checking))).calls =
        [(other, .start (.inside .checking))] := calls_proceed one
    refine ⟨lined.proceed one rfl, ?_, rfl⟩
    rw [remaining_of_single calls]
    show s.load + 69 + s.deskRemaining + s.listening.remaining <
      s.load + 70 + s.deskRemaining + s.listening.remaining
    omega
  · have calls : (s.giveBack other (result.map Reply.release)).calls = [] := calls_giveBack one _
    refine ⟨{ solitary with
      calls := .inl calls
      calm := fun entry member => by
        rw [calls] at member
        cases member }, ?_, rfl⟩
    unfold remaining callsRemaining
    rw [calls]
    show 0 + s.deskRemaining + s.listening.remaining < 1 + s.deskRemaining + s.listening.remaining
    omega
  · have calm : (Call.start (.inside stage)).resumes = false := solitary.calm _ (mem_of_lookup found)
    have active := solitary.active
    obtain ⟨solitary, same⟩ := solitary.stage one calm (stands _ (mem_of_lookup found)) stepped
    have single : u.calls = [(other, .start (.inside stage))] :=
      (Starting.step_effect stepped).same_calls.trans one
    refine ⟨solitary.proceed single (Starting.step_calm calm active stepped), ?_, same⟩
    have less := Starting.step_remaining stepped (congrArg HostedEngine.heldFor same)
    rw [remaining_of_single (calls_proceed single)]
    exact less

/-- A start that disposes of the session and does not wait any longer. -/
theorem expire {other : Nat} (solitary : s.Solitary caller e) (moved : s.expire other = some t) :
    t.Solitary caller e ∧ t.remaining < s.remaining ∧ t.hosted = s.hosted := by
  obtain ⟨call, next, mine, expires, rfl⟩ := expires_of_expire moved
  obtain ⟨rfl, guarded, same, one⟩ := solitary.mine mine
  cases expires with
  | dispose expires => cases same
  | @start error now later expires =>
    cases same
    refine ⟨solitary.proceed one (by cases expires <;> rfl), ?_, rfl⟩
    rw [remaining_of_single one, remaining_of_single (calls_proceed one)]
    show 2 + later.remaining + s.deskRemaining + s.listening.remaining <
      2 + now.remaining + s.deskRemaining + s.listening.remaining
    cases expires <;> simp only [Disposing.remaining] <;> omega

end Solitary

end Session

end Steps

end ShellSession
