/-
**The pause and the stop it stands for.**

While nobody else uses the engine, the session knows of a stop by one token: the report that the
listener has not read yet, then the pause, then the call that has lifted the pause to apply its verb.
There is one token at most, and as long as there is one the engine is in a stop that nobody has left.

* `Session.Linked`: the engine works for the attempt and for the nested executions of the session;
* `Session.tokens`, `Session.Poised`: the tokens of a stop;
* `Session.Attached`, `Session.attached_after`: **every move but those of others keeps to that**;
* `Course.attached`: **the pause stands for a stop, along every course without others**.
-/

import ShellSession.Proofs.Engine.Tickets
import ShellSession.Proofs.Session.Disposal

namespace ShellSession

/-! ### Reports that are not read yet -/

namespace Engine

variable {e f : Engine}

/-- The reports of stops behind those that were read. -/
def unreadStops (e : Engine) (read : Nat) : Nat :=
  (e.history.toList.drop read).countP Notice.isStop

theorem countP_quiet {more : List Notice} (quiet : ∀ notice ∈ more, notice.isStop = false)
    (read : Nat) : (more.drop read).countP Notice.isStop = 0 := by
  refine List.countP_eq_zero.mpr fun notice member => ?_
  rw [quiet notice (List.mem_of_mem_drop member)]
  exact Bool.false_ne_true

/-- What reports no stop adds none to those that are not read. -/
theorem unreadStops_quiet {s : Interpreter} (read : Nat) (quiet : Quiet e.state s) :
    (s.history.toList.drop read).countP Notice.isStop = e.unreadStops read := by
  obtain ⟨more, same, others⟩ := quiet
  unfold unreadStops Engine.history
  rw [same, List.drop_append, List.countP_append, countP_quiet others, Nat.add_zero]

/-- A stop adds one report at most to those that are not read. -/
theorem unreadStops_stop {reached : Interpreter} {stop : Stop} (read : Nat)
    (reports : Quiet e.state reached) (last : f.state = reached.emit (.stopped stop)) :
    f.unreadStops read ≤ e.unreadStops read + 1 := by
  rw [← unreadStops_quiet read reports]
  have pushed : f.history.toList = reached.history.toList ++ [.stopped stop] := by
    unfold Engine.history
    rw [last]
    exact Array.toList_push
  unfold unreadStops
  rw [pushed, List.drop_append, List.countP_append]
  refine Nat.add_le_add_left (Nat.le_trans List.countP_le_length ?_) _
  rw [List.length_drop]
  exact Nat.sub_le 1 _

/-- The more is read, the less is not. -/
theorem unreadStops_le {read further : Nat} (more : read ≤ further) (e : Engine) :
    e.unreadStops further ≤ e.unreadStops read := by
  unfold unreadStops
  rw [show further = read + (further - read) from (Nat.add_sub_cancel' more).symm, ← List.drop_drop]
  exact (List.drop_sublist _ _).countP_le

end Engine

/-! ### What passes through the host -/

namespace HostedEngine

variable {h g : HostedEngine}

/-- A verb that the host lets through is sent into the stop. -/
theorem resume_ok {verb : Verb} (applied : h.resume verb = .ok g) :
    ∃ f, h.engine.resume verb = .ok f ∧ g = { h with engine := f } := by
  unfold resume at applied
  split at applied
  · split at applied
    · cases applied
    · split at applied
      · cases applied
      · rename_i f resumed
        cases applied
        exact ⟨f, resumed, rfl⟩
  · cases applied

/-- A command that the host lets through is sent into the stop. -/
theorem command_ok {pipeline : Pipeline} {ticket : Nat}
    (posted : h.command pipeline = .ok (ticket, g)) :
    ∃ f, h.engine.command pipeline = .ok (ticket, f) ∧ g = { h with engine := f } := by
  unfold command at posted
  split at posted
  · split at posted
    · cases posted
    · rename_i sent f commanded
      cases posted
      exact ⟨f, commanded, rfl⟩
  · cases posted

/-- A pause that the host lets through switches step mode. -/
theorem pause_ok {dialect : Dialect} (switched : h.pause dialect = .ok g) :
    g = { h with engine := h.engine.setStepping true } := by
  unfold pause at switched
  split at switched
  · split at switched
    · cases switched
    · cases switched
      rfl
  · cases switched

/-- A gate leaves the engine as it is. -/
theorem letThrough_engine (h : HostedEngine) : h.letThrough.2.engine = h.engine := by
  unfold letThrough
  split
  · rfl
  · split <;> rfl

/-- A run is begun, or the engine is left as it is. -/
theorem invoke_engine (h : HostedEngine) (pipeline : Pipeline) :
    (∃ error, (h.invoke pipeline).1 = .error error ∧ (h.invoke pipeline).2.engine = h.engine) ∨
      ∃ ticket f, (h.invoke pipeline).1 = .ok ticket ∧ h.engine.invoke pipeline = .ok (ticket, f) ∧
        (h.invoke pipeline).2.engine = f := by
  have engine := h.letThrough_engine
  unfold invoke
  split
  · rename_i other passed
    rw [passed] at engine
    exact .inl ⟨_, rfl, engine⟩
  · rename_i other passed
    rw [passed] at engine
    cases invoked : other.engine.invoke pipeline with
    | error error => exact .inl ⟨error, rfl, engine⟩
    | ok pair =>
      refine .inr ⟨pair.1, pair.2, rfl, ?_, rfl⟩
      rw [← engine]
      exact invoked

/-- A question leaves the engine as it is. -/
theorem askVariable_engine (h : HostedEngine) (name : String) :
    (h.askVariable name).2.engine = h.engine := by
  have engine := h.letThrough_engine
  unfold askVariable
  split <;> rename_i passed <;> rw [passed] at engine <;> exact engine

/-- A question leaves the engine as it is. -/
theorem askRelease_engine (h : HostedEngine) : h.askRelease.2.engine = h.engine := by
  have engine := h.letThrough_engine
  unfold askRelease
  split <;> rename_i passed <;> rw [passed] at engine <;> exact engine

end HostedEngine

/-- What a step of a call does to the engine: nothing; or it sends a verb, as a call that has lifted
the pause, or a command, or switches step mode. -/
inductive Effect.Reach (s : Session) (order : Order) (before : Bool) (t : Session) (after : Bool) :
    Prop
  | none (engine : t.hosted.engine = s.hosted.engine) : Reach s order before t after
  | verb (verb : Verb) (asked : order.verb? = some verb) (had : before = true)
      (loose : after = false) (resumed : s.hosted.engine.resume verb = .ok t.hosted.engine)
      (rest : t = { s with hosted := t.hosted }) : Reach s order before t after
  | command (pipeline : Pipeline) (shape : Shape) (dialect : Dialect) (ticket : Nat)
      (asked : order = .nested pipeline shape)
      (sent : s.hosted.engine.command (dialect.nestedPipeline pipeline) =
        .ok (ticket, t.hosted.engine))
      (rest : t = { s with hosted := t.hosted }) : Reach s order before t after
  | pause (asked : order = .pause)
      (switched : t.hosted.engine = s.hosted.engine.setStepping true)
      (rest : t = { s with hosted := t.hosted }) : Reach s order before t after

theorem Effect.reach {s t : Session} {order : Order} {before after : Bool}
    (effect : Effect s order before t after) : Effect.Reach s order before t after := by
  cases effect with
  | apply verb asked hosted applied =>
    obtain ⟨f, resumed, rfl⟩ := HostedEngine.resume_ok applied
    exact .verb verb asked rfl rfl resumed rfl
  | command pipeline shape asked dialect ticket hosted posted =>
    obtain ⟨f, sent, rfl⟩ := HostedEngine.command_ok posted
    exact .command pipeline shape dialect ticket asked sent rfl
  | pause asked dialect hosted switched =>
    rw [HostedEngine.pause_ok switched]
    exact .pause asked rfl rfl
  | _ => exact .none rfl

/-! ### Tokens -/

/-- A call that has lifted the pause holds the gate. -/
theorem Call.gated_of_grips {call : Call} (grips : call.grips = true) : call.isGated = true := by
  have resuming : ∀ stage : Resuming, stage.grips = true → stage.isGated = true := by
    intro stage grips
    cases stage <;> first | rfl | cases grips
  have aborting : ∀ stage : Aborting, stage.grips = true → stage.isGated = true := by
    intro stage grips
    cases stage with
    | resuming inner => exact resuming inner grips
    | _ => cases grips
  have disposing : ∀ stage : Disposing, stage.grips = true → stage.isGated = true := by
    intro stage grips
    cases stage with
    | aborting inner => exact aborting inner grips
    | _ => cases grips
  unfold Call.grips at grips
  split at grips
  · rename_i stage
    cases stage with
    | failing error inner => exact disposing inner grips
    | _ => cases grips
  · exact resuming _ grips
  · exact aborting _ grips
  · exact disposing _ grips
  · cases grips

/-- How far the listener has read, while it listens. -/
def Listening.read? : Listening → Option Nat
  | reading read => some read
  | publishing read _ => some read
  | _ => none

namespace Session

/-- The stops that the listener has not read yet. -/
def unread (s : Session) : Nat :=
  match s.listening.read? with
  | some read => s.hosted.engine.unreadStops read
  | none => 0

/-- The calls that have lifted the pause and still have to apply their verb, one at most. -/
def gripped (s : Session) : Bool :=
  s.calls.any fun entry => entry.2.grips

/-- The tokens of a stop apart from the calls. -/
def signs (s : Session) : Nat :=
  s.standing.isPaused.toNat + s.unread

/-- The tokens of a stop. -/
def tokens (s : Session) : Nat :=
  s.signs + s.gripped.toNat

/-- There is one token at most, and only as long as the stop is open. -/
structure Poised (s : Session) : Prop where
  single : s.tokens ≤ 1
  opens : 0 < s.tokens → s.hosted.engine.isOpen = true

variable {s t u : Session} {caller : Nat}

/-- Where no token is added, a stop that stays open may keep its token. -/
theorem Poised.of_le (poised : s.Poised) (fewer : t.tokens ≤ s.tokens)
    (stays : s.hosted.engine.isOpen = true → t.hosted.engine.isOpen = true) : t.Poised :=
  ⟨Nat.le_trans fewer poised.single,
    fun some => stays (poised.opens (Nat.lt_of_lt_of_le some fewer))⟩

/-- **A change of the engine adds a token only with a stop that it enters.** -/
theorem Poised.turn (poised : s.Poised) (turn : s.hosted.engine.Turn t.hosted.engine)
    (listening : t.listening = s.listening) (standing : t.standing = s.standing)
    (calls : t.calls = s.calls) : t.Poised := by
  have rest : t.standing.isPaused.toNat = s.standing.isPaused.toNat ∧ t.gripped = s.gripped := by
    unfold gripped
    rw [standing, calls]
    exact ⟨rfl, rfl⟩
  cases turn with
  | quiet reports stays =>
    have unread : t.unread = s.unread := by
      unfold Session.unread
      rw [listening]
      cases s.listening.read? with
      | none => rfl
      | some read => exact Engine.unreadStops_quiet read reports
    refine poised.of_le ?_ stays.trans
    have same : t.tokens = s.tokens := by
      unfold tokens signs
      rw [rest.1, rest.2, unread]
    exact Nat.le_of_eq same
  | stop free opens reached stop reports last inside waits =>
    have unread : t.unread ≤ s.unread + 1 := by
      unfold Session.unread
      rw [listening]
      cases s.listening.read? with
      | none => exact Nat.zero_le _
      | some read => exact Engine.unreadStops_stop read reports last
    have none : s.tokens = 0 := by
      refine Nat.eq_zero_of_not_pos fun some => ?_
      rw [poised.opens some] at free
      cases free
    refine ⟨?_, fun _ => opens⟩
    unfold tokens signs at none ⊢
    rw [rest.1, rest.2]
    omega

/-- **What the listener reads becomes a pause.** -/
theorem Poised.listen (poised : s.Poised) (moved : s.listen = some t) : t.Poised := by
  have same : t.hosted = s.hosted ∧ t.calls = s.calls := by
    rw [listen_changes moved]
    exact ⟨rfl, rfl⟩
  refine poised.of_le ?_ (by rw [same.1]; exact id)
  have gripped : t.gripped = s.gripped := by
    unfold Session.gripped
    rw [same.2]
  unfold tokens
  rw [gripped]
  refine Nat.add_le_add_right ?_ _
  have before : ∀ {read : Nat}, s.listening = .reading read →
      s.unread = s.hosted.engine.unreadStops read := by
    intro read listening
    unfold Session.unread
    rw [listening]
    rfl
  cases listens_of_listen moved with
  | quit read listening fired => exact Nat.le_add_right _ _
  | skip read listening live lag =>
    refine Nat.add_le_add_left ?_ _
    rw [before listening]
    refine Engine.unreadStops_le ?_ s.hosted.engine
    omega
  | take read notice listening near found =>
    have split : s.unread = s.hosted.engine.unreadStops (read + 1) + notice.isStop.toNat := by
      have taken : s.hosted.engine.history.toList[read]? = some notice := by
        rw [Array.getElem?_toList]
        exact found
      obtain ⟨bound, value⟩ := List.getElem?_eq_some_iff.mp taken
      rw [before listening]
      unfold Engine.unreadStops
      rw [List.drop_eq_getElem_cons bound, value, List.countP_cons]
      cases notice.isStop <;> rfl
    unfold signs
    rw [split]
    cases notice with
    | stopped stop =>
      show 1 + s.hosted.engine.unreadStops (read + 1) ≤ _
      simp only [Notice.isStop, Bool.toNat_true]
      omega
    | _ => exact Nat.le_refl _
  | publish read stop listening =>
    unfold signs Session.unread
    rw [listening]
    exact Nat.le_refl _

/-- **A call takes over the token from the pause, and no other call has it then.** -/
theorem gripped_advance (orderly : s.Orderly) {call : Call} {next : Option Call}
    (mine : (caller, call) ∈ s.calls) (advances : s.Advances caller call next t) :
    t.gripped.toNat + call.grips.toNat ≤ s.gripped.toNat + (next.any Call.grips).toNat := by
  -- The other calls are where they were, and none of them grips when this one is at the gate.
  have others : t.gripped = true → next.any Call.grips = false →
      ∃ entry ∈ s.calls, entry.1 ≠ caller ∧ entry.2.grips = true := by
    intro some loose
    obtain ⟨entry, member, grips⟩ := List.any_eq_true.mp some
    rw [advances.calls] at member
    rcases mem_callsBehind member with ⟨apart, old⟩ | ⟨later, same, rfl⟩
    · exact ⟨entry, old, apart, grips⟩
    · rw [same] at loose
      exact absurd (loose.symm.trans grips) Bool.false_ne_true
  have alone : s.gate.head? = some caller → ∀ entry ∈ s.calls, entry.2.grips = true →
      entry.1 = caller := by
    intro first entry member grips
    exact orderly.eq_of_gated member (Call.gated_of_grips grips) (decide_eq_true first)
  have found : ∀ entry ∈ s.calls, entry.2.grips = true → s.gripped = true :=
    fun entry member grips => List.any_eq_true.mpr ⟨entry, member, grips⟩
  cases before : call.grips with
  | true =>
    have first : s.gate.head? = some caller :=
      orderly.gate (caller, call) mine (Call.gated_of_grips before)
    rw [found _ mine before]
    cases after : next.any Call.grips with
    | true => cases t.gripped <;> decide
    | false =>
      cases some : t.gripped with
      | false => decide
      | true =>
        obtain ⟨entry, member, apart, grips⟩ := others some after
        exact absurd (alone first entry member grips) apart
  | false =>
    cases after : next.any Call.grips with
    | false =>
      cases some : t.gripped with
      | false => exact Nat.zero_le _
      | true =>
        obtain ⟨entry, member, _, grips⟩ := others some after
        exact Nat.le_of_eq (by rw [found entry member grips])
    | true => cases t.gripped <;> cases s.gripped <;> decide

/-- What is unread stays so where neither the listener nor the history has changed. -/
theorem unread_eq (listening : t.listening = s.listening)
    (history : t.hosted.engine.history = s.hosted.engine.history) : t.unread = s.unread := by
  unfold unread Engine.unreadStops
  rw [listening, history]

/-- **An effect adds no sign of a stop**, but for the one that its call gives up. -/
theorem signs_effect {order : Order} {before after : Bool} (effect : Effect s order before u after)
    (lawful : s.hosted.engine.Lawful) :
    u.signs + after.toNat ≤ s.signs + before.toNat := by
  cases effect with
  | spawn asked free bound =>
    have none : s.spawn.unread = 0 := by
      show (s.hosted.engine.history.toList.drop s.hosted.engine.history.size).countP _ = 0
      rw [List.drop_eq_nil_of_le (Nat.le_of_eq Array.length_toList)]
      rfl
    unfold signs
    rw [none]
    exact Nat.add_le_add_right (Nat.add_le_add_left (Nat.zero_le _) _) _
  | note stop other verb paused =>
    unfold signs
    rw [paused]
    exact Nat.le_refl _
  | lift stop other paused =>
    unfold signs
    rw [paused]
    show 0 + s.unread + 1 ≤ 1 + s.unread + 0
    omega
  | apply verb asked hosted applied =>
    obtain ⟨f, resumed, rfl⟩ := HostedEngine.resume_ok applied
    have unread := unread_eq (s := s) (t := { s with hosted := { s.hosted with engine := f } }) rfl
      (congrArg Engine.Interpreter.history (Engine.resume_turn lawful resumed).2.1)
    unfold signs
    rw [unread]
    exact Nat.le_succ _
  | slip verb error refused lost => exact Nat.le_succ _
  | restore stop active =>
    unfold signs
    rw [active]
    show 1 + s.unread + 0 ≤ 0 + s.unread + 1
    omega
  | leave paused => exact Nat.le_succ _
  | command pipeline shape asked dialect ticket hosted posted =>
    obtain ⟨f, sent, rfl⟩ := HostedEngine.command_ok posted
    have unread := unread_eq (s := s) (t := { s with hosted := { s.hosted with engine := f } }) rfl
      (congrArg Engine.Interpreter.history (Engine.command_turn lawful sent).2.1)
    unfold signs
    exact Nat.le_of_eq (by rw [unread])
  | pause asked dialect hosted switched =>
    rw [HostedEngine.pause_ok switched]
    have unread := unread_eq (s := s)
      (t := { s with hosted := { s.hosted with engine := s.hosted.engine.setStepping true } }) rfl
      (Engine.setStepping_turn lawful true).2.1
    unfold signs
    exact Nat.le_of_eq (by rw [unread])
  | _ => exact Nat.le_refl _

/-- **A step of a call adds no token**, and it takes the last one away when it applies a verb. -/
theorem Poised.advance (poised : s.Poised) (lawful : s.hosted.engine.Lawful) (orderly : s.Orderly)
    {call : Call} {next : Option Call} (mine : (caller, call) ∈ s.calls)
    (advances : s.Advances caller call next t) : t.Poised := by
  have grips := gripped_advance orderly mine advances
  obtain ⟨u, effect, books⟩ := advances.effect
  have signs : t.signs = u.signs := by rw [books]; rfl
  have engine : t.hosted.engine = u.hosted.engine := by rw [books]
  have fewer := signs_effect effect lawful
  have single := poised.single
  cases effect.reach with
  | none same =>
    refine poised.of_le ?_ (by rw [engine, same]; exact id)
    unfold tokens
    omega
  | verb verb asked had loose resumed rest =>
    -- The stop is closed, and the call has given up its token.
    have unread : u.unread = s.unread := unread_eq (by rw [rest])
      (congrArg Engine.Interpreter.history (Engine.resume_turn lawful resumed).2.1)
    have same : u.signs = s.signs := by
      unfold Session.signs
      rw [unread, rest]
    have none : t.tokens = 0 := by
      rw [had, loose] at grips
      unfold tokens at single ⊢
      simp only [Bool.toNat_true, Bool.toNat_false] at grips
      omega
    refine ⟨by rw [none]; exact Nat.zero_le 1, fun some => ?_⟩
    rw [none] at some
    exact absurd some (Nat.lt_irrefl 0)
  | command pipeline shape dialect ticket asked sent rest =>
    refine poised.of_le ?_ ?_
    · unfold tokens
      omega
    · rw [engine, (Engine.command_turn lawful sent).2.2]
      exact id
  | pause asked switched rest =>
    refine poised.of_le ?_ ?_
    · unfold tokens
      omega
    · rw [engine, switched, (Engine.setStepping_turn lawful true).2.2]
      exact id

end Session

/-! ### Whom the engine works for -/

/-- The engine works for the attempt that the thread waits for, and for nested executions that are
still in progress. -/
structure Session.Linked (s : Session) : Prop where
  lawful : s.hosted.engine.Lawful
  ticketed : s.hosted.engine.Ticketed
  mine : ∀ ticket, s.hosted.engine.main? = some ticket →
    ∃ request next, s.working = .awaiting request ticket next
  awaited : ∀ request ticket next, s.working = .awaiting request ticket next →
    s.hosted.engine.main? = some ticket ∨
      ∃ outcome, s.hosted.engine.result? ticket = some outcome ∧ Engine.Law.quiet.Allows outcome
  asked : ∀ ticket ∈ s.hosted.engine.commands, ∃ entry ∈ s.calls, ∃ pipeline shape,
    entry.2 = .nested pipeline shape (.awaiting ticket)

/-- A nested execution sends a command, and goes on only with its answer. -/
theorem Nesting.step_engine {s t : Session} {caller : Nat} {pipeline : Pipeline} {shape : Shape}
    {stage next : Nesting} (stepped : stage.step caller pipeline shape s = some (t, next)) :
    t.calls = s.calls ∧ t.working = s.working ∧
    (t.hosted.engine = s.hosted.engine ∨ ∃ dialect ticket, next = awaiting ticket ∧
      s.hosted.engine.command (Dialect.nestedPipeline dialect pipeline) =
        .ok (ticket, t.hosted.engine)) ∧
    ∀ ticket, stage = awaiting ticket → (s.hosted.engine.result? ticket).isSome = true := by
  cases goes_of_step stepped with
  | post dialect ticket hosted posted =>
    obtain ⟨f, sent, rfl⟩ := HostedEngine.command_ok posted
    exact ⟨rfl, rfl, .inr ⟨dialect, ticket, rfl, sent⟩, fun _ other => by cases other⟩
  | answer ticket values found =>
    refine ⟨rfl, rfl, .inl rfl, fun other same => ?_⟩
    cases same
    rw [found]
    rfl
  | fail ticket error found =>
    refine ⟨rfl, rfl, .inl rfl, fun other same => ?_⟩
    cases same
    rw [found]
    rfl
  | _ => exact ⟨rfl, rfl, .inl rfl, fun _ other => by cases other⟩

/-- The request that the thread is at work for. -/
def Working.request? : Working → Option Request
  | working request _ => some request
  | awaiting request _ _ => some request
  | _ => none

/-- No step of a call puts the thread to work. -/
theorem Effect.same_working {s t : Session} {order : Order} {before after : Bool}
    (effect : Effect s order before t after) : t.working = s.working := by
  cases effect <;> rfl

namespace Session

variable {s t u : Session} {caller : Nat}

/-- A driver whose attempt is under way waits for it. -/
theorem drive_busy {request : Request} (agree : s.driving.Agrees s.working)
    (busy : s.working.request? = some request) : s.drive = none := by
  cases working : s.working with
  | working other routine =>
    obtain ⟨attempts, attempting⟩ := Desk.attempting_of_working (d := s.desk) agree working
    have driving : s.driving = .attempting other attempts := attempting
    unfold drive
    rw [driving, working]
  | awaiting other ticket next =>
    obtain ⟨attempts, attempting⟩ := Desk.attempting_of_awaiting (d := s.desk) agree working
    have driving : s.driving = .attempting other attempts := attempting
    unfold drive
    rw [driving, working]
  | _ =>
    rw [working] at busy
    cases busy

/-- The thread goes on in a routine, or with the answer that it has waited for. It leaves the engine
alone, unless it begins a run. -/
theorem work_engine (moved : s.work = some t) :
    ((∃ request routine, s.working = .working request routine) ∨
      ∃ request ticket next outcome, s.working = .awaiting request ticket next ∧
        s.hosted.engine.result? ticket = some outcome) ∧
    ((t.hosted.engine = s.hosted.engine ∧
        ∀ request ticket next, t.working ≠ .awaiting request ticket next) ∨
      ∃ request pipeline next ticket, s.working = .working request (.invoke pipeline next) ∧
        s.hosted.engine.invoke pipeline = .ok (ticket, t.hosted.engine) ∧
        t.working = .awaiting request ticket next) := by
  unfold Session.work at moved
  split at moved
  · cases moved
  · rename_i request routine working
    cases moved
    refine ⟨.inl ⟨request, routine, working⟩, ?_⟩
    cases routine with
    | invoke pipeline next =>
      rw [follow]
      have asks := s.hosted.invoke_engine pipeline
      generalize s.hosted.invoke pipeline = asked at asks
      obtain ⟨result, hosted⟩ := asked
      rcases asks with ⟨error, same, engine⟩ | ⟨ticket, f, same, invoked, engine⟩
      · cases same
        exact .inl ⟨engine, fun _ _ _ other => by cases other⟩
      · cases same
        cases engine
        exact .inr ⟨request, pipeline, next, ticket, working, invoked, rfl⟩
    | askVariable name next =>
      exact .inl ⟨s.hosted.askVariable_engine name, fun _ _ _ other => by cases other⟩
    | askRelease next =>
      exact .inl ⟨s.hosted.askRelease_engine, fun _ _ _ other => by cases other⟩
    | _ => exact .inl ⟨rfl, fun _ _ _ other => by cases other⟩
  · rename_i request ticket next working
    obtain ⟨outcome, found, rfl⟩ := Option.map_eq_some_iff.mp moved
    exact ⟨.inr ⟨request, ticket, next, outcome, working, found⟩,
      .inl ⟨rfl, fun _ _ _ other => by cases other⟩⟩
  · cases moved

namespace Linked

/-- A move that concerns neither the engine nor the thread. -/
theorem frame (linked : s.Linked) (engine : t.hosted.engine = s.hosted.engine)
    (working : t.working = s.working)
    (calls : ∀ entry ∈ s.calls, ∀ pipeline shape ticket,
      entry.2 = .nested pipeline shape (.awaiting ticket) → ticket ∈ s.hosted.engine.commands →
        entry ∈ t.calls) : t.Linked := by
  refine ⟨engine ▸ linked.lawful, engine ▸ linked.ticketed, ?_, ?_, ?_⟩
  · rw [engine, working]
    exact linked.mine
  · rw [engine, working]
    exact linked.awaited
  · rw [engine]
    intro ticket sent
    obtain ⟨entry, member, pipeline, shape, waits⟩ := linked.asked ticket sent
    exact ⟨entry, calls entry member pipeline shape ticket waits sent, pipeline, shape, waits⟩

/-- While the thread does not wait for the engine, the engine does nothing for it. -/
theorem idle (linked : s.Linked)
    (free : ∀ request ticket next, s.working ≠ .awaiting request ticket next) :
    s.hosted.engine.main? = none := by
  cases main : s.hosted.engine.main? with
  | none => rfl
  | some ticket =>
    obtain ⟨request, next, waits⟩ := linked.mine ticket main
    exact absurd waits (free request ticket next)

theorem compute (linked : s.Linked) (moved : s.compute = some t) : t.Linked := by
  obtain ⟨f, stepped, rfl⟩ := Option.map_eq_some_iff.mp moved
  obtain ⟨ticketed, answers⟩ := Engine.step_answers linked.lawful linked.ticketed stepped
  refine ⟨(Engine.step_turn linked.lawful stepped).1, ticketed, fun ticket main => ?_,
    fun request ticket next waits => ?_, fun ticket sent => ?_⟩
  · rcases answers.main with same | ⟨none, _⟩
    · exact linked.mine ticket (same.symm.trans main)
    · exact absurd (none.symm.trans main) nofun
  · rcases linked.awaited request ticket next waits with main | ⟨outcome, found, allowed⟩
    · rcases answers.main with same | ⟨_, other, outcome, theirs, found, allowed⟩
      · exact .inl (same.trans main)
      · have alike : other = ticket := Option.some.inj (theirs.symm.trans main)
        exact .inr ⟨outcome, alike ▸ found, allowed⟩
    · exact .inr ⟨outcome, answers.result? found, allowed⟩
  · exact linked.asked ticket (answers.commands ticket sent)

theorem work (linked : s.Linked) (moved : s.work = some t) : t.Linked := by
  have calls : t.calls = s.calls := by rw [work_changes moved]
  obtain ⟨reason, engine⟩ := work_engine moved
  -- The run that was waited for is answered, so the engine has nothing more to do for it.
  have free : s.hosted.engine.main? = none := by
    rcases reason with ⟨request, routine, working⟩ | ⟨request, ticket, next, outcome, working, found⟩
    · exact linked.idle fun _ _ _ other => by rw [working] at other; cases other
    · cases main : s.hosted.engine.main? with
      | none => rfl
      | some other =>
        obtain ⟨_, _, waits⟩ := linked.mine other main
        rw [working] at waits
        cases waits
        rw [linked.ticketed.unanswered (Engine.owed_of_main main)] at found
        cases found
  rcases engine with ⟨same, loose⟩ | ⟨request, pipeline, next, ticket, _, invoked, working⟩
  · refine ⟨same ▸ linked.lawful, same ▸ linked.ticketed, fun ticket main => ?_,
      fun request ticket next waits => absurd waits (loose request ticket next), ?_⟩
    · rw [same, free] at main
      cases main
    · rw [same, calls]
      exact linked.asked
  · obtain ⟨ticketed, _, main, _, _, commands⟩ :=
      Engine.invoke_answers linked.ticketed invoked
    refine ⟨(Engine.invoke_turn linked.lawful invoked).1, ticketed, fun other begun => ?_,
      fun other number later waits => ?_, ?_⟩
    · have alike : ticket = other := Option.some.inj (main.symm.trans begun)
      exact ⟨request, next, alike ▸ working⟩
    · rw [working] at waits
      cases waits
      exact .inl main
    · rw [commands, calls]
      exact linked.asked

theorem drive (linked : s.Linked) (agree : s.driving.Agrees s.working) (moved : s.drive = some t) :
    t.Linked := by
  have free : ∀ request ticket next, s.working ≠ .awaiting request ticket next := by
    intro request ticket next waits
    rw [drive_busy agree (by rw [waits]; rfl)] at moved
    cases moved
  have loose : ∀ request ticket next, t.working ≠ .awaiting request ticket next := by
    intro request ticket next waits
    rcases (drive_frame moved).2.2 with same | rest | ⟨other, attempts, _, works⟩
    · exact free request ticket next (same.symm.trans waits)
    · exact absurd (rest.symm.trans waits) nofun
    · exact absurd (works.symm.trans waits) nofun
  have idle := linked.idle free
  have same : t.hosted = s.hosted ∧ t.calls = s.calls := by
    rw [drive_changes moved]
    exact ⟨rfl, rfl⟩
  refine ⟨same.1 ▸ linked.lawful, same.1 ▸ linked.ticketed, fun ticket main => ?_,
    fun request ticket next waits => absurd waits (loose request ticket next), ?_⟩
  · rw [same.1, idle] at main
    cases main
  · rw [same.1, same.2]
    exact linked.asked

/-- A step of a call that is no nested execution. -/
theorem other_step (linked : s.Linked) (orderly : s.Orderly) {call : Call} {next : Option Call}
    (mine : (caller, call) ∈ s.calls) (advances : s.Advances caller call next t)
    (other : ∀ pipeline shape, call.order ≠ .nested pipeline shape) : t.Linked := by
  obtain ⟨u, effect, books⟩ := advances.effect
  have engine : t.hosted.engine = u.hosted.engine := by rw [books]
  have working : t.working = s.working := by
    rw [books]
    exact effect.same_working
  have calls : ∀ entry ∈ s.calls, ∀ pipeline shape ticket,
      entry.2 = .nested pipeline shape (.awaiting ticket) → entry ∈ t.calls := by
    intro entry member pipeline shape ticket waits
    rw [advances.calls]
    refine mem_callsBehind_of_ne member fun same => ?_
    have alike : entry = (caller, call) := orderly.eq_of_number member mine same
    have nested : call = .nested pipeline shape (.awaiting ticket) := by
      rw [alike] at waits
      exact waits
    refine other pipeline shape ?_
    rw [nested]
    rfl
  have sent : ∀ ticket ∈ s.hosted.engine.commands, ∃ entry ∈ t.calls, ∃ pipeline shape,
      entry.2 = .nested pipeline shape (.awaiting ticket) := by
    intro ticket given
    obtain ⟨entry, member, pipeline, shape, waits⟩ := linked.asked ticket given
    exact ⟨entry, calls entry member pipeline shape ticket waits, pipeline, shape, waits⟩
  cases effect.reach with
  | none same =>
    exact linked.frame (engine.trans same) working
      fun entry member pipeline shape ticket waits _ =>
        calls entry member pipeline shape ticket waits
  | verb verb asked had loose resumed rest =>
    obtain ⟨ticketed, results, main, commands⟩ :=
      Engine.resume_answers linked.ticketed resumed
    refine ⟨engine ▸ (Engine.resume_turn linked.lawful resumed).1, engine ▸ ticketed, ?_, ?_, ?_⟩
    · rw [engine, main, working]
      exact linked.mine
    · unfold Engine.result?
      rw [engine, main, working, results]
      exact linked.awaited
    · rw [engine, commands]
      exact sent
  | command pipeline shape dialect ticket asked posted rest =>
    exact absurd asked (other pipeline shape)
  | pause asked switched rest =>
    obtain ⟨ticketed, main, commands⟩ := Engine.setStepping_answers linked.ticketed true
    rw [← switched, ← engine] at ticketed main commands
    refine ⟨?_, ticketed, ?_, ?_, ?_⟩
    · rw [engine, switched]
      exact (Engine.setStepping_turn linked.lawful true).1
    · rw [main, working]
      exact linked.mine
    · have results : t.hosted.engine.results = s.hosted.engine.results := by
        rw [engine, switched]
        rfl
      unfold Engine.result?
      rw [main, working, results]
      exact linked.awaited
    · rw [commands]
      exact sent

/-- A step of a nested execution. -/
theorem nested_step (linked : s.Linked) (orderly : s.Orderly) {pipeline : Pipeline} {shape : Shape}
    {stage : Nesting} (mine : (caller, .nested pipeline shape stage) ∈ s.calls)
    (moved : s.advanceCall caller (.nested pipeline shape stage) = some t) : t.Linked := by
  by_cases concluded : ∃ result, stage = .finished result
  · obtain ⟨result, rfl⟩ := concluded
    cases moved
    refine linked.frame rfl rfl fun entry member other form ticket waits _ => ?_
    refine List.mem_filter.mpr ⟨member, decide_eq_true fun same => ?_⟩
    have alike := orderly.eq_of_number member mine same
    rw [alike] at waits
    cases waits
  · rw [advanceCall] at moved
    · obtain ⟨⟨u, later⟩, stepped, rfl⟩ := Option.map_eq_some_iff.mp moved
      obtain ⟨calls, working, engine, answered⟩ := Nesting.step_engine stepped
      -- A nested execution that still waits for its answer does not go on.
      have kept : ∀ entry ∈ s.calls, ∀ other form ticket,
          entry.2 = .nested other form (.awaiting ticket) →
          ticket ∈ s.hosted.engine.commands →
          entry ∈ (u.proceed caller (.nested pipeline shape later)).calls := by
        intro entry member other form ticket waits sent
        show entry ∈ u.calls.map _
        rw [calls]
        show entry ∈ s.callsBehind caller (some (.nested pipeline shape later))
        refine mem_callsBehind_of_ne member fun same => ?_
        have alike := orderly.eq_of_number member mine same
        rw [alike] at waits
        cases waits
        have owed : ticket ∈ s.hosted.engine.owed := List.mem_append_right _ sent
        have some := answered ticket rfl
        rw [linked.ticketed.unanswered owed] at some
        cases some
      rcases engine with same | ⟨dialect, ticket, rfl, posted⟩
      · exact linked.frame same working kept
      · obtain ⟨ticketed, results, main, commands⟩ :=
          Engine.command_answers linked.ticketed posted
        refine ⟨(Engine.command_turn linked.lawful posted).1, ticketed, ?_, ?_, ?_⟩
        · show ∀ other, u.hosted.engine.main? = some other → ∃ request next, u.working = _
          rw [main, working]
          exact linked.mine
        · show ∀ request other next, u.working = _ → u.hosted.engine.main? = _ ∨ ∃ outcome,
            u.hosted.engine.results.lookup other = _ ∧ _
          rw [main, working, results]
          exact linked.awaited
        · intro other sent
          rcases commands other sent with old | rfl
          · obtain ⟨entry, member, p, form, waits⟩ := linked.asked other old
            exact ⟨entry, kept entry member p form other waits old, p, form, waits⟩
          · refine ⟨(caller, .nested pipeline shape (.awaiting other)), ?_, pipeline, shape, rfl⟩
            show _ ∈ u.calls.map _
            rw [calls]
            exact mem_callsBehind_self mine
    · exact fun result same => concluded ⟨result, same⟩

end Linked

/-! ### Both along a course -/

/-- The session knows of the engine's stops, and is the only one that uses the engine. -/
structure Attached (s : Session) : Prop where
  orderly : s.Orderly
  linked : s.Linked
  poised : s.Poised

namespace Attached

/-- A move that concerns neither the engine nor its stops. -/
theorem frame (attached : s.Attached) (orderly : t.Orderly)
    (engine : t.hosted.engine = s.hosted.engine) (working : t.working = s.working)
    (standing : t.standing = s.standing) (listening : t.listening = s.listening)
    (nested : ∀ entry ∈ s.calls, ∀ pipeline shape ticket,
      entry.2 = .nested pipeline shape (.awaiting ticket) → entry ∈ t.calls)
    (gripped : t.gripped = true → s.gripped = true) : t.Attached := by
  refine ⟨orderly, attached.linked.frame engine working
    fun entry member pipeline shape ticket waits _ =>
      nested entry member pipeline shape ticket waits, ?_⟩
  refine attached.poised.of_le ?_ (by rw [engine]; exact id)
  have unread : t.unread = s.unread := unread_eq listening (by rw [engine])
  have grips : t.gripped.toNat ≤ s.gripped.toNat := by
    cases some : t.gripped with
    | false => exact Nat.zero_le _
    | true =>
      exact Nat.le_of_eq (by rw [gripped some])
  unfold tokens signs
  rw [standing, unread]
  exact Nat.add_le_add_left grips _

/-! The calls: one goes on, gives up waiting, or begins. -/

theorem advance (attached : s.Attached) (orderly : t.Orderly) (moved : s.advance caller = some t) :
    t.Attached := by
  have linked := attached.linked
  obtain ⟨call, next, found, advances⟩ := advance_advances moved
  have mine := mem_of_lookup found
  refine ⟨orderly, ?_, attached.poised.advance linked.lawful attached.orderly mine advances⟩
  by_cases nested : ∃ pipeline shape stage, call = .nested pipeline shape stage
  · obtain ⟨pipeline, shape, stage, rfl⟩ := nested
    obtain ⟨_, same, moved⟩ := Option.bind_eq_some_iff.mp moved
    rw [found] at same
    cases same
    exact linked.nested_step attached.orderly mine moved
  · refine linked.other_step attached.orderly mine advances fun pipeline shape same => ?_
    cases call with
    | nested pipeline shape stage => exact nested ⟨pipeline, shape, stage, rfl⟩
    | _ => cases same

theorem expire (attached : s.Attached) (orderly : t.Orderly) (moved : s.expire caller = some t) :
    t.Attached := by
  obtain ⟨call, following, mine, expires, rfl⟩ := expires_of_expire moved
  refine attached.frame orderly rfl rfl rfl rfl
    (fun entry member pipeline shape ticket waits => ?_) fun grips => ?_
  · refine mem_proceed_of_ne member fun number => ?_
    rw [attached.orderly.eq_of_number member mine number] at waits
    obtain rfl : call = .nested pipeline shape (.awaiting ticket) := waits
    cases expires
  · obtain ⟨entry, member, some⟩ := List.any_eq_true.mp grips
    rcases mem_proceed member with ⟨_, old⟩ | rfl
    · exact List.any_eq_true.mpr ⟨entry, old, some⟩
    · exact absurd (expires.loose.symm.trans some) Bool.false_ne_true

theorem begin (attached : s.Attached) (order : Order)
    (orderly : (s.begin order.call).2.Orderly) : (s.begin order.call).2.Attached := by
  refine attached.frame orderly rfl rfl rfl rfl
    (fun entry member _ _ _ _ => List.mem_append_left _ member) fun grips => ?_
  obtain ⟨entry, member, some⟩ := List.any_eq_true.mp grips
  rcases List.mem_append.mp member with old | new
  · exact List.any_eq_true.mpr ⟨entry, old, some⟩
  · rw [List.mem_singleton.mp new] at some
    cases order <;> cases some

/-! The parties: each does what is its own. -/

theorem listen (attached : s.Attached) (orderly : t.Orderly) (moved : s.listen = some t) :
    t.Attached := by
  have same := listen_changes moved
  refine ⟨orderly, ?_, attached.poised.listen moved⟩
  exact attached.linked.frame (by rw [same]) (by rw [same]) fun entry member _ _ _ _ _ => by
    rw [same]
    exact member

theorem compute (attached : s.Attached) (orderly : t.Orderly) (moved : s.compute = some t) :
    t.Attached := by
  have same := compute_changes moved
  have stepped : s.hosted.engine.step = some t.hosted.engine := by
    obtain ⟨f, stepped, rfl⟩ := Option.map_eq_some_iff.mp moved
    exact stepped
  refine ⟨orderly, attached.linked.compute moved, ?_⟩
  exact attached.poised.turn (Engine.step_turn attached.linked.lawful stepped).2
    (by rw [same]) (by rw [same]) (by rw [same])

theorem work (attached : s.Attached) (orderly : t.Orderly) (moved : s.work = some t) :
    t.Attached := by
  have same := work_changes moved
  refine ⟨orderly, attached.linked.work moved, ?_⟩
  rcases (work_engine moved).2 with ⟨engine, _⟩ | ⟨_, _, _, _, _, invoked, _⟩
  · have kept : t.tokens = s.tokens := by
      unfold tokens signs Session.gripped Session.unread
      rw [engine, same]
    exact attached.poised.of_le (Nat.le_of_eq kept) (by rw [engine]; exact id)
  · exact attached.poised.turn (Engine.invoke_turn attached.linked.lawful invoked).2 (by rw [same])
      (by rw [same]) (by rw [same])

theorem drive (attached : s.Attached) (agree : s.driving.Agrees s.working) (orderly : t.Orderly)
    (moved : s.drive = some t) : t.Attached := by
  have same := drive_changes moved
  have kept : t.tokens = s.tokens := by
    rw [same]
    rfl
  exact ⟨orderly, attached.linked.drive agree moved,
    attached.poised.of_le (Nat.le_of_eq kept) (by rw [same]; exact id)⟩

end Attached

/-- **As long as nobody else uses the engine, the session knows of its stops.** -/
theorem attached_after {move : Move} (attached : s.Attached)
    (agree : s.driving.Agrees s.working) (alone : ∀ engine, move ≠ .outside engine)
    (moved : s.after move = some t) : t.Attached := by
  have orderly := orderly_after attached.orderly moved
  cases move with
  | act actor =>
    cases actor with
    | call caller => exact attached.advance orderly moved
    | timeout caller => exact attached.expire orderly moved
    | listener => exact attached.listen orderly moved
    | engine => exact attached.compute orderly moved
    | thread => exact attached.work orderly moved
    | driver => exact attached.drive agree orderly moved
    | backoff =>
      have same := ring_changes moved
      exact attached.frame orderly (by rw [same]) (by rw [same]) (by rw [same]) (by rw [same])
        (fun entry member _ _ _ _ => by rw [same]; exact member) (by rw [same]; exact id)
  | order order =>
    cases moved
    exact attached.begin order orderly
  | outside engine => exact absurd rfl (alone engine)
  | host | drop =>
    cases moved
    exact attached.frame orderly rfl rfl rfl rfl (fun entry member _ _ _ _ => member) id

end Session

/-- An engine that does nothing and owes no answer. -/
structure Engine.AtRest (e : Engine) : Prop where
  idle : ∃ s, e.activity = .idle s ∧ s.nested = 0
  inbox : e.inbox = []
  answered : ∀ answer ∈ e.results, answer.1 ≤ e.lastTicket

namespace Engine.AtRest

variable {e : Engine}

theorem owed (rest : e.AtRest) : e.owed = [] := by
  obtain ⟨⟨s, idle, level⟩, inbox, answered⟩ := rest
  rw [Engine.owed_eq idle, inbox]
  rfl

theorem lawful (rest : e.AtRest) : e.Lawful := by
  obtain ⟨⟨s, idle, level⟩, inbox, answered⟩ := rest
  refine ⟨?_, fun _ => inbox⟩
  rw [idle]
  exact level

theorem ticketed (rest : e.AtRest) : e.Ticketed := by
  have none := rest.owed
  refine ⟨?_, ?_, rest.answered⟩
  · rw [none]
    exact List.nodup_nil
  · rw [none]
    exact fun _ member => by cases member

end Engine.AtRest

theorem Session.attached_fresh (settings : Settings) (fallback : Release) {hosted : HostedEngine}
    (rest : hosted.engine.AtRest) : (Session.fresh settings fallback hosted).Attached := by
  obtain ⟨main, commands⟩ := List.append_eq_nil_iff.mp rest.owed
  refine ⟨Session.orderly_fresh settings fallback hosted, ⟨rest.lawful, rest.ticketed,
    fun ticket begun => ?_, nofun, fun ticket sent => ?_⟩, ⟨Nat.zero_le 1, nofun⟩⟩
  · have begun : hosted.engine.main? = some ticket := begun
    rw [begun] at main
    cases main
  · have sent : ticket ∈ hosted.engine.commands := sent
    rw [commands] at sent
    cases sent

/-- An environment in which nobody but the session uses the engine. -/
def Environment.Private (env : Environment) : Prop :=
  ∀ s engine, ¬ env s (.outside engine)

theorem Environment.only_private (orders : List Order) : (Environment.only orders).Private := by
  rintro s engine (⟨actor, other⟩ | ⟨order, _, other⟩) <;> cases other

/-- **The pause stands for a stop of the engine, along every course without others.** -/
theorem Course.attached {env : Environment} {s t : Session} {j k : Journal}
    (course : Course env s j k t) (alone : env.Private) (sound : s.Sound j)
    (attached : s.Attached) : t.Attached := by
  refine (course.invariant (fun t k => t.Sound k ∧ t.Attached) ?_ ⟨sound, attached⟩).2
  rintro t u k move ⟨sound, attached⟩ allowed moved
  exact ⟨sound.after moved, Session.attached_after attached sound.custody.agree
    (fun engine same => alone t engine (same ▸ allowed)) moved⟩

end ShellSession
