/-
**How a dispose leaves a stop.**

While a session accepts requests, an abort or a dispose that finds it paused goes through the stages
of a resume, lifts the pause and sends the verb `stop`. Whoever of them comes first to hold the
lifecycle lock does so, and none of them gets past it before.

* `Call.isAhead`: the calls that are before the verb, or do not come to it;
* `Session.Approaching`: a session that is paused while a dispose is on its way;
* `Session.approaching_after`: **every move keeps it so, until the verb is sent**.
-/

import ShellSession.Proofs.Session.Stranded
import ShellSession.Proofs.Session.Released

namespace ShellSession

/-! ### Calls before the verb -/

/-- A resume that has not applied its verb. -/
def Resuming.isAhead : Resuming → Bool
  | binding => true
  | looking => true
  | entering => true
  | noting => true
  | clearing => true
  | applying _ => true
  | _ => false

/-- An abort that has not applied its verb. -/
def Aborting.isAhead : Aborting → Bool
  | checking => true
  | resuming stage => stage.isAhead
  | _ => false

/-- A dispose that has not applied its verb. -/
def Disposing.isAhead : Disposing → Bool
  | checking => true
  | aborting stage => stage.isAhead
  | _ => false

/-- A call that has not applied a verb, and applies none but `stop`. -/
def Call.isAhead : Call → Bool
  | start .entering => true
  | start (.inside .checking) => true
  | start (.inside (.finished _)) => true
  | start _ => false
  | resume _ (.finished _) => true
  | resume _ _ => false
  | abort .entering => true
  | abort (.inside (.finished _)) => true
  | abort (.inside stage) => stage.isAhead
  | dispose .entering => true
  | dispose (.inside stage) => stage.isAhead
  | _ => true

theorem Call.ahead_abort {stage : Aborting} (ahead : stage.isAhead = true) :
    (Call.abort (.inside stage)).isAhead = true := by
  cases stage with
  | finished result => rfl
  | _ => exact ahead

/-- A call that has lifted the pause to send `stop` holds the lifecycle lock. -/
theorem Call.locked_of_ahead {call : Call} (ahead : call.isAhead = true)
    (grips : call.grips = true) : call.isLocked = true := by
  cases call with
  | start stage =>
    cases stage with
    | entering => cases grips
    | inside stage =>
      cases stage with
      | failing error inner => cases ahead
      | _ => cases grips
  | resume verb stage =>
    cases stage with
    | finished result => cases grips
    | _ => cases ahead
  | abort stage =>
    cases stage with
    | entering => cases grips
    | inside stage =>
      cases stage with
      | resuming inner => rfl
      | _ => cases grips
  | dispose stage =>
    cases stage with
    | entering => cases grips
    | inside stage =>
      cases stage with
      | aborting inner => rfl
      | _ => cases grips
  | _ => cases grips

/-- A debugger that is there and accepts verbs. -/
def HostedEngine.Willing (h : HostedEngine) : Prop :=
  h.debuggerPresent = true ∧ h.refusal = none

/-- A willing debugger takes a verb as long as its engine is stopped. -/
theorem HostedEngine.Willing.resume {h : HostedEngine} (willing : h.Willing)
    (inside : h.engine.isStopped = true) (verb : Verb) : ∃ hosted, h.resume verb = .ok hosted := by
  obtain ⟨there, accepts⟩ := willing
  unfold HostedEngine.resume Engine.resume
  rw [if_pos there, accepts, if_pos inside]
  exact ⟨_, rfl⟩

section Stages

variable {s t : Session} {caller : Nat}

/-- What a step before the verb comes to: the verb is sent, by a call that has lifted the pause; or
nothing but the standing and the gate has changed. -/
inductive Session.Nears (s : Session) (had : Bool) (t : Session) (ahead has : Bool) : Prop
  | sent (lifted : had = true) (hosted : HostedEngine)
      (applied : s.hosted.resume .stop = .ok hosted) (same : t = { s with hosted := hosted }) :
      Nears s had t ahead has
  | nearer (loose : had = false) (goes : ahead = true)
      (same : t = { s with standing := t.standing, gate := t.gate }) : Nears s had t ahead has

theorem Session.Nears.imp {had ahead has further : Bool} (nears : s.Nears had t ahead has)
    (goes : ahead = true → further = true) : s.Nears had t further has := by
  cases nears with
  | sent lifted hosted applied same => exact .sent lifted hosted applied same
  | nearer loose before same => exact .nearer loose (goes before) same

/-- A resume that finds the session bound, paused and willing goes on to its verb. -/
theorem Resuming.step_ahead {stage next : Resuming} (ahead : stage.isAhead = true)
    (bound : s.bound = true) (sight : s.standing.isPaused = true ∨ stage.grips = true)
    (willing : ∃ hosted, s.hosted.resume .stop = .ok hosted)
    (stepped : stage.step caller .stop s = some (t, next)) :
    s.Nears stage.grips t next.isAhead next.grips := by
  cases goes_of_step stepped with
  | unbound away => cases bound.symm.trans away
  | active active =>
    rw [sight.resolve_right Bool.false_ne_true] at active
    cases active
  | missed held active =>
    rw [active] at sight
    exact absurd (sight.resolve_right Bool.false_ne_true) Bool.false_ne_true
  | gone active =>
    rw [active] at sight
    exact absurd (sight.resolve_right Bool.false_ne_true) Bool.false_ne_true
  | apply stop hosted applied => exact .sent rfl hosted applied rfl
  | lose stop error refused claims =>
    obtain ⟨hosted, applied⟩ := willing
    cases applied.symm.trans refused
  | fail stop error refused claims =>
    obtain ⟨hosted, applied⟩ := willing
    cases applied.symm.trans refused
  | restore | leave => cases ahead
  | _ => exact .nearer rfl rfl rfl

/-- An abort of a session that accepts requests goes on to its verb. -/
theorem Aborting.step_ahead {stage next : Aborting} (ahead : stage.isAhead = true)
    (accepts : s.phase.accepts = true) (bound : s.bound = true)
    (sight : s.standing.isPaused = true ∨ stage.grips = true)
    (willing : ∃ hosted, s.hosted.resume .stop = .ok hosted)
    (stepped : stage.step caller s = some (t, next)) :
    s.Nears stage.grips t next.isAhead next.grips := by
  cases goes_of_step stepped with
  | late ended => rcases ended with phase | phase <;> rw [phase] at accepts <;> cases accepts
  | early phase =>
    rw [phase] at accepts
    cases accepts
  | paused alive paused => exact .nearer rfl rfl rfl
  | active alive active => cases active.symm.trans (sight.resolve_right Bool.false_ne_true)
  | resume inner later t same => exact Resuming.step_ahead ahead bound sight willing same
  | _ => cases ahead

/-- A dispose of a session that accepts requests goes on to its verb. -/
theorem Disposing.step_ahead {stage next : Disposing} (ahead : stage.isAhead = true)
    (accepts : s.phase.accepts = true) (bound : s.bound = true)
    (sight : s.standing.isPaused = true ∨ stage.grips = true)
    (willing : ∃ hosted, s.hosted.resume .stop = .ok hosted)
    (stepped : stage.step caller s = some (t, next)) :
    s.Nears stage.grips t next.isAhead next.grips := by
  cases goes_of_step stepped with
  | already disposed =>
    rw [disposed] at accepts
    cases accepts
  | busy alive busy => exact .nearer rfl rfl rfl
  | free alive free active => cases active.symm.trans (sight.resolve_right Bool.false_ne_true)
  | abort inner later t same => exact Aborting.step_ahead ahead accepts bound sight willing same
  | _ => cases ahead

/-- A start of a session that accepts requests is refused. -/
theorem Starting.step_accepts {next : Starting} (accepts : s.phase.accepts = true)
    (stepped : checking.step caller s = some (t, next)) :
    t = s ∧ ∃ result, next = finished result := by
  cases goes_of_step stepped with
  | first phase =>
    rw [phase] at accepts
    cases accepts
  | late | again => exact ⟨rfl, _, rfl⟩

end Stages

/-- What the steps of a call leave alone that neither starts, ends nor resumes anything. -/
theorem Effect.of_calm {s t : Session} {order : Order} {before after : Bool}
    (effect : Effect s order before t after) (calm : order.verb? = none) :
    t.phase = s.phase ∧ t.bound = s.bound ∧ (s.hosted.Willing → t.hosted.Willing) := by
  have spares : order.starts = false ∧ order.aborts = false ∧ order.shuts = false := by
    cases order <;> first | exact ⟨rfl, rfl, rfl⟩ | cases calm
  have never : ∀ {flag : Bool}, flag = false → flag = true → False := fun no yes =>
    Bool.false_ne_true (no.symm.trans yes)
  cases effect with
  | moveTo target asked leads =>
    obtain ⟨starts, aborts, shuts⟩ := spares
    cases target with
    | ready => exact (never starts asked).elim
    | aborting => exact (never aborts asked).elim
    | disposed => exact (never shuts asked).elim
    | _ => cases asked
  | unbind asked => exact (never spares.2.2 asked).elim
  | drain asked free => exact (never spares.2.2 asked).elim
  | apply verb asked hosted applied => rw [calm] at asked; cases asked
  | command pipeline shape asked dialect ticket hosted posted =>
    obtain ⟨f, _, rfl⟩ := HostedEngine.command_ok posted
    exact ⟨rfl, rfl, id⟩
  | pause asked dialect hosted switched =>
    rw [HostedEngine.pause_ok switched]
    exact ⟨rfl, rfl, id⟩
  | _ => exact ⟨rfl, rfl, id⟩

namespace Session

variable {s t : Session} {caller : Nat} {move : Move}

/-- The calls before a move: they are still in progress behind it, unless they take a step. -/
theorem mem_before {entry : Nat × Call} (orderly : s.Orderly) (moved : s.after move = some t)
    (member : entry ∈ s.calls) :
    entry ∈ t.calls ∨ move = .act (.call entry.1) ∨
      ∃ now, move = .act (.timeout entry.1) ∧ entry.2.disposing? = some now ∧ 4 ≤ now.progress := by
  cases moves_of_after moved with
  | call caller moved =>
    by_cases mine : entry.1 = caller
    · exact .inr (.inl (by rw [mine]))
    · obtain ⟨_, next, _, advances⟩ := advance_advances moved
      rw [advances.calls]
      exact .inl (mem_callsBehind_of_ne member mine)
  | timeout caller mine expires =>
    by_cases number : entry.1 = caller
    · obtain ⟨now, _, disposing, _, waited⟩ := expires.disposes
      have further := waited.progress
      refine .inr (.inr ⟨now, by rw [number], ?_, by omega⟩)
      rw [orderly.eq_of_number member mine number]
      exact disposing
    · exact .inl (mem_proceed_of_ne member number)
  | order order => exact .inl (List.mem_append_left _ member)
  | driver _ same | listener _ same | aside _ same =>
    rw [same]
    exact .inl member

/-- A session that is paused and accepts requests, in which no call is past the verb, while a dispose
is on its way. -/
structure Approaching (request : Request) (ticket : Nat)
    (next : Except EngineFailure (List Value) → Routine) (stop : Stop) (caller : Nat)
    (s : Session) : Prop where
  parked : s.Parked request ticket next stop
  accepts : s.phase.accepts = true
  bound : s.bound = true
  willing : s.hosted.Willing
  sight : s.standing.isPaused = true ∨ s.gripped = true
  ahead : ∀ entry ∈ s.calls, entry.2.isAhead = true
  going : ∃ stage, (caller, Call.dispose stage) ∈ s.calls

/-- What a step of a call does in such a session: it sends the verb `stop`, or the call does not get
past the verb. -/
inductive Approaches (s : Session) (caller : Nat) (call : Call) (t : Session) : Prop
  | sent (grips : call.grips = true)
      (resumed : s.hosted.engine.resume .stop = .ok t.hosted.engine) :
      Approaches s caller call t
  | nearer (loose : call.grips = false)
      (ahead : ∀ later, (caller, later) ∈ t.calls → later.isAhead = true)
      (phase : t.phase = s.phase) (bound : t.bound = s.bound)
      (willing : s.hosted.Willing → t.hosted.Willing)
      (going : ∀ stage, call = .dispose stage → ∃ later, (caller, Call.dispose later) ∈ t.calls) :
      Approaches s caller call t

/-- A stage of an abort or a dispose that is before the verb. -/
theorem Nears.approaches {u : Session} {call later : Call} (mine : (caller, call) ∈ s.calls)
    (nears : s.Nears call.grips u later.isAhead later.grips)
    (dispose : ∀ stage, call = .dispose stage → ∃ following, later = .dispose following) :
    s.Approaches caller call (u.proceed caller later) := by
  cases nears with
  | sent lifted hosted applied same =>
    obtain ⟨f, resumed, rfl⟩ := HostedEngine.resume_ok applied
    rw [same]
    exact .sent lifted resumed
  | nearer loose goes same =>
    have calls : u.calls = s.calls := by rw [same]
    refine .nearer loose (fun other member => ?_) ?_ ?_ ?_ fun stage asked => ?_
    · rw [eq_of_mem_proceed member]
      exact goes
    · rw [same]
      rfl
    · rw [same]
      rfl
    · rw [same]
      exact id
    · obtain ⟨following, rfl⟩ := dispose stage asked
      refine ⟨following, ?_⟩
      show _ ∈ u.calls.map _
      rw [calls]
      exact mem_callsBehind_self mine

/-- A call that changes nothing but its own place. -/
theorem approaches_of_same {u : Session} {call later : Call} (mine : (caller, call) ∈ s.calls)
    (loose : call.grips = false) (goes : later.isAhead = true)
    (same : u = { s with lifecycle := u.lifecycle })
    (dispose : ∀ stage, call = .dispose stage → ∃ following, later = .dispose following) :
    s.Approaches caller call (u.proceed caller later) := by
  have calls : u.calls = s.calls := by rw [same]
  refine .nearer loose (fun other member => ?_) ?_ ?_ ?_ fun stage asked => ?_
  · rw [eq_of_mem_proceed member]
    exact goes
  · rw [same]
    rfl
  · rw [same]
    rfl
  · rw [same]
    exact id
  · obtain ⟨following, rfl⟩ := dispose stage asked
    refine ⟨following, ?_⟩
    show _ ∈ u.calls.map _
    rw [calls]
    exact mem_callsBehind_self mine

/-- A call that returns. -/
theorem approaches_giveBack {call : Call} (loose : call.grips = false)
    (other : ∀ stage, call ≠ .dispose stage) (reply : Except SessionFailure Reply) :
    s.Approaches caller call (s.giveBack caller reply) :=
  .nearer loose (fun _ member => absurd member (not_mem_giveBack reply)) rfl rfl id
    fun stage same => absurd same (other stage)

namespace Approaching

variable {request : Request} {ticket : Nat} {next : Except EngineFailure (List Value) → Routine}
  {stop : Stop} {disposer : Nat}

/-- A call that holds the lifecycle lock finds the pause, unless it has lifted it. -/
theorem sight_of_holds (approaching : s.Approaching request ticket next stop disposer)
    (orderly : s.Orderly) {call : Call} (mine : (caller, call) ∈ s.calls)
    (held : holds s.lifecycle caller = true) :
    s.standing.isPaused = true ∨ call.grips = true := by
  refine approaching.sight.imp id fun some => ?_
  obtain ⟨entry, member, grips⟩ := List.any_eq_true.mp some
  have locked := Call.locked_of_ahead (approaching.ahead entry member) grips
  have number := orderly.eq_of_locked member locked held
  have alike : entry = (caller, call) := orderly.eq_of_number member mine number
  rw [alike] at grips
  exact grips

/-- **A step of a call sends the verb `stop`, or does not get past it.** -/
theorem approaches (approaching : s.Approaching request ticket next stop disposer)
    (orderly : s.Orderly) {call : Call} (mine : (caller, call) ∈ s.calls)
    (taken : s.advanceCall caller call = some t) : s.Approaches caller call t := by
  have ahead : call.isAhead = true := approaching.ahead _ mine
  have inside : s.hosted.engine.isStopped = true :=
    (Bool.and_eq_true_iff.mp approaching.parked.held.opens).1
  have willing := approaching.willing.resume inside .stop
  cases takes_of_advanceCall taken with
  | line later lines =>
    cases lines with
    | dispose => exact approaches_of_same mine rfl rfl rfl fun _ _ => ⟨_, rfl⟩
    | _ => exact approaches_of_same mine rfl rfl rfl fun _ other => by cases other
  | stage u later goes =>
    have affects := goes.affects
    cases goes with
    | start stage later u held stepped =>
      cases stage with
      | checking =>
        obtain ⟨rfl, _, rfl⟩ := Starting.step_accepts approaching.accepts stepped
        exact approaches_of_same mine rfl rfl rfl fun _ other => by cases other
      | finished result => cases stepped
      | _ => cases ahead
    | resume verb stage later u stepped =>
      cases stage with
      | finished result => cases stepped
      | _ => cases ahead
    | abort stage later u held stepped =>
      have before : stage.isAhead = true := by
        cases stage with
        | finished result => cases stepped
        | _ => exact ahead
      have nears := Aborting.step_ahead before approaching.accepts approaching.bound
        (approaching.sight_of_holds orderly mine held) willing stepped
      have closer : s.Nears _ u (Call.abort (.inside later)).isAhead _ := nears.imp Call.ahead_abort
      exact closer.approaches mine fun _ other => by cases other
    | dispose stage later u held stepped =>
      have nears : s.Nears _ u (Call.dispose (.inside later)).isAhead _ :=
        Disposing.step_ahead ahead approaching.accepts approaching.bound
          (approaching.sight_of_holds orderly mine held) willing stepped
      exact nears.approaches mine fun _ _ => ⟨_, rfl⟩
    | _ =>
      obtain ⟨v, effect, books⟩ := affects
      obtain ⟨phase, bound, willing⟩ := effect.of_calm rfl
      refine .nearer rfl (fun other member => ?_) ?_ ?_ ?_ fun _ same => by cases same
      · rw [eq_of_mem_proceed member]
        rfl
      · rw [books]
        exact phase
      · rw [books]
        exact bound
      · rw [books]
        exact willing
  | reply result returns =>
    cases returns with
    | dispose => cases ahead
    | _ => exact approaches_giveBack rfl (fun _ other => by cases other) _
  | pause asked =>
    subst asked
    obtain ⟨phase, bound, willing⟩ := s.pauseEngine_effect.of_calm rfl
    exact .nearer rfl (fun _ member => absurd member (not_mem_giveBack _)) phase bound willing
      fun _ other => by cases other

/-- No call waits for the parties to go. -/
theorem expire_none (approaching : s.Approaching request ticket next stop disposer) (caller : Nat) :
    s.expire caller = none := by
  cases expired : s.expire caller with
  | none => rfl
  | some t =>
    obtain ⟨call, _, mine, expires, _⟩ := expires_of_expire expired
    have ahead : call.isAhead = true := approaching.ahead _ mine
    cases expires with
    | dispose expires => cases expires <;> cases ahead
    | start error expires => cases ahead

/-- A verb that is sent ends the stop: its caller holds the gate, so no command is in the stop. -/
theorem told (approaching : s.Approaching request ticket next stop disposer)
    (attached : s.Attached) {call : Call} (mine : (caller, call) ∈ s.calls)
    (grips : call.grips = true)
    (resumed : s.hosted.engine.resume .stop = .ok t.hosted.engine) :
    t.hosted.engine.Ending ticket := by
  refine approaching.parked.held.told ?_ resumed
  refine List.eq_nil_iff_forall_not_mem.mpr fun asker sent => ?_
  obtain ⟨entry, member, pipeline, shape, waits⟩ := attached.linked.asked asker sent
  have first := attached.orderly.gate (caller, call) mine (Call.gated_of_grips grips)
  have gated : entry.2.isGated = true := by
    rw [waits]
    rfl
  have number := attached.orderly.eq_of_gated member gated (decide_eq_true first)
  have alike : entry = (caller, call) := attached.orderly.eq_of_number member mine number
  rw [alike] at waits
  have nested : call = .nested pipeline shape (.awaiting asker) := waits
  rw [nested] at grips
  cases grips

end Approaching

end Session

/-- A move that leaves the stop to aborts and disposes: nobody else uses the engine or asks for a
resume, and the debugger stays there and willing. -/
def Move.IsSteady : Move → Prop
  | .order asked => ∀ verb, asked ≠ .resume verb
  | .host _ _ debuggerPresent refusal => debuggerPresent = true ∧ refusal = none
  | .outside _ => False
  | _ => True

namespace Session

variable {s t : Session} {move : Move} {request : Request} {ticket : Nat}
  {next : Except EngineFailure (List Value) → Routine} {stop : Stop} {disposer : Nat}

/-- No call takes the step whose verb is in its hand. -/
def Loose (s : Session) (move : Move) : Prop :=
  ∀ caller call, move = .act (.call caller) → (caller, call) ∈ s.calls → call.grips = false

namespace Approaching

/-- What the call does that takes the step, if one does. -/
theorem step (approaching : s.Approaching request ticket next stop disposer)
    (orderly : s.Orderly) (moved : s.after move = some t) {caller : Nat}
    (same : move = .act (.call caller)) :
    ∃ call, (caller, call) ∈ s.calls ∧ s.Approaches caller call t := by
  subst same
  obtain ⟨call, found, taken⟩ := Option.bind_eq_some_iff.mp moved
  have mine := mem_of_lookup found
  exact ⟨call, mine, approaching.approaches orderly mine taken⟩

/-- The call that takes the step does not get past the verb, where it has none in its hand. -/
theorem nears (approaching : s.Approaching request ticket next stop disposer)
    (orderly : s.Orderly) (loose : s.Loose move) (moved : s.after move = some t) {caller : Nat}
    (same : move = .act (.call caller)) : ∃ call, (caller, call) ∈ s.calls ∧
      (∀ later, (caller, later) ∈ t.calls → later.isAhead = true) ∧
      (t.phase.accepts = true ∧ t.bound = true ∧ t.hosted.Willing) ∧
      ∀ stage, call = .dispose stage → ∃ later, (caller, Call.dispose later) ∈ t.calls := by
  obtain ⟨call, mine, approaches⟩ := approaching.step orderly moved same
  cases approaches with
  | sent grips _ => exact absurd ((loose caller call same mine).symm.trans grips) Bool.false_ne_true
  | nearer _ ahead phase bound willing going =>
    exact ⟨call, mine, ahead, ⟨phase ▸ approaching.accepts, bound.trans approaching.bound,
      willing approaching.willing⟩, going⟩

theorem patient (approaching : s.Approaching request ticket next stop disposer)
    (moved : s.after move = some t) (caller : Nat) : move ≠ .act (.timeout caller) := by
  rintro rfl
  exact absurd ((approaching.expire_none caller).symm.trans moved) nofun

/-- The session goes on to accept requests and to have its engine, and the debugger stays willing. -/
theorem willing_after (approaching : s.Approaching request ticket next stop disposer)
    (attached : s.Attached) (agree : s.driving.Agrees s.working) (steady : move.IsSteady)
    (loose : s.Loose move) (moved : s.after move = some t) :
    t.phase.accepts = true ∧ t.bound = true ∧ t.hosted.Willing := by
  have before := And.intro approaching.accepts (And.intro approaching.bound approaching.willing)
  cases move with
  | act actor =>
    cases actor with
    | call caller =>
      obtain ⟨_, _, _, conditions, _⟩ := approaching.nears attached.orderly loose moved rfl
      exact conditions
    | timeout caller => exact absurd rfl (approaching.patient moved caller)
    | listener => rw [listen_changes moved]; exact before
    | engine =>
      obtain ⟨f, _, rfl⟩ := Option.map_eq_some_iff.mp moved
      exact before
    | thread =>
      exact absurd ((approaching.parked.work_none attached.linked).symm.trans moved) nofun
    | driver =>
      have busy : s.working.request? = some request := by
        rw [approaching.parked.working]
        rfl
      exact absurd ((drive_busy agree busy).symm.trans moved) nofun
    | backoff => rw [ring_changes moved]; exact before
  | host held heldFor present refusal =>
    cases moved
    exact ⟨approaching.accepts, approaching.bound, steady⟩
  | outside engine => exact steady.elim
  | _ =>
    cases moved
    exact before

/-- The pause stays, or the verb in hand. -/
theorem sight_after (approaching : s.Approaching request ticket next stop disposer)
    (orderly : s.Orderly) (loose : s.Loose move) (moved : s.after move = some t) :
    t.standing.isPaused = true ∨ t.gripped = true := by
  rcases approaching.sight with paused | gripped
  · exact paused_after paused moved
  · obtain ⟨entry, member, grips⟩ := List.any_eq_true.mp gripped
    rcases mem_before orderly moved member with kept | same | ⟨_, same, _⟩
    · exact .inr (gripped_of_mem kept grips)
    · exact absurd ((loose _ _ same member).symm.trans grips) Bool.false_ne_true
    · exact absurd same (approaching.patient moved _)

/-- Every call is still before the verb, those that begin included. -/
theorem ahead_after (approaching : s.Approaching request ticket next stop disposer)
    (orderly : s.Orderly) (steady : move.IsSteady) (loose : s.Loose move)
    (moved : s.after move = some t) : ∀ entry ∈ t.calls, entry.2.isAhead = true := by
  intro entry member
  rcases mem_after moved member with old | ⟨_, same, _⟩ | ⟨_, same, _⟩ | ⟨order, same, begun⟩
  · exact approaching.ahead entry old
  · obtain ⟨_, _, ahead, _⟩ := approaching.nears orderly loose moved same
    exact ahead entry.2 member
  · exact absurd same (approaching.patient moved _)
  · rw [begun]
    cases order with
    | resume verb =>
      subst same
      exact absurd rfl (steady verb)
    | _ => rfl

/-- The dispose is still on its way. -/
theorem going_after (approaching : s.Approaching request ticket next stop disposer)
    (orderly : s.Orderly) (loose : s.Loose move) (moved : s.after move = some t) :
    ∃ stage, (disposer, Call.dispose stage) ∈ t.calls := by
  obtain ⟨stage, mine⟩ := approaching.going
  rcases mem_before orderly moved mine with kept | same | ⟨_, same, _⟩
  · exact ⟨stage, kept⟩
  · obtain ⟨call, theirs, _, _, going⟩ := approaching.nears orderly loose moved same
    exact going stage (congrArg Prod.snd (orderly.eq_of_number theirs mine rfl))
  · exact absurd same (approaching.patient moved _)

/-- The step of a call that has the verb in its hand sends it, and ends the stop. -/
theorem sent_after (approaching : s.Approaching request ticket next stop disposer)
    (attached : s.Attached) (agree : s.driving.Agrees s.working) {caller : Nat} {call : Call}
    (moved : s.after (.act (.call caller)) = some t) (mine : (caller, call) ∈ s.calls)
    (grips : call.grips = true) (j : Journal) :
    (j.note s (.act (.call caller)) t).verbs = j.verbs ++ [.stop] ∧
      t.hosted.engine.Ending ticket ∧ t.working = .awaiting request ticket next := by
  obtain ⟨other, theirs, approaches⟩ := approaching.step attached.orderly moved rfl
  have alike : other = call := congrArg Prod.snd (attached.orderly.eq_of_number theirs mine rfl)
  subst alike
  have busy : s.working.request? = some request := by
    rw [approaching.parked.working]
    rfl
  cases approaches with
  | sent _ resumed =>
    exact ⟨j.verbs_resumed resumed, approaching.told attached mine grips resumed,
      (working_after agree busy (fun other => by cases other) moved).trans approaching.parked.working⟩
  | nearer loose _ _ _ _ _ => exact absurd (loose.symm.trans grips) Bool.false_ne_true

end Approaching

/-- **Every steady move keeps a session on its way to the verb, until the verb `stop` is sent.** -/
theorem approaching_after (approaching : s.Approaching request ticket next stop disposer)
    (attached : s.Attached) (agree : s.driving.Agrees s.working) (steady : move.IsSteady)
    (moved : s.after move = some t) (j : Journal) :
    (t.Approaching request ticket next stop disposer ∧ (j.note s move t).verbs = j.verbs) ∨
      (j.note s move t).verbs = j.verbs ++ [.stop] ∧ t.hosted.engine.Ending ticket ∧
        t.working = .awaiting request ticket next := by
  have orderly := attached.orderly
  have alone : ∀ engine, move ≠ .outside engine := by
    rintro engine rfl
    exact steady
  by_cases hand : ∃ caller call, move = .act (.call caller) ∧ (caller, call) ∈ s.calls ∧
      call.grips = true
  · obtain ⟨caller, call, rfl, mine, grips⟩ := hand
    exact .inr (approaching.sent_after attached agree moved mine grips j)
  · have loose : s.Loose move := fun caller call same mine =>
      Bool.eq_false_iff.mpr fun grips => hand ⟨caller, call, same, mine, grips⟩
    obtain ⟨still, verbs⟩ := approaching.parked.after attached.linked agree alone loose moved j
    obtain ⟨accepts, bound, willing⟩ :=
      approaching.willing_after attached agree steady loose moved
    exact .inl ⟨⟨still, accepts, bound, willing, approaching.sight_after orderly loose moved,
      approaching.ahead_after orderly steady loose moved,
      approaching.going_after orderly loose moved⟩, verbs⟩

end Session

end ShellSession
