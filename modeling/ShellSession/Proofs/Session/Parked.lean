/-
**Requests that are parked in a stop.**

As long as nobody sends a verb, the attempt at a request waits for a run that is held in its stop.
Only a call that has lifted the pause sends a verb; so a session in whose calls none ever lifts the
pause again keeps the request parked for ever.

* `Journal.verbs`: the verbs that calls have sent;
* `Session.Touches`: what a move does to the engine;
* `Session.Parked`: a request that is parked in a stop, kept by all moves but verbs;
* `Session.Stranded`: a session in which no call looks for the pause any more;
* `Course.stranded`: **such a session keeps its request parked, whatever is asked of it**.
-/

import ShellSession.Proofs.Engine.Ending
import ShellSession.Proofs.Session.Pause

namespace ShellSession

/-! ### The verbs that are sent -/

/-- The verb of a cue. -/
def Cue.verb? : Cue → Option Verb
  | .verb sent => some sent
  | .pause => none

/-- The verbs that calls have sent into stops. -/
def Journal.verbs (j : Journal) : List Verb :=
  j.cues.filterMap Cue.verb?

/-- The verbs among what is sent into a stop. -/
def Engine.verbsIn (sent : List StopRequest) : List Verb :=
  (sent.filterMap cue?).filterMap Cue.verb?

/-- A step of a call sends the verbs that it has put into the inbox. -/
theorem Journal.verbs_call (j : Journal) (s : Session) (caller : Nat) (t : Session) :
    (j.note s (.act (.call caller)) t).verbs = j.verbs ++
      Engine.verbsIn (t.hosted.engine.inbox.drop s.hosted.engine.inbox.length) := by
  show (j.cues ++ (_ ++ if _ then [Cue.pause] else [])).filterMap Cue.verb? = _
  rw [List.filterMap_append, List.filterMap_append]
  split
  · exact congrArg (j.verbs ++ ·) (List.append_nil _)
  · exact congrArg (j.verbs ++ ·) (List.append_nil _)

/-- Nobody but a call sends verbs. -/
theorem Journal.verbs_other (j : Journal) (s : Session) {move : Move} (t : Session)
    (other : ∀ caller, move ≠ .act (.call caller)) : (j.note s move t).verbs = j.verbs := by
  have none : s.hosted.engine.newCues move t.hosted.engine = [] := by
    unfold Engine.newCues
    split
    · exact absurd rfl (other _)
    · rfl
  show (j.cues ++ s.hosted.engine.newCues move t.hosted.engine).filterMap Cue.verb? = _
  rw [none, List.append_nil]
  rfl

/-- A call that leaves the inbox as it is sends no verb. -/
theorem Journal.verbs_same (j : Journal) {s t : Session} {caller : Nat}
    (inbox : t.hosted.engine.inbox = s.hosted.engine.inbox) :
    (j.note s (.act (.call caller)) t).verbs = j.verbs := by
  rw [verbs_call, inbox, List.drop_length]
  exact List.append_nil _

/-- A call that sends one request into a stop. -/
theorem Journal.verbs_sent (j : Journal) {s t : Session} {caller : Nat}
    {request : Engine.StopRequest}
    (inbox : t.hosted.engine.inbox = s.hosted.engine.inbox ++ [request]) :
    (j.note s (.act (.call caller)) t).verbs = j.verbs ++ Engine.verbsIn [request] := by
  rw [verbs_call, inbox, List.drop_left]

/-- A call that sends a verb. -/
theorem Journal.verbs_resumed (j : Journal) {s t : Session} {caller : Nat} {verb : Verb}
    (resumed : s.hosted.engine.resume verb = .ok t.hosted.engine) :
    (j.note s (.act (.call caller)) t).verbs = j.verbs ++ [verb] := by
  unfold Engine.resume at resumed
  split at resumed
  · injection resumed with whole
    have inbox : t.hosted.engine.inbox = s.hosted.engine.inbox ++ [.verb verb] := by rw [← whole]
    rw [j.verbs_sent inbox]
    rfl
  · cases resumed

/-! ### The pause -/

/-- Only a call that has a verb in hand then lifts the pause. -/
theorem Effect.paused {s t : Session} {order : Order} {before after : Bool}
    (effect : Effect s order before t after) (paused : s.standing.isPaused = true) :
    t.standing.isPaused = true ∨ after = true := by
  cases effect with
  | note stop other verb held => exact .inl rfl
  | lift stop other held => exact .inr rfl
  | restore stop active => exact .inl rfl
  | _ => exact .inl paused

/-! ### What a move does to the engine -/

/-- What a move does to the engine, as long as nobody else uses it. -/
inductive Session.Touches (s : Session) : Move → Session → Prop
  | none {move : Move} {t : Session} (engine : t.hosted.engine = s.hosted.engine) : Touches s move t
  | step {t : Session} (stepped : s.hosted.engine.step = some t.hosted.engine) :
      Touches s (.act .engine) t
  | invoke {t : Session} (request : Request) (pipeline : Pipeline)
      (next : Except EngineFailure (List Value) → Routine) (ticket : Nat)
      (working : s.working = .working request (.invoke pipeline next))
      (invoked : s.hosted.engine.invoke pipeline = .ok (ticket, t.hosted.engine)) :
      Touches s (.act .thread) t
  | command {t : Session} (caller : Nat) (call : Call) (mine : (caller, call) ∈ s.calls)
      (nested : ∃ pipeline shape, call.order = .nested pipeline shape) (pipeline : Pipeline)
      (ticket : Nat) (sent : s.hosted.engine.command pipeline = .ok (ticket, t.hosted.engine)) :
      Touches s (.act (.call caller)) t
  | pause {t : Session} (caller : Nat)
      (switched : t.hosted.engine = s.hosted.engine.setStepping true) :
      Touches s (.act (.call caller)) t
  | verb {t : Session} (caller : Nat) (call : Call) (mine : (caller, call) ∈ s.calls)
      (grips : call.grips = true) (verb : Verb) (asked : call.order.verb? = some verb)
      (resumed : s.hosted.engine.resume verb = .ok t.hosted.engine) :
      Touches s (.act (.call caller)) t

namespace Session

variable {s t : Session} {move : Move}

theorem touches_after (alone : ∀ engine, move ≠ .outside engine) (moved : s.after move = some t) :
    s.Touches move t := by
  cases move with
  | act actor =>
    cases actor with
    | call caller =>
      obtain ⟨call, next, found, advances⟩ := advance_advances moved
      obtain ⟨u, effect, books⟩ := advances.effect
      have engine : t.hosted.engine = u.hosted.engine := by rw [books]
      cases effect.reach with
      | none same => exact .none (engine.trans same)
      | verb verb asked had loose resumed rest =>
        exact .verb caller call (mem_of_lookup found) had verb asked (engine ▸ resumed)
      | command pipeline shape dialect ticket asked sent rest =>
        exact .command caller call (mem_of_lookup found) ⟨pipeline, shape, asked⟩ _ ticket
          (engine ▸ sent)
      | pause asked switched rest => exact .pause caller (engine.trans switched)
    | listener => exact .none (by rw [listen_changes moved])
    | engine =>
      obtain ⟨f, stepped, rfl⟩ := Option.map_eq_some_iff.mp moved
      exact .step stepped
    | thread =>
      rcases (work_engine moved).2 with ⟨same, _⟩ |
        ⟨request, pipeline, next, ticket, working, invoked, _⟩
      · exact .none same
      · exact .invoke request pipeline next ticket working invoked
    | driver => exact .none (by rw [drive_changes moved])
    | backoff => exact .none (by rw [ring_changes moved])
    | timeout caller => exact .none (by rw [expire_books moved])
  | outside engine => exact absurd rfl (alone engine)
  | _ =>
    cases moved
    exact .none rfl

/-- A move sends no verb, or one verb as the step of a call that has lifted the pause. -/
theorem Touches.verbs (touches : s.Touches move t) (j : Journal) :
    (j.note s move t).verbs = j.verbs ∨ ∃ caller call verb, move = .act (.call caller) ∧
      (caller, call) ∈ s.calls ∧ call.grips = true ∧ call.order.verb? = some verb ∧
      s.hosted.engine.resume verb = .ok t.hosted.engine ∧
      (j.note s move t).verbs = j.verbs ++ [verb] := by
  cases touches with
  | none engine =>
    by_cases other : ∃ caller, move = .act (.call caller)
    · obtain ⟨caller, rfl⟩ := other
      exact .inl (j.verbs_same (by rw [engine]))
    · exact .inl (j.verbs_other s t fun caller same => other ⟨caller, same⟩)
  | step stepped => exact .inl (j.verbs_other s t fun _ other => by cases other)
  | invoke request pipeline next ticket working invoked =>
    exact .inl (j.verbs_other s t fun _ other => by cases other)
  | command caller call mine nested pipeline ticket sent =>
    refine .inl ?_
    unfold Engine.command at sent
    split at sent
    · injection sent with pair
      injection pair with given whole
      have inbox : t.hosted.engine.inbox = s.hosted.engine.inbox ++ [.command ticket pipeline] := by
        rw [← whole, ← given]
      rw [j.verbs_sent inbox]
      exact List.append_nil _
    · cases sent
  | pause caller switched =>
    exact .inl (j.verbs_same (by rw [switched]; rfl))
  | verb caller call mine grips verb asked resumed =>
    exact .inr ⟨caller, call, verb, rfl, mine, grips, asked, resumed, j.verbs_resumed resumed⟩

/-- As long as the thread is at work, nobody but the thread itself changes what it does. -/
theorem working_after {request : Request} (agree : s.driving.Agrees s.working)
    (busy : s.working.request? = some request) (other : move ≠ .act .thread)
    (moved : s.after move = some t) : t.working = s.working := by
  cases move with
  | act actor =>
    cases actor with
    | call caller =>
      obtain ⟨_, _, _, advances⟩ := advance_advances moved
      obtain ⟨u, effect, books⟩ := advances.effect
      rw [books]
      exact effect.same_working
    | listener => rw [listen_changes moved]
    | engine => rw [compute_changes moved]
    | thread => exact absurd rfl other
    | driver => exact absurd ((drive_busy agree busy).symm.trans moved) nofun
    | backoff => rw [ring_changes moved]
    | timeout caller => rw [expire_books moved]
  | _ =>
    cases moved
    rfl

/-! ### Parked requests -/

/-- A request whose attempt waits for a run that is held in its stop. -/
structure Parked (request : Request) (ticket : Nat)
    (next : Except EngineFailure (List Value) → Routine) (stop : Stop) (s : Session) : Prop where
  working : s.working = .awaiting request ticket next
  held : s.hosted.engine.Held ticket stop

/-- A pause stands for a request that is parked. -/
theorem Attached.exists_parked (attached : s.Attached) (paused : s.standing.isPaused = true) :
    ∃ request ticket next stop, s.Parked request ticket next stop := by
  have some : 0 < s.tokens := by
    unfold tokens signs
    rw [paused]
    show 0 < 1 + s.unread + s.gripped.toNat
    omega
  obtain ⟨ticket, stop, held⟩ := Engine.exists_held (attached.poised.opens some)
  obtain ⟨request, next, working⟩ := attached.linked.mine ticket held.main
  exact ⟨request, ticket, next, stop, working, held⟩

namespace Parked

variable {request : Request} {ticket : Nat} {next : Except EngineFailure (List Value) → Routine}
  {stop : Stop}

/-- A parked request has no result. -/
theorem unsettled (parked : s.Parked request ticket next stop) {l : Ledger}
    (custody : s.desk.Custody l) (result : Result) : (request.id, result) ∉ s.results := by
  intro settled
  obtain ⟨attempts, attempting⟩ := Desk.attempting_of_awaiting custody.agree parked.working
  have driving : s.desk.driving = .attempting request attempts := attempting
  have working : s.desk.working = .awaiting request ticket next := parked.working
  have mine : request ∈ s.desk.unsettled := by
    refine List.mem_append_left _ ?_
    rw [show s.desk.inHand = [request] by simp only [Desk.inHand, driving, working]]
    exact List.mem_singleton_self request
  exact Nat.lt_irrefl _ (custody.settled_lt settled mine)

/-- The run that a parked request waits for has no result. -/
theorem unanswered (parked : s.Parked request ticket next stop) (linked : s.Linked) :
    s.hosted.engine.result? ticket = none :=
  linked.ticketed.unanswered (Engine.owed_of_main parked.held.main)

/-- The thread does not move while its request is parked. -/
theorem work_none (parked : s.Parked request ticket next stop) (linked : s.Linked) :
    s.work = none := by
  unfold Session.work
  rw [parked.working]
  show (s.hosted.engine.result? ticket).map _ = none
  rw [parked.unanswered linked]
  rfl

/-- **A request stays parked, unless a call that has lifted the pause takes a step.** -/
theorem after (parked : s.Parked request ticket next stop) (linked : s.Linked)
    (agree : s.driving.Agrees s.working) (alone : ∀ engine, move ≠ .outside engine)
    (loose : ∀ caller call, move = .act (.call caller) → (caller, call) ∈ s.calls →
      call.grips = false)
    (moved : s.after move = some t) (j : Journal) :
    t.Parked request ticket next stop ∧ (j.note s move t).verbs = j.verbs := by
  have idle : move ≠ .act .thread := by
    rintro rfl
    exact absurd ((parked.work_none linked).symm.trans moved) nofun
  have working : t.working = .awaiting request ticket next :=
    (working_after agree (by rw [parked.working]; rfl) idle moved).trans parked.working
  have touches := touches_after alone moved
  have verbs : (j.note s move t).verbs = j.verbs := by
    rcases touches.verbs j with same | ⟨caller, call, _, rfl, mine, grips, _⟩
    · exact same
    · exact absurd ((loose caller call rfl mine).symm.trans grips) Bool.false_ne_true
  refine ⟨⟨working, ?_⟩, verbs⟩
  have held := parked.held
  have lawful := linked.lawful
  have ticketed := linked.ticketed
  cases touches with
  | none engine => rw [engine]; exact held
  | step stepped => exact held.step lawful ticketed stepped
  | invoke other pipeline later number waits invoked =>
    exact absurd (parked.working.symm.trans waits) nofun
  | command caller call mine nested pipeline asker sent => exact held.command lawful ticketed sent
  | pause caller switched => rw [switched]; exact held.setStepping lawful ticketed true
  | verb caller call mine grips verb asked resumed =>
    exact absurd ((loose caller call rfl mine).symm.trans grips) Bool.false_ne_true

end Parked

/-! ### The pause along moves -/

theorem gripped_of_mem {entry : Nat × Call} (member : entry ∈ s.calls)
    (grips : entry.2.grips = true) : s.gripped = true :=
  List.any_eq_true.mpr ⟨entry, member, grips⟩

/-- The listener never lifts the pause. -/
theorem listen_paused (moved : s.listen = some t) (paused : s.standing.isPaused = true) :
    t.standing.isPaused = true := by
  cases listens_of_listen moved with
  | take read notice listening near found => cases notice <;> first | exact paused | rfl
  | _ => exact paused

/-- A pause stays, unless a call lifts it and has a verb in hand then. -/
theorem paused_after (paused : s.standing.isPaused = true) (moved : s.after move = some t) :
    t.standing.isPaused = true ∨ t.gripped = true := by
  cases moves_of_after moved with
  | call caller moved =>
    obtain ⟨call, next, found, advances⟩ := advance_advances moved
    obtain ⟨u, effect, books⟩ := advances.effect
    rcases effect.paused paused with kept | grips
    · refine .inl ?_
      rw [books]
      exact kept
    · refine .inr ?_
      cases next with
      | none => cases grips
      | some later =>
        have member : (caller, later) ∈ t.calls := by
          rw [advances.calls]
          exact mem_callsBehind_self (mem_of_lookup found)
        exact gripped_of_mem member grips
  | listener moved _ => exact .inl (listen_paused moved paused)
  | order _ | timeout _ _ _ => exact .inl paused
  | driver _ same | aside _ same => exact .inl (by rw [same]; exact paused)

end Session

end ShellSession
