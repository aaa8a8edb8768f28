/-
**The pause and the stop that it names.**

Others may use the engine as they like, as long as they send no verb. Then the session knows of a
stop by one token, which names the stop that the engine is in, and a verb that is noted in the pause
is that of a call about to clear it. A nested execution that has found the session paused keeps it so.

* `Environment.Verbless`: nobody but the session sends verbs;
* `Session.goes_after`: **only a call that has lifted the pause sends a verb**;
* `Session.Signals`: the tokens, with the stop that they name;
* `Session.Faithful`, `Session.faithful_after`: **every token names the engine's stop**.
-/

import ShellSession.Proofs.Engine.Usage
import ShellSession.Proofs.Session.Departure
import ShellSession.Proofs.Session.Resumption

namespace ShellSession

/-- An environment in which others use the engine, but send no verbs. -/
def Environment.Verbless (env : Environment) : Prop :=
  ∀ s engine, env s (.outside engine) → s.hosted.engine.Used engine

theorem Environment.Private.verbless {env : Environment} (alone : env.Private) : env.Verbless :=
  fun s engine allowed => absurd allowed (alone s engine)

/-- A nested execution between its second look at the pause and the answer to its command. -/
def Nesting.isInFlight : Nesting → Bool
  | posting _ => true
  | awaiting _ => true
  | _ => false

/-- A nested execution between its second look at the pause and the answer to its command. -/
def Call.isInFlight : Call → Bool
  | nested _ _ stage => stage.isInFlight
  | _ => false

theorem Call.nested_of_inFlight {call : Call} (flies : call.isInFlight = true) :
    ∃ pipeline shape stage, call = nested pipeline shape stage ∧ stage.isInFlight = true := by
  cases call with
  | nested pipeline shape stage => exact ⟨pipeline, shape, stage, rfl, flies⟩
  | _ => cases flies

theorem Call.gated_of_inFlight {call : Call} (flies : call.isInFlight = true) :
    call.isGated = true := by
  obtain ⟨pipeline, shape, stage, rfl, flies⟩ := nested_of_inFlight flies
  cases stage <;> first | rfl | cases flies

/-- A nested execution sends no verbs. -/
theorem Call.loose_of_inFlight {call : Call} (flies : call.isInFlight = true) :
    call.grips = false := by
  obtain ⟨pipeline, shape, stage, rfl, _⟩ := nested_of_inFlight flies
  rfl

/-- A call that does not wait any longer is through with its resume. -/
theorem Call.Expires.behind {call later : Call} (expires : call.Expires later) :
    call.standpoint = .behind ∧ later.standpoint = .behind := by
  cases expires with
  | dispose expires => cases expires <;> exact ⟨rfl, rfl⟩
  | start error expires => cases expires <;> exact ⟨rfl, rfl⟩

/-! ### What moves do to the engine -/

namespace Session

variable {s t : Session} {move : Move} {caller : Nat} {stop : Stop}

/-- **A move sends no verb, unless it is a step of a call that has lifted the pause.** -/
theorem goes_after (others : ∀ engine, move = .outside engine → s.hosted.engine.Used engine)
    (moved : s.after move = some t) : s.hosted.engine.Goes t.hosted.engine ∨
      ∃ caller call verb, move = .act (.call caller) ∧ (caller, call) ∈ s.calls ∧
        call.grips = true ∧ s.hosted.engine.resume verb = .ok t.hosted.engine := by
  by_cases outside : ∃ engine, move = .outside engine
  · obtain ⟨engine, rfl⟩ := outside
    cases moved
    exact .inl (.use (others engine rfl))
  · cases touches_after (fun engine same => outside ⟨engine, same⟩) moved with
    | none engine =>
      rw [engine]
      exact .inl .rest
    | step stepped => exact .inl (.step stepped)
    | invoke request pipeline next ticket working invoked =>
      exact .inl (.use (.invoke pipeline ticket invoked))
    | command caller call mine nested pipeline ticket sent =>
      exact .inl (.use (.command pipeline ticket sent))
    | pause caller switched =>
      rw [switched]
      exact .inl (.use (.switch true))
    | verb caller call mine grips verb asked resumed =>
      exact .inr ⟨caller, call, verb, rfl, mine, grips, resumed⟩

/-- A step of a call leaves the engine in its stop, and reports nothing. -/
theorem Advances.same_stop {call : Call} {next : Option Call}
    (advances : s.Advances caller call next t) (lawful : s.hosted.engine.Lawful) :
    t.hosted.engine.stop? = s.hosted.engine.stop? ∧
      t.hosted.engine.history = s.hosted.engine.history := by
  obtain ⟨u, effect, books⟩ := advances.effect
  have engine : t.hosted.engine = u.hosted.engine := by rw [books]
  rw [engine]
  cases effect.reach with
  | none same =>
    rw [same]
    exact ⟨rfl, rfl⟩
  | verb verb asked had loose resumed rest =>
    refine ⟨?_, congrArg Engine.Interpreter.history (Engine.resume_turn lawful resumed).2.1⟩
    unfold Engine.stop?
    rw [(Engine.resume_activity resumed).1]
  | command pipeline shape dialect ticket asked sent rest =>
    refine ⟨?_, congrArg Engine.Interpreter.history (Engine.command_turn lawful sent).2.1⟩
    unfold Engine.stop?
    rw [(Engine.command_activity sent).1]
  | pause asked switched rest =>
    rw [switched]
    exact ⟨Engine.stop?_setStepping _ true, (Engine.setStepping_turn lawful true).2.1⟩

/-! ### Tokens and their stops -/

/-- A token of a stop, with the stop that it names: the pause, a report that is not read yet, or a
call that has lifted the pause. -/
inductive Signals (s : Session) (stop : Stop) : Prop
  | paused (verb : Option Verb) (standing : s.standing = .paused stop verb) : Signals s stop
  | unread (read : Nat) (listens : s.listening.read? = some read)
      (reported : .stopped stop ∈ s.hosted.engine.history.toList.drop read) : Signals s stop
  | lifted (entry : Nat × Call) (member : entry ∈ s.calls)
      (lifted : entry.2.standpoint.lifted? = some stop) : Signals s stop

/-- Whatever names a stop is a token. -/
theorem Signals.tokens_pos (signals : s.Signals stop) : 0 < s.tokens := by
  unfold tokens signs
  cases signals with
  | paused verb standing =>
    rw [standing]
    show 0 < 1 + _ + _
    omega
  | unread read listens reported =>
    have some : 0 < s.unread := by
      unfold Session.unread
      rw [listens]
      exact List.countP_pos_iff.mpr ⟨_, reported, rfl⟩
    omega
  | lifted entry member lifted =>
    have grips : entry.2.grips = true := by
      rw [Call.grips_eq, lifted]
      rfl
    rw [gripped_of_mem member grips]
    show 0 < _ + 1
    omega

/-- The tokens name the stop that the engine is in, a verb that is noted is that of a call about to
clear the pause, and a nested execution in flight has kept the pause. -/
structure Faithful (s : Session) : Prop where
  orderly : s.Orderly
  lawful : s.hosted.engine.Lawful
  ticketed : s.hosted.engine.Ticketed
  poised : s.Poised
  names : ∀ stop, s.Signals stop → s.hosted.engine.stop? = some stop
  noted : ∀ stop verb, s.standing = .paused stop (some verb) →
    ∃ entry ∈ s.calls, entry.2.standpoint.isNoted = true
  asking : ∀ entry ∈ s.calls, entry.2.isInFlight = true → s.standing.isPaused = true

/-- A token there is only as long as nobody has left the stop. -/
theorem Faithful.opens (faithful : s.Faithful) (signals : s.Signals stop) :
    s.hosted.engine.isOpen = true :=
  faithful.poised.opens signals.tokens_pos

/-! ### Names -/

/-- A change of the engine adds a token only with the stop that it enters, which it names. -/
theorem names_goes (faithful : s.Faithful) (goes : s.hosted.engine.Goes t.hosted.engine)
    (listening : t.listening = s.listening) (standing : t.standing = s.standing)
    (calls : t.calls = s.calls) (signals : t.Signals stop) :
    t.hosted.engine.stop? = some stop := by
  have same : s.Signals stop → t.hosted.engine.stop? = some stop := fun before =>
    (goes.stop? (faithful.opens before)).trans (faithful.names stop before)
  cases signals with
  | paused verb paused => exact same (.paused verb (standing.symm.trans paused))
  | lifted entry member lifted => exact same (.lifted entry (calls ▸ member) lifted)
  | unread read listens reported =>
    rw [listening] at listens
    cases goes.turn faithful.lawful with
    | quiet reports stays =>
      obtain ⟨more, history, quiet⟩ := reports
      unfold Engine.history at reported
      rw [history, List.drop_append] at reported
      rcases List.mem_append.mp reported with old | new
      · exact same (.unread read listens old)
      · have other := quiet _ (List.mem_of_mem_drop new)
        cases other
    | stop free opens reached entered reports last inside waits =>
      obtain ⟨more, history, quiet⟩ := reports
      have pushed : t.hosted.engine.history.toList =
          s.hosted.engine.history.toList ++ (more ++ [.stopped entered]) := by
        unfold Engine.history
        rw [last, ← List.append_assoc, ← history]
        exact Array.toList_push
      rw [pushed, List.drop_append] at reported
      rcases List.mem_append.mp reported with old | new
      · exact same (.unread read listens old)
      · rcases List.mem_append.mp (List.mem_of_mem_drop new) with others | here
        · have other := quiet _ others
          cases other
        · cases List.mem_singleton.mp here
          exact inside

/-- What the listener makes of a report names the same stop. -/
theorem signals_listen (moved : s.listen = some t) (signals : t.Signals stop) :
    s.Signals stop := by
  have same := listen_changes moved
  have engine : t.hosted.engine = s.hosted.engine := by rw [same]
  have calls : t.calls = s.calls := by rw [same]
  cases signals with
  | lifted entry member lifted => exact .lifted entry (calls ▸ member) lifted
  | paused verb paused =>
    cases listens_of_listen moved with
    | take read notice listening near found =>
      cases notice with
      | stopped other =>
        cases paused
        refine .unread read (by rw [listening]; rfl) ?_
        refine List.mem_of_getElem? (i := 0) ?_
        rw [List.getElem?_drop, Nat.add_zero, Array.getElem?_toList]
        exact found
      | _ => exact .paused verb paused
    | _ => exact .paused verb paused
  | unread read listens reported =>
    rw [engine] at reported
    have further : ∀ {before : Nat}, s.listening = .reading before → before ≤ read →
        s.Signals stop := by
      intro before listening more
      refine .unread before (by rw [listening]; rfl) ?_
      rw [show read = before + (read - before) from (Nat.add_sub_cancel' more).symm,
        ← List.drop_drop] at reported
      exact List.mem_of_mem_drop reported
    cases listens_of_listen moved with
    | quit before listening fired => cases listens
    | skip before listening live lag =>
      have here : s.hosted.engine.history.size - listenerCapacity = read :=
        Option.some.inj listens
      exact further listening (by omega)
    | take before notice listening near found =>
      cases notice <;> cases listens <;> exact further listening (Nat.le_succ before)
    | publish before other listening =>
      exact .unread read (by rw [listening]; exact listens) reported

/-- The listener is left alone by calls, but for the one that starts it. -/
theorem Effect.listening {order : Order} {before after : Bool} {u : Session}
    (effect : Effect s order before u after) :
    u.listening = s.listening ∨ u.listening = .reading s.hosted.engine.history.size := by
  cases effect with
  | spawn asked free bound => exact .inr rfl
  | _ => exact .inl rfl

/-- A step of a resume takes the stop over from the pause, and puts it back there. -/
theorem Leads.signals {order : Order} {before after : Standpoint}
    (leads : s.Leads caller order before t after) :
    (∀ verb, t.standing = .paused stop verb →
      (∃ other, s.standing = .paused stop other) ∨ before.lifted? = some stop) ∧
    (after.lifted? = some stop →
      (∃ other, s.standing = .paused stop other) ∨ before.lifted? = some stop) := by
  cases leads with
  | aside passes standing =>
    refine ⟨fun verb paused => .inl ⟨verb, standing.symm.trans paused⟩, fun lifted => ?_⟩
    cases passes <;> cases lifted
  | stage verb asked now later u stepped books =>
    have same : t.standing = u.standing := by rw [books]
    rw [same]
    cases Resuming.goes_of_step stepped with
    | note here other held standing =>
      refine ⟨fun verb paused => ?_, nofun⟩
      cases paused
      exact .inl ⟨other, standing⟩
    | lift here other standing =>
      refine ⟨nofun, fun lifted => ?_⟩
      cases lifted
      exact .inl ⟨other, standing⟩
    | fail here error refused claims => exact ⟨fun verb paused => .inl ⟨verb, paused⟩, .inr⟩
    | restore here error =>
      refine ⟨fun verb paused => ?_, nofun⟩
      rcases s.restorePause_cases here with ⟨_, same⟩ | ⟨_, same⟩ <;> rw [same] at paused
      · cases paused
        exact .inr rfl
      · exact .inl ⟨verb, paused⟩
    | _ => exact ⟨fun verb paused => .inl ⟨verb, paused⟩, nofun⟩

/-- **A step of a call adds no token.** -/
theorem signals_advance {call : Call} {next : Option Call} (lawful : s.hosted.engine.Lawful)
    (mine : (caller, call) ∈ s.calls) (advances : s.Advances caller call next t)
    (leads : s.Leads caller call.order call.standpoint t (.of next)) (signals : t.Signals stop) :
    s.Signals stop := by
  have taken : (∃ other, s.standing = .paused stop other) ∨
      call.standpoint.lifted? = some stop → s.Signals stop := by
    rintro (⟨other, standing⟩ | lifted)
    · exact .paused other standing
    · exact .lifted (caller, call) mine lifted
  cases signals with
  | paused verb paused => exact taken (leads.signals.1 verb paused)
  | lifted entry member lifted =>
    rw [advances.calls] at member
    rcases mem_callsBehind member with ⟨_, old⟩ | ⟨later, rfl, rfl⟩
    · exact .lifted entry old lifted
    · exact taken (leads.signals.2 lifted)
  | unread read listens reported =>
    rw [(advances.same_stop lawful).2] at reported
    obtain ⟨u, effect, books⟩ := advances.effect
    have listening : t.listening = u.listening := by rw [books]
    rcases Effect.listening effect with same | spawned
    · rw [listening, same] at listens
      exact .unread read listens reported
    · rw [listening, spawned] at listens
      cases listens
      rw [List.drop_eq_nil_of_le (Nat.le_of_eq Array.length_toList)] at reported
      cases reported

/-! ### Verbs that are noted -/

/-- A verb is noted in the pause only by a call that is about to clear it. -/
theorem Leads.noted {order : Order} {before after : Standpoint} {verb : Verb}
    (leads : s.Leads caller order before t after) (noted : t.standing = .paused stop (some verb)) :
    after.isNoted = true ∨
      s.standing = .paused stop (some verb) ∧ before.isNoted = false := by
  cases leads with
  | aside passes standing =>
    refine .inr ⟨standing.symm.trans noted, ?_⟩
    cases passes <;> rfl
  | stage other asked now later u stepped books =>
    have same : t.standing = u.standing := by rw [books]
    rw [same] at noted
    cases Resuming.goes_of_step stepped with
    | note here before held standing => exact .inl rfl
    | lift here before standing => cases noted
    | gone standing =>
      rw [standing] at noted
      cases noted
    | restore here error =>
      rcases s.restorePause_cases here with ⟨_, same⟩ | ⟨_, same⟩ <;> rw [same] at noted
      · cases noted
      · exact .inr ⟨noted, rfl⟩
    | _ => exact .inr ⟨noted, rfl⟩

/-- Whoever has noted a verb is about to clear the pause. -/
def Noted (s : Session) : Prop :=
  ∀ stop verb, s.standing = .paused stop (some verb) →
    ∃ entry ∈ s.calls, entry.2.standpoint.isNoted = true

/-- A call that clears a verb that is noted is there as long as it has not done so. -/
theorem Noted.advance {call : Call} {next : Option Call} (noted : s.Noted) (orderly : s.Orderly)
    (mine : (caller, call) ∈ s.calls) (advances : s.Advances caller call next t)
    (leads : s.Leads caller call.order call.standpoint t (.of next)) : t.Noted := by
  intro stop verb paused
  rw [advances.calls]
  rcases leads.noted paused with mark | ⟨before, unmarked⟩
  · cases next with
    | none => cases mark
    | some later => exact ⟨(caller, later), mem_callsBehind_self mine, mark⟩
  · obtain ⟨entry, member, mark⟩ := noted stop verb before
    refine ⟨entry, mem_callsBehind_of_ne member fun same => ?_, mark⟩
    rw [orderly.eq_of_number member mine same] at mark
    exact Bool.false_ne_true (unmarked.symm.trans mark)

/-! ### Nested executions in flight -/

/-- A nested execution asks only where it finds the session paused. -/
theorem Nesting.step_inFlight {pipeline : Pipeline} {shape : Shape} {stage next : Nesting}
    (stepped : stage.step caller pipeline shape s = some (t, next))
    (flies : next.isInFlight = true) : stage.isInFlight = true ∨ s.standing.isPaused = true := by
  cases Nesting.goes_of_step stepped with
  | still dialect held paused => exact .inr paused
  | post => exact .inl rfl
  | _ => cases flies

/-- Whoever is in flight behind a move was so before, or has just found the session paused. -/
theorem Faithful.paused_before {entry : Nat × Call} (faithful : s.Faithful)
    (moved : s.after move = some t) (member : entry ∈ t.calls)
    (flies : entry.2.isInFlight = true) : s.standing.isPaused = true := by
  obtain ⟨caller, later⟩ := entry
  obtain ⟨pipeline, shape, stage, rfl, asks⟩ := Call.nested_of_inFlight flies
  rcases mem_after moved member with old | ⟨call, rfl, mine, taken⟩ | ⟨now, _, disposing, _⟩ |
    ⟨order, _, fresh⟩
  · exact faithful.asking _ old flies
  · obtain ⟨next, advances⟩ := advanceCall_advances taken
    have order := advances.order _ (advances.next_of_mem member)
    cases call with
    | nested other form before =>
      rcases advanceNested_cases taken with ⟨result, rfl, rfl⟩ | ⟨u, following, stepped, rfl⟩
      · exact absurd member (not_mem_giveBack _)
      · cases eq_of_mem_proceed member
        exact (Nesting.step_inFlight stepped asks).elim (faithful.asking _ mine) id
    | _ => cases order
  · cases disposing
  · have begun : Call.nested pipeline shape stage = order.call := fresh
    cases order <;> cases begun
    cases asks

/-- **The pause is kept for a nested execution in flight**: only the holder of the gate lifts it. -/
theorem Faithful.asking_after (faithful : s.Faithful) (moved : s.after move = some t) :
    ∀ entry ∈ t.calls, entry.2.isInFlight = true → t.standing.isPaused = true := by
  intro entry member flies
  have orderly := orderly_after faithful.orderly moved
  refine (paused_after (faithful.paused_before moved member flies) moved).resolve_right
    fun some => ?_
  obtain ⟨other, within, grips⟩ := List.any_eq_true.mp some
  have first := orderly.gate entry member (Call.gated_of_inFlight flies)
  have number := orderly.eq_of_gated within (Call.gated_of_grips grips) (decide_eq_true first)
  rw [orderly.eq_of_number within member number] at grips
  exact Bool.false_ne_true ((Call.loose_of_inFlight flies).symm.trans grips)

/-! ### Moves -/

/-- What a move does to the tokens: the engine goes on without a verb, or a call takes a step. -/
theorem Faithful.lawful_after (faithful : s.Faithful)
    (others : ∀ engine, move = .outside engine → s.hosted.engine.Used engine)
    (moved : s.after move = some t) :
    t.hosted.engine.Lawful ∧ t.hosted.engine.Ticketed := by
  rcases goes_after others moved with goes | ⟨_, _, verb, _, _, _, resumed⟩
  · exact ⟨goes.lawful faithful.lawful, goes.ticketed faithful.lawful faithful.ticketed⟩
  · exact ⟨(Engine.resume_turn faithful.lawful resumed).1,
      (Engine.resume_answers faithful.ticketed resumed).1⟩

/-- A move of the engine alone. -/
theorem Faithful.frame (faithful : s.Faithful) (orderly : t.Orderly)
    (goes : s.hosted.engine.Goes t.hosted.engine) (listening : t.listening = s.listening)
    (standing : t.standing = s.standing) (calls : t.calls = s.calls) : t.Faithful where
  orderly := orderly
  lawful := goes.lawful faithful.lawful
  ticketed := goes.ticketed faithful.lawful faithful.ticketed
  poised := faithful.poised.turn (goes.turn faithful.lawful) listening standing calls
  names := fun _ => names_goes faithful goes listening standing calls
  noted := by
    rw [standing, calls]
    exact faithful.noted
  asking := by
    rw [standing, calls]
    exact faithful.asking

/-- A move of the calls that takes no token and leaves out none that is about to clear the pause. -/
theorem Faithful.recall (faithful : s.Faithful) (orderly : t.Orderly)
    (engine : t.hosted.engine = s.hosted.engine) (listening : t.listening = s.listening)
    (standing : t.standing = s.standing)
    (new : ∀ entry ∈ t.calls, entry ∈ s.calls ∨
      entry.2.grips = false ∧ entry.2.isInFlight = false)
    (kept : ∀ entry ∈ s.calls, entry.2.standpoint.isNoted = true → entry ∈ t.calls) :
    t.Faithful := by
  have gripped : t.gripped = true → s.gripped = true := by
    intro some
    obtain ⟨entry, member, grips⟩ := List.any_eq_true.mp some
    rcases new entry member with old | ⟨loose, _⟩
    · exact gripped_of_mem old grips
    · exact absurd (loose.symm.trans grips) Bool.false_ne_true
  refine ⟨orderly, engine ▸ faithful.lawful, engine ▸ faithful.ticketed,
    faithful.poised.of_le ?_ (by rw [engine]; exact id), fun stop signals => ?_,
    fun stop verb paused => ?_, fun entry member flies => ?_⟩
  · have unread : t.unread = s.unread := unread_eq listening (by rw [engine])
    unfold tokens signs
    rw [standing, unread]
    refine Nat.add_le_add_left ?_ _
    cases some : t.gripped with
    | false => exact Nat.zero_le _
    | true => exact Nat.le_of_eq (by rw [gripped some])
  · rw [engine]
    refine faithful.names stop ?_
    cases signals with
    | paused verb paused => exact .paused verb (standing.symm.trans paused)
    | unread read listens reported =>
      rw [listening] at listens
      rw [engine] at reported
      exact .unread read listens reported
    | lifted entry member lifted =>
      rcases new entry member with old | ⟨loose, _⟩
      · exact .lifted entry old lifted
      · rw [Call.grips_eq, lifted] at loose
        cases loose
  · obtain ⟨entry, member, mark⟩ := faithful.noted stop verb (standing.symm.trans paused)
    exact ⟨entry, kept entry member mark, mark⟩
  · rw [standing]
    rcases new entry member with old | ⟨_, rests⟩
    · exact faithful.asking entry old flies
    · exact absurd (rests.symm.trans flies) Bool.false_ne_true

/-- The pause is never that of a verb when the listener has just recorded it. -/
theorem noted_listen {verb : Verb} (moved : s.listen = some t)
    (noted : t.standing = .paused stop (some verb)) : s.standing = .paused stop (some verb) := by
  cases listens_of_listen moved with
  | take read notice listening near found => cases notice <;> first | exact noted | cases noted
  | _ => exact noted

/-- **Every token names the engine's stop**, whatever others do to the engine short of verbs. -/
theorem faithful_after (faithful : s.Faithful)
    (others : ∀ engine, move = .outside engine → s.hosted.engine.Used engine)
    (moved : s.after move = some t) : t.Faithful := by
  have orderly := orderly_after faithful.orderly moved
  have goes := goes_after others moved
  -- Only a call sends verbs, so that the engine goes on without one in the moves of all others.
  have alone : (∀ caller, move ≠ .act (.call caller)) → s.hosted.engine.Goes t.hosted.engine :=
    fun other => goes.resolve_right fun ⟨caller, _, _, same, _⟩ => other caller same
  cases moves_of_after moved with
  | call caller taken =>
    obtain ⟨call, next, found, advances, leads⟩ := advance_leads taken
    have mine := mem_of_lookup found
    obtain ⟨lawful, ticketed⟩ := faithful.lawful_after others moved
    exact ⟨orderly, lawful, ticketed,
      faithful.poised.advance faithful.lawful faithful.orderly mine advances,
      fun stop signals => (advances.same_stop faithful.lawful).1.trans
        (faithful.names stop (signals_advance faithful.lawful mine advances leads signals)),
      Noted.advance faithful.noted faithful.orderly mine advances leads,
      faithful.asking_after moved⟩
  | timeout caller mine expires =>
    refine faithful.recall orderly rfl rfl rfl (fun entry member => ?_) fun entry member mark => ?_
    · rcases mem_proceed member with ⟨_, old⟩ | rfl
      · exact .inl old
      · exact .inr ⟨expires.loose, by cases expires <;> rfl⟩
    · refine mem_proceed_of_ne member fun number => ?_
      rw [faithful.orderly.eq_of_number member mine number, expires.behind.1] at mark
      cases mark
  | order order =>
    refine faithful.recall orderly rfl rfl rfl (fun entry member => ?_)
      fun entry member _ => List.mem_append_left _ member
    rcases List.mem_append.mp member with old | new
    · exact .inl old
    · rw [List.mem_singleton.mp new]
      refine .inr ?_
      cases order <;> exact ⟨rfl, rfl⟩
  | listener heard same =>
    have engine : t.hosted.engine = s.hosted.engine := by rw [same]
    have calls : t.calls = s.calls := by rw [same]
    refine ⟨orderly, engine ▸ faithful.lawful, engine ▸ faithful.ticketed,
      faithful.poised.listen heard, fun stop signals => ?_, fun stop verb noted => ?_,
      faithful.asking_after moved⟩
    · rw [engine]
      exact faithful.names stop (signals_listen heard signals)
    · rw [calls]
      exact faithful.noted stop verb (noted_listen heard noted)
  | driver _ same =>
    exact faithful.frame orderly (alone nofun) (by rw [same]) (by rw [same]) (by rw [same])
  | aside apart same =>
    exact faithful.frame orderly (alone apart) (by rw [same]) (by rw [same]) (by rw [same])

theorem faithful_fresh (settings : Settings) (fallback : Release) {hosted : HostedEngine}
    (made : hosted.engine.Made) : (fresh settings fallback hosted).Faithful := by
  obtain ⟨lawful, ticketed⟩ := made.lawful
  refine ⟨orderly_fresh settings fallback hosted, lawful, ticketed, ⟨Nat.zero_le 1, nofun⟩,
    fun stop signals => ?_, nofun, fun entry member => by cases member⟩
  cases signals with
  | paused verb standing => cases standing
  | unread read listens reported => cases listens
  | lifted entry member lifted => cases member

end Session

end ShellSession
