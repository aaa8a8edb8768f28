/-
**What the listener reads.**

The listener reads the engine's reports in order, and what it has not read in time is dropped. So the
stops reported are those that it records and those that are dropped, in order, and those that are still
unread. While the report of a stop is unread, nobody in the session gets the engine going; so it stays
the last report, and is not dropped, unless others keep the engine busy inside the stop.

* `Deed.drops`, `Deed.losses`, `Deed.passed`: the reports dropped, the stops among them, and the stops
  that the listener is past;
* `Session.reports_after`: what a move adds to the stops reported;
* `Session.Pumps.reads`: **what becomes of the stops reported**;
* `Environment.Attentive`, `Environment.Discreet`: the listener keeps up, or others give no commands;
* `Session.Still`, `Session.still_after`: **the report of an unread stop is the last one**;
* `Session.Still.lossless`: so it is not dropped.
-/

import ShellSession.Proofs.Engine.Reports
import ShellSession.Proofs.Session.Listener
import ShellSession.Proofs.Session.Plight

namespace ShellSession

/-! ### What is dropped -/

namespace Deed

/-- The reports that a deed drops. -/
def dropped? : Deed → List Notice
  | dropped reports => reports
  | _ => []

/-- The stops that a deed takes from the reports: the one that is recorded, and those dropped. -/
def taken : Deed → List Stop
  | recorded stop => [stop]
  | dropped reports => reports.filterMap Notice.stop?
  | _ => []

/-- The reports that have been dropped, in order. -/
def drops (deeds : List Deed) : List Notice :=
  deeds.flatMap dropped?

/-- The stops whose reports have been dropped, in order. -/
def losses (deeds : List Deed) : List Stop :=
  (drops deeds).filterMap Notice.stop?

/-- The stops recorded, and those whose reports have been dropped, in order. -/
def passed (deeds : List Deed) : List Stop :=
  deeds.flatMap taken

theorem drops_append (deeds more : List Deed) : drops (deeds ++ more) = drops deeds ++ drops more :=
  List.flatMap_append

theorem losses_append (deeds more : List Deed) :
    losses (deeds ++ more) = losses deeds ++ losses more := by
  unfold losses
  rw [drops_append, List.filterMap_append]

theorem passed_append (deeds more : List Deed) :
    passed (deeds ++ more) = passed deeds ++ passed more :=
  List.flatMap_append

/-- Where no report is dropped, no stop is. -/
theorem losses_of_drops {deeds : List Deed} (none : drops deeds = []) : losses deeds = [] := by
  unfold losses
  rw [none]
  rfl

/-- What one deed takes is the stop that it records, or those that it drops. -/
theorem taken_eq (deed : Deed) : deed.taken = recordings [deed] ++ losses [deed] := by
  cases deed with
  | dropped reports => simp [taken, recordings, recorded?, losses, drops, dropped?]
  | _ => rfl

/-- Where no stop is dropped, the listener is past those that it has recorded. -/
theorem passed_of_losses {deeds : List Deed} (none : losses deeds = []) :
    passed deeds = recordings deeds := by
  induction deeds with
  | nil => rfl
  | cons deed rest ih =>
    obtain ⟨here, later⟩ := List.append_eq_nil_iff.mp ((losses_append [deed] rest).symm.trans none)
    calc passed (deed :: rest) = deed.taken ++ passed rest := rfl
      _ = recordings [deed] ++ recordings rest := by
        rw [taken_eq, here, List.append_nil, ih later]
      _ = recordings (deed :: rest) := (recordings_append [deed] rest).symm

/-- What calls do takes nothing from the reports. -/
theorem untaken {deed : Option Deed} (theirs : ∀ done, deed = some done → done.caller?.isSome = true) :
    drops deed.toList = [] ∧ passed deed.toList = [] := by
  cases deed with
  | none => exact ⟨rfl, rfl⟩
  | some done =>
    have caller := theirs done rfl
    cases done <;> first | exact ⟨rfl, rfl⟩ | cases caller

end Deed

/-- An environment in which the listener never falls too far behind. -/
def Environment.Attentive (env : Environment) : Prop :=
  ∀ s read, env s (.act .listener) → s.listening = .reading read →
    s.hosted.engine.history.size - read ≤ Session.listenerCapacity

/-- An environment in which others send nothing into stops. -/
def Environment.Discreet (env : Environment) : Prop :=
  ∀ s engine, env s (.outside engine) → engine.inbox = s.hosted.engine.inbox

namespace Engine

variable {e : Engine} {read further : Nat} {stop : Stop}

/-- The stops that are not read are as many as there are reports of them. -/
theorem unreadStops_eq (e : Engine) (read : Nat) :
    e.unreadStops read = (e.stopsFrom read).length := by
  unfold unreadStops stopsFrom
  rw [List.length_filterMap_eq_countP]
  exact List.countP_congr fun notice _ => by rw [Notice.isStop_eq]

theorem mem_stopsFrom :
    stop ∈ e.stopsFrom read ↔ .stopped stop ∈ e.history.toList.drop read := by
  unfold stopsFrom
  rw [List.mem_filterMap]
  constructor
  · rintro ⟨notice, member, same⟩
    cases notice <;> cases same
    exact member
  · exact fun member => ⟨_, member, rfl⟩

/-- The last report is behind every point but the end. -/
theorem mem_stopsFrom_of_last (last : e.history.toList.getLast? = some (.stopped stop))
    (within : read < e.history.size) : stop ∈ e.stopsFrom read := by
  rw [mem_stopsFrom]
  refine List.mem_of_getLast? ?_
  rw [List.getLast?_drop, if_neg]
  · exact last
  · rw [Array.length_toList]
    exact Nat.not_le_of_lt within

end Engine

namespace Session

variable {s t : Session} {move : Move}

/-! ### What a move adds -/

/-- **A move enters a stop, or reports none**, whatever others do to the engine short of verbs. -/
theorem reports_after (lawful : s.hosted.engine.Lawful)
    (others : ∀ engine, move = .outside engine → s.hosted.engine.Used engine)
    (moved : s.after move = some t) : s.hosted.engine.Reports t.hosted.engine := by
  rcases goes_after others moved with goes | ⟨_, _, verb, _, _, _, resumed⟩
  · exact (goes.turn lawful).reports
  · exact Engine.reports_of_resume lawful resumed

/-- The listener has read no more than has been reported. -/
def Within (s : Session) : Prop :=
  ∀ read, s.listening.read? = some read → read ≤ s.hosted.engine.history.size

/-- The listener takes in one report after the other. -/
theorem Listens.within (listens : s.Listens t) (within : s.Within) : t.Within := by
  intro read reads
  cases listens with
  | quit before listening fired => cases reads
  | skip before listening live lag =>
    have here : s.hosted.engine.history.size - listenerCapacity = read := Option.some.inj reads
    exact here ▸ Nat.sub_le _ _
  | take before notice listening near found =>
    have bound : before < s.hosted.engine.history.size := (Array.getElem?_eq_some_iff.mp found).1
    cases notice <;> cases reads <;> exact bound
  | publish before stop listening =>
    exact within read (by rw [listening]; exact reads)

theorem within_after (within : s.Within) (lawful : s.hosted.engine.Lawful)
    (others : ∀ engine, move = .outside engine → s.hosted.engine.Used engine)
    (moved : s.after move = some t) : t.Within := by
  have minds := minds_after moved
  generalize s.deed? move t = deed at minds
  cases minds with
  | step mine moved => exact (listens_of_listen moved).within within
  | spawn theirs unborn born listening hosted stops =>
    intro read reads
    rw [listening] at reads
    cases reads
    exact Nat.le_of_eq (by rw [hosted])
  | aside theirs listening stops idle =>
    intro read reads
    rw [listening] at reads
    exact Nat.le_trans (within read reads) (reports_after lawful others moved).grows

/-! ### Unread stops -/

theorem unread_eq_length {read : Nat} (reads : s.listening.read? = some read) :
    s.unread = (s.hosted.engine.stopsFrom read).length := by
  unfold unread
  rw [reads]
  exact Engine.unreadStops_eq _ _

/-- A listener that does not read leaves no stop unread. -/
theorem exists_read (left : 0 < s.unread) : ∃ read, s.listening.read? = some read := by
  unfold unread at left
  cases reads : s.listening.read? with
  | none =>
    rw [reads] at left
    cases left
  | some read => exact ⟨read, rfl⟩

/-- The listener leaves no more stops unread than there were. -/
theorem Listens.unread_le (listens : s.Listens t) : t.unread ≤ s.unread := by
  have before : ∀ {read further : Nat}, s.listening = .reading read → read ≤ further →
      s.hosted.engine.unreadStops further ≤ s.unread := by
    intro read further listening more
    unfold unread
    rw [listening]
    exact Engine.unreadStops_le more s.hosted.engine
  cases listens with
  | quit read listening fired => exact Nat.zero_le _
  | skip read listening live lag => exact before listening (by omega)
  | take read notice listening near found =>
    cases notice <;> exact before listening (Nat.le_succ read)
  | publish read stop listening =>
    unfold unread
    rw [listening]
    exact Nat.le_refl _

/-- A nested execution gives its command only where the session is paused. -/
theorem Faithful.paused_of_command {caller : Nat} {call : Call} (faithful : s.Faithful)
    (moved : s.after (.act (.call caller)) = some t) (mine : (caller, call) ∈ s.calls)
    (nested : ∃ pipeline shape, call.order = .nested pipeline shape)
    (sent : t.hosted.engine ≠ s.hosted.engine) : s.standing.isPaused = true := by
  obtain ⟨pipeline, shape, order⟩ := nested
  cases call with
  | nested own form stage =>
    rcases advanceNested_cases (faithful.orderly.taken mine moved) with ⟨result, rfl, rfl⟩ |
      ⟨u, later, stepped, rfl⟩
    · exact absurd rfl sent
    · obtain ⟨calls, _, engine, _⟩ := Nesting.step_engine stepped
      rcases engine with same | ⟨dialect, ticket, rfl, posted⟩
      · exact absurd same sent
      · have flies : (caller, Call.nested own form (.awaiting ticket)) ∈
            (u.proceed caller (.nested own form (.awaiting ticket))).calls := by
          show _ ∈ u.calls.map _
          rw [calls]
          exact mem_callsBehind_self mine
        exact faithful.paused_before moved flies rfl
  | _ => cases order

/-- **While the report of a stop is unread, nobody gets the engine going**, as long as others send
nothing into the stop. -/
theorem Faithful.waits_after (faithful : s.Faithful)
    (others : ∀ engine, move = .outside engine → s.hosted.engine.Used engine)
    (discreet : ∀ engine, move = .outside engine → engine.inbox = s.hosted.engine.inbox)
    (moved : s.after move = some t) (left : 0 < s.unread) (waits : s.hosted.engine.step = none) :
    t.hosted.engine.step = none ∧ t.hosted.engine.history = s.hosted.engine.history := by
  have free := faithful.free_of_unread left
  have opens : s.hosted.engine.isOpen = true := faithful.poised.opens (by unfold tokens signs; omega)
  have switch : ∀ enabled, (s.hosted.engine.setStepping enabled).step = none ∧
      (s.hosted.engine.setStepping enabled).history = s.hosted.engine.history := fun enabled =>
    ⟨Engine.step_setStepping enabled waits, (Engine.setStepping_turn faithful.lawful enabled).2.1⟩
  have idle : ∀ {pipeline ticket f}, s.hosted.engine.invoke pipeline = .ok (ticket, f) → False := by
    intro pipeline ticket f invoked
    rw [Engine.not_open_of_invoke invoked] at opens
    cases opens
  by_cases outside : ∃ engine, move = .outside engine
  · obtain ⟨engine, rfl⟩ := outside
    cases moved
    have same := discreet engine rfl
    cases others engine rfl with
    | invoke pipeline ticket invoked => exact (idle invoked).elim
    | command pipeline ticket sent =>
      rw [(Engine.command_activity sent).2.1] at same
      exact absurd (List.append_right_eq_self.mp same) (List.cons_ne_nil _ _)
    | switch enabled => exact switch enabled
  · cases touches_after (fun engine same => outside ⟨engine, same⟩) moved with
    | none engine =>
      rw [engine]
      exact ⟨waits, rfl⟩
    | step stepped => cases waits.symm.trans stepped
    | invoke request pipeline next ticket working invoked => exact (idle invoked).elim
    | command caller call mine nested pipeline ticket sent =>
      have paused := faithful.paused_of_command moved mine nested fun same => by
        have inbox := (Engine.command_activity sent).2.1
        rw [same] at inbox
        exact absurd (List.append_right_eq_self.mp inbox.symm) (List.cons_ne_nil _ _)
      cases free with
      | free active loose =>
        rw [active] at paused
        cases paused
    | pause caller switched =>
      rw [switched]
      exact switch true
    | verb caller call mine grips verb asked resumed =>
      rw [Call.grips_eq] at grips
      cases free with
      | free active loose =>
        have none := loose caller
        rw [standpoint_of_mem faithful.orderly mine] at none
        rw [none] at grips
        cases grips

/-- While the report of a stop is unread, it is the last one, and the engine waits. -/
def Still (s : Session) : Prop :=
  0 < s.unread → s.hosted.engine.step = none ∧
    ∃ stop, s.hosted.engine.history.toList.getLast? = some (.stopped stop)

/-- **The report of an unread stop stays the last one**, as long as others send nothing into stops. -/
theorem still_after (still : s.Still) (faithful : s.Faithful) (within : s.Within)
    (others : ∀ engine, move = .outside engine → s.hosted.engine.Used engine)
    (discreet : ∀ engine, move = .outside engine → engine.inbox = s.hosted.engine.inbox)
    (moved : s.after move = some t) : t.Still := by
  intro left
  have kept : 0 < s.unread → t.hosted.engine.step = none ∧
      ∃ stop, t.hosted.engine.history.toList.getLast? = some (.stopped stop) := fun before => by
    obtain ⟨waits, last⟩ := still before
    obtain ⟨later, history⟩ := faithful.waits_after others discreet moved before waits
    rw [history]
    exact ⟨later, last⟩
  have minds := minds_after moved
  generalize s.deed? move t = deed at minds
  cases minds with
  | step mine listened => exact kept (Nat.lt_of_lt_of_le left (listens_of_listen listened).unread_le)
  | spawn theirs unborn born listening hosted stops =>
    rw [unread_eq_length (by rw [listening]; rfl), hosted,
      Engine.stopsFrom_of_le (Nat.le_refl _)] at left
    cases left
  | aside theirs listening stops idle =>
    cases reports_after faithful.lawful others moved with
    | stop stop grows stops free inside waits last => exact ⟨waits, stop, last⟩
    | none grows stops opens =>
      obtain ⟨read, reads⟩ := exists_read left
      have before : s.listening.read? = some read := listening ▸ reads
      refine kept ?_
      rw [unread_eq_length before, ← stops read (within read before), ← unread_eq_length reads]
      exact left

/-! ### What becomes of the stops reported -/

/-- The stops whose reports are dropped come first among those that are left to read. -/
theorem stopsFrom_of_lag {read : Nat} (listening : s.listening = .reading read)
    (live : s.shutdown = false)
    (lag : listenerCapacity < s.hosted.engine.history.size - read) :
    s.hosted.engine.stopsFrom read = s.dropped.filterMap Notice.stop? ++
      s.hosted.engine.stopsFrom (s.hosted.engine.history.size - listenerCapacity) := by
  let reports := s.hosted.engine.history.toList
  let oldest := s.hosted.engine.history.size - listenerCapacity
  have within : read ≤ (reports.take oldest).length := by
    rw [List.length_take, Array.length_toList]
    omega
  have split : reports.drop read = (reports.take oldest).drop read ++ reports.drop oldest := by
    rw [← List.drop_append_of_le_length within, List.take_append_drop]
  unfold Engine.stopsFrom
  rw [dropped_of_lag listening live]
  show (reports.drop read).filterMap _ = _
  rw [split, List.filterMap_append]

/-- **Of the stops that are left to read, a step of the listener records the next one or drops some**,
and leaves the others. -/
theorem Pumps.reads {deed : Option Deed} (pumps : s.Pumps t deed) (live : s.shutdown = false)
    {read : Nat} (reads : s.listening.read? = some read) :
    ∃ further, t.listening.read? = some further ∧
      s.hosted.engine.stopsFrom read =
        Deed.passed deed.toList ++ s.hosted.engine.stopsFrom further := by
  cases pumps with
  | quit before listening fired =>
    rw [live] at fired
    cases fired
  | drop before listening live lag =>
    rw [listening] at reads
    cases reads
    refine ⟨_, rfl, ?_⟩
    show _ = (s.dropped.filterMap Notice.stop? ++ []) ++ _
    rw [List.append_nil]
    exact stopsFrom_of_lag listening live lag
  | pass before notice listening found other onward standing stops =>
    rw [listening] at reads
    cases reads
    refine ⟨read + 1, by rw [onward]; rfl, ?_⟩
    rw [Engine.stopsFrom_step found]
    cases notice <;> first | rfl | cases other
  | record before stop listening found =>
    rw [listening] at reads
    cases reads
    exact ⟨read + 1, rfl, Engine.stopsFrom_step found⟩
  | publish before stop listening =>
    rw [listening] at reads
    cases reads
    exact ⟨read, rfl, rfl⟩

/-- Reports are dropped by the listener, where it has fallen too far behind. -/
theorem drops_after (moved : s.after move = some t) : Deed.drops (s.deed? move t).toList = [] ∨
    move = .act .listener ∧ Deed.drops (s.deed? move t).toList = s.dropped ∧
      ∃ read, s.listening = .reading read ∧
        listenerCapacity < s.hosted.engine.history.size - read := by
  have minds := minds_after moved
  generalize s.deed? move t = deed at minds
  cases minds with
  | step mine moved =>
    have pumps := pumps_of_listen moved
    generalize s.heeded? t = deed at pumps
    cases pumps with
    | drop read listening live lag =>
      exact .inr ⟨mine, List.append_nil s.dropped, read, listening, lag⟩
    | _ => exact .inl rfl
  | spawn theirs | aside theirs => exact .inl (Deed.untaken theirs).1

/-- **The one stop that is unread is not dropped**, since its report is the last one. -/
theorem Still.lossless (still : s.Still) (faithful : s.Faithful) :
    s.dropped.filterMap Notice.stop? = [] := by
  cases gone : s.dropped with
  | nil => rfl
  | cons notice rest =>
    obtain ⟨read, listening, live, lag⟩ := lag_of_dropped (by rw [gone]; exact List.cons_ne_nil _ _)
    rw [← gone]
    have split := stopsFrom_of_lag listening live lag
    have length := congrArg List.length split
    rw [← unread_eq_length (by rw [listening]; rfl), List.length_append] at length
    refine List.eq_nil_of_length_eq_zero ?_
    rcases Nat.eq_zero_or_pos s.unread with none | some
    · omega
    · obtain ⟨_, stop, last⟩ := still some
      have single : s.unread ≤ 1 := by
        have single := faithful.poised.single
        unfold tokens signs at single
        omega
      have behind : s.hosted.engine.history.size - listenerCapacity <
          s.hosted.engine.history.size :=
        Nat.sub_lt_self (by decide) (Nat.le_trans (Nat.le_of_lt lag) (Nat.sub_le _ _))
      have left := List.length_pos_of_mem (Engine.mem_stopsFrom_of_last last behind)
      omega

end Session

end ShellSession
