/-
**The errand of a nested execution.**

A nested execution that has found the session paused as the holder of the gate has an errand in that
stop. Until it has its answer nobody leaves the stop, and no other stop is recorded or ended: it is
evaluated in the stop that it has found, and what it returns is what its own pipeline comes to there.

* `Errand.Owns`: the results that are its own;
* `Session.Attends`: how far it is;
* `Chronicle.carries`: **it gets its own result, in the stop that it has found**;
* `Session.Attends.moves`: it or the engine can always go on;
* `Session.Faithful.exists_course_returned`: **it gets there**, when its evaluation comes to an end.
-/

import ShellSession.Proofs.Engine.Commands
import ShellSession.Proofs.Session.Plight
import ShellSession.Proofs.Session.Released

namespace ShellSession

/-! ### Errands and results -/

/-- What a nested execution is about: its pipeline, the shape of its output, the dialect in which it
is put, and the stop that it has found. -/
structure Errand where
  pipeline : Pipeline
  shape : Shape
  dialect : Dialect
  stop : Stop

/-- The engine is in a stop, which nobody has left. -/
def Session.InStop (s : Session) (stop : Stop) : Prop :=
  s.hosted.engine.isOpen = true ∧ s.hosted.engine.stop? = some stop

namespace Errand

/-- The pipeline that is given to the debugger. -/
def command (errand : Errand) : Pipeline :=
  errand.dialect.nestedPipeline errand.pipeline

/-- The call that carries an errand out. -/
def call (errand : Errand) (stage : Nesting) : Call :=
  .nested errand.pipeline errand.shape stage

/-- The result of an errand whose command comes to an outcome. -/
def result (errand : Errand) : Engine.Outcome → Result
  | .ok values => (decoded (some errand.shape) values).mapError Shortfall.failure
  | .error error => .error (.execution error)

/-- The engines that have been seen in the stop. -/
def Visited (errand : Errand) (seen : Session → Prop) (engine : Engine) : Prop :=
  ∃ u, seen u ∧ u.InStop errand.stop ∧ u.hosted.engine = engine

/-- The results of an errand: what its command comes to when it is evaluated in the stop, or the word
that the host has taken the debugger away. -/
inductive Owns (errand : Errand) (seen : Session → Prop) : Result → Prop
  | evaluated (engine : Engine) (visited : errand.Visited seen engine) (outcome : Engine.Outcome)
      (after : Engine.Interpreter)
      (ends : (engine.undebugged errand.command).Ends engine.files outcome after) :
      Owns errand seen (errand.result outcome)
  | absent (u : Session) (here : seen u) (absent : u.hosted.debuggerPresent = false) :
      Owns errand seen (.error .debuggerUnavailable)

variable {errand : Errand} {seen wider : Session → Prop} {result : Result}

theorem Visited.weaken {engine : Engine} (visited : errand.Visited seen engine)
    (more : ∀ u, seen u → wider u) : errand.Visited wider engine :=
  visited.imp fun u => .imp_left (more u)

theorem Owns.weaken (own : errand.Owns seen result) (more : ∀ u, seen u → wider u) :
    errand.Owns wider result := by
  cases own with
  | evaluated engine visited outcome after ends =>
    exact .evaluated engine (visited.weaken more) outcome after ends
  | absent u here absent => exact .absent u (more u here) absent

/-- **An errand never comes too late for its stop.** -/
theorem Owns.timely (own : errand.Owns seen result) : result ≠ .error (.execution .notStopped) := by
  cases own with
  | evaluated engine visited outcome after ends =>
    cases outcome with
    | ok values =>
      dsimp only [Errand.result, decoded]
      cases errand.shape.decodeAll values <;> exact fun same => by cases same
    | error error =>
      intro same
      cases same
      exact Engine.undebugged_timely ends rfl
  | absent u here absent => nofun

end Errand

/-- How far a nested execution with an errand is, and what has been done since it has found its stop:
it holds its command or waits for the answer, the stop being kept; or it has a result of its own. -/
inductive Session.Attends (s : Session) (errand : Errand) (seen : Session → Prop)
    (deeds : List Deed) : Call → Prop
  | posting (inside : s.InStop errand.stop) (quiet : ∀ deed ∈ deeds, deed.turns = false) :
      Attends s errand seen deeds (errand.call (.posting errand.dialect))
  | awaiting (ticket : Nat) (inside : s.InStop errand.stop)
      (quiet : ∀ deed ∈ deeds, deed.turns = false)
      (entrusted : s.hosted.engine.Entrusted errand.command ticket (errand.Visited seen)) :
      Attends s errand seen deeds (errand.call (.awaiting ticket))
  | leaving (result : Result) (own : errand.Owns seen result) :
      Attends s errand seen deeds (errand.call (.leaving result))
  | finished (result : Result) (own : errand.Owns seen result) :
      Attends s errand seen deeds (errand.call (.finished result))

/-! ### The stop that is kept -/

/-- In a stop that has not been left, a command is accepted or the debugger is absent. -/
theorem HostedEngine.command_cases {h : HostedEngine} (stopped : h.engine.isStopped = true)
    (pipeline : Pipeline) :
    (∃ ticket engine, h.command pipeline = .ok (ticket, { h with engine := engine }) ∧
      h.engine.command pipeline = .ok (ticket, engine)) ∨
    h.debuggerPresent = false ∧ h.command pipeline = .error .debuggerUnavailable := by
  obtain ⟨ticket, engine, sent⟩ : ∃ ticket engine, h.engine.command pipeline = .ok (ticket, engine) := by
    unfold Engine.command
    rw [if_pos stopped]
    exact ⟨_, _, rfl⟩
  unfold command
  split
  · refine .inl ⟨ticket, engine, ?_, sent⟩
    rw [sent]
  · rename_i absent
    exact .inr ⟨Bool.eq_false_iff.mpr absent, rfl⟩

namespace Session

variable {s t : Session} {move : Move} {caller : Nat} {errand : Errand} {seen : Session → Prop}
  {deeds : List Deed} {stop : Stop}

theorem InStop.stopped (inside : s.InStop stop) : s.hosted.engine.isStopped = true :=
  (Bool.and_eq_true_iff.mp inside.1).1

/-- A pause stands for its stop. -/
theorem Faithful.inStop {verb : Option Verb} (faithful : s.Faithful)
    (paused : s.standing = .paused stop verb) : s.InStop stop :=
  ⟨faithful.opens (.paused verb paused), faithful.names stop (.paused verb paused)⟩

/-- **While a nested execution is in flight, nobody sends a verb.** -/
theorem Faithful.goes_of_inFlight {entry : Nat × Call} (faithful : s.Faithful)
    (others : ∀ engine, move = .outside engine → s.hosted.engine.Used engine)
    (moved : s.after move = some t) (member : entry ∈ s.calls)
    (flies : entry.2.isInFlight = true) : s.hosted.engine.Goes t.hosted.engine := by
  refine (goes_after others moved).resolve_right ?_
  rintro ⟨caller, call, verb, _, mine, grips, _⟩
  have first := faithful.orderly.gate entry member (Call.gated_of_inFlight flies)
  have number : caller = entry.1 :=
    faithful.orderly.eq_of_gated mine (Call.gated_of_grips grips) (decide_eq_true first)
  have same := faithful.orderly.eq_of_number mine member number
  subst same
  exact Bool.false_ne_true ((Call.loose_of_inFlight flies).symm.trans grips)

/-- The stop is kept where nobody sends a verb. -/
theorem InStop.goes (inside : s.InStop stop) (lawful : s.hosted.engine.Lawful)
    (goes : s.hosted.engine.Goes t.hosted.engine) : t.InStop stop :=
  ⟨goes.opens lawful inside.1, (goes.stop? inside.1).trans inside.2⟩

/-- While the session is paused, no stop is recorded or ended. -/
theorem Marks.turns {deed : Option Deed} (marks : s.Marks t deed) (faithful : s.Faithful)
    (paused : s.standing.isPaused = true) : ∀ done ∈ deed.toList, done.turns = false := by
  intro done member
  obtain rfl := Option.mem_toList.mp member
  cases standing : s.standing with
  | active =>
    rw [standing] at paused
    cases paused
  | paused stop verb =>
    obtain ⟨later, _, ⟨other, _⟩ | ⟨deed, same, step⟩⟩ :=
      marks.step faithful (.paused stop verb standing)
    · cases other
    · cases same
      cases step <;> rfl

/-- **A nested execution in flight keeps its stop**: no verb is sent, and no stop is recorded or
ended. -/
theorem Faithful.kept {call : Call} (faithful : s.Faithful) (mine : (caller, call) ∈ s.calls)
    (flies : call.isInFlight = true)
    (others : ∀ engine, move = .outside engine → s.hosted.engine.Used engine)
    (moved : s.after move = some t) (quiet : ∀ deed ∈ deeds, deed.turns = false) :
    s.hosted.engine.Goes t.hosted.engine ∧
      ∀ deed ∈ deeds ++ (s.deed? move t).toList, deed.turns = false := by
  refine ⟨faithful.goes_of_inFlight others moved mine flies, fun deed member => ?_⟩
  exact (List.mem_append.mp member).elim (quiet deed)
    ((marks_after faithful.orderly moved).turns faithful (faithful.asking _ mine flies) deed)

/-! ### Moves -/

/-- What others do leaves a nested execution where it is. -/
theorem Attends.idle {call : Call} (attends : s.Attends errand seen deeds call)
    (faithful : s.Faithful) (here : (∀ deed ∈ deeds, deed.turns = false) → seen s)
    (mine : (caller, call) ∈ s.calls)
    (others : ∀ engine, move = .outside engine → s.hosted.engine.Used engine)
    (moved : s.after move = some t) :
    t.Attends errand seen (deeds ++ (s.deed? move t).toList) call := by
  cases attends with
  | posting inside quiet =>
    obtain ⟨goes, still⟩ := faithful.kept mine rfl others moved quiet
    exact .posting (inside.goes faithful.lawful goes) still
  | awaiting ticket inside quiet entrusted =>
    obtain ⟨goes, still⟩ := faithful.kept mine rfl others moved quiet
    refine .awaiting ticket (inside.goes faithful.lawful goes) still ?_
    refine (entrusted.goes faithful.ticketed inside.1 goes).weaken ?_
    rintro origin (visited | rfl)
    · exact visited
    · exact ⟨s, here quiet, inside, rfl⟩
  | leaving result own => exact .leaving result own
  | finished result own => exact .finished result own

/-- **Its own steps take a nested execution further on its errand**, up to its return. -/
theorem Attends.own {call : Call} (attends : s.Attends errand seen deeds call)
    (faithful : s.Faithful) (here : (∀ deed ∈ deeds, deed.turns = false) → seen s)
    (mine : (caller, call) ∈ s.calls)
    (moved : s.after (.act (.call caller)) = some t) (taken : s.advanceCall caller call = some t) :
    (∀ later, (caller, later) ∈ t.calls →
      t.Attends errand seen (deeds ++ (s.deed? (.act (.call caller)) t).toList) later) ∧
    ∀ reply, (caller, reply) ∈ t.replies → (caller, reply) ∈ s.replies ∨
      ∃ result, errand.Owns seen result ∧ reply = result.map .answer := by
  -- The stages but the last go on at one other stage, and nothing is returned.
  have further : ∀ {stage next : Nesting} {u : Session}, call = errand.call stage →
      stage.step caller errand.pipeline errand.shape s = some (u, next) →
      t = u.proceed caller (errand.call next) →
      t.Attends errand seen (deeds ++ (s.deed? (.act (.call caller)) t).toList) (errand.call next) →
      (∀ later, (caller, later) ∈ t.calls →
        t.Attends errand seen (deeds ++ (s.deed? (.act (.call caller)) t).toList) later) ∧
      ∀ reply, (caller, reply) ∈ t.replies → (caller, reply) ∈ s.replies ∨
        ∃ result, errand.Owns seen result ∧ reply = result.map .answer := by
    rintro stage next u rfl stepped rfl attends
    refine ⟨fun later member => ?_, fun reply replied => .inl ?_⟩
    · rw [eq_of_mem_proceed member]
      exact attends
    · have same : u.replies = s.replies := (Nesting.step_effect stepped).same_replies
      exact same ▸ replied
  cases attends with
  | posting inside quiet =>
    obtain ⟨goes, still⟩ :=
      faithful.kept mine rfl (fun _ other => by cases other) moved quiet
    rcases advanceNested_cases taken with ⟨_, other, _⟩ | ⟨u, next, stepped, same⟩
    · cases other
    · refine further rfl stepped same ?_
      rw [Nesting.step] at stepped
      rcases HostedEngine.command_cases inside.stopped errand.command with
        ⟨ticket, engine, sent, accepted⟩ | ⟨absent, sent⟩ <;>
        rw [show errand.dialect.nestedPipeline errand.pipeline = errand.command from rfl, sent]
          at stepped <;> cases stepped
      · refine .awaiting ticket (inside.goes faithful.lawful goes) still ?_
        rw [same]
        exact .of_command accepted
      · exact .leaving _ (.absent s (here quiet) absent)
  | awaiting ticket inside quiet entrusted =>
    rcases advanceNested_cases taken with ⟨_, other, _⟩ | ⟨u, next, stepped, same⟩
    · cases other
    · refine further rfl stepped same ?_
      cases Nesting.goes_of_step stepped with
      | answer ticket values found =>
        obtain ⟨origin, after, visited, ends⟩ := entrusted.own faithful.ticketed found
        exact .leaving _ (.evaluated origin visited (.ok values) after ends)
      | fail ticket error found =>
        obtain ⟨origin, after, visited, ends⟩ := entrusted.own faithful.ticketed found
        exact .leaving _ (.evaluated origin visited (.error error) after ends)
  | leaving result own =>
    rcases advanceNested_cases taken with ⟨_, other, _⟩ | ⟨u, next, stepped, same⟩
    · cases other
    · refine further rfl stepped same ?_
      cases stepped
      exact .finished result own
  | finished result own =>
    rcases advanceNested_cases taken with ⟨other, same, rfl⟩ | ⟨u, next, stepped, same⟩
    · cases same
      refine ⟨fun later member => absurd member (not_mem_giveBack _), fun reply replied => ?_⟩
      rcases List.mem_append.mp replied with before | now
      · exact .inl before
      · exact .inr ⟨result, own, (Prod.mk.inj (List.mem_singleton.mp now)).2⟩
    · cases stepped

theorem Attends.weaken {wider : Session → Prop} {call : Call}
    (attends : s.Attends errand seen deeds call) (more : ∀ u, seen u → wider u) :
    s.Attends errand wider deeds call := by
  cases attends with
  | posting inside quiet => exact .posting inside quiet
  | awaiting ticket inside quiet entrusted =>
    exact .awaiting ticket inside quiet (entrusted.weaken fun _ visited => visited.weaken more)
  | leaving result own => exact .leaving result (own.weaken more)
  | finished result own => exact .finished result (own.weaken more)

/-- A nested execution waits for no time to pass. -/
theorem Attends.patient {call : Call} (attends : s.Attends errand seen deeds call)
    (orderly : s.Orderly) (mine : (caller, call) ∈ s.calls) (u : Session) :
    s.expire caller ≠ some u := by
  intro expired
  obtain ⟨other, _, member, expires, _⟩ := expires_of_expire expired
  cases orderly.eq_of_number mine member rfl
  cases attends <;> cases expires

end Session

/-- What is to be said of a nested execution with an errand: how far it is, as long as it is in
progress, and what it has returned. -/
def Session.Carries (s : Session) (errand : Errand) (seen : Session → Prop) (deeds : List Deed)
    (caller : Nat) : Prop :=
  s.Follows caller (s.Attends errand seen deeds) fun reply =>
    ∃ result, errand.Owns seen result ∧ reply = result.map .answer

namespace Session

variable {s t : Session} {caller : Nat} {errand : Errand} {seen : Session → Prop}
  {deeds : List Deed}

/-- A nested execution that finds the session paused as the holder of the gate goes on to give its
command to the debugger. -/
theorem Faithful.posts {verb : Option Verb} (faithful : s.Faithful)
    (mine : (caller, errand.call (.relooking errand.dialect)) ∈ s.calls)
    (paused : s.standing = .paused errand.stop verb)
    (moved : s.after (.act (.call caller)) = some t) :
    (caller, errand.call (.posting errand.dialect)) ∈ t.calls ∧ t.InStop errand.stop := by
  rcases advanceNested_cases (faithful.orderly.taken mine moved) with
    ⟨_, other, _⟩ | ⟨u, next, taken, rfl⟩
  · cases other
  · cases Nesting.goes_of_step taken with
    | still dialect held here => exact ⟨mem_proceed_self mine, faithful.inStop paused⟩
    | missed dialect held active =>
      rw [paused] at active
      cases active

/-- It has an errand in that stop then. -/
theorem Faithful.carries {verb : Option Verb} (faithful : s.Faithful)
    (mine : (caller, errand.call (.relooking errand.dialect)) ∈ s.calls)
    (paused : s.standing = .paused errand.stop verb)
    (moved : s.after (.act (.call caller)) = some t) : t.Carries errand seen [] caller := by
  obtain ⟨here, inside⟩ := faithful.posts mine paused moved
  have later := orderly_after faithful.orderly moved
  refine ⟨later.numbered _ here, fun call member => ?_, fun reply replied => ?_, .inl ⟨_, here⟩⟩
  · cases later.eq_of_number member here rfl
    exact .posting inside nofun
  · exact absurd rfl ((later.returned _ replied).2 _ here)

/-! ### Progress -/

/-- The command of an errand is accepted in its stop, unless the debugger is absent. -/
theorem InStop.post (inside : s.InStop errand.stop) (caller : Nat) :
    (∃ ticket engine, s.hosted.engine.command errand.command = .ok (ticket, engine) ∧
      s.advanceCall caller (errand.call (.posting errand.dialect)) =
        some ((s.withEngine engine).proceed caller (errand.call (.awaiting ticket)))) ∨
    s.hosted.debuggerPresent = false ∧
      s.advanceCall caller (errand.call (.posting errand.dialect)) =
        some (s.proceed caller (errand.call (.leaving (.error .debuggerUnavailable)))) := by
  have step : s.advanceCall caller (errand.call (.posting errand.dialect)) = proceedTo caller
      errand.call (Nesting.step caller errand.pipeline errand.shape s (.posting errand.dialect)) := rfl
  have command : errand.dialect.nestedPipeline errand.pipeline = errand.command := rfl
  rcases HostedEngine.command_cases inside.stopped errand.command with
    ⟨ticket, engine, sent, accepted⟩ | ⟨absent, sent⟩ <;> rw [step, Nesting.step, command, sent]
  · exact .inl ⟨ticket, engine, accepted, rfl⟩
  · exact .inr ⟨absent, rfl⟩

/-- The outcome of the command is the result of the errand. -/
theorem advance_awaiting {ticket : Nat} {outcome : Engine.Outcome}
    (found : s.hosted.engine.result? ticket = some outcome) :
    s.advanceCall caller (errand.call (.awaiting ticket)) =
      some (s.proceed caller (errand.call (.leaving (errand.result outcome)))) := by
  show proceedTo caller errand.call (Nesting.step _ _ _ _ (.awaiting ticket)) = _
  rw [Nesting.step, found]
  cases outcome <;> rfl

/-- **A nested execution with an errand is never stuck**: it can go on, or the engine can. -/
theorem Attends.moves {call : Call} (attends : s.Attends errand seen deeds call)
    (faithful : s.Faithful) (mine : (caller, call) ∈ s.calls) :
    (∃ t, s.after (.act (.call caller)) = some t) ∨ ∃ t, s.after (.act .engine) = some t := by
  have goes : ∀ {t}, s.advanceCall caller call = some t →
      (∃ t, s.after (.act (.call caller)) = some t) ∨ ∃ t, s.after (.act .engine) = some t :=
    fun taken => .inl ⟨_, faithful.orderly.act mine taken⟩
  cases attends with
  | posting inside quiet =>
    rcases inside.post caller with ⟨_, _, _, taken⟩ | ⟨_, taken⟩ <;> exact goes taken
  | awaiting ticket inside quiet entrusted =>
    cases found : s.hosted.engine.result? ticket with
    | none =>
      obtain ⟨f, stepped⟩ := entrusted.moves faithful.lawful inside.1 found
      refine .inr ⟨s.withEngine f, ?_⟩
      show s.hosted.engine.step.map _ = _
      rw [stepped]
      rfl
    | some outcome => exact goes (advance_awaiting found)
  | leaving result own => exact goes rfl
  | finished result own => exact goes rfl

end Session

/-- How many steps before its last one a nested execution has to take that has its outcome. -/
def Call.stepsLeft : Call → Nat
  | nested _ _ (.awaiting _) => 2
  | nested _ _ (.leaving _) => 1
  | _ => 0

namespace Session

variable {s t : Session} {caller : Nat} {errand : Errand}

/-- An errand that has its outcome is returned by the steps of its call. -/
theorem Orderly.exists_course_returned (orderly : s.Orderly) (j : Journal) {ticket : Nat}
    {outcome : Engine.Outcome} (mine : (caller, errand.call (.awaiting ticket)) ∈ s.calls)
    (found : s.hosted.engine.result? ticket = some outcome) : ∃ k t, Course (.only []) s j k t ∧
      t.reply? caller = some ((errand.result outcome).map .answer) := by
  refine @exists_course_done caller (fun s call =>
    call = errand.call (.awaiting ticket) ∧ s.hosted.engine.result? ticket = some outcome ∨
      call = errand.call (.leaving (errand.result outcome)) ∨
      call = errand.call (.finished (errand.result outcome))) _ Call.stepsLeft ?_ s j _ orderly mine
    (.inl ⟨rfl, found⟩)
  rintro s call orderly mine (⟨rfl, found⟩ | rfl | rfl)
  · exact ⟨_, advance_awaiting found, .inr ⟨_, mem_proceed_self mine, .inr (.inl rfl), Nat.one_lt_two⟩⟩
  · exact ⟨_, rfl, .inr ⟨_, mem_proceed_self mine, .inr (.inr rfl), Nat.zero_lt_one⟩⟩
  · exact ⟨_, rfl, .inl (orderly.reply?_giveBack mine _)⟩

/-- **A nested execution with an errand gets there**: where the debugger is present and holds no
other commands, the session by itself returns what the pipeline comes to. -/
theorem Faithful.exists_course_returned (faithful : s.Faithful) (j : Journal)
    (mine : (caller, errand.call (.posting errand.dialect)) ∈ s.calls)
    (inside : s.InStop errand.stop) (alone : s.hosted.engine.commands = [])
    (present : s.hosted.debuggerPresent = true) {outcome : Engine.Outcome}
    {after : Engine.Interpreter}
    (ends : (s.hosted.engine.undebugged errand.command).Ends s.hosted.engine.files outcome after) :
    ∃ k t, Course (.only []) s j k t ∧
      t.reply? caller = some ((errand.result outcome).map .answer) := by
  rcases inside.post caller with ⟨ticket, engine, sent, taken⟩ | ⟨absent, _⟩
  · obtain ⟨activity, inbox, files⟩ := Engine.command_activity sent
    have goes : s.hosted.engine.Goes engine := .use (.command _ ticket sent)
    have unserved : engine.isServing = false := by
      unfold Engine.isServing
      rw [activity]
      unfold Engine.commands at alone
      cases asker : s.hosted.engine.activity.asker? with
      | none => rfl
      | some other =>
        rw [asker] at alone
        cases alone
    have empty : s.hosted.engine.inbox = [] := by
      cases waiting : s.hosted.engine.inbox with
      | nil => rfl
      | cons request rest =>
        have verbs := (Bool.and_eq_true_iff.mp inside.1).2
        unfold Engine.commands at alone
        rw [waiting] at verbs alone
        cases request with
        | command other pipeline => cases (List.append_eq_nil_iff.mp alone).2
        | verb verb => cases verbs
    rw [empty] at inbox
    have same : engine.undebugged errand.command = s.hosted.engine.undebugged errand.command := by
      unfold Engine.undebugged Engine.state
      rw [activity, files]
    rw [← same, ← files] at ends
    obtain ⟨f, steps, found⟩ := Engine.serves (goes.lawful faithful.lawful)
      (goes.ticketed faithful.lawful faithful.ticketed) (goes.opens faithful.lawful inside.1)
      unserved inbox ends
    -- The call gives its command to the engine, the engine answers, and the call returns.
    let posted := (s.withEngine engine).proceed caller (errand.call (.awaiting ticket))
    have first := faithful.orderly.course mine taken j
    obtain ⟨k, second⟩ := exists_course_steps steps posted _ rfl
    have here : (caller, errand.call (.awaiting ticket)) ∈ posted.calls := mem_proceed_self mine
    have orderly : (posted.withEngine f).Orderly :=
      (orderly_after faithful.orderly (faithful.orderly.act mine taken)).frame rfl rfl rfl rfl rfl
    obtain ⟨l, t, third, replied⟩ := Orderly.exists_course_returned orderly k here found
    exact ⟨l, t, (first.trans second).trans third, replied⟩
  · rw [present] at absent
    cases absent

end Session

/-- The sessions on the way from `s` to `t` before a stop is recorded or ended. -/
def Chronicle.Calm (env : Environment) (s : Session) (deeds : List Deed) (t u : Session) : Prop :=
  ∃ before behind, Chronicle env s before u ∧ Chronicle env u behind t ∧ deeds = before ++ behind ∧
    ∀ deed ∈ before, deed.turns = false

/-- **A nested execution gets its own result, in the stop that it has found**, whatever is done
meanwhile short of verbs of others. -/
theorem Chronicle.carries {env : Environment} {s t : Session} {deeds : List Deed} {caller : Nat}
    {errand : Errand} (chronicle : Chronicle env s deeds t) (verbless : env.Verbless)
    (faithful : s.Faithful) (before : s.Carries errand (Calm env s [] s) [] caller) :
    t.Carries errand (Calm env s deeds t) deeds caller := by
  suffices holds : t.Faithful ∧ Chronicle env s deeds t ∧
      t.Carries errand (Calm env s deeds t) deeds caller from holds.2.2
  refine chronicle.invariant (fun t deeds => t.Faithful ∧ Chronicle env s deeds t ∧
    t.Carries errand (Calm env s deeds t) deeds caller) ?_ ⟨faithful, .rest, before⟩
  rintro t u deeds move ⟨faithful, way, carries⟩ allowed moved
  have others : ∀ engine, move = .outside engine → t.hosted.engine.Used engine :=
    fun engine same => verbless t engine (same ▸ allowed)
  have here : (∀ deed ∈ deeds, deed.turns = false) → Calm env s deeds t t := fun quiet =>
    ⟨deeds, [], way, .rest, (List.append_nil deeds).symm, quiet⟩
  have longer : ∀ v, Calm env s deeds t v → Calm env s (deeds ++ (t.deed? move u).toList) u v := by
    rintro v ⟨before, behind, first, second, rfl, quiet⟩
    exact ⟨before, _, first, second.move move allowed moved, List.append_assoc _ _ _, quiet⟩
  refine ⟨Session.faithful_after faithful others moved, way.move move allowed moved, ?_⟩
  unfold Session.Carries at carries
  have going := (carries.onward moved (fun v expired => ?_) ?_ ?_ : u.Follows caller
    (u.Attends errand (Calm env s deeds t) (deeds ++ (t.deed? move u).toList)) _)
  · exact going.weaken (fun call _ attends => attends.weaken longer)
      fun reply ⟨result, own, same⟩ => ⟨result, own.weaken longer, same⟩
  · obtain ⟨call, _, mine, _⟩ := Session.expires_of_expire expired
    exact (carries.going call mine).patient faithful.orderly mine v expired
  · exact fun call _ mine attends => attends.idle faithful here mine others moved
  · rintro call rfl mine attends taken
    exact attends.own faithful here mine moved taken

end ShellSession
