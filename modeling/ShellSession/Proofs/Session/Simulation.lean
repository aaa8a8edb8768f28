/-
**Sessions and serial runs.**

Whatever callers, the host and the scheduler do, a session that nobody shuts down does what a serial
run does: the requests that have a result are the jobs of a serial run that has come to the same
results, the same output and the same engine, and the attempt under way is the next job of it.

* `Session.Unnested`: no nested execution is in progress;
* `Session.Touches.runs`: what happens to the engine happens in a serial run as well;
* `Session.work_serial`: a step of the thread is a step of a serial run, or comes back busy;
* `Session.Serially`: **the serial run that a session stands for**;
* `Session.serially_after`: kept by every move.
-/

import ShellSession.Proofs.Session.Attempt
import ShellSession.Proofs.Session.Parked
import ShellSession.Proofs.Session.Outcome

namespace ShellSession

/-! ### Engines that stand still -/

namespace Engine

variable {e : Engine}

/-- An engine that does no run does nothing by itself. -/
theorem step_of_free (free : e.main? = none) : e.step = none := by
  unfold main? at free
  unfold step
  cases activity : e.activity with
  | idle s => rfl
  | running ticket x =>
    rw [activity] at free
    cases free
  | nested ticket waiting asker x =>
    rw [activity] at free
    cases free

/-- An engine in a stop into which nobody has sent anything waits. -/
theorem step_of_open (opens : e.isOpen = true) (unasked : e.commands = []) : e.step = none := by
  have inside : e.isStopped = true := (Bool.and_eq_true_iff.mp opens).1
  obtain ⟨ticket, stop, s, resume, callers, activity⟩ := exists_stopped_of_commands inside unasked
  exact step_empty activity (inbox_nil unasked opens)

/-- A lawful engine that does no run is at rest. -/
theorem atRest_of_free (lawful : e.Lawful) (ticketed : e.Ticketed) (free : e.main? = none) :
    e.AtRest := by
  have level := lawful.activity
  have inbox := lawful.inbox
  unfold main? at free
  unfold isStopped stop? at inbox
  cases activity : e.activity with
  | idle s =>
    rw [activity] at level inbox
    exact ⟨⟨s, activity, level⟩, inbox rfl, ticketed.answered⟩
  | running ticket x =>
    rw [activity] at free
    cases free
  | nested ticket waiting asker x =>
    rw [activity] at free
    cases free

end Engine

/-! ### Sessions without nested executions -/

/-- No nested execution is in progress. -/
def Session.Unnested (s : Session) : Prop :=
  ∀ entry ∈ s.calls, ∀ pipeline shape, entry.2.order ≠ .nested pipeline shape

/-- An environment in which nobody asks for a nested execution. -/
def Environment.Unnested (env : Environment) : Prop :=
  ∀ s pipeline shape, ¬ env s (.order (.nested pipeline shape))

namespace Session

variable {s t : Session} {move : Move}

/-- A call goes on with the order with which it has begun. -/
theorem order_after {entry : Nat × Call} (moved : s.after move = some t) (member : entry ∈ t.calls) :
    (∃ call, (entry.1, call) ∈ s.calls ∧ entry.2.order = call.order) ∨
      ∃ order, move = .order order ∧ entry.2.order = order := by
  cases moves_of_after moved with
  | call caller moved =>
    obtain ⟨call, next, found, advances⟩ := advance_advances moved
    rw [advances.calls] at member
    rcases mem_callsBehind member with ⟨_, old⟩ | ⟨later, same, rfl⟩
    · exact .inl ⟨entry.2, old, rfl⟩
    · exact .inl ⟨call, mem_of_lookup found, advances.order later same⟩
  | timeout caller mine expires =>
    rcases mem_proceed member with ⟨_, old⟩ | rfl
    · exact .inl ⟨entry.2, old, rfl⟩
    · exact .inl ⟨_, mine, expires.order⟩
  | order order =>
    rcases List.mem_append.mp member with old | new
    · exact .inl ⟨entry.2, old, rfl⟩
    · rw [List.mem_singleton.mp new]
      exact .inr ⟨order, rfl, order.order_call⟩
  | driver _ same | listener _ same | aside _ same =>
    rw [same] at member
    exact .inl ⟨entry.2, member, rfl⟩

theorem unnested_after (unnested : s.Unnested)
    (asked : ∀ pipeline shape, move ≠ .order (.nested pipeline shape))
    (moved : s.after move = some t) : t.Unnested := by
  intro entry member pipeline shape nested
  rcases order_after moved member with ⟨call, mine, same⟩ | ⟨order, rfl, same⟩
  · exact unnested _ mine pipeline shape (same.symm.trans nested)
  · exact asked pipeline shape (by rw [← same, nested])

/-- Where no nested execution is in progress, there is no command. -/
theorem Unnested.commands (unnested : s.Unnested) (linked : s.Linked) :
    s.hosted.engine.commands = [] := by
  refine List.eq_nil_iff_forall_not_mem.mpr fun ticket sent => ?_
  obtain ⟨entry, member, pipeline, shape, waits⟩ := linked.asked ticket sent
  exact unnested entry member pipeline shape (by rw [waits]; rfl)

/-! ### The engine in a serial run -/

/-- A session as a serial run that is doing something, with nothing to come. -/
def serial (s : Session) (working : Working) : Serial where
  engine := s.hosted.engine
  waiting := []
  working := working
  gates := []
  results := s.results
  output := s.output
  cues := []

/-- A session whose engine has gone on, as a serial run. -/
def serialWith (s : Session) (working : Working) (engine : Engine) : Serial :=
  { s.serial working with engine := engine }

end Session

/-- Whoever leaves the engine as it is gives no cue. -/
theorem Engine.newCues_same (e : Engine) (move : Move) : e.newCues move e = [] := by
  unfold newCues
  split
  · have same : (e.state.stepping && !e.state.stepping) = false := by
      cases e.state.stepping <;> rfl
    rw [List.drop_length, same]
    rfl
  · rfl

/-- Step mode switched on is a cue, unless it is on already. -/
theorem Engine.newCues_pause (e : Engine) (caller : Nat) :
    e.newCues (.act (.call caller)) (e.setStepping true) =
      if e.state.stepping then [] else [.pause] := by
  show ((e.setStepping true).inbox.drop e.inbox.length).filterMap cue? ++
    (if (e.setStepping true).state.stepping && !e.state.stepping then [.pause] else []) = _
  rw [Engine.state_setStepping]
  show (e.inbox.drop e.inbox.length).filterMap cue? ++ _ = _
  rw [List.drop_length]
  cases e.state.stepping <;> rfl

/-- A verb sent is a cue. -/
theorem Engine.newCues_verb {e f : Engine} (caller : Nat) {verb : Verb}
    (resumed : e.resume verb = .ok f) : e.newCues (.act (.call caller)) f = [.verb verb] := by
  unfold Engine.resume at resumed
  split at resumed <;> cases resumed
  show ((e.inbox ++ [StopRequest.verb verb]).drop e.inbox.length).filterMap cue? ++
    (if e.state.stepping && !e.state.stepping then [.pause] else []) = _
  rw [List.drop_left]
  cases e.state.stepping <;> rfl

namespace Session

variable {s t : Session} {move : Move}

/-- A verb is sent while a request is parked. -/
theorem Attached.parked_of_grips (attached : s.Attached) {entry : Nat × Call}
    (mine : entry ∈ s.calls) (grips : entry.2.grips = true) :
    ∃ request ticket next stop, s.Parked request ticket next stop := by
  have some : 0 < s.tokens := by
    unfold tokens
    rw [gripped_of_mem mine grips]
    exact Nat.succ_pos _
  obtain ⟨ticket, stop, held⟩ := Engine.exists_held (attached.poised.opens some)
  obtain ⟨request, next, working⟩ := attached.linked.mine ticket held.main
  exact ⟨request, ticket, next, stop, working, held⟩

/-- **What happens to the engine happens in a serial run as well.** The serial run does what the
thread does, or rests while the thread does. -/
theorem Touches.runs (touches : s.Touches move t) (attached : s.Attached) (unnested : s.Unnested)
    (other : move ≠ .act .thread) {working : Working}
    (place : working = s.working ∨ s.working.request? = Option.none) {x : Serial}
    (runs : x.Runs (s.serial working)) :
    (x.extend [] (s.hosted.engine.newCues move t.hosted.engine)).Runs
      (s.serialWith working t.hosted.engine) := by
  have linked := attached.linked
  have further := runs.extend [] (s.hosted.engine.newCues move t.hosted.engine)
  -- The engine does something only for an attempt that waits for it.
  have awaits {request : Request} {ticket : Nat}
      {next : Except EngineFailure (List Value) → Routine}
      (mine : s.working = .awaiting request ticket next) : working = s.working := by
    refine place.resolve_right fun free => ?_
    rw [mine] at free
    cases free
  cases touches with
  | none engine =>
    rw [engine, Engine.newCues_same] at further
    rw [engine, Engine.newCues_same]
    exact further
  | step stepped =>
    cases main : s.hosted.engine.main? with
    | none =>
      rw [Engine.step_of_free main] at stepped
      cases stepped
    | some ticket =>
      obtain ⟨request, next, mine⟩ := linked.mine ticket main
      have waits := linked.ticketed.unanswered (Engine.owed_of_main main)
      exact further.step (Serial.Moves.compute (x := s.serial working) request ticket next _
        ((awaits mine).trans mine) waits stepped).step
  | invoke => exact absurd rfl other
  | command caller call mine nested =>
    obtain ⟨pipeline, shape, nested⟩ := nested
    exact absurd nested (unnested _ mine pipeline shape)
  | pause caller switched =>
    rw [switched, Engine.newCues_pause] at further
    rw [switched, Engine.newCues_pause]
    by_cases stepping : s.hosted.engine.state.stepping = true
    · rw [if_pos stepping] at further ⊢
      rw [Engine.setStepping_same stepping]
      exact further
    · rw [if_neg stepping] at further ⊢
      exact further.pause rfl
  | verb caller call mine grips verb asked resumed =>
    obtain ⟨request, ticket, next, stop, parked⟩ := attached.parked_of_grips mine grips
    rw [Engine.newCues_verb caller resumed] at further ⊢
    exact further.step (Serial.Moves.resume (x := (s.serial working).extend [] [.verb verb]) request
      ticket next verb _ [] ((awaits parked.working).trans parked.working)
      (parked.unanswered linked)
      (Engine.step_of_open parked.held.opens (unnested.commands linked)) rfl resumed).step

end Session

/-! ### Results -/

section

variable {d e : Desk} {l : Ledger} {said : Option Said}

/-- While the thread is not at work, nothing is completed, unless somebody shuts the session down or
a request gives up. -/
theorem Handling.results_of_free (handling : Handling d said e) (custody : d.Custody l)
    (unborn : d.driving = .unborn → d.queue.items = []) (held : e.shutdown = false)
    (patient : ∀ id attempts, (id, .error (.retriesExhausted attempts)) ∉ e.results)
    (free : d.working.request? = none) : e.results = d.results := by
  have fires : d.shutdown = true → e.shutdown = true := handling.shutdown
  have unfired : d.shutdown = true → False := fun fired =>
    Bool.false_ne_true (held.symm.trans (fires fired))
  cases handling with
  | turnAway driving =>
    have empty : d.queue.items = [] := by
      rcases driving with before | after
      · exact unborn before
      · exact ((custody.closing after).resolve_left unfired).2
    show d.results ++ rejections d.queue.items = d.results
    rw [empty]
    exact List.append_nil _
  | reject request gated fired => exact (unfired fired).elim
  | abandon request attempts retrying fired => exact (unfired fired).elim
  | exhaust request attempts judging concluded =>
    exact absurd (List.mem_append_right d.results (List.mem_singleton_self _))
      (patient request.id attempts)
  | settle request routine result working ended =>
    rw [working] at free
    cases free
  | _ => rfl

/-- While the thread is at work, nobody else completes anything, and the driver waits. -/
theorem Handling.same_of_busy (handling : Handling d said e) (agree : d.driving.Agrees d.working)
    {request : Request} (busy : d.working.request? = some request) (same : e.working = d.working) :
    e.results = d.results ∧ e.driving = d.driving := by
  have attempting : ∃ attempts, d.driving = .attempting request attempts := by
    cases working : d.working with
    | working other routine =>
      rw [working] at busy
      cases busy
      exact Desk.attempting_of_working agree working
    | awaiting other ticket next =>
      rw [working] at busy
      cases busy
      exact Desk.attempting_of_awaiting agree working
    | _ =>
      rw [working] at busy
      cases busy
  obtain ⟨attempts, attempting⟩ := attempting
  have never {driving : Driving} (here : d.driving = driving)
      (apart : driving ≠ .attempting request attempts) : e.results = d.results ∧
        e.driving = d.driving :=
    absurd (here.symm.trans attempting) apart
  cases handling with
  | spawn here | withdraw here _ | turn here _ | take _ _ here _ | conclude here _ _
  | wait here _ _ | reject _ here _ | mark _ here _ | launch _ here | relaunch _ _ here _
  | exhaust _ _ here _ | backOff _ _ _ here _ | retry _ _ _ here _ | unmark here =>
    exact never here nofun
  | turnAway free => rcases free with here | here <;> exact never here nofun
  | abandon other number retrying fired =>
    rcases retrying with ⟨signals, here⟩ | here <;> exact never here nofun
  | hear _ _ _ replying | leave _ _ _ replying =>
    rw [replying] at busy
    cases busy
  | settle other routine result working ended => exact absurd (same.trans working) nofun
  | _ => exact ⟨rfl, rfl⟩

/-- The thread is put to work by the launch of an attempt. -/
theorem Handling.launched (handling : Handling d said e) (free : d.working.request? = none)
    {request : Request} (busy : e.working.request? = some request) :
    ∃ number, e.driving = .attempting request number ∧
      e.working = .working request (request.payload.attempt number) := by
  have never {request : Request} {routine : Routine}
      (working : d.working = .working request routine) : False := by
    rw [working] at free
    cases free
  cases handling with
  | launch other marking =>
    cases busy
    exact ⟨1, rfl, rfl⟩
  | relaunch other attempts regated held =>
    cases busy
    exact ⟨attempts + 1, rfl, rfl⟩
  | hear | leave | holdBack | settle => cases busy
  | proceed _ _ _ _ working _ | ask _ _ _ _ working => exact (never working).elim
  | receive other ticket next outcome awaiting =>
    rw [awaiting] at free
    cases free
  | _ => exact absurd (free.symm.trans busy) nofun

end

/-! ### The thread in a serial run -/

namespace HostedEngine

/-- A run is held back, or refused by the engine, or begun. -/
theorem invoke_cases (h : HostedEngine) (pipeline : Pipeline) :
    (∃ g, h.invoke pipeline = (.error .busy, g) ∧ g.engine = h.engine) ∨
    (∃ error g, h.invoke pipeline = (.error error, g) ∧ g.engine = h.engine ∧
      h.engine.invoke pipeline = .error error) ∨
    ∃ ticket g, h.invoke pipeline = (.ok ticket, g) ∧
      h.engine.invoke pipeline = .ok (ticket, g.engine) := by
  have engine := h.letThrough_engine
  unfold invoke
  split
  · rename_i g passed
    rw [passed] at engine
    exact .inl ⟨g, rfl, engine⟩
  · rename_i g passed
    rw [passed] at engine
    cases invoked : g.engine.invoke pipeline with
    | error error => exact .inr (.inl ⟨error, g, rfl, engine, engine ▸ invoked⟩)
    | ok pair =>
      refine .inr (.inr ⟨pair.1, { g with engine := pair.2 }, rfl, ?_⟩)
      rw [← engine]
      exact invoked

/-- A question is held back, or answered by the engine. -/
theorem askVariable_cases (h : HostedEngine) (name : String) : ∃ g, g.engine = h.engine ∧
    (h.askVariable name = (.error .busy, g) ∨
      h.askVariable name = (h.engine.askVariable name, g)) := by
  have engine := h.letThrough_engine
  unfold askVariable
  split
  · rename_i g passed
    rw [passed] at engine
    exact ⟨g, engine, .inl rfl⟩
  · rename_i g passed
    rw [passed] at engine
    exact ⟨g, engine, .inr (by rw [← engine])⟩

/-- A question is held back, or answered by the engine. -/
theorem askRelease_cases (h : HostedEngine) : ∃ g, g.engine = h.engine ∧
    (h.askRelease = (.error .busy, g) ∨ h.askRelease = (h.engine.askRelease, g)) := by
  have engine := h.letThrough_engine
  unfold askRelease
  split
  · rename_i g passed
    rw [passed] at engine
    exact ⟨g, engine, .inl rfl⟩
  · rename_i g passed
    rw [passed] at engine
    exact ⟨g, engine, .inr (by rw [← engine])⟩

end HostedEngine

namespace Session

variable {s t : Session} {move : Move}

/-- What a step of the thread is in a serial run: the word that the attempt was busy, which is none;
or the completion of the request; or a step on the way, with a gate for each question. -/
inductive Paces (s : Session) (request : Request) (t : Session) : Prop
  | busy (working : s.working = .working request .busy) (replying : t.working = .replying true)
      (same : t.serial .resting = s.serial .resting) : Paces s request t
  | settle (result : Result) (replying : t.working = .replying false)
      (results : t.results = s.results ++ [(request.id, result)])
      (moves : (s.serial s.working).Moves (t.serial .resting)) : Paces s request t
  | further (gates : List Bool) (working : t.working.request? = some request)
      (results : t.results = s.results)
      (moves : ((s.serial s.working).extendGates gates).Moves (t.serial t.working)) :
      Paces s request t

/-- A question that is held back or answered is one with a gate. -/
theorem paces_of_question {request : Request} {routine later : Routine} {hosted : HostedEngine}
    (working : s.working = .working request routine) (engine : hosted.engine = s.hosted.engine)
    (place : routine.refused? = some later ∨ routine.answered? s.hosted.engine = some later)
    (same : t = { s with hosted := hosted, working := .working request later }) :
    s.Paces request t := by
  subst same
  have still : s.serial s.working = s.serialWith (.working request routine) hosted.engine := by
    rw [working, engine]
    rfl
  rcases place with refused | answered
  · refine .further [false] rfl rfl ?_
    rw [still]
    exact .refuse request routine later [] rfl rfl refused
  · refine .further [true] rfl rfl ?_
    rw [still]
    exact .answer request routine later [] rfl rfl (engine ▸ answered)

/-- A step along a routine is one of a serial run. -/
theorem follow_paces {request : Request} {routine : Routine}
    (working : s.working = .working request routine) :
    s.Paces request (s.follow request routine) := by
  have still : s.serial s.working = s.serial (.working request routine) := by rw [working]
  cases routine with
  | busy => exact .busy working rfl rfl
  | complete conclusion =>
    refine .settle _ rfl rfl ?_
    rw [still]
    exact .settle request _ _ rfl rfl
  | panic payload =>
    refine .settle _ rfl rfl ?_
    rw [still]
    exact .settle request _ _ rfl rfl
  | report lines conclusion =>
    refine .further [] rfl rfl ?_
    rw [still]
    exact .report request lines conclusion rfl
  | invoke pipeline next =>
    rw [follow]
    rcases s.hosted.invoke_cases pipeline with ⟨hosted, same, engine⟩ |
      ⟨error, hosted, same, engine, invoked⟩ | ⟨ticket, hosted, same, invoked⟩
    · rw [same]
      exact paces_of_question working engine (.inl rfl) rfl
    · rw [same]
      refine paces_of_question working engine (.inr ?_) rfl
      simp only [Routine.answered?, invoked]
    · rw [same]
      refine .further [true] rfl rfl ?_
      rw [still]
      exact .begin request pipeline next ticket hosted.engine [] rfl rfl invoked
  | askVariable name next =>
    obtain ⟨hosted, engine, place⟩ := s.hosted.askVariable_cases name
    rw [follow]
    rcases place with same | same
    · rw [same]
      exact paces_of_question working engine (.inl rfl) rfl
    · rw [same]
      exact paces_of_question working engine (.inr rfl) rfl
  | askRelease next =>
    obtain ⟨hosted, engine, place⟩ := s.hosted.askRelease_cases
    rw [follow]
    rcases place with same | same
    · rw [same]
      exact paces_of_question working engine (.inl rfl) rfl
    · rw [same]
      exact paces_of_question working engine (.inr rfl) rfl

/-- **A step of the thread is one of a serial run.** -/
theorem work_paces {request : Request} (busy : s.working.request? = some request)
    (moved : s.work = some t) : s.Paces request t := by
  unfold work at moved
  cases working : s.working with
  | working other routine =>
    rw [working] at busy moved
    cases busy
    cases moved
    exact follow_paces working
  | awaiting other ticket next =>
    rw [working] at busy moved
    cases busy
    obtain ⟨outcome, found, rfl⟩ := Option.map_eq_some_iff.mp moved
    refine .further [] rfl rfl ?_
    rw [working]
    exact .receive request ticket next outcome rfl found
  | _ =>
    rw [working] at busy
    cases busy

end Session

end ShellSession
