/-
**A session is equivalent to a serial run.**

The results that a session has given, the output that it has written and the engine that it has left
are those of a serial run over its requests, in the order of their numbers, each by one attempt: the
last one, the busy attempts before it being left out. The serial run is given the verbs that callers
sent, and it is free when to switch on step mode.

* `Session.Done`: the jobs that stand for the requests with a result;
* `Session.Serially`: **the serial run that a session stands for**;
* `Session.serially_after`: every move keeps it, as long as nobody shuts the session down and no
  request gives up;
* `Course.begun_taken`: attempts are begun at accepted requests, and at none that is still queued;
* `Course.accepted_payloads`: where the payloads of requests come from;
* `Course.serial_pipelines`: what callers can say of it who submit pipelines only;
* `Course.serial`: **a session is equivalent to a serial run**.
-/

import ShellSession.Proofs.Session.Simulation

namespace ShellSession

/-! ### Jobs that are done -/

/-- The attempt of a job is the last one at its request, and all before it came back busy. -/
def Job.Counts (job : Job) (l : Ledger) : Prop :=
  ∃ busy, job.number = busy + 1 ∧ l.record job.request.id = tries (busy + 1) busy

/-- The jobs that stand for the requests with a result. -/
structure Session.Done (s : Session) (j : Journal) (jobs : List Job) : Prop where
  ids : (jobs.map fun job => job.request.id) = s.results.map Prod.fst
  accepted : ∀ job ∈ jobs, job.request ∈ j.ledger.accepted
  counted : ∀ job ∈ jobs, job.Counts j.ledger
  answered : ∀ job ∈ jobs, job.request.payload.Passes → false ∉ job.gates

namespace Session

variable {s t : Session} {j : Journal} {move : Move} {jobs : List Job} {request : Request}
  {number : Nat}

/-- The request of the attempt under way is in the driver's hand. -/
theorem inHand_of_busy (driving : s.driving = .attempting request number) {other : Request}
    (busy : s.working.request? = some other) : s.desk.inHand = [request] := by
  have driving : s.desk.driving = .attempting request number := driving
  cases working : s.working with
  | working mine routine =>
    have working : s.desk.working = .working mine routine := working
    simp only [Desk.inHand, driving, working]
  | awaiting mine ticket next =>
    have working : s.desk.working = .awaiting mine ticket next := working
    simp only [Desk.inHand, driving, working]
  | _ =>
    rw [working] at busy
    cases busy

/-- The request of the attempt under way has been accepted. -/
theorem Sound.accepted_of_busy (sound : s.Sound j)
    (driving : s.driving = .attempting request number) {other : Request}
    (busy : s.working.request? = some other) : request ∈ j.ledger.accepted := by
  refine sound.custody.accepted_of_unsettled (List.mem_append_left _ ?_)
  rw [inHand_of_busy driving busy]
  exact List.mem_singleton_self request

/-- Jobs that are done stay done. -/
theorem Done.after (done : s.Done j jobs) (sound : s.Sound j) (moved : s.after move = some t)
    (results : t.results = s.results) : t.Done (j.note s move t) jobs := by
  refine ⟨by rw [results]; exact done.ids, fun job member =>
    List.mem_append_left _ (done.accepted job member), fun job member => ?_, done.answered⟩
  obtain ⟨busy, last, tried⟩ := done.counted job member
  have settled : job.request.id ∈ s.results.map Prod.fst := by
    rw [← done.ids]
    exact List.mem_map_of_mem member
  obtain ⟨entry, given, same⟩ := List.mem_map.mp settled
  refine ⟨busy, last, Eq.trans ?_ tried⟩
  refine (after_handling moved).record job.request.id fun other mine _ => ?_
  rw [← same]
  have given : (entry.1, entry.2) ∈ s.desk.results := given
  refine Nat.ne_of_lt (sound.custody.settled_lt given ?_)
  exact List.mem_append_left _ (by rw [mine]; exact List.mem_singleton_self other)

/-- The job whose request has been completed is done as well. -/
theorem Done.settle {job : Job} {result : Result} (done : s.Done j jobs) (sound : s.Sound j)
    (driving : s.driving = .attempting job.request job.number)
    (busy : s.working.request? = some job.request)
    (results : t.results = s.results ++ [(job.request.id, result)])
    (waits : t.driving = s.driving)
    (answered : job.request.payload.Passes → false ∉ job.gates) :
    t.Done (j.note s move t) (jobs ++ [job]) := by
  have record : (j.note s move t).ledger.record = j.ledger.record := by
    refine j.ledger.record_note (.inl ?_) (.inl ?_)
    · show t.desk.attempt? = s.desk.attempt?
      simp only [Desk.attempt?, Session.desk, waits]
    · show t.desk.busyAttempt? = s.desk.busyAttempt?
      simp only [Desk.busyAttempt?, Session.desk, waits]
  have counts : job.Counts j.ledger := by
    have underway := sound.accounts.underway
    simp only [Desk.Underway, Session.desk, driving] at underway
    obtain ⟨busy, last, tried, _⟩ := underway
    exact ⟨busy, last, tried⟩
  refine ⟨?_, fun other member => List.mem_append_left _ ?_, fun other member => ?_,
    fun other member => ?_⟩
  · rw [List.map_append, done.ids, results, List.map_append]
    rfl
  · rcases List.mem_append.mp member with old | new
    · exact done.accepted other old
    · rw [List.mem_singleton.mp new]
      exact sound.accepted_of_busy driving busy
  · unfold Job.Counts
    rw [record]
    rcases List.mem_append.mp member with old | new
    · exact done.counted other old
    · rw [List.mem_singleton.mp new]
      exact counts
  · rcases List.mem_append.mp member with old | new
    · exact done.answered other old
    · rw [List.mem_singleton.mp new]
      exact answered

/-- The jobs that are done are all that is accepted and settled, in the order of acceptance. -/
theorem Done.order (done : s.Done j jobs) (sound : s.Sound j) :
    j.ledger.accepted = jobs.map Job.request ++ s.desk.unsettled := by
  obtain ⟨settled, order, ids⟩ := sound.custody.order
  have within : ∀ request ∈ settled, request ∈ j.ledger.accepted := by
    intro request member
    rw [order]
    exact List.mem_append_left _ member
  have alike : ∀ (jobs : List Job) (requests : List Request),
      (∀ job ∈ jobs, job.request ∈ j.ledger.accepted) →
      (∀ request ∈ requests, request ∈ j.ledger.accepted) →
      (jobs.map fun job => job.request.id) = requests.map Request.id →
      jobs.map Job.request = requests := by
    intro jobs
    induction jobs with
    | nil =>
      intro requests _ _ same
      exact (List.map_eq_nil_iff.mp same.symm).symm
    | cons job jobs ih =>
      intro requests mine theirs same
      cases requests with
      | nil => cases same
      | cons request requests =>
        obtain ⟨first, others⟩ := List.cons.inj same
        have equal : job.request = request := sound.custody.eq_of_id
          (mine job List.mem_cons_self) (theirs request List.mem_cons_self) first
        have rest := ih requests (fun other member => mine other (List.mem_cons_of_mem job member))
          (fun other member => theirs other (List.mem_cons_of_mem request member)) others
        rw [List.map_cons, equal, rest]
  rw [order, alike jobs settled done.accepted within (done.ids.trans ids.symm)]

end Session

/-! ### The serial run of a session -/

/-- The serial run that a session stands for. Between two attempts that count, it has done the jobs
of all requests with a result. During an attempt it has done so before, over an engine at rest, and
has come as far in the next job as the thread has in the attempt. -/
inductive Session.Serially (engine : Engine) (s : Session) (j : Journal) : Prop
  | between (jobs : List Job) (done : s.Done j jobs) (free : s.working.request? = none)
      (runs : (Serial.start engine jobs j.cues).Runs (s.serial .resting)) : Serially engine s j
  | during (jobs : List Job) (done : s.Done j jobs) (job : Job) (x : Serial)
      (before since : List Cue) (driving : s.driving = .attempting job.request job.number)
      (busy : s.working.request? = some job.request) (rest : x.engine.AtRest)
      (cues : j.cues = before ++ since) (first : (Serial.start engine jobs before).Runs x.spent)
      (runs : (x.attempt job since).Runs (s.serial s.working)) : Serially engine s j

/-- No step of a call writes to the output. -/
theorem Effect.same_output {s t : Session} {order : Order} {before after : Bool}
    (effect : Effect s order before t after) : t.output = s.output := by
  cases effect <;> rfl

namespace Session

variable {s t : Session} {j : Journal} {move : Move} {jobs : List Job} {engine : Engine}

/-- Nobody but the thread writes to the output. -/
theorem output_after (other : move ≠ .act .thread) (moved : s.after move = some t) :
    t.output = s.output := by
  cases move with
  | act actor =>
    cases actor with
    | call caller =>
      obtain ⟨_, _, _, advances⟩ := advance_advances moved
      obtain ⟨u, effect, books⟩ := advances.effect
      rw [books]
      exact effect.same_output
    | listener => rw [listen_changes moved]
    | engine => rw [compute_changes moved]
    | thread => exact absurd rfl other
    | driver => rw [drive_changes moved]
    | backoff => rw [ring_changes moved]
    | timeout caller => rw [expire_books moved]
  | _ =>
    cases moved
    rfl

/-- A session whose engine is the only thing that a serial run sees change. -/
theorem serial_after {working : Working} (other : move ≠ .act .thread)
    (moved : s.after move = some t) (results : t.results = s.results) :
    t.serial working = s.serialWith working t.hosted.engine := by
  unfold serialWith serial
  rw [results, output_after other moved]

/-- A job may be followed by others. -/
theorem runs_extended {x : Serial} {before : List Cue} (runs : (Serial.start engine jobs before).Runs x)
    (more : List Job) (since : List Cue) :
    (Serial.start engine (jobs ++ more) (before ++ since)).Runs (x.extend more since) :=
  runs.extend more since

/-- **Between attempts, every move keeps the serial run**, and the launch of an attempt begins the
next job of it. -/
theorem serially_between (done : s.Done j jobs) (free : s.working.request? = none)
    (runs : (Serial.start engine jobs j.cues).Runs (s.serial .resting)) (sound : s.Sound j)
    (attached : s.Attached) (unnested : s.Unnested) (alone : ∀ e, move ≠ .outside e)
    (held : t.shutdown = false)
    (patient : ∀ id attempts, (id, .error (.retriesExhausted attempts)) ∉ t.results)
    (moved : s.after move = some t) : t.Serially engine (j.note s move t) := by
  have handling := after_handling moved
  have other : move ≠ .act .thread := by
    rintro rfl
    rcases (work_engine moved).1 with ⟨request, routine, working⟩ |
      ⟨request, ticket, next, _, working, _⟩
    · rw [working] at free
      cases free
    · rw [working] at free
      cases free
  have results : t.results = s.results := handling.results_of_free sound.custody
    (fun unborn => (sound.unopened unborn).empty) held patient free
  have later : t.Done (j.note s move t) jobs := done.after sound moved results
  have further := (touches_after alone moved).runs attached unnested other (.inr free) runs
  rw [← serial_after other moved results] at further
  have started : (Serial.start engine jobs (j.note s move t).cues).Runs (t.serial .resting) := by
    have same : (Serial.start engine jobs j.cues).extend []
        (s.hosted.engine.newCues move t.hosted.engine) =
          Serial.start engine jobs (j.note s move t).cues := by
      unfold Serial.extend Serial.start
      rw [List.append_nil]
      rfl
    rw [← same]
    exact further
  cases busy : t.working.request? with
  | none => exact .between jobs later busy started
  | some request =>
    obtain ⟨number, driving, working⟩ := handling.launched free busy
    have working : t.working = .working request (request.payload.attempt number) := working
    have linked := (attached_after attached sound.custody.agree alone moved).linked
    have idle := linked.idle fun _ _ _ waits => by rw [working] at waits; cases waits
    refine .during jobs later ⟨request, number, []⟩ (t.serial .resting) (j.note s move t).cues []
      driving busy (Engine.atRest_of_free linked.lawful linked.ticketed idle)
      (List.append_nil _).symm started ?_
    rw [working]
    exact .rest

/-- **During an attempt, every move of others keeps the serial run.** -/
theorem serially_during {job : Job} {x : Serial} {before since : List Cue} (done : s.Done j jobs)
    (driving : s.driving = .attempting job.request job.number)
    (busy : s.working.request? = some job.request) (rest : x.engine.AtRest)
    (cues : j.cues = before ++ since) (first : (Serial.start engine jobs before).Runs x.spent)
    (runs : (x.attempt job since).Runs (s.serial s.working)) (sound : s.Sound j)
    (attached : s.Attached) (unnested : s.Unnested) (alone : ∀ e, move ≠ .outside e)
    (other : move ≠ .act .thread) (moved : s.after move = some t) :
    t.Serially engine (j.note s move t) := by
  have agree := sound.custody.agree
  have working := working_after agree busy other moved
  obtain ⟨results, waits⟩ := (after_handling moved).same_of_busy (d := s.desk) (e := t.desk) agree
    busy working
  have results : t.results = s.results := results
  have waits : t.driving = s.driving := waits
  have further := (touches_after alone moved).runs attached unnested other (.inl rfl) runs
  rw [← serial_after other moved results, ← working] at further
  refine .during jobs (done.after sound moved results) job x before
    (since ++ s.hosted.engine.newCues move t.hosted.engine) (waits.trans driving)
    (by rw [working]; exact busy) rest ?_ first further
  show j.cues ++ _ = _
  rw [cues, List.append_assoc]

/-- **A step of the thread keeps the serial run.** An attempt that comes back busy is left out of it,
and one that comes to its end is its last job. -/
theorem serially_thread {job : Job} {x : Serial} {before since : List Cue} (done : s.Done j jobs)
    (driving : s.driving = .attempting job.request job.number)
    (busy : s.working.request? = some job.request) (rest : x.engine.AtRest)
    (cues : j.cues = before ++ since) (first : (Serial.start engine jobs before).Runs x.spent)
    (runs : (x.attempt job since).Runs (s.serial s.working)) (sound : s.Sound j)
    (courteous : job.request.payload.Courteous) (moved : s.work = some t) :
    t.Serially engine (j.note s (.act .thread) t) := by
  have waits : t.driving = s.driving := by rw [work_changes moved]
  have taken : s.after (.act .thread) = some t := moved
  have given : (j.note s (.act .thread) t).cues = before ++ since :=
    (List.append_nil j.cues).trans cues
  have extended := runs_extended first
  cases work_paces busy moved with
  | busy working replying same =>
    have results : t.results = s.results := congrArg Serial.results same
    have left : x.engine.SameBut s.hosted.engine :=
      courteous x _ job since rfl rest runs working
    refine .between jobs (done.after sound taken results)
      (by rw [replying]; rfl) ?_
    have without := runs.without rest working left
    rw [same, given]
    have started := (extended [] since).trans without
    rw [List.append_nil] at started
    exact started
  | settle result replying results moves =>
    have ended := runs.step moves.step
    refine .between (jobs ++ [job]) (done.settle sound driving busy results waits fun passes => ?_)
      (by rw [replying]; rfl) ?_
    · exact ended.answered rest (passes job.number) rfl rfl
    · rw [given]
      exact ((extended [job] since).trans (x.runs_attempt job since)).trans ended
  | further gates working results moves =>
    refine .during jobs (done.after sound taken results)
      { job with gates := job.gates ++ gates } x before since (waits.trans driving) working rest given
      first ?_
    exact (runs.extendGates rfl gates).step moves.step

/-- **Every move keeps the serial run that a session stands for**, as long as nobody shuts the
session down and no request gives up. -/
theorem serially_after (serially : s.Serially engine j) (sound : s.Sound j)
    (attached : s.Attached) (unnested : s.Unnested) (alone : ∀ e, move ≠ .outside e)
    (courteous : ∀ request ∈ j.ledger.accepted, request.payload.Courteous)
    (held : t.shutdown = false)
    (patient : ∀ id attempts, (id, .error (.retriesExhausted attempts)) ∉ t.results)
    (moved : s.after move = some t) : t.Serially engine (j.note s move t) := by
  cases serially with
  | between jobs done free runs =>
    exact serially_between done free runs sound attached unnested alone held patient moved
  | during jobs done job x before since driving busy rest cues first runs =>
    by_cases other : move = .act .thread
    · subst other
      exact serially_thread done driving busy rest cues first runs sound
        (courteous _ (sound.accepted_of_busy driving busy)) moved
    · exact serially_during done driving busy rest cues first runs sound attached unnested alone
        other moved

end Session

/-! ### Attempts in order -/

/-- An attempt is begun at the request in the driver's hand. -/
theorem Handling.inHand_of_begun {d e : Desk} {said : Option Said}
    (handling : Handling d said e) {request : Request} {number : Nat}
    (begun : (request, number) ∈ appearing d.attempt? e.attempt?) : d.inHand = [request] := by
  have same : e.attempt? = d.attempt? → d.inHand = [request] := fun same => by
    rw [same, appearing_self] at begun
    cases begun
  have none : e.attempt? = none → d.inHand = [request] := fun none => by
    rw [none, appearing_none] at begun
    cases begun
  cases handling with
  | launch other marking =>
    have free : d.attempt? = Option.none := by simp only [Desk.attempt?, marking]
    rw [free] at begun
    cases List.mem_singleton.mp begun
    simp only [Desk.inHand, marking]
  | relaunch other attempts regated held =>
    have free : d.attempt? = Option.none := by simp only [Desk.attempt?, regated]
    rw [free] at begun
    cases List.mem_singleton.mp begun
    simp only [Desk.inHand, regated]
  | idle | accept | refuse | close | fire | holdBack | settle | proceed | ask | receive =>
    exact same rfl
  | _ => exact none rfl

namespace Desk.Custody

variable {d : Desk} {l : Ledger}

/-- Whatever was accepted before a request that is not queued any more has a result. -/
theorem settled_before (custody : d.Custody l) {request other : Request}
    (accepted : request ∈ l.accepted) (taken : request ∉ d.queue.items)
    (earlier : other ∈ l.accepted) (less : other.id < request.id) :
    ∃ result, (other.id, result) ∈ d.results := by
  obtain ⟨settled, order, ids⟩ := custody.order
  have within : other ∈ settled := by
    rw [order] at earlier
    refine (List.mem_append.mp earlier).resolve_right fun unsettled => ?_
    have ascending := custody.ascending
    rw [order] at accepted ascending
    obtain ⟨_, later, before⟩ := List.pairwise_append.mp ascending
    rcases List.mem_append.mp accepted with done | open_
    · exact Nat.lt_asymm less (before request done other unsettled)
    · -- The request is in hand, and nothing that is unsettled comes before it.
      obtain mine | queued := List.mem_append.mp open_
      · have single : d.inHand = [request] := by
          unfold Desk.inHand at mine ⊢
          split at mine <;> first | cases List.mem_singleton.mp mine; rfl | cases mine
        rcases List.mem_append.mp unsettled with same | behind
        · rw [single] at same
          rw [List.mem_singleton.mp same] at less
          exact Nat.lt_irrefl _ less
        · exact Nat.lt_asymm less (custody.inHand_lt single behind)
      · exact taken queued
  have listed : other.id ∈ d.results.map Prod.fst := by
    rw [← ids]
    exact List.mem_map_of_mem within
  obtain ⟨entry, member, same⟩ := List.mem_map.mp listed
  exact ⟨entry.2, same ▸ member⟩

end Desk.Custody

namespace Course

variable {env : Environment} {s t : Session} {j k : Journal}

/-- **Attempts are begun at accepted requests only, and never at one that is still queued.** -/
theorem begun_taken (course : Course env s j k t) (sound : s.Sound j)
    (before : ∀ attempt ∈ j.ledger.begun, attempt.1 ∈ j.ledger.accepted) :
    ∀ attempt ∈ k.ledger.begun, attempt.1 ∈ k.ledger.accepted ∧ attempt.1 ∉ t.queue.items := by
  have accepted := (course.invariant (fun t k => t.Sound k ∧
    ∀ attempt ∈ k.ledger.begun, attempt.1 ∈ k.ledger.accepted) ?_ ⟨sound, before⟩).2
  · refine fun attempt begun => ⟨accepted attempt begun, fun queued => ?_⟩
    have unmade := (course.sound sound).accounts.queued attempt.1 queued
    have number : attempt.2 ∈ numbersFor attempt.1.id k.ledger.begun :=
      List.mem_filterMap.mpr ⟨attempt, begun, if_pos rfl⟩
    rw [show numbersFor attempt.1.id k.ledger.begun = [] from congrArg Prod.fst unmade] at number
    cases number
  · rintro t u k move ⟨sound, before⟩ allowed moved
    refine ⟨sound.after moved, fun attempt begun => List.mem_append_left _ ?_⟩
    rcases List.mem_append.mp begun with old | new
    · exact before attempt old
    · refine sound.custody.accepted_of_unsettled (List.mem_append_left _ ?_)
      rw [(Session.after_handling moved).inHand_of_begun new]
      exact List.mem_singleton_self attempt.1

/-- **As long as nobody shuts the session down and no request gives up, the session stands for a
serial run.** -/
theorem serially {engine : Engine} (course : Course env s j k t) (alone : env.Private)
    (unnested : env.Unnested) (sound : s.Sound j) (attached : s.Attached)
    (without : s.Unnested) (begins : s.Serially engine j)
    (courteous : ∀ request ∈ k.ledger.accepted, request.payload.Courteous)
    (held : t.shutdown = false)
    (patient : ∀ id attempts, (id, .error (.retriesExhausted attempts)) ∉ t.results) :
    (t.Sound k ∧ t.Attached ∧ t.Unnested) ∧ t.Serially engine k := by
  induction course with
  | rest => exact ⟨⟨sound, attached, without⟩, begins⟩
  | @move k t u move before allowed moved ih =>
    have handling := Session.after_handling moved
    obtain ⟨more, results⟩ := handling.results
    have private_ : ∀ engine, move ≠ .outside engine := fun engine same =>
      alone t engine (same ▸ allowed)
    obtain ⟨⟨sound, attached, without⟩, serially⟩ := ih
      (fun request member => courteous request (List.mem_append_left _ member))
      (Bool.eq_false_iff.mpr fun fired => by
        rw [show u.shutdown = true from handling.shutdown fired] at held
        cases held)
      (fun id attempts member => patient id attempts
        ((show u.results = t.results ++ more from results) ▸ List.mem_append_left more member))
    refine ⟨⟨sound.after moved, ?_, ?_⟩, ?_⟩
    · exact Session.attached_after attached sound.custody.agree private_ moved
    · exact Session.unnested_after without
        (fun pipeline shape same => unnested t pipeline shape (same ▸ allowed)) moved
    · exact Session.serially_after serially sound attached without private_
        (fun request member => courteous request (List.mem_append_left _ member)) held patient moved

end Course

/-! ### Payloads -/

/-- Only a step of a call puts a request into the queue: a submission its own payload, a start the
question for the release. -/
theorem Session.accepted_after {s t : Session} {move : Move} (moved : s.after move = some t)
    {request : Request} (fresh : request ∈ t.queue.items.drop s.queue.items.length) :
    ∃ caller call, move = .act (.call caller) ∧ (caller, call) ∈ s.calls ∧
      (call.order = .submit request.payload ∨
        call.order = .start ∧ request.payload = .startup s.fallback) := by
  have ids : t.lastId ≠ s.lastId := fun ids => by
    have short : t.queue.items.length ≤ s.queue.items.length :=
      (after_handling moved).items_length ids
    rw [List.drop_eq_nil_of_le short] at fresh
    cases fresh
  cases moves_of_after moved with
  | call caller moved =>
    obtain ⟨call, next, found, advances⟩ := advance_advances moved
    obtain ⟨u, effect, books⟩ := advances.effect
    have queue : t.queue = u.queue := by rw [books]
    have last : t.lastId = u.lastId := by rw [books]
    refine ⟨caller, call, rfl, mem_of_lookup found, ?_⟩
    rw [queue] at fresh
    rw [last] at ids
    clear last queue books advances
    generalize call.grips = before at effect
    generalize next.any Call.grips = after at effect
    cases effect with
    | accept payload asked opened =>
      have same : request = Request.mk (s.lastId + 1) payload := by
        have fresh : request ∈ (s.queue.items ++ [Request.mk (s.lastId + 1) payload]).drop
          s.queue.items.length := fresh
        rw [List.drop_left] at fresh
        exact List.mem_singleton.mp fresh
      rw [same]
      exact asked
    | refuse payload asked closed =>
      rw [List.drop_eq_nil_of_le (Nat.le_refl _)] at fresh
      cases fresh
    | _ => exact absurd rfl ids
  | order _ | timeout _ _ _ => exact absurd rfl ids
  | driver _ same | listener _ same | aside _ same =>
    exact absurd (by rw [same]) ids

theorem Environment.only_unnested {orders : List Order}
    (other : ∀ pipeline shape, .nested pipeline shape ∉ orders) :
    (Environment.only orders).Unnested := by
  rintro s pipeline shape (⟨actor, act⟩ | ⟨order, listed, same⟩)
  · cases act
  · cases same
    exact other pipeline shape listed

namespace Course

variable {env : Environment} {s t : Session} {j k : Journal}

/-- **What holds of the payloads that callers submit, and of the question for the release, holds of
all requests.** -/
theorem accepted_payloads (course : Course env s j k t) {kind : Payload → Prop}
    (asked : ∀ t payload, env t (.order (.submit payload)) → kind payload)
    (startup : ∀ fallback, kind (.startup fallback))
    (calls : ∀ entry ∈ s.calls, ∀ payload, entry.2.order = .submit payload → kind payload)
    (accepted : ∀ request ∈ j.ledger.accepted, kind request.payload) :
    ∀ request ∈ k.ledger.accepted, kind request.payload := by
  refine (course.invariant (fun t k =>
    (∀ entry ∈ t.calls, ∀ payload, entry.2.order = .submit payload → kind payload) ∧
      ∀ request ∈ k.ledger.accepted, kind request.payload) ?_ ⟨calls, accepted⟩).2
  rintro t u k move ⟨calls, accepted⟩ allowed moved
  refine ⟨fun entry member payload submits => ?_, fun request member => ?_⟩
  · rcases Session.order_after moved member with ⟨call, mine, same⟩ | ⟨order, rfl, same⟩
    · exact calls _ mine payload (same.symm.trans submits)
    · exact asked t payload (by rw [← submits, same]; exact allowed)
  · rcases List.mem_append.mp member with old | new
    · exact accepted request old
    · obtain ⟨caller, call, _, mine, submits | ⟨_, question⟩⟩ := Session.accepted_after moved new
      · exact calls _ mine request.payload submits
      · rw [question]
        exact startup t.fallback

/-! ### The equivalence -/

/-- Where no attempt is under way, the session is where the serial run over the requests with a result
has come to. -/
theorem exists_done {settings : Settings} {hosted : HostedEngine}
    (created : Session.create settings hosted = .ok s) (rest : hosted.engine.AtRest)
    (course : Course env s .empty k t) (alone : env.Private) (unnested : env.Unnested)
    (courteous : ∀ request ∈ k.ledger.accepted, request.payload.Courteous)
    (held : t.shutdown = false)
    (patient : ∀ id attempts, (id, .error (.retriesExhausted attempts)) ∉ t.results)
    (free : t.working.request? = none) : ∃ jobs, t.Done k jobs ∧
      (Serial.start hosted.engine jobs k.cues).Runs (t.serial .resting) := by
  obtain ⟨fallback, _, fresh⟩ := Session.fresh_of_create created
  have attached : s.Attached := fresh ▸ Session.attached_fresh settings fallback rest
  have without : s.Unnested := by
    rw [fresh]
    exact fun _ member => by cases member
  have begins : s.Serially hosted.engine .empty := by
    rw [fresh]
    exact .between [] ⟨rfl, nofun, nofun, nofun⟩ rfl .rest
  cases (course.serially alone unnested (Session.sound_of_create created) attached without begins
    courteous held patient).2 with
  | between jobs done _ runs => exact ⟨jobs, done, runs⟩
  | during jobs done job x before since driving busy _ _ _ _ =>
    rw [free] at busy
    cases busy

/-- **Where callers submit pipelines only, nothing has to be asked of the payloads**, and the engine has
not been held in any attempt of the serial run. -/
theorem serial_pipelines {settings : Settings} {hosted : HostedEngine}
    (created : Session.create settings hosted = .ok s) (rest : hosted.engine.AtRest)
    (course : Course env s .empty k t) (alone : env.Private) (unnested : env.Unnested)
    (pipelines : ∀ u payload, env u (.order (.submit payload)) →
      ∃ pipeline showing shape, payload = .pipeline pipeline showing shape)
    (held : t.shutdown = false)
    (patient : ∀ id attempts, (id, .error (.retriesExhausted attempts)) ∉ t.results)
    (free : t.working.request? = none) : ∃ jobs : List Job,
      k.ledger.accepted = jobs.map Job.request ++ t.desk.unsettled ∧
      (∀ job ∈ jobs, job.Counts k.ledger ∧ false ∉ job.gates) ∧
      (Serial.start hosted.engine jobs k.cues).Runs (t.serial .resting) := by
  obtain ⟨fallback, _, fresh⟩ := Session.fresh_of_create created
  have uncalled : ∀ {kind : Payload → Prop}, ∀ entry ∈ s.calls, ∀ payload,
      entry.2.order = .submit payload → kind payload := fun entry member => by
    rw [fresh] at member
    cases member
  have courteous : ∀ request ∈ k.ledger.accepted, request.payload.Courteous := by
    refine course.accepted_payloads (fun u payload allowed => ?_) Payload.courteous_startup uncalled
      (fun request member => by cases member)
    obtain ⟨pipeline, showing, shape, rfl⟩ := pipelines u payload allowed
    exact Payload.courteous_pipeline pipeline showing shape
  have passes : ∀ request ∈ k.ledger.accepted, request.payload.Passes := by
    refine course.accepted_payloads (fun u payload allowed => ?_) Payload.passes_startup uncalled
      (fun request member => by cases member)
    obtain ⟨pipeline, showing, shape, rfl⟩ := pipelines u payload allowed
    exact Payload.passes_pipeline pipeline showing shape
  obtain ⟨jobs, done, runs⟩ :=
    course.exists_done created rest alone unnested courteous held patient free
  refine ⟨jobs, done.order (course.sound (Session.sound_of_create created)), fun job member => ?_,
    runs⟩
  exact ⟨done.counted job member,
    done.answered job member (passes job.request (done.accepted job member))⟩

/-- **A session is equivalent to a serial run.** Let nobody but the session use the engine, nobody
ask for a nested execution, all payloads leave the engine alone when they come back busy, nobody shut
the session down, and no request give up. Requests are accepted in the order of their numbers, and no
attempt is begun at a request before all that were accepted earlier have their results. Whenever no
attempt is under way, the results, the output and the engine are those of the serial run over the
requests with a result, in that order, given the cues of the callers: each request is run by its last
attempt, the only one that did not come back busy, and a pipeline without the engine being held. The
serial run has come to its end, and unless step mode was switched on it has no other. -/
theorem serial {settings : Settings} {hosted : HostedEngine}
    (created : Session.create settings hosted = .ok s) (rest : hosted.engine.AtRest)
    (course : Course env s .empty k t) (alone : env.Private) (unnested : env.Unnested)
    (courteous : ∀ request ∈ k.ledger.accepted, request.payload.Courteous)
    (held : t.shutdown = false)
    (patient : ∀ id attempts, (id, .error (.retriesExhausted attempts)) ∉ t.results) :
    (k.ledger.accepted.Pairwise fun earlier later => earlier.id < later.id) ∧
    (∀ attempt ∈ k.ledger.begun, attempt.1 ∈ k.ledger.accepted ∧
      ∀ other ∈ k.ledger.accepted, other.id < attempt.1.id →
        ∃ result, (other.id, result) ∈ t.results) ∧
    (t.working.request? = none → ∃ jobs : List Job,
      k.ledger.accepted = jobs.map Job.request ++ t.desk.unsettled ∧
      (jobs.map fun job => job.request.id) = t.results.map Prod.fst ∧
      (∀ job ∈ jobs, job.Counts k.ledger ∧ (job.request.payload.Passes → false ∉ job.gates)) ∧
      (Serial.start hosted.engine jobs k.cues).Runs (t.serial .resting) ∧
      (t.serial .resting).step = none ∧
      (.pause ∉ k.cues → ∀ x, (Serial.start hosted.engine jobs k.cues).Runs x → x.step = none →
        x = t.serial .resting)) := by
  have sound := Session.sound_of_create created
  have sounds := course.sound sound
  refine ⟨sounds.custody.ascending, fun attempt begun => ?_, fun free => ?_⟩
  · obtain ⟨accepted, taken⟩ := course.begun_taken sound nofun attempt begun
    exact ⟨accepted, fun other earlier less =>
      sounds.custody.settled_before accepted taken earlier less⟩
  · obtain ⟨jobs, done, runs⟩ :=
      course.exists_done created rest alone unnested courteous held patient free
    refine ⟨jobs, done.order sounds, done.ids, fun job member =>
      ⟨done.counted job member, done.answered job member⟩, runs, rfl,
      fun unpaused x others concluded => ?_⟩
    exact runs.unique others unpaused rfl concluded

end Course

/-- What callers ask for who run two scripts, the first of which waits in the debugger, is stepped on
and then let go. -/
def Order.stepping : List Order :=
  [.start, .submit (.script "Wait-Debugger; 1 + 2"), .submit (.script "3"), .resume .stepOver,
    .resume .resume]

/-- A session that has done what was asked for. -/
def Session.stepped : Session :=
  plain.carryOut Order.stepping

/-- Whether a request has given up. -/
def Session.hasGivenUp (s : Session) : Bool :=
  s.results.any fun entry =>
    match entry.2 with
    | .error (.retriesExhausted _) => true
    | _ => false

namespace Course

/-- A script waits in the debugger while another one is queued, is stepped on and let go: the session
has done what the serial run does that is given the same verbs. -/
theorem serial_stepped : ∃ j,
    Course (.only Order.stepping) Session.plain .empty j Session.stepped ∧
    Session.stepped.results.map Prod.fst = [1, 2, 3] ∧ ∃ jobs : List Job,
      (jobs.map fun job => job.request.id) = Session.stepped.results.map Prod.fst ∧
      (Serial.start Session.plain.hosted.engine jobs j.cues).Runs
        (Session.stepped.serial .resting) := by
  obtain ⟨j, course⟩ := Session.exists_course_carryOut Session.plain .empty Order.stepping
  have courteous : ∀ request ∈ j.ledger.accepted, request.payload.Courteous := by
    refine course.accepted_payloads (fun t payload allowed => ?_) Payload.courteous_startup
      (fun _ member => absurd member List.not_mem_nil)
      (fun _ member => absurd member List.not_mem_nil)
    rcases allowed with ⟨actor, other⟩ | ⟨order, listed, same⟩
    · cases other
    · cases same
      simp only [Order.stepping, List.mem_cons, Order.submit.injEq, reduceCtorEq, false_or,
        or_false, List.not_mem_nil] at listed
      rcases listed with rfl | rfl <;> exact Payload.courteous_pipeline _ _ _
  have unnested : (Environment.only Order.stepping).Unnested :=
    Environment.only_unnested fun pipeline shape listed => by
      simp only [Order.stepping, List.mem_cons, reduceCtorEq, List.not_mem_nil, or_self] at listed
  have patient : ∀ id attempts, (id, .error (.retriesExhausted attempts)) ∉
      Session.stepped.results := by
    have none : Session.stepped.hasGivenUp = false := by decide +kernel
    intro id attempts member
    have some : Session.stepped.hasGivenUp = true := List.any_eq_true.mpr ⟨_, member, rfl⟩
    exact Bool.false_ne_true (none.symm.trans some)
  have free : Session.stepped.working.request?.isNone = true := by decide +kernel
  obtain ⟨_, _, runs⟩ := serial Session.create_plain ⟨⟨.fresh, rfl, rfl⟩, rfl,
    fun _ member => absurd member List.not_mem_nil⟩ course (Environment.only_private _) unnested
    courteous (by decide +kernel) patient
  obtain ⟨jobs, _, ids, _, run, _⟩ := runs (Option.isNone_iff_eq_none.mp free)
  exact ⟨j, course, by decide +kernel, jobs, ids, run⟩

end Course

end ShellSession
