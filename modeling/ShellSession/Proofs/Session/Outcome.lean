/-
**Outcomes of requests.**

What was said about the desk holds along every course of a session: whatever callers, the host, the
engine and the scheduler do, every accepted request is completed once at most, and with the outcome
that the attempts at it call for; once the driver is gone every one is.

* `Session.Sound`: custody, accounts and the opening of a session together;
* `Course.sound`: **every session that was created stays sound**;
* `Course.said`: what is written down as said has been said by the engine;
* `Course.never_begun`: what is queued behind the shutdown signal is never attempted;
* `Course.undisturbed`, `Course.none_rejected`: nothing is turned away unless somebody disposes or
  drops the session;
* `Course.completes_once`: **the outcome of every request, along every course**.
-/

import ShellSession.Proofs.Session.Opening

namespace ShellSession

/-! ### Soundness -/

/-- What holds of a session and its journal along every course. -/
structure Session.Sound (s : Session) (j : Journal) : Prop where
  custody : s.desk.Custody j.ledger
  unopened : s.driving = .unborn → s.Unopened
  accounts : s.desk.Accounts j.ledger

/-- The settings of retries are never changed. -/
theorem Handling.retry_eq {d e : Desk} {said : Option Said} (handling : Handling d said e) :
    e.retry = d.retry := by
  cases handling <;> rfl

/-- A driver that is over is gone. -/
theorem Driving.exited_of_over {driving : Driving} (concluded : driving.isOver = true) :
    driving = .exited := by
  cases driving <;> first | rfl | cases concluded

/-- A shutdown signal is never taken back. -/
theorem Handling.shutdown {d e : Desk} {said : Option Said} (handling : Handling d said e)
    (fired : d.shutdown = true) : e.shutdown = true := by
  cases handling <;> first | exact fired | rfl

/-- Settings that have been checked allow one attempt at least. -/
theorem Settings.allows_one {settings : Settings} {fallback : Release}
    (checked : settings.check = .ok fallback) : settings.retry.givesUpAfter 0 = false := by
  unfold Settings.check at checked
  split at checked
  · cases checked
  · split at checked
    · cases checked
    · split at checked
      · cases checked
      · rename_i allowed
        unfold Retries.givesUpAfter
        cases bound : settings.retry.maxAttempts with
        | none => rfl
        | some most =>
          cases most with
          | zero => exact absurd bound allowed
          | succ most => rfl

namespace Session

variable {s t : Session} {j : Journal}

theorem Sound.after {move : Move} (sound : s.Sound j) (moved : s.after move = some t) :
    t.Sound (j.note s move t) := by
  have handling := after_handling moved
  exact ⟨handling.custody sound.custody, unopened_after sound.unopened moved,
    handling.accounts sound.custody (fun free => (sound.unopened free).empty) sound.accounts⟩

/-- What the thread hears is what the engine says. -/
theorem says_of_heard {said : Said} (heard : s.heard? = some said) : s.hosted.Says said := by
  unfold heard? at heard
  split at heard
  · split at heard <;> cases heard <;> assumption
  · cases heard
    rfl
  · cases heard
    rfl
  · obtain ⟨outcome, found, rfl⟩ := Option.map_eq_some_iff.mp heard
    exact found
  · cases heard

/-- What a move adds to what has been said: the engine says it, while the driver waits. -/
theorem says_of_mem {move : Move} {entry : (Request × Nat) × Said}
    (new : entry ∈ s.desk.attempt?.toList.zip (s.saidIn move).toList) :
    s.driving = .attempting entry.1.1 entry.1.2 ∧ s.hosted.Says entry.2 := by
  obtain ⟨attempt, said⟩ := entry
  obtain ⟨waits, saying⟩ := List.of_mem_zip new
  have saying := Option.mem_toList.mp saying
  have waits := Option.mem_toList.mp waits
  constructor
  · unfold Desk.attempt? at waits
    split at waits
    · cases waits
      assumption
    · cases waits
  · cases move with
    | act actor => cases actor <;> first | exact says_of_heard saying | cases saying
    | _ => cases saying

/-- A session that was created is fresh, and its settings have been checked. -/
theorem fresh_of_create {settings : Settings} {hosted : HostedEngine}
    (created : create settings hosted = .ok s) :
    ∃ fallback, settings.check = .ok fallback ∧ s = fresh settings fallback hosted := by
  unfold create at created
  cases checked : settings.check with
  | error fault =>
    rw [checked] at created
    cases created
  | ok fallback =>
    rw [checked] at created
    cases created
    exact ⟨fallback, rfl, rfl⟩

theorem sound_of_create {settings : Settings} {hosted : HostedEngine}
    (created : create settings hosted = .ok s) : s.Sound .empty := by
  obtain ⟨fallback, checked, rfl⟩ := fresh_of_create created
  exact ⟨custody_fresh settings fallback hosted, fun _ => unopened_fresh settings fallback hosted,
    Settings.allows_one checked, (fun _ member => by cases member), (fun _ member => by cases member),
    fun _ _ => rfl, fun _ _ _ => rfl, trivial⟩

end Session

namespace Course

variable {env : Environment} {s t : Session} {j k : Journal}

/-- **Every session that was created stays sound.** -/
theorem sound (course : Course env s j k t) (sound : s.Sound j) : t.Sound k :=
  course.invariant Session.Sound (fun _ sound _ moved => sound.after moved) sound

/-- Results are added behind the others, and never changed. -/
theorem results (course : Course env s j k t) : ∃ more, t.results = s.results ++ more := by
  refine course.invariant (fun t _ => ∃ more, t.results = s.results ++ more) ?_
    ⟨[], (List.append_nil _).symm⟩
  rintro t u _ _ ⟨more, before⟩ _ moved
  obtain ⟨new, after⟩ := (Session.after_handling moved).results
  refine ⟨more ++ new, ?_⟩
  rw [← List.append_assoc, ← before]
  exact after

/-- What is written down has been said by the engine, at a moment of the course at which the driver
waited for that attempt. -/
theorem said (course : Course env s j k t) {entry : (Request × Nat) × Said}
    (member : entry ∈ k.ledger.said) : entry ∈ j.ledger.said ∨ ∃ i u, Course env s j i u ∧
      Course env u i k t ∧ u.driving = .attempting entry.1.1 entry.1.2 ∧ u.hosted.Says entry.2 := by
  induction course with
  | rest => exact .inl member
  | @move i u v m before allowed moved ih =>
    have onward : Course env u i (i.note u m v) v := Course.rest.move m allowed moved
    rcases List.mem_append.mp member with old | new
    · refine (ih old).imp id ?_
      rintro ⟨h, w, first, second, there⟩
      exact ⟨h, w, first, second.trans onward, there⟩
    · exact .inr ⟨i, u, before, onward, Session.says_of_mem new⟩

/-- The settings of retries are never changed. -/
theorem retry (course : Course env s j k t) : t.desk.retry = s.desk.retry :=
  course.invariant (fun t _ => t.desk.retry = s.desk.retry)
    (fun _ before _ moved => (Session.after_handling moved).retry_eq.trans before) rfl

end Course

/-! ### Behind the shutdown signal -/

/-- A request that will not be attempted any more: the session is shut down, nothing was attempted,
and the request is queued, or held back at the gate, or turned away. -/
structure Desk.Doomed (d : Desk) (l : Ledger) (request : Request) : Prop where
  shut : d.shutdown = true
  untried : l.record request.id = tries 0 0
  place : request ∈ d.queue.items ∨ d.driving = .gated request ∨
    ∃ result, (request.id, result) ∈ d.results

/-- A request in hand beyond the gate is another one than a doomed request. -/
theorem Desk.Doomed.ne_inHand {d : Desk} {l : Ledger} {request other : Request}
    (doomed : d.Doomed l request) (custody : d.Custody l) (mine : d.inHand = [other])
    (beyond : ∀ held, d.driving ≠ .gated held) : request.id ≠ other.id := by
  rcases doomed.place with queued | gated | ⟨result, settled⟩
  · exact Nat.ne_of_gt (custody.inHand_lt mine queued)
  · exact absurd gated (beyond request)
  · refine Nat.ne_of_lt (custody.settled_lt settled (List.mem_append_left _ ?_))
    rw [mine]
    exact List.mem_singleton_self other

/-- Attempts are begun, and come back busy, only at the request in hand beyond the gate. -/
theorem Handling.record {d e : Desk} {l : Ledger} {said : Option Said}
    (handling : Handling d said e) (id : Nat)
    (apart : ∀ request, d.inHand = [request] → (∀ held, d.driving ≠ .gated held) →
      id ≠ request.id) : (l.note d said e).record id = l.record id := by
  have same (begun : e.attempt? = d.attempt? ∨ e.attempt? = none)
      (busy : e.busyAttempt? = d.busyAttempt? ∨ e.busyAttempt? = none) :
      (l.note d said e).record id = l.record id :=
    congrFun (l.record_note begun busy) id
  cases handling with
  | launch request marking =>
    have free : d.attempt? = none := by simp only [Desk.attempt?, marking]
    have mine : d.inHand = [request] := by simp only [Desk.inHand, marking]
    refine (l.record_begun free rfl rfl).2 id (apart request mine fun held gated => ?_)
    rw [marking] at gated
    cases gated
  | relaunch request attempts regated held =>
    have free : d.attempt? = none := by simp only [Desk.attempt?, regated]
    have mine : d.inHand = [request] := by simp only [Desk.inHand, regated]
    refine (l.record_begun free rfl rfl).2 id (apart request mine fun held gated => ?_)
    rw [regated] at gated
    cases gated
  | hear request attempts attempting replying =>
    have free : d.busyAttempt? = none := by simp only [Desk.busyAttempt?, attempting]
    have mine : d.inHand = [request] := by simp only [Desk.inHand, attempting, replying]
    refine (l.record_busy free rfl rfl).2 id (apart request mine fun held gated => ?_)
    rw [attempting] at gated
    cases gated
  | idle | accept | refuse | close | fire | holdBack | settle | proceed | ask | receive =>
    exact same (.inl rfl) (.inl rfl)
  | _ => exact same (.inr rfl) (.inr rfl)

/-- **Behind the shutdown signal nothing that is queued is attempted.** -/
theorem Handling.doomed {d e : Desk} {l : Ledger} {said : Option Said}
    (handling : Handling d said e) (custody : d.Custody l) {request : Request}
    (doomed : d.Doomed l request) : e.Doomed (l.note d said e) request := by
  have untried := handling.record (l := l) request.id fun other mine beyond =>
    doomed.ne_inHand custody mine beyond
  refine ⟨handling.shutdown doomed.shut, untried.trans doomed.untried, ?_⟩
  have never : d.shutdown = false → False := fun held => by
    rw [doomed.shut] at held
    cases held
  rcases doomed.place with queued | gated | ⟨result, settled⟩
  · -- A queued request stays queued, goes into the driver's hand, or is turned away.
    cases handling with
    | accept payload opened => exact .inl (List.mem_append_left _ queued)
    | turnAway free =>
      exact .inr (.inr ⟨_, List.mem_append_right _ (List.mem_map.mpr ⟨request, queued, rfl⟩)⟩)
    | take other rest looking items =>
      rw [items] at queued
      rcases List.mem_cons.mp queued with rfl | later
      · exact .inr (.inl rfl)
      · exact .inl later
    | _ => exact .inl queued
  · -- The request at the gate stays there or is turned away.
    cases handling with
    | reject other mine fired =>
      rw [gated] at mine
      cases mine
      exact .inr (.inr ⟨_, List.mem_append_right _ (List.mem_singleton_self _)⟩)
    | mark other mine held => exact (never held).elim
    | turnAway free => rcases free with other | other <;> rw [gated] at other <;> cases other
    | abandon other attempts retrying fired =>
      rcases retrying with ⟨signals, driving⟩ | driving <;> rw [gated] at driving <;> cases driving
    | idle | accept | refuse | close | fire | holdBack | settle | proceed | ask | receive =>
      exact .inr (.inl gated)
    | spawn driving | withdraw driving _ | turn driving _ | take _ _ driving _
    | conclude driving _ _ | wait driving _ _ | launch _ driving | relaunch _ _ driving _
    | hear _ _ driving _ | leave _ _ driving _ | exhaust _ _ driving _ | backOff _ _ _ driving _
    | retry _ _ _ driving _ | unmark driving =>
      rw [gated] at driving
      cases driving
  · obtain ⟨more, same⟩ := handling.results
    refine .inr (.inr ⟨result, ?_⟩)
    rw [same]
    exact List.mem_append_left more settled

/-- What is queued behind the shutdown signal has no attempt at it, however the session goes on. -/
theorem Course.never_begun {env : Environment} {s t : Session} {j k : Journal}
    (course : Course env s j k t) (sound : s.Sound j) (fired : s.shutdown = true)
    {request : Request} (queued : request ∈ s.queue.items) :
    k.ledger.record request.id = tries 0 0 := by
  have doomed : s.desk.Doomed j.ledger request :=
    ⟨fired, sound.accounts.queued request queued, .inl queued⟩
  have later := course.invariant (fun t k => t.Sound k ∧ t.desk.Doomed k.ledger request)
    (fun _ kept _ moved => ⟨kept.1.after moved,
      (Session.after_handling moved).doomed kept.1.custody kept.2⟩) ⟨sound, doomed⟩
  exact later.2.untried

/-! ### While nobody disposes or drops -/

/-- An environment in which nobody disposes or drops the session. -/
def Environment.Spares (env : Environment) : Prop :=
  ∀ s move, env s move → move ≠ .drop ∧ move ≠ .order .dispose

/-- What a routine comes to by itself is neither a rejection nor the end of all attempts. -/
theorem Routine.result?_own {routine : Routine} {result : Result}
    (ended : routine.result? = some result) : result ≠ .error .disposed ∧
      result ≠ .error .abandoned ∧ result ≠ .error .interpreterGone ∧
      ∀ attempts, result ≠ .error (.retriesExhausted attempts) := by
  cases routine with
  | complete conclusion =>
    cases ended
    rcases conclusion with shortfall | answer
    · cases shortfall <;> exact ⟨nofun, nofun, nofun, nofun⟩
    · exact ⟨nofun, nofun, nofun, nofun⟩
  | panic payload =>
    cases ended
    exact ⟨nofun, nofun, nofun, nofun⟩
  | _ => cases ended

/-- No request is dropped without a result, or lost to the interpreter thread. -/
theorem Accounted.not_lost {retry : Retries} {fired : Bool} {record : List Nat × List Nat}
    {heard : Nat → List Said} {payload : Payload} {result : Result}
    (how : Accounted retry fired record heard payload result) :
    result ≠ .error .abandoned ∧ result ≠ .error .interpreterGone := by
  cases how with
  | own busy routine result hears ended tried before =>
    obtain ⟨_, abandoned, gone, _⟩ := Routine.result?_own ended
    exact ⟨abandoned, gone⟩
  | exhausted | disposed => exact ⟨nofun, nofun⟩

/-- Nothing is turned away where nothing is left behind the shutdown signal. -/
theorem Handling.none_rejected {d e : Desk} {l : Ledger} {said : Option Said}
    (handling : Handling d said e) (custody : d.Custody l)
    (unborn : d.driving = .unborn → d.queue.items = []) (done : d.shutdown = true → d.unsettled = [])
    (none : ∀ entry ∈ d.results, entry.2 ≠ .error .disposed) :
    ∀ entry ∈ e.results, entry.2 ≠ .error .disposed := by
  have idle : ∀ request, d.inHand = [request] → d.shutdown = true → False := by
    intro request mine fired
    have empty := (List.append_eq_nil_iff.mp (done fired)).1
    rw [mine] at empty
    cases empty
  have more : ∀ id result, result ≠ .error .disposed →
      ∀ entry ∈ d.results ++ [(id, result)], entry.2 ≠ .error .disposed := by
    intro id result other entry member
    rcases List.mem_append.mp member with old | new
    · exact none entry old
    · rw [List.mem_singleton.mp new]
      exact other
  cases handling with
  | turnAway free =>
    have empty : d.queue.items = [] := by
      rcases free with driving | driving
      · exact unborn driving
      · rcases custody.closing driving with fired | ⟨_, items⟩
        · exact (List.append_eq_nil_iff.mp (done fired)).2
        · exact items
    rw [empty]
    simpa only [rejections, List.map_nil, List.append_nil] using none
  | reject request gated fired =>
    exact (idle request (by simp only [Desk.inHand, gated]) fired).elim
  | abandon request attempts retrying fired =>
    refine (idle request ?_ fired).elim
    rcases retrying with ⟨signals, driving⟩ | driving <;> simp only [Desk.inHand, driving]
  | exhaust request attempts judging concluded => exact more _ _ fun other => by cases other
  | settle request routine result working ended => exact more _ _ (Routine.result?_own ended).1
  | _ => exact none

namespace Course

variable {env : Environment} {s t : Session} {j k : Journal}

/-- **A session that nobody disposes or drops turns nothing away**, not even after an abort or a
failed start. -/
theorem none_rejected (course : Course env s j k t) (spares : env.Spares) (sound : s.Sound j)
    (undisturbed : s.Undisturbed) (none : ∀ entry ∈ s.results, entry.2 ≠ .error .disposed) :
    ∀ entry ∈ t.results, entry.2 ≠ .error .disposed := by
  have kept := course.invariant
    (fun t k => t.Sound k ∧ t.Undisturbed ∧ ∀ entry ∈ t.results, entry.2 ≠ .error .disposed) ?_
    ⟨sound, undisturbed, none⟩
  · exact kept.2.2
  · rintro t u k move ⟨sound, undisturbed, none⟩ allowed moved
    obtain ⟨undropped, undisposed⟩ := spares t move allowed
    refine ⟨sound.after moved, ?_, ?_⟩
    · exact Session.undisturbed_after undisturbed sound.custody sound.unopened undropped undisposed
        moved
    · exact (Session.after_handling moved).none_rejected sound.custody
        (fun free => (sound.unopened free).empty) (fun fired => (undisturbed.shut fired).2.2.1) none

/-- **The outcome of every request, along every course of a session that was created.** No result is
given twice or changed later. Every result is one of an accepted request and accounted for by the
attempts at it: a result of its own is what the routine of the last attempt makes of what was said in
that attempt, and the attempts before it came back busy on what was said in them. Whatever was said has
been said by the engine, under the ticket that it had given out, while the driver waited for that
attempt. Once the driver is gone there is a result for every accepted request. No request is abandoned
or lost to the interpreter thread. What is queued behind the shutdown signal is never attempted, and
nothing is turned away unless somebody disposes or drops the session. -/
theorem completes_once {settings : Settings} {hosted : HostedEngine}
    (created : Session.create settings hosted = .ok s) (course : Course env s .empty j t) :
    (t.results.map Prod.fst).Nodup ∧
    (∀ k u, Course env t j k u → ∃ more, u.results = t.results ++ more) ∧
    (∀ id result, (id, result) ∈ t.results → ∃ request ∈ j.ledger.accepted, request.id = id ∧
      Accounted settings.retry t.shutdown (j.ledger.record id) (j.ledger.heard id) request.payload
        result) ∧
    (∀ entry ∈ j.ledger.said, ∃ i u, Course env s .empty i u ∧ Course env u i j t ∧
      u.driving = .attempting entry.1.1 entry.1.2 ∧ u.hosted.Says entry.2) ∧
    (t.driving = .exited → ∀ request ∈ j.ledger.accepted,
      ∃ result, (request.id, result) ∈ t.results) ∧
    (∀ entry ∈ t.results,
      entry.2 ≠ .error .abandoned ∧ entry.2 ≠ .error .interpreterGone) ∧
    (t.shutdown = true → ∀ request ∈ t.queue.items, ∀ k u, Course env t j k u →
      k.ledger.record request.id = tries 0 0) ∧
    (env.Spares → ∀ entry ∈ t.results, entry.2 ≠ .error .disposed) := by
  have sound := course.sound (Session.sound_of_create created)
  obtain ⟨fallback, _, fresh⟩ := Session.fresh_of_create created
  have retry : t.desk.retry = settings.retry := by
    rw [course.retry, fresh]
    rfl
  have accounted : ∀ id result, (id, result) ∈ t.results → ∃ request ∈ j.ledger.accepted,
      request.id = id ∧ Accounted settings.retry t.shutdown (j.ledger.record id)
        (j.ledger.heard id) request.payload result := by
    intro id result settled
    obtain ⟨request, accepted, rfl⟩ := sound.custody.accepted_of_settled settled
    refine ⟨request, accepted, rfl, ?_⟩
    rw [← retry]
    exact sound.accounts.settled request accepted result settled
  refine ⟨?_, ?_, accounted, ?_, ?_, ?_, ?_, ?_⟩
  · exact sound.custody.results_ascending.imp Nat.ne_of_lt
  · exact fun k u further => further.results
  · exact fun entry member => (course.said member).resolve_left nofun
  · intro exited request accepted
    obtain ⟨settled, order, ids⟩ := sound.custody.order
    have empty : t.desk.unsettled = [] := by
      have items := (sound.custody.exited exited).2
      rw [Desk.unsettled, items]
      have driving : t.desk.driving = .exited := exited
      simp only [Desk.inHand, driving, List.append_nil]
    rw [order, empty, List.append_nil] at accepted
    have listed : request.id ∈ t.results.map Prod.fst := by
      rw [show t.results.map Prod.fst = settled.map Request.id from ids.symm]
      exact List.mem_map_of_mem accepted
    obtain ⟨entry, member, same⟩ := List.mem_map.mp listed
    exact ⟨entry.2, same ▸ member⟩
  · intro entry settled
    obtain ⟨request, _, _, how⟩ := accounted entry.1 entry.2 settled
    exact how.not_lost
  · exact fun fired request queued k u further => further.never_begun sound fired queued
  · intro spares
    rw [fresh] at course created
    exact course.none_rejected spares (Session.sound_of_create created)
      (Session.undisturbed_fresh settings fallback hosted) fun _ member => by cases member

/-- A script runs, another one is stopped by the debugger, and the session is disposed while a third
one waits: all three are completed, and so is the start's question. -/
theorem completes_once_disposed : ∃ t j,
    Course (.only [.start, .submit (.script "1 + 2"), .submit (.script "Wait-Debugger"),
      .submit (.script "3"), .dispose]) Session.plain .empty j t ∧
    t.results.map Prod.fst = [1, 2, 3, 4] ∧ (t.results.map Prod.fst).Nodup ∧
    ∀ request ∈ j.ledger.accepted, ∃ result, (request.id, result) ∈ t.results := by
  obtain ⟨j, course⟩ := Session.exists_course_carryOut Session.plain .empty [.start,
    .submit (.script "1 + 2"), .submit (.script "Wait-Debugger"), .submit (.script "3"), .dispose]
  obtain ⟨once, _, _, _, complete, _⟩ := completes_once Session.create_plain course
  have concluded : (Session.plain.carryOut [.start, .submit (.script "1 + 2"),
      .submit (.script "Wait-Debugger"), .submit (.script "3"), .dispose]).driving.isOver = true := by
    decide +kernel
  exact ⟨_, j, course, by decide +kernel, once, complete (Driving.exited_of_over concluded)⟩

end Course

end ShellSession
