/-
**Accounts of requests.**

Every result is accounted for by the attempts at its request, and by what the engine said in them. A
result of its own is what the last attempt has made of the answers of the engine, and all attempts
before it came back busy; a request gives up at the bound on attempts and not before; and it is turned
away only behind the shutdown signal.

* `Ledger.record`, `Ledger.heard`: the attempts at a request, those that came back busy, and what the
  engine said in each;
* `Accounted`: what a result says about the attempts;
* `Desk.Accounts`: the invariant, kept by `Handling.accounts`.
-/

import ShellSession.Proofs.Session.Custody

namespace ShellSession

/-! ### Attempts at a request -/

/-- The numbers of the attempts at a request. -/
def numbersFor (id : Nat) (attempts : List (Request × Nat)) : List Nat :=
  attempts.filterMap fun attempt => if attempt.1.id = id then some attempt.2 else none

/-- The attempts at a request, and those of them that came back busy. -/
def Ledger.record (l : Ledger) (id : Nat) : List Nat × List Nat :=
  (numbersFor id l.begun, numbersFor id l.busy)

/-- What the engine said in an attempt at a request, in order. -/
def Ledger.heard (l : Ledger) (id number : Nat) : List Said :=
  l.said.filterMap fun entry =>
    if entry.1.1.id = id ∧ entry.1.2 = number then some entry.2 else none

/-- The record of attempts of which the first ones came back busy. -/
def tries (begun busy : Nat) : List Nat × List Nat :=
  (List.range' 1 begun, List.range' 1 busy)

/-- With what the engine said in each, the first attempts at a payload have come back busy. -/
def Payload.BusyFor (payload : Payload) (heard : Nat → List Said) (count : Nat) : Prop :=
  ∀ number, 0 < number → number ≤ count → (payload.attempt number).Hears (heard number) .busy

/-- How the attempts at a request account for its result. The first attempt that was not busy has come
to it with what the engine said in that attempt, and nothing else; or all attempts were busy and there
were as many as allowed; or all were busy, more were allowed, and the session was shut down. -/
inductive Accounted (retry : Retries) (fired : Bool) (record : List Nat × List Nat)
    (heard : Nat → List Said) (payload : Payload) : Result → Prop
  | own (busy : Nat) (routine : Routine) (result : Result)
      (hears : (payload.attempt (busy + 1)).Hears (heard (busy + 1)) routine)
      (ended : routine.result? = some result) (tried : record = tries (busy + 1) busy)
      (before : payload.BusyFor heard busy) : Accounted retry fired record heard payload result
  | exhausted (attempts : Nat) (bound : retry.maxAttempts = some attempts)
      (tried : record = tries attempts attempts) (before : payload.BusyFor heard attempts) :
      Accounted retry fired record heard payload (.error (.retriesExhausted attempts))
  | disposed (attempts : Nat) (shut : fired = true) (tried : record = tries attempts attempts)
      (before : payload.BusyFor heard attempts) (more : retry.givesUpAfter attempts = false) :
      Accounted retry fired record heard payload (.error .disposed)

/-- What the thread is doing in an attempt, with what the engine has said in it so far. -/
def Working.Follows (start : Routine) (heard : List Said) : Working → Prop
  | .working _ routine => start.Hears heard routine
  | .awaiting _ ticket next => ∃ earlier pipeline, heard = earlier ++ [.begun pipeline ticket] ∧
      start.Hears earlier (.invoke pipeline next)
  | .replying true => start.Hears heard .busy
  | _ => True

/-- The attempts at the request in the driver's hand. -/
def Desk.Underway (d : Desk) (record : Nat → List Nat × List Nat)
    (heard : Nat → Nat → List Said) : Prop :=
  match d.driving with
  | .gated request => record request.id = tries 0 0
  | .marking request => record request.id = tries 0 0
  | .attempting request attempts =>
    ∃ busy, attempts = busy + 1 ∧ record request.id = tries (busy + 1) busy ∧
      d.retry.givesUpAfter busy = false ∧ request.payload.BusyFor (heard request.id) busy ∧
      d.working.Follows (request.payload.attempt attempts) (heard request.id attempts)
  | .judging request attempts =>
    ∃ busy, attempts = busy + 1 ∧ record request.id = tries attempts attempts ∧
      d.retry.givesUpAfter busy = false ∧ request.payload.BusyFor (heard request.id) attempts
  | .backing request attempts _ =>
    record request.id = tries attempts attempts ∧ d.retry.givesUpAfter attempts = false ∧
      request.payload.BusyFor (heard request.id) attempts
  | .regated request attempts =>
    record request.id = tries attempts attempts ∧ d.retry.givesUpAfter attempts = false ∧
      request.payload.BusyFor (heard request.id) attempts
  | _ => True

/-- What is known of the attempts at all requests. -/
structure Desk.Accounts (d : Desk) (l : Ledger) : Prop where
  bound : d.retry.givesUpAfter 0 = false
  settled : ∀ request ∈ l.accepted, ∀ result, (request.id, result) ∈ d.results →
    Accounted d.retry d.shutdown (l.record request.id) (l.heard request.id) request.payload result
  queued : ∀ request ∈ d.queue.items, l.record request.id = tries 0 0
  unused : ∀ id, d.lastId < id → l.record id = tries 0 0
  silent : ∀ id number, number ∉ (l.record id).1 → l.heard id number = []
  underway : d.Underway l.record l.heard

/-! ### The record -/

section Record

variable {d e : Desk} {l : Ledger} {said : Option Said} {request : Request} {number : Nat}

theorem numbersFor_append_self (request : Request) (attempts : List (Request × Nat))
    (number : Nat) :
    numbersFor request.id (attempts ++ [(request, number)]) =
      numbersFor request.id attempts ++ [number] := by
  simp [numbersFor]

theorem numbersFor_append_other {id : Nat} {request : Request} (other : request.id ≠ id)
    (attempts : List (Request × Nat)) (number : Nat) :
    numbersFor id (attempts ++ [(request, number)]) = numbersFor id attempts := by
  simp [numbersFor, other]

theorem appearing_self {α : Type} (o : Option α) : appearing o o = [] := by
  cases o <;> rfl

theorem appearing_none {α : Type} (o : Option α) : appearing o none = [] := by
  cases o <;> rfl

/-- A change that neither begins an attempt nor hears of one leaves every record as it is. -/
theorem Ledger.record_note (l : Ledger)
    (begun : e.attempt? = d.attempt? ∨ e.attempt? = none)
    (busy : e.busyAttempt? = d.busyAttempt? ∨ e.busyAttempt? = none) :
    (l.note d said e).record = l.record := by
  have noneBegun : appearing d.attempt? e.attempt? = [] := by
    rcases begun with same | gone
    · rw [same, appearing_self]
    · rw [gone, appearing_none]
  have noneBusy : appearing d.busyAttempt? e.busyAttempt? = [] := by
    rcases busy with same | gone
    · rw [same, appearing_self]
    · rw [gone, appearing_none]
  funext id
  show (numbersFor id (l.begun ++ _), numbersFor id (l.busy ++ _)) = _
  rw [noneBegun, noneBusy, List.append_nil, List.append_nil]
  rfl

/-- An attempt begun at a request. -/
theorem Ledger.record_begun (l : Ledger) (before : d.attempt? = none)
    (after : e.attempt? = some (request, number)) (busy : e.busyAttempt? = none) :
    (l.note d none e).record request.id =
        ((l.record request.id).1 ++ [number], (l.record request.id).2) ∧
      ∀ id, id ≠ request.id → (l.note d none e).record id = l.record id := by
  have begun : (l.note d none e).begun = l.begun ++ [(request, number)] := by
    show l.begun ++ appearing d.attempt? e.attempt? = _
    rw [before, after]
    rfl
  have same : (l.note d none e).busy = l.busy := by
    show l.busy ++ appearing d.busyAttempt? e.busyAttempt? = _
    rw [busy, appearing_none, List.append_nil]
  refine ⟨?_, fun id other => ?_⟩
  · simp only [record, begun, same, numbersFor_append_self]
  · simp only [record, begun, same, numbersFor_append_other (Ne.symm other)]

/-- An attempt at a request that came back busy. -/
theorem Ledger.record_busy (l : Ledger) (before : d.busyAttempt? = none)
    (after : e.busyAttempt? = some (request, number)) (begun : e.attempt? = none) :
    (l.note d none e).record request.id =
        ((l.record request.id).1, (l.record request.id).2 ++ [number]) ∧
      ∀ id, id ≠ request.id → (l.note d none e).record id = l.record id := by
  have heard : (l.note d none e).busy = l.busy ++ [(request, number)] := by
    show l.busy ++ appearing d.busyAttempt? e.busyAttempt? = _
    rw [before, after]
    rfl
  have same : (l.note d none e).begun = l.begun := by
    show l.begun ++ appearing d.attempt? e.attempt? = _
    rw [begun, appearing_none, List.append_nil]
  refine ⟨?_, fun id other => ?_⟩
  · simp only [record, heard, same, numbersFor_append_self]
  · simp only [record, heard, same, numbersFor_append_other (Ne.symm other)]

/-- One more number behind the first ones. -/
theorem range_append_next (count : Nat) :
    List.range' 1 count ++ [count + 1] = List.range' 1 (count + 1) := by
  rw [List.range'_1_concat, Nat.add_comm 1 count]

/-- A change in which the engine says nothing. -/
theorem Ledger.heard_note (l : Ledger) : (l.note d none e).heard = l.heard := by
  funext id number
  show (l.said ++ d.attempt?.toList.zip []).filterMap _ = _
  rw [List.zip_nil_right, List.append_nil]
  rfl

/-- What the engine says is written down for the attempt under way. -/
theorem Ledger.said_note (l : Ledger) (answer : Said)
    (attempting : d.attempt? = some (request, number)) :
    (l.note d (some answer) e).said = l.said ++ [((request, number), answer)] := by
  show l.said ++ d.attempt?.toList.zip [answer] = _
  rw [attempting]
  rfl

theorem Ledger.heard_said (l : Ledger) (answer : Said)
    (attempting : d.attempt? = some (request, number)) :
    (l.note d (some answer) e).heard request.id number = l.heard request.id number ++ [answer] := by
  simp [heard, l.said_note answer attempting]

theorem Ledger.heard_other (l : Ledger) (answer : Said)
    (attempting : d.attempt? = some (request, number)) {id other : Nat}
    (apart : request.id = id → number ≠ other) :
    (l.note d (some answer) e).heard id other = l.heard id other := by
  simp only [heard, l.said_note answer attempting, List.filterMap_append, List.filterMap_cons,
    List.filterMap_nil, if_neg fun same : request.id = id ∧ number = other => apart same.1 same.2,
    List.append_nil]

end Record

/-! ### Accounts -/

/-- What is accounted for stays so when the session is shut down. -/
theorem Accounted.shut {retry : Retries} {fired later : Bool} {record : List Nat × List Nat}
    {heard : Nat → List Said} {payload : Payload} {result : Result}
    (accounted : Accounted retry fired record heard payload result)
    (monotone : fired = true → later = true) :
    Accounted retry later record heard payload result := by
  cases accounted with
  | own busy routine result hears ended tried before =>
    exact .own busy routine result hears ended tried before
  | exhausted attempts bound tried before => exact .exhausted attempts bound tried before
  | disposed attempts shut tried before more =>
    exact .disposed attempts (monotone shut) tried before more

/-- No attempt has come back busy yet. -/
theorem Payload.busyFor_zero (payload : Payload) (heard : Nat → List Said) :
    payload.BusyFor heard 0 :=
  fun _ some none => absurd some (Nat.not_lt_of_le none)

/-- One more attempt that comes back busy. -/
theorem Payload.BusyFor.next {payload : Payload} {heard : Nat → List Said} {count : Nat}
    (before : payload.BusyFor heard count)
    (last : (payload.attempt (count + 1)).Hears (heard (count + 1)) .busy) :
    payload.BusyFor heard (count + 1) := by
  intro number some within
  rcases Nat.lt_or_eq_of_le within with earlier | rfl
  · exact before number some (Nat.le_of_lt_succ earlier)
  · exact last

/-- The bound on attempts is the first number that is too many. -/
theorem Retries.bound_of_givesUp {retry : Retries} {attempts : Nat}
    (concluded : retry.givesUpAfter (attempts + 1) = true)
    (before : retry.givesUpAfter attempts = false) : retry.maxAttempts = some (attempts + 1) := by
  unfold givesUpAfter at concluded before
  cases bound : retry.maxAttempts with
  | none =>
    rw [bound] at concluded
    cases concluded
  | some most =>
    rw [bound] at concluded before
    have above : most ≤ attempts + 1 := of_decide_eq_true concluded
    have below : ¬ most ≤ attempts := of_decide_eq_false before
    rw [Nat.le_antisymm above (Nat.lt_of_not_le below)]

/-- A step of the thread in which the engine says nothing leaves the attempt that it works at, as far as
it follows its routine. -/
theorem Desk.Underway.work {d : Desk} {record : Nat → List Nat × List Nat}
    {heard : Nat → Nat → List Said} {request : Request} {attempts : Nat} {working : Working}
    (underway : d.Underway record heard) (attempting : d.driving = .attempting request attempts)
    (follows : d.working.Follows (request.payload.attempt attempts) (heard request.id attempts) →
      working.Follows (request.payload.attempt attempts) (heard request.id attempts)) :
    Desk.Underway { d with working } record heard := by
  unfold Underway at underway ⊢
  simp only [attempting] at underway ⊢
  obtain ⟨busy, number, tried, more, before, earlier⟩ := underway
  exact ⟨busy, number, tried, more, before, follows earlier⟩

/-- The attempt under way has been written down. -/
theorem Desk.Underway.begun {d : Desk} {record : Nat → List Nat × List Nat}
    {heard : Nat → Nat → List Said} {request : Request} {attempts : Nat}
    (underway : d.Underway record heard) (attempting : d.driving = .attempting request attempts) :
    attempts ∈ (record request.id).1 := by
  unfold Underway at underway
  simp only [attempting] at underway
  obtain ⟨busy, rfl, tried, _⟩ := underway
  rw [tried]
  exact List.mem_range'_1.mpr ⟨Nat.succ_pos busy, Nat.lt_add_of_pos_left Nat.one_pos⟩

/-- A step of the thread in which the engine says something in the attempt that it works at. -/
theorem Desk.Underway.tell {d : Desk} {record : Nat → List Nat × List Nat}
    {heard later : Nat → Nat → List Said} {request : Request} {attempts : Nat} {working : Working}
    (underway : d.Underway record heard) (attempting : d.driving = .attempting request attempts)
    (others : ∀ number, number ≠ attempts → later request.id number = heard request.id number)
    (follows : d.working.Follows (request.payload.attempt attempts) (heard request.id attempts) →
      working.Follows (request.payload.attempt attempts) (later request.id attempts)) :
    Desk.Underway { d with working } record later := by
  unfold Underway at underway ⊢
  simp only [attempting] at underway ⊢
  obtain ⟨busy, last, tried, more, before, earlier⟩ := underway
  refine ⟨busy, last, tried, more, fun number some within => ?_, follows earlier⟩
  rw [others number (by omega)]
  exact before number some within

namespace Desk.Accounts

variable {d e : Desk} {l : Ledger} {request : Request} {attempts : Nat} {working : Working}

/-- A change that accepts nothing, settles nothing, and begins no attempt. -/
theorem keep (accounts : d.Accounts l) (retry : e.retry = d.retry)
    (fired : d.shutdown = true → e.shutdown = true)
    (items : ∀ request ∈ e.queue.items, request ∈ d.queue.items)
    (short : e.queue.items.length ≤ d.queue.items.length) (results : e.results = d.results)
    (ids : d.lastId ≤ e.lastId) (record : (l.note d none e).record = l.record)
    (underway : e.Underway l.record l.heard) : e.Accounts (l.note d none e) where
  bound := retry ▸ accounts.bound
  settled := by
    intro request member result done
    rw [l.accepted_note short] at member
    rw [results] at done
    rw [record, l.heard_note, retry]
    exact (accounts.settled request member result done).shut fired
  queued := by
    intro request member
    rw [record]
    exact accounts.queued request (items request member)
  unused := by
    intro id above
    rw [record]
    exact accounts.unused id (Nat.lt_of_le_of_lt ids above)
  silent := by
    rw [record, l.heard_note]
    exact accounts.silent
  underway := by
    rw [record, l.heard_note]
    exact underway

/-- A step of the driver or of the thread that begins no attempt and hears of no busy one. -/
theorem stage (accounts : d.Accounts l)
    (same : e = { d with driving := e.driving, working := e.working })
    (begun : e.attempt? = d.attempt? ∨ e.attempt? = none)
    (busy : e.busyAttempt? = d.busyAttempt? ∨ e.busyAttempt? = none)
    (underway : e.Underway l.record l.heard) : e.Accounts (l.note d none e) := by
  have queue : e.queue = d.queue := by rw [same]
  have ids : e.lastId = d.lastId := by rw [same]
  exact accounts.keep (by rw [same]) (fun fired => by rw [same]; exact fired)
    (fun _ member => queue ▸ member) (Nat.le_of_eq (by rw [queue])) (by rw [same])
    (Nat.le_of_eq ids.symm) (l.record_note begun busy) underway

/-- A step of the thread in an attempt, in which the engine says nothing. -/
theorem work (accounts : d.Accounts l) (attempting : d.driving = .attempting request attempts)
    (follows :
      d.working.Follows (request.payload.attempt attempts) (l.heard request.id attempts) →
        working.Follows (request.payload.attempt attempts) (l.heard request.id attempts)) :
    Desk.Accounts { d with working } (l.note d none { d with working }) :=
  accounts.stage rfl (.inl rfl) (.inl rfl) (accounts.underway.work attempting follows)

/-- A step of the thread in an attempt, in which the engine says something. -/
theorem tell (accounts : d.Accounts l) (custody : d.Custody l) {answer : Said}
    (attempting : d.driving = .attempting request attempts) (mine : d.inHand = [request])
    (follows :
      d.working.Follows (request.payload.attempt attempts) (l.heard request.id attempts) →
        working.Follows (request.payload.attempt attempts)
          (l.heard request.id attempts ++ [answer])) :
    Desk.Accounts { d with working } (l.note d (some answer) { d with working }) := by
  have under : d.attempt? = some (request, attempts) := by
    unfold attempt?
    rw [attempting]
  have record : (l.note d (some answer) { d with working }).record = l.record :=
    l.record_note (.inl rfl) (.inl rfl)
  have kept : (l.note d (some answer) { d with working }).accepted = l.accepted :=
    l.accepted_note (Nat.le_refl _)
  have held : request ∈ d.unsettled :=
    List.mem_append_left _ (by rw [mine]; exact List.mem_singleton_self request)
  refine ⟨accounts.bound, fun other member result done => ?_, record ▸ accounts.queued,
    record ▸ accounts.unused, fun id number unmade => ?_, ?_⟩
  · -- The request of the attempt has no result, so what is said is not about one that has.
    rw [kept] at member
    have apart : request.id ≠ other.id := Nat.ne_of_gt (custody.settled_lt done held)
    have same : (l.note d (some answer) { d with working }).heard other.id = l.heard other.id :=
      funext fun number => l.heard_other answer under fun same => absurd same apart
    rw [record, same]
    exact accounts.settled other member result done
  · rw [record] at unmade
    refine (l.heard_other answer under ?_).trans (accounts.silent id number unmade)
    rintro rfl rfl
    exact unmade (accounts.underway.begun attempting)
  · rw [record]
    refine accounts.underway.tell attempting (fun number other => ?_) fun earlier => ?_
    · exact l.heard_other answer under fun _ => Ne.symm other
    · rw [l.heard_said answer under]
      exact follows earlier

/-- The thread goes on along the routine of its attempt, with the answer of the engine where there is
one. -/
theorem proceed (accounts : d.Accounts l) (custody : d.Custody l) {routine later : Routine}
    {said : Option Said} (attempting : d.driving = .attempting request attempts)
    (working : d.working = .working request routine) (told : routine.Told said later) :
    Desk.Accounts { d with working := .working request later }
      (l.note d said { d with working := .working request later }) := by
  cases said with
  | none =>
    refine accounts.work attempting fun hears => ?_
    rw [working] at hears
    have further := Routine.Hears.told hears told
    rwa [Option.toList_none, List.append_nil] at further
  | some answer =>
    refine accounts.tell custody attempting (by simp only [inHand, attempting, working])
      fun hears => ?_
    rw [working] at hears
    exact .told hears told

/-- A change by which a request in hand is settled. -/
theorem settle (accounts : d.Accounts l) (custody : d.Custody l) {result : Result}
    (mine : d.inHand = [request])
    (same : e = { d with
      results := d.results ++ [(request.id, result)]
      driving := e.driving
      working := e.working })
    (begun : e.attempt? = d.attempt? ∨ e.attempt? = none)
    (busy : e.busyAttempt? = d.busyAttempt? ∨ e.busyAttempt? = none)
    (accounted : Accounted d.retry d.shutdown (l.record request.id) (l.heard request.id)
      request.payload result)
    (underway : e.Underway l.record l.heard) : e.Accounts (l.note d none e) := by
  have retry : e.retry = d.retry := by rw [same]
  have fired : e.shutdown = d.shutdown := by rw [same]
  have queue : e.queue = d.queue := by rw [same]
  have results : e.results = d.results ++ [(request.id, result)] := by rw [same]
  have record : (l.note d none e).record = l.record := l.record_note begun busy
  refine ⟨retry ▸ accounts.bound, ?_, ?_, ?_, ?_, ?_⟩
  · intro other member otherResult done
    have short : e.queue.items.length ≤ d.queue.items.length := Nat.le_of_eq (by rw [queue])
    rw [l.accepted_note short] at member
    rw [record, l.heard_note, retry, fired]
    rw [results] at done
    rcases List.mem_append.mp done with before | new
    · exact accounts.settled other member otherResult before
    · obtain ⟨sameId, sameResult⟩ := Prod.mk.inj (List.mem_singleton.mp new)
      have held : request ∈ d.unsettled :=
        List.mem_append_left _ (by rw [mine]; exact List.mem_singleton_self request)
      have same := custody.eq_of_id member (custody.accepted_of_unsettled held) sameId
      rw [same, sameResult]
      exact accounted
  · rw [queue, record]
    exact accounts.queued
  · have ids : e.lastId = d.lastId := by rw [same]
    rw [ids, record]
    exact accounts.unused
  · rw [record, l.heard_note]
    exact accounts.silent
  · rw [record, l.heard_note]
    exact underway

/-- A change by which something is written down for the request in hand. -/
theorem write (accounts : d.Accounts l) (custody : d.Custody l) (mine : d.inHand = [request])
    (same : e = { d with driving := e.driving, working := e.working })
    (record : ∀ id, id ≠ request.id → (l.note d none e).record id = l.record id)
    (grows : ∀ number ∈ (l.record request.id).1,
      number ∈ ((l.note d none e).record request.id).1)
    (underway : e.Underway (l.note d none e).record l.heard) : e.Accounts (l.note d none e) := by
  have retry : e.retry = d.retry := by rw [same]
  have fired : e.shutdown = d.shutdown := by rw [same]
  have queue : e.queue = d.queue := by rw [same]
  have held : request ∈ d.unsettled :=
    List.mem_append_left _ (by rw [mine]; exact List.mem_singleton_self request)
  have accepted := custody.accepted_of_unsettled held
  refine ⟨retry ▸ accounts.bound, ?_, ?_, ?_, ?_, l.heard_note ▸ underway⟩
  · intro other member result done
    have short : e.queue.items.length ≤ d.queue.items.length := Nat.le_of_eq (by rw [queue])
    rw [l.accepted_note short] at member
    rw [show e.results = d.results by rw [same]] at done
    rw [record other.id (Nat.ne_of_lt (custody.settled_lt done held)), l.heard_note, retry, fired]
    exact accounts.settled other member result done
  · intro other member
    rw [queue] at member
    rw [record other.id (Nat.ne_of_gt (custody.inHand_lt mine member))]
    exact accounts.queued other member
  · intro id above
    rw [show e.lastId = d.lastId by rw [same]] at above
    have below := custody.bounded request accepted
    rw [record id (Nat.ne_of_gt (Nat.lt_of_le_of_lt below above))]
    exact accounts.unused id above
  · intro id number unmade
    rw [l.heard_note]
    refine accounts.silent id number fun made => unmade ?_
    by_cases other : id = request.id
    · subst other
      exact grows number made
    · rw [record id other]
      exact made

/-- A further attempt, at the request in hand, behind attempts that came back busy. -/
theorem attempt (accounts : d.Accounts l) (custody : d.Custody l) (mine : d.inHand = [request])
    (free : d.attempt? = none) (tried : l.record request.id = tries attempts attempts)
    (more : d.retry.givesUpAfter attempts = false)
    (before : request.payload.BusyFor (l.heard request.id) attempts)
    (same : e = { d with
      driving := .attempting request (attempts + 1)
      working := .working request (request.payload.attempt (attempts + 1)) }) :
    e.Accounts (l.note d none e) := by
  subst same
  obtain ⟨begun, others⟩ := l.record_begun (d := d)
    (e := { d with
      driving := .attempting request (attempts + 1)
      working := .working request (request.payload.attempt (attempts + 1)) }) free rfl rfl
  have silent : l.heard request.id (attempts + 1) = [] := by
    refine accounts.silent request.id (attempts + 1) fun made => ?_
    rw [tried] at made
    have within := (List.mem_range'_1.mp made).2
    omega
  refine accounts.write custody mine rfl others (fun number made => ?_)
    ⟨attempts, rfl, ?_, more, before, ?_⟩
  · rw [begun]
    exact List.mem_append_left _ made
  · rw [begun, tried]
    exact Prod.ext (range_append_next attempts) rfl
  · rw [silent]
    exact .here

/-- The driver hears of an attempt that has come back busy. -/
theorem hear (accounts : d.Accounts l) (custody : d.Custody l)
    (attempting : d.driving = .attempting request attempts)
    (replying : d.working = .replying true) :
    Desk.Accounts { d with working := .resting, driving := .judging request attempts }
      (l.note d none { d with working := .resting, driving := .judging request attempts }) := by
  have underway := accounts.underway
  unfold Underway at underway
  simp only [attempting, replying] at underway
  obtain ⟨busy, rfl, tried, more, before, last⟩ := underway
  obtain ⟨mine, others⟩ := l.record_busy (d := d)
    (e := { d with working := .resting, driving := .judging request (busy + 1) })
    (by simp only [busyAttempt?, attempting]) rfl rfl
  refine accounts.write custody (by simp only [inHand, attempting, replying]) rfl others
    (fun number made => ?_) ⟨busy, rfl, ?_, more, before.next last⟩
  · rw [mine]
    exact made
  · rw [mine, tried]
    exact Prod.ext rfl (range_append_next busy)

/-- The thread settles the request of its attempt with what the routine has come to. -/
theorem answer (accounts : d.Accounts l) (custody : d.Custody l) {routine : Routine}
    {result : Result} (working : d.working = .working request routine)
    (ended : routine.result? = some result) :
    Desk.Accounts { d with
      results := d.results ++ [(request.id, result)]
      working := .replying false }
      (l.note d none { d with
        results := d.results ++ [(request.id, result)]
        working := .replying false }) := by
  obtain ⟨attempts, attempting⟩ := attempting_of_working custody.agree working
  have answered : Underway { d with working := .replying false } l.record l.heard :=
    accounts.underway.work attempting fun _ => trivial
  have underway := accounts.underway
  unfold Underway at underway
  simp only [attempting, working] at underway
  obtain ⟨busy, rfl, tried, more, before, hears⟩ := underway
  exact accounts.settle custody (by simp only [inHand, attempting, working]) rfl (.inl rfl)
    (.inl rfl) (.own busy routine result hears ended tried before) answered

/-- A request accepted, at which nothing has been attempted. -/
theorem accept (accounts : d.Accounts l) (custody : d.Custody l) (payload : Payload)
    (same : e = { d with
      lastId := d.lastId + 1
      queue := ⟨d.queue.items ++ [⟨d.lastId + 1, payload⟩], false⟩ }) :
    e.Accounts (l.note d none e) := by
  have record : (l.note d none e).record = l.record :=
    l.record_note (.inl (by rw [same]; rfl)) (.inl (by rw [same]; rfl))
  have grown : (l.note d none e).accepted = l.accepted ++ [⟨d.lastId + 1, payload⟩] := by
    show l.accepted ++ e.queue.items.drop d.queue.items.length = _
    rw [same, List.drop_left]
  have underway : e.Underway l.record l.heard := by
    rw [same]
    exact accounts.underway
  refine ⟨?_, ?_, ?_, ?_, ?_, ?_⟩
  · rw [same]
    exact accounts.bound
  · intro request member result done
    rw [grown] at member
    rw [record, l.heard_note]
    subst same
    rcases List.mem_append.mp member with old | new
    · exact accounts.settled request old result done
    · obtain ⟨earlier, accepted, sameId⟩ := custody.accepted_of_settled done
      have below := custody.bounded earlier accepted
      rw [List.mem_singleton.mp new] at sameId
      exact absurd (sameId ▸ below) (Nat.not_succ_le_self _)
  · intro request member
    rw [record]
    subst same
    rcases List.mem_append.mp member with old | new
    · exact accounts.queued request old
    · rw [List.mem_singleton.mp new]
      exact accounts.unused _ (Nat.lt_succ_self _)
  · intro id above
    rw [record]
    subst same
    exact accounts.unused id (Nat.lt_of_succ_lt above)
  · rw [record, l.heard_note]
    exact accounts.silent
  · rw [record, l.heard_note]
    exact underway

/-- The first request of the queue goes into the driver's hand. -/
theorem take (accounts : d.Accounts l) {rest : List Request}
    (queued : d.queue.items = request :: rest) :
    Desk.Accounts { d with queue := ⟨rest, d.queue.closed⟩, driving := .gated request }
      (l.note d none { d with queue := ⟨rest, d.queue.closed⟩, driving := .gated request }) := by
  have first : l.record request.id = tries 0 0 :=
    accounts.queued request (by rw [queued]; exact List.mem_cons_self)
  refine accounts.keep rfl id (fun other member => ?_) ?_ rfl (Nat.le_refl _)
    (l.record_note (.inr rfl) (.inr rfl)) first
  · rw [queued]
    exact List.mem_cons_of_mem request member
  · rw [queued]
    exact Nat.le_succ _

/-- The queue turned away behind the shutdown signal, or empty. -/
theorem turnAway (accounts : d.Accounts l) (custody : d.Custody l)
    (shut : d.shutdown = true ∨ d.queue.items = [])
    (same : e = { d with
      results := d.results ++ rejections d.queue.items
      queue := ⟨[], true⟩
      driving := .exited }) : e.Accounts (l.note d none e) := by
  have record : (l.note d none e).record = l.record :=
    l.record_note (.inr (by rw [same]; rfl)) (.inr (by rw [same]; rfl))
  have kept : (l.note d none e).accepted = l.accepted := by
    refine l.accepted_note ?_
    rw [same]
    exact Nat.zero_le _
  refine ⟨?_, ?_, ?_, ?_, ?_, ?_⟩
  · rw [same]
    exact accounts.bound
  · intro request member result done
    rw [kept] at member
    rw [record, l.heard_note]
    subst same
    rcases List.mem_append.mp done with before | new
    · exact accounts.settled request member result before
    · obtain ⟨other, queued, pair⟩ := List.mem_map.mp new
      obtain ⟨sameId, sameResult⟩ := Prod.mk.inj pair
      have held : other ∈ d.unsettled := List.mem_append_right _ queued
      have sameRequest :=
        custody.eq_of_id member (custody.accepted_of_unsettled held) sameId.symm
      rw [← sameResult, sameRequest]
      have fired : d.shutdown = true := by
        refine shut.resolve_right fun empty => ?_
        rw [empty] at queued
        cases queued
      exact .disposed 0 fired (accounts.queued other queued)
        (other.payload.busyFor_zero (l.heard other.id)) accounts.bound
  · subst same
    exact nofun
  · rw [record]
    subst same
    exact accounts.unused
  · rw [record, l.heard_note]
    exact accounts.silent
  · subst same
    exact trivial

/-- The request at the gate is turned away behind the shutdown signal, nothing having been attempted at
it. -/
theorem reject (accounts : d.Accounts l) (custody : d.Custody l)
    (gated : d.driving = .gated request) (fired : d.shutdown = true)
    (same : e = { d with
      results := d.results ++ [(request.id, .error .disposed)]
      driving := .closing }) : e.Accounts (l.note d none e) := by
  have underway := accounts.underway
  unfold Underway at underway
  simp only [gated] at underway
  subst same
  exact accounts.settle custody (by simp only [inHand, gated]) rfl (.inr rfl) (.inr rfl)
    (.disposed 0 fired underway (request.payload.busyFor_zero _) accounts.bound) trivial

/-- The first attempt at the request in hand. -/
theorem launch (accounts : d.Accounts l) (custody : d.Custody l)
    (marking : d.driving = .marking request)
    (same : e = { d with
      driving := .attempting request 1
      working := .working request (request.payload.attempt 1) }) :
    e.Accounts (l.note d none e) := by
  have underway := accounts.underway
  unfold Underway at underway
  simp only [marking] at underway
  exact accounts.attempt custody (by simp only [inHand, marking])
    (by simp only [attempt?, marking]) underway accounts.bound (request.payload.busyFor_zero _) same

/-- The driver gives the request in hand up, the number of its attempts being the bound. -/
theorem exhaust (accounts : d.Accounts l) (custody : d.Custody l)
    (judging : d.driving = .judging request attempts)
    (concluded : d.retry.givesUpAfter attempts = true)
    (same : e = { d with
      results := d.results ++ [(request.id, .error (.retriesExhausted attempts))]
      driving := .unmarking }) : e.Accounts (l.note d none e) := by
  have underway := accounts.underway
  unfold Underway at underway
  simp only [judging] at underway
  obtain ⟨busy, rfl, tried, more, before⟩ := underway
  subst same
  exact accounts.settle custody (by simp only [inHand, judging]) rfl (.inr rfl) (.inr rfl)
    (.exhausted (busy + 1) (Retries.bound_of_givesUp concluded more) tried before) trivial

/-- The driver backs off, more attempts being allowed. -/
theorem backOff (accounts : d.Accounts l) {signals : Nat}
    (judging : d.driving = .judging request attempts)
    (more : d.retry.givesUpAfter attempts = false)
    (same : e = { d with driving := .backing request attempts signals }) :
    e.Accounts (l.note d none e) := by
  have underway := accounts.underway
  unfold Underway at underway
  simp only [judging] at underway
  obtain ⟨busy, last, tried, _, before⟩ := underway
  subst same
  exact accounts.stage rfl (.inr rfl) (.inr rfl) ⟨tried, more, before⟩

/-- The request in hand is turned away behind the shutdown signal, all attempts at it so far having come
back busy. -/
theorem abandon (accounts : d.Accounts l) (custody : d.Custody l)
    (retrying : (∃ signals, d.driving = .backing request attempts signals) ∨
      d.driving = .regated request attempts)
    (fired : d.shutdown = true)
    (same : e = { d with
      results := d.results ++ [(request.id, .error .disposed)]
      driving := .unmarking }) : e.Accounts (l.note d none e) := by
  have underway := accounts.underway
  unfold Underway at underway
  have known : l.record request.id = tries attempts attempts ∧
      d.retry.givesUpAfter attempts = false ∧
      request.payload.BusyFor (l.heard request.id) attempts := by
    rcases retrying with ⟨signals, driving⟩ | driving <;> simpa only [driving] using underway
  obtain ⟨tried, more, before⟩ := known
  subst same
  exact accounts.settle custody (held_of_retrying custody.agree retrying).1 rfl (.inr rfl) (.inr rfl)
    (.disposed attempts fired tried before more) trivial

/-- One more attempt at the request in hand. -/
theorem relaunch (accounts : d.Accounts l) (custody : d.Custody l)
    (regated : d.driving = .regated request attempts)
    (same : e = { d with
      driving := .attempting request (attempts + 1)
      working := .working request (request.payload.attempt (attempts + 1)) }) :
    e.Accounts (l.note d none e) := by
  have underway := accounts.underway
  unfold Underway at underway
  simp only [regated] at underway
  obtain ⟨tried, more, before⟩ := underway
  exact accounts.attempt custody (by simp only [inHand, regated])
    (by simp only [attempt?, regated]) tried more before same

/-- The thread begins a run of the engine in its attempt. -/
theorem ask (accounts : d.Accounts l) (custody : d.Custody l) {pipeline : Pipeline} {ticket : Nat}
    {next : Except EngineFailure (List Value) → Routine}
    (working : d.working = .working request (.invoke pipeline next)) :
    Desk.Accounts { d with working := .awaiting request ticket next }
      (l.note d (some (.begun pipeline ticket)) { d with
        working := .awaiting request ticket next }) := by
  obtain ⟨attempts, attempting⟩ := attempting_of_working custody.agree working
  refine accounts.tell custody attempting (by simp only [inHand, attempting, working])
    fun hears => ?_
  rw [working] at hears
  exact ⟨_, pipeline, rfl, hears⟩

/-- The thread goes on with the outcome of the run that it has waited for. -/
theorem receive (accounts : d.Accounts l) (custody : d.Custody l) {ticket : Nat}
    {next : Except EngineFailure (List Value) → Routine}
    {outcome : Except EngineFailure (List Value)}
    (awaiting : d.working = .awaiting request ticket next) :
    Desk.Accounts { d with working := .working request (next outcome) }
      (l.note d (some (.ended ticket outcome)) { d with
        working := .working request (next outcome) }) := by
  obtain ⟨attempts, attempting⟩ := attempting_of_awaiting custody.agree awaiting
  refine accounts.tell custody attempting (by simp only [inHand, attempting, awaiting])
    fun hears => ?_
  rw [awaiting] at hears
  obtain ⟨earlier, pipeline, heard, asked⟩ := hears
  rw [heard, List.append_assoc]
  exact asked.ended ticket outcome

end Desk.Accounts

/-- **Every change of a desk keeps accounts**, as long as nothing is queued before the driver is
there. -/
theorem Handling.accounts {d e : Desk} {l : Ledger} {said : Option Said}
    (handling : Handling d said e) (custody : d.Custody l)
    (unborn : d.driving = .unborn → d.queue.items = []) (accounts : d.Accounts l) :
    e.Accounts (l.note d said e) := by
  have underway := accounts.underway
  have within : ∀ request ∈ d.queue.items, request ∈ d.queue.items := fun _ member => member
  cases handling with
  -- The calls.
  | idle | close =>
    exact accounts.keep rfl id within (Nat.le_refl _) rfl (Nat.le_refl _)
      (l.record_note (.inl rfl) (.inl rfl)) underway
  | accept payload opened => exact accounts.accept custody payload rfl
  | refuse closed =>
    exact accounts.keep rfl id within (Nat.le_refl _) rfl (Nat.le_succ _)
      (l.record_note (.inl rfl) (.inl rfl)) underway
  | fire =>
    exact accounts.keep rfl (fun _ => rfl) within (Nat.le_refl _) rfl (Nat.le_refl _)
      (l.record_note (.inl rfl) (.inl rfl)) underway
  | turnAway free =>
    refine accounts.turnAway custody ?_ rfl
    rcases free with driving | driving
    · exact .inr (unborn driving)
    · exact (custody.closing driving).imp id And.right
  -- The driver without a request, and with one at which nothing has been attempted.
  | spawn | withdraw | turn | conclude | wait | leave | unmark =>
    exact accounts.stage rfl (.inr rfl) (.inr rfl) trivial
  | take request rest looking queued => exact accounts.take queued
  | reject request gated fired => exact accounts.reject custody gated fired rfl
  | mark request gated held =>
    unfold Desk.Underway at underway
    simp only [gated] at underway
    exact accounts.stage rfl (.inr rfl) (.inr rfl) underway
  | launch request marking => exact accounts.launch custody marking rfl
  -- The driver behind an attempt that came back busy.
  | hear request attempts attempting replying => exact accounts.hear custody attempting replying
  | exhaust request attempts judging concluded =>
    exact accounts.exhaust custody judging concluded rfl
  | backOff request attempts signals judging more => exact accounts.backOff judging more rfl
  | retry request attempts signals backing held =>
    unfold Desk.Underway at underway
    simp only [backing] at underway
    exact accounts.stage rfl (.inr rfl) (.inr rfl) underway
  | abandon request attempts retrying fired => exact accounts.abandon custody retrying fired rfl
  | relaunch request attempts regated held => exact accounts.relaunch custody regated rfl
  -- The thread in an attempt, with the answers of the engine.
  | holdBack request working =>
    obtain ⟨attempts, attempting⟩ := Desk.attempting_of_working custody.agree working
    exact accounts.work attempting fun hears => by rwa [working] at hears
  | settle request routine result working ended => exact accounts.answer custody working ended
  | proceed request routine later said working told =>
    obtain ⟨attempts, attempting⟩ := Desk.attempting_of_working custody.agree working
    exact accounts.proceed custody attempting working told
  | ask request pipeline ticket next working => exact accounts.ask custody working
  | receive request ticket next outcome awaiting => exact accounts.receive custody awaiting

end ShellSession
