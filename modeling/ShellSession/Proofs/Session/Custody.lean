/-
**Custody of requests.**

An accepted request is settled, or in the driver's hand, or in the queue, and in this order: what
was accepted earlier is settled earlier. So no request is settled twice, and none gets lost between
the queue, the driver and the interpreter thread.

* `Desk.inHand`: the request that the driver holds and that has no result yet;
* `Desk.Custody`: the invariant, kept by `Handling.custody`;
* `Course.custody`: **custody is kept along every course of a session**.
-/

import ShellSession.Proofs.Session.Handling

namespace ShellSession

/-! ### The invariant -/

namespace Desk

/-- The request that the driver holds and that has no result yet. -/
def inHand (d : Desk) : List Request :=
  match d.driving, d.working with
  | .attempting _ _, .replying false => []
  | .attempting request _, _ => [request]
  | .gated request, _ => [request]
  | .marking request, _ => [request]
  | .judging request _, _ => [request]
  | .backing request _ _, _ => [request]
  | .regated request _, _ => [request]
  | _, _ => []

/-- The requests that have no result yet, the earlier ones first. -/
def unsettled (d : Desk) : List Request :=
  d.inHand ++ d.queue.items

end Desk

/-- The interpreter thread is at work exactly while the driver waits for an attempt, and at the same
request. -/
def Driving.Agrees : Driving → Working → Prop
  | .attempting _ _, .resting => False
  | .attempting request _, .working other _ => other = request
  | .attempting request _, .awaiting other _ _ => other = request
  | .attempting _ _, .replying _ => True
  | _, working => working = .resting

/-- Where accepted requests are. -/
structure Desk.Custody (d : Desk) (l : Ledger) : Prop where
  order : ∃ settled, l.accepted = settled ++ d.unsettled ∧
    settled.map Request.id = d.results.map Prod.fst
  ascending : l.accepted.Pairwise fun earlier later => earlier.id < later.id
  bounded : ∀ request ∈ l.accepted, request.id ≤ d.lastId
  agree : d.driving.Agrees d.working
  closing : d.driving = .closing →
    d.shutdown = true ∨ d.queue.closed = true ∧ d.queue.items = []
  exited : d.driving = .exited → d.queue.closed = true ∧ d.queue.items = []

/-- Nothing is accepted where the queue does not grow. -/
theorem Ledger.accepted_note {d e : Desk} {said : Option Said} (l : Ledger)
    (short : e.queue.items.length ≤ d.queue.items.length) :
    (l.note d said e).accepted = l.accepted := by
  show l.accepted ++ e.queue.items.drop d.queue.items.length = l.accepted
  rw [List.drop_eq_nil_of_le short, List.append_nil]

/-! ### What custody says -/

namespace Desk.Custody

variable {d : Desk} {l : Ledger}

/-- Accepted requests are told apart by their numbers. -/
theorem eq_of_id (custody : d.Custody l) {first second : Request} (one : first ∈ l.accepted)
    (other : second ∈ l.accepted) (same : first.id = second.id) : first = second := by
  have apart : l.accepted.Pairwise fun a b => a.id = b.id → a = b :=
    custody.ascending.imp fun less equal => absurd equal (Nat.ne_of_lt less)
  have apart' : l.accepted.Pairwise fun a b => b.id = a.id → b = a :=
    custody.ascending.imp fun less equal => absurd equal (Nat.ne_of_gt less)
  exact List.Pairwise.forall_of_forall_of_flip (fun _ _ _ => rfl) apart apart' one other same

/-- What is in hand or queued has been accepted. -/
theorem accepted_of_unsettled (custody : d.Custody l) {request : Request}
    (member : request ∈ d.unsettled) : request ∈ l.accepted := by
  obtain ⟨settled, order, _⟩ := custody.order
  rw [order]
  exact List.mem_append_right settled member

/-- What is settled was accepted before all that is not. -/
theorem settled_lt (custody : d.Custody l) {id : Nat} {result : Result} {request : Request}
    (done : (id, result) ∈ d.results) (member : request ∈ d.unsettled) : id < request.id := by
  obtain ⟨settled, order, ids⟩ := custody.order
  have listed : id ∈ settled.map Request.id := by
    rw [ids]
    exact List.mem_map_of_mem done
  obtain ⟨earlier, before, rfl⟩ := List.mem_map.mp listed
  have ascending := custody.ascending
  rw [order] at ascending
  exact (List.pairwise_append.mp ascending).2.2 earlier before request member

/-- What is in hand was accepted before all that is queued. -/
theorem inHand_lt (custody : d.Custody l) {request other : Request} (mine : d.inHand = [request])
    (queued : other ∈ d.queue.items) : request.id < other.id := by
  obtain ⟨settled, order, _⟩ := custody.order
  have ascending := custody.ascending
  rw [order, unsettled, mine] at ascending
  have behind := (List.pairwise_append.mp ascending).2.1
  exact (List.pairwise_append.mp behind).2.2 request (List.mem_singleton_self request) other queued

/-- What is settled has been accepted. -/
theorem accepted_of_settled (custody : d.Custody l) {id : Nat} {result : Result}
    (done : (id, result) ∈ d.results) : ∃ request ∈ l.accepted, request.id = id := by
  obtain ⟨settled, order, ids⟩ := custody.order
  have listed : id ∈ settled.map Request.id := by
    rw [ids]
    exact List.mem_map_of_mem done
  obtain ⟨request, member, same⟩ := List.mem_map.mp listed
  refine ⟨request, ?_, same⟩
  rw [order]
  exact List.mem_append_left _ member

/-- The results are in the order of acceptance, and there is one for each request at most. -/
theorem results_ascending (custody : d.Custody l) :
    (d.results.map Prod.fst).Pairwise fun earlier later => earlier < later := by
  obtain ⟨settled, order, ids⟩ := custody.order
  have ascending := custody.ascending
  rw [order] at ascending
  rw [← ids, List.pairwise_map]
  exact (List.pairwise_append.mp ascending).1

end Desk.Custody

/-! ### What a change of the desk preserves -/

namespace Desk

variable {d e : Desk} {l : Ledger} {said : Option Said}

/-- While the thread follows a routine, the driver waits for an attempt at the same request. -/
theorem attempting_of_working {request : Request} {routine : Routine}
    (agree : d.driving.Agrees d.working) (working : d.working = .working request routine) :
    ∃ attempts, d.driving = .attempting request attempts := by
  rw [working] at agree
  cases driving : d.driving <;> rw [driving] at agree <;> cases agree
  exact ⟨_, rfl⟩

/-- While the thread waits for the engine, the driver waits for an attempt at the same request. -/
theorem attempting_of_awaiting {request : Request} {ticket : Nat}
    {next : Except EngineFailure (List Value) → Routine}
    (agree : d.driving.Agrees d.working) (awaiting : d.working = .awaiting request ticket next) :
    ∃ attempts, d.driving = .attempting request attempts := by
  rw [awaiting] at agree
  cases driving : d.driving <;> rw [driving] at agree <;> cases agree
  exact ⟨_, rfl⟩

/-- The driver's hand is empty and the thread at rest, wherever the driver neither holds a request
nor waits for an attempt. -/
theorem resting_of_agree (agree : d.driving.Agrees d.working)
    (free : ∀ request attempts, d.driving ≠ .attempting request attempts) :
    d.working = .resting := by
  cases driving : d.driving with
  | attempting request attempts => exact absurd driving (free request attempts)
  | _ => rw [driving] at agree; exact agree

/-- Between two attempts the driver has its request in hand, and the thread is at rest. -/
theorem held_of_retrying {request : Request} {attempts : Nat} (agree : d.driving.Agrees d.working)
    (retrying : (∃ signals, d.driving = .backing request attempts signals) ∨
      d.driving = .regated request attempts) : d.inHand = [request] ∧ d.working = .resting := by
  rcases retrying with ⟨signals, driving⟩ | driving <;> rw [driving] at agree <;>
    exact ⟨by simp only [inHand, driving], agree⟩

namespace Custody

/-- A change that leaves the queue, the hand and the results as they are. -/
theorem keep (custody : d.Custody l) (items : e.queue.items = d.queue.items)
    (hand : e.inHand = d.inHand) (results : e.results = d.results) (ids : d.lastId ≤ e.lastId)
    (agree : e.driving.Agrees e.working)
    (closing : e.driving = .closing →
      e.shutdown = true ∨ e.queue.closed = true ∧ e.queue.items = [])
    (exited : e.driving = .exited → e.queue.closed = true ∧ e.queue.items = []) :
    e.Custody (l.note d said e) := by
  have same : (l.note d said e).accepted = l.accepted :=
    l.accepted_note (Nat.le_of_eq (by rw [items]))
  obtain ⟨settled, order, settledIds⟩ := custody.order
  refine ⟨⟨settled, ?_, ?_⟩, ?_, ?_, agree, closing, exited⟩
  · rw [same, order, unsettled, unsettled, hand, items]
  · rw [settledIds, results]
  · rw [same]
    exact custody.ascending
  · rw [same]
    exact fun request member => Nat.le_trans (custody.bounded request member) ids

/-- A step of the driver that keeps what it has in hand. -/
theorem stage (custody : d.Custody l)
    (same : e = { d with driving := e.driving, working := e.working })
    (hand : e.inHand = d.inHand) (agree : e.driving.Agrees e.working)
    (closing : e.driving = .closing →
      d.shutdown = true ∨ d.queue.closed = true ∧ d.queue.items = [])
    (exited : e.driving ≠ .exited) : e.Custody (l.note d said e) := by
  have queue : e.queue = d.queue := by rw [same]
  have fired : e.shutdown = d.shutdown := by rw [same]
  have ids : e.lastId = d.lastId := by rw [same]
  rw [← queue, ← fired] at closing
  exact custody.keep (by rw [queue]) hand (by rw [same]) (Nat.le_of_eq ids.symm) agree closing
    fun concluded => absurd concluded exited

/-- A step of the thread in an attempt, with the request still in the driver's hand. -/
theorem work (custody : d.Custody l) {request : Request} {attempts : Nat} {working : Working}
    (attempting : d.driving = .attempting request attempts)
    (hand : Desk.inHand { d with working } = d.inHand)
    (agree : (Driving.attempting request attempts).Agrees working) :
    Desk.Custody { d with working } (l.note d said { d with working }) :=
  custody.keep rfl hand rfl (Nat.le_refl _) (attempting ▸ agree) custody.closing custody.exited

/-- A change by which the request in hand is settled. -/
theorem settle (custody : d.Custody l) {request : Request} {result : Result}
    (mine : d.inHand = [request]) (items : e.queue.items = d.queue.items) (hand : e.inHand = [])
    (results : e.results = d.results ++ [(request.id, result)]) (ids : e.lastId = d.lastId)
    (agree : e.driving.Agrees e.working)
    (closing : e.driving = .closing →
      e.shutdown = true ∨ e.queue.closed = true ∧ e.queue.items = [])
    (exited : e.driving ≠ .exited) : e.Custody (l.note d said e) := by
  have same : (l.note d said e).accepted = l.accepted :=
    l.accepted_note (Nat.le_of_eq (by rw [items]))
  obtain ⟨settled, order, settledIds⟩ := custody.order
  refine ⟨⟨settled ++ [request], ?_, ?_⟩, ?_, ?_, agree, closing,
    fun concluded => absurd concluded exited⟩
  · rw [same, order, unsettled, unsettled, mine, hand, items, List.append_assoc, List.nil_append]
  · rw [List.map_append, results, List.map_append, settledIds]
    rfl
  · rw [same]
    exact custody.ascending
  · rw [same, ids]
    exact custody.bounded

/-- The request of the attempt under way is settled by the thread. -/
theorem answer (custody : d.Custody l) {request : Request} {attempts : Nat} {routine : Routine}
    (attempting : d.driving = .attempting request attempts)
    (working : d.working = .working request routine) (result : Result) :
    Desk.Custody { d with
      results := d.results ++ [(request.id, result)]
      working := .replying false }
      (l.note d said { d with
        results := d.results ++ [(request.id, result)]
        working := .replying false }) := by
  refine custody.settle ?_ rfl ?_ rfl rfl ?_ custody.closing ?_
  · simp only [Desk.inHand, attempting, working]
  · simp only [Desk.inHand, attempting]
  · rw [attempting]
    exact trivial
  · rw [attempting]
    exact nofun

/-- A request accepted goes to the end of the queue. -/
theorem accept (custody : d.Custody l) (payload : Payload) (opened : d.queue.closed = false)
    (same : e = { d with
      lastId := d.lastId + 1
      queue := ⟨d.queue.items ++ [⟨d.lastId + 1, payload⟩], false⟩ }) :
    e.Custody (l.note d said e) := by
  have grown : (l.note d said e).accepted = l.accepted ++ [⟨d.lastId + 1, payload⟩] := by
    show l.accepted ++ e.queue.items.drop d.queue.items.length = _
    rw [same, List.drop_left]
  obtain ⟨settled, order, settledIds⟩ := custody.order
  subst same
  refine ⟨⟨settled, ?_, settledIds⟩, ?_, ?_, custody.agree, ?_, ?_⟩
  · rw [grown, order, unsettled, unsettled, List.append_assoc, List.append_assoc]
    rfl
  · rw [grown]
    refine List.pairwise_append.mpr ⟨custody.ascending, List.pairwise_singleton _ _, ?_⟩
    intro earlier member later new
    rw [List.mem_singleton.mp new]
    exact Nat.lt_succ_of_le (custody.bounded earlier member)
  · rw [grown]
    intro request member
    rcases List.mem_append.mp member with old | new
    · exact Nat.le_trans (custody.bounded request old) (Nat.le_succ _)
    · exact Nat.le_of_eq (congrArg Request.id (List.mem_singleton.mp new))
  · intro closing
    rcases custody.closing closing with fired | ⟨closed, _⟩
    · exact .inl fired
    · rw [opened] at closed
      cases closed
  · intro exited
    have closed := (custody.exited exited).1
    rw [opened] at closed
    cases closed

/-- The first request of the queue goes into the driver's hand. -/
theorem take (custody : d.Custody l) (request : Request) (rest : List Request)
    (looking : d.driving = .looking) (queued : d.queue.items = request :: rest)
    (same : e = { d with queue := ⟨rest, d.queue.closed⟩, driving := .gated request }) :
    e.Custody (l.note d said e) := by
  have kept : (l.note d said e).accepted = l.accepted := by
    refine l.accepted_note ?_
    rw [same, queued]
    exact Nat.le_succ _
  obtain ⟨settled, order, settledIds⟩ := custody.order
  have resting : d.working = .resting :=
    resting_of_agree custody.agree fun _ _ other => by rw [looking] at other; cases other
  subst same
  refine ⟨⟨settled, ?_, settledIds⟩, ?_, ?_, resting, ?_, ?_⟩
  · rw [kept, order, unsettled, unsettled, queued]
    simp only [inHand, looking, resting, List.nil_append, List.singleton_append]
  · rw [kept]
    exact custody.ascending
  · rw [kept]
    exact custody.bounded
  · exact nofun
  · exact nofun

/-- The queue is turned away. -/
theorem turnAway (custody : d.Custody l) (free : d.driving = .unborn ∨ d.driving = .closing)
    (same : e = { d with
      results := d.results ++ rejections d.queue.items
      queue := ⟨[], true⟩
      driving := .exited }) : e.Custody (l.note d said e) := by
  have kept : (l.note d said e).accepted = l.accepted := by
    refine l.accepted_note ?_
    rw [same]
    exact Nat.zero_le _
  obtain ⟨settled, order, settledIds⟩ := custody.order
  have resting : d.working = .resting := by
    refine resting_of_agree custody.agree fun _ _ other => ?_
    rw [other] at free
    rcases free with driving | driving <;> cases driving
  have empty : d.inHand = [] := by
    rcases free with driving | driving <;> simp only [inHand, driving]
  subst same
  refine ⟨⟨settled ++ d.queue.items, ?_, ?_⟩, ?_, ?_, resting, ?_, fun _ => ⟨rfl, rfl⟩⟩
  · rw [kept, order, unsettled, empty]
    simp only [unsettled, inHand, List.nil_append, List.append_nil]
  · rw [List.map_append, List.map_append, settledIds, rejections, List.map_map]
    rfl
  · rw [kept]
    exact custody.ascending
  · rw [kept]
    exact custody.bounded
  · exact nofun

end Custody

end Desk

/-- **Every change of a desk keeps custody.** -/
theorem Handling.custody {d e : Desk} {l : Ledger} {said : Option Said}
    (handling : Handling d said e) (custody : d.Custody l) : e.Custody (l.note d said e) := by
  have agree := custody.agree
  cases handling with
  -- The calls: the queue grows, is closed or turned away, and the hand is left alone.
  | idle => exact custody.keep rfl rfl rfl (Nat.le_refl _) agree custody.closing custody.exited
  | accept payload opened => exact custody.accept payload opened rfl
  | refuse closed =>
    exact custody.keep rfl rfl rfl (Nat.le_succ _) agree custody.closing custody.exited
  | close =>
    refine custody.keep rfl rfl rfl (Nat.le_refl _) agree (fun closing => ?_) (fun exited => ?_)
    · exact (custody.closing closing).imp id fun closed => ⟨rfl, closed.2⟩
    · exact ⟨rfl, (custody.exited exited).2⟩
  | fire => exact custody.keep rfl rfl rfl (Nat.le_refl _) agree (fun _ => .inl rfl) custody.exited
  | turnAway free => exact custody.turnAway free rfl
  -- The driver, while the thread is at rest.
  | take request rest looking queued => exact custody.take request rest looking queued rfl
  | spawn here | turn here _ | wait here _ _ | mark _ here _ | backOff _ _ _ here _
  | retry _ _ _ here _ | unmark here =>
    rw [here] at agree
    exact custody.stage rfl (by simp only [Desk.inHand, here]) agree nofun nofun
  | withdraw waiting fired =>
    rw [waiting] at agree
    exact custody.stage rfl (by simp only [Desk.inHand, waiting]) agree (fun _ => .inl fired) nofun
  | conclude looking empty closed =>
    rw [looking] at agree
    exact custody.stage rfl (by simp only [Desk.inHand, looking]) agree
      (fun _ => .inr ⟨closed, empty⟩) nofun
  | reject request gated fired =>
    rw [gated] at agree
    exact custody.settle (by simp only [Desk.inHand, gated]) rfl (by simp only [Desk.inHand]) rfl
      rfl agree (fun _ => .inl fired) nofun
  | exhaust request attempts judging concluded =>
    rw [judging] at agree
    exact custody.settle (by simp only [Desk.inHand, judging]) rfl (by simp only [Desk.inHand]) rfl
      rfl agree nofun nofun
  | abandon request attempts retrying fired =>
    obtain ⟨mine, resting⟩ := Desk.held_of_retrying agree retrying
    exact custody.settle mine rfl (by simp only [Desk.inHand]) rfl rfl resting nofun nofun
  -- An attempt begins, or the driver hears of its end.
  | launch _ here | relaunch _ _ here _ =>
    exact custody.stage rfl (by simp only [Desk.inHand, here]) rfl nofun nofun
  | hear _ _ attempting replying | leave _ _ attempting replying =>
    exact custody.stage rfl (by simp only [Desk.inHand, attempting, replying]) rfl nofun nofun
  -- The thread, at the request in the driver's hand.
  | holdBack request working =>
    obtain ⟨attempts, attempting⟩ := Desk.attempting_of_working agree working
    exact custody.work attempting (by simp only [Desk.inHand, attempting, working]) trivial
  | proceed _ _ _ _ working _ | ask _ _ _ _ working =>
    obtain ⟨attempts, attempting⟩ := Desk.attempting_of_working agree working
    exact custody.work attempting (by simp only [Desk.inHand, attempting, working]) rfl
  | receive request ticket next outcome awaiting =>
    obtain ⟨attempts, attempting⟩ := Desk.attempting_of_awaiting agree awaiting
    exact custody.work attempting (by simp only [Desk.inHand, attempting, awaiting]) rfl
  | settle request routine result working ended =>
    obtain ⟨attempts, attempting⟩ := Desk.attempting_of_working agree working
    exact custody.answer attempting working result

/-! ### Courses -/

namespace Session

/-- Custody holds before a session is started. -/
theorem custody_fresh (settings : Settings) (fallback : Release) (hosted : HostedEngine) :
    (fresh settings fallback hosted).desk.Custody Journal.empty.ledger :=
  ⟨⟨[], rfl, rfl⟩, .nil, nofun, rfl, nofun, nofun⟩

end Session

/-- **Custody is kept along every course of a session.** -/
theorem Course.custody {env : Environment} {s t : Session} {j k : Journal}
    (course : Course env s j k t) (custody : s.desk.Custody j.ledger) :
    t.desk.Custody k.ledger :=
  course.invariant (fun t k => t.desk.Custody k.ledger)
    (fun _ custody _ moved => (Session.after_handling moved).custody custody) custody

end ShellSession
