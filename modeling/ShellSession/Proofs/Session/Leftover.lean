/-
**What a dispose leaves behind.**

Behind the shutdown signal only the driver turns requests away, and it turns away the queue on its
way out. So a dispose that has waited long enough leaves nothing behind; one that returns while the
driver is held up leaves the queue as it is, but for its first request at most.

* `Desk.Winding`: what has become of the requests that were queued behind the signal;
* `Handling.winding`: **every change of the desk keeps to that**;
* `Course.dispose_settles_iff`: **when a dispose that has returned has settled the queue**.
-/

import ShellSession.Proofs.Session.Disposal

namespace ShellSession

/-! ### Behind the signal -/

/-- What has become of the requests that were queued at some moment behind the shutdown signal: they
are still queued; or the first one is at the gate, or turned away there, and the others are still
queued; or the driver is gone and they are all turned away. -/
inductive Desk.Winding (queued : List Request) (d : Desk) : Prop
  | untouched (items : d.queue.items = queued) : Winding queued d
  | taken (first : Request) (rest : List Request) (split : queued = first :: rest)
      (items : d.queue.items = rest)
      (place : d.driving = .gated first ∨
        d.driving = .closing ∧ (first.id, .error .disposed) ∈ d.results) : Winding queued d
  | turnedAway (gone : d.driving = .exited) (items : d.queue.items = [])
      (settled : ∀ request ∈ queued, (request.id, .error .disposed) ∈ d.results) :
      Winding queued d

section

variable {d e : Desk} {said : Option Said}

/-- What becomes of a closed queue. The driver does not leave without turning it away. -/
theorem Handling.items (handling : Handling d said e) (closed : d.queue.closed = true) :
    (e.queue.items = d.queue.items ∧ (e.driving = .exited → d.driving = .exited)) ∨
    (∃ first rest, d.driving = .looking ∧ d.queue.items = first :: rest ∧ e.queue.items = rest ∧
      e.driving = .gated first) ∨
    ((d.driving = .unborn ∨ d.driving = .closing) ∧ e.driving = .exited ∧ e.queue.items = [] ∧
      e.results = d.results ++ rejections d.queue.items) := by
  cases handling with
  | accept payload opened =>
    rw [closed] at opened
    cases opened
  | turnAway free => exact .inr (.inr ⟨free, rfl, rfl, rfl⟩)
  | take first rest looking items => exact .inr (.inl ⟨first, rest, looking, items, rfl, rfl⟩)
  | _ => first | exact .inl ⟨rfl, id⟩ | exact .inl ⟨rfl, fun other => by cases other⟩

/-- Behind the signal a request at the gate stays there or is turned away. -/
theorem Handling.gated (handling : Handling d said e) (fired : d.shutdown = true) {request : Request}
    (gated : d.driving = .gated request) :
    e.driving = .gated request ∨
      e.driving = .closing ∧ (request.id, .error .disposed) ∈ e.results := by
  cases handling with
  | reject other mine _ =>
    rw [gated] at mine
    cases mine
    exact .inr ⟨rfl, List.mem_append_right _ (List.mem_singleton_self _)⟩
  | mark other mine held => exact absurd (held.symm.trans fired) Bool.false_ne_true
  | _ => first | exact .inl gated | simp_all only [reduceCtorEq, or_self, exists_false]

/-- A driver about to turn away the queue does so next. -/
theorem Handling.closing (handling : Handling d said e) (closing : d.driving = .closing) :
    e.driving = .closing ∨ e.driving = .exited := by
  cases handling <;>
    first
      | exact .inl closing
      | exact .inr rfl
      | exact .inl rfl
      | simp_all only [reduceCtorEq, or_self, exists_false]

/-- **Behind the signal, every change of the desk takes queued requests one step on their way.** -/
theorem Handling.winding (handling : Handling d said e) (fired : d.shutdown = true)
    (closed : d.queue.closed = true) {queued : List Request} (winding : d.Winding queued) :
    e.Winding queued := by
  obtain ⟨more, results⟩ := handling.results
  have lasting : ∀ {entry}, entry ∈ d.results → entry ∈ e.results := fun member => by
    rw [results]
    exact List.mem_append_left more member
  have rejected : ∀ request ∈ d.queue.items, e.results = d.results ++ rejections d.queue.items →
      (request.id, .error .disposed) ∈ e.results := by
    intro request member same
    rw [same]
    exact List.mem_append_right _ (List.mem_map.mpr ⟨request, member, rfl⟩)
  rcases handling.items closed with ⟨same, stays⟩ | ⟨first, rest, looking, split, items, gated⟩ |
    ⟨free, gone, empty, turned⟩
  · cases winding with
    | untouched items => exact .untouched (same.trans items)
    | taken first rest split items place =>
      rcases place with gated | ⟨closing, settled⟩
      · exact .taken first rest split (same.trans items) (handling.gated fired gated)
      · rcases handling.closing closing with still | gone
        · exact .taken first rest split (same.trans items) (.inr ⟨still, lasting settled⟩)
        · rw [closing] at stays
          cases stays gone
    | turnedAway gone items settled =>
      exact .turnedAway (handling.exited gone) (same.trans items) fun request member =>
        lasting (settled request member)
  · cases winding with
    | untouched old => exact .taken first rest (old.symm.trans split) items (.inl gated)
    | taken other behind split items place =>
      rw [looking] at place
      rcases place with place | ⟨place, _⟩ <;> cases place
    | turnedAway gone items settled =>
      rw [looking] at gone
      cases gone
  · refine .turnedAway gone empty fun request member => ?_
    cases winding with
    | untouched old => exact rejected request (old ▸ member) turned
    | taken first rest split items place =>
      rcases place with gated | ⟨_, settled⟩
      · rw [gated] at free
        rcases free with other | other <;> cases other
      · rw [split] at member
        rcases List.mem_cons.mp member with rfl | behind
        · exact lasting settled
        · exact rejected request (items ▸ behind) turned
    | turnedAway gone items settled =>
      rw [gone] at free
      rcases free with other | other <;> cases other

end

/-! ### Sessions -/

namespace Course

variable {env : Environment} {s t : Session} {j k : Journal}

/-- What was queued behind the signal goes on its way, however the session goes on. -/
theorem winding (course : Course env s j k t) (fired : s.shutdown = true)
    (closed : s.queue.closed = true) : t.desk.Winding s.queue.items :=
  (course.invariant
    (fun t _ => t.desk.shutdown = true ∧ t.desk.queue.closed = true ∧
      t.desk.Winding s.queue.items)
    (fun _ ⟨fired, closed, winding⟩ _ moved =>
      have handling := Session.after_handling moved
      ⟨handling.shutdown fired, handling.closed closed, handling.winding fired closed winding⟩)
    ⟨fired, closed, .untouched rfl⟩).2.2

end Course

/-- **Which requests are settled behind the signal.** All those of an earlier queue have been turned
away, and nothing is queued any more, exactly when that is so of those that the driver has taken
before the signal, and either nothing was queued behind the signal, or the driver is gone, or it has
emptied the queue and holds none of them. -/
theorem Desk.Winding.settled_iff {d : Desk} {l : Ledger} {queued : List Request}
    (winding : d.Winding queued) (custody : d.Custody l) (earlier : List Request) :
    ((d.queue.items = [] ∧ ∀ request ∈ earlier, (request.id, .error .disposed) ∈ d.results) ↔
      (∀ request ∈ earlier, request ∉ queued → (request.id, .error .disposed) ∈ d.results) ∧
      (queued = [] ∨ d.driving = .exited ∨ d.queue.items = [] ∧
        (d.driving = .closing ∨ ∃ request, request ∉ earlier ∧ d.driving = .gated request))) := by
  constructor
  · rintro ⟨empty, settled⟩
    refine ⟨fun request member _ => settled request member, ?_⟩
    cases winding with
    | untouched items => exact .inl (items.symm.trans empty)
    | taken first rest split items place =>
      refine .inr (.inr ⟨empty, ?_⟩)
      rcases place with gated | ⟨closing, _⟩
      · refine .inr ⟨first, fun member => ?_, gated⟩
        -- A request at the gate has no result yet.
        have mine : first ∈ d.unsettled := by
          refine List.mem_append_left _ ?_
          rw [show d.inHand = [first] by simp only [Desk.inHand, gated]]
          exact List.mem_singleton_self first
        exact Nat.lt_irrefl _ (custody.settled_lt (settled first member) mine)
      · exact .inl closing
    | turnedAway gone items turned => exact .inr (.inl gone)
  · rintro ⟨taken, place⟩
    have empty : d.queue.items = [] := by
      rcases place with none | gone | ⟨empty, _⟩
      · cases winding with
        | untouched items => exact items.trans none
        | taken first rest split items place =>
          rw [none] at split
          cases split
        | turnedAway gone items turned => exact items
      · exact (custody.exited gone).2
      · exact empty
    refine ⟨empty, fun request member => ?_⟩
    by_cases behind : request ∈ queued
    · cases winding with
      | untouched items =>
        rw [← items, empty] at behind
        cases behind
      | taken first rest split items held =>
        rw [split, ← items, empty] at behind
        have same : request = first := List.mem_singleton.mp behind
        rcases held with gated | ⟨_, turned⟩
        · rcases place with none | gone | ⟨_, closing | ⟨other, apart, still⟩⟩
          · rw [none] at split
            cases split
          · rw [gated] at gone
            cases gone
          · rw [gated] at closing
            cases closing
          · rw [gated] at still
            cases still
            exact absurd (same ▸ member) apart
        · rw [same]
          exact turned
      | turnedAway gone items turned => exact turned request behind
    · exact taken request member behind

namespace Course

variable {env : Environment} {s t u : Session} {i k : Journal}

/-- **What a dispose has settled when it returns.** The queue is closed then and the shutdown signal
has fired, but the driver need not be gone, unless the dispose has waited as long as it takes. What
was queued when the dispose was called has been turned away, and nothing is queued any more, exactly
when this holds of the requests that the driver has taken before the signal, and besides nothing was
queued behind the signal, or the driver is gone, or it has emptied the queue and holds none of those
requests. -/
theorem dispose_settles_iff {settings : Settings} {hosted : HostedEngine}
    (created : Session.create settings hosted = .ok s) (before : Course env s .empty i t)
    (after : Course env (t.begin Session.dispose).2
      (i.note t (.order .dispose) (t.begin Session.dispose).2) k u)
    (returned : (u.reply? (t.begin Session.dispose).1).isSome = true) :
    u.shutdown = true ∧ u.queue.closed = true ∧ (env.Patient → u.driving = .exited) ∧
    ∀ j v, Course env (t.begin Session.dispose).2
        (i.note t (.order .dispose) (t.begin Session.dispose).2) j v → Course env v j k u →
      v.shutdown = true → v.queue.closed = true →
      ((u.pending = 0 ∧
          ∀ request ∈ t.queue.items, (request.id, .error .disposed) ∈ u.results) ↔
        (∀ request ∈ t.queue.items, request ∉ v.queue.items →
          (request.id, .error .disposed) ∈ u.results) ∧
        (v.queue.items = [] ∨ u.driving = .exited ∨ u.queue.items = [] ∧
          (u.driving = .closing ∨
            ∃ request, request ∉ t.queue.items ∧ u.driving = .gated request))) := by
  have sound : u.Sound k :=
    after.sound ((before.sound (Session.sound_of_create created)).after
      (show t.after (.order .dispose) = some (t.begin Session.dispose).2 from rfl))
  refine ⟨Course.returned .fired (.inl (by decide)) created before after returned,
    Course.returned .closed (.inl (by decide)) created before after returned,
    fun patient => Course.returned .exited (.inr patient) created before after returned, ?_⟩
  intro j v _ later fired closed
  have settled := (later.winding fired closed).settled_iff sound.custody t.queue.items
  have none : u.pending = 0 ↔ u.desk.queue.items = [] := List.length_eq_zero_iff
  rw [none]
  exact settled

end Course

namespace Session

/-- A session whose debugger has begun to refuse every verb. -/
def refusing (s : Session) : Session :=
  { s with hosted := ⟨s.hosted.engine, false, 0, true, some (.unsupported "no")⟩ }

theorem exists_course_refusing (s : Session) (j : Journal) :
    ∃ k, Course (fun _ _ => True) s j k s.refusing :=
  ⟨_, Course.rest.move (.host false 0 true (some (.unsupported "no"))) trivial rfl⟩

/-- A session in a stop that its debugger refuses to leave, with a request in the queue. -/
def stuck : Session :=
  (plain.carryOut [.start]).refusing.carryOut
    [.submit (.script "Wait-Debugger"), .submit (.script "1")]

theorem exists_course_stuck : ∃ i, Course (fun _ _ => True) plain .empty i stuck := by
  obtain ⟨_, started⟩ := plain.exists_course_carryOut .empty [.start]
  obtain ⟨_, refused⟩ := (plain.carryOut [.start]).exists_course_refusing _
  obtain ⟨i, submitted⟩ := (plain.carryOut [.start]).refusing.exists_course_carryOut _
    [.submit (.script "Wait-Debugger"), .submit (.script "1")]
  exact ⟨i, ((started.weaken fun _ _ _ => trivial).trans refused).trans
    (submitted.weaken fun _ _ _ => trivial)⟩

end Session

namespace Course

/-- A session in a stop that its debugger refuses to leave is disposed: the dispose returns, and the
queued request is still queued. -/
theorem dispose_leaves_stuck : ∃ i k,
    Course (fun _ _ => True) Session.plain .empty i Session.stuck ∧
    Course (fun _ _ => True) (Session.stuck.begin Session.dispose).2
      (i.note Session.stuck (.order .dispose) (Session.stuck.begin Session.dispose).2) k
      (Session.stuck.run Session.dispose).2 ∧
    ((Session.stuck.run Session.dispose).2.reply?
      (Session.stuck.begin Session.dispose).1).isSome = true ∧
    (Session.stuck.run Session.dispose).2.shutdown = true ∧ Session.stuck.pending = 1 ∧
    ¬((Session.stuck.run Session.dispose).2.pending = 0 ∧
      ∀ request ∈ Session.stuck.queue.items,
        (request.id, .error .disposed) ∈ (Session.stuck.run Session.dispose).2.results) := by
  obtain ⟨i, before⟩ := Session.exists_course_stuck
  obtain ⟨k, settled⟩ := Session.stuck.exists_course_run
    (i.note Session.stuck (.order .dispose) (Session.stuck.begin Session.dispose).2)
    Session.dispose []
  have after : Course (fun _ _ => True) (Session.stuck.begin Session.dispose).2
      (i.note Session.stuck (.order .dispose) (Session.stuck.begin Session.dispose).2) k
      (Session.stuck.run Session.dispose).2 := settled.weaken fun _ _ _ => trivial
  have returned : ((Session.stuck.run Session.dispose).2.reply?
      (Session.stuck.begin Session.dispose).1).isSome = true := by
    decide +kernel
  have pending : (Session.stuck.run Session.dispose).2.pending = 1 := by decide +kernel
  have driving : (Session.stuck.run Session.dispose).2.driving.isOver = false := by
    decide +kernel
  obtain ⟨fired, closed, _, exactly⟩ :=
    dispose_settles_iff Session.create_plain before after returned
  refine ⟨i, k, before, after, returned, fired, by decide +kernel, fun settled => ?_⟩
  obtain ⟨_, empty | gone | ⟨empty, _⟩⟩ := (exactly k _ after .rest fired closed).mp settled
  · exact absurd settled.1 (by rw [pending]; decide)
  · rw [gone] at driving
    cases driving
  · exact absurd settled.1 (by rw [pending]; decide)

end Course

end ShellSession
