/-
**What a start goes by.**

The first request of a session is the question of its start, and the start goes by the result of this
question and by nothing else: it records the release that came out of it and makes the session ready,
or it disposes of the session. So whatever a start has come to can be read off the results, and
nobody is let in before a start has recorded a release.

* `Starting.verdict`, `Session.Decides`: what a start makes of the result of its question;
* `Starting.Knows`: what a start has seen of it;
* `Session.Kept`: a session along a course on which somebody holds on to it;
* `Session.Founded`, `Session.founded_after`: **every start goes by the result of its question**.
-/

import ShellSession.Proofs.Session.Startup

namespace ShellSession

/-! ### The result of the question -/

/-- What a start makes of the result of its question. -/
def Starting.verdict : Result → Except SessionFailure Release
  | .ok (.release release) => (Dialect.ofVersion release.version).map fun _ => release
  | .ok _ => .error .abandoned
  | .error error => .error error

namespace Session

/-- A release has come out of the question of the start. -/
def Learned (s : Session) (release : Release) : Prop :=
  (1, .ok (.release release)) ∈ s.results

/-- The question of the start has a result of which the start makes an outcome. -/
def Decides (s : Session) (outcome : Except SessionFailure Release) : Prop :=
  ∃ result, (1, result) ∈ s.results ∧ Starting.verdict result = outcome

/-- The debugger operations of the session are those of a release. -/
def Speaks (s : Session) (release : Release) : Prop :=
  ∃ dialect, s.dialect = some dialect ∧ Dialect.ofVersion release.version = .ok dialect

/-- A session of which a release has been recorded, and which has left its first phase behind. -/
def HasOpened (s : Session) : Prop :=
  s.phase ≠ .notStarted ∧ s.details ≠ none

end Session

/-- What a start has seen of the result of its question at a stage. A start that has come to an error
was refused, or has disposed of the session for that error. -/
def Starting.Knows (s : Session) : Starting → Prop
  | awaiting id => id = 1
  | choosing release => s.Learned release
  | recording dialect release => s.Learned release ∧ Dialect.ofVersion release.version = .ok dialect
  | moving release => s.Decides (.ok release) ∧ s.details ≠ none
  | failing error _ => s.Decides (.error error)
  | finished (.ok release) => s.Decides (.ok release) ∧ s.details ≠ none
  | finished (.error error) => error.isUsage = true ∨
      s.Decides (.error error) ∧ s.phase = .disposed ∧ s.bound = false
  | _ => True

/-- Whether a request has been let in at a station, or is about to be. -/
def Station.letsIn : Station → Bool
  | pushing => true
  | pushed (.ok _) => true
  | _ => false

/-! ### What is known of a session that is kept -/

/-- What is known of a session along a course on which somebody holds on to it. -/
structure Session.Kept (s : Session) (j : Journal) : Prop where
  tidy : s.Tidy
  alive : s.Alive
  sound : s.Sound j
  passed : s.Passed 6 fun s => s.bound = false

namespace Session

variable {s t : Session} {j : Journal} {move : Move} {caller : Nat}

theorem Kept.after (kept : s.Kept j) (owned : move ≠ .drop) (moved : s.after move = some t) :
    t.Kept (j.note s move t) where
  tidy := kept.tidy.after moved
  alive := alive_after kept.alive kept.tidy.orderly owned moved
  sound := kept.sound.after moved
  passed := passed_after Milestone.unbound kept.tidy.orderly (.inl (by decide)) kept.passed moved

theorem kept_of_create {settings : Settings} {hosted : HostedEngine}
    (created : create settings hosted = .ok s) : s.Kept .empty := by
  have sound := sound_of_create created
  obtain ⟨fallback, _, rfl⟩ := fresh_of_create created
  exact ⟨tidy_fresh settings fallback hosted, alive_fresh settings fallback hosted, sound,
    passed_fresh settings fallback hosted 6 _⟩

/-- The question of a start has one result. -/
theorem Kept.result_unique (kept : s.Kept j) {id : Nat} {one other : Result}
    (first : (id, one) ∈ s.results) (second : (id, other) ∈ s.results) : one = other := by
  have apart : (s.results.map Prod.fst).Pairwise fun earlier later => earlier < later :=
    kept.sound.custody.results_ascending
  have same : ∀ entry ∈ s.results, ∀ later ∈ s.results, entry.1 = later.1 → entry = later := by
    have one : s.results.Pairwise fun a b => a.1 = b.1 → a = b :=
      (List.pairwise_map.mp apart).imp fun less equal => absurd equal (Nat.ne_of_lt less)
    have back : s.results.Pairwise fun a b => b.1 = a.1 → b = a :=
      (List.pairwise_map.mp apart).imp fun less equal => absurd equal (Nat.ne_of_gt less)
    exact fun entry member later behind =>
      List.Pairwise.forall_of_forall_of_flip (fun _ _ _ => rfl) one back member behind
  exact (Prod.mk.inj (same _ first _ second rfl)).2

theorem Kept.decides_unique (kept : s.Kept j) {one other : Except SessionFailure Release}
    (first : s.Decides one) (second : s.Decides other) : one = other := by
  obtain ⟨result, found, rfl⟩ := first
  obtain ⟨later, again, rfl⟩ := second
  rw [kept.result_unique found again]

/-- Results are never taken back. -/
theorem results_after (moved : s.after move = some t) : ∃ more, t.results = s.results ++ more :=
  (after_handling moved).results

/-- What has come out of the question stays so as results are added. -/
theorem Decides.grow {outcome : Except SessionFailure Release} (decides : s.Decides outcome)
    (results : ∃ more, t.results = s.results ++ more) : t.Decides outcome := by
  obtain ⟨result, found, comes⟩ := decides
  obtain ⟨more, same⟩ := results
  refine ⟨result, ?_, comes⟩
  rw [same]
  exact List.mem_append_left more found

end Session

/-! ### What is recorded -/

/-- Only a start records a release. -/
theorem Effect.same_record {s t : Session} {order : Order} {before after : Bool}
    (effect : Effect s order before t after) (other : order ≠ .start) :
    t.details = s.details ∧ t.dialect = s.dialect := by
  cases effect with
  | record dialect release asked => exact absurd asked other
  | _ => exact ⟨rfl, rfl⟩

/-- An order that does not start the session changes its phase to a late one at most. -/
theorem Effect.late_or_same {s t : Session} {order : Order} {before after : Bool}
    (effect : Effect s order before t after) (other : order.starts = false) :
    t.phase = s.phase ∨ t.phase.isLate = true := by
  cases effect with
  | moveTo target asked leads =>
    refine .inr ?_
    cases target with
    | ready => exact absurd (asked.symm.trans other) Bool.noConfusion
    | aborting => rfl
    | disposed => rfl
    | _ => cases asked
  | _ => exact .inl rfl

section Stages

variable {s t : Session} {caller : Nat}

/-- A start records a release at one of its stages. -/
theorem Starting.step_record {stage next : Starting}
    (stepped : stage.step caller s = some (t, next)) :
    t.details = s.details ∧ t.dialect = s.dialect ∨
      ∃ dialect release, stage = .recording dialect release ∧ t.details = some release ∧
        t.dialect = some dialect := by
  cases goes_of_step stepped with
  | record dialect release => exact .inr ⟨dialect, release, rfl, rfl, rfl⟩
  | dispose error inner later t same =>
    have affects : s.Affects .dispose inner.grips t later.grips := Disposing.step_effect rfl same
    obtain ⟨u, effect, books⟩ := affects
    rw [books]
    exact .inl (effect.same_record fun asked => by cases asked)
  | _ => exact .inl ⟨rfl, rfl⟩

end Stages

namespace Session

variable {s t : Session} {j : Journal} {move : Move} {caller : Nat}

/-- **A release is recorded by a start at one of its stages, and by nobody else.** -/
theorem record_after (moved : s.after move = some t) :
    t.details = s.details ∧ t.dialect = s.dialect ∨
      ∃ caller dialect release, (caller, Call.start (.inside (.recording dialect release))) ∈ s.calls ∧
        t.details = some release ∧ t.dialect = some dialect := by
  cases moves_of_after moved with
  | call caller moved =>
    obtain ⟨call, found, taken⟩ := Option.bind_eq_some_iff.mp moved
    have mine := mem_of_lookup found
    cases call with
    | start stage =>
      rcases advanceStart_cases taken with ⟨rfl, rfl⟩ | ⟨result, rfl, rfl⟩ |
        ⟨inner, u, later, rfl, held, stepped, rfl⟩
      · exact .inl ⟨rfl, rfl⟩
      · exact .inl ⟨rfl, rfl⟩
      · rcases Starting.step_record stepped with same | ⟨dialect, release, rfl, recorded⟩
        · exact .inl same
        · exact .inr ⟨caller, dialect, release, mine, recorded⟩
    | _ =>
      obtain ⟨next, advances⟩ := advanceCall_advances taken
      obtain ⟨u, effect, books⟩ := advances.effect
      rw [books]
      exact .inl (effect.same_record fun asked => by cases asked)
  | order _ | timeout _ _ _ => exact .inl ⟨rfl, rfl⟩
  | driver _ same | listener _ same | aside _ same =>
    rw [same]
    exact .inl ⟨rfl, rfl⟩

/-- What holds of a session and its starts. A start knows what it goes by; as long as the session is not
started, a driver is there only for a start that is underway; once a question was asked, the session is
not started or the question is answered; what is recorded came out of the question; and nobody is let
in before a release is recorded and the session started. -/
structure Founded (s : Session) : Prop where
  knows : ∀ caller stage, (caller, Call.start (.inside stage)) ∈ s.calls → stage.Knows s
  underway : s.phase = .notStarted → s.driving ≠ .unborn →
    ∃ entry ∈ s.calls, entry.2.isUnderway = true
  answered : 1 ≤ s.lastId → s.phase = .notStarted ∨ ∃ result, (1, result) ∈ s.results
  recorded : ∀ release, s.details = some release → s.Decides (.ok release) ∧ s.Speaks release
  blank : s.details = none → s.dialect = none
  opened : s.phase.accepts = true ∨ s.phase = .aborting → s.details ≠ none
  letIn : ∀ entry ∈ s.calls, entry.2.station.letsIn = true → s.HasOpened
  accepted : ∀ caller id, (caller, .ok (.accepted id)) ∈ s.replies → s.HasOpened
  running : s.phase = .running → 1 < s.lastId

/-- A release that comes out of the question has debugger operations. -/
theorem Learned.decides {release : Release} {dialect : Dialect} (learned : s.Learned release)
    (version : Dialect.ofVersion release.version = .ok dialect) : s.Decides (.ok release) := by
  refine ⟨_, learned, ?_⟩
  rw [Starting.verdict, version]
  rfl

/-- What is recorded came out of the question, behind every move. -/
theorem Founded.recorded_after (founded : s.Founded) (moved : s.after move = some t) :
    ∀ release, t.details = some release → t.Decides (.ok release) ∧ t.Speaks release := by
  intro release recorded
  rcases record_after moved with ⟨details, dialect⟩ | ⟨caller, dialect, other, mine, details, speaks⟩
  · obtain ⟨decides, operations, same, version⟩ := founded.recorded release (details.symm.trans recorded)
    exact ⟨decides.grow (results_after moved), operations, dialect.trans same, version⟩
  · obtain rfl := Option.some.inj (details.symm.trans recorded)
    obtain ⟨learned, version⟩ : s.Learned other ∧ Dialect.ofVersion other.version = .ok dialect :=
      founded.knows caller _ mine
    exact ⟨(learned.decides version).grow (results_after moved), dialect, speaks, version⟩

/-- **What is recorded is never changed.** -/
theorem Founded.details_after (founded : s.Founded) (kept : s.Kept j) {release : Release}
    (recorded : s.details = some release) (moved : s.after move = some t) :
    t.details = some release := by
  rcases record_after moved with ⟨details, _⟩ | ⟨caller, dialect, other, mine, details, _⟩
  · exact details.trans recorded
  · -- Both releases came out of the same question.
    obtain ⟨learned, version⟩ : s.Learned other ∧ Dialect.ofVersion other.version = .ok dialect :=
      founded.knows caller _ mine
    have same := kept.decides_unique (founded.recorded release recorded).1
      (learned.decides version)
    cases same
    exact details

theorem Founded.details_ne_none (founded : s.Founded) (kept : s.Kept j)
    (there : s.details ≠ none) (moved : s.after move = some t) : t.details ≠ none := by
  obtain ⟨release, recorded⟩ := Option.ne_none_iff_exists'.mp there
  rw [founded.details_after kept recorded moved]
  exact Option.some_ne_none release

/-- A session that has been opened stays so. -/
theorem Founded.hasOpened_after (founded : s.Founded) (kept : s.Kept j) (opened : s.HasOpened)
    (moved : s.after move = some t) : t.HasOpened := by
  refine ⟨fun fresh => ?_, founded.details_ne_none kept opened.2 moved⟩
  rcases leadsTo_after moved with same | leads
  · exact opened.1 (same.symm.trans fresh)
  · exact Phase.started_of_leadsTo leads fresh

end Session

/-! ### What a start knows behind a step -/

section Stages

variable {s t : Session} {j : Journal} {caller : Nat}

/-- What a start knows does not get less. -/
theorem Starting.Knows.mono {stage : Starting} (knows : stage.Knows s)
    (results : ∃ more, t.results = s.results ++ more) (details : s.details ≠ none → t.details ≠ none)
    (disposed : s.phase = .disposed → t.phase = .disposed)
    (unbound : s.bound = false → t.bound = false) : stage.Knows t := by
  have learned : ∀ {release}, s.Learned release → t.Learned release := fun learned => by
    obtain ⟨more, same⟩ := results
    unfold Session.Learned
    rw [same]
    exact List.mem_append_left more learned
  have decides : ∀ {outcome}, s.Decides outcome → t.Decides outcome := fun came => came.grow results
  cases stage with
  | choosing release => exact learned knows
  | recording dialect release => exact ⟨learned knows.1, knows.2⟩
  | moving release => exact ⟨decides knows.1, details knows.2⟩
  | failing error inner => exact decides knows
  | finished result =>
    cases result with
    | ok release => exact ⟨decides knows.1, details knows.2⟩
    | error error =>
      exact knows.imp_right fun ⟨came, last, loose⟩ => ⟨decides came, disposed last, unbound loose⟩
  | _ => exact knows

/-- A step of a start, as far as its question is concerned. -/
theorem Starting.step_knows {stage next : Starting} (knows : stage.Knows s)
    (stands : stage.station.Stands s.life)
    (unbound : ∀ error, stage = .failing error .finished → s.bound = false)
    (stepped : stage.step caller s = some (t, next)) : next.Knows t := by
  cases goes_of_step stepped with
  | first | spawn => trivial
  | late | again | bar | stay => exact .inl rfl
  | ask opened =>
    obtain ⟨_, none, _⟩ : s.phase = .notStarted ∧ s.lastId = 0 ∧ s.driving ≠ .unborn := stands
    show s.lastId + 1 = 1
    rw [none]
  | refuse closed =>
    refine .inl ?_
    unfold Session.lateRefusal
    cases s.phase <;> rfl
  | hear id release found =>
    obtain rfl : id = 1 := knows
    exact Session.mem_of_lookup found
  | miss id answer found other =>
    obtain rfl : id = 1 := knows
    refine ⟨.ok answer, Session.mem_of_lookup found, ?_⟩
    cases answer with
    | release release => exact absurd rfl (other release)
    | _ => rfl
  | lose id error found =>
    obtain rfl : id = 1 := knows
    exact ⟨_, Session.mem_of_lookup found, rfl⟩
  | choose release dialect known => exact ⟨knows, known⟩
  | reject release error unknown =>
    refine ⟨_, knows, ?_⟩
    rw [verdict, unknown]
    rfl
  | record dialect release => exact ⟨knows.1.decides knows.2, Option.some_ne_none release⟩
  | move release leads => exact knows
  | dispose error inner later t same =>
    have affects : s.Affects .dispose inner.grips t later.grips := Disposing.step_effect rfl same
    obtain ⟨u, effect, books⟩ := affects
    have more : ∃ more, t.results = s.results ++ more := by
      rw [books]
      exact effect.handling.results
    exact Session.Decides.grow knows more
  | disposed error => exact .inr ⟨knows, stands, unbound error rfl⟩

/-- A start changes the phase when it makes the session ready, and when it disposes of it. -/
theorem Starting.step_phase {stage next : Starting}
    (stepped : stage.step caller s = some (t, next)) :
    t.phase = s.phase ∨ (∃ release, stage = .moving release) ∨
      ∃ error inner, stage = .failing error inner ∧ t.phase.isLate = true := by
  cases goes_of_step stepped with
  | move release leads => exact .inr (.inl ⟨release, rfl⟩)
  | dispose error inner later t same =>
    have affects : s.Affects .dispose inner.grips t later.grips := Disposing.step_effect rfl same
    obtain ⟨u, effect, books⟩ := affects
    rw [books]
    exact (effect.late_or_same rfl).imp_right fun late => .inr ⟨error, inner, rfl, late⟩
  | _ => exact .inl rfl

/-- A start that is underway stays so until the session has left its first phase. -/
theorem Starting.step_underway {stage next : Starting} (underway : stage.isUnderway = true)
    (sane : s.life.Sane) (stands : stage.station.Stands s.life)
    (stepped : stage.step caller s = some (t, next)) (fresh : t.phase = .notStarted) :
    next.isUnderway = true := by
  cases goes_of_step stepped with
  | first | late | again | spawn | bar => cases underway
  | refuse closed =>
    obtain ⟨early, _, _⟩ : s.phase = .notStarted ∧ s.lastId = 0 ∧ s.driving ≠ .unborn := stands
    have late : s.phase.isLate = true := sane.closed closed
    rw [early] at late
    cases late
  | move release leads => cases fresh
  | stay release leads =>
    obtain ⟨early, _⟩ : s.phase = .notStarted ∧ 1 ≤ s.lastId := stands
    rw [early] at leads
    cases leads
  | disposed error =>
    have disposed : s.phase = .disposed := stands
    cases fresh.symm.trans disposed
  | _ => rfl

end Stages

/-! ### How a session leaves its first phase -/

namespace Life.Step

variable {l m : Life} {held : Bool} {source target : Station}

/-- Only the holder of the lifecycle lock leads a session out of its first phase. -/
theorem leaves (step : l.Step held source m target) (fresh : l.phase = .notStarted)
    (left : m.phase ≠ .notStarted) : held = true ∧ m.lastId = l.lastId := by
  cases step with
  | ready first leads => exact ⟨first, rfl⟩
  | turn aim first leads last => exact ⟨first, rfl⟩
  | _ => exact absurd fresh left

/-- Once a session has left its first phase without a question, none is asked. -/
theorem unasked_still (step : l.Step held source m target) (stands : source.Stands l)
    (started : l.phase ≠ .notStarted) (none : l.lastId = 0) : m.lastId = 0 := by
  have never : 1 ≤ l.lastId → False := fun some => by omega
  cases step with
  | ask first opened => exact absurd stands.1 started
  | unasked first closed => exact absurd stands.1 started
  | accept payload opened => exact (never stands.2).elim
  | refuse error closed => exact (never stands.2).elim
  | _ => exact none

/-- In its first phase a session gets its driver from a start that is about to ask. -/
theorem bears (step : l.Step held source m target) (stands : source.Stands l)
    (unborn : l.driving = .unborn) (born : m.driving ≠ .unborn) (fresh : m.phase = .notStarted) :
    target = .asking := by
  cases step with
  | spawn first free => rfl
  | drain first free => cases fresh.symm.trans stands.1
  | _ => exact absurd unborn born

/-- No call marks a session as running. -/
theorem running (step : l.Step held source m target) (runs : m.phase = .running) :
    l.phase = .running := by
  cases step with
  | ready first leads => cases runs
  | turn aim first leads last =>
    have same : aim = .running := runs
    rcases last with rfl | rfl <;> cases same
  | _ => exact runs

/-- A request is let in only in a session that accepts requests. -/
theorem lets_in (step : l.Step held source m target) (lets : target.letsIn = true) :
    source.letsIn = true ∨ l.phase.accepts = true := by
  cases step with
  | stay => exact .inl lets
  | letIn accepts => exact .inr accepts
  | accept payload opened => exact .inl rfl
  | close aim first => cases lets
  | _ => cases lets

end Life.Step

/-- The driver marks a session as running with a request in hand. -/
theorem Life.Serves.marking {l m : Life} (serves : l.Serves m) (running : m.phase = .running)
    (before : l.phase ≠ .running) : ∃ request, l.driving = .marking request := by
  cases serves with
  | mark request marking => exact ⟨request, marking⟩
  | unmark unmarking =>
    have same : (if l.phase = .running then Phase.ready else l.phase) = .running := running
    rw [if_neg before] at same
    exact absurd same before
  | _ => exact absurd running before

/-- Requests are numbered upwards. -/
theorem Handling.lastId_le {d e : Desk} {said : Option Said} (handling : Handling d said e) :
    d.lastId ≤ e.lastId := by
  cases handling <;> first | exact Nat.le_refl _ | exact Nat.le_succ _

/-- A start that is underway holds the lifecycle lock. -/
theorem Call.locked_of_underway {call : Call} (underway : call.isUnderway = true) :
    call.isLocked = true := by
  cases call with
  | start guarded =>
    cases guarded with
    | entering => cases underway
    | inside stage => cases stage <;> first | rfl | cases underway
  | _ => cases underway

/-- A start that is underway, and does not wait any longer, still is. -/
theorem Call.underway_of_expires {call following : Call} (underway : call.isUnderway = true)
    (expires : call.Expires following) : following.isUnderway = true := by
  cases expires with
  | dispose expires => cases underway
  | start error expires => rfl

/-- A start that is about to ask is underway. -/
theorem Call.underway_of_asking {call : Call} (asks : call.station = .asking) :
    call.isUnderway = true := by
  cases call with
  | start guarded =>
    cases guarded with
    | entering => cases asks
    | inside stage => cases stage <;> first | rfl | cases asks
  | submit payload stage => cases stage <;> cases asks
  | abort guarded =>
    cases guarded with
    | entering => cases asks
    | inside stage => cases stage <;> cases asks
  | dispose guarded =>
    cases guarded with
    | entering => cases asks
    | inside stage =>
      cases stage with
      | aborting inner => cases inner <;> cases asks
      | _ => cases asks
  | _ => cases asks

namespace Session

variable {s t : Session} {j : Journal} {move : Move} {caller : Nat}

/-- A session leaves its first phase by a step of the holder of the lifecycle lock. -/
theorem exists_leaver (moved : s.after move = some t) (fresh : s.phase = .notStarted)
    (left : t.phase ≠ .notStarted) :
    ∃ caller call, (caller, call) ∈ s.calls ∧ holds s.lifecycle caller = true ∧
      s.advanceCall caller call = some t ∧ t.lastId = s.lastId := by
  have changed : t.phase ≠ s.phase := fun same => left (same.trans fresh)
  cases moves_of_after moved with
  | call caller moved =>
    obtain ⟨call, next, mine, taken, ages⟩ := advance_life moved
    obtain ⟨held, ids⟩ := ages.step.leaves fresh left
    exact ⟨caller, call, mine, held, taken, ids⟩
  | driver moved _ =>
    rcases drive_phase moved with same | ⟨ready, _⟩ | ⟨running, _⟩
    · exact absurd same changed
    · cases fresh.symm.trans ready
    · cases fresh.symm.trans running
  | order _ | timeout _ _ _ => exact absurd rfl changed
  | listener _ same | aside _ same => exact absurd (by rw [same]) changed

/-- A start whose step leads out of the first phase knows the result of its question. -/
theorem exists_result_of_start {guarded : Guarded Starting} (founded : s.Founded)
    (mine : (caller, Call.start guarded) ∈ s.calls) (taken : s.advanceStart caller guarded = some t)
    (left : t.phase ≠ s.phase) : ∃ result, (1, result) ∈ s.results := by
  rcases advanceStart_cases taken with ⟨rfl, rfl⟩ | ⟨result, rfl, rfl⟩ |
    ⟨inner, u, following, rfl, held, stepped, rfl⟩
  · exact absurd rfl left
  · exact absurd rfl left
  · have knows := founded.knows caller inner mine
    rcases Starting.step_phase stepped with same | ⟨release, rfl⟩ | ⟨error, stage, rfl, _⟩
    · exact absurd same left
    · obtain ⟨⟨result, found, _⟩, _⟩ : s.Decides (.ok release) ∧ s.details ≠ none := knows
      exact ⟨result, found⟩
    · obtain ⟨result, found, _⟩ : s.Decides (.error error) := knows
      exact ⟨result, found⟩

/-- **A session leaves its first phase only with the question of its start answered**, if it was
asked. -/
theorem Founded.answered_after (founded : s.Founded) (kept : s.Kept j)
    (moved : s.after move = some t) (asked : 1 ≤ t.lastId) :
    t.phase = .notStarted ∨ ∃ result, (1, result) ∈ t.results := by
  have later : (∃ result, (1, result) ∈ s.results) → ∃ result, (1, result) ∈ t.results := by
    rintro ⟨result, found⟩
    obtain ⟨more, same⟩ := results_after moved
    exact ⟨result, same ▸ List.mem_append_left more found⟩
  by_cases still : t.phase = .notStarted
  · exact .inl still
  refine .inr (later ?_)
  by_cases fresh : s.phase = .notStarted
  · obtain ⟨caller, call, mine, held, taken, ids⟩ := exists_leaver moved fresh still
    have born : s.driving ≠ .unborn := fun unborn => by
      have none : s.lastId = 0 := kept.alive.sane.unasked fresh unborn
      omega
    -- The start that is underway holds the lock, so it is the one that has taken the step.
    obtain ⟨entry, member, underway⟩ := founded.underway fresh born
    have number := kept.tidy.orderly.eq_of_locked member (Call.locked_of_underway underway) held
    have same : entry = (caller, call) := kept.tidy.orderly.eq_of_number member mine number
    subst same
    cases call with
    | start guarded =>
      exact exists_result_of_start founded mine taken fun other => still (other.trans fresh)
    | _ => cases underway
  · refine (founded.answered (Nat.pos_of_ne_zero fun none => ?_)).resolve_left fresh
    have unasked : t.lastId = 0 := by
      cases moves_of_after moved with
      | call caller moved =>
        obtain ⟨call, next, mine, taken, ages⟩ := advance_life moved
        exact ages.step.unasked_still (kept.alive.stands _ mine) fresh none
      | order _ | timeout _ _ _ => exact none
      | driver _ same | listener _ same | aside _ same => rw [same]; exact none
    omega

/-- **Every start knows what it goes by**, behind every move. -/
theorem Founded.knows_after (founded : s.Founded) (kept : s.Kept j) (moved : s.after move = some t) :
    ∀ caller stage, (caller, Call.start (.inside stage)) ∈ t.calls → stage.Knows t := by
  have still : ∀ {stage : Starting}, stage.Knows s → stage.Knows t := fun knows =>
    knows.mono (results_after moved) (fun there => founded.details_ne_none kept there moved)
      (disposed_after moved) (unbound_after moved)
  intro caller stage member
  rcases mem_after moved member with old | ⟨call, rfl, mine, taken⟩ | ⟨_, rfl, _, _⟩ |
    ⟨order, _, fresh⟩
  · exact still (founded.knows caller stage old)
  · obtain ⟨next, advances⟩ := advanceCall_advances taken
    have order := advances.order _ (advances.next_of_mem member)
    cases call with
    | start guarded =>
      rcases advanceStart_cases taken with ⟨rfl, rfl⟩ | ⟨result, rfl, rfl⟩ |
        ⟨inner, u, following, rfl, held, stepped, rfl⟩
      · cases eq_of_mem_proceed member
        trivial
      · exact absurd member (not_mem_giveBack _)
      · cases eq_of_mem_proceed member
        have unbound : ∀ error, inner = .failing error .finished → s.bound = false := by
          rintro error rfl
          exact kept.passed.beyond _ mine .finished rfl (by decide)
        have behind : stage.Knows u := Starting.step_knows (founded.knows caller inner mine)
          (kept.alive.stands _ mine) unbound stepped
        exact behind.mono ⟨[], (List.append_nil _).symm⟩ id id id
    | _ => cases order
  · have expired : s.expire caller = some t := moved
    obtain ⟨call, later, mine, expires, rfl⟩ := expires_of_expire expired
    cases eq_of_mem_proceed member
    cases expires
    exact founded.knows caller _ mine
  · have begun : Call.start (.inside stage) = order.call := fresh
    cases order <;> cases begun

/-- A start that is underway goes on to a stage at which it still is, until the session has left its
first phase. -/
theorem goes_on {call : Call} (kept : s.Kept j) (mine : (caller, call) ∈ s.calls)
    (underway : call.isUnderway = true) (taken : s.advanceCall caller call = some t)
    (fresh : t.phase = .notStarted) : ∃ later, (caller, later) ∈ t.calls ∧ later.isUnderway = true := by
  cases call with
  | start guarded =>
    rcases advanceStart_cases taken with ⟨rfl, rfl⟩ | ⟨result, rfl, rfl⟩ |
      ⟨inner, u, following, rfl, held, stepped, rfl⟩
    · cases underway
    · cases underway
    · refine ⟨.start (.inside following), ?_, Starting.step_underway underway kept.alive.sane
        (kept.alive.stands _ mine) stepped fresh⟩
      have calls : u.calls = s.calls := (Starting.step_effect stepped).same_calls
      exact mem_proceed_self (calls ▸ mine)
  | _ => cases underway

/-- As long as a session is not started, a driver is there only for a start that is underway. -/
theorem Founded.underway_after (founded : s.Founded) (kept : s.Kept j)
    (moved : s.after move = some t) (fresh : t.phase = .notStarted) (born : t.driving ≠ .unborn) :
    ∃ entry ∈ t.calls, entry.2.isUnderway = true := by
  have before : s.phase = .notStarted := by
    rcases leadsTo_after moved with same | leads
    · exact same.symm.trans fresh
    · exact absurd fresh (Phase.started_of_leadsTo leads)
  have aside : t.driving = s.driving → t.calls = s.calls →
      ∃ entry ∈ t.calls, entry.2.isUnderway = true := by
    intro driving calls
    rw [calls]
    exact founded.underway before (driving ▸ born)
  cases move with
  | act actor =>
    cases actor with
    | call caller =>
      obtain ⟨call, next, mine, taken, ages⟩ := advance_life moved
      rw [ages.calls]
      by_cases unborn : s.driving = .unborn
      · have asks := ages.step.bears (kept.alive.stands _ mine) unborn born fresh
        cases next with
        | none => cases asks
        | some later => exact ⟨_, mem_callsBehind_self mine, Call.underway_of_asking asks⟩
      · obtain ⟨entry, member, underway⟩ := founded.underway before unborn
        by_cases same : entry.1 = caller
        · have here := kept.tidy.orderly.eq_of_number member mine same
          subst here
          obtain ⟨later, goes, still⟩ := goes_on kept mine underway taken fresh
          rw [ages.calls] at goes
          exact ⟨_, goes, still⟩
        · exact ⟨entry, mem_callsBehind_of_ne member same, underway⟩
    | listener => exact aside (by rw [listen_changes moved]) (by rw [listen_changes moved])
    | engine => exact aside (by rw [compute_changes moved]) (by rw [compute_changes moved])
    | thread => exact aside (by rw [work_changes moved]) (by rw [work_changes moved])
    | driver =>
      rw [drive_changes moved]
      refine founded.underway before fun unborn => ?_
      have stuck : s.drive = none := by rw [drive, unborn]
      cases stuck.symm.trans moved
    | backoff =>
      rw [ring_changes moved]
      refine founded.underway before fun unborn => ?_
      have stuck : s.ring = none := by rw [ring, unborn]
      cases stuck.symm.trans moved
    | timeout caller =>
      have driving : t.driving = s.driving := by rw [expire_books moved]
      obtain ⟨entry, member, underway⟩ := founded.underway before (driving ▸ born)
      obtain ⟨call, following, mine, expires, rfl⟩ := expires_of_expire moved
      by_cases same : entry.1 = caller
      · have here := kept.tidy.orderly.eq_of_number member mine same
        subst here
        exact ⟨_, mem_proceed_self mine, Call.underway_of_expires underway expires⟩
      · exact ⟨entry, mem_proceed_of_ne member same, underway⟩
  | order order =>
    cases moved
    obtain ⟨entry, member, underway⟩ := founded.underway before born
    exact ⟨entry, List.mem_append_left _ member, underway⟩
  | _ =>
    cases moved
    exact founded.underway before born

/-- Only a start makes a session ready. -/
theorem starts_of_ready {call : Call} (taken : s.advanceCall caller call = some t)
    (ready : t.phase = .ready) (unready : s.phase ≠ .ready) : call.order.starts = true := by
  obtain ⟨next, advances⟩ := advanceCall_advances taken
  obtain ⟨u, effect, books⟩ := advances.effect
  rw [books] at ready
  exact effect.starts ready unready

/-- A session becomes ready only with a release recorded. -/
theorem Founded.opened_after (founded : s.Founded) (kept : s.Kept j) (moved : s.after move = some t)
    (opened : t.phase.accepts = true ∨ t.phase = .aborting) : t.details ≠ none := by
  have before : s.phase.accepts = true ∨ s.phase = .aborting → t.details ≠ none := fun open_ =>
    founded.details_ne_none kept (founded.opened open_) moved
  cases phase : s.phase with
  | notStarted =>
    have ready : t.phase = .ready := by
      rcases leadsTo_after moved with same | leads
      · rw [same, phase] at opened
        rcases opened with other | other <;> cases other
      · rw [phase] at leads
        cases behind : t.phase with
        | ready => rfl
        | disposed =>
          rw [behind] at opened
          rcases opened with other | other <;> cases other
        | _ => rw [behind] at leads; cases leads
    have left : t.phase ≠ .notStarted := by
      rw [ready]
      exact nofun
    obtain ⟨caller, call, mine, held, taken, _⟩ := exists_leaver moved phase left
    have starts := starts_of_ready taken ready (by rw [phase]; exact nofun)
    cases call with
    | start guarded =>
      rcases advanceStart_cases taken with ⟨rfl, rfl⟩ | ⟨result, rfl, rfl⟩ |
        ⟨inner, u, following, rfl, held, stepped, rfl⟩
      · exact absurd phase left
      · exact absurd phase left
      · rcases Starting.step_phase stepped with same | ⟨release, rfl⟩ | ⟨error, stage, rfl, late⟩
        · exact absurd (same.trans phase) left
        · obtain ⟨_, there⟩ : s.Decides (.ok release) ∧ s.details ≠ none :=
            founded.knows caller _ mine
          exact founded.details_ne_none kept there moved
        · have ready : u.phase = .ready := ready
          rw [ready] at late
          cases late
    | _ => cases starts
  | disposed =>
    rw [disposed_after moved phase] at opened
    rcases opened with other | other <;> cases other
  | ready => exact before (.inl (by rw [phase]; rfl))
  | running => exact before (.inl (by rw [phase]; rfl))
  | aborting => exact before (.inr phase)

/-- Nobody is let in before the session has been opened. -/
theorem Founded.letIn_after (founded : s.Founded) (kept : s.Kept j) (moved : s.after move = some t) :
    ∀ entry ∈ t.calls, entry.2.station.letsIn = true → t.HasOpened := by
  have still : s.HasOpened → t.HasOpened := fun opened => founded.hasOpened_after kept opened moved
  cases moves_of_after moved with
  | call caller moved =>
    obtain ⟨call, next, mine, taken, ages⟩ := advance_life moved
    intro entry member lets
    rw [ages.calls] at member
    rcases mem_callsBehind member with ⟨_, old⟩ | ⟨later, rfl, rfl⟩
    · exact still (founded.letIn entry old lets)
    · refine still ?_
      rcases ages.step.lets_in lets with before | accepts
      · exact founded.letIn _ mine before
      · exact ⟨Phase.started_of_accepts accepts, founded.opened (.inl accepts)⟩
  | timeout caller mine expires =>
    intro entry member lets
    rcases mem_proceed member with ⟨_, old⟩ | rfl
    · exact still (founded.letIn entry old lets)
    · exact still (founded.letIn _ mine (station_of_expires expires ▸ lets))
  | order order =>
    intro entry member lets
    rcases List.mem_append.mp member with old | now
    · exact still (founded.letIn entry old lets)
    · rw [List.mem_singleton.mp now] at lets
      have none : (Order.call order).station.letsIn = false := by
        rw [station_call]
        rfl
      exact absurd (none.symm.trans lets) Bool.false_ne_true
  | driver _ same | listener _ same | aside _ same =>
    intro entry member lets
    rw [same] at member
    exact still (founded.letIn entry member lets)

/-- Nobody hears that a request was accepted before the session has been opened. -/
theorem Founded.accepted_after (founded : s.Founded) (kept : s.Kept j)
    (moved : s.after move = some t) {other id : Nat}
    (replied : (other, .ok (.accepted id)) ∈ t.replies) : t.HasOpened := by
  have before : (other, .ok (.accepted id)) ∈ s.replies → t.HasOpened := fun replied =>
    founded.hasOpened_after kept (founded.accepted other id replied) moved
  cases moves_of_after moved with
  | call caller taken =>
    obtain ⟨call, next, mine, taken, _⟩ := advance_life taken
    rcases accepted_of_advance taken replied with already | here
    · exact before already
    · refine founded.hasOpened_after kept (founded.letIn _ mine ?_) moved
      rw [here]
      rfl
  | order _ | timeout _ _ _ => exact before replied
  | driver _ same | listener _ same | aside _ same =>
    rw [same] at replied
    exact before replied

/-- A session runs only once more than the question of its start has been accepted. -/
theorem Founded.running_after (founded : s.Founded) (kept : s.Kept j) (moved : s.after move = some t)
    (running : t.phase = .running) : 1 < t.lastId := by
  have more : s.lastId ≤ t.lastId := (after_handling moved).lastId_le
  by_cases before : s.phase = .running
  · exact Nat.lt_of_lt_of_le (founded.running before) more
  have changed : t.phase ≠ s.phase := fun same => before (same.symm.trans running)
  cases moves_of_after moved with
  | call caller moved =>
    obtain ⟨_, _, _, _, ages⟩ := advance_life moved
    exact absurd (ages.step.running running) before
  | driver moved _ =>
    obtain ⟨request, marking⟩ : ∃ request, s.driving = .marking request :=
      (drive_life moved).marking running before
    have ready : s.phase = .ready := by
      rcases drive_phase moved with same | ⟨ready, _⟩ | ⟨other, _⟩
      · exact absurd same changed
      · exact ready
      · exact absurd other before
    -- The question of the start is answered, so the request in hand is another one.
    have accepts : s.phase.accepts = true := by rw [ready]; rfl
    have asked : 1 ≤ s.lastId := kept.alive.sane.numbered (.inl accepts)
    obtain ⟨result, found⟩ := (founded.answered asked).resolve_left (by rw [ready]; exact nofun)
    have hand : request ∈ s.desk.unsettled := by
      have driving : s.desk.driving = .marking request := marking
      rw [Desk.unsettled, Desk.inHand, driving]
      exact List.mem_cons_self
    have above := kept.sound.custody.settled_lt found hand
    have below := kept.sound.custody.bounded request
      (kept.sound.custody.accepted_of_unsettled hand)
    exact Nat.lt_of_lt_of_le (Nat.lt_of_lt_of_le above below) more
  | order _ | timeout _ _ _ => exact absurd rfl changed
  | listener _ same | aside _ same => exact absurd (by rw [same]) changed

/-- **Every move leaves a session founded**, unless its owner lets go of it. -/
theorem founded_after (founded : s.Founded) (kept : s.Kept j) (moved : s.after move = some t) :
    t.Founded where
  knows := founded.knows_after kept moved
  underway := founded.underway_after kept moved
  answered := founded.answered_after kept moved
  recorded := founded.recorded_after moved
  blank := by
    intro none
    rcases record_after moved with ⟨details, dialect⟩ | ⟨_, _, _, _, details, _⟩
    · rw [dialect]
      exact founded.blank (details ▸ none)
    · cases none.symm.trans details
  opened := founded.opened_after kept moved
  letIn := founded.letIn_after kept moved
  accepted := fun _ _ => founded.accepted_after kept moved
  running := founded.running_after kept moved

theorem founded_fresh (settings : Settings) (fallback : Release) (hosted : HostedEngine) :
    (fresh settings fallback hosted).Founded where
  knows := fun _ _ member => by cases member
  underway := fun _ born => absurd rfl born
  answered := fun asked => by cases asked
  recorded := fun _ other => by cases other
  blank := fun _ => rfl
  opened := fun open_ => by rcases open_ with other | other <;> cases other
  letIn := fun _ member => by cases member
  accepted := fun _ _ replied => by cases replied
  running := fun other => by cases other

end Session

/-- **A session is founded along every course on which nobody lets go of it.** -/
theorem Course.founded {env : Environment} {settings : Settings} {hosted : HostedEngine}
    {s t : Session} {j : Journal} (created : Session.create settings hosted = .ok s)
    (course : Course env s .empty j t) (owned : env.Owned) : t.Kept j ∧ t.Founded := by
  have kept := Session.kept_of_create created
  obtain ⟨fallback, _, rfl⟩ := Session.fresh_of_create created
  refine course.invariant (fun t j => t.Kept j ∧ t.Founded) ?_
    ⟨kept, Session.founded_fresh settings fallback hosted⟩
  rintro t u j move ⟨kept, founded⟩ allowed moved
  refine ⟨kept.after ?_ moved, Session.founded_after founded kept moved⟩
  rintro rfl
  exact owned t allowed

end ShellSession
