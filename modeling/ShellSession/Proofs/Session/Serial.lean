/-
**Requests run one after another.**

A serial run has no queue, no driver and no callers: it takes one request after another and follows
the routine of one attempt at it to the end, the engine doing nothing else meanwhile. What comes from
outside is given beforehand: the attempt that counts, whether the engine is let answer its questions,
and the cues, a verb being sent as soon as the engine waits in a stop.

* `Serial`, `Serial.step`: a serial run and its next step, a function;
* `Serial.Runs`: the steps from one moment to another, with step mode switched on at any time;
* `Serial.Moves`: what a step is;
* `Serial.Runs.unique`: **unless step mode is switched on, a serial run comes to one end only**.
-/

import ShellSession.Proofs.Engine.Tickets
import ShellSession.Proofs.Session.Handling

namespace ShellSession

/-! ### Serial runs -/

/-- A request to be run: the number of its attempt, and for each question of the attempt whether the
engine is let answer it. -/
structure Job where
  request : Request
  number : Nat
  gates : List Bool

/-- The routine of a job. -/
def Job.routine (job : Job) : Routine :=
  job.request.payload.attempt job.number

/-- A serial run at some moment: the engine, the jobs still to be done, what is done at the moment,
the gates of the present job that are left, the results and the output so far, and the cues that are
left. -/
structure Serial where
  engine : Engine
  waiting : List Job
  working : Working
  gates : List Bool
  results : List (Nat × Result)
  output : List Line
  cues : List Cue

namespace Serial

/-- A serial run before its first step. -/
def start (engine : Engine) (waiting : List Job) (cues : List Cue) : Serial where
  engine := engine
  waiting := waiting
  working := .resting
  gates := []
  results := []
  output := []
  cues := cues

/-- The request in hand completed. -/
def settle (x : Serial) (request : Request) (result : Result) : Serial :=
  { x with results := x.results ++ [(request.id, result)], working := .resting }

/-- A question, and its answer if the engine is let answer it. -/
def ask {α : Type} (x : Serial) (request : Request) (next : Except EngineFailure α → Routine)
    (answer : Except EngineFailure α) : Option Serial :=
  match x.gates with
  | [] => none
  | true :: rest => some { x with gates := rest, working := .working request (next answer) }
  | false :: rest =>
    some { x with gates := rest, working := .working request (next (.error .busy)) }

/-- A run begun, if the engine is let begin one. -/
def begin (x : Serial) (request : Request) (pipeline : Pipeline)
    (next : Except EngineFailure (List Value) → Routine) : Option Serial :=
  match x.gates with
  | [] => none
  | true :: rest =>
    match x.engine.invoke pipeline with
    | .error error =>
      some { x with gates := rest, working := .working request (next (.error error)) }
    | .ok (ticket, engine) =>
      some { x with engine := engine, gates := rest, working := .awaiting request ticket next }
  | false :: rest =>
    some { x with gates := rest, working := .working request (next (.error .busy)) }

/-- One step along a routine. A job that comes back busy does not go on. -/
def follow (x : Serial) (request : Request) : Routine → Option Serial
  | .busy => none
  | .complete conclusion => some (x.settle request (conclusion.mapError Shortfall.failure))
  | .panic payload => some (x.settle request (.error (.panicked payload.message)))
  | .report lines conclusion =>
    some { x with output := x.output ++ lines, working := .working request (.complete conclusion) }
  | .invoke pipeline next => x.begin request pipeline next
  | .askVariable name next => x.ask request next (x.engine.askVariable name)
  | .askRelease next => x.ask request next x.engine.askRelease

/-- One step of the engine, or the next verb sent into the stop in which it waits. -/
def compute (x : Serial) : Option Serial :=
  match x.engine.step with
  | some engine => some { x with engine := engine }
  | none =>
    match x.cues with
    | .verb verb :: rest =>
      match x.engine.resume verb with
      | .ok engine => some { x with engine := engine, cues := rest }
      | .error _ => none
    | _ => none

/-- The next step. -/
def step (x : Serial) : Option Serial :=
  match x.working with
  | .resting =>
    match x.waiting with
    | [] => none
    | job :: rest =>
      some { x with
        waiting := rest
        working := .working job.request job.routine
        gates := job.gates }
  | .working request routine => x.follow request routine
  | .awaiting request ticket next =>
    match x.engine.result? ticket with
    | some outcome => some { x with working := .working request (next outcome) }
    | none => x.compute
  | .replying _ => none

/-- The steps from one moment to another; step mode is switched on at any time, in the order of the
cues. -/
inductive Runs (x : Serial) : Serial → Prop
  | rest : Runs x x
  | step {y z : Serial} : Runs x y → y.step = some z → Runs x z
  | pause {y : Serial} {rest : List Cue} : Runs x y → y.cues = .pause :: rest →
      Runs x { y with engine := y.engine.setStepping true, cues := rest }

end Serial

/-! ### What a step is -/

namespace Routine

/-- How a routine goes on when the engine is not let answer its question. -/
def refused? : Routine → Option Routine
  | invoke _ next => some (next (.error .busy))
  | askVariable _ next => some (next (.error .busy))
  | askRelease next => some (next (.error .busy))
  | _ => none

/-- How a routine goes on when the engine answers its question at once. -/
def answered? (e : Engine) : Routine → Option Routine
  | invoke pipeline next =>
    match e.invoke pipeline with
    | .error error => some (next (.error error))
    | .ok _ => none
  | askVariable name next => some (next (e.askVariable name))
  | askRelease next => some (next e.askRelease)
  | _ => none

end Routine

namespace Serial

/-- What a step of a serial run is. -/
inductive Moves (x : Serial) : Serial → Prop
  | take (job : Job) (rest : List Job) (resting : x.working = .resting)
      (waiting : x.waiting = job :: rest) : Moves x { x with
        waiting := rest
        working := .working job.request job.routine
        gates := job.gates }
  | settle (request : Request) (routine : Routine) (result : Result)
      (working : x.working = .working request routine) (ended : routine.result? = some result) :
      Moves x (x.settle request result)
  | report (request : Request) (lines : List Line) (conclusion : Conclusion)
      (working : x.working = .working request (.report lines conclusion)) : Moves x { x with
        output := x.output ++ lines
        working := .working request (.complete conclusion) }
  | refuse (request : Request) (routine later : Routine) (rest : List Bool)
      (working : x.working = .working request routine) (gates : x.gates = false :: rest)
      (refused : routine.refused? = some later) :
      Moves x { x with gates := rest, working := .working request later }
  | answer (request : Request) (routine later : Routine) (rest : List Bool)
      (working : x.working = .working request routine) (gates : x.gates = true :: rest)
      (answered : routine.answered? x.engine = some later) :
      Moves x { x with gates := rest, working := .working request later }
  | begin (request : Request) (pipeline : Pipeline)
      (next : Except EngineFailure (List Value) → Routine) (ticket : Nat) (engine : Engine)
      (rest : List Bool) (working : x.working = .working request (.invoke pipeline next))
      (gates : x.gates = true :: rest) (invoked : x.engine.invoke pipeline = .ok (ticket, engine)) :
      Moves x { x with
        engine := engine
        gates := rest
        working := .awaiting request ticket next }
  | receive (request : Request) (ticket : Nat) (next : Except EngineFailure (List Value) → Routine)
      (outcome : Except EngineFailure (List Value)) (awaiting : x.working = .awaiting request ticket next)
      (found : x.engine.result? ticket = some outcome) :
      Moves x { x with working := .working request (next outcome) }
  | compute (request : Request) (ticket : Nat) (next : Except EngineFailure (List Value) → Routine)
      (engine : Engine) (awaiting : x.working = .awaiting request ticket next)
      (waits : x.engine.result? ticket = none) (stepped : x.engine.step = some engine) :
      Moves x { x with engine := engine }
  | resume (request : Request) (ticket : Nat) (next : Except EngineFailure (List Value) → Routine)
      (verb : Verb) (engine : Engine) (rest : List Cue)
      (awaiting : x.working = .awaiting request ticket next)
      (waits : x.engine.result? ticket = none) (stands : x.engine.step = none)
      (cues : x.cues = .verb verb :: rest) (resumed : x.engine.resume verb = .ok engine) :
      Moves x { x with engine := engine, cues := rest }

variable {x y z : Serial}

theorem moves_of_ask {α : Type} {request : Request} {routine : Routine}
    {next : Except EngineFailure α → Routine} {answer : Except EngineFailure α}
    (working : x.working = .working request routine)
    (refused : routine.refused? = some (next (.error .busy)))
    (answered : routine.answered? x.engine = some (next answer))
    (asked : x.ask request next answer = some y) : x.Moves y := by
  unfold ask at asked
  split at asked
  · cases asked
  · rename_i rest gates
    cases asked
    exact .answer request routine _ rest working gates answered
  · rename_i rest gates
    cases asked
    exact .refuse request routine _ rest working gates refused

/-- A step along a routine. -/
theorem moves_of_follow {request : Request} {routine : Routine}
    (working : x.working = .working request routine)
    (followed : x.follow request routine = some y) : x.Moves y := by
  cases routine with
  | busy => cases followed
  | complete conclusion =>
    cases followed
    exact .settle request _ _ working rfl
  | panic payload =>
    cases followed
    exact .settle request _ _ working rfl
  | report lines conclusion =>
    cases followed
    exact .report request lines conclusion working
  | invoke pipeline next =>
    have begun : x.begin request pipeline next = some y := followed
    unfold begin at begun
    split at begun
    · cases begun
    · rename_i rest gates
      split at begun
      · rename_i error invoked
        cases begun
        refine .answer request _ _ rest working gates ?_
        show (match x.engine.invoke pipeline with
          | .error error => some (next (.error error))
          | .ok _ => none) = _
        rw [invoked]
      · rename_i ticket engine invoked
        cases begun
        exact .begin request pipeline next ticket engine rest working gates invoked
    · rename_i rest gates
      cases begun
      exact .refuse request _ _ rest working gates rfl
  | askVariable name next => exact moves_of_ask working rfl rfl followed
  | askRelease next => exact moves_of_ask working rfl rfl followed

/-- **A step is one of these moves.** -/
theorem moves_of_step (stepped : x.step = some y) : x.Moves y := by
  unfold step at stepped
  split at stepped
  · rename_i resting
    split at stepped
    · cases stepped
    · rename_i job rest waiting
      cases stepped
      exact .take job rest resting waiting
  · rename_i request routine working
    exact moves_of_follow working stepped
  · rename_i request ticket next awaiting
    split at stepped
    · rename_i outcome found
      cases stepped
      exact .receive request ticket next outcome awaiting found
    · rename_i waits
      unfold compute at stepped
      split at stepped
      · rename_i engine taken
        cases stepped
        exact .compute request ticket next engine awaiting waits taken
      · rename_i stands
        split at stepped
        · rename_i verb rest cues
          split at stepped
          · rename_i engine resumed
            cases stepped
            exact .resume request ticket next verb engine rest awaiting waits stands cues resumed
          · cases stepped
        · cases stepped
  · cases stepped

/-- **Each of these moves is the step.** -/
theorem Moves.step (moves : x.Moves y) : x.step = some y := by
  unfold Serial.step
  cases moves with
  | take job rest resting waiting => rw [resting, waiting]
  | settle request routine result working ended =>
    rw [working]
    cases routine <;> first | cases ended; rfl | cases ended
  | report request lines conclusion working =>
    rw [working]
    rfl
  | refuse request routine later rest working gates refused =>
    rw [working]
    cases routine <;> cases refused
    all_goals simp only [Serial.follow, Serial.begin, Serial.ask, gates]
  | answer request routine later rest working gates answered =>
    rw [working]
    cases routine with
    | invoke pipeline next =>
      simp only [Routine.answered?] at answered
      simp only [Serial.follow, Serial.begin, gates]
      split at answered
      · rename_i error invoked
        cases answered
        rw [invoked]
      · cases answered
    | askVariable name next =>
      cases answered
      simp only [Serial.follow, Serial.ask, gates]
    | askRelease next =>
      cases answered
      simp only [Serial.follow, Serial.ask, gates]
    | _ => cases answered
  | begin request pipeline next ticket engine rest working gates invoked =>
    rw [working]
    simp only [Serial.follow, Serial.begin, gates, invoked]
  | receive request ticket next outcome awaiting found => simp only [awaiting, found]
  | compute request ticket next engine awaiting waits stepped =>
    simp only [awaiting, waits, Serial.compute, stepped]
  | resume request ticket next verb engine rest awaiting waits stands cues resumed =>
    simp only [awaiting, waits, Serial.compute, stands, cues, resumed]

/-! ### More to come -/

/-- A serial run with more jobs and more cues to come. -/
def extend (x : Serial) (waiting : List Job) (cues : List Cue) : Serial :=
  { x with waiting := x.waiting ++ waiting, cues := x.cues ++ cues }

/-- A serial run whose present job has more questions to ask. -/
def extendGates (x : Serial) (gates : List Bool) : Serial :=
  { x with gates := x.gates ++ gates }

/-- What is to come later does not matter to a step. -/
theorem Moves.extend (moves : x.Moves y) (waiting : List Job) (cues : List Cue) :
    (x.extend waiting cues).Moves (y.extend waiting cues) := by
  cases moves with
  | take job rest resting given =>
    refine .take (x := x.extend waiting cues) job (rest ++ waiting) resting ?_
    show x.waiting ++ waiting = _
    rw [given]
    rfl
  | settle request routine result working ended =>
    exact .settle (x := x.extend waiting cues) request routine result working ended
  | report request lines conclusion working =>
    exact .report (x := x.extend waiting cues) request lines conclusion working
  | refuse request routine later rest working gates refused =>
    exact .refuse (x := x.extend waiting cues) request routine later rest working gates refused
  | answer request routine later rest working gates answered =>
    exact .answer (x := x.extend waiting cues) request routine later rest working gates answered
  | begin request pipeline next ticket engine rest working gates invoked =>
    exact .begin (x := x.extend waiting cues) request pipeline next ticket engine rest working gates
      invoked
  | receive request ticket next outcome awaiting found =>
    exact .receive (x := x.extend waiting cues) request ticket next outcome awaiting found
  | compute request ticket next engine awaiting waits stepped =>
    exact .compute (x := x.extend waiting cues) request ticket next engine awaiting waits stepped
  | resume request ticket next verb engine rest awaiting waits stands given resumed =>
    refine .resume (x := x.extend waiting cues) request ticket next verb engine (rest ++ cues)
      awaiting waits stands ?_ resumed
    show x.cues ++ cues = _
    rw [given]
    rfl

/-- Questions to be asked later do not matter to a step of the present job. -/
theorem Moves.extendGates (moves : x.Moves y) (busy : x.waiting = []) (gates : List Bool) :
    (x.extendGates gates).Moves (y.extendGates gates) := by
  have more {gate : Bool} {rest : List Bool} (given : x.gates = gate :: rest) :
      (x.extendGates gates).gates = gate :: (rest ++ gates) := by
    show x.gates ++ gates = _
    rw [given]
    rfl
  cases moves with
  | take job rest resting given => exact absurd (busy.symm.trans given) nofun
  | settle request routine result working ended =>
    exact .settle (x := x.extendGates gates) request routine result working ended
  | report request lines conclusion working =>
    exact .report (x := x.extendGates gates) request lines conclusion working
  | refuse request routine later rest working given refused =>
    exact .refuse (x := x.extendGates gates) request routine later (rest ++ gates) working
      (more given) refused
  | answer request routine later rest working given answered =>
    exact .answer (x := x.extendGates gates) request routine later (rest ++ gates) working
      (more given) answered
  | begin request pipeline next ticket engine rest working given invoked =>
    exact .begin (x := x.extendGates gates) request pipeline next ticket engine (rest ++ gates)
      working (more given) invoked
  | receive request ticket next outcome awaiting found =>
    exact .receive (x := x.extendGates gates) request ticket next outcome awaiting found
  | compute request ticket next engine awaiting waits stepped =>
    exact .compute (x := x.extendGates gates) request ticket next engine awaiting waits stepped
  | resume request ticket next verb engine rest awaiting waits stands cues resumed =>
    exact .resume (x := x.extendGates gates) request ticket next verb engine rest awaiting waits
      stands cues resumed

/-- No step adds a job. -/
theorem Moves.waiting_nil (moves : x.Moves y) (empty : x.waiting = []) : y.waiting = [] := by
  cases moves with
  | take job rest resting given => exact absurd (empty.symm.trans given) nofun
  | _ => exact empty

/-- A step takes a cue or none. -/
theorem Moves.cues (moves : x.Moves y) : ∃ used, x.cues = used ++ y.cues := by
  cases moves with
  | resume request ticket next verb engine rest awaiting waits stands cues resumed =>
    exact ⟨[.verb verb], cues⟩
  | _ => exact ⟨[], rfl⟩

namespace Runs

/-- One run behind another. -/
theorem trans (first : x.Runs y) (second : y.Runs z) : x.Runs z := by
  induction second with
  | rest => exact first
  | step _ stepped ih => exact ih.step stepped
  | pause _ cues ih => exact ih.pause cues

theorem waiting_nil (runs : x.Runs y) (empty : x.waiting = []) : y.waiting = [] := by
  induction runs with
  | rest => exact empty
  | step _ stepped ih => exact (moves_of_step stepped).waiting_nil ih
  | pause _ _ ih => exact ih

/-- Cues are taken in their order. -/
theorem cues (runs : x.Runs y) : ∃ used, x.cues = used ++ y.cues := by
  induction runs with
  | rest => exact ⟨[], rfl⟩
  | step _ stepped ih =>
    obtain ⟨used, before⟩ := ih
    obtain ⟨more, after⟩ := (moves_of_step stepped).cues
    exact ⟨used ++ more, by rw [before, after, List.append_assoc]⟩
  | pause _ given ih =>
    obtain ⟨used, before⟩ := ih
    exact ⟨used ++ [.pause], by rw [before, given, List.append_assoc]; rfl⟩

/-- What is to come later does not matter to a run. -/
theorem extend (runs : x.Runs y) (waiting : List Job) (cues : List Cue) :
    (x.extend waiting cues).Runs (y.extend waiting cues) := by
  induction runs with
  | rest => exact .rest
  | step _ stepped ih => exact ih.step ((moves_of_step stepped).extend waiting cues).step
  | @pause y rest _ given ih =>
    have more : (y.extend waiting cues).cues = .pause :: (rest ++ cues) := by
      show y.cues ++ cues = _
      rw [given]
      rfl
    exact ih.pause more

/-- Questions to be asked later do not matter to the present job. -/
theorem extendGates (runs : x.Runs y) (busy : x.waiting = []) (gates : List Bool) :
    (x.extendGates gates).Runs (y.extendGates gates) := by
  induction runs with
  | rest => exact .rest
  | step before stepped ih =>
    exact ih.step ((moves_of_step stepped).extendGates (before.waiting_nil busy) gates).step
  | pause _ given ih => exact ih.pause given

/-! ### One end only -/

/-- The beginning of a run on which step mode is not switched on. -/
theorem head (runs : x.Runs y) (unpaused : .pause ∉ x.cues) :
    y = x ∨ ∃ z, x.step = some z ∧ z.Runs y := by
  induction runs with
  | rest => exact .inl rfl
  | step _ stepped ih =>
    rcases ih with rfl | ⟨z, first, further⟩
    · exact .inr ⟨_, stepped, .rest⟩
    · exact .inr ⟨z, first, further.step stepped⟩
  | pause before given ih =>
    obtain ⟨used, split⟩ := before.cues
    rw [split, given] at unpaused
    exact absurd (List.mem_append_right used List.mem_cons_self) unpaused

/-- Of two runs from one moment one goes on with the other. -/
theorem comparable (first : x.Runs y) (second : x.Runs z) (unpaused : .pause ∉ x.cues) :
    y.Runs z ∨ z.Runs y := by
  induction first with
  | rest => exact .inl second
  | step before stepped ih =>
    rcases ih with ahead | behind
    · obtain ⟨used, split⟩ := before.cues
      rw [split] at unpaused
      rcases ahead.head fun member => unpaused (List.mem_append_right used member) with
        rfl | ⟨other, same, further⟩
      · exact .inr (.step .rest stepped)
      · cases same.symm.trans stepped
        exact .inl further
    · exact .inr (behind.step stepped)
  | pause before given ih =>
    obtain ⟨used, split⟩ := before.cues
    rw [split, given] at unpaused
    exact absurd (List.mem_append_right used List.mem_cons_self) unpaused

/-- **Unless step mode is switched on, a serial run comes to one end only.** -/
theorem unique (first : x.Runs y) (second : x.Runs z) (unpaused : .pause ∉ x.cues)
    (ended : y.step = none) (concluded : z.step = none) : z = y := by
  have stands {v w : Serial} (before : x.Runs v) (further : v.Runs w) (none : v.step = none) :
      w = v := by
    obtain ⟨used, split⟩ := before.cues
    rw [split] at unpaused
    rcases further.head fun member => unpaused (List.mem_append_right used member) with
      same | ⟨other, taken, _⟩
    · exact same
    · exact absurd (none.symm.trans taken) nofun
  rcases first.comparable second unpaused with ahead | behind
  · exact stands first ahead ended
  · exact (stands second behind concluded).symm

end Runs

end Serial

end ShellSession
