/-
**Evaluation ends.**

When no script file calls itself, directly or through others, every pipeline comes to its end. A step of
the engine uses up one of the steps that its run may still take, or else one of those that belong to the
commands in its stop, up to a verb; what is asked of the engine meanwhile adds to the latter only, and
behind a verb not even to them. So a run in whose stops a verb is sent, sooner or later, is answered, with
an output or with an error, and until then script files call each other no deeper than there are files.

* `Engine.queued`: the steps of the commands that are served before a verb;
* `Activity.Ahead`, `Engine.Ahead`: what is ahead of a run, and of the command in its stop;
* `Engine.Ahead.step`, `Engine.Ahead.asked`: **what a step and a request make of that**;
* `Engine.Tended`, `Engine.LeadsTo`: infinite rows of events, and what comes about along them;
* `Engine.run_ends`: **every run ends**.
-/

import ShellSession.Proofs.Engine.Allowance
import ShellSession.Proofs.Engine.Pursuit

namespace ShellSession.Engine

variable {e f : Engine} {ticket n m : Nat} {files : Files} {given : List (Nat × Outcome)}

/-! ### What is ahead -/

/-- The steps of the commands that are served before a verb, the ways into each of them and out of it
included. -/
def queued (files : Files) : List StopRequest → Nat
  | [] => 0
  | .command _ pipeline :: rest => pipelineSteps files pipeline + 2 + queued files rest
  | .verb _ :: _ => 0

/-- The steps of the commands that an engine is still to serve before a verb. -/
def queue (e : Engine) : Nat :=
  queued e.files e.inbox

/-- Whether a verb has been sent into the stop. -/
def isTold (e : Engine) : Bool :=
  e.inbox.any StopRequest.isVerb

theorem queued_append (inbox more : List StopRequest) :
    queued files (inbox ++ more) ≤ queued files inbox + queued files more := by
  induction inbox with
  | nil => simp [queued]
  | cons request rest ih =>
    cases request with
    | command asker pipeline =>
      simp only [List.cons_append, queued]
      omega
    | verb verb => simp [queued]

/-- What is sent behind a verb is not served. -/
theorem queued_append_of_told {inbox : List StopRequest} (told : inbox.any StopRequest.isVerb = true)
    (more : List StopRequest) : queued files (inbox ++ more) = queued files inbox := by
  induction inbox with
  | nil => cases told
  | cons request rest ih =>
    cases request with
    | command asker pipeline =>
      simp only [List.cons_append, queued]
      rw [ih (by simpa [StopRequest.isVerb] using told)]
    | verb verb => rfl

/-- What is ahead of what an engine is doing: so many steps of the run, up to its answer, and so many of a
command in its stop. The command neither stops nor looks at the debugger. -/
inductive Activity.Ahead (files : Files) (ticket : Nat) : Activity → Nat → Nat → Prop
  | running {x : Execution} {n : Nat} (within : x.Within files n) :
      Ahead files ticket (.running ticket x) (n + 1) 0
  | nested {waiting : Waiting} {asker : Nat} {x : Execution} {level n m : Nat}
      (outer : ∀ s, (waiting.execution s).Within files n) (within : x.Within files m)
      (abides : x.Abides Law.quiet.rule (level + 1)) :
      Ahead files ticket (.nested ticket waiting asker x) (n + 1) (m + 1)

/-- An engine with such a run ahead, which has given some answers before. -/
structure Ahead (files : Files) (given : List (Nat × Outcome)) (ticket n m : Nat) (e : Engine) :
    Prop where
  activity : e.activity.Ahead files ticket n m
  results : given <+: e.results
  files : e.files = files

/-- A run has been answered last, behind the answers given before. -/
def Concluded (given : List (Nat × Outcome)) (ticket : Nat) (e : Engine) : Prop :=
  ∃ s more outcome, e.activity = .idle s ∧ e.results = given ++ more ++ [(ticket, outcome)]

theorem Ahead.main? (ahead : e.Ahead files given ticket n m) : e.main? = some ticket := by
  have activity := ahead.activity
  unfold Engine.main?
  generalize e.activity = doing at activity ⊢
  cases activity <;> rfl

/-! ### Requests -/

theorem Activity.Ahead.withState {activity : Activity} (ahead : activity.Ahead files ticket n m)
    {s : Interpreter} (same : s.nested = activity.state.nested) :
    (activity.withState s).Ahead files ticket n m := by
  cases ahead with
  | running within => exact .running (within.withState s)
  | nested outer within abides => exact .nested outer (within.withState s) (abides.withState same)

/-- **What is asked of an engine leaves what is ahead of its run**, and is sent behind what has been sent
into its stop. -/
theorem Ahead.asked (ahead : e.Ahead files given ticket n m) (request : Ask) :
    (e.asked request).Ahead files given ticket n m ∧
      (e.asked request).isStopped = e.isStopped ∧
      ∃ more, (e.asked request).inbox = e.inbox ++ more := by
  obtain ⟨activity, inbox, sameFiles, results⟩ := asked_busy ahead.main? request
  refine ⟨⟨?_, results ▸ ahead.results, sameFiles.trans ahead.files⟩, ?_, inbox⟩
  · rw [activity]
    exact ahead.activity.withState rfl
  · rw [isStopped_eq activity, Activity.stop?_withState]
    rfl

/-! ### Steps -/

/-- What a step of the engine comes to: the run is answered; or fewer steps of it are left; or fewer of
the commands in its stop are. -/
inductive Nears (files : Files) (given : List (Nat × Outcome)) (ticket n m : Nat) (e f : Engine) : Prop
  | concluded (concluded : f.Concluded given ticket) (left : 0 < n) (queue : f.queue = e.queue)
  | nearer {n' m' : Nat} (ahead : f.Ahead files given ticket n' m') (lower : n' < n)
      (queue : m' + f.queue ≤ m + e.queue)
  | served {m' : Nat} (ahead : f.Ahead files given ticket n m') (inside : e.isStopped = true)
      (still : f.isStopped = true) (told : f.isTold = e.isTold)
      (lower : m' + f.queue < m + e.queue)

/-- **A step of the engine uses up what is ahead.** -/
theorem Ahead.step (ahead : e.Ahead files given ticket n m) (straight : ¬files.IsRecursive)
    (stepped : e.step = some f) : Nears files given ticket n m e f := by
  obtain ⟨activity, results, rfl⟩ := ahead
  cases stepsTo_of_step stepped with
  | run doing taken =>
    rw [doing] at activity
    cases activity with
    | running within =>
      obtain ⟨less, lower, further⟩ := within.step taken
      exact .nearer ⟨.running further, results, rfl⟩ (by omega) le_rfl
  | @finish _ outcome _ doing =>
    rw [doing] at activity
    cases activity with
    | running within =>
      obtain ⟨more, before⟩ := results
      exact .concluded ⟨_, more, outcome, rfl, before ▸ rfl⟩ (Nat.succ_pos _) rfl
  -- A command uses up the step into it.
  | @take _ _ s _ _ _ pipeline _ doing inbox =>
    rw [doing] at activity
    cases activity with
    | running within =>
      have command := evalPipeline_within straight pipeline (openNested s)
      have obeys : Eval.Obeys Law.quiet.rule (evalPipeline e.files pipeline) :=
        evalPipeline_obeys e.files pipeline
      have abides := Execution.abides_ofRun (obeys (openNested s))
      refine .served ⟨.nested (fun _ => within) (.ofRun command) abides, results, rfl⟩
        (isStopped_eq doing) rfl ?_ ?_
      · simp [isTold, inbox, StopRequest.isVerb]
      · simp only [queue, inbox, queued]
        omega
  -- A verb uses up one of the run.
  | @leave _ _ s _ _ verb _ doing inbox =>
    rw [doing] at activity
    cases activity with
    | running within =>
      obtain ⟨less, lower, further⟩ := within.resume
      refine .nearer ⟨.running (further verb s), results.trans (List.prefix_append _ _), rfl⟩ ?_ ?_
      · omega
      · simp [queue, queued]
  | further doing taken =>
    rw [doing] at activity
    cases activity with
    | nested outer within abides =>
      obtain ⟨less, lower, further⟩ := within.step taken
      refine .served ⟨.nested outer further (Execution.step_abides abides taken).1, results, rfl⟩
        (isStopped_eq doing) rfl rfl ?_
      simp only [queue]
      omega
  | @answer _ _ _ _ s doing =>
    rw [doing] at activity
    cases activity with
    | nested outer within abides =>
      refine .served ⟨.running (outer s), results.trans (List.prefix_append _ _), rfl⟩
        (isStopped_eq doing) rfl rfl ?_
      simp only [queue, answer]
      omega

/-- An engine takes a step of its run outside stops, and in one to which a verb has been sent. -/
theorem Ahead.exists_step (ahead : e.Ahead files given ticket n m)
    (awake : e.isStopped = true → e.isTold = true) : ∃ f, e.step = some f := by
  have activity := ahead.activity
  cases doing : e.activity with
  | idle s =>
    rw [doing] at activity
    cases activity
  | running other x =>
    obtain ⟨run, callers⟩ := x
    cases run with
    | stopped stop s resume =>
      refine exists_step_of_stopped doing fun inbox => ?_
      have told := awake (isStopped_eq doing)
      simp [isTold, inbox] at told
    | _ => exact exists_step_of_running doing rfl
  | nested other waiting asker x =>
    rw [doing] at activity
    cases activity with
    | nested outer within abides =>
      obtain ⟨run, callers⟩ := x
      cases run with
      | stopped stop s resume => exact absurd abides.run.1 (Nat.succ_ne_zero _)
      | _ => exact exists_step_of_nested doing rfl

/-! ### Sooner or later -/

/-- The engine behind so many of the events of an infinite row. -/
def runUpTo (e : Engine) (events : Nat → Event) : Nat → Engine
  | 0 => e
  | k + 1 => (e.runUpTo events k).after (events k)

/-- A row of events with which an engine is tended: it goes on taking steps, and a verb is sent into every
stop that has not been left before. -/
structure Tended (e : Engine) (events : Nat → Event) : Prop where
  steps : ∀ k, ∃ l ≥ k, events l = .step
  verbs : ∀ k, (e.runUpTo events k).isStopped = true → ∃ l ≥ k,
    (e.runUpTo events l).isStopped = false ∨ ∃ verb, events l = .ask (.resume verb)

/-- Whenever one thing holds along a row of events, another one holds then or later. -/
def LeadsTo (e : Engine) (events : Nat → Event) (before later : Engine → Prop) : Prop :=
  ∀ k, before (e.runUpTo events k) → ∃ l ≥ k, later (e.runUpTo events l)

/-- **What every step of the engine brings nearer comes about**, if the engine goes on taking steps and no
event takes it further away. -/
theorem leadsTo_of_rank {events : Nat → Event} (fair : ∀ k, ∃ l ≥ k, events l = .step)
    {near : Nat → Engine → Prop} {later : Engine → Prop}
    (each : ∀ rank e event, near rank e →
      later (e.after event) ∨ ∃ rank', near rank' (e.after event) ∧ rank' ≤ rank ∧
        (event = .step → rank' < rank)) (rank : Nat) :
    LeadsTo e events (near rank) later := by
  induction rank using Nat.strong_induction_on with
  | _ rank ih =>
    intro k here
    obtain ⟨l, further, stepping⟩ := fair k
    -- The events up to the next step, one after another.
    induction count : l - k generalizing k rank with
    | zero =>
      obtain rfl : l = k := by omega
      rcases each rank _ (events l) here with reached | ⟨less, near', _, lower⟩
      · exact ⟨l + 1, by omega, reached⟩
      · obtain ⟨j, after, reached⟩ := ih less (lower stepping) (l + 1) near'
        exact ⟨j, by omega, reached⟩
    | succ count ihCount =>
      rcases each rank _ (events k) here with reached | ⟨less, near', most, _⟩
      · exact ⟨k + 1, by omega, reached⟩
      · obtain ⟨j, after, reached⟩ := ihCount less
          (fun other lower => ih other (by omega)) (k + 1) near' (by omega) (by omega)
        exact ⟨j, by omega, reached⟩

/-! ### Runs that are answered -/

/-- A run has come nearer to its end: it is answered, or fewer steps of it are left. -/
def HasNeared (files : Files) (given : List (Nat × Outcome)) (ticket n : Nat) (e : Engine) : Prop :=
  e.Concluded given ticket ∨ ∃ less < n, ∃ m, e.Ahead files given ticket less m

theorem after_of_step (stepped : e.step = some f) : e.after .step = f := by
  rw [after, stepped]
  rfl

/-- A verb that is sent into a stop is in its inbox. -/
theorem isTold_of_resume (inside : e.isStopped = true) (verb : Verb) :
    (e.asked (.resume verb)).isTold = true := by
  simp [asked, ask, Engine.resume, inside, isTold, StopRequest.isVerb]

/-- A run goes on by itself: outside stops, or in one to which a verb has been sent, so many steps being
left at most up to that verb. -/
def GoesOn (files : Files) (given : List (Nat × Outcome)) (ticket n rank : Nat) (e : Engine) : Prop :=
  ∃ m, e.Ahead files given ticket n m ∧
    (e.isStopped = true → e.isTold = true ∧ m + e.queue ≤ rank)

theorem GoesOn.after {rank : Nat} (goesOn : e.GoesOn files given ticket n rank)
    (straight : ¬files.IsRecursive) (event : Event) :
    (e.after event).HasNeared files given ticket n ∨
      ∃ rank', (e.after event).GoesOn files given ticket n rank' ∧ rank' ≤ rank ∧
        (event = .step → rank' < rank) := by
  obtain ⟨m, ahead, awake⟩ := goesOn
  cases event with
  | step =>
    obtain ⟨f, stepped⟩ := ahead.exists_step fun inside => (awake inside).1
    rw [after_of_step stepped]
    cases ahead.step straight stepped with
    | concluded concluded left queue => exact .inl (.inl concluded)
    | nearer ahead lower queue => exact .inl (.inr ⟨_, lower, _, ahead⟩)
    | @served m' further inside still told lower =>
      obtain ⟨sent, enough⟩ := awake inside
      have next : f.GoesOn files given ticket n (m' + f.queue) :=
        ⟨m', further, fun _ => ⟨told.trans sent, le_rfl⟩⟩
      exact .inr ⟨_, next, by omega, fun _ => by omega⟩
  | ask request =>
    obtain ⟨further, still, more, inbox⟩ := ahead.asked request
    refine .inr ⟨rank, ⟨m, further, fun inside => ?_⟩, le_rfl, nofun⟩
    obtain ⟨told, enough⟩ := awake (still.symm.trans inside)
    unfold isTold at told
    constructor
    · show (e.asked request).inbox.any _ = true
      rw [inbox, List.any_append, told, Bool.true_or]
    · show m + queued (e.asked request).files (e.asked request).inbox ≤ rank
      rw [inbox, queued_append_of_told told, further.files, ← ahead.files]
      exact enough

/-- A run in a stop is still in it behind an event, or it has come nearer to its end. -/
theorem Ahead.after (ahead : e.Ahead files given ticket n m) (straight : ¬files.IsRecursive)
    (inside : e.isStopped = true) (event : Event) :
    (e.after event).HasNeared files given ticket n ∨
      ∃ m', (e.after event).Ahead files given ticket n m' ∧ (e.after event).isStopped = true := by
  cases event with
  | step =>
    cases stepped : e.step with
    | none =>
      have rests : e.after .step = e := by
        rw [Engine.after, stepped]
        rfl
      rw [rests]
      exact .inr ⟨m, ahead, inside⟩
    | some f =>
      rw [after_of_step stepped]
      cases ahead.step straight stepped with
      | concluded concluded left queue => exact .inl (.inl concluded)
      | nearer ahead lower queue => exact .inl (.inr ⟨_, lower, _, ahead⟩)
      | served further inside still told lower => exact .inr ⟨_, further, still⟩
  | ask request =>
    obtain ⟨further, still, _⟩ := ahead.asked request
    exact .inr ⟨m, further, still.trans inside⟩

section Rows

variable {events : Nat → Event}

/-- A run in a stop is still in it behind any number of events, or it has come nearer to its end. -/
theorem stays_or_nears (straight : ¬files.IsRecursive) {k : Nat}
    (ahead : (e.runUpTo events k).Ahead files given ticket n m)
    (inside : (e.runUpTo events k).isStopped = true) {l : Nat} (further : k ≤ l) :
    (∃ j ≥ k, (e.runUpTo events j).HasNeared files given ticket n) ∨
      ∃ m', (e.runUpTo events l).Ahead files given ticket n m' ∧
        (e.runUpTo events l).isStopped = true := by
  induction l, further using Nat.le_induction with
  | base => exact .inr ⟨m, ahead, inside⟩
  | succ l further ih =>
    rcases ih with neared | ⟨m', ahead, inside⟩
    · exact .inl neared
    · rcases ahead.after straight inside (events l) with neared | still
      · exact .inl ⟨l + 1, by omega, neared⟩
      · exact .inr still

/-- **A run comes nearer to its end** when the engine is tended. -/
theorem leadsTo_hasNeared (straight : ¬files.IsRecursive) (tended : e.Tended events) :
    LeadsTo e events (fun e => ∃ m, e.Ahead files given ticket n m)
      (HasNeared files given ticket n) := by
  have goesOn (rank : Nat) := leadsTo_of_rank (e := e) tended.steps
    (fun rank e event (here : e.GoesOn files given ticket n rank) => here.after straight event) rank
  rintro k ⟨m, ahead⟩
  by_cases inside : (e.runUpTo events k).isStopped = true
  · obtain ⟨l, further, free⟩ := tended.verbs k inside
    rcases stays_or_nears straight ahead inside further with neared | ⟨m', ahead, inside⟩
    · exact neared
    · rcases free with free | ⟨verb, sent⟩
      · rw [free] at inside
        cases inside
      · -- The verb is in the inbox now, behind so many commands.
        have next : e.runUpTo events (l + 1) = (e.runUpTo events l).asked (.resume verb) := by
          rw [runUpTo, sent]
          rfl
        obtain ⟨ahead, _⟩ := ahead.asked (.resume verb)
        obtain ⟨j, later, neared⟩ := goesOn (m' + (e.runUpTo events (l + 1)).queue) (l + 1)
          ⟨m', next ▸ ahead, fun _ => ⟨next ▸ isTold_of_resume inside verb, le_rfl⟩⟩
        exact ⟨j, by omega, neared⟩
  · exact goesOn 0 k ⟨m, ahead, fun stopped => absurd stopped inside⟩

/-- **A run is answered**, sooner or later, when the engine is tended. -/
theorem leadsTo_concluded (straight : ¬files.IsRecursive) (tended : e.Tended events) :
    LeadsTo e events (fun e => ∃ m, e.Ahead files given ticket n m) (Concluded given ticket) := by
  induction n using Nat.strong_induction_on with
  | _ n ih =>
    intro k ahead
    obtain ⟨l, further, concluded | ⟨less, lower, nearer⟩⟩ :=
      leadsTo_hasNeared straight tended k ahead
    · exact ⟨l, further, concluded⟩
    · obtain ⟨j, later, concluded⟩ := ih less lower l nearer
      exact ⟨j, by omega, concluded⟩

end Rows

/-! ### Steps and calls on the way -/

/-- How deep script files have called each other, in a run and in a command in its stop. -/
def Activity.callDepths : Activity → List Nat
  | idle _ => []
  | running _ x => [x.callers.length]
  | nested _ waiting _ x => [waiting.callers.length, x.callers.length]

/-- The steps that an engine takes in an event. -/
def takes (e : Engine) : Event → Nat
  | .step => if e.step.isSome then 1 else 0
  | .ask _ => 0

/-- The steps that an event brings: those of a run that is accepted, with the one to its answer, or of a
command that is, with the one into it as well. -/
def brings (e : Engine) : Event → Nat
  | .ask (.invoke pipeline) =>
    match e.invoke pipeline with
    | .ok _ => pipelineSteps e.files pipeline + 1
    | .error _ => 0
  | .ask (.command pipeline) =>
    match e.command pipeline with
    | .ok _ => pipelineSteps e.files pipeline + 2
    | .error _ => 0
  | _ => 0

/-- What is counted in each of some events, altogether. -/
def along (e : Engine) (count : Engine → Event → Nat) : List Event → Nat
  | [] => 0
  | event :: rest => count e event + (e.after event).along count rest

/-- An engine with so many steps ahead at most, whatever it is doing. -/
inductive Bounded (files : Files) (e : Engine) (k : Nat) : Prop
  | idle (s : Interpreter) (activity : e.activity = .idle s) (same : e.files = files)
      (enough : e.queue ≤ k) : Bounded files e k
  | busy {ticket n m : Nat} (ahead : e.Ahead files [] ticket n m) (enough : n + m + e.queue ≤ k) :
      Bounded files e k

/-- A run that is begun has the steps of its pipeline ahead. -/
theorem ahead_of_invoke (straight : ¬e.files.IsRecursive) {pipeline : Pipeline}
    (invoked : e.invoke pipeline = .ok (ticket, f)) :
    f.Ahead e.files f.results ticket (pipelineSteps e.files pipeline + 1) 0 := by
  unfold Engine.invoke at invoked
  split at invoked
  · cases invoked
    exact ⟨.running (.ofRun (evalPipeline_within straight pipeline _)), List.prefix_rfl, rfl⟩
  · cases invoked

theorem Ahead.since {earlier : List (Nat × Outcome)} (ahead : e.Ahead files given ticket n m)
    (before : earlier <+: given) : e.Ahead files earlier ticket n m :=
  ⟨ahead.activity, before.trans ahead.results, ahead.files⟩

/-- An engine that is idle begins a run, or stays idle. -/
theorem begins_or_idles {s : Interpreter} (doing : e.activity = .idle s) (request : Ask) :
    (∃ pipeline ticket f, e.invoke pipeline = .ok (ticket, f) ∧ request = .invoke pipeline ∧
        e.asked request = f) ∨
      ∃ t, (e.asked request).activity = .idle t ∧ (e.asked request).files = e.files := by
  by_cases own : e.accepts (.ask request) = 0
  · right
    rcases asked_idle doing request own with ⟨same, _⟩ | ⟨enabled, rfl⟩
    · rw [same]
      exact ⟨s, doing, rfl⟩
    · refine ⟨{ e.state with stepping := enabled }, ?_, rfl⟩
      show e.activity.withState _ = _
      rw [doing]
      rfl
  · left
    cases request with
    | invoke pipeline =>
      refine ⟨pipeline, e.lastTicket + 1, e.asked (.invoke pipeline), ?_, rfl, rfl⟩
      simp [asked, ask, Engine.invoke, doing, Except.map]
    | _ => exact absurd rfl own

/-- A request brings no more than is counted for it. -/
theorem queue_asked (e : Engine) (request : Ask) :
    (e.asked request).queue ≤ e.queue + e.brings (.ask request) := by
  generalize same : e.asked request = f
  cases asksTo_of_asked same with
  | invoke invoked =>
    obtain ⟨inbox, sameFiles⟩ := invoke_leaves invoked
    simp [brings, invoked, queue, inbox, sameFiles]
  | command sent =>
    obtain ⟨_, inbox, sameFiles⟩ := command_activity sent
    simp only [brings, sent, queue, inbox, sameFiles]
    exact queued_append e.inbox _
  | resume resumed =>
    obtain ⟨_, inbox, sameFiles⟩ := resume_activity resumed
    simp only [brings, queue, inbox, sameFiles]
    exact queued_append e.inbox _
  | switch enabled => exact Nat.le_add_right _ _
  | same => exact Nat.le_add_right _ _

namespace Bounded

variable {k : Nat}

/-- A step uses up one of the steps ahead. -/
theorem step (bounded : e.Bounded files k) (straight : ¬files.IsRecursive)
    (stepped : e.step = some f) : ∃ l < k, f.Bounded files l := by
  cases bounded with
  | idle s activity same enough => cases (step_idle activity).symm.trans stepped
  | busy ahead enough =>
    cases ahead.step straight stepped with
    | concluded concluded left queue =>
      obtain ⟨s, _, _, activity, _⟩ := concluded
      exact ⟨f.queue, by omega, .idle s activity ((step_leaves stepped).1.trans ahead.files) le_rfl⟩
    | nearer further lower queue => exact ⟨_, by omega, .busy further le_rfl⟩
    | served further inside still told lower => exact ⟨_, by omega, .busy further le_rfl⟩

/-- A request adds what it brings. -/
theorem asked (bounded : e.Bounded files k) (straight : ¬files.IsRecursive) (request : Ask) :
    (e.asked request).Bounded files (k + e.brings (.ask request)) := by
  have queue := e.queue_asked request
  cases bounded with
  | idle s activity same enough =>
    subst same
    rcases begins_or_idles activity request with
      ⟨pipeline, ticket, f, invoked, rfl, begun⟩ | ⟨t, idle, same⟩
    · have ahead := (ahead_of_invoke straight invoked).since List.nil_prefix
      obtain ⟨inbox, sameFiles⟩ := invoke_leaves invoked
      simp only [brings, invoked, begun]
      refine .busy ahead ?_
      unfold Engine.queue at enough ⊢
      rw [inbox, sameFiles]
      omega
    · exact .idle t idle same (by omega)
  | busy ahead enough =>
    obtain ⟨further, _⟩ := ahead.asked request
    exact .busy further (by omega)

theorem after (bounded : e.Bounded files k) (straight : ¬files.IsRecursive) (event : Event) :
    ∃ l, (e.after event).Bounded files l ∧ e.takes event + l ≤ k + e.brings event := by
  cases event with
  | ask request => exact ⟨_, bounded.asked straight request, by simp [takes]⟩
  | step =>
    unfold Engine.after takes
    cases stepped : e.step with
    | none => exact ⟨k, bounded, by simp⟩
    | some f =>
      obtain ⟨l, lower, further⟩ := bounded.step straight stepped
      refine ⟨l, further, ?_⟩
      simp only [Option.isSome_some, if_true]
      omega

/-- **All steps that an engine takes have been brought**, and the rest of them is still ahead. -/
theorem run (bounded : e.Bounded files k) (straight : ¬files.IsRecursive) (events : List Event) :
    ∃ l, (e.run events).Bounded files l ∧ e.along takes events + l ≤ k + e.along brings events := by
  induction events generalizing e k with
  | nil => exact ⟨k, bounded, by simp [along]⟩
  | cons event rest ih =>
    obtain ⟨l, here, lower⟩ := bounded.after straight event
    obtain ⟨j, there, later⟩ := ih here
    refine ⟨j, there, ?_⟩
    unfold along
    omega

/-- Script files call each other no deeper than there are files. -/
theorem callDepths_le (bounded : e.Bounded files k) :
    ∀ depth ∈ e.activity.callDepths, depth ≤ files.count := by
  cases bounded with
  | idle s activity same enough =>
    rw [activity]
    nofun
  | busy ahead enough =>
    have activity := ahead.activity
    generalize e.activity = doing at activity
    cases activity with
    | running within => simpa [Activity.callDepths] using within.length_le
    | nested outer within abides =>
      simpa [Activity.callDepths] using ⟨(outer .fresh).length_le, within.length_le⟩

end Bounded

/-! ### Every run ends -/

/-- **Every run ends.** When no script file calls itself, directly or through others, and whatever state
the interpreter is in, a run that has been begun:

* never calls script files deeper than there are files, nor does any command in its stops;
* takes no more steps than those of its pipeline, and of what else is accepted meanwhile;
* is answered in the end, with an output or an error, when the engine is tended: it goes on taking steps,
  and there is a verb for every stop, behind as many commands as one likes. -/
theorem run_ends {e f : Engine} {pipeline : Pipeline} {ticket : Nat}
    (straight : ¬e.files.IsRecursive) (invoked : e.invoke pipeline = .ok (ticket, f)) :
    (∀ events, ∀ depth ∈ (f.run events).activity.callDepths, depth ≤ e.files.count) ∧
      (∀ events, f.along takes events ≤
        pipelineSteps e.files pipeline + 1 + f.queue + f.along brings events) ∧
      ∀ events, f.Tended events → ∃ k, (f.runUpTo events k).Concluded f.results ticket := by
  have ahead := ahead_of_invoke straight invoked
  have bounded := Bounded.busy (ahead.since List.nil_prefix) le_rfl
  refine ⟨fun events => ?_, fun events => ?_, fun events tended => ?_⟩
  · obtain ⟨l, further, _⟩ := bounded.run straight events
    exact further.callDepths_le
  · obtain ⟨l, _, steps⟩ := bounded.run straight events
    omega
  · obtain ⟨k, _, concluded⟩ := leadsTo_concluded straight tended 0 ⟨0, ahead⟩
    exact ⟨k, concluded⟩

/-- A file in the working directory that calls another one elsewhere, which stops. -/
def callingFiles : Files :=
  ⟨["home"], [(["home", "outer"], "/lib/inner".toUTF8), (["lib", "inner"], "Wait-Debugger".toUTF8)]⟩

theorem not_isRecursive_callingFiles : ¬callingFiles.IsRecursive := by
  apply Files.not_isRecursive_of_rank fun name => if name = "/lib/inner" then 0 else 1
  rintro caller callee ⟨text, read, occurs, unknown, _⟩
  obtain ⟨entry, member, content⟩ := Files.exists_entry read
  simp only [callingFiles, List.mem_cons, List.not_mem_nil, or_false] at member
  rcases member with rfl | rfl
  · obtain rfl : "/lib/inner" = text := Option.some.inj (Eq.trans (by decide +kernel) content)
    have names : Script.commands "/lib/inner" = ["/lib/inner"] := by decide +kernel
    obtain rfl : callee = "/lib/inner" := by simpa [names] using occurs
    -- The file of that name has another text.
    have other : caller ≠ "/lib/inner" := by
      rintro rfl
      have inner : callingFiles.readText "/lib/inner" = .ok "Wait-Debugger" := by decide +kernel
      simp [inner] at read
    simp [other]
  · obtain rfl : "Wait-Debugger" = text := Option.some.inj (Eq.trans (by decide +kernel) content)
    have names : Script.commands "Wait-Debugger" = ["Wait-Debugger"] := by decide +kernel
    obtain rfl : callee = "Wait-Debugger" := by simpa [names] using occurs
    have builtin : Builtin.ofName? "Wait-Debugger" = some .waitDebugger := by decide +kernel
    simp [builtin] at unknown

/-- A run that stops in a file called by another, every other event being a verb. -/
theorem run_ends_stopped : ∃ (f : Engine) (ticket : Nat),
    (fresh callingFiles none).invoke ⟨[.script "outer"]⟩ = .ok (ticket, f) ∧
      ¬callingFiles.IsRecursive ∧
      ∃ k, (f.runUpTo (fun k => if k % 2 = 0 then .step else .ask (.resume .resume)) k).Concluded
        f.results ticket := by
  have invoked := show (fresh callingFiles none).invoke ⟨[.script "outer"]⟩ = .ok (1, _) from rfl
  refine ⟨_, 1, invoked, not_isRecursive_callingFiles, ?_⟩
  obtain ⟨_, _, ends⟩ := run_ends not_isRecursive_callingFiles invoked
  apply ends
  constructor
  · exact fun k => ⟨2 * k, by omega, if_pos (by omega)⟩
  · exact fun k _ => ⟨2 * k + 1, by omega, .inr ⟨.resume, if_neg (by omega)⟩⟩

end ShellSession.Engine
