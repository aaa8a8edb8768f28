/-
**Commands leave the stopped frame alone.**

A command that is given into a stop is evaluated on the same interpreter that holds the stopped run.
Whatever it is, scripts and script files with stops and breakpoints of their own, texts that are no
scripts and failures included, it does not stop; it reports changes of breakpoints only; and the engine
is left in the same stop, with the same frame, the same callers and the same remains of the run. Step
mode is what requests make it meanwhile.

* `Framed`, `Rule.framing`: what an evaluation inside a stop leaves alone, and what it reports;
* `Engine.Attends`: an engine that attends to a command, from its being the next one to its answer;
* `Engine.Attends.after`: every event keeps that;
* `Engine.command_undisturbed`: **a command does not disturb the stopped run**.
-/

import ShellSession.Proofs.Engine.Commands
import ShellSession.Proofs.Engine.Events

namespace ShellSession.Engine

/-! ### What an evaluation inside a stop leaves alone -/

/-- A state that differs from an earlier one in variables, breakpoints and the place in the texts only;
what has been reported since then are changes of breakpoints. -/
structure Framed (s t : Interpreter) : Prop where
  nested : t.nested = s.nested
  stepping : t.stepping = s.stepping
  availability : t.availability = s.availability
  reports : ∃ updates : List Update, t.history.toList = s.history.toList ++ updates.map .breakpoint

namespace Framed

variable {s t u : Interpreter}

/-- A state with the same reports. -/
theorem of_eq (nested : t.nested = s.nested) (stepping : t.stepping = s.stepping)
    (availability : t.availability = s.availability) (history : t.history = s.history) :
    Framed s t :=
  ⟨nested, stepping, availability, [], by rw [history, List.map_nil, List.append_nil]⟩

theorem refl (s : Interpreter) : Framed s s :=
  of_eq rfl rfl rfl rfl

theorem trans (first : Framed s t) (second : Framed t u) : Framed s u := by
  obtain ⟨earlier, before⟩ := first.reports
  obtain ⟨later, behind⟩ := second.reports
  refine ⟨second.nested.trans first.nested, second.stepping.trans first.stepping,
    second.availability.trans first.availability, earlier ++ later, ?_⟩
  rw [behind, before, List.map_append, List.append_assoc]

/-- Breakpoints changed, and the change reported. -/
theorem setBreakpoints (s : Interpreter) (table : Breakpoints) (update : Update) :
    Framed s ({ s with breakpoints := table : Interpreter }.emit (.breakpoint update)) :=
  ⟨rfl, rfl, rfl, [update], Array.toList_push⟩

/-- Step mode switched in both states. -/
theorem switch (framed : Framed s t) (mode : Bool) :
    Framed { s with stepping := mode } { t with stepping := mode } :=
  ⟨framed.nested, rfl, framed.availability, framed.reports⟩

end Framed

/-- What an evaluation leaves alone between two points at which it can be held up. -/
def Rule.framing : Rule where
  change := Framed
  failure _ := True
  refl := Framed.refl
  trans := Framed.trans
  nested framed := framed.nested
  setVariable _ _ _ := .of_eq rfl rfl rfl rfl
  setFrame _ _ := .of_eq rfl rfl rfl rfl
  setBreakpoints := Framed.setBreakpoints
  parse _ _ := trivial
  runtime _ _ := trivial
  stopped := trivial

/-- A run inside a stop leaves the frame alone, and is held up neither by the debugger's look nor by a
stop. -/
theorem Run.Obeys.framed {run : Run (List Value)} {before : Interpreter}
    (obeyed : run.Obeys .framing before) (inside : before.nested ≠ 0) : Framed before run.state := by
  cases run with
  | done result s => exact obeyed.1
  | calling file text s back => exact obeyed.1
  | ready s go => exact absurd obeyed.1 inside
  | stopped stop s resume => exact absurd obeyed.1 inside

/-! ### An engine that attends to a command -/

variable {e f : Engine} {ticket asker : Nat} {waiting : Waiting} {pipeline : Pipeline}
  {s t : Interpreter}

/-- The run that waits in a stop, in a state. -/
def Waiting.held (waiting : Waiting) (s : Interpreter) : Execution :=
  ⟨.stopped waiting.stop s waiting.resume, waiting.callers⟩

/-- An engine that attends to a command, the run in the stop being as it was: the command is the next
that the engine takes; or it is being evaluated; or it is answered. -/
inductive Attends (ticket asker : Nat) (waiting : Waiting) (pipeline : Pipeline) (s : Interpreter)
    (e : Engine) : Prop
  | queued (rest : List StopRequest) (activity : e.activity = .running ticket (waiting.held s))
      (inbox : e.inbox = .command asker pipeline :: rest)
  | serving (x : Execution) (activity : e.activity = .nested ticket waiting asker x)
      (abides : x.Abides .framing 1) (framed : Framed (openNested s) x.state)
  | answered (t : Interpreter) (outcome : Outcome) (found : e.result? asker = some outcome)
      (activity : e.activity = .running ticket (waiting.held t)) (frame : t.frame = waiting.frame)
      (framed : Framed s t)

/-- The command that is the next is taken up. -/
theorem step_queued {rest : List StopRequest}
    (activity : e.activity = .running ticket (waiting.held s)) (frame : s.frame = waiting.frame)
    (inbox : e.inbox = .command asker pipeline :: rest) :
    e.step = some { e with
      inbox := rest, activity := .nested ticket waiting asker (e.undebugged pipeline) } := by
  have state : e.state = s := state_eq activity
  have taken := step_of_stepsTo (.take activity inbox)
  rw [frame] at taken
  unfold undebugged
  rw [state]
  exact taken

/-- A command that has ended is answered, and the run waits in its stop again. -/
theorem step_served {outcome : Outcome}
    (activity : e.activity = .nested ticket waiting asker ⟨.done outcome s, []⟩) :
    e.step = some (({ e with
      activity := .running ticket (waiting.held (closeNested waiting.frame s)) } : Engine).answer
        asker outcome) :=
  step_of_stepsTo (.answer activity)

/-- An evaluation inside a stop has ended, or has a step to take. -/
theorem Execution.Abides.moves {rule : Rule} {level : Nat} {x : Execution}
    (abides : x.Abides rule level) (inside : level ≠ 0) (files : Files) :
    (∃ outcome s, x = ⟨.done outcome s, []⟩) ∨ ∃ y, x.step files = some y := by
  refine (Execution.exists_step_or_done ?_).symm
  obtain ⟨run, callers⟩ := x
  cases run with
  | stopped stop s resume => exact absurd abides.run.1 inside
  | _ => rfl

/-- The command is owed an answer as long as it is evaluated. -/
theorem unanswered_serving {x : Execution} (ticketed : e.Ticketed)
    (activity : e.activity = .nested ticket waiting asker x) :
    asker ∈ e.owed ∧ e.result? asker = none := by
  have owed : asker ∈ e.owed := by
    rw [owed_eq activity]
    exact List.mem_append_right _ (List.mem_append_left _ (List.mem_singleton_self _))
  exact ⟨owed, ticketed.unanswered owed⟩

/-- The command is owed an answer as long as it waits its turn. -/
theorem unanswered_queued {rest : List StopRequest} (ticketed : e.Ticketed)
    (inbox : e.inbox = .command asker pipeline :: rest) : e.result? asker = none := by
  refine ticketed.unanswered (List.mem_append_right _ (List.mem_append_right _ ?_))
  rw [inbox]
  exact List.mem_cons_self

namespace Attends

/-- The engine does the run all the time. -/
theorem main (attends : e.Attends ticket asker waiting pipeline s) : e.main? = some ticket := by
  cases attends with
  | queued rest activity inbox => exact main?_eq activity
  | serving x activity abides framed => exact main?_eq activity
  | answered t outcome found activity frame framed => exact main?_eq activity

/-- **A step of the engine takes the command up, goes on with it, or answers it.** -/
theorem step (attends : e.Attends ticket asker waiting pipeline s) (level : s.nested = 0)
    (frame : s.frame = waiting.frame) (ticketed : e.Ticketed)
    (unanswered : e.result? asker = none) :
    ∃ f, e.step = some f ∧ f.Attends ticket asker waiting pipeline s := by
  cases attends with
  | queued rest activity inbox =>
    have state : e.state = s := congrArg Activity.state activity
    have above : (openNested s).nested = 1 := congrArg (· + 1) level
    have obeyed : Run.Obeys .framing (evalPipeline e.files pipeline (openNested s))
        (openNested s) := evalPipeline_obeys e.files pipeline (openNested s)
    refine ⟨_, step_queued activity frame inbox, .serving (e.undebugged pipeline) rfl ?_ ?_⟩
    · unfold undebugged
      rw [state]
      exact above ▸ Execution.abides_ofRun obeyed
    · unfold undebugged
      rw [state]
      exact obeyed.framed (by rw [above]; decide)
  | serving x activity abides framed =>
    rcases abides.moves (by decide) e.files with ⟨outcome, u, rfl⟩ | ⟨y, stepped⟩
    · have framed : Framed (openNested s) u := framed
      have found := ticketed.result?_answer (unanswered_serving ticketed activity).1 outcome
      refine ⟨_, step_served activity, .answered _ outcome found rfl rfl ⟨?_, framed.stepping,
        framed.availability, framed.reports⟩⟩
      show u.nested - 1 = s.nested
      rw [framed.nested]
      rfl
    · obtain ⟨further, _, inside, place, obeyed⟩ := Execution.step_abides abides stepped
      have later := obeyed.framed (by
        show x.state.nested ≠ 0
        rw [inside]
        decide)
      have moved : Framed x.state { x.state with frame := place } := .of_eq rfl rfl rfl rfl
      exact ⟨_, step_of_stepsTo (.further activity stepped), .serving y rfl further
        (framed.trans (moved.trans later))⟩
  | answered t outcome found activity frame framed => cases found.symm.trans unanswered

/-- **What is asked meanwhile** switches step mode, or waits for the command to be answered. -/
theorem asked (attends : e.Attends ticket asker waiting pipeline s) (request : Ask) :
    (e.asked request).Attends ticket asker waiting pipeline
      { s with stepping := request.mode?.getD s.stepping } := by
  obtain ⟨activity, ⟨more, inbox⟩, _, results⟩ := asked_busy attends.main request
  cases attends with
  | queued rest before first =>
    refine .queued (rest ++ more) ?_ (by rw [inbox, first]; rfl)
    rw [activity, before, Engine.state, before]
    rfl
  | serving x before abides framed =>
    have same : x.state.stepping = s.stepping := framed.stepping
    refine .serving (x.withState
      { x.state with stepping := request.mode?.getD s.stepping }) ?_ (abides.withState rfl) ?_
    · rw [activity, before, Engine.state, before, ← same]
      rfl
    · obtain ⟨run, callers⟩ := x
      cases run <;> exact framed.switch _
  | answered t outcome found before frame framed =>
    have same : t.stepping = s.stepping := framed.stepping
    refine .answered { t with stepping := request.mode?.getD s.stepping } outcome ?_ ?_ frame
      (framed.switch _)
    · unfold result?
      rw [results]
      exact found
    · rw [activity, before, Engine.state, before, ← same]
      rfl

/-- **Every event leaves the stopped run alone**, until the command is answered. -/
theorem after (attends : e.Attends ticket asker waiting pipeline s) (level : s.nested = 0)
    (frame : s.frame = waiting.frame) (ticketed : e.Ticketed) (unanswered : e.result? asker = none)
    (event : Event) : (e.after event).Attends ticket asker waiting pipeline
      { s with stepping := event.mode?.getD s.stepping } := by
  cases event with
  | ask request => exact attends.asked request
  | step =>
    obtain ⟨f, stepped, later⟩ := attends.step level frame ticketed unanswered
    unfold Engine.after
    rw [stepped]
    exact later

end Attends

/-! ### From the stop to the answer -/

/-- Events in a row that happen before a holder is answered; the last may bring the answer. -/
def Unanswered (asker : Nat) : Engine → List Event → Prop
  | _, [] => True
  | e, event :: rest => e.result? asker = none ∧ Unanswered asker (e.after event) rest

theorem Attends.run {events : List Event} (attends : e.Attends ticket asker waiting pipeline s)
    (level : s.nested = 0) (frame : s.frame = waiting.frame) (made : e.Made)
    (unanswered : Unanswered asker e events) :
    (e.run events).Attends ticket asker waiting pipeline
      { s with stepping := modeAfter s.stepping events } := by
  induction events generalizing e s with
  | nil => exact attends
  | cons event rest ih =>
    exact ih (attends.after level frame made.lawful.2 unanswered.1 event) level frame
      (made.run [event]) unanswered.2

/-- What a command makes of an engine in a stop, and when it has been answered, of the run in that
stop. -/
structure Undisturbed (ticket asker : Nat) (waiting : Waiting) (s : Interpreter) (stepping : Bool)
    (e : Engine) : Prop where
  stop : e.stop? = some waiting.stop
  availability : e.availability = .nested
  mode : e.state.stepping = stepping
  reports : ∃ updates : List Update,
    e.history.toList = s.history.toList ++ updates.map .breakpoint
  moves : e.result? asker = none → ∃ f, e.step = some f
  resumes : ∀ outcome, e.result? asker = some outcome → ∃ scope breakpoints,
    e.activity = .running ticket (waiting.held { s with
      scope := scope, breakpoints := breakpoints, stepping := stepping, history := e.history })

namespace Attends

/-- The stop stays. -/
theorem stop? (attends : e.Attends ticket asker waiting pipeline s) :
    e.stop? = some waiting.stop := by
  unfold Engine.stop?
  cases attends with
  | queued rest activity inbox =>
    rw [activity]
    rfl
  | serving x activity abides framed =>
    rw [activity]
    rfl
  | answered t outcome found activity frame framed =>
    rw [activity]
    rfl

/-- Step mode and availability stay, and changes of breakpoints are reported. -/
theorem state (attends : e.Attends ticket asker waiting pipeline s) :
    e.state.stepping = s.stepping ∧ e.state.availability = s.availability ∧
      ∃ updates : List Update, e.history.toList = s.history.toList ++ updates.map .breakpoint := by
  unfold history Engine.state
  cases attends with
  | queued rest activity inbox =>
    rw [activity]
    exact ⟨rfl, rfl, [], (List.append_nil _).symm⟩
  | serving x activity abides framed =>
    rw [activity]
    exact ⟨framed.stepping, framed.availability, framed.reports⟩
  | answered t outcome found activity frame framed =>
    rw [activity]
    exact ⟨framed.stepping, framed.availability, framed.reports⟩

/-- Once the command is answered, the run waits in its stop as before. -/
theorem resumes (attends : e.Attends ticket asker waiting pipeline s) (frame : s.frame = waiting.frame)
    (ticketed : e.Ticketed) {outcome : Outcome} (found : e.result? asker = some outcome) :
    ∃ scope breakpoints, e.activity = .running ticket (waiting.held { s with
      scope := scope, breakpoints := breakpoints, history := e.history }) := by
  cases attends with
  | queued rest activity inbox => cases (unanswered_queued ticketed inbox).symm.trans found
  | serving x activity abides framed =>
    cases (unanswered_serving ticketed activity).2.symm.trans found
  | answered t other given activity place framed =>
    refine ⟨t.scope, t.breakpoints, ?_⟩
    unfold history Engine.state
    rw [activity, frame, ← place, ← framed.nested, ← framed.stepping, ← framed.availability]
    rfl

end Attends

/-- The engine that attends to a command has not disturbed the run. -/
theorem Attends.undisturbed {stepping : Bool}
    (attends : e.Attends ticket asker waiting pipeline { s with stepping := stepping })
    (level : s.nested = 0) (frame : s.frame = waiting.frame)
    (available : s.availability = .nested) (ticketed : e.Ticketed) :
    e.Undisturbed ticket asker waiting s stepping := by
  obtain ⟨mode, same, reports⟩ := attends.state
  refine ⟨attends.stop?, same.trans available, mode, reports, fun unanswered => ?_,
    fun outcome found => attends.resumes frame ticketed found⟩
  obtain ⟨f, stepped, _⟩ := attends.step level frame ticketed unanswered
  exact ⟨f, stepped⟩

/-! ### Commands that come to an end -/

/-- An evaluation that comes to an end is answered, the run waiting in its stop in the state that the
evaluation has left: by induction on the evaluation. -/
theorem Execution.Ends.answers {files : Files} {x : Execution} {outcome : Outcome}
    (ends : x.Ends files outcome t) : ∀ e : Engine, e.files = files → e.Lawful → e.Ticketed →
      e.activity = .nested ticket waiting asker x → ∃ f, Steps e f ∧
        f.result? asker = some outcome ∧
        f.activity = .running ticket (waiting.held (closeNested waiting.frame t)) := by
  induction ends with
  | now outcome s =>
    intro e _ _ ticketed activity
    exact ⟨_, .step (step_served activity) (.rest _),
      ticketed.result?_answer (unanswered_serving ticketed activity).1 outcome, rfl⟩
  | step stepped _ ih =>
    intro e same lawful ticketed activity
    have own := step_of_stepsTo (.further activity (same ▸ stepped))
    obtain ⟨f, steps, answer⟩ := ih { e with activity := .nested ticket waiting asker _ }
      same (step_turn lawful own).1 (step_answers lawful ticketed own).1 rfl
    exact ⟨f, .step own steps, answer⟩

/-- **A command does not disturb the stopped run**, whatever it is: whatever is asked of the engine
meanwhile, it stays in the stop and open to commands, it does not come to wait, it reports nothing but
changes of breakpoints, and once it has answered the command it holds the same run in the same stop,
with the same frame and callers; only variables and breakpoints may be others. The command is answered
with what its evaluation comes to, the variables and breakpoints being those that the evaluation has
left. -/
theorem command_undisturbed {stop : Stop} {resume : Verb → Interpreter → Run (List Value)}
    {callers : List Caller} {rest : List StopRequest} (made : e.Made)
    (activity : e.activity = .running ticket ⟨.stopped stop s resume, callers⟩)
    (inbox : e.inbox = .command asker pipeline :: rest) :
    (∀ events, Unanswered asker e events →
      (e.run events).Undisturbed ticket asker ⟨stop, s.frame, resume, callers⟩ s
        (modeAfter s.stepping events)) ∧
    ∀ outcome t, (e.undebugged pipeline).Ends e.files outcome t → ∃ f, Steps e f ∧
      f.result? asker = some outcome ∧
      f.activity = .running ticket ⟨.stopped stop (closeNested s.frame t) resume, callers⟩ := by
  obtain ⟨lawful, ticketed⟩ := made.lawful
  have level : s.nested = 0 := by
    have kept := lawful.activity
    rw [activity] at kept
    exact kept.run.2.1
  have available := made.nested activity
  have frame : s.frame = Waiting.frame ⟨stop, s.frame, resume, callers⟩ := rfl
  have attends : e.Attends ticket asker ⟨stop, s.frame, resume, callers⟩ pipeline s :=
    .queued rest activity inbox
  refine ⟨fun events unanswered => ?_, fun outcome t ends => ?_⟩
  · exact (attends.run level frame made unanswered).undisturbed level frame available
      (made.run events).lawful.2
  · have taken := step_queued activity frame inbox
    obtain ⟨f, steps, answer⟩ := ends.answers
      { e with inbox := rest, activity := .nested ticket _ asker (e.undebugged pipeline) } rfl
      (step_turn lawful taken).1 (step_answers lawful ticketed taken).1 rfl
    exact ⟨f, .step taken steps, answer⟩

/-- An engine that waits in a stop and evaluates no command there holds a run. -/
theorem exists_stopped (inside : e.isStopped = true) (free : e.isServing = false) :
    ∃ ticket stop s resume callers,
      e.activity = .running ticket ⟨.stopped stop s resume, callers⟩ := by
  unfold isStopped stop? at inside
  unfold isServing at free
  cases activity : e.activity with
  | idle s =>
    rw [activity] at inside
    cases inside
  | nested ticket waiting asker x =>
    rw [activity] at free
    cases free
  | running ticket x =>
    rw [activity] at inside
    obtain ⟨run, callers⟩ := x
    cases run with
    | stopped stop s resume => exact ⟨ticket, stop, s, resume, callers, rfl⟩
    | _ => cases inside

/-- A command that asks for a stop, sets a breakpoint on the line to come, and fails. -/
def failingCommand : Pipeline :=
  .script "Wait-Debugger; Set-PSBreakpoint 2\n1 / 0"

/-- An engine in a stop that a script has asked for, in step mode. -/
def stoppedInStepMode : Engine :=
  (fresh .none none).run [.ask (.invoke (.script "Wait-Debugger\n$a = 1")), .step,
    .ask (.setStepping true)]

/-- A command that stops nowhere, sets a breakpoint and fails, with a verb sent before it is answered. -/
theorem command_undisturbed_failure :
    ∃ e ticket stop s resume callers, stoppedInStepMode.command failingCommand = .ok (2, e) ∧
      e.Made ∧ e.activity = .running ticket ⟨.stopped stop s resume, callers⟩ ∧
      e.inbox = [.command 2 failingCommand] ∧
      ((e.run [.step, .ask (.resume .stepOver), .step]).result? 2).isSome = true ∧
      (e.run [.step, .ask (.resume .stepOver), .step]).Undisturbed ticket 2
        ⟨stop, s.frame, resume, callers⟩ s s.stepping ∧
      ∃ outcome t f, Steps e f ∧ f.result? 2 = some outcome ∧
        f.activity = .running ticket ⟨.stopped stop (closeNested s.frame t) resume, callers⟩ := by
  have inside : stoppedInStepMode.isStopped = true := by decide +kernel
  have free : stoppedInStepMode.isServing = false := by decide +kernel
  have last : stoppedInStepMode.lastTicket = 1 := by decide +kernel
  have empty : stoppedInStepMode.inbox = [] := List.eq_nil_of_length_eq_zero (by decide +kernel)
  obtain ⟨e, sent⟩ : ∃ e, stoppedInStepMode.command failingCommand = .ok (2, e) := by
    unfold Engine.command
    rw [if_pos inside, last]
    exact ⟨_, rfl⟩
  have same : e = stoppedInStepMode.asked (.command failingCommand) := by
    simp only [asked, ask, sent, Except.map]
  obtain ⟨ticket, stop, s, resume, callers, held⟩ := exists_stopped inside free
  have before : stoppedInStepMode.Made := Made.run (.fresh .none none) _
  have made : e.Made := before.use (.command failingCommand 2 sent)
  have activity := (command_activity sent).1.trans held
  have inbox : e.inbox = [.command 2 failingCommand] := by
    rw [(command_activity sent).2.1, empty]
    rfl
  have unanswered : Unanswered 2 e [.step, .ask (.resume .stepOver), .step] := by
    rw [same]
    exact ⟨Option.isNone_iff_eq_none.mp (by decide +kernel),
      Option.isNone_iff_eq_none.mp (by decide +kernel),
      Option.isNone_iff_eq_none.mp (by decide +kernel), trivial⟩
  have ended : (exhaust (Execution.step e.files) 100
      (e.undebugged failingCommand)).end?.isSome = true := by
    rw [same]
    decide +kernel
  obtain ⟨⟨outcome, t⟩, ends⟩ := Option.isSome_iff_exists.mp ended
  obtain ⟨undisturbed, answered⟩ := command_undisturbed made activity inbox
  obtain ⟨f, steps, found, later⟩ := answered outcome t (Execution.ends_of_exhaust 100 ends)
  exact ⟨e, ticket, stop, s, resume, callers, sent, made, activity, inbox, by
    rw [same]
    decide +kernel, (undisturbed _ unanswered :), outcome, t, f, steps, found, later⟩

end ShellSession.Engine
