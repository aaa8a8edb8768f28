/-
**The stream of reports.**

The reports of an engine come in blocks, one for each run that it has accepted and in the order of the
runs. A block begins with the engine being busy, and ends with its being available and then idle. In
between there are changes of breakpoints, and stops, in any number and order; a stop is reported from
its being entered up to its being left, and in between there are changes of breakpoints only. How a
run ends makes no difference to that. The availability of the engine is the one reported last.

* `Happening`, `Stream`: the blocks, and the reports up to a moment;
* `Engine.moment`: what an engine is doing, as far as its reports tell;
* `Rule.telling`: what an evaluation reports by itself keeps the stream;
* `Engine.AsksTo`, `Engine.asksTo_of_asked`: what a request comes to;
* `Engine.step_telling`, `Engine.asked_telling`: a step and a request keep the stream;
* `Engine.run_tells`: **the stream of reports is well formed and agrees with the engine**.
-/

import ShellSession.Proofs.Engine.Rule
import ShellSession.Proofs.Engine.Usage

namespace ShellSession

/-! ### Blocks of reports -/

/-- What a run reports between its beginning and its end: a breakpoint is changed, or a stop is entered
and left, breakpoints being changed in between. -/
inductive Happening where
  | update (change : Update)
  | stop (place : Stop) (updates : List Update)

/-- The reports of a stop that has not been left. -/
def stopReports (stop : Stop) (updates : List Update) : List Notice :=
  [.availability .nested, .stopped stop] ++ updates.map .breakpoint

/-- The reports of what happens in a run. -/
def Happening.reports : Happening → List Notice
  | update change => [.breakpoint change]
  | stop place updates => stopReports place updates ++ [.availability .busy]

/-- The reports of a run up to some point outside stops. -/
def openBlock (happened : List Happening) : List Notice :=
  [.availability .busy] ++ happened.flatMap Happening.reports

/-- The reports of a run that has come to an end. -/
def block (happened : List Happening) : List Notice :=
  openBlock happened ++ [.availability .available, .idle]

/-- What an engine is doing, as far as its reports tell. -/
inductive Moment where
  | idle
  | running
  | stopped (stop : Stop)

/-- The availability of an engine at a moment. -/
def Moment.availability : Moment → Availability
  | idle => .available
  | running => .busy
  | stopped _ => .nested

/-- The stop at a moment. -/
def Moment.stop? : Moment → Option Stop
  | stopped stop => some stop
  | _ => none

theorem Moment.availability_nested_iff (moment : Moment) :
    moment.availability = .nested ↔ moment.stop?.isSome = true := by
  cases moment <;> simp [availability, stop?]

theorem Moment.availability_available_iff (moment : Moment) :
    moment.availability = .available ↔ moment = .idle := by
  cases moment <;> simp [availability]

/-- The reports of an engine up to a moment, when it has accepted so many runs: a block for each run that
has come to an end, and what the one under way has reported. -/
inductive Stream : Nat → Moment → List Notice → Prop
  | idle (ended : List (List Happening)) : Stream ended.length .idle (ended.flatMap block)
  | running (ended : List (List Happening)) (happened : List Happening) :
      Stream (ended.length + 1) .running (ended.flatMap block ++ openBlock happened)
  | stopped (ended : List (List Happening)) (happened : List Happening) (stop : Stop)
      (updates : List Update) : Stream (ended.length + 1) (.stopped stop)
        (ended.flatMap block ++ openBlock happened ++ stopReports stop updates)

/-- The availability of a report, if it is one of availability. -/
def Notice.availability? : Notice → Option Availability
  | availability next => some next
  | _ => none

/-- The availability reported last, engines being available at first. -/
def lastAvailability (reports : List Notice) : Availability :=
  (reports.filterMap Notice.availability?).getLast?.getD .available

namespace Stream

variable {count : Nat} {moment : Moment} {stop : Stop} {past : List Notice}

/-- A run begins. -/
theorem begin (stream : Stream count .idle past) :
    Stream (count + 1) .running (past ++ [.availability .busy]) := by
  cases stream with
  | idle ended => exact .running ended []

/-- A breakpoint is changed. -/
theorem update (stream : Stream count moment past) (active : moment ≠ .idle) (update : Update) :
    Stream count moment (past ++ [.breakpoint update]) := by
  cases stream with
  | idle ended => exact absurd rfl active
  | running ended happened =>
    have longer := Stream.running ended (happened ++ [.update update])
    simpa only [openBlock, List.flatMap_append, List.flatMap_singleton, Happening.reports,
      List.append_assoc] using longer
  | stopped ended happened stop updates =>
    have longer := Stream.stopped ended happened stop (updates ++ [update])
    simpa only [stopReports, List.map_append, List.map_cons, List.map_nil, List.append_assoc]
      using longer

/-- A stop is entered. -/
theorem enter (stream : Stream count .running past) (stop : Stop) :
    Stream count (.stopped stop) (past ++ [.availability .nested, .stopped stop]) := by
  cases stream with
  | running ended happened =>
    have longer := Stream.stopped ended happened stop []
    simpa only [stopReports, List.map_nil, List.append_nil, List.append_assoc] using longer

/-- A stop is left. -/
theorem leave (stream : Stream count (.stopped stop) past) :
    Stream count .running (past ++ [.availability .busy]) := by
  cases stream with
  | stopped ended happened stop updates =>
    have longer := Stream.running ended (happened ++ [.stop stop updates])
    simpa only [openBlock, List.flatMap_append, List.flatMap_singleton, Happening.reports,
      List.append_assoc] using longer

/-- A run comes to an end. -/
theorem finish (stream : Stream count .running past) :
    Stream count .idle (past ++ [.availability .available, .idle]) := by
  cases stream with
  | running ended happened =>
    have longer := Stream.idle (ended ++ [happened])
    simpa only [block, List.flatMap_append, List.flatMap_singleton, List.length_append,
      List.length_singleton, List.append_assoc] using longer

end Stream

theorem lastAvailability_availability (past : List Notice) (next : Availability) :
    lastAvailability (past ++ [.availability next]) = next := by
  unfold lastAvailability
  rw [List.filterMap_append]
  show (past.filterMap Notice.availability? ++ [next]).getLast?.getD .available = next
  rw [List.getLast?_concat]
  rfl

theorem lastAvailability_other (past : List Notice) {report : Notice}
    (other : report.availability? = none) :
    lastAvailability (past ++ [report]) = lastAvailability past := by
  unfold lastAvailability
  rw [List.filterMap_append, List.filterMap_cons_none other, List.filterMap_nil, List.append_nil]

/-- A change of availability with another report behind it. -/
theorem lastAvailability_pair (past : List Notice) (next : Availability) {report : Notice}
    (other : report.availability? = none) :
    lastAvailability (past ++ [.availability next, report]) = next := by
  rw [List.append_cons, lastAvailability_other _ other, lastAvailability_availability]

namespace Engine

/-! ### What the interpreter has told -/

/-- A state whose reports are the stream up to a moment and begin with those made before, and whose
availability is that of the moment and the one reported last. -/
structure Told (past : List Notice) (count : Nat) (moment : Moment) (s : Interpreter) : Prop where
  grows : past <+: s.history.toList
  stream : Stream count moment s.history.toList
  availability : s.availability = moment.availability
  last : lastAvailability s.history.toList = s.availability

namespace Told

variable {past : List Notice} {count : Nat} {moment : Moment} {stop : Stop} {s : Interpreter}

/-- A state with more reports. -/
theorem extend (told : Told past count moment s) {t : Interpreter} {more : List Notice}
    {total : Nat} {next : Moment} (history : t.history.toList = s.history.toList ++ more)
    (stream : Stream total next (s.history.toList ++ more))
    (availability : t.availability = next.availability)
    (last : lastAvailability (s.history.toList ++ more) = t.availability) :
    Told past total next t := by
  rw [← history] at stream last
  exact ⟨told.grows.trans ⟨more, history.symm⟩, stream, availability, last⟩

/-- A state that differs in nothing that is reported. -/
theorem of_eq (told : Told past count moment s) {t : Interpreter} (history : t.history = s.history)
    (availability : t.availability = s.availability) : Told past count moment t where
  grows := history ▸ told.grows
  stream := history ▸ told.stream
  availability := availability.trans told.availability
  last := by rw [history, told.last, availability]

/-- A breakpoint is changed. -/
theorem update (told : Told past count moment s) (active : moment ≠ .idle) (update : Update) :
    Told past count moment (s.emit (.breakpoint update)) :=
  told.extend Array.toList_push (told.stream.update active update) told.availability
    ((lastAvailability_other _ rfl).trans told.last)

/-- A change of availability is reported at any moment that has another one. -/
theorem setAvailability (told : Told past count moment s) (next : Availability)
    (changes : moment.availability ≠ next) : s.setAvailability next =
      { s with availability := next, history := s.history.push (.availability next) } :=
  if_neg (told.availability ▸ changes)

/-- A run begins. -/
theorem begin (told : Told past count .idle s) :
    Told past (count + 1) .running (s.setAvailability .busy) := by
  rw [told.setAvailability .busy nofun]
  exact told.extend Array.toList_push told.stream.begin rfl (lastAvailability_availability _ _)

/-- A stop is entered. -/
theorem enterStop (told : Told past count .running s) (stop : Stop) :
    Told past count (.stopped stop) (enterStop stop s) := by
  unfold Engine.enterStop
  rw [told.setAvailability .nested nofun]
  refine told.extend ?_ (told.stream.enter stop) rfl (lastAvailability_pair _ _ rfl)
  exact Array.toList_push.trans (by rw [Array.toList_push, List.append_assoc]; rfl)

/-- A stop is left. -/
theorem leaveStop (told : Told past count (.stopped stop) s) (verb : Verb) :
    Told past count .running (leaveStop verb s) := by
  unfold Engine.leaveStop
  rw [told.setAvailability .busy nofun]
  exact told.extend Array.toList_push told.stream.leave rfl (lastAvailability_availability _ _)

/-- A run comes to an end. -/
theorem closeRun (told : Told past count .running s) : Told past count .idle (closeRun s) := by
  unfold Engine.closeRun
  rw [told.setAvailability .available nofun]
  refine told.extend ?_ told.stream.finish rfl (lastAvailability_pair _ _ rfl)
  exact Array.toList_push.trans (by rw [Array.toList_push, List.append_assoc]; rfl)

end Told

/-- What an evaluation reports by itself are changes of breakpoints. -/
def Rule.telling : Rule where
  change s t := t.nested = s.nested ∧
    ∀ {past count} {moment : Moment}, moment ≠ .idle → Told past count moment s →
      Told past count moment t
  failure _ := True
  refl _ := ⟨rfl, fun _ told => told⟩
  trans first second :=
    ⟨second.1.trans first.1, fun active told => second.2 active (first.2 active told)⟩
  nested change := change.1
  setVariable _ _ _ := ⟨rfl, fun _ told => told.of_eq rfl rfl⟩
  setFrame _ _ := ⟨rfl, fun _ told => told.of_eq rfl rfl⟩
  setBreakpoints s table update := ⟨rfl, fun active told =>
    (told.of_eq (t := { s with breakpoints := table }) rfl rfl).update active update⟩
  parse _ _ := trivial
  runtime _ _ := trivial
  stopped := trivial

variable {α : Type} {past : List Notice} {count : Nat} {stop : Stop} {before : Interpreter}

/-- The moment at which a run outside nested commands is suspended. -/
def Run.moment (run : Run α) : Moment :=
  match run.stop? with
  | some stop => .stopped stop
  | none => .running

/-- **A run keeps the stream**, and tells of the stop that it waits in. -/
theorem Run.Obeys.told {run : Run α} (obeyed : run.Obeys .telling before)
    (told : Told past count .running before) : Told past count run.moment run.state := by
  cases run with
  | done result s => exact obeyed.1.2 nofun told
  | ready s go => exact obeyed.2.1.2 nofun told
  | stopped stop s resume =>
    obtain ⟨_, ⟨reached, change, rfl⟩, _⟩ := obeyed
    have here : Told past count .running reached := change.2 nofun told
    exact here.enterStop stop
  | calling file text s back => exact obeyed.1.2 nofun told

/-- **A run of a command inside a stop keeps the stream**, and does not leave the stop. -/
theorem Run.Obeys.told_nested {run : Run α} (obeyed : run.Obeys .telling before)
    (inside : before.nested ≠ 0) (told : Told past count (.stopped stop) before) :
    Told past count (.stopped stop) run.state := by
  cases run with
  | done result s => exact obeyed.1.2 nofun told
  | ready s go => exact absurd obeyed.1 inside
  | stopped stop s resume => exact absurd obeyed.1 inside
  | calling file text s back => exact obeyed.1.2 nofun told

/-! ### Engines -/

/-- The moment of an activity. A command inside a stop is not told from the stop. -/
def Activity.moment : Activity → Moment
  | idle _ => .idle
  | running _ execution => execution.run.moment
  | nested _ waiting _ _ => .stopped waiting.stop

/-- The moment that an engine is at. -/
def moment (e : Engine) : Moment :=
  e.activity.moment

/-- An execution waiting in a stop that goes on keeping the stream. -/
structure Waiting.Telling (waiting : Waiting) : Prop where
  resume : ∀ verb t, t.nested = 0 → (waiting.resume verb t).Obeys .telling (leaveStop verb t)
  callers : ∀ caller ∈ waiting.callers, caller.Abides .telling 0

/-- An activity that goes on keeping the stream. -/
def Activity.Telling : Activity → Prop
  | idle s => s.nested = 0
  | running _ x => x.Abides .telling 0
  | nested _ waiting _ x => waiting.Telling ∧ x.Abides .telling 1

/-- An engine that has kept the stream and goes on keeping it, having accepted so many runs and having
made some of its reports before. -/
structure Telling (past : List Notice) (count : Nat) (e : Engine) : Prop where
  activity : e.activity.Telling
  told : Told past count e.activity.moment e.activity.state

section

variable {e f : Engine} {ticket : Nat}

/-- An engine that goes on with a run outside nested commands. -/
theorem Telling.of_running {run : Run (List Value)} {callers : List Caller}
    (obeyed : run.Obeys .telling before) (level : before.nested = 0)
    (rest : ∀ caller ∈ callers, caller.Abides .telling 0) (told : Told past count .running before)
    (activity : f.activity = .running ticket ⟨run, callers⟩) : f.Telling past count := by
  refine ⟨?_, ?_⟩ <;> rw [activity]
  · exact ⟨level ▸ obeyed.abides, rest⟩
  · exact obeyed.told told

/-- **A step of the engine keeps the stream.** -/
theorem step_telling (telling : e.Telling past count) (stepped : e.step = some f) :
    f.Telling past count := by
  obtain ⟨kept, told⟩ := telling
  cases stepsTo_of_step stepped with
  | @run _ x _ activity taken =>
    rw [activity] at kept told
    obtain ⟨abides, free, level, frame, obeyed⟩ := Execution.step_abides kept taken
    have running : Told past count .running x.state := by
      have before : x.run.moment = .running := by
        unfold Run.moment
        rw [show x.run.stop? = none from free]
      exact before ▸ told
    exact .of_running obeyed level abides.callers (running.of_eq rfl rfl) rfl
  | @finish _ _ s activity =>
    rw [activity] at kept told
    exact ⟨(nested_setAvailability s .available).trans kept.run.1, told.closeRun⟩
  | @take _ _ s _ _ _ pipeline _ activity inbox =>
    rw [activity] at kept told
    have obeyed : Run.Obeys .telling (evalPipeline e.files pipeline (openNested s)) (openNested s) :=
      evalPipeline_obeys e.files pipeline (openNested s)
    have above : (openNested s).nested = 1 := congrArg (· + 1) kept.run.2.1
    refine ⟨⟨⟨kept.run.2.2, kept.callers⟩, above ▸ Execution.abides_ofRun obeyed⟩, ?_⟩
    exact obeyed.told_nested (by rw [above]; decide) (told.of_eq rfl rfl)
  | @leave _ _ s _ _ verb _ activity inbox =>
    rw [activity] at kept told
    have level : s.nested = 0 := kept.run.2.1
    exact .of_running (kept.run.2.2 verb s level) ((nested_setAvailability s .busy).trans level)
      kept.callers (told.leaveStop verb) rfl
  | @further _ _ _ x _ activity taken =>
    rw [activity] at kept told
    obtain ⟨abides, _, level, frame, obeyed⟩ := Execution.step_abides kept.2 taken
    refine ⟨⟨kept.1, abides⟩, obeyed.told_nested ?_ (told.of_eq rfl rfl)⟩
    show x.state.nested ≠ 0
    rw [level]
    decide
  | @answer _ _ _ _ s activity =>
    rw [activity] at kept told
    have level : s.nested = 1 := kept.2.run.1
    refine ⟨⟨⟨rfl, ?_, kept.1.resume⟩, kept.1.callers⟩, told.of_eq rfl rfl⟩
    show s.nested - 1 = 0
    rw [level]

/-- **A run that is accepted begins a block.** -/
theorem invoke_telling {pipeline : Pipeline} (telling : e.Telling past count)
    (invoked : e.invoke pipeline = .ok (ticket, f)) : f.Telling past (count + 1) := by
  obtain ⟨kept, told⟩ := telling
  unfold invoke at invoked
  split at invoked
  · rename_i s activity
    cases invoked
    rw [activity] at kept told
    have fresh : Told past count .idle { s with frame := .start } := told.of_eq rfl rfl
    refine .of_running (evalPipeline_obeys e.files pipeline _) ?_ ?_ fresh.begin rfl
    · exact (nested_setAvailability _ .busy).trans kept
    · exact nofun
  · cases invoked

/-- What is sent into a stop leaves the stream as it is. -/
theorem Telling.of_activity (telling : e.Telling past count) (same : f.activity = e.activity) :
    f.Telling past count := by
  obtain ⟨kept, told⟩ := telling
  exact ⟨same ▸ kept, same ▸ told⟩

/-- **Step mode is switched without a report.** -/
theorem setStepping_telling (telling : e.Telling past count) (enabled : Bool) :
    (e.setStepping enabled).Telling past count := by
  obtain ⟨kept, told⟩ := telling
  obtain ⟨files, release, activity, inbox, lastTicket, results⟩ := e
  cases activity with
  | idle s => exact ⟨kept, told.of_eq rfl rfl⟩
  | running ticket x =>
    refine ⟨Execution.Abides.withState kept rfl, ?_⟩
    obtain ⟨run, callers⟩ := x
    cases run <;> exact told.of_eq rfl rfl
  | nested ticket waiting asker x =>
    refine ⟨⟨kept.1, kept.2.withState rfl⟩, ?_⟩
    obtain ⟨run, callers⟩ := x
    cases run <;> exact told.of_eq rfl rfl

end

/-! ### Whatever happens to an engine -/

/-- What is asked of an engine by its callers. -/
inductive Ask where
  | invoke (pipeline : Pipeline)
  | command (pipeline : Pipeline)
  | resume (verb : Verb)
  | setStepping (enabled : Bool)
  | valueOf (name : String)
  | release

/-- Whether only an idle engine grants a request. -/
def Ask.isExclusive : Ask → Bool
  | invoke _ => true
  | valueOf _ => true
  | release => true
  | _ => false

/-- The engine behind a request, if it is granted. -/
def ask (e : Engine) : Ask → Except EngineFailure Engine
  | .invoke pipeline => (e.invoke pipeline).map Prod.snd
  | .command pipeline => (e.command pipeline).map Prod.snd
  | .resume verb => e.resume verb
  | .setStepping enabled => .ok (e.setStepping enabled)
  | .valueOf name => (e.askVariable name).map fun _ => e
  | .release => e.askRelease.map fun _ => e

/-- The engine behind a request, granted or not. -/
def asked (e : Engine) (request : Ask) : Engine :=
  match e.ask request with
  | .ok f => f
  | .error _ => e

/-- What happens to an engine: it takes a step of its own, if it has one to take, or something is asked
of it. -/
inductive Event where
  | step
  | ask (request : Ask)

/-- The engine behind an event. -/
def after (e : Engine) : Event → Engine
  | .step => e.step.getD e
  | .ask request => e.asked request

/-- The engine behind events, in their order. -/
def run (e : Engine) (events : List Event) : Engine :=
  events.foldl after e

/-- The runs that an engine accepts in an event. -/
def accepts (e : Engine) : Event → Nat
  | .ask (.invoke pipeline) =>
    match e.invoke pipeline with
    | .ok _ => 1
    | .error _ => 0
  | _ => 0

/-- The runs that an engine accepts in events. -/
def accepted (e : Engine) : List Event → Nat
  | [] => 0
  | event :: rest => e.accepts event + (e.after event).accepted rest

/-- What a request comes to: a run is begun; or a command or a verb is sent into the stop that the engine
is in; or step mode is switched; or else the engine stays as it is. -/
inductive AsksTo (e : Engine) : Ask → Engine → Prop
  | invoke {pipeline : Pipeline} {ticket : Nat} {f : Engine}
      (invoked : e.invoke pipeline = .ok (ticket, f)) : AsksTo e (.invoke pipeline) f
  | command {pipeline : Pipeline} {ticket : Nat} {f : Engine}
      (sent : e.command pipeline = .ok (ticket, f)) : AsksTo e (.command pipeline) f
  | resume {verb : Verb} {f : Engine} (resumed : e.resume verb = .ok f) : AsksTo e (.resume verb) f
  | switch (enabled : Bool) : AsksTo e (.setStepping enabled) (e.setStepping enabled)
  | same (request : Ask) (unbegun : e.accepts (.ask request) = 0) : AsksTo e request e

section

variable {e f : Engine}

/-- A request that is granted has been granted by what it is made of. -/
theorem granted_of_map {α : Type} {grant : Except EngineFailure α} {made : α → Engine}
    (granted : grant.map made = .ok f) : ∃ value, grant = .ok value ∧ made value = f := by
  cases grant with
  | error error => cases granted
  | ok value => exact ⟨value, rfl, Except.ok.inj granted⟩

theorem asksTo_of_ask {request : Ask} (granted : e.ask request = .ok f) : e.AsksTo request f := by
  cases request with
  | invoke pipeline =>
    obtain ⟨_, invoked, rfl⟩ := granted_of_map granted
    exact .invoke invoked
  | command pipeline =>
    obtain ⟨_, sent, rfl⟩ := granted_of_map granted
    exact .command sent
  | resume verb => exact .resume granted
  | setStepping enabled =>
    cases granted
    exact .switch enabled
  | valueOf name =>
    obtain ⟨_, _, rfl⟩ := granted_of_map granted
    exact .same _ rfl
  | release =>
    obtain ⟨_, _, rfl⟩ := granted_of_map granted
    exact .same _ rfl

/-- A request that is refused begins no run. -/
theorem accepts_of_refused {request : Ask} {error : EngineFailure}
    (refused : e.ask request = .error error) : e.accepts (.ask request) = 0 := by
  cases request with
  | invoke pipeline =>
    cases invoked : e.invoke pipeline with
    | error error => simp only [accepts, invoked]
    | ok pair => simp [ask, invoked, Except.map] at refused
  | _ => rfl

/-- **Every request comes to one of these.** -/
theorem asksTo_of_asked {request : Ask} (same : e.asked request = f) : e.AsksTo request f := by
  unfold asked at same
  cases granted : e.ask request with
  | ok g =>
    rw [granted] at same
    cases same
    exact asksTo_of_ask granted
  | error error =>
    rw [granted] at same
    cases same
    exact .same request (accepts_of_refused granted)

/-- A request keeps the stream; a run that is accepted begins a block. -/
theorem asked_telling (telling : e.Telling past count) (request : Ask) :
    (e.asked request).Telling past (count + e.accepts (.ask request)) := by
  generalize same : e.asked request = f
  cases asksTo_of_asked same with
  | @invoke pipeline ticket _ invoked =>
    have begun : e.accepts (.ask (.invoke pipeline)) = 1 := by simp only [accepts, invoked]
    rw [begun]
    exact invoke_telling telling invoked
  | command sent => exact telling.of_activity (command_activity sent).1
  | resume resumed => exact telling.of_activity (resume_activity resumed).1
  | switch enabled => exact setStepping_telling telling enabled
  | same _ unbegun =>
    rw [unbegun]
    exact telling

/-- **Whatever happens to an engine keeps the stream.** -/
theorem after_telling (telling : e.Telling past count) (event : Event) :
    (e.after event).Telling past (count + e.accepts event) := by
  cases event with
  | step =>
    unfold after
    cases stepped : e.step with
    | none => exact telling
    | some f => exact step_telling telling stepped
  | ask request => exact asked_telling telling request

theorem run_telling (telling : e.Telling past count) (events : List Event) :
    (e.run events).Telling past (count + e.accepted events) := by
  induction events generalizing e count with
  | nil => exact telling
  | cons event rest ih =>
    have later := ih (after_telling telling event)
    rw [Nat.add_assoc] at later
    exact later

theorem fresh_telling (files : Files) (release : Option Release) :
    (fresh files release).Telling [] 0 :=
  ⟨rfl, List.nil_prefix, .idle [], rfl, rfl⟩

/-! ### What the reports say -/

theorem stop?_moment (e : Engine) : e.moment.stop? = e.stop? := by
  unfold moment stop?
  cases e.activity with
  | idle s => rfl
  | running ticket x =>
    show x.run.moment.stop? = x.run.stop?
    unfold Run.moment
    cases x.run.stop? <;> rfl
  | nested ticket waiting asker x => rfl

/-- Only an engine that is doing nothing is at the moment of being idle. -/
theorem moment_idle_iff (e : Engine) : e.moment = .idle ↔ ∃ s, e.activity = .idle s := by
  unfold moment
  cases e.activity with
  | idle s => exact ⟨fun _ => ⟨s, rfl⟩, fun _ => rfl⟩
  | running ticket x =>
    refine ⟨fun same => absurd same ?_, nofun⟩
    show x.run.moment ≠ .idle
    unfold Run.moment
    cases x.run.stop? <;> nofun
  | nested ticket waiting asker x => exact ⟨nofun, nofun⟩

/-- A request is refused as busy when it is one for idle engines and the engine is not idle. -/
theorem ask_busy_iff (e : Engine) (request : Ask) :
    e.ask request = .error .busy ↔
      request.isExclusive = true ∧ ¬ ∃ s, e.activity = .idle s := by
  cases request with
  | invoke pipeline =>
    unfold ask invoke
    cases e.activity <;> simp [Except.map, Ask.isExclusive]
  | command pipeline =>
    by_cases inside : e.isStopped = true <;>
      simp [ask, command, inside, Except.map, Ask.isExclusive]
  | resume verb =>
    by_cases inside : e.isStopped = true <;> simp [ask, resume, inside, Ask.isExclusive]
  | setStepping enabled => simp [ask, Ask.isExclusive]
  | valueOf name =>
    unfold ask askVariable
    cases e.activity <;> simp [Except.map, Ask.isExclusive]
  | release =>
    unfold ask askRelease
    cases e.activity <;> cases e.release <;> simp [Except.map, Ask.isExclusive]

/-- An engine that has accepted so many runs, and whose reports are well formed and agree with what it is
doing. -/
structure Tells (count : Nat) (e : Engine) : Prop where
  stream : Stream count e.moment e.history.toList
  last : e.availability = lastAvailability e.history.toList
  nested : e.availability = .nested ↔ e.isStopped = true
  available : e.availability = .available ↔ ∃ s, e.activity = .idle s
  busy : ∀ request, e.ask request = .error .busy ↔
    request.isExclusive = true ∧ ¬ ∃ s, e.activity = .idle s
  refused : ∀ request, e.ask request = .error .busy → e.asked request = e

theorem Telling.tells (telling : e.Telling past count) : e.Tells count := by
  have available : e.availability = e.moment.availability := telling.told.availability
  refine ⟨telling.told.stream, telling.told.last.symm, ?_, ?_, e.ask_busy_iff, fun request busy => ?_⟩
  · rw [available, isStopped, ← stop?_moment]
    exact e.moment.availability_nested_iff
  · rw [available, ← moment_idle_iff]
    exact e.moment.availability_available_iff
  · unfold asked
    rw [busy]

/-- **The stream of reports is well formed and agrees with the engine**, whatever has happened to it, and
whatever happens next adds to the stream. -/
theorem run_tells (files : Files) (release : Option Release) (events later : List Event) :
    ((fresh files release).run events).Tells ((fresh files release).accepted events) ∧
      ((fresh files release).run events).history.toList <+:
        (((fresh files release).run events).run later).history.toList := by
  have telling := run_telling (fresh_telling files release) events
  rw [Nat.zero_add] at telling
  have since : ((fresh files release).run events).Telling
      ((fresh files release).run events).history.toList ((fresh files release).accepted events) :=
    ⟨telling.activity, List.prefix_rfl, telling.told.stream, telling.told.availability,
      telling.told.last⟩
  exact ⟨telling.tells, (run_telling since later).told.grows⟩

/-- A run that stops and fails, with a run refused and a breakpoint set meanwhile. -/
example : ((fresh .none none).run ([.ask (.invoke ⟨[.script "Wait-Debugger\n1 / 0"]⟩), .step,
    .ask (.invoke ⟨[]⟩), .ask (.command ⟨[.script "Set-PSBreakpoint 7"]⟩), .step, .step,
    .ask (.resume .resume)] ++ .replicate 5 .step)).history.toList =
    block [.stop ⟨.waitDebugger, 1⟩ [⟨.added, ⟨1, 7, true⟩⟩]] := by
  decide +kernel

end

end Engine

end ShellSession
