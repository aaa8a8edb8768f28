/-
**Debugging is transparent.**

A run of the engine is compared with the evaluation of its pipeline as a command inside a stop would
be evaluated, where nothing stops. Between the two the engine may look at breakpoints and step mode
and stop as often as it likes; verbs other than `stop` lead it on, step mode is switched, and
commands are evaluated inside the stops as long as each of them leaves the variables and the
breakpoints as it has found them. The outcome is the same, positions of failures included, and so
are the variables and the breakpoint table left behind.

* `Execution.Ends`: an evaluation without stops, to its end;
* `Debugged`, `Answered`: what becomes of a run that is debugged, and of one whose stops are answered
  by given verbs;
* `Shadowed.step`: a step of the engine keeps in step with the evaluation without stops, or stands
  still beside it;
* `debugging_transparent`: **debugging changes neither the outcome nor what is left behind**.
-/

import Mathlib.Data.List.Forall2
import ShellSession.Proofs.Engine.Mirror
import ShellSession.Proofs.Engine.Tickets

namespace ShellSession.Engine

/-! ### Evaluations that come to an end -/

/-- An execution comes to an end by itself, with an outcome and in a state. -/
inductive Execution.Ends (files : Files) : Execution → Outcome → Interpreter → Prop
  | now (outcome : Outcome) (s : Interpreter) : Ends files ⟨.done outcome s, []⟩ outcome s
  | step {x y : Execution} {outcome : Outcome} {s : Interpreter} (stepped : x.step files = some y)
      (ends : Ends files y outcome s) : Ends files x outcome s

namespace Execution

variable {files : Files} {x y : Execution} {outcome : Outcome} {s : Interpreter}

/-- An execution ends as it does behind its next step. -/
theorem ends_step (stepped : x.step files = some y) :
    x.Ends files outcome s ↔ y.Ends files outcome s := by
  refine ⟨fun ends => ?_, .step stepped⟩
  cases ends with
  | now => cases stepped
  | step other ends =>
    cases stepped.symm.trans other
    exact ends

/-- An execution that has ended has one outcome. -/
theorem Ends.unique {first : Outcome} {t : Interpreter} (ends : x.Ends files outcome s)
    (other : x.Ends files first t) : first = outcome ∧ t = s := by
  induction ends with
  | now outcome s =>
    cases other with
    | now => exact ⟨rfl, rfl⟩
    | step stepped => cases stepped
  | step stepped _ ih => exact ih ((ends_step stepped).mp other)

/-- An execution that has come to an end after some steps. -/
theorem ends_of_exhaust (limit : Nat) :
    ∀ {x : Execution}, (exhaust (step files) limit x).end? = some (outcome, s) →
      x.Ends files outcome s := by
  have now : ∀ {x : Execution}, x.end? = some (outcome, s) → x.Ends files outcome s := by
    rintro ⟨run, callers⟩ ended
    unfold end? at ended
    split at ended
    · rename_i run none
      cases run
      cases none
      cases ended
      exact .now outcome s
    · cases ended
  induction limit with
  | zero => exact now
  | succ limit ih =>
    intro x ended
    unfold exhaust at ended
    split at ended
    · exact now ended
    · rename_i y stepped
      exact .step stepped (ih ended)

end Execution

/-- The evaluation of a pipeline as a command inside a stop would be evaluated: nothing stops in it. -/
def undebugged (e : Engine) (pipeline : Pipeline) : Execution :=
  .ofRun (evalPipeline e.files pipeline (openNested e.state))

/-! ### Executions in step -/

/-- Callers that go on in step when the files that they have called come to an end. -/
structure Caller.Mirrors (caller plain : Caller) : Prop where
  file : plain.frame.file = caller.frame.file
  back : ∀ outcome u v, u.Agree v → (caller.back outcome u).Mirrors (plain.back outcome v)

/-- An execution that may stop, in step with one that does not. -/
structure Execution.Mirrors (x plain : Execution) : Prop where
  run : x.run.Mirrors plain.run
  callers : List.Forall₂ Caller.Mirrors x.callers plain.callers

/-- What a run that may stop does next depends on what its state is like. -/
theorem Run.Mirrors.withState {α : Type} {run plain : Run α} {s : Interpreter}
    (mirrors : run.Mirrors plain) (alike : run.state.Alike s) : (run.withState s).Mirrors plain := by
  cases run with
  | done result u =>
    obtain ⟨t, same, agree⟩ := mirrors
    exact ⟨t, same, agree.of_alike alike⟩
  | ready u go => exact fun v further => mirrors v (alike.trans further)
  | stopped stop u resume => exact fun verb v goes further => mirrors verb v goes (alike.trans further)
  | calling file text u back =>
    obtain ⟨t, more, same, agree, rest⟩ := mirrors
    exact ⟨t, more, same, agree.of_alike alike, rest⟩

namespace Execution

variable {files : Files} {x y plain : Execution}

theorem Mirrors.withState {s : Interpreter} (mirrors : x.Mirrors plain) (alike : x.state.Alike s) :
    (x.withState s).Mirrors plain :=
  ⟨mirrors.run.withState alike, mirrors.callers⟩

/-- Entering a script file, both executions at once. -/
theorem mirrors_enter {file text : String} {s t : Interpreter}
    {back further : Outcome → Interpreter → Run (List Value)} {callers others : List Caller}
    (agree : s.Agree t)
    (rest : ∀ outcome u v, u.Agree v → (back outcome u).Mirrors (further outcome v))
    (same : List.Forall₂ Caller.Mirrors callers others) :
    Mirrors ⟨enter files file text s, ⟨s.frame, back⟩ :: callers⟩
      ⟨enter files file text t, ⟨t.frame, further⟩ :: others⟩ :=
  ⟨runText_mirrors files text _ _ (agree.setFile rfl), .cons ⟨agree.alike.file, rest⟩ same⟩

/-- Going back to a caller, both executions at once. -/
theorem mirrors_leave {caller other : Caller} {outcome : Outcome} {s t : Interpreter}
    {callers others : List Caller} (agree : s.Agree t) (first : caller.Mirrors other)
    (same : List.Forall₂ Caller.Mirrors callers others) :
    Mirrors ⟨leave caller outcome s, callers⟩ ⟨leave other outcome t, others⟩ :=
  ⟨first.back outcome _ _ (agree.setFile first.file), same⟩

/-- **A step of an execution that may stop** is a step of the one that does not; or it is a look at
whether to stop, and nothing to the other. -/
theorem Mirrors.step (mirrors : x.Mirrors plain) (stepped : x.step files = some y) :
    ∃ further, y.Mirrors further ∧
      ((∃ s go, x.run = .ready s go) ∧ further = plain ∨ plain.step files = some further) := by
  cases step_eq_some_iff.mp stepped with
  | ready s go callers =>
    exact ⟨plain, ⟨mirrors.run s (.refl s), mirrors.callers⟩, .inl ⟨⟨s, go, rfl⟩, rfl⟩⟩
  | enter file text s back callers =>
    obtain ⟨other, others⟩ := plain
    obtain ⟨⟨t, further, rfl, agree, rest⟩, same⟩ := mirrors
    exact ⟨_, mirrors_enter agree rest same, .inr rfl⟩
  | leave outcome s caller callers =>
    obtain ⟨other, others⟩ := plain
    obtain ⟨⟨t, rfl, agree⟩, same⟩ := mirrors
    cases same with
    | cons first same => exact ⟨_, mirrors_leave agree first same, .inr rfl⟩

end Execution

/-! ### Runs that are debugged -/

/-- Whether the engine is evaluating a command inside a stop. -/
def isServing (e : Engine) : Bool :=
  e.activity.asker?.isSome

/-- What becomes of an engine that is debugged. No verb is `stop`, and a command that has been
evaluated inside a stop has left the variables and the breakpoints as they were when it was taken up.
The interpreter as it was then goes along. -/
inductive Debugged (e : Engine) : Engine → Interpreter → Prop
  | begun : Debugged e e e.state
  | step {f g : Engine} {before : Interpreter} (debugged : Debugged e f before)
      (free : f.isServing = false) (stepped : f.step = some g) : Debugged e g f.state
  | serve {f g : Engine} {before : Interpreter} (debugged : Debugged e f before)
      (serving : f.isServing = true) (stepped : f.step = some g)
      (harmless : g.isServing = false →
        g.state.scope = before.scope ∧ g.state.breakpoints = before.breakpoints) :
      Debugged e g before
  | command {f g : Engine} {before : Interpreter} {pipeline : Pipeline} {asker : Nat}
      (debugged : Debugged e f before) (sent : f.command pipeline = .ok (asker, g)) :
      Debugged e g before
  | resume {f g : Engine} {before : Interpreter} {verb : Verb} (debugged : Debugged e f before)
      (goes : verb ≠ .stop) (resumed : f.resume verb = .ok g) : Debugged e g before
  | switch {f : Engine} {before : Interpreter} (debugged : Debugged e f before) (enabled : Bool) :
      Debugged e (f.setStepping enabled) before

/-- What becomes of an engine whose stops are answered by verbs in a row. -/
inductive Answered : (Nat → Verb) → Engine → Engine → Prop
  | rest (verbs : Nat → Verb) (e : Engine) : Answered verbs e e
  | step {verbs : Nat → Verb} {e f g : Engine} (stepped : e.step = some f)
      (answered : Answered verbs f g) : Answered verbs e g
  | verb {verbs : Nat → Verb} {e f g : Engine} (waits : e.step = none)
      (resumed : e.resume (verbs 0) = .ok f)
      (answered : Answered (fun n => verbs (n + 1)) f g) : Answered verbs e g

/-- What an engine does with a run that is debugged, in step with an evaluation without stops. -/
inductive Shadows (start : Execution) (ticket : Nat) (before : Interpreter) (e : Engine) : Prop
  | running (x plain : Execution) (activity : e.activity = .running ticket x)
      (mirrors : x.Mirrors plain)
      (same : ∀ outcome t, start.Ends e.files outcome t ↔ plain.Ends e.files outcome t)
  | serving (waiting : Waiting) (asker : Nat) (x plain : Execution)
      (activity : e.activity = .nested ticket waiting asker x)
      (mirrors : (waiting.execution before).Mirrors plain)
      (same : ∀ outcome t, start.Ends e.files outcome t ↔ plain.Ends e.files outcome t)
  | ended (s t : Interpreter) (outcome : Outcome) (activity : e.activity = .idle s)
      (result : e.result? ticket = some outcome) (ends : start.Ends e.files outcome t)
      (scope : s.scope = t.scope) (breakpoints : s.breakpoints = t.breakpoints)

/-- A lawful engine with a run that is debugged: what is on its way into the stop are commands, and
verbs other than `stop`. -/
structure Shadowed (files : Files) (start : Execution) (ticket : Nat) (before : Interpreter)
    (e : Engine) : Prop where
  files : e.files = files
  lawful : e.Lawful
  ticketed : e.Ticketed
  verbs : .verb .stop ∉ e.inbox
  shadows : Shadows start ticket before e

namespace Shadows

variable {start : Execution} {ticket : Nat} {before : Interpreter} {e f : Engine}

/-- A change that leaves the activity and the answers. -/
theorem keep (shadows : Shadows start ticket before e) (files : f.files = e.files)
    (activity : f.activity = e.activity) (results : f.results = e.results) :
    Shadows start ticket before f := by
  cases shadows with
  | running x plain doing mirrors same =>
    exact .running x plain (activity.trans doing) mirrors (files ▸ same)
  | serving waiting asker x plain doing mirrors same =>
    exact .serving waiting asker x plain (activity.trans doing) mirrors (files ▸ same)
  | ended s t outcome doing result ends scope breakpoints =>
    refine .ended s t outcome (activity.trans doing) ?_ (files ▸ ends) scope breakpoints
    unfold result?
    rw [results]
    exact result

/-- Step mode is nothing that an evaluation without stops takes notice of. -/
theorem switch (shadows : Shadows start ticket before e) (enabled : Bool) :
    Shadows start ticket before (e.setStepping enabled) := by
  have activity : (e.setStepping enabled).activity =
    e.activity.withState { e.activity.state with stepping := enabled } := rfl
  cases shadows with
  | running x plain doing mirrors same =>
    rw [doing] at activity
    exact .running _ plain activity (mirrors.withState ⟨rfl, rfl, rfl⟩) same
  | serving waiting asker x plain doing mirrors same =>
    rw [doing] at activity
    exact .serving waiting asker _ plain activity mirrors same
  | ended s t outcome doing result ends scope breakpoints =>
    rw [doing] at activity
    exact .ended _ t outcome activity result ends scope breakpoints

/-- A run that takes a step of its own. -/
theorem further {x y plain : Execution} (mirrors : x.Mirrors plain)
    (same : ∀ outcome t, start.Ends e.files outcome t ↔ plain.Ends e.files outcome t)
    (stepped : x.step e.files = some y) (files : f.files = e.files)
    (activity : f.activity = .running ticket y) : Shadows start ticket before f := by
  obtain ⟨further, inStep, moved⟩ := mirrors.step stepped
  refine .running y further activity inStep (files ▸ fun outcome t => ?_)
  rcases moved with ⟨_, rfl⟩ | moved
  · exact same outcome t
  · exact (same outcome t).trans (Execution.ends_step moved)

end Shadows

/-- An execution that waits in a stop is the one put aside while a command is evaluated. -/
theorem mirrors_waiting {waiting : Waiting} {s t : Interpreter} {plain : Execution}
    (mirrors : (waiting.execution s).Mirrors plain) (scope : t.scope = s.scope)
    (breakpoints : t.breakpoints = s.breakpoints) : (waiting.execution t).Mirrors plain := by
  have alike : (waiting.execution s).state.Alike (closeNested waiting.frame t) :=
    ⟨scope, breakpoints, rfl⟩
  exact mirrors.withState alike

namespace Shadowed

variable {files : Files} {start : Execution} {ticket : Nat} {before : Interpreter} {e f : Engine}

/-- What a step of the engine leaves as it was, whatever the engine is doing. -/
theorem of_step (shadowed : Shadowed files start ticket before e) (stepped : e.step = some f)
    {since : Interpreter} (shadows : Shadows start ticket since f) :
    Shadowed files start ticket since f := by
  obtain ⟨same, old⟩ := step_leaves stepped
  exact ⟨same.trans shadowed.files, (step_turn shadowed.lawful stepped).1,
    (step_answers shadowed.lawful shadowed.ticketed stepped).1,
    fun member => shadowed.verbs (old.subset member), shadows⟩

/-- **A step of a run that is debugged** keeps in step with the evaluation without stops. A command
that is taken up finds the interpreter as it was. -/
theorem step (shadowed : Shadowed files start ticket before e) (free : e.isServing = false)
    (stepped : e.step = some f) : Shadowed files start ticket e.state f := by
  refine shadowed.of_step stepped ?_
  have verbs := shadowed.verbs
  cases shadowed.shadows with
  | ended s t outcome doing result ends scope breakpoints =>
    cases (step_idle doing).symm.trans stepped
  | serving waiting asker x plain doing mirrors same =>
    unfold isServing at free
    rw [doing] at free
    cases free
  | running x plain doing mirrors same =>
    cases stepsTo_of_step stepped with
    | run activity taken =>
      cases doing.symm.trans activity
      exact .further mirrors same taken rfl rfl
    | @finish _ outcome s activity =>
      cases doing.symm.trans activity
      have owed := owed_of_main (main?_eq doing)
      obtain ⟨other, others⟩ := plain
      obtain ⟨⟨t, rfl, agree⟩, rest⟩ := mirrors
      cases rest
      have left : s.Alike (closeRun s) :=
        (Interpreter.alike_setAvailability s .available).trans ⟨rfl, rfl, rfl⟩
      have alike := left.symm.trans agree.alike
      exact .ended _ t outcome rfl (shadowed.ticketed.result?_answer owed outcome)
        ((same outcome t).mpr (.now outcome t)) alike.scope.symm alike.breakpoints.symm
    | @take _ stop s resume callers asker _ _ activity inbox =>
      cases doing.symm.trans activity
      have state : e.state = s := state_eq activity
      rw [state]
      refine .serving ⟨stop, s.frame, resume, callers⟩ asker _ plain rfl ?_ same
      have alike : (Run.stopped stop s resume).state.Alike (closeNested s.frame s) :=
        ⟨rfl, rfl, rfl⟩
      exact mirrors.withState alike
    | @leave _ _ s _ _ verb _ activity inbox =>
      cases doing.symm.trans activity
      have goes : verb ≠ .stop := by
        rintro rfl
        exact verbs (inbox ▸ List.mem_cons_self)
      exact .running _ plain rfl ⟨mirrors.run verb s goes (.refl s), mirrors.callers⟩ same
    | further activity _ | answer activity => cases doing.symm.trans activity

/-- **A step of a command inside a stop** keeps in step with the evaluation without stops, as long as
the command leaves what it has found. -/
theorem serve (shadowed : Shadowed files start ticket before e) (serving : e.isServing = true)
    (stepped : e.step = some f)
    (harmless : f.isServing = false →
      f.state.scope = before.scope ∧ f.state.breakpoints = before.breakpoints) :
    Shadowed files start ticket before f := by
  refine shadowed.of_step stepped ?_
  cases shadowed.shadows with
  | ended s t outcome doing result ends scope breakpoints =>
    unfold isServing at serving
    rw [doing] at serving
    cases serving
  | running x plain doing mirrors same =>
    unfold isServing at serving
    rw [doing] at serving
    cases serving
  | serving waiting asker x plain doing mirrors same =>
    cases stepsTo_of_step stepped with
    | @further _ _ _ _ y activity taken =>
      cases doing.symm.trans activity
      exact .serving waiting asker y plain rfl mirrors same
    | answer activity =>
      cases doing.symm.trans activity
      obtain ⟨scope, breakpoints⟩ := harmless rfl
      exact .running _ plain rfl (mirrors_waiting mirrors scope breakpoints) same
    | run activity _ | finish activity | take activity _ | leave activity _ =>
      cases doing.symm.trans activity

theorem command (shadowed : Shadowed files start ticket before e) {pipeline : Pipeline}
    {asker : Nat} (sent : e.command pipeline = .ok (asker, f)) :
    Shadowed files start ticket before f := by
  have lawful := (command_turn shadowed.lawful sent).1
  have ticketed := (command_answers shadowed.ticketed sent).1
  unfold Engine.command at sent
  split at sent
  · cases sent
    refine ⟨shadowed.files, lawful, ticketed, fun member => ?_, shadowed.shadows.keep rfl rfl rfl⟩
    rcases List.mem_append.mp member with old | new
    · exact shadowed.verbs old
    · cases List.mem_singleton.mp new
  · cases sent

theorem resume (shadowed : Shadowed files start ticket before e) {verb : Verb}
    (goes : verb ≠ .stop) (resumed : e.resume verb = .ok f) :
    Shadowed files start ticket before f := by
  have lawful := (resume_turn shadowed.lawful resumed).1
  have ticketed := (resume_answers shadowed.ticketed resumed).1
  unfold Engine.resume at resumed
  split at resumed
  · cases resumed
    refine ⟨shadowed.files, lawful, ticketed, fun member => ?_, shadowed.shadows.keep rfl rfl rfl⟩
    rcases List.mem_append.mp member with old | new
    · exact shadowed.verbs old
    · cases List.mem_singleton.mp new
      exact goes rfl
  · cases resumed

theorem switch (shadowed : Shadowed files start ticket before e) (enabled : Bool) :
    Shadowed files start ticket before (e.setStepping enabled) :=
  ⟨shadowed.files, (setStepping_turn shadowed.lawful enabled).1,
    (setStepping_answers shadowed.ticketed enabled).1, shadowed.verbs,
    shadowed.shadows.switch enabled⟩

/-- A run that has begun is in step with the evaluation of its pipeline without stops. -/
theorem of_invoke {pipeline : Pipeline} (lawful : e.Lawful) (ticketed : e.Ticketed)
    (invoked : e.invoke pipeline = .ok (ticket, f)) :
    Shadowed e.files (e.undebugged pipeline) ticket f.state f := by
  have begun := (invoke_turn lawful invoked).1
  have given := (invoke_answers ticketed invoked).1
  unfold invoke at invoked
  split at invoked
  · rename_i s activity
    have state : e.state = s := state_eq activity
    have free : e.isStopped = false := isStopped_eq activity
    have none := lawful.inbox free
    cases invoked
    refine ⟨rfl, begun, given, fun member => ?_, .running _ (e.undebugged pipeline) rfl ?_
      fun _ _ => .rfl⟩
    · rw [none] at member
      cases member
    · have opened : ({ s with frame := .start } : Interpreter).Agree (openNested e.state) := by
        rw [state]
        exact ⟨⟨rfl, rfl, rfl⟩, Nat.succ_pos _⟩
      have agree := opened.of_alike (Interpreter.alike_setAvailability _ .busy)
      exact ⟨evalPipeline_mirrors e.files pipeline _ _ agree, .nil⟩
  · cases invoked

end Shadowed

/-- **Whatever is done to a run that is debugged, it keeps in step with the evaluation without
stops.** -/
theorem Debugged.shadowed {e f g : Engine} {pipeline : Pipeline} {ticket : Nat}
    {before : Interpreter} (lawful : e.Lawful) (ticketed : e.Ticketed)
    (invoked : e.invoke pipeline = .ok (ticket, f)) (debugged : Debugged f g before) :
    Shadowed e.files (e.undebugged pipeline) ticket before g := by
  induction debugged with
  | begun => exact .of_invoke lawful ticketed invoked
  | step _ free stepped ih => exact ih.step free stepped
  | serve _ serving stepped harmless ih => exact ih.serve serving stepped harmless
  | command _ sent ih => exact ih.command sent
  | resume _ goes resumed ih => exact ih.resume goes resumed
  | switch _ enabled ih => exact ih.switch enabled

/-! ### Stops that are answered -/

/-- A run that has only to be led on: no command is on its way, and no verb `stop`. -/
structure Attended (files : Files) (ticket : Nat) (x : Execution) (e : Engine) : Prop where
  files : e.files = files
  lawful : e.Lawful
  ticketed : e.Ticketed
  activity : e.activity = .running ticket x
  verbs : ∀ request ∈ e.inbox, ∃ verb, request = .verb verb ∧ verb ≠ .stop

/-- Whoever answers the stops leads every run that is in step with an evaluation to an outcome. -/
def Led (files : Files) (ticket : Nat) (outcome : Outcome) (plain : Execution) : Prop :=
  ∀ (x : Execution) (e : Engine) (verbs : Nat → Verb), x.Mirrors plain →
    Attended files ticket x e → (∀ n, verbs n ≠ .stop) →
      ∃ f, Answered verbs e f ∧ f.result? ticket = some outcome

section

variable {files : Files} {ticket : Nat} {outcome : Outcome}

/-- A run that has been led a step further. -/
theorem Attended.step {x y : Execution} {e f : Engine} (attended : Attended files ticket x e)
    (stepped : e.step = some f) (activity : f.activity = .running ticket y) :
    Attended files ticket y f := by
  obtain ⟨same, old⟩ := step_leaves stepped
  exact ⟨same.trans attended.files, (step_turn attended.lawful stepped).1,
    (step_answers attended.lawful attended.ticketed stepped).1, activity,
    fun request member => attended.verbs request (old.subset member)⟩

/-- A run that goes on by itself does so in the engine. -/
theorem Attended.own {x y : Execution} {e : Engine} (attended : Attended files ticket x e)
    (stepped : x.step files = some y) :
    ∃ f, e.step = some f ∧ Attended files ticket y f := by
  have own := step_of_stepsTo (.run attended.activity (attended.files.symm ▸ stepped))
  exact ⟨_, own, attended.step own rfl⟩

/-- A run in a stop leaves it by a verb: one that is on its way, or else the next one. -/
theorem Attended.leave {stop : Stop} {s : Interpreter}
    {resume : Verb → Interpreter → Run (List Value)} {callers : List Caller} {e : Engine}
    {verbs : Nat → Verb} (attended : Attended files ticket ⟨.stopped stop s resume, callers⟩ e)
    (goes : ∀ n, verbs n ≠ .stop) :
    ∃ (verb : Verb) (f : Engine) (later : Nat → Verb), verb ≠ .stop ∧ (∀ n, later n ≠ .stop) ∧
      Attended files ticket ⟨resume verb s, callers⟩ f ∧
      ∀ g, Answered later f g → Answered verbs e g := by
  have stopped : e.isStopped = true := isStopped_eq attended.activity
  cases inbox : e.inbox with
  | nil =>
    have waits : e.step = none := step_empty attended.activity inbox
    have resumed : e.resume (verbs 0) = .ok { e with inbox := e.inbox ++ [.verb (verbs 0)] } :=
      if_pos stopped
    have sent : Attended files ticket ⟨.stopped stop s resume, callers⟩
        { e with inbox := e.inbox ++ [.verb (verbs 0)] } := by
      refine ⟨attended.files, (resume_turn attended.lawful resumed).1,
        (resume_answers attended.ticketed resumed).1, attended.activity, fun request member => ?_⟩
      rw [inbox] at member
      exact ⟨verbs 0, List.mem_singleton.mp member, goes 0⟩
    have first : e.inbox ++ [.verb (verbs 0)] = .verb (verbs 0) :: [] := by
      rw [inbox]
      rfl
    have taken := step_of_stepsTo (.leave sent.activity first)
    exact ⟨verbs 0, _, fun n => verbs (n + 1), goes 0, fun n => goes (n + 1), sent.step taken rfl,
      fun g answered => .verb waits resumed (.step taken answered)⟩
  | cons request rest =>
    obtain ⟨verb, rfl, leads⟩ := attended.verbs request (inbox ▸ List.mem_cons_self)
    have taken := step_of_stepsTo (.leave attended.activity inbox)
    exact ⟨verb, _, verbs, leads, goes, attended.step taken rfl, fun g => .step taken⟩

/-- A run that has come to an end is answered. -/
theorem Attended.settled {s : Interpreter} {e : Engine}
    (attended : Attended files ticket ⟨.done outcome s, []⟩ e) :
    ∃ f, e.step = some f ∧ f.result? ticket = some outcome := by
  have owed := owed_of_main (main?_eq attended.activity)
  exact ⟨_, step_of_stepsTo (.finish attended.activity), attended.ticketed.result?_answer owed outcome⟩

/-- **A run is led on to the end**, as far as its own looks and stops are concerned: by induction on
what remains of it up to the next step of the evaluation without stops. -/
theorem led {plain : Execution}
    (next : ∀ further, plain.step files = some further → Led files ticket outcome further)
    (last : ∀ result t, plain = ⟨.done result t, []⟩ → result = outcome) :
    Led files ticket outcome plain := by
  rintro ⟨run, callers⟩
  obtain ⟨other, others⟩ := plain
  induction run with
  | ready s go ih =>
    intro e verbs mirrors attended goes
    obtain ⟨f, stepped, later⟩ := attended.own rfl
    obtain ⟨g, answered, result⟩ :=
      ih s f verbs ⟨mirrors.run s (.refl s), mirrors.callers⟩ later goes
    exact ⟨g, .step stepped answered, result⟩
  | stopped stop s resume ih =>
    intro e verbs mirrors attended goes
    obtain ⟨verb, f, rest, leads, goes, later, since⟩ := attended.leave goes
    obtain ⟨g, answered, result⟩ :=
      ih verb s f rest ⟨mirrors.run verb s leads (.refl s), mirrors.callers⟩ later goes
    exact ⟨g, since g answered, result⟩
  | calling file text s back _ =>
    intro e verbs mirrors attended goes
    obtain ⟨⟨t, further, rfl, agree, rest⟩, same⟩ := mirrors
    obtain ⟨f, stepped, later⟩ := attended.own rfl
    obtain ⟨g, answered, result⟩ :=
      next _ rfl _ f verbs (Execution.mirrors_enter agree rest same) later goes
    exact ⟨g, .step stepped answered, result⟩
  | done outcome s =>
    intro e verbs mirrors attended goes
    obtain ⟨⟨t, rfl, agree⟩, same⟩ := mirrors
    cases same with
    | nil =>
      cases last _ _ rfl
      obtain ⟨f, stepped, result⟩ := attended.settled
      exact ⟨f, .step stepped (.rest verbs f), result⟩
    | cons first same =>
      obtain ⟨f, stepped, later⟩ := attended.own rfl
      obtain ⟨g, answered, result⟩ :=
        next _ rfl _ f verbs (Execution.mirrors_leave agree first same) later goes
      exact ⟨g, .step stepped answered, result⟩

/-- **An evaluation without stops that comes to an end leads every run that is in step with it.** -/
theorem Execution.Ends.led {plain : Execution} {t : Interpreter}
    (ends : plain.Ends files outcome t) : Led files ticket outcome plain := by
  induction ends with
  | now outcome s =>
    refine Engine.led (fun further stepped => ?_) fun result t same => ?_
    · cases stepped
    · cases same
      rfl
  | step stepped _ ih =>
    refine Engine.led (fun further other => ?_) fun result t same => ?_
    · cases stepped.symm.trans other
      exact ih
    · rw [same] at stepped
      cases stepped

end

/-! ### Transparency -/

theorem free_of_commands {e : Engine} (none : e.commands = []) : e.isServing = false := by
  have asker := (List.append_eq_nil_iff.mp none).1
  unfold isServing
  cases serving : e.activity.asker? with
  | none => rfl
  | some asker' =>
    rw [serving] at asker
    cases asker

/-- Stops that are answered by verbs are those of a run that is debugged. -/
theorem Answered.debugged {verbs : Nat → Verb} {d e f : Engine} {before : Interpreter}
    (answered : Answered verbs e f) (debugged : Debugged d e before) (goes : ∀ n, verbs n ≠ .stop)
    (lawful : e.Lawful) (ticketed : e.Ticketed) (none : e.commands = []) :
    ∃ later, Debugged d f later := by
  induction answered generalizing before with
  | rest verbs e => exact ⟨before, debugged⟩
  | @step _ _ f _ stepped _ ih =>
    obtain ⟨given, answers⟩ := step_answers lawful ticketed stepped
    have commands : f.commands = [] := by
      refine List.eq_nil_iff_forall_not_mem.mpr fun asker member => ?_
      have old := answers.commands asker member
      rw [none] at old
      cases old
    exact ih (debugged.step (free_of_commands none) stepped) goes (step_turn lawful stepped).1 given
      commands
  | verb waits resumed _ ih =>
    obtain ⟨given, _, _, same⟩ := resume_answers ticketed resumed
    exact ih (debugged.resume (goes 0) resumed) (fun n => goes (n + 1)) (resume_turn lawful resumed).1
      given (same.trans none)

namespace Shadowed

variable {files : Files} {start : Execution} {ticket : Nat} {before : Interpreter} {e : Engine}
  {outcome : Outcome}

/-- The answer of a run that is debugged is the outcome without stops, which has left the same
variables and the same breakpoints. -/
theorem ends (shadowed : Shadowed files start ticket before e)
    (result : e.result? ticket = some outcome) :
    ∃ t, start.Ends files outcome t ∧ e.state.scope = t.scope ∧
      e.state.breakpoints = t.breakpoints := by
  have unanswered : ∀ activity, e.activity = activity → activity.main? = some ticket → False := by
    intro activity doing main
    have none := shadowed.ticketed.unanswered (owed_of_main ((main?_eq doing).trans main))
    cases none.symm.trans result
  cases shadowed.shadows with
  | running x plain doing => exact (unanswered _ doing rfl).elim
  | serving waiting asker x plain doing => exact (unanswered _ doing rfl).elim
  | ended s t first doing found ends scope breakpoints =>
    cases found.symm.trans result
    have state : e.state = s := state_eq doing
    exact ⟨t, shadowed.files ▸ ends, state ▸ scope, state ▸ breakpoints⟩

/-- **A run that is debugged is led to the outcome without stops**, once no command is on its way. -/
theorem answered (shadowed : Shadowed files start ticket before e) {t : Interpreter}
    (ends : start.Ends files outcome t) (none : e.commands = []) {verbs : Nat → Verb}
    (goes : ∀ n, verbs n ≠ .stop) :
    ∃ f, Answered verbs e f ∧ f.result? ticket = some outcome := by
  have same := shadowed.files
  cases shadowed.shadows with
  | running x plain doing mirrors alike =>
    have leads : plain.Ends files outcome t := same ▸ (alike outcome t).mp (same ▸ ends)
    refine leads.led x e verbs mirrors
      ⟨same, shadowed.lawful, shadowed.ticketed, doing, fun request member => ?_⟩ goes
    cases request with
    | command asker pipeline =>
      have waits : asker ∈ e.commands :=
        List.mem_append_right _ (List.mem_filterMap.mpr ⟨_, member, rfl⟩)
      rw [none] at waits
      cases waits
    | verb verb => exact ⟨verb, rfl, fun stop => shadowed.verbs (stop ▸ member)⟩
  | serving waiting asker x plain doing =>
    have serving := free_of_commands none
    unfold isServing at serving
    rw [doing] at serving
    cases serving
  | ended s u first doing found already scope breakpoints =>
    obtain ⟨rfl, _⟩ := ends.unique (same ▸ already)
    exact ⟨e, .rest verbs e, found⟩

end Shadowed

/-- **Debugging is transparent**, for every pipeline, all script files, and every state in which an
engine can take up a run, with any breakpoints and in step mode or not. However a run is debugged, its
answer is the outcome of evaluating the pipeline without stops, with the same position of a failure,
and the variables and the breakpoint table are left the same. And where that evaluation comes to an
end, the run that is debugged is answered as well, whatever verbs other than `stop` answer its stops
from then on. -/
theorem debugging_transparent {e f g : Engine} {pipeline : Pipeline} {ticket : Nat}
    {before : Interpreter} (lawful : e.Lawful) (ticketed : e.Ticketed)
    (invoked : e.invoke pipeline = .ok (ticket, f)) (debugged : Debugged f g before) :
    (∀ outcome, g.result? ticket = some outcome →
      ∃ t, (e.undebugged pipeline).Ends e.files outcome t ∧ g.state.scope = t.scope ∧
        g.state.breakpoints = t.breakpoints) ∧
    ∀ outcome t, (e.undebugged pipeline).Ends e.files outcome t → g.commands = [] →
      ∀ verbs : Nat → Verb, (∀ n, verbs n ≠ .stop) →
        ∃ h, Answered verbs g h ∧ h.result? ticket = some outcome ∧ h.state.scope = t.scope ∧
          h.state.breakpoints = t.breakpoints := by
  have shadowed := debugged.shadowed lawful ticketed invoked
  refine ⟨fun outcome result => shadowed.ends result, fun outcome t ends none verbs goes => ?_⟩
  obtain ⟨h, answered, result⟩ := shadowed.answered ends none goes
  obtain ⟨later, further⟩ := answered.debugged debugged goes shadowed.lawful shadowed.ticketed none
  obtain ⟨u, left, scope, breakpoints⟩ :=
    (further.shadowed lawful ticketed invoked).ends result
  obtain ⟨_, rfl⟩ := ends.unique left
  exact ⟨h, answered, result, scope, breakpoints⟩

/-- A script that stops at a breakpoint that it sets itself and once more of its own accord, and that
fails in its last line. -/
def stoppingTwice : Pipeline :=
  .script "Set-PSBreakpoint 2\n$a = 20\nWait-Debugger\n$a = $a + 1\n$b = 1 / 0"

/-- A script that stops twice is debugged from an engine that has not run anything. -/
theorem debugging_transparent_failure :
    ∃ f outcome t, (fresh .none none).invoke stoppingTwice = .ok (1, f) ∧ f.settle.isStopped = true ∧
      ((fresh .none none).undebugged stoppingTwice).Ends .none outcome t ∧
      ∀ verbs : Nat → Verb, (∀ n, verbs n ≠ .stop) →
        ∃ h, Answered verbs f h ∧ h.result? 1 = some outcome ∧ h.state.scope = t.scope ∧
          h.state.breakpoints = t.breakpoints := by
  have lawful : (fresh .none none).Lawful := ⟨rfl, fun _ => rfl⟩
  have ticketed : (fresh .none none).Ticketed := ⟨.nil, nofun, nofun⟩
  have ended : (exhaust (Execution.step .none) 100
      ((fresh .none none).undebugged stoppingTwice)).end?.isSome = true := by decide +kernel
  obtain ⟨⟨outcome, t⟩, same⟩ := Option.isSome_iff_exists.mp ended
  have ends := Execution.ends_of_exhaust 100 same
  refine ⟨_, outcome, t, rfl, by decide +kernel, ends, fun verbs goes => ?_⟩
  exact (debugging_transparent lawful ticketed rfl .begun).2 outcome t ends rfl verbs goes

end ShellSession.Engine
