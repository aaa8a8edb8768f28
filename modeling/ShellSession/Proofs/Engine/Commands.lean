/-
**Commands inside a stop.**

A command that is given into a stop nobody has left waits its turn, is evaluated in that stop from the
state that the engine is in then, and is answered with what its evaluation comes to. Others may switch
step mode and give commands of their own meanwhile; nothing of that makes a difference to it.

* `Execution.Holds`: an execution inside a stop keeps any law;
* `Engine.Entrusted`: what has become of a command;
* `Engine.Entrusted.goes`: **a command is evaluated in its stop, and answered with its own outcome**;
* `Engine.Entrusted.moves`: as long as it is not answered, the engine has a step to take;
* `Engine.serves`: **a command whose evaluation comes to an end is answered**.
-/

import ShellSession.Proofs.Engine.Transparency
import ShellSession.Proofs.Engine.Usage

namespace ShellSession.Engine

variable {e f : Engine} {files : Files} {outcome : Outcome} {law : Law}

/-! ### What an evaluation inside a stop keeps -/

/-- An execution inside a stop that keeps a law. -/
structure Execution.Holds (law : Law) (level : Nat) (x : Execution) : Prop where
  run : ∃ before, before.nested = level ∧ x.run.Keeps law before
  callers : ∀ caller ∈ x.callers, ∀ outcome t, law.Allows outcome → t.nested = level →
    (caller.back outcome t).Keeps law t

/-- **A step inside a stop keeps the law.** -/
theorem Execution.Holds.step {x y : Execution} {level : Nat} (holds : x.Holds law level)
    (above : 0 < level) (stepped : x.step files = some y) : y.Holds law level := by
  obtain ⟨⟨before, nested, kept⟩, rest⟩ := holds
  cases Execution.step_eq_some_iff.mp stepped with
  | ready s go callers => exact absurd (kept.1.symm.trans nested) (Nat.ne_of_lt above)
  | enter file text s back callers =>
    obtain ⟨change, back, _⟩ := kept
    have here : s.nested = level := (law.nested change).trans nested
    refine ⟨⟨{ s with frame := ⟨some file, s.frame.line⟩ }, here, runText_keeps files text _⟩,
      fun caller member => ?_⟩
    rcases List.mem_cons.mp member with rfl | old
    · rw [← nested]
      exact back
    · exact rest caller old
  | leave outcome s caller callers =>
    obtain ⟨change, allowed⟩ := kept
    have here : s.nested = level := (law.nested change).trans nested
    exact ⟨⟨{ s with frame := caller.frame }, here,
      rest caller List.mem_cons_self outcome _ allowed here⟩,
      fun other member => rest other (List.mem_cons_of_mem _ member)⟩

/-- An execution inside a stop ends with an outcome that the law allows. -/
theorem Execution.Ends.allowed {x : Execution} {level : Nat} {t : Interpreter}
    (ends : x.Ends files outcome t) (holds : x.Holds law level) (above : 0 < level) :
    law.Allows outcome := by
  induction ends with
  | now outcome s =>
    obtain ⟨⟨before, _, kept⟩, _⟩ := holds
    exact kept.2
  | step stepped _ ih => exact ih (holds.step above stepped)

/-- **A command ends with an outcome that every law allows.** -/
theorem undebugged_allowed {pipeline : Pipeline} {t : Interpreter}
    (ends : (e.undebugged pipeline).Ends e.files outcome t) : law.Allows outcome :=
  ends.allowed ⟨⟨openNested e.state, rfl, evalPipeline_keeps e.files pipeline _⟩, nofun⟩
    (Nat.succ_pos e.state.nested)

/-- Evaluations by themselves do not fail as coming too late for a stop. -/
def Law.timely : Law where
  change s t := t.nested = s.nested
  failure error := error ≠ .notStopped
  refl _ := rfl
  trans first second := second.trans first
  nested change := change
  setVariable _ _ _ := rfl
  setFrame _ _ := rfl
  setBreakpoints _ _ _ := rfl
  leaveStop _ s := nested_setAvailability s .busy
  parse _ _ := nofun
  runtime _ _ := nofun
  stopped := nofun

/-- **A command does not fail as coming too late for the stop that it is evaluated in.** -/
theorem undebugged_timely {pipeline : Pipeline} {t : Interpreter}
    (ends : (e.undebugged pipeline).Ends e.files outcome t) : outcome ≠ .error .notStopped :=
  fun same => (undebugged_allowed ends : Law.timely.Allows outcome) _ same rfl

/-! ### Steps in a stop that nobody has left -/

/-- What a step of an engine in a stop that nobody has left is: a command taken up, a step of a
command, or a command answered. -/
inductive Serves (e : Engine) : Engine → Prop
  | take (main asker : Nat) (x : Execution) (waiting : Waiting) (pipeline : Pipeline)
      (rest : List StopRequest) (activity : e.activity = .running main x)
      (inbox : e.inbox = .command asker pipeline :: rest) :
      Serves e { e with
        inbox := rest, activity := .nested main waiting asker (e.undebugged pipeline) }
  | further (main asker : Nat) (waiting : Waiting) (x y : Execution)
      (activity : e.activity = .nested main waiting asker x) (stepped : x.step e.files = some y) :
      Serves e { e with activity := .nested main waiting asker y }
  | answer (main asker : Nat) (waiting : Waiting) (outcome : Outcome) (s : Interpreter)
      (activity : e.activity = .nested main waiting asker ⟨.done outcome s, []⟩) :
      Serves e (({ e with activity := .running main (waiting.execution s) } : Engine).answer
        asker outcome)

/-- **In a stop that it does not leave with the next step, the engine serves commands.** -/
theorem serves_of_stay (inside : e.isStopped = true) (stays : e.leaving? = none)
    (stepped : e.step = some f) : e.Serves f := by
  cases stepsTo_of_step stepped with
  | run activity taken => cases inside.symm.trans (isStopped_of_run activity taken)
  | finish activity => cases inside.symm.trans (isStopped_eq activity)
  | @take ticket _ s _ _ asker pipeline rest activity inbox =>
    have state : e.state = s := state_eq activity
    rw [← state]
    exact .take ticket asker _ _ pipeline rest activity inbox
  | leave activity inbox =>
    unfold leaving? at stays
    rw [activity, inbox] at stays
    cases stays
  | @further ticket asker waiting x y activity taken =>
    exact .further ticket asker waiting x y activity taken
  | @answer ticket asker waiting outcome s activity =>
    exact .answer ticket asker waiting outcome s activity

/-- **In a stop that nobody has left, the engine serves commands.** -/
theorem serves_of_step (opens : e.isOpen = true) (stepped : e.step = some f) : e.Serves f :=
  serves_of_stay (Bool.and_eq_true_iff.mp opens).1 (leaving?_of_open opens) stepped

/-- A command that is being evaluated has a step to take. -/
theorem step_of_nested {main asker : Nat} {waiting : Waiting} {x : Execution}
    (activity : e.activity = .nested main waiting asker x) (lawful : x.Lawful 1) :
    ∃ f, e.step = some f := by
  obtain ⟨run, callers⟩ := x
  cases run with
  | stopped stop s resume => cases lawful.run.1
  | _ => exact exists_step_of_nested activity rfl

/-- As long as something is on its way into a stop, the engine has a step to take. -/
theorem step_of_inbox (inside : e.isStopped = true) (lawful : e.Lawful) (waits : e.inbox ≠ []) :
    ∃ f, e.step = some f := by
  have kept := lawful.activity
  cases activity : e.activity with
  | idle s => cases inside.symm.trans (isStopped_eq activity)
  | nested main waiting asker x =>
    rw [activity] at kept
    exact step_of_nested activity kept.2
  | running main x =>
    obtain ⟨run, callers⟩ := x
    cases run with
    | stopped stop s resume => exact exists_step_of_stopped activity waits
    | _ => exact exists_step_of_running activity rfl

/-- As long as there are commands in a stop that nobody has left, the engine has a step to take. -/
theorem step_of_commands (opens : e.isOpen = true) (lawful : e.Lawful) {ticket : Nat}
    (asked : ticket ∈ e.commands) : ∃ f, e.step = some f := by
  cases inbox : e.inbox with
  | cons request rest =>
    refine step_of_inbox (Bool.and_eq_true_iff.mp opens).1 lawful ?_
    rw [inbox]
    exact List.cons_ne_nil request rest
  | nil =>
    -- Nothing waits its turn, so the command is being evaluated.
    unfold commands at asked
    rw [inbox] at asked
    have kept := lawful.activity
    cases activity : e.activity with
    | nested main waiting asker x =>
      rw [activity] at kept
      exact step_of_nested activity kept.2
    | _ =>
      rw [activity] at asked
      cases asked

/-! ### Commands entrusted to the engine -/

/-- What has become of a command under a ticket: it waits its turn; or it is being evaluated, in step
with its evaluation from an engine in the stop; or it is answered with the outcome of that. -/
inductive Entrusted (pipeline : Pipeline) (ticket : Nat) (taken : Engine → Prop) (e : Engine) : Prop
  | queued (listed : .command ticket pipeline ∈ e.inbox) : Entrusted pipeline ticket taken e
  | serving (origin : Engine) (since : taken origin) (main : Nat) (waiting : Waiting)
      (x plain : Execution) (activity : e.activity = .nested main waiting ticket x)
      (mirrors : x.Mirrors plain)
      (same : ∀ outcome t, (origin.undebugged pipeline).Ends origin.files outcome t ↔
        plain.Ends e.files outcome t) : Entrusted pipeline ticket taken e
  | answered (origin : Engine) (since : taken origin) (outcome : Outcome) (t : Interpreter)
      (ends : (origin.undebugged pipeline).Ends origin.files outcome t)
      (found : e.result? ticket = some outcome) : Entrusted pipeline ticket taken e

/-- A command under a ticket that has been taken up: it is being evaluated, in step with its evaluation
from an engine in the stop; or it is answered with the outcome of that. -/
inductive Underway (pipeline : Pipeline) (ticket : Nat) (taken : Engine → Prop) (e : Engine) : Prop
  | serving (origin : Engine) (since : taken origin) (main : Nat) (waiting : Waiting)
      (x plain : Execution) (activity : e.activity = .nested main waiting ticket x)
      (mirrors : x.Mirrors plain)
      (same : ∀ outcome t, (origin.undebugged pipeline).Ends origin.files outcome t ↔
        plain.Ends e.files outcome t) : Underway pipeline ticket taken e
  | answered (origin : Engine) (since : taken origin) (outcome : Outcome) (t : Interpreter)
      (ends : (origin.undebugged pipeline).Ends origin.files outcome t)
      (found : e.result? ticket = some outcome) : Underway pipeline ticket taken e

/-- The evaluation of a command is in step with itself. -/
theorem undebugged_mirrors (e : Engine) (pipeline : Pipeline) :
    (e.undebugged pipeline).Mirrors (e.undebugged pipeline) :=
  ⟨evalPipeline_mirrors e.files pipeline _ _ ⟨.refl _, Nat.succ_pos _⟩, .nil⟩

namespace Underway

variable {pipeline : Pipeline} {ticket : Nat} {taken wider : Engine → Prop}

theorem weaken (underway : e.Underway pipeline ticket taken)
    (more : ∀ origin, taken origin → wider origin) : e.Underway pipeline ticket wider := by
  cases underway with
  | serving origin since main waiting x plain activity mirrors same =>
    exact .serving origin (more origin since) main waiting x plain activity mirrors same
  | answered origin since outcome t ends found =>
    exact .answered origin (more origin since) outcome t ends found

/-- What has been taken up has been entrusted. -/
theorem entrusted (underway : e.Underway pipeline ticket taken) :
    e.Entrusted pipeline ticket taken := by
  cases underway with
  | serving origin since main waiting x plain activity mirrors same =>
    exact .serving origin since main waiting x plain activity mirrors same
  | answered origin since outcome t ends found => exact .answered origin since outcome t ends found

/-- A command that is taken up. -/
theorem of_take {main : Nat} {waiting : Waiting}
    (activity : f.activity = .nested main waiting ticket (e.undebugged pipeline))
    (files : f.files = e.files) :
    f.Underway pipeline ticket fun origin => taken origin ∨ origin = e :=
  .serving e (.inr rfl) main waiting _ _ activity (e.undebugged_mirrors pipeline)
    fun _ _ => files ▸ .rfl

/-- The engine goes on with what it has taken up, or answers it, or others. -/
theorem serves (underway : e.Underway pipeline ticket taken) (ticketed : e.Ticketed)
    (serves : e.Serves f) : f.Underway pipeline ticket taken := by
  cases underway with
  | answered origin since outcome t ends found =>
    refine .answered origin since outcome t ends ?_
    cases serves with
    | take main asker x waiting other rest activity inbox => exact found
    | further main asker waiting x y activity stepped => exact found
    | answer main asker waiting other s activity => exact result?_append found
  | serving origin since main waiting x plain activity mirrors same =>
    cases serves with
    | take other asker x waiting _ rest before inbox => cases before.symm.trans activity
    | further other asker waiting x y before stepped =>
      cases before.symm.trans activity
      obtain ⟨next, later, onward⟩ := mirrors.step stepped
      refine .serving origin since _ waiting y next rfl later fun outcome t => ?_
      rcases onward with ⟨_, rfl⟩ | onward
      · exact same outcome t
      · exact (same outcome t).trans (Execution.ends_step onward)
    | answer other asker waiting outcome s before =>
      cases before.symm.trans activity
      obtain ⟨⟨t, inStep, _⟩, callers⟩ := mirrors
      obtain ⟨run, others⟩ := plain
      have inStep : run = .done outcome t := inStep
      subst inStep
      cases callers
      refine .answered origin since outcome t ((same outcome t).mpr (.now outcome t)) ?_
      refine ticketed.result?_answer ?_ outcome
      rw [owed_eq activity]
      exact List.mem_append_right _ (List.mem_append_left _ (List.mem_singleton_self _))

end Underway

namespace Entrusted

variable {pipeline : Pipeline} {ticket : Nat} {taken wider : Engine → Prop}

theorem weaken (entrusted : e.Entrusted pipeline ticket taken)
    (more : ∀ origin, taken origin → wider origin) : e.Entrusted pipeline ticket wider := by
  cases entrusted with
  | queued listed => exact .queued listed
  | serving origin since main waiting x plain activity mirrors same =>
    exact .serving origin (more origin since) main waiting x plain activity mirrors same
  | answered origin since outcome t ends found =>
    exact .answered origin (more origin since) outcome t ends found

/-- A command that has been accepted waits its turn. -/
theorem of_command (sent : e.command pipeline = .ok (ticket, f)) :
    f.Entrusted pipeline ticket taken := by
  refine .queued ?_
  rw [(command_activity sent).2.1]
  exact List.mem_append_right _ (List.mem_singleton_self _)

/-- A step of the engine takes a command up, goes on with it, or answers it. -/
theorem step (entrusted : e.Entrusted pipeline ticket taken) (ticketed : e.Ticketed)
    (opens : e.isOpen = true) (stepped : e.step = some f) :
    f.Entrusted pipeline ticket fun origin => taken origin ∨ origin = e := by
  have serves := serves_of_step opens stepped
  have further (underway : e.Underway pipeline ticket taken) :
      f.Entrusted pipeline ticket fun origin => taken origin ∨ origin = e :=
    (underway.serves ticketed serves).entrusted.weaken fun _ => .inl
  cases entrusted with
  | answered origin since outcome t ends found =>
    exact further (.answered origin since outcome t ends found)
  | serving origin since main waiting x plain activity mirrors same =>
    exact further (.serving origin since main waiting x plain activity mirrors same)
  | queued listed =>
    cases serves with
    | take main asker x waiting other rest activity inbox =>
      rw [inbox] at listed
      rcases List.mem_cons.mp listed with here | later
      · cases here
        exact Underway.entrusted (.of_take rfl rfl)
      · exact .queued later
    | further main asker waiting x y activity stepped => exact .queued listed
    | answer main asker waiting outcome s activity => exact .queued listed

/-- **A command is evaluated in its stop and answered with its own outcome**, as long as nobody sends
a verb. -/
theorem goes (entrusted : e.Entrusted pipeline ticket taken) (ticketed : e.Ticketed)
    (opens : e.isOpen = true) (goes : e.Goes f) :
    f.Entrusted pipeline ticket fun origin => taken origin ∨ origin = e := by
  cases goes with
  | rest => exact entrusted.weaken fun _ => .inl
  | step stepped => exact entrusted.step ticketed opens stepped
  | use used =>
    have results : f.result? ticket = e.result? ticket := by
      unfold Engine.result?
      rw [used.results ticketed]
    cases used with
    | invoke other number invoked =>
      rw [not_open_of_invoke invoked] at opens
      cases opens
    | command other number sent =>
      obtain ⟨activity, inbox, files⟩ := command_activity sent
      cases entrusted with
      | queued listed =>
        refine .queued ?_
        rw [inbox]
        exact List.mem_append_left _ listed
      | serving origin since main waiting x plain doing mirrors same =>
        exact .serving origin (.inl since) main waiting x plain (activity.trans doing) mirrors
          (files ▸ same)
      | answered origin since outcome t ends found =>
        exact .answered origin (.inl since) outcome t ends (results.trans found)
    | switch enabled =>
      cases entrusted with
      | queued listed => exact .queued listed
      | serving origin since main waiting x plain doing mirrors same =>
        refine .serving origin (.inl since) main waiting
          (x.withState { e.state with stepping := enabled }) plain ?_
          (mirrors.withState ?_) same
        · show e.activity.withState _ = _
          rw [doing]
          rfl
        · unfold Engine.state
          rw [doing]
          exact ⟨rfl, rfl, rfl⟩
      | answered origin since outcome t ends found =>
        exact .answered origin (.inl since) outcome t ends (results.trans found)

/-- A command is still to be answered, or has the answer of its evaluation. -/
theorem asked_or_answered (entrusted : e.Entrusted pipeline ticket taken) :
    ticket ∈ e.commands ∨ ∃ origin outcome t, taken origin ∧
      (origin.undebugged pipeline).Ends origin.files outcome t ∧ e.result? ticket = some outcome := by
  cases entrusted with
  | queued listed => exact .inl (List.mem_append_right _ (List.mem_filterMap.mpr ⟨_, listed, rfl⟩))
  | serving origin since main waiting x plain activity mirrors same =>
    refine .inl (List.mem_append_left _ ?_)
    rw [activity]
    exact List.mem_singleton_self ticket
  | answered origin since outcome t ends found => exact .inr ⟨origin, outcome, t, since, ends, found⟩

/-- A command that has an answer has that of its evaluation. -/
theorem own (entrusted : e.Entrusted pipeline ticket taken) (ticketed : e.Ticketed)
    (found : e.result? ticket = some outcome) :
    ∃ origin t, taken origin ∧ (origin.undebugged pipeline).Ends origin.files outcome t := by
  rcases entrusted.asked_or_answered with asked | ⟨origin, other, t, since, ends, given⟩
  · rw [ticketed.unanswered (List.mem_append_right _ asked)] at found
    cases found
  · cases given.symm.trans found
    exact ⟨origin, t, since, ends⟩

/-- **As long as a command is not answered, the engine has a step to take.** -/
theorem moves (entrusted : e.Entrusted pipeline ticket taken) (lawful : e.Lawful)
    (opens : e.isOpen = true) (unanswered : e.result? ticket = none) : ∃ f, e.step = some f := by
  rcases entrusted.asked_or_answered with asked | ⟨origin, outcome, t, since, ends, given⟩
  · exact step_of_commands opens lawful asked
  · cases given.symm.trans unanswered

end Entrusted

/-! ### Commands that come to an end -/

/-- Inside a stop, an execution and its evaluation without stops go on step by step. -/
theorem Execution.Mirrors.lockstep {x y plain : Execution} (mirrors : x.Mirrors plain)
    (lawful : x.Lawful 1) (stepped : x.step files = some y) :
    ∃ further, plain.step files = some further ∧ y.Mirrors further := by
  obtain ⟨further, inStep, ⟨⟨s, go, looks⟩, _⟩ | moved⟩ := mirrors.step stepped
  · have kept := lawful.run
    rw [looks] at kept
    cases kept.1
  · exact ⟨further, moved, inStep⟩

/-- A command that is being evaluated is answered, when its evaluation comes to an end: by induction
on that. -/
theorem serves_nested {plain : Execution} {t : Interpreter} (ends : plain.Ends files outcome t) :
    ∀ {e : Engine} {main ticket : Nat} {waiting : Waiting} {x : Execution}, e.files = files →
      e.Lawful → e.Ticketed → e.isOpen = true → e.activity = .nested main waiting ticket x →
      x.Mirrors plain → ∃ f, Steps e f ∧ f.result? ticket = some outcome := by
  induction ends with
  | now outcome s =>
    intro e main ticket waiting x _ lawful ticketed _ activity mirrors
    have kept := lawful.activity
    rw [activity] at kept
    obtain ⟨run, callers⟩ := x
    obtain ⟨inStep, same⟩ := mirrors
    cases same
    cases run with
    | ready s go => cases kept.2.run.1
    | stopped stop s resume => cases kept.2.run.1
    | calling file text s back =>
      obtain ⟨t, further, other, _⟩ := inStep
      cases other
    | done result s =>
      obtain ⟨t, whole, _⟩ := inStep
      cases whole
      refine ⟨({ e with activity := .running main (waiting.execution s) } : Engine).answer ticket
        outcome, .step ?_ (.rest _), ?_⟩
      · exact step_of_stepsTo (.answer activity)
      · refine ticketed.result?_answer ?_ outcome
        rw [owed_eq activity]
        exact List.mem_append_right _ (List.mem_append_left _ (List.mem_singleton_self _))
  | step onward _ ih =>
    rename_i plain further outcome t _
    intro e main ticket waiting x same lawful ticketed opens activity mirrors
    have kept := lawful.activity
    rw [activity] at kept
    obtain ⟨f, stepped⟩ := step_of_nested activity kept.2
    have goes : e.Goes f := .step stepped
    -- The execution has not ended, since the evaluation beside it has not.
    have taken : ∃ y, x.step e.files = some y ∧ f.activity = .nested main waiting ticket y := by
      cases serves_of_step opens stepped with
      | take _ asker y other pipeline rest before inbox => cases before.symm.trans activity
      | further _ asker other y z before next =>
        cases before.symm.trans activity
        exact ⟨z, next, rfl⟩
      | answer _ asker other result s before =>
        cases before.symm.trans activity
        obtain ⟨⟨u, inStep, _⟩, callers⟩ := mirrors
        obtain ⟨run, others⟩ := plain
        have inStep : run = .done result u := inStep
        subst inStep
        cases callers
        cases onward
    obtain ⟨y, next, later⟩ := taken
    rw [same] at next
    obtain ⟨other, ahead, inStep⟩ := mirrors.lockstep kept.2 next
    cases onward.symm.trans ahead
    obtain ⟨g, steps, result⟩ := ih (goes.files.trans same) (goes.lawful lawful)
      (goes.ticketed lawful ticketed) (goes.opens lawful opens) later inStep
    exact ⟨g, .step stepped steps, result⟩

/-- **A command that is the first in a stop is answered with its own outcome**, when its evaluation
comes to an end. -/
theorem serves {pipeline : Pipeline} {ticket : Nat} {rest : List StopRequest} {t : Interpreter}
    (lawful : e.Lawful) (ticketed : e.Ticketed) (opens : e.isOpen = true)
    (free : e.isServing = false) (inbox : e.inbox = .command ticket pipeline :: rest)
    (ends : (e.undebugged pipeline).Ends e.files outcome t) :
    ∃ f, Steps e f ∧ f.result? ticket = some outcome := by
  have asked : ticket ∈ e.commands := by
    refine List.mem_append_right _ ?_
    rw [inbox]
    exact List.mem_cons_self
  obtain ⟨f, stepped⟩ := step_of_commands opens lawful asked
  have goes : e.Goes f := .step stepped
  have unserved : ∀ {main asker waiting x}, e.activity ≠ .nested main waiting asker x := by
    intro main asker waiting x activity
    unfold isServing at free
    rw [activity] at free
    cases free
  have taken : ∃ main waiting, f.activity = .nested main waiting ticket (e.undebugged pipeline) := by
    cases serves_of_step opens stepped with
    | take main asker x waiting other rest activity before =>
      cases before.symm.trans inbox
      exact ⟨main, waiting, rfl⟩
    | further main asker waiting x y activity stepped => exact absurd activity unserved
    | answer main asker waiting outcome s activity => exact absurd activity unserved
  obtain ⟨main, waiting, activity⟩ := taken
  obtain ⟨g, steps, result⟩ := serves_nested ends goes.files (goes.lawful lawful)
    (goes.ticketed lawful ticketed) (goes.opens lawful opens) activity
    (e.undebugged_mirrors pipeline)
  exact ⟨g, .step stepped steps, result⟩

end ShellSession.Engine
