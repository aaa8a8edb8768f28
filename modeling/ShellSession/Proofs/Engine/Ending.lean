/-
**Stops that are held and stops that end.**

As long as nobody sends a verb, the engine stays in its stop, whatever commands it answers there. As
soon as it is told to stop, its run comes to an end: every script file that is being run is left, and
the holder of the ticket is told that execution was stopped.

* `Engine.Held`: a run that is held in a stop, kept by all but verbs;
* `Engine.Ending`: a run that has been told to stop, and stays so until it is answered;
* `Engine.Ending.answered`: **a run that has been told to stop is answered**.
-/

import ShellSession.Proofs.Engine.Tickets

namespace ShellSession.Engine

variable {e f : Engine} {ticket : Nat}

/-! ### Stops that are held -/

/-- A run that is held in a stop that nobody has left. -/
structure Held (ticket : Nat) (stop : Stop) (e : Engine) : Prop where
  opens : e.isOpen = true
  main : e.main? = some ticket
  inside : e.stop? = some stop

/-- An engine in a stop is doing a run. -/
theorem exists_main_of_stopped (inside : e.isStopped = true) : ∃ ticket, e.main? = some ticket := by
  unfold isStopped stop? at inside
  unfold main?
  cases activity : e.activity with
  | idle s =>
    rw [activity] at inside
    cases inside
  | running ticket x => exact ⟨ticket, rfl⟩
  | nested ticket waiting asker x => exact ⟨ticket, rfl⟩

/-- An engine in a stop that nobody has left is doing a run. -/
theorem exists_main (opens : e.isOpen = true) : ∃ ticket, e.main? = some ticket :=
  exists_main_of_stopped (Bool.and_eq_true_iff.mp opens).1

/-- An engine in a stop that nobody has left is held there. -/
theorem exists_held (opens : e.isOpen = true) : ∃ ticket stop, e.Held ticket stop := by
  obtain ⟨ticket, main⟩ := exists_main opens
  obtain ⟨stop, inside⟩ := Option.isSome_iff_exists.mp (Bool.and_eq_true_iff.mp opens).1
  exact ⟨ticket, stop, opens, main, inside⟩

/-- The verb with which the next step leaves a stop. -/
def leaving? (e : Engine) : Option Verb :=
  match e.activity, e.inbox with
  | .running _ ⟨.stopped _ _ _, _⟩, .verb verb :: _ => some verb
  | _, _ => none

/-- A stop that nobody has left is not left with the next step. -/
theorem leaving?_of_open (opens : e.isOpen = true) : e.leaving? = none := by
  have verbs := (Bool.and_eq_true_iff.mp opens).2
  unfold leaving?
  split
  · rename_i verb rest activity inbox
    rw [inbox] at verbs
    cases verbs
  · rfl

/-- A stop that is not left with a step is the same behind it. -/
theorem stop?_stay (inside : e.isStopped = true) (stays : e.leaving? = none)
    (stepped : e.step = some f) : f.stop? = e.stop? := by
  cases stepsTo_of_step stepped with
  | run activity taken => cases inside.symm.trans (isStopped_of_run activity taken)
  | finish activity => cases inside.symm.trans (isStopped_eq activity)
  | leave activity inbox =>
    unfold leaving? at stays
    rw [activity, inbox] at stays
    cases stays
  | take activity _ | further activity _ | answer activity => exact (stop?_eq activity).symm

/-- A stop that nobody has left is the same behind a step of the engine. -/
theorem stop?_step (opens : e.isOpen = true) (stepped : e.step = some f) : f.stop? = e.stop? :=
  stop?_stay (Bool.and_eq_true_iff.mp opens).1 (leaving?_of_open opens) stepped

/-- **A run that is held stays held behind a step of the engine.** -/
theorem Held.step {stop : Stop} (held : e.Held ticket stop) (lawful : e.Lawful)
    (ticketed : e.Ticketed) (stepped : e.step = some f) : f.Held ticket stop := by
  have opens : f.isOpen = true := by
    cases (step_turn lawful stepped).2 with
    | quiet reports stays => exact stays.trans held.opens
    | stop free opens reached stop reports last inside waits => exact opens
  refine ⟨opens, ?_, (stop?_step held.opens stepped).trans held.inside⟩
  rcases (step_answers lawful ticketed stepped).2.main with same | ⟨none, _⟩
  · exact same.trans held.main
  · obtain ⟨other, main⟩ := exists_main opens
    rw [none] at main
    cases main

/-- A command leaves a run held. -/
theorem Held.command {stop : Stop} (held : e.Held ticket stop) (lawful : e.Lawful)
    (ticketed : e.Ticketed) {pipeline : Pipeline} {asker : Nat}
    (sent : e.command pipeline = .ok (asker, f)) : f.Held ticket stop := by
  refine ⟨(command_turn lawful sent).2.2.trans held.opens,
    (command_answers ticketed sent).2.2.1.trans held.main, ?_⟩
  unfold Engine.command at sent
  split at sent
  · cases sent
    exact held.inside
  · cases sent

/-- Step mode leaves a run held. -/
theorem Held.setStepping {stop : Stop} (held : e.Held ticket stop) (lawful : e.Lawful)
    (ticketed : e.Ticketed) (enabled : Bool) : (e.setStepping enabled).Held ticket stop :=
  ⟨(setStepping_turn lawful enabled).2.2.trans held.opens,
    (setStepping_answers ticketed enabled).2.1.trans held.main,
    (e.stop?_setStepping enabled).trans held.inside⟩

/-! ### Stops that end -/

/-- A run that has been told to stop: the verb is the next that the engine takes; or the run has
ended, and script files are being left; or the holder of the ticket has been told. -/
inductive Ending (ticket : Nat) (e : Engine) : Prop
  | told (stop : Stop) (s : Interpreter) (resume : Verb → Interpreter → Run (List Value))
      (callers : List Caller) (rest : List StopRequest)
      (activity : e.activity = .running ticket ⟨.stopped stop s resume, callers⟩)
      (inbox : e.inbox = .verb .stop :: rest) : Ending ticket e
  | ending (s : Interpreter) (callers : List Caller)
      (activity : e.activity = .running ticket ⟨.done (.error .stopped) s, callers⟩) :
      Ending ticket e
  | ended (answer : e.result? ticket = some (.error .stopped)) : Ending ticket e

namespace Ending

/-- A run that is told to stop ends with the next step. -/
theorem step_told {stop : Stop} {s : Interpreter} {resume : Verb → Interpreter → Run (List Value)}
    {callers : List Caller} {rest : List StopRequest} (lawful : e.Lawful)
    (activity : e.activity = .running ticket ⟨.stopped stop s resume, callers⟩)
    (inbox : e.inbox = .verb .stop :: rest) : ∃ f t, e.step = some f ∧
      f.activity = .running ticket ⟨.done (.error .stopped) t, callers⟩ := by
  have kept := lawful.activity
  rw [activity] at kept
  obtain ⟨t, ended⟩ := kept.run.2.2.2 s
  refine ⟨{ e with
    inbox := []
    activity := .running ticket ⟨resume .stop s, callers⟩
    results := e.results ++ refusals rest }, t, ?_, ?_⟩
  · exact step_of_stepsTo (.leave activity inbox)
  · show Activity.running ticket ⟨resume .stop s, callers⟩ = _
    rw [ended]

/-- A run that has ended leaves one script file after another, and is answered behind the last. -/
theorem step_ending {s : Interpreter} {caller : Caller} {callers : List Caller} (lawful : e.Lawful)
    (activity : e.activity = .running ticket ⟨.done (.error .stopped) s, caller :: callers⟩) :
    ∃ f t, e.step = some f ∧
      f.activity = .running ticket ⟨.done (.error .stopped) t, callers⟩ := by
  have kept := lawful.activity
  rw [activity] at kept
  obtain ⟨t, ended⟩ := (kept.callers caller List.mem_cons_self).2 { s with frame := caller.frame }
  refine ⟨{ e with
    activity := .running ticket ⟨Execution.leave caller (.error .stopped) s, callers⟩ }, t, ?_, ?_⟩
  · exact step_of_stepsTo (.run activity rfl)
  · show Activity.running ticket ⟨Execution.leave caller (.error .stopped) s, callers⟩ = _
    unfold Execution.leave
    rw [ended]

/-- A run that has ended and has left all script files is answered with the next step. -/
theorem step_ended {s : Interpreter} (ticketed : e.Ticketed)
    (activity : e.activity = .running ticket ⟨.done (.error .stopped) s, []⟩) :
    ∃ f, e.step = some f ∧ f.result? ticket = some (.error .stopped) := by
  refine ⟨({ e with activity := .idle (closeRun s) } : Engine).answer ticket (.error .stopped),
    ?_, ?_⟩
  · exact step_of_stepsTo (.finish activity)
  · refine ticketed.result?_answer ?_ _
    rw [owed_eq activity]
    exact List.mem_append_left _ (List.mem_singleton_self ticket)

/-- **A run that has been told to stop stays so behind a step of the engine.** -/
theorem step (ending : e.Ending ticket) (lawful : e.Lawful) (ticketed : e.Ticketed)
    (stepped : e.step = some f) : f.Ending ticket := by
  cases ending with
  | told stop s resume callers rest activity inbox =>
    obtain ⟨g, t, same, next⟩ := step_told lawful activity inbox
    cases same.symm.trans stepped
    exact .ending t callers next
  | ending s callers activity =>
    cases callers with
    | nil =>
      obtain ⟨g, same, answer⟩ := step_ended ticketed activity
      cases same.symm.trans stepped
      exact .ended answer
    | cons caller callers =>
      obtain ⟨g, t, same, next⟩ := step_ending lawful activity
      cases same.symm.trans stepped
      exact .ending t callers next
  | ended answer => exact .ended ((step_answers lawful ticketed stepped).2.result? answer)

/-- A run begun meanwhile is one behind the answer. -/
theorem invoke (ending : e.Ending ticket) (ticketed : e.Ticketed) {pipeline : Pipeline}
    {other : Nat} (invoked : e.invoke pipeline = .ok (other, f)) : f.Ending ticket := by
  cases ending with
  | ended answer =>
    refine .ended ?_
    unfold Engine.result?
    rw [(invoke_answers ticketed invoked).2.1]
    exact answer
  | told stop s resume callers rest activity inbox =>
    unfold Engine.invoke at invoked
    rw [activity] at invoked
    cases invoked
  | ending s callers activity =>
    unfold Engine.invoke at invoked
    rw [activity] at invoked
    cases invoked

/-- What is sent into the stop later is dropped. -/
theorem command (ending : e.Ending ticket) {pipeline : Pipeline} {asker : Nat}
    (sent : e.command pipeline = .ok (asker, f)) : f.Ending ticket := by
  unfold Engine.command at sent
  split at sent
  · cases sent
    cases ending with
    | told stop s resume callers rest activity inbox =>
      refine .told stop s resume callers (rest ++ [.command (e.lastTicket + 1) pipeline])
        activity ?_
      rw [inbox]
      rfl
    | ending s callers activity => exact .ending s callers activity
    | ended answer => exact .ended answer
  · cases sent

/-- Step mode does not matter any more. -/
theorem setStepping (ending : e.Ending ticket) (enabled : Bool) :
    (e.setStepping enabled).Ending ticket := by
  cases ending with
  | told stop s resume callers rest activity inbox =>
    refine .told stop { e.state with stepping := enabled } resume callers rest ?_ inbox
    show e.activity.withState _ = _
    rw [activity]
    rfl
  | ending s callers activity =>
    refine .ending { e.state with stepping := enabled } callers ?_
    show e.activity.withState _ = _
    rw [activity]
    rfl
  | ended answer => exact .ended answer

/-- A verb that comes later is dropped. -/
theorem resume (ending : e.Ending ticket) {verb : Verb} (resumed : e.resume verb = .ok f) :
    f.Ending ticket := by
  unfold Engine.resume at resumed
  split at resumed
  · cases resumed
    cases ending with
    | told stop s resume callers rest activity inbox =>
      refine .told stop s resume callers (rest ++ [.verb verb]) activity ?_
      rw [inbox]
      rfl
    | ending s callers activity => exact .ending s callers activity
    | ended answer => exact .ended answer
  · cases resumed

/-- The answer, once given, is that execution was stopped. -/
theorem outcome (ending : e.Ending ticket) (ticketed : e.Ticketed) {outcome : Outcome}
    (found : e.result? ticket = some outcome) : outcome = .error .stopped := by
  have waits : ∀ x, e.activity = .running ticket x → False := by
    intro x activity
    have owed : ticket ∈ e.owed := by
      rw [owed_eq activity]
      exact List.mem_append_left _ (List.mem_singleton_self ticket)
    rw [ticketed.unanswered owed] at found
    cases found
  cases ending with
  | told stop s resume callers rest activity inbox => exact (waits _ activity).elim
  | ending s callers activity => exact (waits _ activity).elim
  | ended answer => exact Option.some.inj (found.symm.trans answer)

end Ending

/-- The inbox of a stop holds commands or verbs. -/
theorem inbox_nil (none : e.commands = []) (opens : e.isOpen = true) : e.inbox = [] := by
  have verbs := (Bool.and_eq_true_iff.mp opens).2
  unfold commands at none
  cases inbox : e.inbox with
  | nil => rfl
  | cons request rest =>
    rw [inbox] at verbs none
    cases request with
    | command asker pipeline => cases (List.append_eq_nil_iff.mp none).2
    | verb verb => cases verbs

/-- An engine in a stop that has no command to evaluate holds a run. -/
theorem exists_stopped_of_commands (inside : e.isStopped = true) (none : e.commands = []) :
    ∃ ticket stop s resume callers,
      e.activity = .running ticket ⟨.stopped stop s resume, callers⟩ := by
  unfold commands at none
  cases activity : e.activity with
  | idle s => cases inside.symm.trans (isStopped_eq activity)
  | running ticket x =>
    obtain ⟨run, callers⟩ := x
    cases run with
    | stopped stop s resume => exact ⟨ticket, stop, s, resume, callers, rfl⟩
    | _ => cases inside.symm.trans (isStopped_eq activity)
  | nested ticket waiting asker x =>
    rw [activity] at none
    cases (List.append_eq_nil_iff.mp none).1

/-- **A run that is held, with no command in its stop, ends when the verb `stop` is sent.** -/
theorem Held.told {stop : Stop} (held : e.Held ticket stop) (none : e.commands = [])
    (resumed : e.resume .stop = .ok f) : f.Ending ticket := by
  have empty := inbox_nil none held.opens
  have inside : e.isStopped = true := (Bool.and_eq_true_iff.mp held.opens).1
  obtain ⟨other, stop, s, resume, callers, activity⟩ := exists_stopped_of_commands inside none
  cases held.main.symm.trans (main?_eq activity)
  unfold Engine.resume at resumed
  rw [if_pos inside] at resumed
  cases resumed
  exact .told stop s resume callers [] activity (by rw [empty]; rfl)

/-- Steps of the engine by itself. -/
inductive Steps : Engine → Engine → Prop
  | rest (e : Engine) : Steps e e
  | step {e f g : Engine} : e.step = some f → Steps f g → Steps e g

/-- **A run that has been told to stop is answered**: the engine needs nobody else for it. -/
theorem Ending.answered (ending : e.Ending ticket) (lawful : e.Lawful) (ticketed : e.Ticketed) :
    ∃ f, Steps e f ∧ f.result? ticket = some (.error .stopped) := by
  -- By induction on the script files that are still to be left.
  have leaves : ∀ callers (e : Engine) s, e.Lawful → e.Ticketed →
      e.activity = .running ticket ⟨.done (.error .stopped) s, callers⟩ →
      ∃ f, Steps e f ∧ f.result? ticket = some (.error .stopped) := by
    intro callers
    induction callers with
    | nil =>
      intro e s lawful ticketed activity
      obtain ⟨f, stepped, answer⟩ := step_ended ticketed activity
      exact ⟨f, .step stepped (.rest f), answer⟩
    | cons caller callers ih =>
      intro e s lawful ticketed activity
      obtain ⟨f, t, stepped, next⟩ := step_ending lawful activity
      obtain ⟨g, steps, answer⟩ := ih f t (step_turn lawful stepped).1
        (step_answers lawful ticketed stepped).1 next
      exact ⟨g, .step stepped steps, answer⟩
  cases ending with
  | told stop s resume callers rest activity inbox =>
    obtain ⟨f, t, stepped, next⟩ := step_told lawful activity inbox
    obtain ⟨g, steps, answer⟩ := leaves callers f t (step_turn lawful stepped).1
      (step_answers lawful ticketed stepped).1 next
    exact ⟨g, .step stepped steps, answer⟩
  | ending s callers activity => exact leaves callers e s lawful ticketed activity
  | ended answer => exact ⟨e, .rest e, answer⟩

end ShellSession.Engine
