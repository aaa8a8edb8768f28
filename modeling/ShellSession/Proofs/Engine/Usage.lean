/-
**Those who use an engine.**

Others may have an engine run their pipelines, may give commands into a stop, and may switch step
mode. As long as they send no verb, a stop that nobody has left stays the stop that it is.

* `Engine.Used`: a use of an engine other than a verb;
* `Engine.Goes`: what becomes of an engine to which nobody sends a verb;
* `Engine.Goes.opens`, `Engine.Goes.stop?`: **a stop that nobody has left is kept**;
* `Engine.Made`: an engine that has come about in any way.
-/

import ShellSession.Proofs.Engine.Ending

namespace ShellSession.Engine

variable {e f : Engine}

/-! ### Uses -/

/-- A use of an engine: a run begun, a command given into a stop, or step mode switched. -/
inductive Used (e : Engine) : Engine → Prop
  | invoke {f : Engine} (pipeline : Pipeline) (ticket : Nat)
      (invoked : e.invoke pipeline = .ok (ticket, f)) : Used e f
  | command {f : Engine} (pipeline : Pipeline) (ticket : Nat)
      (sent : e.command pipeline = .ok (ticket, f)) : Used e f
  | switch (enabled : Bool) : Used e (e.setStepping enabled)

/-- What becomes of an engine to which nobody sends a verb: nothing, a step of its own, or a use. -/
inductive Goes (e : Engine) : Engine → Prop
  | rest : Goes e e
  | step {f : Engine} (stepped : e.step = some f) : Goes e f
  | use {f : Engine} (used : e.Used f) : Goes e f

/-- The verbs that are on their way into a stop. -/
def verbsWaiting (e : Engine) : Nat :=
  e.inbox.countP StopRequest.isVerb

/-- An engine that is not idle begins no run. -/
theorem not_open_of_invoke {pipeline : Pipeline} {ticket : Nat}
    (invoked : e.invoke pipeline = .ok (ticket, f)) : e.isOpen = false := by
  refine isOpen_of_free ?_
  unfold Engine.invoke at invoked
  split at invoked
  · rename_i s activity
    exact isStopped_eq activity
  · cases invoked

/-- A command leaves the activity as it is. -/
theorem command_activity {pipeline : Pipeline} {ticket : Nat}
    (sent : e.command pipeline = .ok (ticket, f)) : f.activity = e.activity ∧
      f.inbox = e.inbox ++ [.command ticket pipeline] ∧ f.files = e.files := by
  unfold Engine.command at sent
  split at sent
  · cases sent
    exact ⟨rfl, rfl, rfl⟩
  · cases sent

/-- A verb leaves the activity as it is. -/
theorem resume_activity {verb : Verb} (resumed : e.resume verb = .ok f) :
    f.activity = e.activity ∧ f.inbox = e.inbox ++ [.verb verb] ∧ f.files = e.files := by
  unfold Engine.resume at resumed
  split at resumed
  · cases resumed
    exact ⟨rfl, rfl, rfl⟩
  · cases resumed

/-- A run begun leaves what is on its way into a stop. -/
theorem invoke_leaves {pipeline : Pipeline} {ticket : Nat}
    (invoked : e.invoke pipeline = .ok (ticket, f)) : f.inbox = e.inbox ∧ f.files = e.files := by
  unfold Engine.invoke at invoked
  split at invoked
  · cases invoked
    exact ⟨rfl, rfl⟩
  · cases invoked

namespace Used

theorem lawful (used : e.Used f) (lawful : e.Lawful) : f.Lawful := by
  cases used with
  | invoke pipeline ticket invoked => exact (invoke_turn lawful invoked).1
  | command pipeline ticket sent => exact (command_turn lawful sent).1
  | switch enabled => exact (setStepping_turn lawful enabled).1

theorem ticketed (used : e.Used f) (ticketed : e.Ticketed) : f.Ticketed := by
  cases used with
  | invoke pipeline ticket invoked => exact (invoke_answers ticketed invoked).1
  | command pipeline ticket sent => exact (command_answers ticketed sent).1
  | switch enabled => exact (setStepping_answers ticketed enabled).1

/-- A use reports a stop when it enters one. -/
theorem turn (used : e.Used f) (lawful : e.Lawful) : Turn e f := by
  cases used with
  | invoke pipeline ticket invoked => exact (invoke_turn lawful invoked).2
  | command pipeline ticket sent =>
    obtain ⟨_, state, opens⟩ := command_turn lawful sent
    exact .quiet (state ▸ .of_eq rfl) opens
  | switch enabled =>
    obtain ⟨_, history, opens⟩ := setStepping_turn lawful enabled
    exact .quiet (.of_eq history) opens

theorem stop? (used : e.Used f) (opens : e.isOpen = true) : f.stop? = e.stop? := by
  cases used with
  | invoke pipeline ticket invoked =>
    rw [not_open_of_invoke invoked] at opens
    cases opens
  | command pipeline ticket sent =>
    unfold Engine.stop?
    rw [(command_activity sent).1]
  | switch enabled => exact e.stop?_setStepping enabled

theorem verbsWaiting (used : e.Used f) : f.verbsWaiting = e.verbsWaiting := by
  cases used with
  | invoke pipeline ticket invoked =>
    unfold Engine.verbsWaiting
    rw [(invoke_leaves invoked).1]
  | command pipeline ticket sent =>
    unfold Engine.verbsWaiting
    rw [(command_activity sent).2.1, List.countP_append]
    rfl
  | switch enabled => rfl

theorem files (used : e.Used f) : f.files = e.files := by
  cases used with
  | invoke pipeline ticket invoked => exact (invoke_leaves invoked).2
  | command pipeline ticket sent => exact (command_activity sent).2.2
  | switch enabled => rfl

/-- A use gives no answers. -/
theorem results (used : e.Used f) (ticketed : e.Ticketed) : f.results = e.results := by
  cases used with
  | invoke pipeline ticket invoked => exact (invoke_answers ticketed invoked).2.1
  | command pipeline ticket sent => exact (command_answers ticketed sent).2.1
  | switch enabled => rfl

end Used

/-! ### Without verbs -/

namespace Goes

theorem lawful (goes : e.Goes f) (lawful : e.Lawful) : f.Lawful := by
  cases goes with
  | rest => exact lawful
  | step stepped => exact (step_turn lawful stepped).1
  | use used => exact used.lawful lawful

theorem ticketed (goes : e.Goes f) (lawful : e.Lawful) (ticketed : e.Ticketed) : f.Ticketed := by
  cases goes with
  | rest => exact ticketed
  | step stepped => exact (step_answers lawful ticketed stepped).1
  | use used => exact used.ticketed ticketed

theorem turn (goes : e.Goes f) (lawful : e.Lawful) : Turn e f := by
  cases goes with
  | rest => exact .quiet (.of_eq rfl) rfl
  | step stepped => exact (step_turn lawful stepped).2
  | use used => exact used.turn lawful

/-- **A stop that nobody has left stays open.** -/
theorem opens (goes : e.Goes f) (lawful : e.Lawful) (opens : e.isOpen = true) :
    f.isOpen = true := by
  cases goes.turn lawful with
  | quiet reports stays => exact stays.trans opens
  | stop free opens reached stop reports last inside waits => exact opens

/-- **A stop that nobody has left stays the same stop.** -/
theorem stop? (goes : e.Goes f) (opens : e.isOpen = true) : f.stop? = e.stop? := by
  cases goes with
  | rest => rfl
  | step stepped => exact stop?_step opens stepped
  | use used => exact used.stop? opens

/-- No verb is on its way that was not so before. -/
theorem verbsWaiting_le (goes : e.Goes f) : f.verbsWaiting ≤ e.verbsWaiting := by
  cases goes with
  | rest => exact Nat.le_refl _
  | step stepped => exact (step_leaves stepped).2.countP_le
  | use used => exact Nat.le_of_eq used.verbsWaiting

theorem files (goes : e.Goes f) : f.files = e.files := by
  cases goes with
  | rest => rfl
  | step stepped => exact (step_leaves stepped).1
  | use used => exact used.files

/-- An answer once given stays the answer. -/
theorem result? (goes : e.Goes f) (lawful : e.Lawful) (ticketed : e.Ticketed) {ticket : Nat}
    {outcome : Outcome} (found : e.result? ticket = some outcome) :
    f.result? ticket = some outcome := by
  cases goes with
  | rest => exact found
  | step stepped => exact (step_answers lawful ticketed stepped).2.result? found
  | use used =>
    unfold Engine.result?
    rw [used.results ticketed]
    exact found

end Goes

/-! ### Engines that have come about -/

/-- An engine that has come about in any way: by steps of its own, by uses and by verbs. -/
inductive Made : Engine → Prop
  | fresh (files : Files) (release : Option Release) : Made (fresh files release)
  | step {e f : Engine} (made : Made e) (stepped : e.step = some f) : Made f
  | use {e f : Engine} (made : Made e) (used : e.Used f) : Made f
  | verb {e f : Engine} {verb : Verb} (made : Made e) (resumed : e.resume verb = .ok f) : Made f

namespace Made

/-- **However an engine has come about, it is lawful and owes its answers to different tickets.** -/
theorem lawful (made : e.Made) : e.Lawful ∧ e.Ticketed := by
  induction made with
  | fresh files release =>
    exact ⟨⟨rfl, fun _ => rfl⟩, List.nodup_nil, nofun, nofun⟩
  | step made stepped ih =>
    exact ⟨(step_turn ih.1 stepped).1, (step_answers ih.1 ih.2 stepped).1⟩
  | use made used ih => exact ⟨used.lawful ih.1, used.ticketed ih.2⟩
  | verb made resumed ih =>
    exact ⟨(resume_turn ih.1 resumed).1, (resume_answers ih.2 resumed).1⟩

end Made

end ShellSession.Engine
