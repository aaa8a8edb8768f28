/-
**Tickets of the engine.**

Whoever asks the engine for something holds a ticket, and no two hold the same. The engine owes an
answer for the run that it is doing and for the commands sent into its stop, and gives it once.

* `Engine.main?`, `Engine.commands`, `Engine.owed`: the tickets whose holders still wait;
* `Engine.Ticketed`: tickets are apart, and an answer is given to nobody who still waits;
* `Engine.Answers`: what a change of the engine does to answers;
* `Engine.step_answers`, `Engine.invoke_answers` and the like: **every change of the engine keeps
  tickets apart**.
-/

import ShellSession.Proofs.Engine.Stops

namespace ShellSession.Engine

/-! ### Who waits -/

/-- The ticket of the run that an engine is doing. -/
def Activity.main? : Activity → Option Nat
  | idle _ => none
  | running ticket _ => some ticket
  | nested ticket _ _ _ => some ticket

/-- The ticket of the command that an engine is evaluating. -/
def Activity.asker? : Activity → Option Nat
  | nested _ _ asker _ => some asker
  | _ => none

/-- The ticket of a command. -/
def StopRequest.ticket? : StopRequest → Option Nat
  | command ticket _ => some ticket
  | verb _ => none

/-- The ticket of the run that the engine is doing. -/
def main? (e : Engine) : Option Nat :=
  e.activity.main?

/-- The tickets of the commands that are not answered yet. -/
def commands (e : Engine) : List Nat :=
  e.activity.asker?.toList ++ e.inbox.filterMap StopRequest.ticket?

/-- The tickets whose holders still wait. -/
def owed (e : Engine) : List Nat :=
  e.main?.toList ++ e.commands

/-- The engine owes an answer for its run. -/
theorem owed_of_main {e : Engine} {ticket : Nat} (main : e.main? = some ticket) :
    ticket ∈ e.owed := by
  unfold owed
  rw [main]
  exact List.mem_append_left _ (List.mem_singleton_self ticket)

/-- An engine whose tickets are apart, and which has answered none of those who still wait. -/
structure Ticketed (e : Engine) : Prop where
  apart : e.owed.Nodup
  waiting : ∀ ticket ∈ e.owed, ticket ≤ e.lastTicket ∧ ∀ answer ∈ e.results, answer.1 ≠ ticket
  answered : ∀ answer ∈ e.results, answer.1 ≤ e.lastTicket

/-- What a change of the engine does to answers: none is taken back, no command is added, and the
run comes to its answer, which is not that the engine is busy, or stays the same. -/
structure Answers (e f : Engine) : Prop where
  given : ∃ more, f.results = e.results ++ more
  lastTicket : f.lastTicket = e.lastTicket
  commands : ∀ ticket ∈ f.commands, ticket ∈ e.commands
  main : f.main? = e.main? ∨ f.main? = none ∧
    ∃ ticket outcome, e.main? = some ticket ∧ f.result? ticket = some outcome ∧
      Law.quiet.Allows outcome

section

variable {e f : Engine}

/-- An answer once given is not changed by later ones. -/
theorem result?_append {ticket : Nat} {outcome : Outcome} {results more : List (Nat × Outcome)}
    (found : results.lookup ticket = some outcome) :
    (results ++ more).lookup ticket = some outcome := by
  rw [List.lookup_append, found]
  rfl

theorem Answers.result? (answers : Answers e f) {ticket : Nat} {outcome : Outcome}
    (found : e.result? ticket = some outcome) : f.result? ticket = some outcome := by
  obtain ⟨more, given⟩ := answers.given
  unfold Engine.result?
  rw [given]
  exact result?_append found

/-- Whoever still waits has no answer. -/
theorem Ticketed.unanswered (ticketed : e.Ticketed) {ticket : Nat} (owed : ticket ∈ e.owed) :
    e.result? ticket = none := by
  refine List.lookup_eq_none_iff.mpr fun answer member => ?_
  have apart := (ticketed.waiting ticket owed).2 answer member
  simpa using apart.symm

/-- Answers given to some of those who wait. -/
theorem Ticketed.settle (ticketed : e.Ticketed) (new : List (Nat × Outcome))
    (owed : e.owed.Perm (f.owed ++ new.map Prod.fst)) (results : f.results = e.results ++ new)
    (last : f.lastTicket = e.lastTicket) : f.Ticketed := by
  obtain ⟨apart, _, others⟩ := List.nodup_append.mp (owed.nodup_iff.mp ticketed.apart)
  refine ⟨apart, ?_, ?_⟩
  · rw [results, last]
    intro ticket member
    obtain ⟨bounded, unanswered⟩ :=
      ticketed.waiting ticket (owed.mem_iff.mpr (List.mem_append_left _ member))
    refine ⟨bounded, fun answer given => ?_⟩
    rcases List.mem_append.mp given with old | fresh
    · exact unanswered answer old
    · exact (others ticket member answer.1 (List.mem_map_of_mem fresh)).symm
  · rw [results, last]
    intro answer given
    rcases List.mem_append.mp given with old | fresh
    · exact ticketed.answered answer old
    · have mine := owed.mem_iff.mpr (List.mem_append_right f.owed (List.mem_map_of_mem fresh))
      exact (ticketed.waiting answer.1 mine).1

/-- A ticket given out. -/
theorem Ticketed.give (ticketed : e.Ticketed) (owed : f.owed.Perm ((e.lastTicket + 1) :: e.owed))
    (results : f.results = e.results) (last : f.lastTicket = e.lastTicket + 1) : f.Ticketed := by
  refine ⟨owed.nodup_iff.mpr (List.nodup_cons.mpr ⟨fun member => ?_, ticketed.apart⟩), ?_, ?_⟩
  · exact Nat.not_succ_le_self _ (ticketed.waiting _ member).1
  · rw [results, last]
    intro ticket member
    rcases List.mem_cons.mp (owed.mem_iff.mp member) with rfl | old
    · refine ⟨Nat.le_refl _, fun answer given same => ?_⟩
      have bounded := ticketed.answered answer given
      omega
    · obtain ⟨bounded, unanswered⟩ := ticketed.waiting ticket old
      exact ⟨Nat.le_succ_of_le bounded, unanswered⟩
  · rw [results, last]
    exact fun answer given => Nat.le_succ_of_le (ticketed.answered answer given)

/-- A change that owes the same answers. -/
theorem Ticketed.keep (ticketed : e.Ticketed) (owed : f.owed = e.owed)
    (results : f.results = e.results) (last : f.lastTicket = e.lastTicket) : f.Ticketed :=
  ticketed.settle [] (by rw [owed, List.map_nil, List.append_nil])
    (by rw [results, List.append_nil]) last

/-- The commands refused when a stop is left are those that were sent into it. -/
theorem refusals_tickets (inbox : List StopRequest) :
    (refusals inbox).map Prod.fst = inbox.filterMap StopRequest.ticket? := by
  induction inbox with
  | nil => rfl
  | cons request rest ih =>
    cases request with
    | command ticket pipeline =>
      show ticket :: (refusals rest).map Prod.fst = ticket :: rest.filterMap StopRequest.ticket?
      rw [ih]
    | verb verb => exact ih

/-- An answer to someone who waits is found. -/
theorem Ticketed.result?_answer (ticketed : e.Ticketed) {ticket : Nat} (owed : ticket ∈ e.owed)
    (outcome : Outcome) : (e.results ++ [(ticket, outcome)]).lookup ticket = some outcome := by
  have none := ticketed.unanswered owed
  unfold Engine.result? at none
  rw [List.lookup_append, none, List.lookup_cons_self]
  rfl

/-- A change that neither owes nor gives an answer. -/
theorem Answers.keep (results : f.results = e.results) (last : f.lastTicket = e.lastTicket)
    (commands : ∀ ticket ∈ f.commands, ticket ∈ e.commands) (main : f.main? = e.main?) :
    Answers e f :=
  ⟨⟨[], results.trans (List.append_nil _).symm⟩, last, commands, .inl main⟩

/-- What is owed, the activity being known. -/
theorem owed_eq {activity : Activity} (same : e.activity = activity) :
    e.owed = activity.main?.toList ++
      (activity.asker?.toList ++ e.inbox.filterMap StopRequest.ticket?) := by
  unfold owed main? commands
  rw [same]

theorem commands_eq {activity : Activity} (same : e.activity = activity) :
    e.commands = activity.asker?.toList ++ e.inbox.filterMap StopRequest.ticket? := by
  unfold commands
  rw [same]

theorem main?_eq {activity : Activity} (same : e.activity = activity) :
    e.main? = activity.main? := by
  unfold main?
  rw [same]

/-- **A step of the engine keeps tickets apart.** -/
theorem step_answers (lawful : e.Lawful) (ticketed : e.Ticketed) (stepped : e.step = some f) :
    f.Ticketed ∧ Answers e f := by
  have kept := lawful.activity
  cases stepsTo_of_step stepped with
  | run activity taken =>
    refine ⟨ticketed.keep (owed_eq activity).symm rfl rfl,
      .keep rfl rfl (fun other member => ?_) (main?_eq activity).symm⟩
    rw [commands_eq activity]
    exact member
  | @finish ticket outcome s activity =>
    have owed := owed_eq activity
    have main := main?_eq activity
    have mine : ticket ∈ e.owed := by
      rw [owed]
      exact List.mem_append_left _ (List.mem_singleton_self ticket)
    refine ⟨ticketed.settle [(ticket, outcome)] ?_ rfl rfl, ⟨[(ticket, outcome)], rfl⟩, rfl,
      (fun other member => ?_),
      .inr ⟨rfl, ticket, outcome, main, ticketed.result?_answer mine outcome, ?_⟩⟩
    · rw [owed]
      exact List.perm_append_comm
    · rw [commands_eq activity]
      exact member
    · rw [activity] at kept
      exact kept.run.2
  | take activity inbox =>
    have owed := owed_eq activity
    rw [inbox] at owed
    refine ⟨ticketed.keep owed.symm rfl rfl,
      .keep rfl rfl (fun other member => ?_) (main?_eq activity).symm⟩
    rw [commands_eq activity, inbox]
    exact member
  | @leave _ _ _ _ _ _ rest activity inbox =>
    have owed := owed_eq activity
    rw [inbox] at owed
    refine ⟨ticketed.settle (refusals rest) ?_ rfl rfl, ⟨refusals rest, rfl⟩, rfl, nofun,
      .inl (main?_eq activity).symm⟩
    rw [owed, refusals_tickets]
    exact List.Perm.refl _
  | further activity taken =>
    refine ⟨ticketed.keep (owed_eq activity).symm rfl rfl,
      .keep rfl rfl (fun other member => ?_) (main?_eq activity).symm⟩
    rw [commands_eq activity]
    exact member
  | @answer ticket asker _ outcome _ activity =>
    refine ⟨ticketed.settle [(asker, outcome)] ?_ rfl rfl, ⟨[(asker, outcome)], rfl⟩, rfl,
      (fun other member => ?_), .inl (main?_eq activity).symm⟩
    · rw [owed_eq activity]
      show (ticket :: asker :: _).Perm (ticket :: _ ++ [asker])
      have swapped : ([asker] ++ e.inbox.filterMap StopRequest.ticket?).Perm
          (e.inbox.filterMap StopRequest.ticket? ++ [asker]) := List.perm_append_comm
      exact swapped.cons ticket
    · rw [commands_eq activity]
      exact List.mem_cons_of_mem asker member

/-- The files stay, and whatever is on its way into the stop was so before a step. -/
theorem step_leaves (stepped : e.step = some f) :
    f.files = e.files ∧ f.inbox.Sublist e.inbox := by
  cases stepsTo_of_step stepped with
  | take activity inbox =>
    rw [inbox]
    exact ⟨rfl, List.sublist_cons_self _ _⟩
  | leave => exact ⟨rfl, List.nil_sublist _⟩
  | run | finish | further | answer => exact ⟨rfl, .refl _⟩

/-- **A run begun is owed under a ticket of its own.** -/
theorem invoke_answers {pipeline : Pipeline} {ticket : Nat} (ticketed : e.Ticketed)
    (invoked : e.invoke pipeline = .ok (ticket, f)) :
    f.Ticketed ∧ f.results = e.results ∧ f.main? = some ticket ∧ e.main? = none ∧
      ticket = e.lastTicket + 1 ∧ f.commands = e.commands := by
  unfold invoke at invoked
  split at invoked
  · rename_i s activity
    cases invoked
    have commands : e.commands = [] ++ e.inbox.filterMap StopRequest.ticket? := by
      unfold Engine.commands
      rw [activity]
      rfl
    refine ⟨ticketed.give ?_ rfl rfl, rfl, rfl, main?_eq activity, rfl, commands.symm⟩
    rw [owed_eq activity]
    exact List.Perm.refl _
  · cases invoked

/-- **A command is owed under a ticket of its own.** -/
theorem command_answers {pipeline : Pipeline} {ticket : Nat} (ticketed : e.Ticketed)
    (sent : e.command pipeline = .ok (ticket, f)) :
    f.Ticketed ∧ f.results = e.results ∧ f.main? = e.main? ∧
      ∀ other ∈ f.commands, other ∈ e.commands ∨ other = ticket := by
  unfold command at sent
  split at sent
  · cases sent
    have commands : ({ e with
        inbox := e.inbox ++ [.command (e.lastTicket + 1) pipeline]
        lastTicket := e.lastTicket + 1 } : Engine).commands =
        e.commands ++ [e.lastTicket + 1] := by
      unfold Engine.commands
      rw [List.filterMap_append, List.append_assoc]
      rfl
    refine ⟨ticketed.give ?_ rfl rfl, rfl, rfl, fun other member => ?_⟩
    · unfold owed
      rw [commands, ← List.append_assoc]
      exact List.perm_append_comm
    · rw [commands] at member
      exact (List.mem_append.mp member).imp id List.mem_singleton.mp
  · cases sent

/-- A verb is owed no answer. -/
theorem resume_answers {verb : Verb} (ticketed : e.Ticketed) (resumed : e.resume verb = .ok f) :
    f.Ticketed ∧ f.results = e.results ∧ f.main? = e.main? ∧ f.commands = e.commands := by
  unfold resume at resumed
  split at resumed
  · cases resumed
    have commands : ({ e with inbox := e.inbox ++ [.verb verb] } : Engine).commands =
        e.commands := by
      unfold Engine.commands
      rw [List.filterMap_append]
      exact congrArg _ (List.append_nil _)
    refine ⟨ticketed.keep ?_ rfl rfl, rfl, rfl, commands⟩
    unfold owed
    rw [commands]
    rfl
  · cases resumed

/-- Step mode is nobody's answer. -/
theorem setStepping_answers (ticketed : e.Ticketed) (enabled : Bool) :
    (e.setStepping enabled).Ticketed ∧ (e.setStepping enabled).main? = e.main? ∧
      (e.setStepping enabled).commands = e.commands := by
  have same : ∀ activity : Activity, ∀ s, (activity.withState s).main? = activity.main? ∧
      (activity.withState s).asker? = activity.asker? := by
    intro activity s
    cases activity <;> exact ⟨rfl, rfl⟩
  have main : (e.setStepping enabled).main? = e.main? := (same e.activity _).1
  have commands : (e.setStepping enabled).commands = e.commands := by
    unfold Engine.commands
    rw [show (e.setStepping enabled).activity.asker? = e.activity.asker? from (same _ _).2]
    rfl
  refine ⟨ticketed.keep ?_ rfl rfl, main, commands⟩
  unfold owed
  rw [main, commands]

end

end ShellSession.Engine
