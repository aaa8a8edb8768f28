/-
**The stops that an engine reports.**

Whoever reads the reports of an engine from some point on finds the stops that it has entered since,
in order. A change of the engine adds none to them; or it adds the one that it enters, which is the
last report then, and in which the engine waits.

* `Engine.stopsFrom`: the stops reported behind a number of reports;
* `Engine.Reports`: what a change of an engine comes to for those who read its reports;
* `Engine.Turn.reports`, `Engine.reports_of_resume`: **a change enters a stop, or reports none**;
* `Engine.step_setStepping`: step mode switched does not get a waiting engine going.
-/

import ShellSession.Proofs.Engine.Usage

namespace ShellSession

/-- The stop that a report is one of. -/
def Notice.stop? : Notice → Option Stop
  | stopped stop => some stop
  | _ => none

theorem Notice.isStop_eq (notice : Notice) : notice.isStop = notice.stop?.isSome := by
  cases notice <;> rfl

namespace Engine

variable {e f : Engine} {read : Nat} {stop : Stop}

/-- The stops reported behind a number of reports, in order. -/
def stopsFrom (e : Engine) (read : Nat) : List Stop :=
  (e.history.toList.drop read).filterMap Notice.stop?

/-- Behind all reports there are no stops. -/
theorem stopsFrom_of_le (all : e.history.size ≤ read) : e.stopsFrom read = [] := by
  unfold stopsFrom
  rw [List.drop_eq_nil_of_le (Array.length_toList ▸ all)]
  rfl

/-- The stop that comes next, if the next report is one of a stop, and the others. -/
theorem stopsFrom_step {notice : Notice} (found : e.history[read]? = some notice) :
    e.stopsFrom read = notice.stop?.toList ++ e.stopsFrom (read + 1) := by
  have taken : e.history.toList[read]? = some notice := by
    rw [Array.getElem?_toList]
    exact found
  obtain ⟨bound, value⟩ := List.getElem?_eq_some_iff.mp taken
  unfold stopsFrom
  rw [List.drop_eq_getElem_cons bound, value, List.filterMap_cons]
  cases notice.stop? <;> rfl

/-- More reports add the stops that they are of. -/
theorem stopsFrom_append {more : List Notice}
    (history : f.history.toList = e.history.toList ++ more) (within : read ≤ e.history.size) :
    f.stopsFrom read = e.stopsFrom read ++ more.filterMap Notice.stop? := by
  unfold stopsFrom
  rw [history, List.drop_append_of_le_length (Array.length_toList ▸ within),
    List.filterMap_append]

theorem filterMap_quiet {more : List Notice} (quiet : ∀ notice ∈ more, notice.isStop = false) :
    more.filterMap Notice.stop? = [] := by
  refine List.filterMap_eq_nil_iff.mpr fun notice member => ?_
  have other := quiet notice member
  rw [Notice.isStop_eq] at other
  exact Option.not_isSome_iff_eq_none.mp (Bool.eq_false_iff.mp other)

/-- What a change of an engine comes to for those who read its reports: it reports no stop, and opens
none; or it enters one, which it reports last of all, and in which it waits. -/
inductive Reports (e f : Engine) : Prop
  | none (grows : e.history.size ≤ f.history.size)
      (stops : ∀ read ≤ e.history.size, f.stopsFrom read = e.stopsFrom read)
      (opens : f.isOpen = true → e.isOpen = true) : Reports e f
  | stop (stop : Stop) (grows : e.history.size < f.history.size)
      (stops : ∀ read ≤ e.history.size, f.stopsFrom read = e.stopsFrom read ++ [stop])
      (free : e.isOpen = false) (inside : f.stop? = some stop) (waits : f.step = none)
      (last : f.history.toList.getLast? = some (.stopped stop)) : Reports e f

namespace Reports

/-- Reports are never taken back. -/
theorem grows (reports : Reports e f) : e.history.size ≤ f.history.size := by
  cases reports with
  | none grows stops opens => exact grows
  | stop stop grows stops free inside waits last => exact Nat.le_of_lt grows

/-- The same reports, and no stop that is open for the first time. -/
theorem of_eq (history : f.history = e.history) (opens : f.isOpen = true → e.isOpen = true) :
    Reports e f := by
  refine .none (Nat.le_of_eq (by rw [history])) (fun read _ => ?_) opens
  unfold stopsFrom
  rw [history]

end Reports

/-- **A change of the engine enters a stop, or reports none.** -/
theorem Turn.reports (turn : Turn e f) : Reports e f := by
  cases turn with
  | quiet reports stays =>
    obtain ⟨more, history, quiet⟩ := reports
    have longer : f.history.toList = e.history.toList ++ more := history
    refine .none ?_ (fun read within => ?_) stays.symm.trans
    · have length := congrArg List.length longer
      simp only [Array.length_toList, List.length_append] at length
      omega
    · rw [stopsFrom_append longer within, filterMap_quiet quiet, List.append_nil]
  | stop free opens reached stop reports last inside waits =>
    obtain ⟨more, history, quiet⟩ := reports
    have longer : f.history.toList = e.history.toList ++ (more ++ [.stopped stop]) := by
      unfold Engine.history
      rw [last, ← List.append_assoc, ← history]
      exact Array.toList_push
    refine .stop stop ?_ (fun read within => ?_) free inside waits ?_
    · have length := congrArg List.length longer
      simp only [Array.length_toList, List.length_append, List.length_singleton] at length
      omega
    · rw [stopsFrom_append longer within, List.filterMap_append, filterMap_quiet quiet]
      rfl
    · rw [longer, ← List.append_assoc, List.getLast?_concat]

/-- A verb reports nothing, and closes the stop that it is sent into. -/
theorem closed_of_resume {verb : Verb} (resumed : e.resume verb = .ok f) : f.isOpen = false := by
  unfold isOpen
  rw [(resume_activity resumed).2.1, List.all_append]
  simp only [List.all_cons, StopRequest.isVerb, Bool.not_true, Bool.false_and, Bool.and_false]

theorem reports_of_resume {verb : Verb} (lawful : e.Lawful) (resumed : e.resume verb = .ok f) :
    Reports e f := by
  refine .of_eq (congrArg Interpreter.history (resume_turn lawful resumed).2.1) fun opens => ?_
  rw [closed_of_resume resumed] at opens
  cases opens

/-- **Step mode switched does not get a waiting engine going.** -/
theorem step_setStepping (enabled : Bool) (waits : e.step = none) :
    (e.setStepping enabled).step = none := by
  obtain ⟨files, release, activity, inbox, lastTicket, results⟩ := e
  cases activity with
  | idle s => rfl
  | running ticket x =>
    obtain ⟨run, callers⟩ := x
    cases run with
    | stopped stop s resume =>
      cases inbox with
      | nil => cases callers <;> rfl
      | cons request rest => cases request <;> cases callers <;> cases waits
    | _ => cases callers <;> cases waits
  | nested ticket waiting asker x =>
    obtain ⟨run, callers⟩ := x
    cases run with
    | stopped stop s resume => cases callers <;> rfl
    | _ => cases callers <;> cases waits

end Engine

end ShellSession
