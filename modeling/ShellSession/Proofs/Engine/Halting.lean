/-
**The verb `stop` ends everything at once.**

A run that is told to stop in a stop, however deep, comes to its end without doing anything more: every
construct that encloses the stop, and every script file that is being run, passes the end on as it is. The
variables and the breakpoints are left as they were in the stop; the engine reports that it is busy,
available and idle, and nothing else; step mode is off; and the next run is accepted.

* `Made.passes`: **a run in a stop passes the verb on, and so do its callers**;
* `Engine.Halting`: an engine whose run has been told to stop, in exactly which state;
* `Engine.Halting.after`: every event keeps that, up to the answer;
* `Engine.stop_halts`: **the verb `stop` ends the run at once**.
-/

import ShellSession.Proofs.Engine.Stopping

namespace ShellSession.Engine

variable {e f : Engine} {ticket : Nat} {s t : Interpreter} {callers : List Caller}

/-! ### Passing the end on -/

/-- A run that ends when it is told to stop, and leaves the stop. -/
def Passes (resume : Verb → Eval (List Value)) : Prop :=
  ∀ t, resume .stop t = .done (.error .stopped) (leaveStop .stop t)

/-- A caller that ends when the file that it called has been stopped, and does nothing more. -/
def Caller.Passes (caller : Caller) : Prop :=
  ∀ t, caller.back (.error .stopped) t = .done (.error .stopped) t

/-- What calls a script file passes the end on, whatever position it has. -/
theorem Return.passes (files : Files) (caller : Return) : (caller.caller files).Passes := by
  intro t
  obtain ⟨frame, position, next⟩ := caller
  cases position <;> rfl

/-- **A run in a stop passes the verb on, and so do its callers.** -/
theorem Made.passes {stop : Stop} {resume : Verb → Eval (List Value)} (made : e.Made)
    (activity : e.activity = .running ticket ⟨.stopped stop s resume, callers⟩) :
    Passes resume ∧ ∀ caller ∈ callers, caller.Passes := by
  cases made.guided with
  | idle t doing outside ordered => cases doing.symm.trans activity
  | busy origin other acts begun follows =>
    cases follows with
    | ended acts outcome t travels doing found => cases doing.symm.trans activity
    | serving acts inner stop go t returns pipeline asker inside travels evaluates rests doing =>
      cases doing.symm.trans activity
    | running acts journey travels rests doing =>
      have same := doing.symm.trans activity
      injection same with _ same
      cases rests with
      | ended outcome t returns => cases congrArg Execution.run same
      | reached statement go t returns outside =>
        cases congrArg Execution.run ((execution_reached outside).symm.trans same)
      | entering position name text arguments input next t returns unknown isFile read =>
        cases congrArg Execution.run ((execution_entering unknown isFile read).symm.trans same)
      | stopped stop go t returns outside =>
        cases same
        refine ⟨fun t => ?_, fun caller member => ?_⟩
        · unfold resumed
          rw [if_pos rfl]
        · obtain ⟨last, _, rfl⟩ := List.mem_map.mp member
          exact last.passes _

/-! ### From the verb to the answer -/

/-- The state in which a stop has been left for good. -/
structure Left (s : Interpreter) (switched : Bool) (t : Interpreter) : Prop where
  scope : t.scope = s.scope
  breakpoints : t.breakpoints = s.breakpoints
  availability : t.availability = .busy
  stepping : switched = false → t.stepping = false
  reports : t.history.toList = s.history.toList ++ [.availability .busy]

/-- An engine whose run has been told to stop in a state, step mode having been switched since or not:
the verb is the next that the engine takes; or script files are being left; or the run is answered. The
number is that of the steps up to the answer. -/
inductive Halting (ticket : Nat) (s : Interpreter) (switched : Bool) (e : Engine) : Nat → Prop
  | told (stop : Stop) (mode : Bool) (resume : Verb → Eval (List Value)) (callers : List Caller)
      (rest : List StopRequest) (activity : e.activity = .running ticket
        ⟨.stopped stop { s with stepping := mode } resume, callers⟩)
      (inbox : e.inbox = .verb .stop :: rest) (passes : Passes resume)
      (others : ∀ caller ∈ callers, caller.Passes) : Halting ticket s switched e (callers.length + 2)
  | leaving (t : Interpreter) (callers : List Caller)
      (activity : e.activity = .running ticket ⟨.done (.error .stopped) t, callers⟩)
      (others : ∀ caller ∈ callers, caller.Passes) (left : Left s switched t) :
      Halting ticket s switched e (callers.length + 1)
  | ended (t : Interpreter) (activity : e.activity = .idle (closeRun t))
      (found : e.result? ticket = some (.error .stopped)) (left : Left s switched t) :
      Halting ticket s switched e 0

theorem setAvailability_of_ne {next : Availability} (other : s.availability ≠ next) :
    s.setAvailability next =
      { s with availability := next, history := s.history.push (.availability next) } :=
  if_neg other

/-- A run that is closed while the engine is busy. -/
theorem closeRun_of_busy (busy : t.availability = .busy) :
    closeRun t = { t with
      availability := .available
      history := (t.history.push (.availability .available)).push .idle } := by
  unfold closeRun
  rw [setAvailability_of_ne (by rw [busy]; decide)]
  rfl

/-- A stop that is left by the verb `stop`. -/
theorem left_leaveStop (nested : s.availability = .nested) (mode switched : Bool) :
    Left s switched (leaveStop .stop { s with stepping := mode }) := by
  have other : ({ s with stepping := mode } : Interpreter).availability ≠ .busy := by
    rw [nested]
    decide
  unfold leaveStop
  rw [setAvailability_of_ne other]
  exact ⟨rfl, rfl, rfl, fun _ => rfl, Array.toList_push⟩

namespace Halting

variable {switched : Bool} {steps : Nat}

/-- **A step of the engine** leaves the stop, a script file, or the run. -/
theorem step (halting : e.Halting ticket s switched steps) (nested : s.availability = .nested)
    (ticketed : e.Ticketed) (unanswered : e.result? ticket = none) :
    ∃ f, e.step = some f ∧ f.Halting ticket s switched (steps - 1) := by
  cases halting with
  | ended t activity found left => cases found.symm.trans unanswered
  | told stop mode resume callers rest activity inbox passes others =>
    refine ⟨_, step_of_stepsTo (.leave activity inbox),
      .leaving _ callers ?_ others (left_leaveStop nested mode switched)⟩
    rw [passes]
  | leaving t callers activity others left =>
    cases callers with
    | nil =>
      have found := ticketed.result?_answer (owed_of_main (main?_eq activity)) (.error .stopped)
      exact ⟨_, step_of_stepsTo (.finish activity), .ended t rfl found left⟩
    | cons caller callers =>
      have passed := others caller List.mem_cons_self { t with frame := caller.frame }
      have run : (Execution.mk (.done (.error .stopped) t) (caller :: callers)).step e.files =
          some ⟨.done (.error .stopped) { t with frame := caller.frame }, callers⟩ := by
        rw [← passed]
        rfl
      refine ⟨_, step_of_stepsTo (.run activity run), .leaving _ callers rfl
        (fun other member => others other (List.mem_cons_of_mem _ member)) ?_⟩
      exact ⟨left.scope, left.breakpoints, left.availability, left.stepping, left.reports⟩

/-- **What is asked meanwhile** switches step mode, or comes too late. -/
theorem asked (halting : e.Halting ticket s switched steps) (unanswered : e.result? ticket = none)
    (request : Ask) :
    (e.asked request).Halting ticket s (switched || request.mode?.isSome) steps := by
  have later : ∀ {t}, Left s switched t → Left s (switched || request.mode?.isSome)
      { t with stepping := request.mode?.getD t.stepping } := by
    intro t left
    refine ⟨left.scope, left.breakpoints, left.availability, fun kept => ?_, left.reports⟩
    obtain ⟨before, now⟩ := Bool.or_eq_false_iff.mp kept
    have unasked : request.mode? = none :=
      Option.isNone_iff_eq_none.mp (Option.isSome_eq_false_iff.mp now)
    rw [unasked]
    exact left.stepping before
  cases halting with
  | ended t activity found left => cases found.symm.trans unanswered
  | told stop mode resume callers rest activity inbox passes others =>
    obtain ⟨goes, ⟨more, sent⟩, _, _⟩ := asked_busy (main?_eq activity) request
    refine .told stop (request.mode?.getD mode) resume callers (rest ++ more) ?_ ?_ passes others
    · rw [goes, Engine.state, activity]
      rfl
    · rw [sent, inbox]
      rfl
  | leaving t callers activity others left =>
    obtain ⟨goes, _, _, _⟩ := asked_busy (main?_eq activity) request
    refine .leaving _ callers ?_ others (later left)
    rw [goes, Engine.state, activity]
    rfl

/-- **Every event** takes the run closer to its answer, or switches step mode. -/
theorem after (halting : e.Halting ticket s switched steps) (nested : s.availability = .nested)
    (ticketed : e.Ticketed) (unanswered : e.result? ticket = none) (event : Event) :
    (e.after event).Halting ticket s (switched || event.mode?.isSome)
      (steps - [event].countP Event.isStep) := by
  cases event with
  | ask request => exact halting.asked unanswered request
  | step =>
    obtain ⟨f, stepped, further⟩ := halting.step nested ticketed unanswered
    show (e.step.getD e).Halting ticket s (switched || false) (steps - 1)
    rw [stepped, Bool.or_false]
    exact further

/-- **Whatever happens up to the answer**: by induction on the events. -/
theorem run {events : List Event} (halting : e.Halting ticket s switched steps)
    (nested : s.availability = .nested) (made : e.Made) (unanswered : Unanswered ticket e events) :
    (e.run events).Halting ticket s (switched || events.any fun event => event.mode?.isSome)
      (steps - events.countP Event.isStep) := by
  induction events generalizing e switched steps with
  | nil =>
    show e.Halting ticket s (switched || false) steps
    rw [Bool.or_false]
    exact halting
  | cons event rest ih =>
    have later := ih (halting.after nested made.lawful.2 unanswered.1 event) (made.run [event])
      unanswered.2
    rw [Bool.or_assoc, Nat.sub_sub, ← List.countP_append] at later
    exact later

/-- An engine that has no more steps to take has answered. -/
theorem answered (halting : e.Halting ticket s switched 0) :
    e.result? ticket = some (.error .stopped) := by
  cases halting with
  | ended t activity found left => exact found

end Halting

/-- **A run that has been told to stop is answered** as soon as the engine has taken its steps, whatever is
asked meanwhile. -/
theorem Halting.answers {switched : Bool} {steps : Nat} {events : List Event}
    (halting : e.Halting ticket s switched steps) (nested : s.availability = .nested) (made : e.Made)
    (taken : steps ≤ events.countP Event.isStep) :
    (e.run events).result? ticket = some (.error .stopped) := by
  induction events generalizing e switched steps with
  | nil =>
    cases Nat.le_zero.mp taken
    exact halting.answered
  | cons event rest ih =>
    cases found : e.result? ticket with
    | none =>
      refine ih (halting.after nested made.lawful.2 found event) (made.run [event]) ?_
      rw [Nat.sub_le_iff_le_add', ← List.countP_append]
      exact taken
    | some outcome =>
      cases halting with
      | ended t activity given left => exact made.result?_run given _
      | told stop mode resume callers rest activity inbox passes others =>
        cases (made.lawful.2.unanswered (owed_of_main (main?_eq activity))).symm.trans found
      | leaving t callers activity others left =>
        cases (made.lawful.2.unanswered (owed_of_main (main?_eq activity))).symm.trans found

/-! ### The verb `stop` -/

/-- The engine ends its run in the state in which it was told to stop. Up to the answer it keeps variables
and breakpoints, does not come to wait, and reports at most that it is busy. The answer says that the run
was stopped; with it the engine has reported that it is busy, available and idle, is in step mode only if
somebody has switched it since, and accepts the next run. -/
structure Halts (ticket : Nat) (s : Interpreter) (switched : Bool) (e : Engine) : Prop where
  scope : e.state.scope = s.scope
  breakpoints : e.state.breakpoints = s.breakpoints
  moves : e.result? ticket = none → ∃ f, e.step = some f
  reports : e.result? ticket = none → e.history.toList = s.history.toList ∨
    e.history.toList = s.history.toList ++ [.availability .busy]
  answered : ∀ outcome, e.result? ticket = some outcome → outcome = .error .stopped ∧
    e.history.toList = s.history.toList ++
      [.availability .busy, .availability .available, .idle] ∧
    e.availability = .available ∧ (switched = false → e.state.stepping = false) ∧
    ∀ pipeline, ∃ next f, e.invoke pipeline = .ok (next, f)

/-- The engine behind a run that has been stopped. -/
theorem Halting.halts {switched : Bool} {steps : Nat} (halting : e.Halting ticket s switched steps)
    (nested : s.availability = .nested) (ticketed : e.Ticketed) : e.Halts ticket s switched := by
  have moves := fun unanswered : e.result? ticket = none =>
    (halting.step nested ticketed unanswered).imp fun _ stepped => stepped.1
  cases halting with
  | told stop mode resume callers rest activity inbox passes others =>
    have unanswered : e.result? ticket = none :=
      ticketed.unanswered (owed_of_main (main?_eq activity))
    have state : e.state = { s with stepping := mode } := congrArg Activity.state activity
    refine ⟨?_, ?_, moves, fun _ => .inl ?_, fun outcome found => ?_⟩
    · rw [state]
    · rw [state]
    · rw [history, state]
    · cases unanswered.symm.trans found
  | leaving t callers activity others left =>
    have unanswered : e.result? ticket = none :=
      ticketed.unanswered (owed_of_main (main?_eq activity))
    have state : e.state = t := congrArg Activity.state activity
    refine ⟨state ▸ left.scope, state ▸ left.breakpoints, moves, fun _ => .inr ?_,
      fun outcome found => ?_⟩
    · rw [history, state]
      exact left.reports
    · cases unanswered.symm.trans found
  | ended t activity found left =>
    have closed := closeRun_of_busy left.availability
    have state : e.state = closeRun t := congrArg Activity.state activity
    refine ⟨?_, ?_, moves, fun none => ?_, fun outcome given => ⟨?_, ?_, ?_, fun none => ?_, ?_⟩⟩
    · rw [state, closed]
      exact left.scope
    · rw [state, closed]
      exact left.breakpoints
    · cases none.symm.trans found
    · exact Option.some.inj (given.symm.trans found)
    · rw [history, state, closed]
      simp [left.reports]
    · rw [availability, state, closed]
    · rw [state, closed]
      exact left.stepping none
    · intro pipeline
      unfold Engine.invoke
      rw [activity]
      exact ⟨_, _, rfl⟩

/-- How deep script files have called each other in the run. -/
def depth (e : Engine) : Nat :=
  match e.activity with
  | .running _ execution => execution.callers.length
  | .nested _ waiting _ _ => waiting.callers.length
  | .idle _ => 0

/-- **The verb `stop` ends the run at once**, in whatever stop it is taken, in script files however deep
and in the middle of whatever statement. Whatever is asked of the engine meanwhile, no more happens than
that the run is answered as stopped, the variables and the breakpoints being those of the stop: the engine
reports that it is busy, available and idle and nothing else, is in no step mode, and accepts the next
run. This takes it one step for the verb, one for each script file, and one for the answer. -/
theorem stop_halts {stop : Stop} {resume : Verb → Eval (List Value)} {rest : List StopRequest}
    (made : e.Made) (activity : e.activity = .running ticket ⟨.stopped stop s resume, callers⟩)
    (inbox : e.inbox = .verb .stop :: rest) :
    (∀ events, Unanswered ticket e events →
      (e.run events).Halts ticket s (events.any fun event => event.mode?.isSome)) ∧
    ∀ events, e.depth + 2 ≤ events.countP Event.isStep →
      (e.run events).result? ticket = some (.error .stopped) := by
  obtain ⟨passes, others⟩ := made.passes activity
  have nested := made.nested activity
  have halting : e.Halting ticket s false (callers.length + 2) :=
    .told stop s.stepping resume callers rest activity inbox passes others
  have deep : e.depth = callers.length := by
    unfold depth
    rw [activity]
  exact ⟨fun events unanswered => (halting.run nested made unanswered).halts nested
    (made.run events).lawful.2, fun events taken => halting.answers nested made (deep ▸ taken)⟩

/-- An engine in a stop of a script file, in parentheses inside an assignment, with a stage behind. -/
def stoppedInFile : Engine :=
  (fresh (Files.none.add "part.ps1" "Wait-Debugger; $b = 2".toUTF8) none).run
    (.ask (.invoke ⟨[.script "$a = 1; $a += (part.ps1)", .script "$a = 3"]⟩) :: .replicate 4 .step)

/-- The assignment that encloses the stop is not made, the script file does not go on, and the next stage
does not begin. -/
theorem stop_halts_assignment :
    ∃ e stop s resume callers, stoppedInFile.resume .stop = .ok e ∧ e.Made ∧
      e.activity = .running 1 ⟨.stopped stop s resume, callers⟩ ∧ e.inbox = [.verb .stop] ∧
      e.depth = 1 ∧ (s.scope.get? "a").map Value.display = some "1" ∧
      (e.run [.step, .step, .step]).Halts 1 s false ∧
      (e.run [.step, .step, .step]).result? 1 = some (.error .stopped) := by
  have inside : stoppedInFile.isStopped = true := by decide +kernel
  have free : stoppedInFile.isServing = false := by decide +kernel
  have main : stoppedInFile.main? = some 1 := by decide +kernel
  have empty : stoppedInFile.inbox = [] := List.eq_nil_of_length_eq_zero (by decide +kernel)
  have value : (stoppedInFile.state.scope.get? "a").map Value.display = some "1" := by decide +kernel
  obtain ⟨e, sent⟩ : ∃ e, stoppedInFile.resume .stop = .ok e := by
    unfold Engine.resume
    rw [if_pos inside]
    exact ⟨_, rfl⟩
  have granted : stoppedInFile.ask (.resume .stop) = .ok e := sent
  have same : e = stoppedInFile.asked (.resume .stop) := (asked_of_granted granted).symm
  obtain ⟨ticket, stop, s, resume, callers, held⟩ := exists_stopped inside free
  rw [main?_eq held] at main
  rw [Engine.state, held] at value
  cases main
  have before : stoppedInFile.Made := Made.run (.fresh _ none) _
  have made : e.Made := before.verb sent
  have activity := (resume_activity sent).1.trans held
  have inbox : e.inbox = [.verb .stop] := by
    rw [(resume_activity sent).2.1, empty]
    rfl
  have enclosed : e.depth = 1 := by
    rw [same]
    decide +kernel
  have unanswered : Unanswered 1 e [.step, .step, .step] := by
    rw [same]
    exact ⟨Option.isNone_iff_eq_none.mp (by decide +kernel),
      Option.isNone_iff_eq_none.mp (by decide +kernel),
      Option.isNone_iff_eq_none.mp (by decide +kernel), trivial⟩
  obtain ⟨halts, answers⟩ := stop_halts made activity inbox
  have ended := answers [.step, .step, .step] (by rw [enclosed]; decide)
  exact ⟨e, stop, s, resume, callers, sent, made, activity, inbox, enclosed, value,
    (halts _ unanswered :), ended⟩

end ShellSession.Engine
