/-
**Executions follow journeys.**

An execution is a journey under the debugger: its run is what is still to be done, and its callers are
the calls to which the journey is to come back. Where the execution is suspended the journey rests; a
step of the execution is a piece of the journey from one such point to the next.

* `Journey.execution`: the execution of a journey;
* `Journey.Rests`: the points at which an execution is suspended;
* `going_reaches`: **every journey goes on to such a point by itself**;
* `Journey.Rests.step`: **a step of the execution is a piece of the journey**;
* `Journey.Rests.switched`: so is step mode being switched.
-/

import ShellSession.Proofs.Engine.Journey

namespace ShellSession.Engine

variable {files : Files}

/-! ### The execution of a journey -/

/-- What remains of a run behind a stop. -/
def resumed (files : Files) (go : Interpreter → Plan) (verb : Verb) : Eval (List Value) := fun s =>
  if verb = .stop then .done (.error .stopped) (leaveStop verb s)
  else (go (leaveStop verb s)).debugged files (leaveStop verb s)

/-- What remains of a run behind the look of the debugger. -/
def looked (files : Files) (go : Interpreter → Plan) : Eval (List Value) := fun s =>
  match s.pending? with
  | some cause => .stopped ⟨cause, s.frame.line⟩ (enterStop ⟨cause, s.frame.line⟩ s) (resumed files go)
  | none => (go s).debugged files s

/-- What remains of a caller. -/
def Return.caller (files : Files) (caller : Return) : Caller :=
  ⟨caller.frame, fun outcome s =>
    (proceed caller.position caller.next outcome s).debugged files s⟩

/-- The execution of a journey. -/
def Journey.execution (files : Files) (journey : Journey) : Execution where
  run := match journey.standing with
    | .going plan => plan.debugged files journey.state
    | .stopped stop go => .stopped stop journey.state (resumed files go)
  callers := journey.returns.map (Return.caller files)

/-- A stop behind which a plan goes on, unless the verb ends everything. -/
theorem stopped_andThen {α : Type} {value : α} {stop : Stop} {s : Interpreter}
    {next : Except EngineFailure α → Interpreter → Run (List Value)} {go : Interpreter → Plan}
    (halts : ∀ t, next (.error .stopped) t = .done (.error .stopped) t)
    (goes : ∀ t, next (.ok value) t = (go t).debugged files t) :
    Run.andThen next (.stopped stop s fun verb t =>
      .done (if verb = .stop then .error .stopped else .ok value) (leaveStop verb t)) =
        .stopped stop s (resumed files go) := by
  refine congrArg (Run.stopped stop s) (funext fun verb => funext fun t => ?_)
  dsimp only [resumed]
  by_cases ends : verb = .stop
  · rw [if_pos ends, if_pos ends]
    exact halts _
  · rw [if_neg ends, if_neg ends]
    exact goes _

/-- A plan that has reached a statement waits for the debugger's look, unless it belongs to a command
inside a stop. -/
theorem debugged_reached {statement : Script.Statement} {go : Interpreter → Plan} {s : Interpreter} :
    (Plan.reached statement go).debugged files s =
      if 0 < s.nested then
        (go (atLine statement.place.line s)).debugged files (atLine statement.place.line s)
      else .ready (atLine statement.place.line s) (looked files go) := by
  show Run.andThen _ (mayStop (atLine statement.place.line s)) = _
  unfold mayStop
  by_cases inside : 0 < s.nested
  · rw [if_pos inside, if_pos (show 0 < (atLine statement.place.line s).nested from inside)]
    rfl
  · rw [if_neg inside, if_neg (show ¬ 0 < (atLine statement.place.line s).nested from inside)]
    refine congrArg (Run.ready _) (funext fun t => ?_)
    dsimp only [looked]
    cases t.pending? with
    | none => rfl
    | some cause => exact stopped_andThen (fun _ => rfl) fun _ => rfl

/-- A call that is performed at once. -/
theorem debugged_performed {position : Option Position} {name : String} {arguments : Arguments}
    {input : List Value} {next : List Value → Interpreter → Plan} {s t : Interpreter}
    {outcome : Outcome} (performed : call files name arguments input s = .done outcome t) :
    (Plan.calls position name arguments input next).debugged files s =
      (proceed position next outcome t).debugged files t := by
  show Run.andThen _ (Run.andThen _ (call files name arguments input s)) = _
  rw [performed]
  cases outcome <;> rfl

/-- A call that asks for a stop. -/
theorem debugged_waiting {position : Option Position} {name : String} {arguments : Arguments}
    {input : List Value} {next : List Value → Interpreter → Plan} {s : Interpreter}
    (waits : call files name arguments input s = waiting s) :
    (Plan.calls position name arguments input next).debugged files s =
      .stopped ⟨.waitDebugger, s.frame.line⟩ (enterStop ⟨.waitDebugger, s.frame.line⟩ s)
        (resumed files (next [])) := by
  show Run.andThen _ (Run.andThen _ (call files name arguments input s)) = _
  rw [waits, Run.andThen_andThen]
  refine stopped_andThen (fun t => ?_) fun _ => rfl
  cases position <;> rfl

/-- A call of a script file. -/
theorem debugged_calling {position : Option Position} {name text : String} {arguments : Arguments}
    {input : List Value} {next : List Value → Interpreter → Plan} {s t : Interpreter}
    (enters : call files name arguments input s = .calling name text t .done) :
    (Plan.calls position name arguments input next).debugged files s =
      .calling name text t fun outcome u => (proceed position next outcome u).debugged files u := by
  show Run.andThen _ (Run.andThen _ (call files name arguments input s)) = _
  rw [enters]
  refine congrArg (Run.calling _ _ _) (funext fun outcome => funext fun u => ?_)
  cases outcome <;> rfl

/-! ### Points of rest -/

/-- A journey at a point at which its execution is suspended: it has come to an end; or it has reached a
statement; or it enters a script file; or it is in a stop. -/
inductive Journey.Rests (files : Files) : Journey → Prop
  | ended (outcome : Outcome) (s : Interpreter) (returns : List Return) :
      Rests files ⟨.going (.ended outcome), s, returns⟩
  | reached (statement : Script.Statement) (go : Interpreter → Plan) (s : Interpreter)
      (returns : List Return) (outside : s.nested = 0) :
      Rests files ⟨.going (.reached statement go), s, returns⟩
  | entering (position : Option Position) (name text : String) (arguments : Arguments)
      (input : List Value) (next : List Value → Interpreter → Plan) (s : Interpreter)
      (returns : List Return) (unknown : Builtin.ofName? name = none)
      (isFile : files.isFile name = true) (read : files.readText name = .ok text) :
      Rests files ⟨.going (.calls position name arguments input next), s, returns⟩
  | stopped (stop : Stop) (go : Interpreter → Plan) (s : Interpreter) (returns : List Return)
      (outside : s.nested = 0) : Rests files ⟨.stopped stop go, s, returns⟩

/-- A script file is called by a name that is no built-in command. -/
theorem call_file {name text : String} {arguments : Arguments} {input : List Value} {s : Interpreter}
    (unknown : Builtin.ofName? name = none) (isFile : files.isFile name = true)
    (read : files.readText name = .ok text) :
    call files name arguments input s = .calling name text (bindArguments arguments s) .done := by
  unfold call
  rw [unknown]
  show runFile files name arguments s = _
  unfold runFile
  rw [if_pos isFile, read]
  rfl

/-- A journey that goes on, by moves that nobody else decides on, to a point of rest at which its
execution is this one. -/
def Journey.Reaches (files : Files) (journey : Journey) (x : Execution) : Prop :=
  ∃ acts later, Travels files journey acts later ∧ later.Rests files ∧ later.execution files = x ∧
    acts.filterMap Act.directive? = []

/-- A journey that rests has reached its point of rest. -/
theorem Journey.Rests.reaches {journey : Journey} (rests : journey.Rests files) :
    journey.Reaches files (journey.execution files) :=
  ⟨[], journey, .rest journey, rests, rfl, rfl⟩

/-- A move, and the journey from there. -/
theorem Moves.before {a b : Journey} {acts : List Act} {x : Execution} (moves : Moves files a acts b)
    (own : acts.filterMap Act.directive? = []) (onward : b.Reaches files x) : a.Reaches files x := by
  obtain ⟨more, later, travels, rests, same, silent⟩ := onward
  refine ⟨acts ++ more, later, (Travels.move (.rest _) moves).trans travels, rests, same, ?_⟩
  rw [List.filterMap_append, own, silent]
  rfl

/-- **Every journey goes on to a point of rest by itself**, with the same execution: by induction on what
is planned. -/
theorem going_reaches (files : Files) (planned : Plan) : ∀ s returns, planned.Placed s.frame →
    (Journey.mk (.going planned) s returns).Reaches files
      ((Journey.mk (.going planned) s returns).execution files) := by
  induction planned with
  | ended outcome => exact fun s returns _ => (Journey.Rests.ended outcome s returns).reaches
  | reached statement go ih =>
    intro s returns placed
    by_cases inside : s.nested = 0
    · exact (Journey.Rests.reached statement go s returns inside).reaches
    · let t := atLine statement.place.line s
      have same : (Journey.mk (.going (.reached statement go)) s returns).execution files =
          (Journey.mk (.going (go t)) t returns).execution files := by
        unfold Journey.execution
        dsimp only
        rw [debugged_reached, if_pos (Nat.pos_of_ne_zero inside)]
      rw [same]
      exact (Moves.passes inside rfl).before rfl (ih t t returns (placed t rfl))
  | assigns name value next ih =>
    intro s returns placed
    let t := s.setVariable name value
    exact (Moves.assigns rfl).before rfl (ih t t returns (placed t rfl))
  | calls position name arguments input next ih =>
    intro s returns placed
    rcases call_cases files name arguments input s with ⟨outcome, t, performed, does⟩ |
      ⟨outside, builtin, waits⟩ | ⟨text, unknown, isFile, read, _⟩
    · have same : (Journey.mk (.going (.calls position name arguments input next)) s
          returns).execution files =
          (Journey.mk (.going (proceed position next outcome t)) t returns).execution files := by
        unfold Journey.execution
        dsimp only
        rw [debugged_performed performed]
      rw [same]
      refine (Moves.performs performed).before rfl ?_
      cases outcome with
      | error error => exact (Journey.Rests.ended _ t returns).reaches
      | ok output => exact ih output t t returns (does.frame.symm ▸ placed.2 output t does.frame)
    · have hits : (Mark.waits position s).stop? = some ⟨.waitDebugger, s.frame.line⟩ := by
        cases position with
        | none => rfl
        | some here =>
          have line := congrArg Frame.line (placed.1 here rfl)
          rw [line]
          rfl
      refine (Moves.waits outside builtin hits).before rfl ⟨[], _, .rest _, .stopped _ _ _ returns
        ((nested_setAvailability s .nested).trans outside), ?_, rfl⟩
      unfold Journey.execution
      dsimp only
      rw [debugged_waiting waits]
    · exact (Journey.Rests.entering position name text arguments input next s returns unknown isFile
        read).reaches

/-- The execution of a journey that has reached a statement. -/
theorem execution_reached {statement : Script.Statement} {go : Interpreter → Plan} {s : Interpreter}
    {returns : List Return} (outside : s.nested = 0) :
    (Journey.mk (.going (.reached statement go)) s returns).execution files =
      ⟨.ready (atLine statement.place.line s) (looked files go),
        returns.map (Return.caller files)⟩ := by
  unfold Journey.execution
  dsimp only
  rw [debugged_reached, if_neg (Nat.not_lt.mpr (Nat.le_of_eq outside))]

/-- The execution of a journey that enters a script file. -/
theorem execution_entering {position : Option Position} {name text : String}
    {arguments : Arguments} {input : List Value} {next : List Value → Interpreter → Plan}
    {s : Interpreter} {returns : List Return} (unknown : Builtin.ofName? name = none)
    (isFile : files.isFile name = true) (read : files.readText name = .ok text) :
    (Journey.mk (.going (.calls position name arguments input next)) s returns).execution files =
      ⟨.calling name text (bindArguments arguments s) fun outcome u =>
        (proceed position next outcome u).debugged files u, returns.map (Return.caller files)⟩ := by
  unfold Journey.execution
  dsimp only
  rw [debugged_calling (call_file unknown isFile read)]

/-! ### Steps -/

namespace Journey.Rests

variable {journey : Journey}

/-- The state of the execution has the reports of the journey and its nested commands. -/
theorem state (rests : journey.Rests files) :
    (journey.execution files).state.history = journey.state.history ∧
      (journey.execution files).state.nested = journey.state.nested ∧
      (journey.execution files).state.stepping = journey.state.stepping := by
  cases rests with
  | ended outcome s returns => exact ⟨rfl, rfl, rfl⟩
  | stopped stop go s returns outside => exact ⟨rfl, rfl, rfl⟩
  | reached statement go s returns outside =>
    rw [execution_reached outside]
    exact ⟨rfl, rfl, rfl⟩
  | entering position name text arguments input next s returns unknown isFile read =>
    obtain ⟨bound, same⟩ := bindArguments_eq arguments
    rw [execution_entering unknown isFile read, same]
    exact ⟨rfl, rfl, rfl⟩

/-- **Step mode switched at a point of rest is a move of the journey.** -/
theorem switched (rests : journey.Rests files) (enabled : Bool) :
    (journey.switched enabled).Rests files ∧ (journey.switched enabled).execution files =
      (journey.execution files).withState
        { (journey.execution files).state with stepping := enabled } := by
  cases rests with
  | ended outcome s returns => exact ⟨.ended outcome _ returns, rfl⟩
  | stopped stop go s returns outside => exact ⟨.stopped stop go _ returns outside, rfl⟩
  | reached statement go s returns outside =>
    refine ⟨.reached statement go _ returns outside, ?_⟩
    rw [execution_reached outside]
    exact execution_reached outside
  | entering position name text arguments input next s returns unknown isFile read =>
    refine ⟨.entering position name text arguments input next _ returns unknown isFile read, ?_⟩
    obtain ⟨bound, same⟩ := bindArguments_eq arguments
    rw [execution_entering unknown isFile read, same]
    refine (execution_entering unknown isFile read).trans ?_
    rw [same]
    rfl

/-- A step that looks whether to stop before a statement. -/
theorem step_reached {statement : Script.Statement} {go : Interpreter → Plan} {s : Interpreter}
    {returns : List Return} (outside : s.nested = 0) (ordered : s.breakpoints.Ordered)
    (placed : (Plan.reached statement go).Placed s.frame) :
    (Journey.mk (.going (.reached statement go)) s returns).Reaches files
      ⟨looked files go (atLine statement.place.line s), returns.map (Return.caller files)⟩ := by
  let t := atLine statement.place.line s
  have looks : (Mark.reached statement t).stop? =
      t.pending?.map fun cause => ⟨cause, t.frame.line⟩ := Mark.stop?_reached ordered rfl
  unfold looked
  cases pending : t.pending? with
  | some cause =>
    rw [pending] at looks
    have rests : (Journey.mk (.stopped ⟨cause, t.frame.line⟩ go)
        (enterStop ⟨cause, t.frame.line⟩ t) returns).Rests files :=
      .stopped _ go _ returns ((nested_setAvailability t .nested).trans outside)
    exact (Moves.stops outside rfl looks).before rfl rests.reaches
  | none =>
    rw [pending] at looks
    exact (Moves.reaches outside rfl looks).before rfl
      (going_reaches files (go t) t returns (placed t rfl))

/-- A step that enters a script file. -/
theorem step_entering {position : Option Position} {name text : String} {arguments : Arguments}
    {input : List Value} {next : List Value → Interpreter → Plan} {s : Interpreter}
    {returns : List Return} (unknown : Builtin.ofName? name = none)
    (isFile : files.isFile name = true) (read : files.readText name = .ok text) :
    (Journey.mk (.going (.calls position name arguments input next)) s returns).Reaches files
      ⟨Execution.enter files name text (bindArguments arguments s),
        ⟨(bindArguments arguments s).frame, fun outcome u =>
          (proceed position next outcome u).debugged files u⟩ ::
            returns.map (Return.caller files)⟩ := by
  let t := fileState name arguments s
  obtain ⟨bound, bind⟩ := bindArguments_eq arguments
  have frame : (bindArguments arguments s).frame = s.frame := by rw [bind]
  have same : Execution.enter files name text (bindArguments arguments s) =
      (planText text ending t).debugged files t := by
    unfold Execution.enter
    rw [runText_planned]
    dsimp only [t, fileState]
    rw [frame]
  rw [same, frame]
  exact (Moves.enters unknown isFile read rfl).before rfl
    (going_reaches files (planText text ending t) t _ (planText_placed ending_placed text t))

/-- **A step of the execution is a piece of the journey**, up to the next point of rest. -/
theorem step (rests : journey.Rests files) (ordered : journey.state.breakpoints.Ordered)
    (placed : journey.Placed) {further : Execution}
    (stepped : (journey.execution files).step files = some further) :
    journey.Reaches files further := by
  cases rests with
  | stopped stop go s returns outside => cases stepped
  | ended outcome s returns =>
    cases returns with
    | nil => cases stepped
    | cons caller returns =>
      cases stepped
      let t : Interpreter := { s with frame := caller.frame }
      have left : Moves files ⟨.going (.ended outcome), s, caller :: returns⟩ []
          ⟨.going (proceed caller.position caller.next outcome t), t, returns⟩ := .leaves rfl
      exact left.before rfl (going_reaches files _ t returns (left.placed placed).standing)
  | entering position name text arguments input next s returns unknown isFile read =>
    rw [execution_entering unknown isFile read] at stepped
    cases stepped
    exact step_entering unknown isFile read
  | reached statement go s returns outside =>
    rw [execution_reached outside] at stepped
    cases stepped
    exact step_reached outside ordered placed.standing

end Journey.Rests

end ShellSession.Engine
