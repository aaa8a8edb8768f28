/-
**Journeys.**

A journey is a plan that is being carried out: what is still to be done in the text in hand, or the stop
that it waits in, and the calls of script files to which it is to come back. On its way it passes the
points at which the debugger may stop: statements, before anything of them is evaluated, and calls of the
command that asks for a stop. Whether it stops at a statement depends on step mode and on the breakpoints
at that moment; inside the evaluation of a command in a stop nothing stops.

* `Mark`, `Mark.stop?`: the points at which the debugger may stop, and the stop that it makes there;
* `Directive`, `Act`: what others decide on a journey, and all that is on record of it;
* `Moves`, `Travels`: the moves of a journey, and journeys from one point to another with their record;
* `Travels.recorded`, `Travels.placed`: **what every journey keeps, and what is on record of it**.
-/

import ShellSession.Proofs.Engine.Plan
import ShellSession.Proofs.Engine.Nesting
import ShellSession.Proofs.Engine.Reports

namespace ShellSession.Engine

/-! ### Points at which the debugger may stop -/

/-- The stops that have been reported. -/
def stopsIn (history : Array Notice) : List Stop :=
  history.toList.filterMap Notice.stop?

/-- The enabled breakpoint on a line with the lowest number. -/
def Breakpoints.lowest? (breakpoints : Breakpoints) (line : Nat) : Option Breakpoint :=
  (breakpoints.table.filter fun breakpoint =>
    breakpoint.enabled && breakpoint.line = line).minOn? Breakpoint.id

/-- A point at which the debugger may stop, and the state that it is passed in: a statement is reached,
or a command asks for a stop, in a statement with a position or outside of statements. -/
inductive Mark where
  | reached (statement : Script.Statement) (state : Interpreter)
  | waits (position : Option Position) (state : Interpreter)

namespace Mark

/-- The state in which a point is passed. -/
def state : Mark → Interpreter
  | reached _ s => s
  | waits _ s => s

/-- The stop that the debugger makes, at the line of the statement: before a statement in step mode, and
else on the breakpoint with the lowest number; and whenever a command asks for it. -/
def stop? : Mark → Option Stop
  | reached statement s =>
    if s.stepping then some ⟨.step, statement.place.line⟩
    else (s.breakpoints.lowest? statement.place.line).map fun breakpoint =>
      ⟨.breakpoint breakpoint.id, statement.place.line⟩
  | waits (some position) _ => some ⟨.waitDebugger, position.place.line⟩
  | waits none s => some ⟨.waitDebugger, s.frame.line⟩

end Mark

/-- What others decide on a journey: the verb that leaves a stop, and step mode. -/
inductive Directive where
  | verb (verb : Verb)
  | mode (enabled : Bool)

/-- Step mode behind a directive. -/
def Directive.stepping : Directive → Bool
  | .verb left => left.isStep
  | .mode enabled => enabled

/-- What is on record of a journey. -/
inductive Act where
  | mark (mark : Mark)
  | directive (directive : Directive)

namespace Act

/-- The stop that the debugger makes. -/
def stop? : Act → Option Stop
  | .mark point => point.stop?
  | .directive _ => none

/-- What others have decided. -/
def directive? : Act → Option Directive
  | .mark _ => none
  | .directive decided => some decided

end Act

/-! ### Journeys -/

/-- The call of a script file to which a journey comes back: the frame, and the position and the plan of
what called the file. -/
structure Return where
  frame : Frame
  position : Option Position
  next : List Value → Interpreter → Plan

/-- What a journey is about to do: it goes on with a plan, or waits in a stop with a plan behind it. -/
inductive Standing where
  | going (plan : Plan)
  | stopped (stop : Stop) (go : Interpreter → Plan)

/-- A plan that is being carried out. -/
structure Journey where
  standing : Standing
  state : Interpreter
  returns : List Return

/-- The beginning of a pipeline. -/
def Journey.begin (pipeline : Pipeline) (s : Interpreter) : Journey :=
  ⟨.going (plan pipeline s), s, []⟩

/-- A journey with step mode switched. -/
def Journey.switched (journey : Journey) (enabled : Bool) : Journey :=
  { journey with state := { journey.state with stepping := enabled } }

/-- The state in which the text of a script file begins. -/
def fileState (file : String) (arguments : Arguments) (s : Interpreter) : Interpreter :=
  { bindArguments arguments s with frame := ⟨some file, s.frame.line⟩ }

/-- A move of a journey, with what is put on record. -/
inductive Moves (files : Files) : Journey → List Act → Journey → Prop
  | passes {statement : Script.Statement} {go : Interpreter → Plan} {s t : Interpreter}
      {returns : List Return} (inside : s.nested ≠ 0) (here : t = atLine statement.place.line s) :
      Moves files ⟨.going (.reached statement go), s, returns⟩ [] ⟨.going (go t), t, returns⟩
  | reaches {statement : Script.Statement} {go : Interpreter → Plan} {s t : Interpreter}
      {returns : List Return} (outside : s.nested = 0) (here : t = atLine statement.place.line s)
      (free : (Mark.reached statement t).stop? = none) :
      Moves files ⟨.going (.reached statement go), s, returns⟩ [.mark (.reached statement t)]
        ⟨.going (go t), t, returns⟩
  | stops {statement : Script.Statement} {go : Interpreter → Plan} {s t : Interpreter} {stop : Stop}
      {returns : List Return} (outside : s.nested = 0) (here : t = atLine statement.place.line s)
      (hits : (Mark.reached statement t).stop? = some stop) :
      Moves files ⟨.going (.reached statement go), s, returns⟩ [.mark (.reached statement t)]
        ⟨.stopped stop go, enterStop stop t, returns⟩
  | assigns {name : String} {value : Value} {next : Interpreter → Plan} {s t : Interpreter}
      {returns : List Return} (set : t = s.setVariable name value) :
      Moves files ⟨.going (.assigns name value next), s, returns⟩ [] ⟨.going (next t), t, returns⟩
  | performs {position : Option Position} {name : String} {arguments : Arguments}
      {input : List Value} {next : List Value → Interpreter → Plan} {s t : Interpreter}
      {outcome : Outcome} {returns : List Return}
      (performed : call files name arguments input s = .done outcome t) :
      Moves files ⟨.going (.calls position name arguments input next), s, returns⟩ []
        ⟨.going (proceed position next outcome t), t, returns⟩
  | waits {position : Option Position} {name : String} {arguments : Arguments}
      {input : List Value} {next : List Value → Interpreter → Plan} {s : Interpreter} {stop : Stop}
      {returns : List Return} (outside : s.nested = 0)
      (builtin : Builtin.ofName? name = some .waitDebugger)
      (hits : (Mark.waits position s).stop? = some stop) :
      Moves files ⟨.going (.calls position name arguments input next), s, returns⟩
        [.mark (.waits position s)] ⟨.stopped stop (next []), enterStop stop s, returns⟩
  | enters {position : Option Position} {name text : String} {arguments : Arguments}
      {input : List Value} {next : List Value → Interpreter → Plan} {s t : Interpreter}
      {returns : List Return} (unknown : Builtin.ofName? name = none)
      (isFile : files.isFile name = true) (read : files.readText name = .ok text)
      (bound : t = fileState name arguments s) :
      Moves files ⟨.going (.calls position name arguments input next), s, returns⟩ []
        ⟨.going (planText text ending t), t, ⟨s.frame, position, next⟩ :: returns⟩
  | leaves {outcome : Outcome} {s t : Interpreter} {caller : Return} {returns : List Return}
      (left : t = { s with frame := caller.frame }) :
      Moves files ⟨.going (.ended outcome), s, caller :: returns⟩ []
        ⟨.going (proceed caller.position caller.next outcome t), t, returns⟩
  | resumes {stop : Stop} {go : Interpreter → Plan} {verb : Verb} {s t : Interpreter}
      {returns : List Return} (leads : verb ≠ .stop) (left : t = leaveStop verb s) :
      Moves files ⟨.stopped stop go, s, returns⟩ [.directive (.verb verb)]
        ⟨.going (go t), t, returns⟩
  | halts {stop : Stop} {go : Interpreter → Plan} {s : Interpreter} {returns : List Return} :
      Moves files ⟨.stopped stop go, s, returns⟩ [.directive (.verb .stop)]
        ⟨.going (.ended (.error .stopped)), leaveStop .stop s, returns⟩
  | switches (journey : Journey) (enabled : Bool) :
      Moves files journey [.directive (.mode enabled)] (journey.switched enabled)

/-- A journey from one point to another, with what is on record. A command that is evaluated in a stop is
a journey of its own, which begins in the state of the stop and ends there. -/
inductive Travels (files : Files) : Journey → List Act → Journey → Prop
  | rest (journey : Journey) : Travels files journey [] journey
  | move {origin b c : Journey} {acts more : List Act} (travels : Travels files origin acts b)
      (moves : Moves files b more c) : Travels files origin (acts ++ more) c
  | serves {origin : Journey} {acts inner : List Act} {stop : Stop} {go : Interpreter → Plan}
      {s t : Interpreter} {returns : List Return} {pipeline : Pipeline} {outcome : Outcome}
      (travels : Travels files origin acts ⟨.stopped stop go, s, returns⟩)
      (evaluates : Travels files (.begin pipeline (openNested s)) inner
        ⟨.going (.ended outcome), t, []⟩) :
      Travels files origin (acts ++ inner) ⟨.stopped stop go, closeNested s.frame t, returns⟩

/-! ### Breakpoints by number -/

/-- Breakpoints by ascending number, none of which is beyond the number given out last. -/
structure Breakpoints.Ordered (breakpoints : Breakpoints) : Prop where
  ascending : breakpoints.table.Pairwise fun earlier later => earlier.id < later.id
  given : ∀ breakpoint ∈ breakpoints.table, breakpoint.id ≤ breakpoints.created

namespace Breakpoints.Ordered

variable {breakpoints : Breakpoints}

theorem add (ordered : breakpoints.Ordered) (line : Nat) : (breakpoints.add line).2.Ordered := by
  refine ⟨?_, fun breakpoint member => ?_⟩
  · refine List.pairwise_append.mpr ⟨ordered.ascending, List.pairwise_singleton _ _, ?_⟩
    intro earlier member later new
    rw [List.mem_singleton.mp new]
    exact Nat.lt_succ_of_le (ordered.given earlier member)
  · rcases List.mem_append.mp member with old | new
    · exact Nat.le_succ_of_le (ordered.given breakpoint old)
    · rw [List.mem_singleton.mp new]
      exact Nat.le_refl _

theorem remove (ordered : breakpoints.Ordered) {id : Nat} {removed : Breakpoint × Breakpoints}
    (found : breakpoints.remove id = some removed) : removed.2.Ordered := by
  obtain ⟨breakpoint, _, rfl⟩ := Option.map_eq_some_iff.mp found
  exact ⟨ordered.ascending.sublist List.filter_sublist,
    fun other member => ordered.given other (List.mem_of_mem_filter member)⟩

/-- **The first breakpoint on a line is the one with the lowest number.** -/
theorem lowest? (ordered : breakpoints.Ordered) (line : Nat) :
    breakpoints.lowest? line = breakpoints.on? line := by
  unfold Breakpoints.lowest? on?
  rw [← List.head?_filter]
  have ascending := ordered.ascending.sublist (List.filter_sublist
    (p := fun breakpoint => breakpoint.enabled && breakpoint.line = line))
  cases listed : breakpoints.table.filter fun breakpoint =>
    breakpoint.enabled && breakpoint.line = line with
  | nil => rfl
  | cons first rest =>
    rw [listed] at ascending
    rw [List.minOn?_cons_eq_some_minOn, List.minOn_eq_head, List.head_cons, List.head?_cons]
    intro breakpoint member
    rcases List.mem_cons.mp member with rfl | later
    · exact Nat.le_refl _
    · exact Nat.le_of_lt ((List.pairwise_cons.mp ascending).1 breakpoint later)

end Breakpoints.Ordered

/-- The debugger stops for what is pending at the line of the statement. -/
theorem Mark.stop?_reached {statement : Script.Statement} {s : Interpreter}
    (ordered : s.breakpoints.Ordered) (line : s.frame.line = statement.place.line) :
    (Mark.reached statement s).stop? = s.pending?.map fun cause => ⟨cause, s.frame.line⟩ := by
  unfold Mark.stop? Interpreter.pending?
  dsimp only
  rw [ordered.lowest?, line]
  cases s.stepping with
  | true => rfl
  | false =>
    cases s.breakpoints.on? statement.place.line <;> rfl

/-! ### Calls of commands -/

variable {files : Files}

/-- What a command does to the interpreter: nothing, or it sets a variable, or it adds or removes a
breakpoint and reports that. -/
inductive Does (s : Interpreter) : Interpreter → Prop
  | nothing : Does s s
  | sets (name : String) (value : Value) : Does s (s.setVariable name value)
  | adds (line : Nat) {breakpoint : Breakpoint} {breakpoints : Breakpoints}
      (added : s.breakpoints.add line = (breakpoint, breakpoints)) :
      Does s ({ s with breakpoints := breakpoints }.emit (.breakpoint ⟨.added, breakpoint⟩))
  | removes {id : Nat} {breakpoint : Breakpoint} {breakpoints : Breakpoints}
      (removed : s.breakpoints.remove id = some (breakpoint, breakpoints)) :
      Does s ({ s with breakpoints := breakpoints }.emit (.breakpoint ⟨.removed, breakpoint⟩))

namespace Does

variable {s t : Interpreter}

theorem framed (does : Does s t) : Framed s t := by
  cases does with
  | nothing => exact .refl s
  | sets name value => exact .of_eq rfl rfl rfl rfl
  | adds line added => exact .setBreakpoints s _ _
  | removes removed => exact .setBreakpoints s _ _

theorem frame (does : Does s t) : t.frame = s.frame := by
  cases does <;> rfl

theorem ordered (does : Does s t) (ordered : s.breakpoints.Ordered) : t.breakpoints.Ordered := by
  cases does with
  | nothing => exact ordered
  | sets name value => exact ordered
  | @adds line _ _ added =>
    have further := ordered.add line
    rw [added] at further
    exact further
  | removes removed => exact ordered.remove removed

end Does

/-- A breakpoint to be removed is one of the table. -/
theorem Builtin.remove_of_breakpointToRemove {breakpoints : Breakpoints} {arguments : Arguments}
    {removed : Breakpoint × Breakpoints}
    (found : breakpointToRemove breakpoints arguments = .ok removed) :
    ∃ id, breakpoints.remove id = some removed := by
  unfold breakpointToRemove at found
  simp only [bind, Except.bind] at found
  split at found
  · cases found
  split at found
  · cases found
  split at found
  · cases found
  split at found
  · rename_i id _ _ same
    cases found
    exact ⟨_, same⟩
  · cases found

/-- The stop that a command asks for. -/
def waiting (s : Interpreter) : Run (List Value) :=
  .stopped ⟨.waitDebugger, s.frame.line⟩ (enterStop ⟨.waitDebugger, s.frame.line⟩ s) fun verb t =>
    .done (if verb = .stop then .error .stopped else .ok []) (leaveStop verb t)

/-- A computation without effects, as an evaluation. -/
theorem ofExcept_does (result : Except Fault (List Value)) (s : Interpreter) :
    ∃ outcome t, Eval.ofExcept result s = .done outcome t ∧ Does s t := by
  cases result <;> exact ⟨_, _, rfl, .nothing⟩

/-- **What a built-in command comes to.** -/
theorem Builtin.run_cases (builtin : Builtin) (arguments : Arguments) (input : List Value)
    (s : Interpreter) :
    (∃ outcome t, builtin.run arguments input s = .done outcome t ∧ Does s t) ∨
      (s.nested = 0 ∧ builtin = .waitDebugger ∧ builtin.run arguments input s = waiting s) := by
  cases builtin with
  | sleep => exact .inl (ofExcept_does _ s)
  | writeOutput => exact .inl ⟨_, _, rfl, .nothing⟩
  | getVariable => exact .inl (ofExcept_does _ s)
  | listBreakpoints => exact .inl ⟨_, _, rfl, .nothing⟩
  | joinText => exact .inl ⟨_, _, rfl, .nothing⟩
  | waitDebugger =>
    show (∃ outcome t, runWaitDebugger s = .done outcome t ∧ Does s t) ∨
      (s.nested = 0 ∧ _ ∧ runWaitDebugger s = waiting s)
    unfold runWaitDebugger
    by_cases inside : 0 < s.nested
    · rw [if_pos inside]
      exact .inl ⟨_, _, rfl, .nothing⟩
    · rw [if_neg inside]
      refine .inr ⟨Nat.eq_zero_of_not_pos inside, rfl, ?_⟩
      refine congrArg (Run.stopped _ _) (funext fun verb => funext fun t => ?_)
      by_cases halts : verb = .stop
      · subst halts
        rfl
      · simp only [Run.andThen, if_neg halts]
        rfl
  | setVariable =>
    refine .inl ?_
    unfold Builtin.run
    cases runSetVariable arguments with
    | error fault => exact ⟨_, _, rfl, .nothing⟩
    | ok pair => exact ⟨_, _, rfl, .sets pair.1 pair.2⟩
  | setBreakpoint =>
    refine .inl ?_
    show ∃ outcome t, runSetBreakpoint arguments s = .done outcome t ∧ Does s t
    unfold runSetBreakpoint
    cases breakpointLine arguments with
    | error fault => exact ⟨_, _, rfl, .nothing⟩
    | ok line => exact ⟨_, _, rfl, .adds line rfl⟩
  | removeBreakpoint =>
    refine .inl ?_
    show ∃ outcome t, runRemoveBreakpoint arguments s = .done outcome t ∧ Does s t
    unfold runRemoveBreakpoint
    cases found : breakpointToRemove s.breakpoints arguments with
    | error fault => exact ⟨_, _, rfl, .nothing⟩
    | ok removed =>
      obtain ⟨id, removed⟩ := remove_of_breakpointToRemove found
      exact ⟨_, _, rfl, .removes removed⟩

/-- **What a call comes to**: the command is performed at once; or it asks for a stop; or it is a script
file. -/
theorem call_cases (files : Files) (name : String) (arguments : Arguments) (input : List Value)
    (s : Interpreter) :
    (∃ outcome t, call files name arguments input s = .done outcome t ∧ Does s t) ∨
      (s.nested = 0 ∧ Builtin.ofName? name = some .waitDebugger ∧
        call files name arguments input s = waiting s) ∨
      ∃ text, Builtin.ofName? name = none ∧ files.isFile name = true ∧
        files.readText name = .ok text ∧
        call files name arguments input s = .calling name text (bindArguments arguments s) .done := by
  unfold call
  cases known : Builtin.ofName? name with
  | none =>
    show (∃ outcome t, runFile files name arguments s = .done outcome t ∧ Does s t) ∨
      _ ∨ ∃ text, _ ∧ _ ∧ _ ∧ runFile files name arguments s = _
    unfold runFile
    by_cases isFile : files.isFile name = true
    · rw [if_pos isFile]
      cases files.readText name with
      | error fault => exact .inl ⟨_, _, rfl, .nothing⟩
      | ok text => exact .inr (.inr ⟨text, rfl, isFile, rfl, rfl⟩)
    · rw [if_neg isFile]
      exact .inl ⟨_, _, rfl, .nothing⟩
  | some builtin =>
    rcases builtin.run_cases arguments input s with performed | ⟨outside, rfl, same⟩
    · exact .inl performed
    · exact .inr (.inl ⟨outside, rfl, same⟩)

/-- What a command does that is performed at once. -/
theorem does_of_performed {name : String} {arguments : Arguments} {input : List Value}
    {s t : Interpreter} {outcome : Outcome}
    (performed : call files name arguments input s = .done outcome t) : Does s t := by
  rcases call_cases files name arguments input s with ⟨_, _, same, does⟩ | ⟨_, _, same⟩ |
    ⟨_, _, _, _, same⟩
  · cases same.symm.trans performed
    exact does
  · cases same.symm.trans performed
  · cases same.symm.trans performed

/-! ### What the debugger does to the interpreter -/

theorem stopsIn_push (history : Array Notice) (notice : Notice) :
    stopsIn (history.push notice) = stopsIn history ++ notice.stop?.toList := by
  unfold stopsIn
  rw [Array.toList_push, List.filterMap_append]
  cases notice <;> rfl

/-- A change of availability reports no stop. -/
theorem setAvailability_eq (s : Interpreter) (next : Availability) :
    ∃ history, s.setAvailability next = { s with availability := next, history := history } ∧
      stopsIn history = stopsIn s.history := by
  unfold Interpreter.setAvailability
  by_cases same : s.availability = next
  · rw [if_pos same, ← same]
    exact ⟨s.history, rfl, rfl⟩
  · rw [if_neg same]
    exact ⟨_, rfl, (stopsIn_push s.history _).trans (List.append_nil _)⟩

/-- A stop is reported when it is entered. -/
theorem enterStop_eq (stop : Stop) (s : Interpreter) :
    ∃ history, enterStop stop s = { s with availability := .nested, history := history } ∧
      stopsIn history = stopsIn s.history ++ [stop] := by
  obtain ⟨history, same, stops⟩ := setAvailability_eq s .nested
  unfold enterStop
  rw [same]
  exact ⟨_, rfl, (stopsIn_push history _).trans (by rw [stops]; rfl)⟩

/-- A stop is left in the step mode of the verb. -/
theorem leaveStop_eq (verb : Verb) (s : Interpreter) :
    ∃ history, leaveStop verb s =
      { s with stepping := verb.isStep, availability := .busy, history := history } ∧
      stopsIn history = stopsIn s.history := by
  obtain ⟨history, same, stops⟩ := setAvailability_eq s .busy
  unfold leaveStop
  rw [same]
  exact ⟨history, rfl, stops⟩

/-- The arguments of a script file change variables only, whatever else the state is. -/
theorem bindArguments_eq (arguments : Arguments) :
    ∃ bound : Variables → Variables, ∀ s,
      bindArguments arguments s = { s with scope := bound s.scope } := by
  have named : ∀ entries, ∃ bound : Variables → Variables, ∀ s,
      bindNamed entries s = { s with scope := bound s.scope } := by
    intro entries
    induction entries with
    | nil => exact ⟨id, fun _ => rfl⟩
    | cons entry rest ih =>
      obtain ⟨bound, same⟩ := ih
      exact ⟨fun scope => bound (scope.set entry.1 (entry.2.getD (.bool true))), fun s => same _⟩
  obtain ⟨bound, same⟩ := named arguments.named
  refine ⟨fun scope => (bound scope).set "args" (.list arguments.positional), fun s => ?_⟩
  unfold bindArguments
  rw [same]
  rfl

/-- Reports of breakpoints are none of stops. -/
theorem Framed.stopsIn {s t : Interpreter} (framed : Framed s t) :
    stopsIn t.history = stopsIn s.history := by
  obtain ⟨updates, reports⟩ := framed.reports
  have none : (updates.map Notice.breakpoint).filterMap Notice.stop? = [] := by
    rw [List.filterMap_map]
    exact List.filterMap_eq_nil_iff.mpr fun _ _ => rfl
  unfold Engine.stopsIn
  rw [reports, List.filterMap_append, none, List.append_nil]

/-! ### What holds of every journey -/

/-- Step mode behind directives, of which the last decides. -/
def steered (stepping : Bool) (directives : List Directive) : Bool :=
  directives.foldl (fun _ directive => directive.stepping) stepping

/-- What is kept on a journey, and what its record tells: the number of commands being evaluated around
it, the order of the breakpoints, the stops reported, and step mode. -/
structure Recorded (s : Interpreter) (acts : List Act) (t : Interpreter) : Prop where
  nested : t.nested = s.nested
  ordered : s.breakpoints.Ordered → t.breakpoints.Ordered
  reports : stopsIn t.history = stopsIn s.history ++ acts.filterMap Act.stop?
  mode : t.stepping = steered s.stepping (acts.filterMap Act.directive?)
  outside : ∀ mark, .mark mark ∈ acts → mark.state.nested = 0

namespace Recorded

variable {s t u : Interpreter} {acts more : List Act}

/-- Nothing is on record, and breakpoints and reports stay. -/
theorem silent (nested : t.nested = s.nested) (stepping : t.stepping = s.stepping)
    (breakpoints : t.breakpoints = s.breakpoints) (history : t.history = s.history) :
    Recorded s [] t :=
  ⟨nested, fun ordered => breakpoints ▸ ordered, by rw [history]; exact (List.append_nil _).symm,
    stepping, nofun⟩

theorem trans (first : Recorded s acts t) (second : Recorded t more u) :
    Recorded s (acts ++ more) u := by
  refine ⟨second.nested.trans first.nested, second.ordered ∘ first.ordered, ?_, ?_, ?_⟩
  · rw [second.reports, first.reports, List.filterMap_append, List.append_assoc]
  · rw [second.mode, first.mode, List.filterMap_append]
    exact (List.foldl_append).symm
  · intro mark member
    rcases List.mem_append.mp member with old | new
    · exact first.outside mark old
    · exact second.outside mark new

/-- What a command does is not on record. -/
theorem of_does (does : Does s t) : Recorded s [] t :=
  ⟨does.framed.nested, does.ordered, does.framed.stopsIn.trans (List.append_nil _).symm,
    does.framed.stepping, nofun⟩

/-- A point that is passed without a stop. -/
theorem of_mark (mark : Mark) (here : mark.state = s) (outside : s.nested = 0)
    (free : mark.stop? = none) : Recorded s [.mark mark] s := by
  refine ⟨rfl, id, ?_, rfl, fun other member => ?_⟩
  · have none : (Act.mark mark).stop? = none := free
    rw [List.filterMap_cons_none none]
    exact (List.append_nil _).symm
  · cases List.mem_singleton.mp member
    exact here ▸ outside

/-- A stop that is entered. -/
theorem of_stop (mark : Mark) {stop : Stop} (here : mark.state = s) (outside : s.nested = 0)
    (hits : mark.stop? = some stop) : Recorded s [.mark mark] (enterStop stop s) := by
  obtain ⟨history, same, stops⟩ := enterStop_eq stop s
  rw [same]
  refine ⟨rfl, id, ?_, rfl, fun other member => ?_⟩
  · have here : (Act.mark mark).stop? = some stop := hits
    rw [List.filterMap_cons_some here]
    exact stops
  · cases List.mem_singleton.mp member
    exact here ▸ outside

/-- A stop that is left. -/
theorem of_leave (verb : Verb) (s : Interpreter) :
    Recorded s [.directive (.verb verb)] (leaveStop verb s) := by
  obtain ⟨history, same, stops⟩ := leaveStop_eq verb s
  rw [same]
  exact ⟨rfl, id, stops.trans (List.append_nil _).symm, rfl, by simp⟩

/-- What a command in a stop has kept and put on record, seen from the stop. -/
theorem closeNested (inside : Recorded (openNested s) acts t) (frame : Frame) :
    Recorded s acts (closeNested frame t) :=
  ⟨congrArg (· - 1) inside.nested, inside.ordered, inside.reports, inside.mode, inside.outside⟩

end Recorded

/-- **What every move keeps and puts on record.** -/
theorem Moves.recorded {a b : Journey} {acts : List Act} (moves : Moves files a acts b) :
    Recorded a.state acts b.state := by
  cases moves with
  | passes inside here => exact here ▸ .silent rfl rfl rfl rfl
  | @reaches statement go s t returns outside here free =>
    have moved : Recorded s [] t := here ▸ .silent rfl rfl rfl rfl
    exact moved.trans (.of_mark (.reached statement t) rfl (moved.nested.trans outside) free)
  | @stops statement go s t stop returns outside here hits =>
    have moved : Recorded s [] t := here ▸ .silent rfl rfl rfl rfl
    exact moved.trans (.of_stop (.reached statement t) rfl (moved.nested.trans outside) hits)
  | assigns set => exact set ▸ .silent rfl rfl rfl rfl
  | performs performed => exact .of_does (does_of_performed performed)
  | waits outside builtin hits => exact .of_stop _ rfl outside hits
  | enters unknown isFile read bound =>
    obtain ⟨scope, same⟩ := bindArguments_eq _
    subst bound
    unfold fileState
    rw [same]
    exact .silent rfl rfl rfl rfl
  | leaves left => exact left ▸ .silent rfl rfl rfl rfl
  | resumes leads left => exact left ▸ .of_leave _ _
  | halts => exact .of_leave .stop _
  | switches enabled =>
    exact ⟨rfl, id, (List.append_nil _).symm, rfl, by simp⟩

/-- **What every journey keeps, and what is on record of it.** -/
theorem Travels.recorded {a b : Journey} {acts : List Act} (travels : Travels files a acts b) :
    Recorded a.state acts b.state := by
  induction travels with
  | rest journey => exact .silent rfl rfl rfl rfl
  | move travels moves ih => exact ih.trans moves.recorded
  | serves travels evaluates ih inside => exact ih.trans (inside.closeNested _)

/-- What is about to be done is placed in a frame. -/
def Standing.Placed : Standing → Frame → Prop
  | going planned, frame => planned.Placed frame
  | stopped _ go, frame => ∀ t : Interpreter, t.frame = frame → (go t).Placed frame

/-- A journey whose statements call commands at their places. -/
structure Journey.Placed (journey : Journey) : Prop where
  standing : journey.standing.Placed journey.state.frame
  returns : ∀ caller ∈ journey.returns, ∀ output (t : Interpreter), t.frame = caller.frame →
    (caller.next output t).Placed caller.frame

/-- A call that has failed leaves nothing to be placed. -/
theorem proceed_placed {position : Option Position} {next : List Value → Interpreter → Plan}
    {frame : Frame} (behind : ∀ output (t : Interpreter), t.frame = frame → (next output t).Placed frame)
    (outcome : Outcome) {t : Interpreter} (here : t.frame = frame) :
    (proceed position next outcome t).Placed frame := by
  cases outcome with
  | error error => exact trivial
  | ok output => exact behind output t here

/-- **Every move stays at the places of the statements.** -/
theorem Moves.placed {a b : Journey} {acts : List Act} (moves : Moves files a acts b)
    (placed : a.Placed) : b.Placed := by
  obtain ⟨standing, returns⟩ := placed
  cases moves with
  | passes inside here =>
    subst here
    exact ⟨standing _ rfl, returns⟩
  | reaches outside here free =>
    subst here
    exact ⟨standing _ rfl, returns⟩
  | stops outside here hits =>
    subst here
    obtain ⟨history, same, _⟩ := enterStop_eq _ _
    refine ⟨?_, returns⟩
    rw [same]
    exact fun t here => here ▸ standing t here
  | assigns set =>
    subst set
    exact ⟨standing _ rfl, returns⟩
  | performs performed =>
    have same := (does_of_performed performed).frame
    exact ⟨same ▸ proceed_placed standing.2 _ same, returns⟩
  | waits outside builtin hits =>
    obtain ⟨history, same, _⟩ := enterStop_eq _ _
    refine ⟨?_, returns⟩
    rw [same]
    exact fun t here => standing.2 [] t here
  | enters unknown isFile read bound =>
    refine ⟨planText_placed ending_placed _ _, fun caller member => ?_⟩
    rcases List.mem_cons.mp member with rfl | old
    · exact standing.2
    · exact returns caller old
  | leaves left =>
    subst left
    exact ⟨proceed_placed (returns _ List.mem_cons_self) _ rfl,
      fun caller member => returns caller (List.mem_cons_of_mem _ member)⟩
  | resumes leads left =>
    subst left
    obtain ⟨history, same, _⟩ := leaveStop_eq _ _
    rw [same]
    exact ⟨standing _ rfl, returns⟩
  | halts => exact ⟨trivial, returns⟩
  | switches enabled => exact ⟨standing, returns⟩

/-- **Every journey stays at the places of the statements.** -/
theorem Travels.placed {a b : Journey} {acts : List Act} (travels : Travels files a acts b)
    (placed : a.Placed) : b.Placed := by
  induction travels with
  | rest journey => exact placed
  | move travels moves ih => exact moves.placed (ih placed)
  | serves travels evaluates ih inside =>
    obtain ⟨standing, returns⟩ := ih placed
    exact ⟨standing, returns⟩

theorem Journey.begin_placed (pipeline : Pipeline) (s : Interpreter) : (begin pipeline s).Placed :=
  ⟨plan_placed pipeline s, nofun⟩

/-- One journey after another. -/
theorem Travels.trans {a b c : Journey} {acts more : List Act} (first : Travels files a acts b)
    (second : Travels files b more c) : Travels files a (acts ++ more) c := by
  induction second with
  | rest journey => exact (List.append_nil acts).symm ▸ first
  | move travels moves ih =>
    rw [← List.append_assoc]
    exact (ih first).move moves
  | serves travels evaluates ih inside =>
    rw [← List.append_assoc]
    exact (ih first).serves evaluates

end ShellSession.Engine
