/-
**Journeys are staged.**

The journey of a pipeline shows a scene: what is still to be done in the journey is what remains of the
scene, and the calls to which it is to come back are those under way. The moves that a scene makes in
between do not show. When something goes wrong the scene ends and the journey unwinds, with a failure that
no call under way changes any more.

* `Hand.plan`: what remains of a scene, as a plan;
* `Hand.settles`: **what is in hand goes on, without a trace, to where the plan shows it**;
* `Scene.Shows`, `Staged`: journeys that show a scene, or unwind from the end of one;
* `Travels.staged`: **every journey of a pipeline is staged**;
* `Travels.fails`: **a journey that ends in a failure shows a scene that has failed**.
-/

import ShellSession.Proofs.Engine.Scene

namespace ShellSession.Engine

open Script

variable {files : Files} {pipeline : Pipeline}

/-! ### What remains of a scene -/

/-- What comes behind a text. -/
def Source.next (source : Source files pipeline) : List Value → Interpreter → Plan :=
  match source.origin with
  | .stage behind => fun output => planStages output behind
  | .file _ => ending

/-- What comes behind a statement. -/
def Executing.next (x : Executing files pipeline) (output : List Value) : Interpreter → Plan :=
  planStatements x.source.next (output.reverseAux x.before) x.behind

namespace Awaits

/-- The place of the statement on whose behalf a command is called. -/
def position? (awaits : Awaits files pipeline) : Option Position :=
  awaits.executing?.map Executing.position

/-- What comes behind a call. -/
def next : Awaits files pipeline → List Value → Interpreter → Plan
  | stage behind _ => fun output => planStages output behind
  | statement x next => fun output s => (next output s).planned x.position x.next s

end Awaits

/-- What remains of what is in hand. -/
def Hand.plan : Hand files pipeline → Interpreter → Plan
  | stages input ahead _, s => planStages input ahead s
  | opening source, s => planText source.text source.next s
  | reached x, s => planStatements x.source.next x.before (x.statement :: x.behind) s
  | inside x draft, s => draft.planned x.position x.next s
  | calling awaits name arguments input, _ =>
    .calls awaits.position? name arguments input awaits.next
  | finished source output, s => source.next output s

/-- The call to which a journey is to come back. -/
def Level.return (level : Level files pipeline) : Return :=
  ⟨level.frame, level.awaits.position?, level.awaits.next⟩

theorem Source.row_plan {source : Source files pipeline} {before : List Value}
    {statements : List Statement} {follows} (s : Interpreter) :
    (source.row before statements follows).plan s = planStatements source.next before statements s := by
  cases statements <;> rfl

theorem Source.row_file? {source : Source files pipeline} {before : List Value}
    {statements : List Statement} {follows} :
    (source.row before statements follows).file? = source.origin.file? := by
  cases statements <;> rfl

theorem Awaits.resume_plan (awaits : Awaits files pipeline) (output : List Value) (s : Interpreter) :
    (awaits.resume output s).plan s = awaits.next output s := by
  cases awaits <;> rfl

theorem Awaits.resume_file? (awaits : Awaits files pipeline) (output : List Value)
    (s : Interpreter) : (awaits.resume output s).file? = awaits.file? := by
  cases awaits <;> rfl

/-! ### Where the plan shows what is in hand -/

/-- What is in hand is what the plan shows next. -/
inductive Hand.Poised : Hand files pipeline → Prop
  | ended (input : List Value) (follows : [] <:+ pipeline.stages) : Poised (.stages input [] follows)
  | refused (source : Source files pipeline) (fault : SyntaxFault) (place : Place)
      (refused : Script.read source.text = .error ⟨fault, place⟩) : Poised (.opening source)
  | reached (x : Executing files pipeline) : Poised (.reached x)
  | raises (x : Executing files pipeline) (fault : Fault) :
      Poised (.inside x (.ended (.error fault)))
  | assigns (x : Executing files pipeline) (output : List Value) (name : String) (value : Value) :
      Poised (.inside x (.ended (.ok ⟨output, some (name, value)⟩)))
  | calling (awaits : Awaits files pipeline) (name : String) (arguments : Arguments)
      (input : List Value) : Poised (.calling awaits name arguments input)
  | finished (name text : String) (holds : (Origin.file name).Holds files pipeline text)
      (output : List Value) : Poised (.finished ⟨.file name, text, holds⟩ output)

/-- What is in hand goes on, without a trace, to what the plan shows next. -/
def Hand.Settles (hand : Hand files pipeline) : Prop :=
  ∀ s levels, ∃ later : Hand files pipeline,
    Scene.Travels ⟨.going hand, s, levels⟩ [] ⟨.going later, s, levels⟩ ∧ later.Poised ∧
      later.plan s = hand.plan s ∧ later.file? = hand.file?

namespace Hand

theorem Poised.settles {hand : Hand files pipeline} (poised : hand.Poised) : hand.Settles :=
  fun _ _ => ⟨hand, .rest, poised, rfl, rfl⟩

/-- A move that does not show. -/
theorem Settles.before {hand further : Hand files pipeline} (settles : further.Settles)
    (moves : ∀ s levels, Scene.Moves ⟨.going hand, s, levels⟩ [] ⟨.going further, s, levels⟩)
    (plan : ∀ s, further.plan s = hand.plan s) (file : further.file? = hand.file?) :
    hand.Settles := by
  intro s levels
  obtain ⟨later, travels, poised, same, kept⟩ := settles s levels
  exact ⟨later, (moves s levels).travels.trans travels, poised, same.trans (plan s),
    kept.trans file⟩

/-- The end of a text goes on to the stages behind it, which may be known to settle. -/
theorem finished_settles {source : Source files pipeline} (output : List Value)
    (further : ∀ behind input follows, source.origin = .stage behind →
      (stages input behind follows : Hand files pipeline).Settles) :
    (finished source output).Settles := by
  obtain ⟨origin, text, holds⟩ := source
  cases origin with
  | file name => exact (Poised.finished name text holds output).settles
  | stage behind =>
    exact (further behind output _ rfl).before (fun _ _ => .continues) (fun _ => rfl) rfl

theorem row_settles {source : Source files pipeline} (before : List Value)
    (statements : List Statement) {follows}
    (further : ∀ behind input follows, source.origin = .stage behind →
      (stages input behind follows : Hand files pipeline).Settles) :
    (source.row before statements follows).Settles := by
  cases statements with
  | nil => exact finished_settles _ further
  | cons statement behind => exact (Poised.reached _).settles

theorem opening_settles {source : Source files pipeline}
    (further : ∀ behind input follows, source.origin = .stage behind →
      (stages input behind follows : Hand files pipeline).Settles) :
    (opening source).Settles := by
  cases reads : Script.read source.text with
  | error refused => exact (Poised.refused source refused.fault refused.place reads).settles
  | ok statements =>
    refine (row_settles [] statements further).before (fun _ _ => .opens reads) (fun s => ?_)
      Source.row_file?
    rw [Source.row_plan]
    show _ = planText source.text source.next s
    unfold planText
    rw [reads]

/-- Stages settle, the texts among them that have no statements being done with. -/
theorem stages_settles (ahead : List Stage) : ∀ input follows,
    (stages input ahead follows : Hand files pipeline).Settles := by
  induction ahead with
  | nil => exact fun input follows => (Poised.ended input follows).settles
  | cons stage behind ih =>
    intro input follows
    cases stage with
    | command name parameters =>
      exact (Poised.calling _ name _ input).settles.before (fun _ _ => .command) (fun _ => rfl) rfl
    | script text =>
      have opens : (opening ⟨.stage behind, text, follows⟩ : Hand files pipeline).Settles := by
        refine opening_settles fun others input follows same => ?_
        cases same
        exact ih input follows
      exact opens.before (fun _ _ => .text) (fun _ => rfl) rfl

/-- **What is in hand settles.** -/
theorem settles (hand : Hand files pipeline) : hand.Settles := by
  have further : ∀ source : Source files pipeline, ∀ behind input follows,
      source.origin = .stage behind → (stages input behind follows : Hand files pipeline).Settles :=
    fun _ behind input follows _ => stages_settles behind input follows
  cases hand with
  | stages input ahead follows => exact stages_settles ahead input follows
  | opening source => exact opening_settles (further source)
  | reached x => exact (Poised.reached x).settles
  | calling awaits name arguments input => exact (Poised.calling awaits name arguments input).settles
  | finished source output => exact finished_settles output (further source)
  | inside x draft =>
    cases draft with
    | calls name arguments input next =>
      exact (Poised.calling _ name arguments input).settles.before (fun _ _ => .calls)
        (fun _ => rfl) rfl
    | ended result =>
      cases result with
      | error fault => exact (Poised.raises x fault).settles
      | ok yielded =>
        obtain ⟨output, assigned⟩ := yielded
        cases assigned with
        | some pair => exact (Poised.assigns x output pair.1 pair.2).settles
        | none =>
          exact (row_settles (output.reverseAux x.before) x.behind (further x.source)).before
            (fun _ _ => .yields rfl) (fun s => Source.row_plan s) Source.row_file?

end Hand

/-! ### Calls under way -/

/-- The calls under way that have led into a script file, if one is in hand: each comes back to the file
from which it has been made, and the outermost of them to no file. -/
def Seated : Option String → List (Level files pipeline) → Prop
  | file, [] => file = none
  | file, level :: levels =>
    file ≠ none ∧ level.frame.file = level.awaits.file? ∧ Seated level.awaits.file? levels

/-- What is in hand belongs to the file of the frame, and to the calls under way. -/
structure Hand.Sits (hand : Hand files pipeline) (frame : Frame)
    (levels : List (Level files pipeline)) : Prop where
  file : frame.file = hand.file?
  levels : Seated hand.file? levels

/-- What is in hand may be another part of the same text, at another line. -/
theorem Hand.Sits.moved {hand other : Hand files pipeline} {frame later : Frame}
    {levels : List (Level files pipeline)} (sits : hand.Sits frame levels)
    (same : other.file? = hand.file?) (file : later.file = frame.file) : other.Sits later levels :=
  ⟨file.trans (sits.file.trans same.symm), same ▸ sits.levels⟩

/-! ### Journeys that show a scene -/

/-- A journey shows a scene: what remains of it is what is still to be done. -/
inductive Scene.Shows : Scene files pipeline → Journey → Prop
  | going (hand : Hand files pipeline) (s : Interpreter) (levels : List (Level files pipeline))
      (sits : hand.Sits s.frame levels) :
      Shows ⟨.going hand, s, levels⟩ ⟨.going (hand.plan s), s, levels.map Level.return⟩
  | stopped (stop : Stop) (go : Interpreter → Hand files pipeline) (planned : Interpreter → Plan)
      (s : Interpreter) (levels : List (Level files pipeline))
      (sits : ∀ t : Interpreter, t.frame = s.frame → (go t).Sits s.frame levels)
      (same : ∀ t : Interpreter, t.frame = s.frame → planned t = (go t).plan t) :
      Shows ⟨.stopped stop go, s, levels⟩ ⟨.stopped stop planned, s, levels.map Level.return⟩

/-- A journey shows a scene that has been reached; or the scene has failed, and the journey unwinds with
the failure, which is kept by all calls under way. -/
inductive Staged (origin : Scene files pipeline) : List Act → Journey → Prop
  | shows {acts : List Act} {scene : Scene files pipeline} {journey : Journey}
      (travels : origin.Travels acts scene) (shows : scene.Shows journey) : Staged origin acts journey
  | failed {acts more : List Act} {scene : Scene files pipeline} {error : EngineFailure}
      {s : Interpreter} {returns : List Return} (travels : origin.Travels acts scene)
      (fails : scene.Fails error)
      (kept : returns = [] ∨ ∀ position, error.locate position = error) :
      Staged origin (acts ++ more) ⟨.going (.ended (.error error)), s, returns⟩

/-! ### What goes wrong -/

/-- A computation without effects fails without a position. -/
theorem ofExcept_fault {result : Except Fault (List Value)} {s t : Interpreter}
    {error : EngineFailure} (performed : Eval.ofExcept result s = .done (.error error) t) :
    ∃ fault, error = .runtime fault none := by
  cases result with
  | ok output => cases performed
  | error fault =>
    cases performed
    exact ⟨fault, rfl⟩

/-- A built-in command fails without a position. -/
theorem Builtin.run_fault {builtin : Builtin} {arguments : Arguments} {input : List Value}
    {s t : Interpreter} {error : EngineFailure}
    (performed : builtin.run arguments input s = .done (.error error) t) :
    ∃ fault, error = .runtime fault none := by
  cases builtin with
  | sleep => exact ofExcept_fault performed
  | getVariable => exact ofExcept_fault performed
  | writeOutput => cases performed
  | listBreakpoints => cases performed
  | joinText => cases performed
  | waitDebugger =>
    change runWaitDebugger s = _ at performed
    unfold runWaitDebugger at performed
    split at performed <;> cases performed
  | setVariable =>
    unfold Builtin.run at performed
    cases found : runSetVariable arguments with
    | ok pair =>
      rw [found] at performed
      cases performed
    | error fault =>
      rw [found] at performed
      cases performed
      exact ⟨fault, rfl⟩
  | setBreakpoint =>
    change runSetBreakpoint arguments s = _ at performed
    unfold runSetBreakpoint at performed
    split at performed
    · cases performed
      exact ⟨_, rfl⟩
    · cases performed
  | removeBreakpoint =>
    change runRemoveBreakpoint arguments s = _ at performed
    unfold runRemoveBreakpoint at performed
    split at performed
    · cases performed
      exact ⟨_, rfl⟩
    · cases performed

/-- **A command fails without a position.** -/
theorem call_fault {name : String} {arguments : Arguments} {input : List Value} {s t : Interpreter}
    {error : EngineFailure} (performed : call files name arguments input s = .done (.error error) t) :
    ∃ fault, error = .runtime fault none := by
  unfold call at performed
  cases known : Builtin.ofName? name with
  | some builtin =>
    rw [known] at performed
    exact Builtin.run_fault performed
  | none =>
    rw [known] at performed
    change runFile files name arguments s = _ at performed
    unfold runFile at performed
    split at performed
    · split at performed
      · cases performed
        exact ⟨_, rfl⟩
      · cases performed
    · cases performed
      exact ⟨_, rfl⟩

namespace Staged

variable {origin : Scene files pipeline} {acts more : List Act} {journey later : Journey}

/-- A scene that fails where the journey ends. -/
theorem of_fails {scene : Scene files pipeline} {error : EngineFailure} {s : Interpreter}
    {returns : List Return} (travels : origin.Travels acts scene) (fails : scene.Fails error)
    (kept : returns = [] ∨ ∀ position, error.locate position = error) :
    Staged origin acts ⟨.going (.ended (.error error)), s, returns⟩ := by
  have staged : Staged origin (acts ++ []) ⟨.going (.ended (.error error)), s, returns⟩ :=
    .failed travels fails kept
  rw [List.append_nil] at staged
  exact staged

/-- **A journey that unwinds goes on unwinding**, with the same failure. -/
theorem unwinds (others : List Act) {error : EngineFailure} {s : Interpreter} {returns : List Return}
    {scene : Scene files pipeline} (travels : origin.Travels acts scene) (fails : scene.Fails error)
    (kept : returns = [] ∨ ∀ position, error.locate position = error)
    (moves : Engine.Moves files ⟨.going (.ended (.error error)), s, returns⟩ more later) :
    Staged origin (acts ++ others ++ more) later := by
  rw [List.append_assoc]
  cases moves with
  | switches enabled => exact .failed travels fails kept
  | @leaves _ _ t caller returns left =>
    have still : ∀ position, error.locate position = error := kept.resolve_left nofun
    have same : located caller.position error = error := by
      cases caller.position with
      | none => rfl
      | some position => exact still position
    have ended : proceed caller.position caller.next (.error error) t = .ended (.error error) :=
      congrArg (fun error => Plan.ended (.error error)) same
    rw [ended]
    exact .failed travels fails (.inr still)

end Staged

/-! ### Moves of a journey that shows a scene -/

/-- What is shown next depends on the frame only. -/
theorem Hand.Poised.plan_eq {hand : Hand files pipeline} (poised : hand.Poised) {s t : Interpreter}
    (frame : t.frame = s.frame) : hand.plan t = hand.plan s := by
  cases poised with
  | refused source fault place refused =>
    show planText _ _ _ = planText _ _ _
    unfold planText
    rw [refused, frame]
  | _ => rfl

/-- A journey that goes on with what remains of a scene. -/
theorem Scene.Shows.of_plan {hand : Hand files pipeline} {planned : Plan} {s : Interpreter}
    {levels : List (Level files pipeline)} (same : planned = hand.plan s)
    (sits : hand.Sits s.frame levels) :
    Shows ⟨.going hand, s, levels⟩ ⟨.going planned, s, levels.map Level.return⟩ :=
  same ▸ .going hand s levels sits

/-- A statement that is begun in the file that it belongs to fails at its place. -/
theorem Executing.begun_plan (x : Executing files pipeline) {s : Interpreter}
    (file : s.frame.file = x.source.origin.file?) :
    (draftAction x.statement.action s).planned ⟨s.frame.file, x.statement.place⟩ x.next s =
      (x.begun s).plan s := by
  rw [file]
  rfl

/-- A text that is no script is refused with its place in the file in hand. -/
theorem Hand.Sits.refused {source : Source files pipeline} {fault : SyntaxFault} {place : Place}
    {s : Interpreter} {levels : List (Level files pipeline)}
    (sits : (Hand.opening source).Sits s.frame levels)
    (refused : Script.read source.text = .error ⟨fault, place⟩) :
    (Hand.opening source).plan s = .ended (.error (.parse fault ⟨source.origin.file?, place⟩)) := by
  show planText _ _ _ = _
  unfold planText
  rw [refused, sits.file]
  rfl

/-- What the failure of a command becomes is the failure of the scene: the statement under way that called
the command is the innermost one, and outside of statements no call is under way. -/
theorem Hand.Sits.located {awaits : Awaits files pipeline} {name : String} {arguments : Arguments}
    {input : List Value} {s : Interpreter} {levels : List (Level files pipeline)}
    (sits : (Hand.calling awaits name arguments input).Sits s.frame levels) (fault : Fault) :
    located awaits.position? (.runtime fault none) = .runtime fault
        (Scene.position? ⟨.going (.calling awaits name arguments input), s, levels⟩) ∧
      (levels.map Level.return = [] ∨ ∀ position,
        (located awaits.position? (.runtime fault none)).locate position =
          located awaits.position? (.runtime fault none)) := by
  cases awaits with
  | statement x next => exact ⟨rfl, .inr fun _ => rfl⟩
  | stage behind follows =>
    cases levels with
    | nil => exact ⟨rfl, .inl rfl⟩
    | cons level levels => exact absurd rfl sits.levels.1

section

variable {origin : Scene files pipeline} {acts more : List Act} {later : Journey}

/-- What is shown next is the same in another mode. -/
theorem Hand.Poised.switches {hand : Hand files pipeline} {s : Interpreter}
    {levels : List (Level files pipeline)} (poised : hand.Poised) (sits : hand.Sits s.frame levels)
    (travels : origin.Travels acts ⟨.going hand, s, levels⟩) (enabled : Bool) :
    Staged origin (acts ++ [.directive (.mode enabled)])
      ((Journey.mk (.going (hand.plan s)) s (levels.map Level.return)).switched enabled) := by
  have same : hand.plan { s with stepping := enabled } = hand.plan s := poised.plan_eq rfl
  exact .shows (travels.move (.switches _ enabled)) (.of_plan same.symm (sits.moved rfl rfl))

/-- A move at a statement: the debugger passes it, reports it, or stops at it. -/
theorem Hand.reached_moves {x : Executing files pipeline} {s : Interpreter}
    {levels : List (Level files pipeline)} (sits : (Hand.reached x).Sits s.frame levels)
    (travels : origin.Travels acts ⟨.going (.reached x), s, levels⟩)
    (moves : Engine.Moves files ⟨.going ((Hand.reached x).plan s), s, levels.map Level.return⟩ more
      later) : Staged origin (acts ++ more) later := by
  change Engine.Moves files ⟨.going (.reached x.statement fun t =>
    (draftAction x.statement.action t).planned ⟨t.frame.file, x.statement.place⟩ x.next t), s,
    levels.map Level.return⟩ more later at moves
  cases moves with
  | switches _ enabled => exact Poised.switches (.reached x) sits travels enabled
  | passes inside here =>
    subst here
    exact .shows (travels.move (.passes inside rfl))
      (.of_plan (x.begun_plan sits.file) (sits.moved rfl rfl))
  | reaches outside here free =>
    subst here
    exact .shows (travels.move (.reaches outside rfl free))
      (.of_plan (x.begun_plan sits.file) (sits.moved rfl rfl))
  | @stops _ _ _ t stop _ outside here hits =>
    obtain ⟨history, entered, _⟩ := enterStop_eq stop t
    have frame : (enterStop stop t).frame = t.frame := by rw [entered]
    have file : t.frame.file = s.frame.file := by rw [here]; rfl
    refine .shows (travels.move (.stops outside here hits)) (.stopped _ _ _ _ _ ?_ ?_)
    · exact fun u same => sits.moved rfl (frame ▸ file)
    · exact fun u same => x.begun_plan ((congrArg Frame.file (same.trans frame)).trans
        (file.trans sits.file))

/-- A move at the call of a command: it is performed or fails, stops, or enters a script file. -/
theorem Hand.calling_moves {awaits : Awaits files pipeline} {name : String} {arguments : Arguments}
    {input : List Value} {s : Interpreter} {levels : List (Level files pipeline)}
    (sits : (Hand.calling awaits name arguments input).Sits s.frame levels)
    (travels : origin.Travels acts ⟨.going (.calling awaits name arguments input), s, levels⟩)
    (moves : Engine.Moves files
      ⟨.going ((Hand.calling awaits name arguments input).plan s), s, levels.map Level.return⟩ more
      later) : Staged origin (acts ++ more) later := by
  change Engine.Moves files ⟨.going (.calls awaits.position? name arguments input awaits.next), s,
    levels.map Level.return⟩ more later at moves
  cases moves with
  | switches _ enabled =>
    exact Poised.switches (.calling awaits name arguments input) sits travels enabled
  | @performs _ _ _ _ _ _ t outcome _ performed =>
    have frame := (does_of_performed performed).frame
    cases outcome with
    | ok output =>
      exact .shows (travels.move (.performs performed))
        (.of_plan (awaits.resume_plan output t).symm
          (sits.moved (awaits.resume_file? output t) (congrArg Frame.file frame)))
    | error error =>
      obtain ⟨fault, rfl⟩ := call_fault performed
      obtain ⟨same, kept⟩ := sits.located fault
      rw [List.append_nil]
      refine .of_fails travels ?_ kept
      rw [same]
      exact .raises fault (.calls awaits name arguments input fault s t levels performed)
  | @waits _ _ _ _ _ _ stop _ outside builtin hits =>
    obtain ⟨history, entered, _⟩ := enterStop_eq stop s
    have frame : (enterStop stop s).frame = s.frame := by rw [entered]
    refine .shows (travels.move (.waits outside builtin hits)) (.stopped _ _ _ _ _ ?_ ?_)
    · exact fun u same => sits.moved (awaits.resume_file? [] u) (congrArg Frame.file frame)
    · exact fun u same => (awaits.resume_plan [] u).symm
  | enters unknown isFile read bound =>
    subst bound
    exact .shows (travels.move (.enters unknown isFile read rfl))
      (.of_plan rfl ⟨rfl, nofun, sits.file, sits.levels⟩)

/-- **A move of what is shown next** is a move of the scene, or unwinds from its end. -/
theorem Hand.Poised.moves {hand : Hand files pipeline} {s : Interpreter}
    {levels : List (Level files pipeline)} (poised : hand.Poised) (sits : hand.Sits s.frame levels)
    (travels : origin.Travels acts ⟨.going hand, s, levels⟩)
    (moves : Engine.Moves files ⟨.going (hand.plan s), s, levels.map Level.return⟩ more later) :
    Staged origin (acts ++ more) later := by
  have switches := poised.switches sits travels
  cases poised with
  | refused source fault place refused =>
    rw [sits.refused refused] at moves
    have unwound := Staged.unwinds [] travels (.refuses source fault place rfl refused)
      (.inr fun _ => rfl) moves
    rwa [List.append_nil] at unwound
  | raises x fault =>
    have unwound := Staged.unwinds [] travels (.raises fault (.evaluates x fault s levels))
      (.inr fun _ => rfl) moves
    rwa [List.append_nil] at unwound
  | ended input follows =>
    cases levels with
    | cons level levels => exact absurd rfl sits.levels.1
    | nil =>
      change Engine.Moves files ⟨.going (.ended (.ok input)), s, []⟩ more later at moves
      cases moves with
      | switches _ enabled => exact switches enabled
  | reached x => exact reached_moves sits travels moves
  | assigns x output name value =>
    change Engine.Moves files ⟨.going (.assigns name value (x.next output)), s,
      levels.map Level.return⟩ more later at moves
    cases moves with
    | switches _ enabled => exact switches enabled
    | assigns set =>
      subst set
      exact .shows (travels.move (.yields rfl))
        (.of_plan (Source.row_plan _).symm (sits.moved Source.row_file? rfl))
  | calling awaits name arguments input => exact calling_moves sits travels moves
  | finished name text holds output =>
    cases levels with
    | nil =>
      change Engine.Moves files ⟨.going (.ended (.ok output)), s, []⟩ more later at moves
      cases moves with
      | switches _ enabled => exact switches enabled
    | cons level levels =>
      change Engine.Moves files ⟨.going (.ended (.ok output)), s,
        level.return :: levels.map Level.return⟩ more later at moves
      cases moves with
      | switches _ enabled => exact switches enabled
      | leaves left =>
        subst left
        obtain ⟨_, file, seated⟩ := sits.levels
        refine .shows (travels.move (.leaves rfl)) (.of_plan ?_ ⟨?_, ?_⟩)
        · exact (level.awaits.resume_plan output _).symm
        · exact file.trans (level.awaits.resume_file? output _).symm
        · rw [level.awaits.resume_file? output]
          exact seated

/-- **A move of a journey that shows a scene**, whatever the scene has in hand. -/
theorem Scene.Shows.moves {scene : Scene files pipeline} {journey : Journey}
    (shows : scene.Shows journey) (travels : origin.Travels acts scene)
    (moves : Engine.Moves files journey more later) : Staged origin (acts ++ more) later := by
  cases shows with
  | going hand s levels sits =>
    obtain ⟨further, onward, poised, same, file⟩ := hand.settles s levels
    have reached := travels.trans onward
    rw [List.append_nil] at reached
    exact poised.moves (sits.moved file rfl) reached (same ▸ moves)
  | stopped stop go planned s levels sits same =>
    cases moves with
    | switches _ enabled =>
      exact .shows (travels.move (.switches _ enabled)) (.stopped stop go planned _ levels sits same)
    | halts => exact .failed travels (.halts stop go rfl) (.inr fun _ => rfl)
    | @resumes _ _ verb _ t _ leads left =>
      obtain ⟨history, eq, _⟩ := leaveStop_eq verb s
      have frame : t.frame = s.frame := by rw [left, eq]
      exact .shows (travels.move (.resumes leads left))
        (.of_plan (same t frame) ((sits t frame).moved rfl (congrArg Frame.file frame)))

namespace Staged

/-- **A move of a journey.** -/
theorem move {journey : Journey} (staged : Staged origin acts journey)
    (moves : Engine.Moves files journey more later) : Staged origin (acts ++ more) later := by
  cases staged with
  | shows travels shows => exact shows.moves travels moves
  | @failed _ others _ _ _ _ travels fails kept => exact unwinds others travels fails kept moves

/-- **A command that is evaluated in a stop.** -/
theorem serves {stop : Stop} {go : Interpreter → Plan} {s t : Interpreter} {returns : List Return}
    {command : Pipeline} {outcome : Outcome}
    (staged : Staged origin acts ⟨.stopped stop go, s, returns⟩)
    (evaluates : Engine.Travels files (.begin command (openNested s)) more
      ⟨.going (.ended outcome), t, []⟩) :
    Staged origin (acts ++ more) ⟨.stopped stop go, closeNested s.frame t, returns⟩ := by
  cases staged with
  | shows travels shows =>
    cases shows with
    | stopped _ further _ _ levels sits same =>
      exact .shows (travels.serves evaluates) (.stopped stop further go _ levels sits same)

end Staged

end

/-- **Every journey of a pipeline is staged**: by induction on its moves. -/
theorem Travels.staged {pipeline : Pipeline} {s : Interpreter} (host : s.frame.file = none)
    {acts : List Act} {journey : Journey}
    (travels : Travels files (.begin pipeline s) acts journey) :
    Staged (.begin files pipeline s) acts journey := by
  generalize begun : Journey.begin pipeline s = origin at travels
  induction travels with
  | rest journey =>
    subst begun
    exact .shows .rest (.going _ s [] ⟨host, rfl⟩)
  | move travels moves ih => exact (ih begun).move moves
  | serves travels evaluates ih inside => exact (ih begun).serves evaluates

/-- What is shown to end in a failure is a scene that has failed. -/
theorem Hand.Poised.fails {hand : Hand files pipeline} {s : Interpreter}
    {levels : List (Level files pipeline)} {error : EngineFailure} (poised : hand.Poised)
    (sits : hand.Sits s.frame levels) (ended : hand.plan s = .ended (.error error)) :
    Scene.Fails ⟨.going hand, s, levels⟩ error := by
  cases poised with
  | refused source fault place refused =>
    rw [sits.refused refused] at ended
    cases ended
    exact .refuses source fault place rfl refused
  | raises x fault =>
    cases ended
    exact .raises fault (.evaluates x fault s levels)
  | _ => cases ended

/-- **A journey that ends in a failure shows a scene that has failed.** What is on record of the scene
comes first on the record of the journey. -/
theorem Travels.fails {pipeline : Pipeline} {s t : Interpreter} (host : s.frame.file = none)
    {acts : List Act} {error : EngineFailure}
    (travels : Travels files (.begin pipeline s) acts ⟨.going (.ended (.error error)), t, []⟩) :
    ∃ shown, shown <+: acts ∧ ∃ scene,
      (Scene.begin files pipeline s).Travels shown scene ∧ scene.Fails error := by
  generalize ended : Journey.mk (.going (.ended (.error error))) t [] = journey at travels
  cases travels.staged host with
  | failed onward fails kept =>
    cases ended
    exact ⟨_, List.prefix_append _ _, _, onward, fails⟩
  | shows onward shows =>
    cases shows with
    | stopped => cases ended
    | going hand s levels sits =>
      obtain ⟨further, more, poised, same, file⟩ := hand.settles s levels
      have plan : further.plan s = .ended (.error error) :=
        same.trans (Standing.going.inj (congrArg Journey.standing ended)).symm
      have reached := onward.trans more
      rw [List.append_nil] at reached
      refine ⟨_, List.prefix_rfl, _, reached, ?_⟩
      exact poised.fails (sits.moved file rfl) plan

end ShellSession.Engine
