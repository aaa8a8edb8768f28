/-
**Scenes.**

A scene is a pipeline being carried out, with all that is under way: the text in hand, the statement of it
that is being executed, and behind it the statements that have called script files and wait for them. A
statement is under way from the moment that the debugger has let it begin up to its end. Nothing in a
scene has a position; what goes wrong ends it on the spot, so that the scene shows where.

* `Origin`, `Source`, `Executing`: texts, what they are, and their statements;
* `Scene`, `Scene.executing`: scenes, and the statements under way in them, the innermost first;
* `Scene.Moves`, `Scene.Travels`: the moves of a scene, and scenes from one point to another;
* `Scene.Raises`, `Scene.Fails`: what goes wrong in a scene, and the failure that the host is to be told.
-/

import ShellSession.Proofs.Engine.Journey
import ShellSession.Proofs.Script.Places

namespace ShellSession.Engine

open Script

/-! ### Texts and their statements -/

/-- Where a text comes from: a stage of the pipeline, with the stages behind it, or a script file of the
name with which it was called. -/
inductive Origin where
  | stage (behind : List Stage)
  | file (name : String)

namespace Origin

/-- The name of the script file. -/
def file? : Origin → Option String
  | stage _ => none
  | file name => some name

/-- The text is that of the stage, or what the script file holds. -/
def Holds (files : Files) (pipeline : Pipeline) (text : String) : Origin → Prop
  | stage behind => .script text :: behind <:+ pipeline.stages
  | file name => files.isFile name = true ∧ files.readText name = .ok text

end Origin

/-- A text that a pipeline runs. -/
structure Source (files : Files) (pipeline : Pipeline) where
  origin : Origin
  text : String
  holds : origin.Holds files pipeline text

/-- A statement of a text, behind what the statements before it have put out, which is kept backwards,
and in front of others. -/
structure Executing (files : Files) (pipeline : Pipeline) where
  source : Source files pipeline
  before : List Value
  statement : Statement
  behind : List Statement
  follows : ∃ earlier, Script.read source.text = .ok (earlier ++ statement :: behind)

/-- The place of a statement, in the script file that it belongs to, if it belongs to one. -/
def Executing.position {files : Files} {pipeline : Pipeline} (x : Executing files pipeline) :
    Position :=
  ⟨x.source.origin.file?, x.statement.place⟩

/-- **A statement stands where its text spells it.** -/
theorem Executing.exists_begins {files : Files} {pipeline : Pipeline} (x : Executing files pipeline) :
    ∃ front, x.statement.Begins x.source.text front := by
  obtain ⟨earlier, reads⟩ := x.follows
  exact Script.exists_begins reads x.statement (List.mem_append_right _ List.mem_cons_self)

/-- On whose behalf a command is called: for a stage, with the stages behind it, or for a statement, with
what remains of it. -/
inductive Awaits (files : Files) (pipeline : Pipeline) where
  | stage (behind : List Stage) (follows : behind <:+ pipeline.stages)
  | statement (x : Executing files pipeline) (next : List Value → Interpreter → Draft Yield)

/-- What is in hand: stages still to be done; a text to be read; a statement that has been reached; a
statement being executed, with what remains of it; a command to be called; or the end of a text. -/
inductive Hand (files : Files) (pipeline : Pipeline) where
  | stages (input : List Value) (stages : List Stage) (follows : stages <:+ pipeline.stages)
  | opening (source : Source files pipeline)
  | reached (x : Executing files pipeline)
  | inside (x : Executing files pipeline) (draft : Draft Yield)
  | calling (awaits : Awaits files pipeline) (name : String) (arguments : Arguments)
      (input : List Value)
  | finished (source : Source files pipeline) (output : List Value)

section

variable {files : Files} {pipeline : Pipeline}

/-- The statements of a text in a row, behind the output so far. -/
def Source.row (source : Source files pipeline) (before : List Value) :
    (statements : List Statement) →
      (∃ earlier, Script.read source.text = .ok (earlier ++ statements)) → Hand files pipeline
  | [], _ => .finished source before.reverse
  | statement :: behind, follows => .reached ⟨source, before, statement, behind, follows⟩

namespace Executing

variable (x : Executing files pipeline)

/-- The statement is begun. -/
def begun (s : Interpreter) : Hand files pipeline :=
  .inside x (draftAction x.statement.action s)

/-- The statement has been executed. -/
def done (output : List Value) : Hand files pipeline :=
  x.source.row (output.reverseAux x.before) x.behind <| by
    obtain ⟨earlier, reads⟩ := x.follows
    exact ⟨earlier ++ [x.statement], by rw [List.append_assoc]; exact reads⟩

end Executing

namespace Awaits

/-- The statement on whose behalf a command is called. -/
def executing? : Awaits files pipeline → Option (Executing files pipeline)
  | stage _ _ => none
  | statement x _ => some x

/-- The script file from which a command is called. -/
def file? : Awaits files pipeline → Option String
  | stage _ _ => none
  | statement x _ => x.source.origin.file?

/-- What comes behind the call. -/
def resume : Awaits files pipeline → List Value → Interpreter → Hand files pipeline
  | stage behind follows, output, _ => .stages output behind follows
  | statement x next, output, s => .inside x (next output s)

end Awaits

namespace Hand

/-- The statement being executed in the text in hand. -/
def executing? : Hand files pipeline → Option (Executing files pipeline)
  | inside x _ => some x
  | calling awaits _ _ _ => awaits.executing?
  | _ => none

/-- The script file in hand. -/
def file? : Hand files pipeline → Option String
  | stages _ _ _ => none
  | opening source => source.origin.file?
  | reached x => x.source.origin.file?
  | inside x _ => x.source.origin.file?
  | calling awaits _ _ _ => awaits.file?
  | finished source _ => source.origin.file?

end Hand

end

/-! ### Scenes -/

/-- A call of a script file that is under way: the frame to which it goes back, and on whose behalf the
file was called. -/
structure Level (files : Files) (pipeline : Pipeline) where
  frame : Frame
  awaits : Awaits files pipeline

/-- What a scene is about to do: it goes on with what is in hand, or waits in a stop. -/
inductive Pose (files : Files) (pipeline : Pipeline) where
  | going (hand : Hand files pipeline)
  | stopped (stop : Stop) (go : Interpreter → Hand files pipeline)

/-- A pipeline being carried out, with the calls of script files under way, the innermost first. -/
structure Scene (files : Files) (pipeline : Pipeline) where
  pose : Pose files pipeline
  state : Interpreter
  levels : List (Level files pipeline)

namespace Scene

variable {files : Files} {pipeline : Pipeline}

/-- The beginning of a pipeline. -/
def begin (files : Files) (pipeline : Pipeline) (s : Interpreter) : Scene files pipeline :=
  ⟨.going (.stages [] pipeline.stages (List.suffix_refl _)), s, []⟩

/-- The statements under way, the innermost first: the one being executed in the text in hand, and those
that wait for a script file. -/
def executing (scene : Scene files pipeline) : List (Executing files pipeline) :=
  let inHand := match scene.pose with
    | .going hand => hand.executing?
    | .stopped _ _ => none
  inHand.toList ++ scene.levels.filterMap fun level => level.awaits.executing?

/-- The place of the innermost statement under way. -/
def position? (scene : Scene files pipeline) : Option Position :=
  scene.executing.head?.map Executing.position

/-- A scene with step mode switched. -/
def switched (scene : Scene files pipeline) (enabled : Bool) : Scene files pipeline :=
  { scene with state := { scene.state with stepping := enabled } }

/-- A move of a scene, with what is put on record. -/
inductive Moves : Scene files pipeline → List Act → Scene files pipeline → Prop
  | text {input : List Value} {text : String} {behind : List Stage}
      {follows : Stage.script text :: behind <:+ pipeline.stages} {s : Interpreter}
      {levels : List (Level files pipeline)} :
      Moves ⟨.going (.stages input (.script text :: behind) follows), s, levels⟩ []
        ⟨.going (.opening ⟨.stage behind, text, follows⟩), s, levels⟩
  | command {input : List Value} {name : String} {parameters : List Parameter} {behind : List Stage}
      {follows : Stage.command name parameters :: behind <:+ pipeline.stages} {s : Interpreter}
      {levels : List (Level files pipeline)} :
      Moves ⟨.going (.stages input (.command name parameters :: behind) follows), s, levels⟩ []
        ⟨.going (.calling (.stage behind ((List.suffix_cons _ _).trans follows)) name
          (.ofParameters parameters) input), s, levels⟩
  | opens {source : Source files pipeline} {statements : List Statement} {s : Interpreter}
      {levels : List (Level files pipeline)} (reads : Script.read source.text = .ok statements) :
      Moves ⟨.going (.opening source), s, levels⟩ []
        ⟨.going (source.row [] statements ⟨[], reads⟩), s, levels⟩
  | passes {x : Executing files pipeline} {s t : Interpreter} {levels : List (Level files pipeline)}
      (inside : s.nested ≠ 0) (here : t = atLine x.statement.place.line s) :
      Moves ⟨.going (.reached x), s, levels⟩ [] ⟨.going (x.begun t), t, levels⟩
  | reaches {x : Executing files pipeline} {s t : Interpreter} {levels : List (Level files pipeline)}
      (outside : s.nested = 0) (here : t = atLine x.statement.place.line s)
      (free : (Mark.reached x.statement t).stop? = none) :
      Moves ⟨.going (.reached x), s, levels⟩ [.mark (.reached x.statement t)]
        ⟨.going (x.begun t), t, levels⟩
  | stops {x : Executing files pipeline} {s t : Interpreter} {stop : Stop}
      {levels : List (Level files pipeline)} (outside : s.nested = 0)
      (here : t = atLine x.statement.place.line s)
      (hits : (Mark.reached x.statement t).stop? = some stop) :
      Moves ⟨.going (.reached x), s, levels⟩ [.mark (.reached x.statement t)]
        ⟨.stopped stop x.begun, enterStop stop t, levels⟩
  | yields {x : Executing files pipeline} {yielded : Yield} {output : List Value} {s t : Interpreter}
      {levels : List (Level files pipeline)} (performs : yielded.perform s = .done (.ok output) t) :
      Moves ⟨.going (.inside x (.ended (.ok yielded))), s, levels⟩ []
        ⟨.going (x.done output), t, levels⟩
  | calls {x : Executing files pipeline} {name : String} {arguments : Arguments}
      {input : List Value} {next : List Value → Interpreter → Draft Yield} {s : Interpreter}
      {levels : List (Level files pipeline)} :
      Moves ⟨.going (.inside x (.calls name arguments input next)), s, levels⟩ []
        ⟨.going (.calling (.statement x next) name arguments input), s, levels⟩
  | performs {awaits : Awaits files pipeline} {name : String} {arguments : Arguments}
      {input output : List Value} {s t : Interpreter} {levels : List (Level files pipeline)}
      (performed : call files name arguments input s = .done (.ok output) t) :
      Moves ⟨.going (.calling awaits name arguments input), s, levels⟩ []
        ⟨.going (awaits.resume output t), t, levels⟩
  | waits {awaits : Awaits files pipeline} {name : String} {arguments : Arguments}
      {input : List Value} {s : Interpreter} {stop : Stop} {levels : List (Level files pipeline)}
      (outside : s.nested = 0) (builtin : Builtin.ofName? name = some .waitDebugger)
      (hits : (Mark.waits (awaits.executing?.map Executing.position) s).stop? = some stop) :
      Moves ⟨.going (.calling awaits name arguments input), s, levels⟩
        [.mark (.waits (awaits.executing?.map Executing.position) s)]
        ⟨.stopped stop (awaits.resume []), enterStop stop s, levels⟩
  | enters {awaits : Awaits files pipeline} {name text : String} {arguments : Arguments}
      {input : List Value} {s t : Interpreter} {levels : List (Level files pipeline)}
      (unknown : Builtin.ofName? name = none) (isFile : files.isFile name = true)
      (read : files.readText name = .ok text) (bound : t = fileState name arguments s) :
      Moves ⟨.going (.calling awaits name arguments input), s, levels⟩ []
        ⟨.going (.opening ⟨.file name, text, isFile, read⟩), t, ⟨s.frame, awaits⟩ :: levels⟩
  | continues {behind : List Stage} {text : String}
      {follows : Stage.script text :: behind <:+ pipeline.stages} {output : List Value} {s : Interpreter}
      {levels : List (Level files pipeline)} :
      Moves ⟨.going (.finished ⟨.stage behind, text, follows⟩ output), s, levels⟩ []
        ⟨.going (.stages output behind ((List.suffix_cons _ _).trans follows)), s, levels⟩
  | leaves {name text : String} {holds : (Origin.file name).Holds files pipeline text}
      {output : List Value} {s t : Interpreter} {level : Level files pipeline}
      {levels : List (Level files pipeline)} (left : t = { s with frame := level.frame }) :
      Moves ⟨.going (.finished ⟨.file name, text, holds⟩ output), s, level :: levels⟩ []
        ⟨.going (level.awaits.resume output t), t, levels⟩
  | resumes {stop : Stop} {go : Interpreter → Hand files pipeline} {verb : Verb} {s t : Interpreter}
      {levels : List (Level files pipeline)} (leads : verb ≠ .stop) (left : t = leaveStop verb s) :
      Moves ⟨.stopped stop go, s, levels⟩ [.directive (.verb verb)] ⟨.going (go t), t, levels⟩
  | switches (scene : Scene files pipeline) (enabled : Bool) :
      Moves scene [.directive (.mode enabled)] (scene.switched enabled)

/-- A scene from one point to another, with what is on record. A command that is evaluated in a stop is a
journey of its own. -/
inductive Travels (origin : Scene files pipeline) : List Act → Scene files pipeline → Prop
  | rest : Travels origin [] origin
  | move {b c : Scene files pipeline} {acts more : List Act} (travels : Travels origin acts b)
      (moves : Moves b more c) : Travels origin (acts ++ more) c
  | serves {acts inner : List Act} {stop : Stop} {go : Interpreter → Hand files pipeline}
      {s t : Interpreter}
      {levels : List (Level files pipeline)} {command : Pipeline} {outcome : Outcome}
      (travels : Travels origin acts ⟨.stopped stop go, s, levels⟩)
      (evaluates : Engine.Travels files (.begin command (openNested s)) inner
        ⟨.going (.ended outcome), t, []⟩) :
      Travels origin (acts ++ inner) ⟨.stopped stop go, closeNested s.frame t, levels⟩

theorem Travels.trans {a b c : Scene files pipeline} {acts more : List Act}
    (first : Travels a acts b) (second : Travels b more c) : Travels a (acts ++ more) c := by
  induction second with
  | rest => exact (List.append_nil acts).symm ▸ first
  | move travels moves ih =>
    rw [← List.append_assoc]
    exact ih.move moves
  | serves travels evaluates ih =>
    rw [← List.append_assoc]
    exact ih.serves evaluates

/-- A move by itself. -/
theorem Moves.travels {a b : Scene files pipeline} {acts : List Act} (moves : Moves a acts b) :
    Travels a acts b :=
  Travels.rest.move moves

/-! ### What goes wrong -/

/-- A scene in which something goes wrong: the statement being executed fails by itself, or a command
fails that is called. -/
inductive Raises : Scene files pipeline → Fault → Prop
  | evaluates (x : Executing files pipeline) (fault : Fault) (s : Interpreter)
      (levels : List (Level files pipeline)) :
      Raises ⟨.going (.inside x (.ended (.error fault))), s, levels⟩ fault
  | calls (awaits : Awaits files pipeline) (name : String) (arguments : Arguments)
      (input : List Value) (fault : Fault) (s t : Interpreter) (levels : List (Level files pipeline))
      (performed : call files name arguments input s = .done (.error (.runtime fault none)) t) :
      Raises ⟨.going (.calling awaits name arguments input), s, levels⟩ fault

/-- The failure that a scene ends with: something goes wrong, at the innermost statement under way; or a
text is no script; or the scene is told to end in a stop. -/
inductive Fails (scene : Scene files pipeline) : EngineFailure → Prop
  | raises (fault : Fault) (raised : scene.Raises fault) :
      Fails scene (.runtime fault scene.position?)
  | refuses (source : Source files pipeline) (fault : SyntaxFault) (place : Place)
      (opens : scene.pose = .going (.opening source))
      (refused : Script.read source.text = .error ⟨fault, place⟩) :
      Fails scene (.parse fault ⟨source.origin.file?, place⟩)
  | halts (stop : Stop) (go : Interpreter → Hand files pipeline)
      (waits : scene.pose = .stopped stop go) : Fails scene .stopped

end Scene

end ShellSession.Engine
