/-
**Where a failing script fails.**

A failure that arises while a statement is being executed names the place of that statement: the innermost
one under way, in the text that it belongs to. The statements that have called the script file in which it
arises leave the place alone, and so do the commands that have been evaluated in stops on the way. A
failure of a command that the host has called itself names no place.

* `Engine.runtime_error_position`: **a failing script fails at the innermost statement under way**.
-/

import ShellSession.Proofs.Engine.Undertaking

namespace ShellSession.Engine

variable {e f : Engine} {ticket : Nat} {pipeline : Pipeline} {s : Interpreter}

/-- The place of the innermost statement under way, if there is one. -/
theorem Scene.position?_cases {files : Files} {scene : Scene files pipeline} :
    (scene.executing = [] ∧ scene.position? = none) ∨
      ∃ x others, scene.executing = x :: others ∧ scene.position? = some x.position := by
  unfold Scene.position?
  cases scene.executing with
  | nil => exact .inl ⟨rfl, rfl⟩
  | cons x others => exact .inr ⟨x, others, rfl, rfl⟩

/-- **A failing script fails at the innermost statement under way.** Whatever is asked of an engine
meanwhile, a run or a command in a stop that is answered with a failure in a script has come, as a scene, to
where something goes wrong with this cause. Either no statement is under way there, in the text in hand or
behind a call of a script file, and the failure names no place; or it names the file of the innermost
statement under way, by the name with which the file was called, and the line and the column of the first
character of the statement in the text of that file. -/
theorem runtime_error_position (made : e.Made) (undertakes : e.Undertakes ticket pipeline s f)
    {events : List Event} {fault : Fault} {position : Option Position}
    (answered : (f.run events).result? ticket = some (.error (.runtime fault position))) :
    ∃ acts scene, (Scene.begin e.files pipeline s).Travels acts scene ∧ scene.Raises fault ∧
      acts.filterMap Act.directive? <+: f.directives events ∧
      ((scene.executing = [] ∧ position = none) ∨
        ∃ x others front, scene.executing = x :: others ∧
          x.statement.Begins x.source.text front ∧
          position = some ⟨x.source.origin.file?,
            ⟨front.count '\n' + 1, (Script.lastLine front).length + 1⟩⟩) := by
  obtain ⟨acts, scene, travels, fails, decided⟩ := undertakes.fails made answered
  generalize same : EngineFailure.runtime fault position = error at fails
  cases fails with
  | refuses source fault place opens refused => cases same
  | halts stop go waits => cases same
  | raises fault raised =>
    cases same
    refine ⟨acts, scene, travels, raised, decided, ?_⟩
    rcases scene.position?_cases with ⟨none, outside⟩ | ⟨x, others, inside, here⟩
    · exact .inl ⟨none, outside⟩
    · obtain ⟨front, begins⟩ := x.exists_begins
      refine .inr ⟨x, others, front, inside, begins, ?_⟩
      rw [here, Executing.position, begins.place]

/-- The cause and the place of a failure in a script. -/
def runtimeFault? : Outcome → Option (Fault × Option Position)
  | .error (.runtime fault position) => some (fault, position)
  | _ => none

theorem eq_of_runtimeFault? {outcome : Outcome} {fault : Fault} {position : Option Position}
    (failed : runtimeFault? outcome = some (fault, position)) :
    outcome = .error (.runtime fault position) := by
  unfold runtimeFault? at failed
  split at failed
  · cases failed
    rfl
  · cases failed

/-- An engine with a script file that stops, and fails in its second line. -/
def withFailingFile : Engine :=
  fresh (Files.none.add "part.ps1" "$c = 1; Wait-Debugger\n  $d = 1 / 0".toUTF8) none

/-- A script that calls the file in the middle of its third line. -/
def callingFailingFile : Pipeline :=
  .script "$a = 1;\n\n   $b = 1 + (part.ps1 | Out-String)"

/-- What happens to the run: in the stop a command is evaluated that fails as well. -/
def failedInStop : List Event :=
  .replicate 6 .step ++ .ask (.command (.script "Get-Nothing")) :: .replicate 2 .step ++
    .ask (.resume .resume) :: .replicate 5 .step

/-- The failure is that of the statement in the file, behind the stop and the command in it. -/
theorem runtime_error_position_inner : ∃ f acts scene x others front, withFailingFile.Made ∧
    withFailingFile.Undertakes 1 callingFailingFile (begunFrom withFailingFile.state) f ∧
    (f.run failedInStop).result? 1 =
      some (.error (.runtime .divisionByZero (some ⟨some "part.ps1", ⟨2, 3⟩⟩))) ∧
    (Scene.begin withFailingFile.files callingFailingFile
      (begunFrom withFailingFile.state)).Travels acts scene ∧ scene.Raises .divisionByZero ∧
    scene.executing = x :: others ∧ x.statement.Begins x.source.text front ∧
    x.source.origin.file? = some "part.ps1" ∧ front.count '\n' = 1 ∧
    (Script.lastLine front).length = 2 := by
  have made : withFailingFile.Made := .fresh _ none
  obtain ⟨f, invoked⟩ : ∃ f, withFailingFile.invoke callingFailingFile = .ok (1, f) := ⟨_, rfl⟩
  have same : f = withFailingFile.asked (.invoke callingFailingFile) := by
    simp only [asked, ask, invoked, Except.map]
  have shown : ((f.run failedInStop).result? 1).bind runtimeFault? =
      some (.divisionByZero, some ⟨some "part.ps1", ⟨2, 3⟩⟩) := by
    rw [same]
    decide +kernel
  obtain ⟨outcome, found, failed⟩ := Option.bind_eq_some_iff.mp shown
  rw [eq_of_runtimeFault? failed] at found
  obtain ⟨acts, scene, travels, raised, _, ⟨_, nowhere⟩ | ⟨x, others, front, inside, begins, here⟩⟩ :=
    runtime_error_position made (.run invoked) found
  · cases nowhere
  · injection here with here
    injection here with file place
    injection place with line column
    exact ⟨f, acts, scene, x, others, front, made, .run invoked, found, travels, raised, inside,
      begins, file.symm, (Nat.succ.inj line).symm, (Nat.succ.inj column).symm⟩

end ShellSession.Engine
