/-
**Texts that are no scripts.**

A text that is no script is refused before anything of it is run: the engine keeps its variables, its
breakpoints and its step mode, and reports nothing but that it was busy. The failure names a place in a
text without a file in this case only; any other text that is refused on the way is that of a script file,
which the failure names, and of which nothing has been run either.

* `Engine.Closing`: an engine whose run has come to an end, up to the answer and behind it;
* `Engine.Closing.run`: **nothing but step mode changes any more**;
* `Engine.parse_error_iff`: **a text without a file is refused exactly when the run is of no script**.
-/

import ShellSession.Proofs.Engine.Undertaking
import ShellSession.Proofs.Engine.Halting

namespace ShellSession.Engine

variable {e f : Engine} {ticket : Nat} {outcome : Outcome} {s : Interpreter} {answered : Bool}

/-! ### Runs that have come to an end -/

/-- An engine whose run has come to an end in a state: the answer is due, or has been given. -/
inductive Closing (ticket : Nat) (outcome : Outcome) (s : Interpreter) (e : Engine) : Bool → Prop
  | due (activity : e.activity = .running ticket ⟨.done outcome s, []⟩) :
      Closing ticket outcome s e false
  | answered (activity : e.activity = .idle (closeRun s)) (found : e.result? ticket = some outcome) :
      Closing ticket outcome s e true

namespace Closing

/-- Every event switches step mode, or answers, or does nothing. -/
theorem after (closing : e.Closing ticket outcome s answered) (ticketed : e.Ticketed) (event : Event)
    (own : e.accepts event = 0) :
    (e.after event).Closing ticket outcome { s with stepping := event.mode?.getD s.stepping }
      (answered || event.isStep) := by
  cases closing with
  | due activity =>
    cases event with
    | ask request =>
      refine .due ?_
      obtain ⟨later, _⟩ := asked_busy (main?_eq activity) request
      show (e.asked request).activity = _
      rw [later, Engine.state, activity]
      rfl
    | step =>
      have stepped : e.step =
          some (({ e with activity := .idle (closeRun s) } : Engine).answer ticket outcome) :=
        step_of_stepsTo (.finish activity)
      show (e.step.getD e).Closing ticket outcome s true
      rw [stepped]
      exact .answered rfl (ticketed.result?_answer (owed_of_main (main?_eq activity)) outcome)
  | answered activity found =>
    cases event with
    | step =>
      show (e.step.getD e).Closing ticket outcome s true
      rw [step_idle activity]
      exact .answered activity found
    | ask request =>
      have kept : (e.after (.ask request)).result? ticket = some outcome := by
        show (e.asked request).results.lookup ticket = some outcome
        rw [asked_results ticketed]
        exact found
      refine .answered ?_ kept
      show (e.asked request).activity = .idle (closeRun { s with stepping := request.mode?.getD _ })
      rcases asked_idle activity request own with ⟨stays, mode⟩ | ⟨enabled, rfl⟩
      · rw [stays, mode]
        exact activity
      · show e.activity.withState { e.state with stepping := enabled } = _
        rw [Engine.state, activity]
        exact congrArg Activity.idle (closeRun_switched s enabled).symm

/-- **Nothing but step mode changes any more**, as long as no other run is accepted. -/
theorem run {events : List Event} (closing : e.Closing ticket outcome s answered) (made : e.Made)
    (own : e.accepted events = 0) :
    (e.run events).Closing ticket outcome { s with stepping := modeAfter s.stepping events }
      (answered || events.any Event.isStep) := by
  induction events generalizing e s answered with
  | nil =>
    rw [List.any_nil, Bool.or_false]
    exact closing
  | cons event rest ih =>
    obtain ⟨first, later⟩ := Nat.add_eq_zero_iff.mp own
    have further := ih (closing.after made.lawful.2 event first) (made.run [event]) later
    rw [Bool.or_assoc, ← List.any_cons] at further
    exact further

/-- The answer is given with the first step. -/
theorem result? (closing : e.Closing ticket outcome s answered) (ticketed : e.Ticketed) :
    e.result? ticket = if answered then some outcome else none := by
  cases closing with
  | due activity => exact ticketed.unanswered (owed_of_main (main?_eq activity))
  | answered activity found => exact found

/-- The state in which the run has come to an end stays, but for what the engine reports. -/
theorem state (closing : e.Closing ticket outcome s answered) (busy : s.availability = .busy) :
    e.state.scope = s.scope ∧ e.state.breakpoints = s.breakpoints ∧
      e.state.stepping = s.stepping ∧ e.history.toList =
        s.history.toList ++ if answered then [.availability .available, .idle] else [] := by
  unfold history Engine.state
  cases closing with
  | due activity =>
    rw [activity]
    exact ⟨rfl, rfl, rfl, (List.append_nil _).symm⟩
  | answered activity found =>
    rw [activity]
    show (closeRun s).scope = _ ∧ (closeRun s).breakpoints = _ ∧ (closeRun s).stepping = _ ∧
      (closeRun s).history.toList = _
    rw [closeRun_of_busy busy]
    simp

end Closing

/-! ### What an engine does with a text that is no script -/

/-- An engine that is idle becomes busy with a run. -/
theorem Made.begunFrom_eq (made : e.Made) (activity : e.activity = .idle s) :
    begunFrom s = { s with
      frame := .start
      availability := .busy
      history := s.history.push (.availability .busy) } := by
  have available : s.availability = .available := by
    have told := made.availability
    unfold Engine.availability Engine.state moment at told
    rw [activity] at told
    exact told
  unfold begunFrom
  rw [setAvailability_of_ne]
  show s.availability ≠ .busy
  rw [available]
  decide

/-- The run of a text that is no script has come to an end when it is begun. -/
theorem closing_of_refused {text : String} {fault : Script.SyntaxFault} {place : Script.Place}
    (made : e.Made) (invoked : e.invoke (.script text) = .ok (ticket, f))
    (refused : Script.read text = .error ⟨fault, place⟩) :
    f.Closing ticket (.error (.parse fault ⟨none, place⟩)) (begunFrom e.state) false := by
  obtain ⟨s, activity, rfl⟩ := exists_idle invoked
  have begun := made.begunFrom_eq activity
  unfold Engine.invoke at invoked
  rw [activity] at invoked
  cases invoked
  refine .due ?_
  show Activity.running _ (.ofRun (Eval.bind (runText e.files text) _ (begunFrom e.state))) = _
  have ended : runText e.files text (begunFrom e.state) =
      .done (.error (.parse fault ⟨none, place⟩)) (begunFrom e.state) := by
    unfold runText
    rw [refused, begun]
    rfl
  unfold Eval.bind
  rw [ended]
  rfl

/-- A script text of a pipeline that consists of it. -/
theorem Origin.eq_of_stage {files : Files} {text other : String} {behind : List Stage}
    (holds : (Origin.stage behind).Holds files (.script text) other) : other = text := by
  obtain ⟨front, same⟩ := holds
  cases front with
  | nil =>
    cases same
    rfl
  | cons first rest =>
    have length := congrArg List.length same
    simp [Pipeline.script] at length

/-- **A text without a file is refused exactly when the run is of no script.** For every run of a text:

* it is answered with a failure that names a place in a text without a file if and only if the text is no
  script, with the place and the cause for which it is none;
* in this case, whatever is asked of the engine, its next step answers, and as long as no other run is
  accepted, the variables, the breakpoints and the number of the next one are those from before, step mode
  is what others make it, and the engine has reported no more than that it is busy, available and idle;
* else a failure of this kind names a script file that the run has just entered on behalf of a call; what
  the file holds is no script, for the cause and with the place that the failure names, and no statement of
  such a text is ever executed. -/
theorem parse_error_iff {text : String} (made : e.Made)
    (invoked : e.invoke (.script text) = .ok (ticket, f)) :
    (∀ fault place, (∃ events, (f.run events).result? ticket =
        some (.error (.parse fault ⟨none, place⟩))) ↔ Script.read text = .error ⟨fault, place⟩) ∧
    (∀ fault place, Script.read text = .error ⟨fault, place⟩ →
      ∀ events, f.accepted events = 0 →
        ((f.run events).result? ticket = if events.any Event.isStep
          then some (.error (.parse fault ⟨none, place⟩)) else none) ∧
        (f.run events).state.scope = e.state.scope ∧
        (f.run events).state.breakpoints = e.state.breakpoints ∧
        (f.run events).state.stepping = modeAfter e.state.stepping events ∧
        (f.run events).history.toList = e.history.toList ++ .availability .busy ::
          if events.any Event.isStep then [.availability .available, .idle] else []) ∧
    ∀ statements, Script.read text = .ok statements → ∀ events fault position,
      (f.run events).result? ticket = some (.error (.parse fault position)) →
        ∃ acts name content holds state levels, position.file = some name ∧
          (Scene.begin e.files (.script text) (begunFrom e.state)).Travels acts
            ⟨.going (.opening ⟨.file name, content, holds⟩), state, levels⟩ ∧
          acts.filterMap Act.directive? <+: f.directives events ∧
          Script.read content = .error ⟨fault, position.place⟩ ∧
          ∀ x : Executing e.files (.script text), x.source.text ≠ content := by
  have accepted : f.Made := made.use (.invoke _ ticket invoked)
  have opened : ∀ {events fault position},
      (f.run events).result? ticket = some (.error (.parse fault position)) →
        ∃ acts scene source place, (Scene.begin e.files (.script text) (begunFrom e.state)).Travels
          acts scene ∧ scene.pose = .going (.opening source) ∧
          acts.filterMap Act.directive? <+: f.directives events ∧
          Script.read source.text = .error ⟨fault, place⟩ ∧ position = ⟨source.origin.file?, place⟩ := by
    intro events fault position found
    obtain ⟨acts, scene, travels, fails, decided⟩ := (Undertakes.run invoked).fails made found
    generalize same : EngineFailure.parse fault position = error at fails
    cases fails with
    | raises fault raised => cases same
    | halts stop go waits => cases same
    | refuses source fault place opens refused =>
      cases same
      exact ⟨acts, scene, source, place, travels, opens, decided, refused, rfl⟩
  refine ⟨fun fault place => ⟨?_, fun refused => ?_⟩, fun fault place refused events own => ?_, ?_⟩
  · rintro ⟨events, found⟩
    obtain ⟨_, _, ⟨origin, other, holds⟩, _, _, _, _, refused, here⟩ := opened found
    cases origin with
    | file name => cases here
    | stage behind =>
      cases here
      cases Origin.eq_of_stage holds
      exact refused
  · have none : f.accepted [.step] = 0 := rfl
    have closing := (closing_of_refused made invoked refused).run accepted none
    exact ⟨[.step], closing.result? (accepted.run [.step]).lawful.2⟩
  · have closing := (closing_of_refused made invoked refused).run accepted own
    obtain ⟨s, activity, rfl⟩ := exists_idle invoked
    have begun := made.begunFrom_eq activity
    obtain ⟨scope, breakpoints, stepping, reports⟩ := closing.state (by rw [begun])
    refine ⟨closing.result? (accepted.run events).lawful.2, scope.trans ?_, breakpoints.trans ?_,
      stepping.trans ?_, reports.trans ?_⟩
    · rw [begun]
    · rw [begun]
    · rw [begun]
    · rw [begun, Bool.false_or]
      simp [history]
  · intro statements reads events fault position found
    obtain ⟨acts, ⟨pose, state, levels⟩, ⟨origin, content, holds⟩, place, travels, rfl, decided, refused,
      rfl⟩ := opened found
    cases origin with
    | stage behind =>
      cases Origin.eq_of_stage holds
      cases reads.symm.trans refused
    | file name =>
      refine ⟨acts, name, content, holds, state, levels, rfl, travels, decided, refused, fun x same => ?_⟩
      obtain ⟨earlier, follows⟩ := x.follows
      rw [same] at follows
      cases follows.symm.trans refused

/-- The position of a failure of a text that is no script. -/
def parsePosition? : Outcome → Option Position
  | .error (.parse _ position) => some position
  | _ => none

theorem exists_of_parsePosition? {outcome : Outcome} {position : Position}
    (failed : parsePosition? outcome = some position) :
    ∃ fault, outcome = .error (.parse fault position) := by
  unfold parsePosition? at failed
  split at failed
  · cases failed
    exact ⟨_, rfl⟩
  · cases failed

/-- A script whose second line ends in the middle of an assignment. -/
def unfinished : String :=
  "$ran = 1\n$x = ("

/-- An engine with a script file that ends in the middle of an assignment. -/
def withUnfinishedFile : Engine :=
  fresh (Files.none.add "part.ps1" unfinished.toUTF8) none

/-- The unfinished text by itself, and a script that calls the file that holds it. -/
theorem parse_error_iff_unfinished : ∃ f g fault, withUnfinishedFile.Made ∧
    withUnfinishedFile.invoke (.script unfinished) = .ok (1, f) ∧
    withUnfinishedFile.invoke (.script "$a = 1; part.ps1") = .ok (1, g) ∧
    Script.read unfinished = .error ⟨fault, ⟨2, 7⟩⟩ ∧
    (f.run [.step]).result? 1 = some (.error (.parse fault ⟨none, ⟨2, 7⟩⟩)) ∧
    (f.run [.step]).state.scope = withUnfinishedFile.state.scope ∧
    (f.run [.step]).history.toList = [.availability .busy, .availability .available, .idle] ∧
    ∃ other acts content holds state levels,
      (g.run (.replicate 5 .step)).result? 1 =
        some (.error (.parse other ⟨some "part.ps1", ⟨2, 7⟩⟩)) ∧
      (Scene.begin withUnfinishedFile.files (.script "$a = 1; part.ps1")
        (begunFrom withUnfinishedFile.state)).Travels acts
          ⟨.going (.opening ⟨.file "part.ps1", content, holds⟩), state, levels⟩ ∧
      Script.read content = .error ⟨other, ⟨2, 7⟩⟩ := by
  have made : withUnfinishedFile.Made := .fresh _ none
  obtain ⟨f, invoked⟩ : ∃ f, withUnfinishedFile.invoke (.script unfinished) = .ok (1, f) := ⟨_, rfl⟩
  obtain ⟨g, calling⟩ : ∃ g, withUnfinishedFile.invoke (.script "$a = 1; part.ps1") = .ok (1, g) :=
    ⟨_, rfl⟩
  have same : f = withUnfinishedFile.asked (.invoke (.script unfinished)) := by
    simp only [asked, ask, invoked, Except.map]
  have called : g = withUnfinishedFile.asked (.invoke (.script "$a = 1; part.ps1")) := by
    simp only [asked, ask, calling, Except.map]
  have shown : ((f.run [.step]).result? 1).bind parsePosition? = some ⟨none, ⟨2, 7⟩⟩ := by
    rw [same]
    decide +kernel
  have shownInner : ((g.run (.replicate 5 .step)).result? 1).bind parsePosition? =
      some ⟨some "part.ps1", ⟨2, 7⟩⟩ := by
    rw [called]
    decide +kernel
  obtain ⟨outcome, found, failed⟩ := Option.bind_eq_some_iff.mp shown
  obtain ⟨fault, rfl⟩ := exists_of_parsePosition? failed
  obtain ⟨inner, foundInner, failedInner⟩ := Option.bind_eq_some_iff.mp shownInner
  obtain ⟨other, rfl⟩ := exists_of_parsePosition? failedInner
  obtain ⟨refused, untouched, _⟩ := parse_error_iff made invoked
  obtain ⟨_, _, reached⟩ := parse_error_iff made calling
  have unread := (refused fault ⟨2, 7⟩).mp ⟨_, found⟩
  obtain ⟨_, scope, _, _, reports⟩ := untouched fault ⟨2, 7⟩ unread [.step] rfl
  have parses : (Script.read "$a = 1; part.ps1").toOption.isSome = true := by decide +kernel
  obtain ⟨statements, reads⟩ : ∃ statements, Script.read "$a = 1; part.ps1" = .ok statements := by
    cases reads : Script.read "$a = 1; part.ps1" with
    | ok statements => exact ⟨statements, rfl⟩
    | error refused =>
      rw [reads] at parses
      cases parses
  obtain ⟨acts, name, content, holds, state, levels, here, travels, _, refusedInner, _⟩ :=
    reached statements reads _ other _ foundInner
  cases here
  exact ⟨f, g, fault, made, invoked, calling, unread, found, scope, reports, other, acts, content,
    holds, state, levels, foundInner, travels, refusedInner⟩

end ShellSession.Engine
