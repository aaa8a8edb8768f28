/-
**Nested executions and resumes exclude each other.**

Both look at the pause, line up for the gate and look again as its holder. However calls are
interleaved, one nested execution is in flight at most, and no verb reaches the debugger meanwhile; a
recorded stop is ended by one resume at most; and a nested execution that has looked again is
evaluated in the stop that it has found.

* `Session.Faithful.inFlight_unique`, `Session.Faithful.verbs_of_inFlight`: a nested execution in
  flight is alone;
* `Chronicle.current`: the pause is that of the stop that is recorded last;
* `Chronicle.nested_excludes_resume`: **all of it, along every chronicle without verbs of others**;
* `Session.raced`: a nested execution and a resume that wait for the same stop.
-/

import ShellSession.Proofs.Session.Errand
import ShellSession.Proofs.Session.Telling

namespace ShellSession

/-- No verb is on its way into a stop that nobody has left. -/
theorem Engine.verbsWaiting_of_open {e : Engine} (opens : e.isOpen = true) : e.verbsWaiting = 0 := by
  refine List.countP_eq_zero.mpr fun request member verb => ?_
  have other := List.all_eq_true.mp (Bool.and_eq_true_iff.mp opens).2 request member
  rw [verb] at other
  cases other

namespace Session

variable {s t : Session} {move : Move} {entry : Nat × Call}

/-- **One nested execution is in flight at most**: the holder of the gate. -/
theorem Faithful.inFlight_unique (faithful : s.Faithful) {other : Nat × Call}
    (member : entry ∈ s.calls) (flies : entry.2.isInFlight = true) (within : other ∈ s.calls)
    (also : other.2.isInFlight = true) : entry = other := by
  have first := faithful.orderly.gate other within (Call.gated_of_inFlight also)
  exact faithful.orderly.eq_of_number member within
    (faithful.orderly.eq_of_gated member (Call.gated_of_inFlight flies) (decide_eq_true first))

/-- **While a nested execution is in flight, no verb is on its way into the stop**, nor is one sent. -/
theorem Faithful.verbs_of_inFlight (faithful : s.Faithful)
    (others : ∀ engine, move = .outside engine → s.hosted.engine.Used engine)
    (moved : s.after move = some t) (member : entry ∈ s.calls)
    (flies : entry.2.isInFlight = true) :
    s.hosted.engine.verbsWaiting = 0 ∧ t.hosted.engine.verbsWaiting = 0 := by
  have none : s.hosted.engine.verbsWaiting = 0 := by
    have paused := faithful.asking entry member flies
    cases standing : s.standing with
    | active =>
      rw [standing] at paused
      cases paused
    | paused stop verb => exact Engine.verbsWaiting_of_open (faithful.inStop standing).1
  have goes := faithful.goes_of_inFlight others moved member flies
  exact ⟨none, Nat.le_zero.mp (none ▸ goes.verbsWaiting_le)⟩

end Session

namespace Chronicle

variable {env : Environment} {s : Session} {deeds : List Deed} {settings : Settings}
  {fallback : Release} {hosted : HostedEngine}

/-- The pause is that of the stop that is recorded last, and not ended since. -/
theorem current (chronicle : Chronicle env (.fresh settings fallback hosted) deeds s)
    (verbless : env.Verbless) (made : hosted.engine.Made) {stop : Stop} {verb : Option Verb}
    (paused : s.standing = .paused stop verb) : Deed.Current deeds stop := by
  obtain ⟨faithful, plight, after, bears⟩ := chronicle.after verbless made
  exact after.current.1 stop (faithful.bears_paused paused bears)

/-- **Nested executions and resumes exclude each other.** However many calls there are and however
they are interleaved, with whatever others do short of verbs:

* one nested execution is in flight at most;
* no verb is on its way to the debugger while one is, and none is sent;
* a stop is ended at most once: an ending goes back to the recording of its own stop, and no stop is
  recorded or ended in between;
* a resume returns that it has succeeded when it has ended a stop, and otherwise that there was no
  pause, that the session was without its engine, or the error with which the host had the verb
  refused;
* a nested execution that finds the session paused as the holder of the gate finds the stop that is
  recorded last; it returns what its own pipeline comes to in that stop, before any other is recorded
  or that one ended, or that the host has taken the debugger away, and never that it came too late for
  the stop; it is never stuck, and where the debugger is there and holds no other commands, it
  returns. -/
theorem nested_excludes_resume (chronicle : Chronicle env (.fresh settings fallback hosted) deeds s)
    (verbless : env.Verbless) (made : hosted.engine.Made) :
    (∀ one ∈ s.calls, ∀ other ∈ s.calls,
      one.2.isInFlight = true → other.2.isInFlight = true → one = other) ∧
    (∀ entry ∈ s.calls, entry.2.isInFlight = true → ∀ move t, env s move → s.after move = some t →
      s.hosted.engine.verbsWaiting = 0 ∧ t.hosted.engine.verbsWaiting = 0) ∧
    (∀ before caller stop behind, deeds = before ++ .ended caller stop :: behind →
      Deed.Current before stop) ∧
    (∀ caller verb, (caller, .resume verb .binding) ∈ s.calls →
      ∀ more t reply, Chronicle env s more t → t.reply? caller = some reply →
        ∃ result told, reply = result.map (fun _ => .done) ∧
          Testimony (Way env s t) caller result told ∧
          Deed.by caller more = told ++ [.returned caller result]) ∧
    (∀ caller (errand : Errand) verb t,
      (caller, errand.call (.relooking errand.dialect)) ∈ s.calls →
      s.standing = .paused errand.stop verb → s.after (.act (.call caller)) = some t →
      Deed.Current deeds errand.stop ∧
      (∀ more u, Chronicle env t more u →
        u.Carries errand (Calm env t more u) more caller ∧
        (u.reply? caller ≠ some (.error (.execution .notStopped))) ∧
        ((∃ call, (caller, call) ∈ u.calls) →
          (∃ v, u.after (.act (.call caller)) = some v) ∨
            ∃ v, u.after (.act .engine) = some v)) ∧
      ∀ outcome after, t.hosted.debuggerPresent = true → t.hosted.engine.commands = [] →
        (t.hosted.engine.undebugged errand.command).Ends t.hosted.engine.files outcome after →
        ∃ more u, Chronicle (.only []) t more u ∧
          u.reply? caller = some ((errand.result outcome).map .answer)) := by
  obtain ⟨faithful, plight, done, bears⟩ := chronicle.after verbless made
  refine ⟨fun one member other within flies also =>
      faithful.inFlight_unique member flies within also,
    fun entry member flies move t allowed moved => faithful.verbs_of_inFlight
      (fun engine same => verbless s engine (same ▸ allowed)) moved member flies,
    fun before caller stop behind split => done.ended_current split,
    fun caller verb mine more t reply further replied =>
      further.resume_tells verbless faithful mine replied,
    fun caller errand verb t mine paused moved => ?_⟩
  have ready : t.Faithful :=
    Session.faithful_after faithful (fun _ other => by cases other) moved
  refine ⟨chronicle.current verbless made paused, fun more u further => ?_,
    fun outcome after present alone ends => ?_⟩
  · have carries := further.carries verbless ready (faithful.carries mine paused moved)
    have later := further.faithful verbless ready
    refine ⟨carries, fun replied => ?_, fun ⟨call, still⟩ =>
      (carries.going call still).moves later still⟩
    obtain ⟨result, own, same⟩ := carries.reply replied
    cases result with
    | ok answer => cases same
    | error error =>
      cases same
      exact own.timely rfl
  · obtain ⟨here, inside⟩ := faithful.posts mine paused moved
    obtain ⟨_, u, course, replied⟩ :=
      ready.exists_course_returned .empty here inside alone present ends
    obtain ⟨more, further⟩ := course.chronicle
    exact ⟨more, u, further, replied⟩

end Chronicle

/-! ### A race for a stop -/

/-- What callers ask for who run a script that waits in the debugger, look at what `1 + 2` is there,
and let the script go on. -/
def Order.racing : List Order :=
  [.start, .submit (.script "Wait-Debugger"), .nested (.script "1 + 2") .int, .resume .resume]

/-- The moves of a nested execution and a resume that line up for the gate one after the other. -/
def Move.racing : List Move :=
  [.order (.nested (.script "1 + 2") .int), .act (.call 3), .act (.call 3), .act (.call 3),
    .order (.resume .resume), .act (.call 4), .act (.call 4), .act (.call 4)]

namespace Session

/-- A session whose script waits in the debugger. -/
def waiting : Session :=
  plain.carryOut [.start, .submit (.script "Wait-Debugger")]

/-- The session in which both have lined up for the gate. -/
def raced : Session :=
  (waiting.play Move.racing).getD waiting

theorem play_racing : waiting.play Move.racing = some raced := by
  have possible : (waiting.play Move.racing).isSome = true := by decide +kernel
  obtain ⟨t, played⟩ := Option.isSome_iff_exists.mp possible
  rw [raced, played]
  rfl

/-- The dialect of a nested execution that is about to look again. -/
def looksAgain? (s : Session) (caller : Nat) : Option Dialect :=
  match s.calls.lookup caller with
  | some (.nested _ _ (.relooking dialect)) => some dialect
  | _ => none

theorem mem_of_looksAgain {s : Session} {caller : Nat} {dialect : Dialect}
    (looks : s.looksAgain? caller = some dialect) :
    ∃ pipeline shape, (caller, .nested pipeline shape (.relooking dialect)) ∈ s.calls := by
  unfold looksAgain? at looks
  split at looks
  · rename_i pipeline shape _ found
    cases looks
    exact ⟨pipeline, shape, mem_of_lookup found⟩
  · cases looks

end Session

namespace Chronicle

/-- A nested execution and a resume race for one stop. The nested execution is the first at the gate,
so that it is carried out in that stop, while the resume cannot move. -/
theorem nested_excludes_resume_raced : ∃ deeds errand t,
    Chronicle (.only Order.racing) Session.plain deeds Session.raced ∧
    (3, errand.call (.relooking errand.dialect)) ∈ Session.raced.calls ∧
    Session.raced.after (.act (.call 4)) = none ∧
    Session.raced.after (.act (.call 3)) = some t ∧ Deed.Current deeds errand.stop ∧
    ∀ more u, Chronicle (.only Order.racing) t more u →
      u.Carries errand (Calm (.only Order.racing) t more u) more 3 := by
  have stopped : ∃ deeds, Chronicle (.only Order.racing) Session.plain deeds Session.waiting := by
    obtain ⟨i, course⟩ := Session.plain.exists_course_carryOut .empty
      [.start, .submit (.script "Wait-Debugger")]
    obtain ⟨deeds, chronicle⟩ := course.chronicle
    refine ⟨deeds, chronicle.weaken ?_⟩
    rintro u move (actor | ⟨order, listed, same⟩)
    · exact .inl actor
    · refine .inr ⟨order, ?_, same⟩
      rcases List.mem_cons.mp listed with rfl | listed
      · exact List.mem_cons_self
      · rw [List.mem_singleton.mp listed]
        exact List.mem_cons_of_mem _ List.mem_cons_self
  obtain ⟨before, waiting⟩ := stopped
  obtain ⟨behind, racing⟩ : ∃ deeds,
      Chronicle (.only Order.racing) Session.waiting deeds Session.raced := by
    refine Session.exists_chronicle_play (fun move member u => ?_) Session.play_racing
    simp only [Move.racing, List.mem_cons, List.not_mem_nil, or_false] at member
    rcases member with rfl | rfl | rfl | rfl | rfl | rfl | rfl | rfl <;>
      first | exact .inl ⟨_, rfl⟩ | exact .inr ⟨_, by simp [Order.racing], rfl⟩
  have chronicle := waiting.trans racing
  have looks : Session.raced.looksAgain? 3 = some .modern := by decide +kernel
  have paused : Session.raced.standing = .paused ⟨.waitDebugger, 1⟩ none := by decide +kernel
  have held : (Session.raced.after (.act (.call 4))).isNone = true := by decide +kernel
  have goes : (Session.raced.after (.act (.call 3))).isSome = true := by decide +kernel
  obtain ⟨pipeline, shape, mine⟩ := Session.mem_of_looksAgain looks
  obtain ⟨t, moved⟩ := Option.isSome_iff_exists.mp goes
  obtain ⟨_, _, _, _, nested⟩ := nested_excludes_resume chronicle
    (Environment.only_private _).verbless (.fresh _ _)
  let errand : Errand := ⟨pipeline, shape, .modern, ⟨.waitDebugger, 1⟩⟩
  obtain ⟨current, further, _⟩ := nested 3 errand none t mine paused moved
  exact ⟨_, errand, t, chronicle, mine, Option.isNone_iff_eq_none.mp held, moved, current,
    fun more u later => (further more u later).1⟩

end Chronicle

end ShellSession
