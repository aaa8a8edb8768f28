/-
**How things stand with the pause.**

There is no pause, or one that is recorded, or one that a call has lifted. What can be done about a
stop depends on that alone, so that a stop is ended at most once, and by the call that has lifted its
pause.

* `Plight`, `Plight.After`: **what can follow what**;
* `Plight.After.ended_current`: an ending goes back to the recording of its own stop;
* `Session.Bears`: how things stand in a session;
* `Chronicle.after`: every chronicle goes so, as long as others send no verbs.
-/

import ShellSession.Proofs.Session.Chronicle

namespace ShellSession

/-! ### What can follow what -/

/-- How things stand with the pause: there is none, one is recorded, or a call has lifted it. -/
inductive Plight where
  | free
  | paused (stop : Stop)
  | lifted (caller : Nat) (stop : Stop)

/-- What can be done where. A stop is recorded when there is no pause; only a recorded one is lifted;
and it is the call that has lifted it that ends it or fails to. -/
inductive Plight.Step : Plight → Deed → Plight → Prop
  | recorded (stop : Stop) : Step free (.recorded stop) (paused stop)
  | lifted (caller : Nat) (stop : Stop) : Step (paused stop) (.lifted caller stop) (lifted caller stop)
  | ended (caller : Nat) (stop : Stop) : Step (lifted caller stop) (.ended caller stop) free
  | kept (caller : Nat) (stop : Stop) (error : SessionFailure) :
      Step (lifted caller stop) (.failed caller stop error) (paused stop)
  | lost (caller : Nat) (stop : Stop) (error : SessionFailure)
      (claims : error.saysNotStopped = true) :
      Step (lifted caller stop) (.failed caller stop error) free
  | published (plight : Plight) (stop : Stop) : Step plight (.published stop) plight
  | dropped (plight : Plight) (reports : List Notice) : Step plight (.dropped reports) plight
  | returned (plight : Plight) (caller : Nat) (result : Except SessionFailure Unit) :
      Step plight (.returned caller result) plight

/-- How things stand behind all that has been done. -/
inductive Plight.After : List Deed → Plight → Prop
  | nil : After [] free
  | snoc {deeds : List Deed} {deed : Deed} {before after : Plight} (sofar : After deeds before)
      (step : Step before deed after) : After (deeds ++ [deed]) after

/-- Whether a deed begins or ends a stop, as far as the session is concerned. -/
def Deed.turns : Deed → Bool
  | recorded _ => true
  | ended _ _ => true
  | _ => false

/-- The stop that is recorded last, and not ended since. -/
def Deed.Current (deeds : List Deed) (stop : Stop) : Prop :=
  ∃ earlier later, deeds = earlier ++ .recorded stop :: later ∧
    ∀ deed ∈ later, deed.turns = false

/-- Something else is done about the stop that is recorded last. -/
theorem Deed.Current.snoc {deeds : List Deed} {stop : Stop} {deed : Deed}
    (current : Deed.Current deeds stop) (turns : deed.turns = false) :
    Deed.Current (deeds ++ [deed]) stop := by
  obtain ⟨earlier, later, rfl, others⟩ := current
  refine ⟨earlier, later ++ [deed], by rw [List.append_assoc]; rfl, fun other member => ?_⟩
  rcases List.mem_append.mp member with old | new
  · exact others other old
  · rw [List.mem_singleton.mp new]
    exact turns

namespace Plight.After

variable {deeds : List Deed} {plight : Plight}

/-- As long as there is a pause, or one that is lifted, its stop is the one that is recorded last. -/
theorem current (after : After deeds plight) :
    (∀ stop, plight = paused stop → Deed.Current deeds stop) ∧
      ∀ caller stop, plight = lifted caller stop → Deed.Current deeds stop := by
  induction after with
  | nil => exact ⟨nofun, nofun⟩
  | snoc sofar step ih =>
    cases step with
    | recorded stop =>
      refine ⟨fun other same => ?_, nofun⟩
      cases same
      exact ⟨_, [], rfl, nofun⟩
    | lifted caller stop =>
      refine ⟨nofun, fun other here same => ?_⟩
      cases same
      exact (ih.1 stop rfl).snoc rfl
    | ended caller stop => exact ⟨nofun, nofun⟩
    | kept caller stop error =>
      refine ⟨fun other same => ?_, nofun⟩
      cases same
      exact (ih.2 caller stop rfl).snoc rfl
    | lost caller stop error claims => exact ⟨nofun, nofun⟩
    | published | dropped | returned =>
      exact ⟨fun other same => (ih.1 other same).snoc rfl,
        fun caller other same => (ih.2 caller other same).snoc rfl⟩

/-- **A stop is ended at most once**: an ending goes back to the recording of its stop, and no stop is
recorded or ended in between. -/
theorem ended_current (after : After deeds plight) {before behind : List Deed} {caller : Nat}
    {stop : Stop} (split : deeds = before ++ .ended caller stop :: behind) :
    Deed.Current before stop := by
  induction after generalizing behind with
  | nil => exact absurd split.symm (List.append_ne_nil_of_right_ne_nil _ (List.cons_ne_nil _ _))
  | @snoc sofar deed _ _ earlier step ih =>
    rcases List.eq_nil_or_concat behind with rfl | ⟨rest, last, rfl⟩
    · obtain ⟨rfl, same⟩ := List.append_inj' split rfl
      cases same
      cases step
      exact earlier.current.2 caller stop rfl
    · rw [List.concat_eq_append, ← List.cons_append, ← List.append_assoc] at split
      exact ih (List.append_inj' split rfl).1

end Plight.After

namespace Session

variable {s t : Session} {caller : Nat} {deeds : List Deed}

/-! ### How things stand -/

/-- How things stand with the pause in a session. -/
inductive Bears (s : Session) : Plight → Prop
  | free (standing : s.standing = .active) (loose : ∀ caller, (s.standpoint caller).lifted? = none) :
      Bears s .free
  | paused (stop : Stop) (verb : Option Verb) (standing : s.standing = .paused stop verb) :
      Bears s (.paused stop)
  | lifted (caller : Nat) (stop : Stop) (lifted : (s.standpoint caller).lifted? = some stop) :
      Bears s (.lifted caller stop)

variable {stop : Stop} {plight : Plight}

/-- A call that has lifted the pause is in progress. -/
theorem mem_of_lifted (lifted : (s.standpoint caller).lifted? = some stop) :
    ∃ call, (caller, call) ∈ s.calls ∧ call.standpoint.lifted? = some stop := by
  unfold standpoint at lifted
  cases found : s.calls.lookup caller with
  | none =>
    rw [found] at lifted
    cases lifted
  | some call =>
    rw [found] at lifted
    exact ⟨call, mem_of_lookup found, lifted⟩

/-- A report of a stop that is not read yet is one. -/
theorem unread_pos {read : Nat} (listening : s.listening = .reading read)
    (found : s.hosted.engine.history[read]? = some (.stopped stop)) : 0 < s.unread := by
  unfold unread
  rw [listening]
  refine List.countP_pos_iff.mpr ⟨.stopped stop, ?_, rfl⟩
  refine List.mem_of_getElem? (i := 0) ?_
  rw [List.getElem?_drop, Nat.add_zero, Array.getElem?_toList]
  exact found

namespace Faithful

/-- The pause is lifted by one call at most. -/
theorem lifted_unique (faithful : s.Faithful) (lifted : (s.standpoint caller).lifted? = some stop)
    {other : Nat} {there : Stop} (same : (s.standpoint other).lifted? = some there) :
    other = caller := by
  obtain ⟨call, mine, grips⟩ := mem_of_lifted lifted
  obtain ⟨further, theirs, holds⟩ := mem_of_lifted same
  have gated : ∀ {call : Call} {stop}, call.standpoint.lifted? = some stop →
      call.isGated = true := fun has => Call.gated_of_grips (by rw [Call.grips_eq, has]; rfl)
  exact faithful.orderly.eq_of_gated theirs (gated holds)
    (decide_eq_true (faithful.orderly.gate _ mine (gated grips)))

/-- There is no other token beside a call that has lifted the pause. -/
theorem single_of_lifted (faithful : s.Faithful)
    (lifted : (s.standpoint caller).lifted? = some stop) :
    s.standing = .active ∧ s.unread = 0 := by
  obtain ⟨call, mine, has⟩ := mem_of_lifted lifted
  have grips : call.grips = true := by
    rw [Call.grips_eq, has]
    rfl
  have single := faithful.poised.single
  unfold tokens signs at single
  rw [gripped_of_mem mine grips] at single
  cases standing : s.standing with
  | active =>
    refine ⟨rfl, ?_⟩
    rw [standing] at single
    have single : 0 + s.unread + 1 ≤ 1 := single
    omega
  | paused stop verb =>
    rw [standing] at single
    have single : 1 + s.unread + 1 ≤ 1 := single
    omega

/-- There is no other token beside a report that is not read yet. -/
theorem free_of_unread (faithful : s.Faithful) (some : 0 < s.unread) : s.Bears .free := by
  have single := faithful.poised.single
  unfold tokens signs at single
  refine .free ?_ fun caller => ?_
  · cases standing : s.standing with
    | active => rfl
    | paused stop verb =>
      rw [standing] at single
      have single : 1 + s.unread + s.gripped.toNat ≤ 1 := single
      omega
  · cases lifted : (s.standpoint caller).lifted? with
    | none => rfl
    | some stop =>
      have none := (faithful.single_of_lifted lifted).2
      omega

/-- How things stand, where there is a pause. -/
theorem bears_paused (faithful : s.Faithful) {verb : Option Verb}
    (standing : s.standing = .paused stop verb) (bears : s.Bears plight) :
    plight = .paused stop := by
  cases bears with
  | free active loose => cases active.symm.trans standing
  | paused other before same =>
    cases same.symm.trans standing
    rfl
  | lifted caller other lifted =>
    cases (faithful.single_of_lifted lifted).1.symm.trans standing

/-- How things stand, where a call has lifted the pause. -/
theorem bears_lifted (faithful : s.Faithful)
    (lifted : (s.standpoint caller).lifted? = some stop) (bears : s.Bears plight) :
    plight = .lifted caller stop := by
  cases bears with
  | free active loose => cases (loose caller).symm.trans lifted
  | paused other before same => cases (faithful.single_of_lifted lifted).1.symm.trans same
  | lifted other there same =>
    cases faithful.lifted_unique lifted same
    cases same.symm.trans lifted
    rfl

end Faithful

/-- Where there is no token but a report that is not read, nothing is paused or lifted. -/
theorem Bears.eq_free (free : s.Bears .free) (bears : s.Bears plight) : plight = .free := by
  cases free with
  | free active loose =>
    cases bears with
    | free _ _ => rfl
    | paused other verb standing => cases active.symm.trans standing
    | lifted caller other lifted => cases (loose caller).symm.trans lifted

/-- Things stand as they did, where neither the pause has changed nor a call that has lifted it. -/
theorem Bears.same (bears : s.Bears plight) (standing : t.standing = s.standing)
    (points : ∀ caller, (t.standpoint caller).lifted? = (s.standpoint caller).lifted?) :
    t.Bears plight := by
  cases bears with
  | free active loose =>
    exact .free (standing.trans active) fun caller => (points caller).trans (loose caller)
  | paused stop verb paused => exact .paused stop verb (standing.trans paused)
  | lifted caller stop lifted => exact .lifted caller stop ((points caller).trans lifted)

/-- A step of a call does what can be done as things stand. -/
theorem Leads.bears {order : Order} (faithful : s.Faithful) (bears : s.Bears plight)
    (leads : s.Leads caller order (s.standpoint caller) t (t.standpoint caller))
    (others : ∀ other, other ≠ caller → t.standpoint other = s.standpoint other) :
    ∃ later, t.Bears later ∧
      (((s.standpoint caller).deed? caller (t.standpoint caller) = none ∧ later = plight) ∨
        ∃ deed, (s.standpoint caller).deed? caller (t.standpoint caller) = some deed ∧
          plight.Step deed later) := by
  -- Where this call has lifted no pause, neither before nor behind the step, nobody has but before.
  have same : t.standing = s.standing → (t.standpoint caller).lifted? = none →
      (s.standpoint caller).lifted? = none → t.Bears plight := by
    intro standing before behind
    refine bears.same standing fun other => ?_
    by_cases mine : other = caller
    · subst mine
      rw [before, behind]
    · rw [others other mine]
  -- Where it gives the stop up, no other call has lifted the pause.
  have loose : ∀ {stop}, (s.standpoint caller).lifted? = some stop →
      (t.standpoint caller).lifted? = none → ∀ other, (t.standpoint other).lifted? = none := by
    intro stop lifted none other
    by_cases mine : other = caller
    · subst mine
      exact none
    · rw [others other mine]
      cases has : (s.standpoint other).lifted? with
      | none => rfl
      | some there => exact absurd (faithful.lifted_unique lifted has) mine
  -- Where it has lifted the pause, this is how things stand, and nothing else is paused.
  have taken : ∀ stop, (s.standpoint caller).lifted? = some stop →
      plight = .lifted caller stop ∧ s.standing = .active := by
    intro stop lifted
    cases faithful.bears_lifted lifted bears
    exact ⟨rfl, (faithful.single_of_lifted lifted).1⟩
  generalize start : s.standpoint caller = before at *
  generalize goal : t.standpoint caller = after at *
  cases leads with
  | aside passes standing =>
    have none : after.lifted? = none ∧ before.lifted? = none := by
      cases passes <;> exact ⟨rfl, rfl⟩
    refine ⟨plight, same standing none.1 none.2, ?_⟩
    cases passes with
    | leave result => exact .inr ⟨_, rfl, .returned plight caller result⟩
    | _ => exact .inl ⟨rfl, rfl⟩
  | stage verb asked now later u stepped books =>
    have standing : t.standing = u.standing := by rw [books]
    cases Resuming.goes_of_step stepped with
    | note stop other held paused =>
      cases faithful.bears_paused paused bears
      exact ⟨.paused stop, .paused stop (some verb) standing, .inl ⟨rfl, rfl⟩⟩
    | lift stop other paused =>
      cases faithful.bears_paused paused bears
      exact ⟨.lifted caller stop, .lifted caller stop (by rw [goal]; rfl),
        .inr ⟨_, rfl, .lifted caller stop⟩⟩
    | apply stop hosted applied =>
      obtain ⟨rfl, active⟩ := taken stop rfl
      exact ⟨.free, .free (standing.trans active) (loose rfl rfl), .inr ⟨_, rfl, .ended caller stop⟩⟩
    | lose stop error refused claims =>
      obtain ⟨rfl, active⟩ := taken stop rfl
      exact ⟨.free, .free (standing.trans active) (loose rfl rfl),
        .inr ⟨_, rfl, .lost caller stop error claims⟩⟩
    | fail stop error refused claims =>
      obtain ⟨rfl, _⟩ := taken stop rfl
      exact ⟨_, .lifted caller stop (by rw [goal]; rfl), .inl ⟨rfl, rfl⟩⟩
    | restore stop error =>
      obtain ⟨rfl, active⟩ := taken stop rfl
      refine ⟨.paused stop, .paused stop none ?_, .inr ⟨_, rfl, .kept caller stop error⟩⟩
      rw [standing, restorePause_of_active stop active]
    | _ => exact ⟨plight, same standing rfl rfl, .inl ⟨rfl, rfl⟩⟩

/-- A step of the listener does what can be done as things stand. -/
theorem listen_bears (faithful : s.Faithful) (bears : s.Bears plight) (moved : s.listen = some t) :
    ∃ later, t.Bears later ∧
      ((s.heeded? t = none ∧ later = plight) ∨
        ∃ deed, s.heeded? t = some deed ∧ plight.Step deed later) := by
  have points : ∀ caller, t.standpoint caller = s.standpoint caller := by
    intro caller
    unfold standpoint
    rw [listen_changes moved]
  have same : t.standing = s.standing → t.Bears plight := fun standing =>
    bears.same standing fun caller => by rw [points]
  have pumps := pumps_of_listen moved
  generalize s.heeded? t = deed at pumps
  cases pumps with
  | quit read listening fired => exact ⟨plight, same rfl, .inl ⟨rfl, rfl⟩⟩
  | drop read listening live lag =>
    exact ⟨plight, same rfl, .inr ⟨_, rfl, .dropped plight s.dropped⟩⟩
  | pass read notice listening found other onward standing stops =>
    exact ⟨plight, same standing, .inl ⟨rfl, rfl⟩⟩
  | record read stop listening found =>
    cases (faithful.free_of_unread (unread_pos listening found)).eq_free bears
    exact ⟨.paused stop, .paused stop none rfl, .inr ⟨_, rfl, .recorded stop⟩⟩
  | publish read stop listening =>
    exact ⟨plight, same rfl, .inr ⟨_, rfl, .published plight stop⟩⟩

/-- **Every move does what can be done as things stand**, and nothing stands otherwise without it. -/
theorem Marks.step {deed : Option Deed} (marks : s.Marks t deed) (faithful : s.Faithful)
    (bears : s.Bears plight) :
    ∃ later, t.Bears later ∧ ((deed = none ∧ later = plight) ∨
      ∃ done, deed = some done ∧ plight.Step done later) := by
  cases marks with
  | call caller order leads others lastCall engine => exact leads.bears faithful bears others
  | listen moved => exact listen_bears faithful bears moved
  | aside standing points lastCall =>
    refine ⟨plight, bears.same standing fun caller => ?_, .inl ⟨rfl, rfl⟩⟩
    rcases points caller with same | ⟨late, order, fresh⟩
    · rw [same]
    · -- A call that has not begun is nowhere with its resume.
      have before : s.standpoint caller = .behind := standpoint_of_none fun call mine =>
        absurd (faithful.orderly.numbered _ mine) (Nat.not_le_of_lt late)
      rw [fresh, before]
      cases order <;> rfl

/-- What is done fits how things stand, and goes on to do so. -/
theorem Marks.bears {deed : Option Deed} (marks : s.Marks t deed) (faithful : s.Faithful)
    (after : Plight.After deeds plight) (bears : s.Bears plight) :
    ∃ later, Plight.After (deeds ++ deed.toList) later ∧ t.Bears later := by
  obtain ⟨later, further, ⟨rfl, rfl⟩ | ⟨done, rfl, step⟩⟩ := marks.step faithful bears
  · exact ⟨later, (List.append_nil deeds).symm ▸ after, further⟩
  · exact ⟨later, after.snoc step, further⟩

end Session

/-! ### Along a chronicle -/

namespace Chronicle

variable {env : Environment} {s t : Session} {deeds : List Deed} {settings : Settings}
  {fallback : Release} {hosted : HostedEngine}

/-- **Every token names the engine's stop, along every chronicle without verbs of others.** -/
theorem faithful (chronicle : Chronicle env s deeds t) (verbless : env.Verbless)
    (faithful : s.Faithful) : t.Faithful :=
  chronicle.invariant (fun t _ => t.Faithful)
    (fun {t _ _} _ faithful allowed moved => Session.faithful_after faithful
      (fun engine same => verbless t engine (same ▸ allowed)) moved) faithful

/-- **What is done about stops fits how things stand.** -/
theorem after (chronicle : Chronicle env (.fresh settings fallback hosted) deeds t)
    (verbless : env.Verbless) (made : hosted.engine.Made) :
    t.Faithful ∧ ∃ plight, Plight.After deeds plight ∧ t.Bears plight := by
  refine chronicle.invariant (fun t deeds => t.Faithful ∧
    ∃ plight, Plight.After deeds plight ∧ t.Bears plight) ?_ ⟨Session.faithful_fresh _ _ made,
      .free, .nil, .free rfl fun caller => rfl⟩
  intro t u deeds move ⟨faithful, plight, after, bears⟩ allowed moved
  exact ⟨Session.faithful_after faithful
    (fun engine same => verbless t engine (same ▸ allowed)) moved,
    (Session.marks_after faithful.orderly moved).bears faithful after bears⟩

end Chronicle

end ShellSession
