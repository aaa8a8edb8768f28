/-
**What a call has done.**

By the time its resume has a result, a call has lifted the pause of one stop and ended it; or it has
lifted the pause and failed, since the host has the verb refused; or it has found no pause, or the
session without its engine, and has done nothing.

* `HostedEngine.Refuses`: why a verb comes to nothing though its stop has not been left;
* `Testimony`: what a call has done, by the result of its resume;
* `Chronicle.tells`: **every call goes so, as long as others send no verbs**;
* `Chronicle.resume_tells`: what a resume returns tells what it has done.
-/

import ShellSession.Proofs.Session.Plight

namespace ShellSession

/-- The host has taken the debugger away, or has it refuse every verb, with an error. -/
def HostedEngine.Refuses (h : HostedEngine) (error : SessionFailure) : Prop :=
  h.debuggerPresent = false ∧ error = .debuggerUnavailable ∨
    ∃ refusal, h.refusal = some refusal ∧ error = .execution refusal

/-- In a stop that has not been left, a verb is refused by nobody but the host. -/
theorem HostedEngine.refuses_of_resume {h : HostedEngine} {verb : Verb} {error : SessionFailure}
    (stopped : h.engine.isStopped = true) (refused : h.resume verb = .error error) :
    h.Refuses error := by
  unfold resume at refused
  split at refused
  · split at refused
    · rename_i refusal given
      cases refused
      exact .inr ⟨refusal, given, rfl⟩
    · unfold Engine.resume at refused
      rw [if_pos stopped] at refused
      cases refused
  · rename_i absent
    cases refused
    exact .inl ⟨Bool.eq_false_iff.mpr absent, rfl⟩

/-! ### Results -/

/-- What a call has done by the time its resume has a result, and which of the sessions that it has
seen accounts for a failure. -/
inductive Testimony (seen : Session → Prop) (caller : Nat) : Except SessionFailure Unit → List Deed → Prop
  | ended (stop : Stop) : Testimony seen caller (.ok ()) [.lifted caller stop, .ended caller stop]
  | failed (stop : Stop) (error : SessionFailure)
      (refused : ∃ u, seen u ∧ u.hosted.Refuses error) :
      Testimony seen caller (.error error) [.lifted caller stop, .failed caller stop error]
  | missed (active : ∃ u, seen u ∧ u.standing = .active) : Testimony seen caller (.error .notPaused) []
  | late (unbound : ∃ u, seen u ∧ u.bound = false) : Testimony seen caller (.error .disposed) []

/-- What a call has done at a stage of its resume. -/
def Resuming.Tells (seen : Session → Prop) (caller : Nat) (deeds : List Deed) : Resuming → Prop
  | applying stop => deeds = [.lifted caller stop]
  | restoring stop error =>
    deeds = [.lifted caller stop] ∧ ∃ u, seen u ∧ u.hosted.Refuses error
  | leaving result => Testimony seen caller result deeds
  | finished result => Testimony seen caller result deeds
  | _ => deeds = []

/-- What a call has done that is so far with its resume. -/
def Standpoint.Tells (seen : Session → Prop) (caller : Nat) (deeds : List Deed) : Standpoint → Prop
  | ahead => deeds = []
  | within stage => stage.Tells seen caller deeds
  | behind => deeds = [] ∨ ∃ result told, Testimony seen caller result told ∧
      deeds = told ++ [.returned caller result]

/-- What the call with a number has done. -/
def Deed.by (caller : Nat) (deeds : List Deed) : List Deed :=
  deeds.filter fun deed => deed.caller? = some caller

section

variable {seen wider : Session → Prop} {caller : Nat} {deeds : List Deed}

theorem Testimony.weaken {result : Except SessionFailure Unit} (told : Testimony seen caller result deeds)
    (more : ∀ u, seen u → wider u) : Testimony wider caller result deeds := by
  cases told with
  | ended stop => exact .ended stop
  | failed stop error refused => exact .failed stop error (refused.imp fun u => .imp_left (more u))
  | missed active => exact .missed (active.imp fun u => .imp_left (more u))
  | late unbound => exact .late (unbound.imp fun u => .imp_left (more u))

theorem Standpoint.Tells.weaken {point : Standpoint} (tells : point.Tells seen caller deeds)
    (more : ∀ u, seen u → wider u) : point.Tells wider caller deeds := by
  cases point with
  | ahead => exact tells
  | behind => exact tells.imp_right fun ⟨result, told, same, whole⟩ =>
      ⟨result, told, same.weaken more, whole⟩
  | within stage =>
    cases stage with
    | restoring stop error => exact tells.imp_right fun refused => refused.imp fun u => .imp_left (more u)
    | leaving result => exact Testimony.weaken tells more
    | finished result => exact Testimony.weaken tells more
    | _ => exact tells

/-- The resume of a call has one result. -/
theorem Testimony.result_eq {result other : Except SessionFailure Unit} {told : List Deed}
    (same : Testimony seen caller result told)
    (member : .returned caller other ∈ told ++ [.returned caller result]) : other = result := by
  rcases List.mem_append.mp member with before | last
  · cases same <;> cases before
    all_goals rename_i before; cases before
    all_goals rename_i before; cases before
  · cases List.mem_singleton.mp last
    rfl

end

/-! ### Steps -/

namespace Session

variable {s t : Session} {caller : Nat} {deeds : List Deed} {seen : Session → Prop}

/-- A step of a call, with what it does. -/
theorem Leads.tells {order : Order} {before after : Standpoint}
    (leads : s.Leads caller order before t after) (here : seen s)
    (stopped : ∀ stop, before.lifted? = some stop → s.hosted.engine.isStopped = true)
    (tells : before.Tells seen caller deeds) :
    after.Tells seen caller (deeds ++ (before.deed? caller after).toList) := by
  cases leads with
  | aside passes standing =>
    cases passes with
    | leave result => exact .inr ⟨result, deeds, tells, rfl⟩
    | wait => exact (List.append_nil deeds).trans tells
    | begin => exact (List.append_nil deeds).trans tells
    | spare => exact .inl ((List.append_nil deeds).trans tells)
    | rest =>
      rw [show (Standpoint.behind.deed? caller .behind).toList = [] from rfl, List.append_nil]
      exact tells
  | stage verb asked now later u stepped books =>
    cases Resuming.goes_of_step stepped with
    | unbound unbound =>
      cases tells
      exact .late ⟨s, here, unbound⟩
    | active active =>
      cases tells
      exact .missed ⟨s, here, Standing.eq_active active⟩
    | missed held active =>
      cases tells
      exact .missed ⟨s, here, active⟩
    | gone active =>
      cases tells
      exact .missed ⟨s, here, active⟩
    | lift stop other paused =>
      cases tells
      rfl
    | apply stop hosted applied =>
      cases tells
      exact .ended stop
    | lose stop error refused claims =>
      cases tells
      exact .failed stop error ⟨s, here, HostedEngine.refuses_of_resume (stopped stop rfl) refused⟩
    | fail stop error refused claims =>
      cases tells
      exact ⟨rfl, s, here, HostedEngine.refuses_of_resume (stopped stop rfl) refused⟩
    | restore stop error =>
      obtain ⟨rfl, host⟩ := tells
      exact .failed stop error host
    | leave result =>
      show Testimony seen caller result (deeds ++ [])
      rw [List.append_nil]
      exact tells
    | _ => exact (List.append_nil deeds).trans tells

/-- What is done in a step of a call is done by that call. -/
theorem by_append (deeds : List Deed) {deed : Option Deed}
    (mine : ∀ done, deed = some done → done.caller? = some caller) :
    Deed.by caller (deeds ++ deed.toList) = Deed.by caller deeds ++ deed.toList ∧
      ∀ other, other ≠ caller → Deed.by other (deeds ++ deed.toList) = Deed.by other deeds := by
  unfold Deed.by
  cases deed with
  | none => exact ⟨by rw [Option.toList_none, List.append_nil, List.append_nil],
      fun other _ => by rw [Option.toList_none, List.append_nil]⟩
  | some done =>
    have author := mine done rfl
    refine ⟨?_, fun other apart => ?_⟩
    · rw [List.filter_append]
      refine congrArg _ (List.filter_eq_self.mpr fun deed member => ?_)
      rw [List.mem_singleton.mp member]
      exact decide_eq_true author
    · rw [List.filter_append, show List.filter _ (some done).toList = [] from ?_, List.append_nil]
      refine List.filter_eq_nil_iff.mpr fun deed member here => ?_
      rw [List.mem_singleton.mp member] at here
      exact apart (Option.some.inj ((of_decide_eq_true here).symm.trans author))

/-- What is done by no call is not written down of any. -/
theorem by_append_none {deed : Option Deed} (nobody : ∀ done, deed = some done → done.caller? = none)
    (caller : Nat) : Deed.by caller (deeds ++ deed.toList) = Deed.by caller deeds := by
  unfold Deed.by
  rw [List.filter_append, show List.filter _ deed.toList = [] from ?_, List.append_nil]
  refine List.filter_eq_nil_iff.mpr fun done member here => ?_
  rw [nobody done (Option.mem_toList.mp member)] at here
  cases of_decide_eq_true here

/-- **What a call does fits how far it is with its resume.** -/
theorem Marks.tells {deed : Option Deed} (marks : s.Marks t deed) (faithful : s.Faithful)
    (here : seen s) (begun : caller ≤ s.lastCall)
    (tells : (s.standpoint caller).Tells seen caller (Deed.by caller deeds)) :
    (t.standpoint caller).Tells seen caller (Deed.by caller (deeds ++ deed.toList)) := by
  cases marks with
  | call other order leads others lastCall engine =>
    have author : ∀ done, (s.standpoint other).deed? other (t.standpoint other) = some done →
        done.caller? = some other := fun done same => Standpoint.deed?_caller same
    obtain ⟨mine, theirs⟩ := by_append deeds author
    by_cases apart : caller = other
    · subst apart
      rw [mine]
      refine leads.tells here (fun stop lifted => ?_) tells
      obtain ⟨call, member, has⟩ := mem_of_lifted lifted
      unfold Engine.isStopped
      rw [faithful.names stop (.lifted (caller, call) member has)]
      rfl
    · rw [theirs caller apart, others caller apart]
      exact tells
  | listen moved =>
    rw [by_append_none fun done does => heeded?_caller does]
    unfold standpoint
    rw [listen_changes moved]
    exact tells
  | aside standing points lastCall =>
    rw [Option.toList_none, List.append_nil]
    rcases points caller with same | ⟨late, _⟩
    · rw [same]
      exact tells
    · exact absurd begun (Nat.not_le_of_lt late)

end Session

/-- **What a call has done fits how far it is with its resume**, whatever is done meanwhile short of
verbs of others. -/
theorem Chronicle.tells {env : Environment} {s t : Session} {deeds : List Deed} {caller : Nat}
    (chronicle : Chronicle env s deeds t) (verbless : env.Verbless) (faithful : s.Faithful)
    (begun : caller ≤ s.lastCall) (before : (s.standpoint caller).Tells (Way env s s) caller []) :
    (t.standpoint caller).Tells (Way env s t) caller (Deed.by caller deeds) := by
  suffices holds : t.Faithful ∧ caller ≤ t.lastCall ∧ (∃ deeds, Chronicle env s deeds t) ∧
      (t.standpoint caller).Tells (Way env s t) caller (Deed.by caller deeds) from holds.2.2.2
  refine chronicle.invariant (fun t deeds => t.Faithful ∧ caller ≤ t.lastCall ∧
    (∃ deeds, Chronicle env s deeds t) ∧
    (t.standpoint caller).Tells (Way env s t) caller (Deed.by caller deeds)) ?_
    ⟨faithful, begun, ⟨[], .rest⟩, before⟩
  rintro t u deeds move ⟨faithful, begun, ⟨sofar, way⟩, tells⟩ allowed moved
  have marks := Session.marks_after faithful.orderly moved
  refine ⟨Session.faithful_after faithful (fun engine same => verbless t engine (same ▸ allowed)) moved,
    Nat.le_trans begun marks.lastCall_le, ⟨_, way.move move allowed moved⟩, ?_⟩
  exact (marks.tells faithful way.way begun tells).weaken fun v lies => lies.further allowed moved

/-! ### Resumes -/

/-- What is to be said of a resume: at some stage as long as it is in progress, and what it has
returned, of which it is written down that its resume has come to it. -/
def Session.Resumes (s : Session) (verb : Verb) (deeds : List Deed) (caller : Nat) : Prop :=
  s.Follows caller (fun call => ∃ stage, call = .resume verb stage) fun reply =>
    ∃ result, reply = result.map (fun _ => .done) ∧ .returned caller result ∈ deeds

/-- A resume stays one and returns the result of its resume. -/
theorem Session.Resumes.after {s t : Session} {move : Move} {verb : Verb} {deeds : List Deed}
    {caller : Nat} (resumes : s.Resumes verb deeds caller) (orderly : s.Orderly)
    (moved : s.after move = some t) : t.Resumes verb (deeds ++ (s.deed? move t).toList) caller := by
  have longer : s.Resumes verb (deeds ++ (s.deed? move t).toList) caller :=
    resumes.weaken (fun _ _ => id) fun reply ⟨result, same, member⟩ =>
      ⟨result, same, List.mem_append_left _ member⟩
  refine longer.onward moved (fun u expired => ?_) (fun _ _ _ => id) ?_
  · obtain ⟨call, _, mine, expires, _⟩ := expires_of_expire expired
    obtain ⟨stage, rfl⟩ := resumes.going call mine
    cases expires
  · rintro call rfl mine ⟨stage, rfl⟩ taken
    rcases advanceResume_cases taken with ⟨result, rfl, rfl⟩ | ⟨u, next, stepped, rfl⟩
    · refine ⟨fun later member => absurd member (not_mem_giveBack _), fun reply replied => ?_⟩
      rcases List.mem_append.mp replied with before | now
      · exact .inl before
      · refine .inr ⟨result, (Prod.mk.inj (List.mem_singleton.mp now)).2, ?_⟩
        refine List.mem_append_right _ (Option.mem_toList.mpr ?_)
        show (s.standpoint caller).deed? caller _ = _
        rw [standpoint_of_mem orderly mine]
        rfl
    · refine ⟨fun later member => ⟨next, eq_of_mem_proceed member⟩, fun reply replied => .inl ?_⟩
      have affects : s.Affects (.resume verb) stage.grips u next.grips :=
        Resuming.step_effect rfl stepped
      have same : u.replies = s.replies := affects.same_replies
      exact same ▸ replied

namespace Chronicle

variable {env : Environment} {s t : Session} {deeds : List Deed} {caller : Nat}

/-- **What a resume returns tells what it has done**, whatever is done meanwhile short of verbs of
others. -/
theorem resume_tells {verb : Verb} {reply : Except SessionFailure Reply}
    (chronicle : Chronicle env s deeds t) (verbless : env.Verbless) (faithful : s.Faithful)
    (mine : (caller, .resume verb .binding) ∈ s.calls) (replied : t.reply? caller = some reply) :
    ∃ result told, reply = result.map (fun _ => .done) ∧ Testimony (Way env s t) caller result told ∧
      Deed.by caller deeds = told ++ [.returned caller result] := by
  have tells := chronicle.tells verbless faithful (faithful.orderly.numbered _ mine)
    (by rw [Session.standpoint_of_mem faithful.orderly mine]; rfl)
  have first : s.Resumes verb [] caller :=
    ⟨faithful.orderly.numbered _ mine,
      fun call member => ⟨.binding, congrArg Prod.snd
        (faithful.orderly.eq_of_number member mine rfl)⟩,
      fun reply given => absurd rfl ((faithful.orderly.returned _ given).2 _ mine),
      .inl ⟨_, mine⟩⟩
  obtain ⟨later, resumes⟩ : t.Faithful ∧ t.Resumes verb deeds caller :=
    chronicle.invariant (fun t deeds => t.Faithful ∧ t.Resumes verb deeds caller)
      (fun {t _ _} _ kept allowed moved => ⟨Session.faithful_after kept.1
        (fun engine same => verbless t engine (same ▸ allowed)) moved,
        kept.2.after kept.1.orderly moved⟩) ⟨faithful, first⟩
  obtain ⟨result, same, member⟩ := resumes.reply replied
  -- The call has returned, so that it is through with its resume.
  have behind : t.standpoint caller = .behind := Session.standpoint_of_none fun call still =>
    (later.orderly.returned _ (Session.mem_of_lookup replied)).2 _ still rfl
  rw [behind] at tells
  have done : .returned caller result ∈ Deed.by caller deeds :=
    List.mem_filter.mpr ⟨member, decide_eq_true rfl⟩
  rcases tells with none | ⟨other, told, tells, whole⟩
  · rw [none] at done
    cases done
  · rw [whole] at done
    cases tells.result_eq done
    exact ⟨result, told, same, tells, whole⟩

end Chronicle

end ShellSession
