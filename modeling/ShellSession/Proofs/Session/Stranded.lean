/-
**Sessions whose stop nobody leaves.**

An abort or a dispose looks for a stop only in a session that still accepts requests. In one that is
aborting or disposed they go past the pause, and so a stop that came about behind an abort is left by
a resume only; once the session is disposed, a resume is refused as well.

* `Call.isBlind`: the calls that never look for the pause in such a session;
* `Session.Stranded`: a session that is paused and in which all calls are blind;
* `Session.stranded_after`: **every move keeps it so, as long as nobody asks for a resume in time**;
* `Course.stranded`: **its request is parked for ever, once the session is disposed**.
-/

import ShellSession.Proofs.Session.Parked

namespace ShellSession

/-! ### Blind calls -/

/-- A resume that has not looked for its engine, or is behind the pause. -/
def Resuming.isBlind : Resuming → Bool
  | binding => true
  | leaving _ => true
  | finished _ => true
  | _ => false

/-- An abort without a resume. -/
def Aborting.isBlind : Aborting → Bool
  | resuming _ => false
  | _ => true

/-- A dispose without a resume. -/
def Disposing.isBlind : Disposing → Bool
  | aborting stage => stage.isBlind
  | _ => true

/-- A start whose dispose is without a resume. -/
def Starting.isBlind : Starting → Bool
  | failing _ stage => stage.isBlind
  | _ => true

/-- A call that does not look for the pause, as long as nobody lets it. -/
def Call.isBlind : Call → Bool
  | start (.inside stage) => stage.isBlind
  | resume _ stage => stage.isBlind
  | abort (.inside stage) => stage.isBlind
  | dispose (.inside stage) => stage.isBlind
  | _ => true

/-- A blind call has not lifted the pause. -/
theorem Call.loose_of_blind {call : Call} (blind : call.isBlind = true) : call.grips = false := by
  have aborting : ∀ stage : Aborting, stage.isBlind = true → stage.grips = false := by
    intro stage blind
    cases stage <;> first | rfl | cases blind
  have disposing : ∀ stage : Disposing, stage.isBlind = true → stage.grips = false := by
    intro stage blind
    cases stage with
    | aborting inner => exact aborting inner blind
    | _ => rfl
  cases call with
  | start stage =>
    cases stage with
    | entering => rfl
    | inside stage =>
      cases stage with
      | failing error inner => exact disposing inner blind
      | _ => rfl
  | resume verb stage => cases stage <;> first | rfl | cases blind
  | abort stage =>
    cases stage with
    | entering => rfl
    | inside stage => exact aborting stage blind
  | dispose stage =>
    cases stage with
    | entering => rfl
    | inside stage => exact disposing stage blind
  | _ => rfl

/-- The session accepts no more requests: it is aborting or disposed. -/
def Phase.isLate : Phase → Bool
  | aborting => true
  | disposed => true
  | _ => false

/-- A phase in which no more requests are accepted does not lead back. -/
theorem Phase.late_of_leadsTo {source target : Phase} (leads : source.leadsTo target = true)
    (late : source.isLate = true) : target.isLate = true := by
  cases source <;> cases target <;>
    first
      | rfl
      | exact absurd leads Bool.false_ne_true
      | exact absurd late Bool.false_ne_true

section Stages

variable {s t : Session} {caller : Nat}

/-- A resume stays blind where the session does not refer to its engine any more. -/
theorem Resuming.step_blind {verb : Verb} {stage next : Resuming}
    (unbound : s.bound = false ∨ stage ≠ binding) (blind : stage.isBlind = true)
    (stepped : stage.step caller verb s = some (t, next)) : next.isBlind = true := by
  cases goes_of_step stepped with
  | bound bound =>
    rcases unbound with away | other
    · cases bound.symm.trans away
    · exact absurd rfl other
  | unbound => rfl
  | leave result => rfl
  | _ => cases blind

/-- A resume does not begin again. -/
theorem Resuming.step_begun {verb : Verb} {stage next : Resuming}
    (stepped : stage.step caller verb s = some (t, next)) : next ≠ binding := by
  cases goes_of_step stepped <;> exact nofun

/-- An abort that comes late does not look for a stop. -/
theorem Aborting.step_blind {stage next : Aborting} (late : s.phase.isLate = true)
    (blind : stage.isBlind = true) (stepped : stage.step caller s = some (t, next)) :
    next.isBlind = true := by
  cases goes_of_step stepped with
  | paused alive paused =>
    rcases alive with phase | phase <;> rw [phase] at late <;> cases late
  | resume inner later t same => cases blind
  | _ => rfl

/-- A dispose that comes late does not look for a stop. -/
theorem Disposing.step_blind {stage next : Disposing} (late : s.phase.isLate = true)
    (blind : stage.isBlind = true) (stepped : stage.step caller s = some (t, next)) :
    next.isBlind = true := by
  cases goes_of_step stepped with
  | abort inner later t same => exact Aborting.step_blind late blind same
  | _ => rfl

/-- A start that comes late, or fails late, does not look for a stop. -/
theorem Starting.step_blind {stage next : Starting} (late : s.phase.isLate = true)
    (blind : stage.isBlind = true) (stepped : stage.step caller s = some (t, next)) :
    next.isBlind = true := by
  cases goes_of_step stepped with
  | dispose error inner later t same => exact Disposing.step_blind late blind same
  | _ => rfl

end Stages

/-! ### Stranded sessions -/

namespace Session

variable {s t : Session} {caller : Nat} {move : Move}

/-- A session that is paused and accepts no more requests, in which all calls are blind and no resume
is about to find the engine. -/
structure Stranded (s : Session) : Prop where
  late : s.phase.isLate = true
  paused : s.standing.isPaused = true
  blind : ∀ entry ∈ s.calls, entry.2.isBlind = true
  unasked : s.bound = false ∨ ∀ entry ∈ s.calls, ∀ verb, entry.2 ≠ .resume verb .binding

/-- A blind call of a session that is late stays blind. -/
theorem blind_advance (late : s.phase.isLate = true) {call later : Call}
    (blind : call.isBlind = true) (unasked : s.bound = false ∨ ∀ verb, call ≠ .resume verb .binding)
    (moved : s.advanceCall caller call = some t) (member : (caller, later) ∈ t.calls) :
    later.isBlind = true := by
  cases takes_of_advanceCall moved with
  | line next lines =>
    rw [eq_of_mem_proceed member]
    cases lines <;> rfl
  | stage u next goes =>
    rw [eq_of_mem_proceed member]
    cases goes with
    | start stage next u held stepped => exact Starting.step_blind late blind stepped
    | resume verb stage next u stepped =>
      exact Resuming.step_blind (unasked.imp id fun never same => never verb (same ▸ rfl)) blind
        stepped
    | abort stage next u held stepped => exact Aborting.step_blind late blind stepped
    | dispose stage next u held stepped => exact Disposing.step_blind late blind stepped
    | _ => rfl
  | _ => exact absurd member (not_mem_giveBack _)

/-- No call goes on as a resume that has just begun. -/
theorem advance_begun {call later : Call} (moved : s.advanceCall caller call = some t)
    (member : (caller, later) ∈ t.calls) (verb : Verb) : later ≠ .resume verb .binding := by
  rintro rfl
  cases takes_of_advanceCall moved with
  | line next lines =>
    cases eq_of_mem_proceed member
    cases lines
  | stage u next goes =>
    cases eq_of_mem_proceed member
    cases goes with
    | resume verb stage next u stepped => exact Resuming.step_begun stepped rfl
  | _ => exact absurd member (not_mem_giveBack _)

/-- A session that is late stays so. -/
theorem late_after (late : s.phase.isLate = true) (moved : s.after move = some t) :
    t.phase.isLate = true := by
  rcases leadsTo_after moved with same | leads
  · rw [same]
    exact late
  · exact Phase.late_of_leadsTo leads late

/-- The calls behind a move: those before it, the next stage of the one that has taken a step, and
the one that has begun. -/
theorem mem_after {entry : Nat × Call} (moved : s.after move = some t) (member : entry ∈ t.calls) :
    entry ∈ s.calls ∨
    (∃ call, move = .act (.call entry.1) ∧ (entry.1, call) ∈ s.calls ∧
      s.advanceCall entry.1 call = some t) ∨
    (∃ now, move = .act (.timeout entry.1) ∧ entry.2.disposing? = some now ∧ 5 ≤ now.progress) ∨
    ∃ order, move = .order order ∧ entry.2 = order.call := by
  cases moves_of_after moved with
  | call caller moved =>
    obtain ⟨call, found, taken⟩ := Option.bind_eq_some_iff.mp moved
    obtain ⟨next, advances⟩ := advanceCall_advances taken
    rw [advances.calls] at member
    rcases mem_callsBehind member with ⟨_, old⟩ | ⟨later, same, rfl⟩
    · exact .inl old
    · exact .inr (.inl ⟨call, rfl, mem_of_lookup found, taken⟩)
  | timeout caller mine expires =>
    rcases mem_proceed member with ⟨_, old⟩ | rfl
    · exact .inl old
    · obtain ⟨_, later, _, disposing, waited⟩ := expires.disposes
      have further := waited.progress
      exact .inr (.inr (.inl ⟨later, rfl, disposing, by omega⟩))
  | order order =>
    rcases List.mem_append.mp member with old | new
    · exact .inl old
    · rw [List.mem_singleton.mp new]
      exact .inr (.inr (.inr ⟨order, rfl, rfl⟩))
  | driver _ same | listener _ same | aside _ same =>
    rw [same] at member
    exact .inl member

/-- A dispose that has changed the phase is blind. -/
theorem blind_of_progress {call : Call} {now : Disposing} (disposing : call.disposing? = some now)
    (begun : 0 < now.progress) : call.isBlind = true := by
  have blind : now.isBlind = true := by
    cases now with
    | aborting stage => exact absurd begun (Nat.lt_irrefl 0)
    | _ => rfl
  unfold Call.disposing? at disposing
  split at disposing
  · cases disposing
    exact blind
  · cases disposing
    exact blind
  · cases disposing

/-- **A stranded session stays stranded**, as long as nobody asks for a resume while it still refers
to its engine. -/
theorem stranded_after (stranded : s.Stranded)
    (unasked : s.bound = false ∨ ∀ verb, move ≠ .order (.resume verb))
    (moved : s.after move = some t) : t.Stranded := by
  have blind : ∀ entry ∈ t.calls, entry.2.isBlind = true := by
    intro entry member
    rcases mem_after moved member with old | ⟨call, rfl, mine, taken⟩ |
      ⟨now, rfl, disposing, further⟩ | ⟨order, rfl, same⟩
    · exact stranded.blind entry old
    · exact blind_advance stranded.late (stranded.blind _ mine)
        (stranded.unasked.imp id fun never verb same => never _ mine verb same) taken member
    · exact blind_of_progress disposing (by omega)
    · rw [same]
      cases order <;> rfl
  refine ⟨late_after stranded.late moved, ?_, blind, ?_⟩
  · refine (paused_after stranded.paused moved).resolve_right fun grips => ?_
    obtain ⟨entry, member, some⟩ := List.any_eq_true.mp grips
    rw [Call.loose_of_blind (blind entry member)] at some
    cases some
  · by_cases unbound : s.bound = false
    · exact .inl (unbound_after moved unbound)
    · have never := stranded.unasked.resolve_left unbound
      refine .inr fun entry member verb same => ?_
      rcases mem_after moved member with old | ⟨call, rfl, mine, taken⟩ |
        ⟨now, rfl, disposing, _⟩ | ⟨order, rfl, asked⟩
      · exact never entry old verb same
      · have begun : (_, entry.2) ∈ t.calls := member
        exact advance_begun taken begun verb same
      · rw [same] at disposing
        cases disposing
      · rw [asked] at same
        cases order with
        | resume other => exact unasked.resolve_left unbound other rfl
        | _ => cases same

end Session

/-- **A stranded session keeps its request parked**, along every course on which nobody else uses the
engine and no resume comes in time: whatever else is asked of the session, no verb is sent and the
request gets no result. -/
theorem Course.stranded {env : Environment} {s t : Session} {j k : Journal} {request : Request}
    {ticket : Nat} {next : Except EngineFailure (List Value) → Routine} {stop : Stop}
    (course : Course env s j k t) (alone : env.Private)
    (unasked : s.bound = false ∨ ∀ t verb, ¬ env t (.order (.resume verb)))
    (sound : s.Sound j) (attached : s.Attached) (stranded : s.Stranded)
    (parked : s.Parked request ticket next stop) :
    (t.Sound k ∧ t.Attached ∧ t.Stranded) ∧ t.Parked request ticket next stop ∧
      k.verbs = j.verbs ∧ ∀ result, (request.id, result) ∉ t.results := by
  have kept := course.invariant (fun t k => (t.Sound k ∧ t.Attached) ∧ (t.Stranded ∧
    (t.bound = false ∨ ∀ t verb, ¬ env t (.order (.resume verb)))) ∧
    t.Parked request ticket next stop ∧ k.verbs = j.verbs) ?_
    ⟨⟨sound, attached⟩, ⟨stranded, unasked⟩, parked, rfl⟩
  · obtain ⟨⟨sound, attached⟩, ⟨stranded, _⟩, parked, verbs⟩ := kept
    exact ⟨⟨sound, attached, stranded⟩, parked, verbs, parked.unsettled sound.custody⟩
  · rintro t u k move ⟨⟨sound, attached⟩, ⟨stranded, unasked⟩, parked, verbs⟩ allowed moved
    have others : ∀ engine, move ≠ .outside engine := fun engine same => alone t engine (same ▸ allowed)
    obtain ⟨still, none⟩ := parked.after attached.linked sound.custody.agree others
      (fun caller call _ mine => Call.loose_of_blind (stranded.blind _ mine)) moved k
    have late : t.bound = false ∨ ∀ verb, move ≠ .order (.resume verb) :=
      unasked.imp id fun never verb same => never t verb (same ▸ allowed)
    exact ⟨⟨sound.after moved, Session.attached_after attached sound.custody.agree others moved⟩,
      ⟨Session.stranded_after stranded late moved, unasked.imp (Session.unbound_after moved) id⟩,
      still, none.trans verbs⟩

end ShellSession
