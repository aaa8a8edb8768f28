/-
**The resume of a call.**

A resume is a call of its own, or a part of an abort, and an abort may be a part of a dispose, which
may be a part of a start that has failed. Wherever it is, it takes the same steps, and a call goes
through one resume at most.

* `Standpoint`: how far a call is with its resume;
* `Session.Leads`: a step of a call, as far as its resume is concerned;
* `Session.advance_leads`: **every step of a call is a step of its resume, or leaves the pause**.
-/

import ShellSession.Proofs.Session.Life
import ShellSession.Proofs.Session.Parked

namespace ShellSession

/-! ### Standpoints -/

/-- How far a call is with its resume: it may come to one yet, is at a stage of it, or has none in
front of it. -/
inductive Standpoint where
  | ahead
  | within (stage : Resuming)
  | behind

/-- How far an abort is with its resume. -/
def Aborting.standpoint : Aborting → Standpoint
  | checking => .ahead
  | resuming stage => .within stage
  | _ => .behind

/-- How far a dispose is with the resume of its abort. -/
def Disposing.standpoint : Disposing → Standpoint
  | checking => .ahead
  | aborting stage => stage.standpoint
  | _ => .behind

/-- How far a start is with the resume of the dispose behind its failure. -/
def Starting.standpoint : Starting → Standpoint
  | failing _ stage => stage.standpoint
  | finished _ => .behind
  | _ => .ahead

/-- How far a call is with its resume. -/
def Call.standpoint : Call → Standpoint
  | start .entering => .ahead
  | start (.inside stage) => stage.standpoint
  | resume _ stage => .within stage
  | abort .entering => .ahead
  | abort (.inside stage) => stage.standpoint
  | dispose .entering => .ahead
  | dispose (.inside stage) => stage.standpoint
  | _ => .behind

namespace Standpoint

/-- The standpoint of a call that may be over. -/
def of (call : Option Call) : Standpoint :=
  call.elim .behind Call.standpoint

/-- The stop that a resume has lifted the pause of and not left yet. -/
def lifted? : Standpoint → Option Stop
  | within (.applying stop) => some stop
  | within (.restoring stop _) => some stop
  | _ => none

/-- Whether a resume has noted its verb and is about to clear the pause. -/
def isNoted : Standpoint → Bool
  | within .clearing => true
  | _ => false

/-- A call may come to its resume, leave it out, or be through with it. -/
inductive Passes : Standpoint → Standpoint → Prop
  | wait : Passes ahead ahead
  | begin : Passes ahead (within .binding)
  | spare : Passes ahead behind
  | leave (result : Except SessionFailure Unit) : Passes (within (.finished result)) behind
  | rest : Passes behind behind

end Standpoint

/-- A call that has lifted a pause has done so in its resume. -/
theorem Call.grips_eq (call : Call) : call.grips = call.standpoint.lifted?.isSome := by
  have resuming : ∀ stage : Resuming,
      stage.grips = (Standpoint.within stage).lifted?.isSome := by
    intro stage
    cases stage <;> rfl
  have aborting : ∀ stage : Aborting, stage.grips = stage.standpoint.lifted?.isSome := by
    intro stage
    cases stage with
    | resuming inner => exact resuming inner
    | _ => rfl
  have disposing : ∀ stage : Disposing, stage.grips = stage.standpoint.lifted?.isSome := by
    intro stage
    cases stage with
    | aborting inner => exact aborting inner
    | _ => rfl
  cases call with
  | start stage =>
    cases stage with
    | entering => rfl
    | inside stage =>
      cases stage with
      | failing error inner => exact disposing inner
      | _ => rfl
  | resume verb stage => exact resuming stage
  | abort stage =>
    cases stage with
    | entering => rfl
    | inside stage => exact aborting stage
  | dispose stage =>
    cases stage with
    | entering => rfl
    | inside stage => exact disposing stage
  | _ => rfl

/-! ### Steps of stages -/

/-- A step of a call, as far as its resume is concerned: a step of the resume, or one that leaves the
pause as it is. -/
inductive Session.Leads (s : Session) (caller : Nat) (order : Order) :
    Standpoint → Session → Standpoint → Prop
  | stage {t : Session} (verb : Verb) (asked : order.verb? = some verb) (now later : Resuming)
      (u : Session) (stepped : now.step caller verb s = some (u, later)) (books : u.Books t) :
      Leads s caller order (.within now) t (.within later)
  | aside {t : Session} {before after : Standpoint} (passes : before.Passes after)
      (standing : t.standing = s.standing) : Leads s caller order before t after

namespace Session

variable {s t u : Session} {caller : Nat} {order : Order} {before after : Standpoint}

/-- The bookkeeping of calls is not looked at. -/
theorem Leads.books (leads : s.Leads caller order before t after) (books : t.Books u) :
    s.Leads caller order before u after := by
  cases leads with
  | stage verb asked now later v stepped same =>
    refine .stage verb asked now later v stepped ?_
    unfold Books at books same ⊢
    rw [books, same]
  | aside passes standing =>
    refine .aside passes ?_
    rw [books]
    exact standing

end Session

section Stages

variable {s t : Session} {caller : Nat} {order : Order}

theorem Aborting.step_leads {stage next : Aborting} (asked : order.verb? = some .stop)
    (stepped : stage.step caller s = some (t, next)) :
    s.Leads caller order stage.standpoint t next.standpoint := by
  cases goes_of_step stepped with
  | paused alive paused => exact .aside .begin rfl
  | late | early | active => exact .aside .spare rfl
  | resume inner later t same => exact .stage .stop asked inner later t same rfl
  | resumed result => exact .aside (.leave result) rfl
  | _ => exact .aside .rest rfl

theorem Disposing.step_leads {stage next : Disposing} (asked : order.verb? = some .stop)
    (stepped : stage.step caller s = some (t, next)) :
    s.Leads caller order stage.standpoint t next.standpoint := by
  cases goes_of_step stepped with
  | busy alive busy => exact .aside .wait rfl
  | already | free => exact .aside .spare rfl
  | abort inner later t same => exact Aborting.step_leads asked same
  | _ => exact .aside .rest rfl

theorem Starting.step_leads {stage next : Starting}
    (stepped : stage.step caller s = some (t, next)) :
    s.Leads caller .start stage.standpoint t next.standpoint := by
  cases goes_of_step stepped with
  | first | spawn | ask | hear | miss | lose | choose | reject | record => exact .aside .wait rfl
  | late | again | bar | refuse | move | stay => exact .aside .spare rfl
  | dispose error inner later t same => exact Disposing.step_leads rfl same
  | disposed error => exact .aside .rest rfl

theorem Submitting.step_standing {payload : Payload} {stage next : Submitting}
    (stepped : stage.step payload s = some (t, next)) : t.standing = s.standing := by
  cases goes_of_step stepped <;> rfl

theorem Nesting.step_standing {pipeline : Pipeline} {shape : Shape} {stage next : Nesting}
    (stepped : stage.step caller pipeline shape s = some (t, next)) : t.standing = s.standing := by
  cases goes_of_step stepped <;> rfl

end Stages

/-! ### Steps of calls -/

namespace Session

variable {s t : Session} {caller : Nat} {call : Call} {next : Option Call}

/-- A call that goes on is found at its next stage. -/
theorem Advances.next_of_mem (advances : s.Advances caller call next t) {later : Call}
    (member : (caller, later) ∈ t.calls) : next = some later := by
  rw [advances.calls] at member
  rcases mem_callsBehind member with ⟨apart, _⟩ | ⟨other, same, whole⟩
  · exact absurd rfl apart
  · cases whole
    exact same

/-- A call that returns does not go on. -/
theorem Advances.next_of_reply (advances : s.Advances caller call next t)
    {reply : Nat × Except SessionFailure Reply} (given : t.replies = s.replies ++ [reply]) :
    next = none := by
  rcases advances.replies with ⟨later, _, same⟩ | ⟨_, none, _⟩
  · rw [given] at same
    exact absurd (List.append_right_eq_self.mp same) (List.cons_ne_nil _ _)
  · exact none

/-- **A step of a call is a step of its resume, or leaves the pause.** -/
theorem Advances.leads (advances : s.Advances caller call next t) (mine : (caller, call) ∈ s.calls)
    (moved : s.advanceCall caller call = some t) :
    s.Leads caller call.order call.standpoint t (.of next) := by
  cases takes_of_advanceCall moved with
  | line later lines =>
    rw [advances.next_of_mem (mem_proceed_self mine)]
    cases lines <;> exact .aside .wait rfl
  | stage u later goes =>
    have calls : u.calls = s.calls := goes.affects.same_calls
    rw [advances.next_of_mem (mem_proceed_self (calls ▸ mine))]
    cases goes with
    | start stage later u held stepped => exact (Starting.step_leads stepped).books rfl
    | submit payload stage later u stepped =>
      have standing : u.standing = s.standing := Submitting.step_standing stepped
      exact .aside .rest standing
    | nested pipeline shape stage later u stepped =>
      have standing : u.standing = s.standing := Nesting.step_standing stepped
      exact .aside .rest standing
    | resume verb stage later u stepped => exact .stage verb rfl stage later u stepped rfl
    | abort stage later u held stepped => exact (Aborting.step_leads rfl stepped).books rfl
    | dispose stage later u held stepped => exact (Disposing.step_leads rfl stepped).books rfl
  | reply result returns =>
    rw [advances.next_of_reply rfl]
    cases returns with
    | resume verb result => exact .aside (.leave result) rfl
    | _ => exact .aside .rest rfl
  | pause asked =>
    subst asked
    have replies : (s.pauseEngine.1.giveBack caller (s.pauseEngine.2.map fun _ => .done)).replies =
        s.replies ++ [(caller, s.pauseEngine.2.map fun _ => .done)] := by
      show s.pauseEngine.1.replies ++ _ = _
      rw [s.pauseEngine_effect.same_books.2.2.2.2]
    rw [advances.next_of_reply replies]
    refine .aside .rest ?_
    show s.pauseEngine.1.standing = s.standing
    unfold pauseEngine
    split
    · rfl
    · split <;> rfl

theorem advance_leads (moved : s.advance caller = some t) :
    ∃ call next, s.calls.lookup caller = some call ∧ s.Advances caller call next t ∧
      s.Leads caller call.order call.standpoint t (.of next) := by
  obtain ⟨call, found, moved⟩ := Option.bind_eq_some_iff.mp moved
  obtain ⟨next, advances⟩ := advanceCall_advances moved
  exact ⟨call, next, found, advances, advances.leads (mem_of_lookup found) moved⟩

end Session

end ShellSession
