/-
**Waiting together strands nobody.**

Any number of callers wait for one task, with deadlines or without. They look for the handle, lead, wait
for a leader, give up when their time is up, and wake each other, one step after another and in any order;
the task ends and time passes in between. The handle is stored, or with one leader, or used up behind the
end of the task; a leader that gives up stores it again. Nobody waits but for somebody who holds the
handle or is about to wake all others. So, in all, there are only so many steps for so many callers, and
once the task has ended they do not come to rest before everybody has an answer.

* `SharedWait.Moves`, `SharedWait.Course`: one step, and all steps on the way;
* `WaiterStage.Passes`: the table of what a waiter can do;
* `SharedWait.Orderly`, `SharedWait.Moves.orderly`: **what every step keeps**;
* `SharedWait.toil`, `SharedWait.Steps.toil_lt`: **every step of a waiter uses up toil**;
* `SharedWait.strands_nobody`: **all of it, along every course**.
-/

import Mathlib.Logic.ExistsUnique
import Mathlib.Tactic.Ring
import ShellSession.Work.SharedWait

namespace ShellSession

/-! ### Stages -/

namespace WaiterStage

/-- A stage behind a call to all who wait. -/
def roused : WaiterStage → WaiterStage
  | waiting => woken
  | stage => stage

/-- Whether a waiter has the handle. -/
def holds : WaiterStage → Bool
  | leading => true
  | recording => true
  | storing => true
  | _ => false

/-- Whether a waiter is about to wake the others. -/
def isWaking : WaiterStage → Bool
  | waking _ => true
  | _ => false

/-- Whether a waiter is behind the end of the task. -/
def isBehind : WaiterStage → Bool
  | recording => true
  | waking ended => ended
  | through ended => ended
  | _ => false

/-- Whether a waiter has given up. -/
def hasGivenUp : WaiterStage → Bool
  | storing => true
  | waking ended => !ended
  | through ended => !ended
  | _ => false

/-- What a waiter can do, depending on whether the task has ended and its own time is up: from a stage,
and the handle being in some custody, it passes to the next stage and leaves the handle where it is
then. -/
inductive Passes (ended late : Prop) : WaiterStage → Custody → WaiterStage → Custody → Prop
  | answered : Passes ended late .looking .spent (.through true) .spent
  | wait : Passes ended late .looking .taken .waiting .taken
  | lead : Passes ended late .looking .stored .leading .taken
  | look (custody : Custody) : Passes ended late .woken custody .looking custody
  | finish (custody : Custody) : ended → Passes ended late .leading custody .recording custody
  | record (custody : Custody) : Passes ended late .recording custody (.waking true) .spent
  | store (custody : Custody) : Passes ended late .storing custody (.waking false) .stored
  | wake (custody : Custody) (answer : Bool) :
      Passes ended late (.waking answer) custody (.through answer) custody
  | leave (custody : Custody) : late → Passes ended late .waiting custody (.through false) custody
  | depart (custody : Custody) : late → Passes ended late .woken custody (.through false) custody
  | yield (custody : Custody) : late → Passes ended late .leading custody .storing custody

namespace Passes

variable {ended late : Prop} {before behind : WaiterStage} {custody next : Custody}

/-- The handle is taken behind a step when the waiter has it then, or leaves it with somebody else. -/
theorem taken_iff (passes : Passes ended late before custody behind next)
    (held : before.holds = true → custody = .taken) :
    next = .taken ↔ behind.holds = true ∨ (before.holds = false ∧ custody = .taken) := by
  cases passes <;> simp_all [holds]

/-- A handle that is taken is taken from nobody. -/
theorem holds_of_taken (passes : Passes ended late before .taken behind next)
    (holds : behind.holds = true) : before.holds = true := by
  cases passes <;> simp_all [WaiterStage.holds]

/-- The handle is used up by a waiter that has seen the end. -/
theorem spent (passes : Passes ended late before custody behind next) (spent : next = .spent) :
    custody = .spent ∨ before.isBehind = true := by
  cases passes <;> simp_all [isBehind]

/-- A waiter that is behind the end of the task has seen it, or that it has been recorded. -/
theorem isBehind (passes : Passes ended late before custody behind next)
    (now : behind.isBehind = true) : before.isBehind = true ∨ ended ∨ custody = .spent := by
  cases passes <;> simp_all [WaiterStage.isBehind]

/-- A waiter gives up because its time is up. -/
theorem hasGivenUp (passes : Passes ended late before custody behind next)
    (now : behind.hasGivenUp = true) : before.hasGivenUp = true ∨ late := by
  cases passes <;> simp_all [WaiterStage.hasGivenUp]

/-- A waiter waits where the handle is taken. -/
theorem waiting (passes : Passes ended late before custody .waiting next) :
    before = .looking ∧ custody = .taken := by
  cases passes
  exact ⟨rfl, rfl⟩

/-- A waiter that parts with the handle is about to wake the others. -/
theorem parts (passes : Passes ended late before custody behind next)
    (held : before.holds = true) : behind.holds = true ∨ behind.isWaking = true := by
  cases passes <;> simp_all [holds, isWaking]

end Passes

@[simp] theorem holds_roused (stage : WaiterStage) : stage.roused.holds = stage.holds := by
  cases stage <;> rfl

@[simp] theorem isWaking_roused (stage : WaiterStage) : stage.roused.isWaking = stage.isWaking := by
  cases stage <;> rfl

@[simp] theorem isBehind_roused (stage : WaiterStage) : stage.roused.isBehind = stage.isBehind := by
  cases stage <;> rfl

@[simp] theorem hasGivenUp_roused (stage : WaiterStage) :
    stage.roused.hasGivenUp = stage.hasGivenUp := by
  cases stage <;> rfl

theorem roused_ne_waiting (stage : WaiterStage) : stage.roused ≠ .waiting := by
  cases stage <;> nofun

/-- What is still ahead of a waiter at most, where so many callers wait. To be woken, once again, is what
can happen to each of them; whoever does that to them is through. -/
def effort (callers : Nat) : WaiterStage → Nat
  | through _ => 0
  | waiting => 5 * callers + 1
  | waking _ => 5 * callers + 2
  | recording => 5 * callers + 3
  | storing => 5 * callers + 3
  | leading => 5 * callers + 4
  | looking => 5 * callers + 5
  | woken => 5 * callers + 6

theorem effort_roused_le (callers : Nat) (stage : WaiterStage) :
    stage.roused.effort callers ≤ stage.effort callers + 5 := by
  cases stage <;> simp [roused, effort]

/-- A waiter that takes a step gets on, by as much as it costs to wake all others when it does that. -/
theorem Passes.effort_lt {ended late : Prop} {before behind : WaiterStage} {custody next : Custody}
    (passes : Passes ended late before custody behind next) (callers : Nat) :
    behind.effort callers + (if before.isWaking then 5 * callers else 0) < before.effort callers := by
  cases passes <;> simp [effort, isWaking]

end WaiterStage

theorem Waiter.wake_eq (waiter : Waiter) : waiter.wake = { waiter with stage := waiter.stage.roused } := by
  obtain ⟨deadline, stage⟩ := waiter
  cases stage <;> rfl

namespace SharedWait

open WaiterStage

variable {t u v : SharedWait} {index other : Nat} {stage : WaiterStage}

/-- The stage of a waiter. -/
def stage? (t : SharedWait) (index : Nat) : Option WaiterStage :=
  t.waiters[index]?.map Waiter.stage

/-- Whether the time of a waiter is up. -/
def isLate (t : SharedWait) (index : Nat) : Bool :=
  t.waiters[index]?.any fun waiter => waiter.isLate t.now

/-! ### Steps -/

/-- What happens: a caller begins to wait, the task ends, time passes, a waiter takes a step or gives up. -/
inductive Event where
  | join (timeout : Option Nat)
  | finish
  | tick (time : Nat)
  | act (index : Nat)
  | giveUp (index : Nat)

/-- Whether it is a waiter that does something. -/
def Event.isStep : Event → Bool
  | act _ => true
  | giveUp _ => true
  | _ => false

/-- One step, and what happens in it. -/
inductive Moves (t : SharedWait) : Event → SharedWait → Prop
  | join (timeout : Option Nat) : t.Moves (.join timeout) (t.join timeout)
  | finish : t.Moves .finish t.finish
  | tick (time : Nat) : t.Moves (.tick time) (t.tick time)
  | act (index : Nat) (u : SharedWait) : t.act index = some u → t.Moves (.act index) u
  | giveUp (index : Nat) (u : SharedWait) : t.giveUp index = some u → t.Moves (.giveUp index) u

/-- The steps on the way from one state to another. -/
inductive Course (t : SharedWait) : List Event → SharedWait → Prop
  | rest : t.Course [] t
  | move {events : List Event} {u v : SharedWait} {event : Event} :
      t.Course events u → u.Moves event v → t.Course (events ++ [event]) v

/-- A waiter takes a step: it passes from one stage to another, and wakes the others if it was about to. -/
structure Steps (t : SharedWait) (index : Nat) (before behind : WaiterStage) (u : SharedWait) :
    Prop where
  stage : t.stage? index = some before
  passes : before.Passes t.ended (t.isLate index) t.custody behind u.custody
  waiters : u.waiters = (if before.isWaking then t.waiters.map Waiter.wake else t.waiters).modify index
    fun waiter => { waiter with stage := behind }
  ended : u.ended = t.ended
  now : u.now = t.now

/-- A waiter that is not about to wake the others passes to another stage. -/
theorem Steps.of_place {before behind : WaiterStage} {custody : Custody}
    (stage : t.stage? index = some before) (quiet : before.isWaking = false)
    (passes : before.Passes t.ended (t.isLate index) t.custody behind custody) :
    t.Steps index before behind ({ t with custody := custody : SharedWait }.place index behind) :=
  ⟨stage, passes, by simp [place, quiet], rfl, rfl⟩

/-- **A step that needs no time is one of the table.** -/
theorem steps_of_act (acted : t.act index = some u) :
    ∃ before behind, t.Steps index before behind u := by
  unfold act at acted
  split at acted
  · rename_i stage
    cases acted
    unfold look
    split <;> rename_i custody
    · exact ⟨_, _, Steps.of_place stage rfl (by rw [custody]; exact .answered)⟩
    · exact ⟨_, _, Steps.of_place stage rfl (by rw [custody]; exact .wait)⟩
    · exact ⟨_, _, Steps.of_place stage rfl (by rw [custody]; exact .lead)⟩
  · rename_i stage
    cases acted
    exact ⟨_, _, .of_place stage rfl (.look _)⟩
  · rename_i stage
    split at acted <;> cases acted
    exact ⟨_, _, .of_place stage rfl (.finish _ ‹_›)⟩
  · rename_i stage
    cases acted
    exact ⟨_, _, .of_place stage rfl (.record _)⟩
  · rename_i stage
    cases acted
    exact ⟨_, _, .of_place stage rfl (.store _)⟩
  · rename_i answer stage
    cases acted
    exact ⟨_, _, stage, .wake _ answer, rfl, rfl, rfl⟩
  · cases acted

/-- **A waiter that gives up takes a step of the table.** -/
theorem steps_of_giveUp (gaveUp : t.giveUp index = some u) :
    ∃ before behind, t.Steps index before behind u := by
  unfold giveUp at gaveUp
  split at gaveUp
  · cases gaveUp
  · rename_i waiter here
    split at gaveUp
    · rename_i late
      have late : t.isLate index = true := by
        simpa [isLate, here] using late
      split at gaveUp <;> cases gaveUp
      · rename_i stage
        exact ⟨_, _, .of_place (by simp [stage?, here, stage]) rfl (.leave _ late)⟩
      · rename_i stage
        exact ⟨_, _, .of_place (by simp [stage?, here, stage]) rfl (.depart _ late)⟩
      · rename_i stage
        exact ⟨_, _, .of_place (by simp [stage?, here, stage]) rfl (.yield _ late)⟩
    · cases gaveUp

/-- What becomes of a waiter in a step. -/
theorem Steps.waiter {before behind : WaiterStage} (steps : t.Steps index before behind u)
    (other : Nat) : u.waiters[other]? = t.waiters[other]?.map fun waiter => { waiter with
      stage := if other = index then behind
        else if before.isWaking then waiter.stage.roused else waiter.stage } := by
  rw [steps.waiters, List.getElem?_modify]
  cases here : t.waiters[other]? <;> by_cases same : index = other <;> cases before.isWaking <;>
    simp [here, same, Waiter.wake_eq, eq_comm]

theorem Steps.stage?_eq {before behind : WaiterStage} (steps : t.Steps index before behind u)
    (other : Nat) : u.stage? other = if other = index then some behind
      else if before.isWaking then (t.stage? other).map WaiterStage.roused else t.stage? other := by
  have stage := steps.stage
  unfold stage? at stage ⊢
  rw [steps.waiter other]
  by_cases same : other = index
  · subst same
    cases here : t.waiters[other]? <;> simp_all
  · cases before.isWaking <;> cases t.waiters[other]? <;> simp [same]

/-- Nobody's time is prolonged in a step. -/
theorem Steps.isLate_eq {before behind : WaiterStage} (steps : t.Steps index before behind u)
    (other : Nat) : u.isLate other = t.isLate other := by
  unfold isLate
  rw [steps.waiter other, steps.now]
  cases t.waiters[other]? <;> rfl

/-! ### What every step keeps -/

/-- Whether a waiter is at a stage of some kind. -/
def Is (t : SharedWait) (kind : WaiterStage → Bool) (index : Nat) : Prop :=
  ∃ stage, t.stage? index = some stage ∧ kind stage = true

/-- Where the handle is, and who waits for whom. -/
structure Orderly (t : SharedWait) : Prop where
  sole : ∀ i j, t.Is holds i → t.Is holds j → i = j
  taken : t.custody = .taken ↔ ∃ i, t.Is holds i
  spent : t.custody = .spent → t.ended = true
  behind : ∀ i, t.Is isBehind i → t.ended = true
  late : ∀ i, t.Is hasGivenUp i → t.isLate i = true
  heard : ∀ i, t.stage? i = some .waiting → ∃ j, t.Is holds j ∨ t.Is isWaking j

namespace Steps

variable {before behind : WaiterStage} {kind : WaiterStage → Bool}

/-- A waiter is at a stage of a kind, behind a step, if it was or has just come to one. -/
theorem is_iff (steps : t.Steps index before behind u)
    (steady : ∀ stage, kind (roused stage) = kind stage) :
    u.Is kind other ↔ if other = index then kind behind = true else t.Is kind other := by
  unfold Is
  rw [steps.stage?_eq]
  by_cases same : other = index
  · simp [same]
  · simp only [same, if_false]
    cases before.isWaking with
    | false => rfl
    | true => cases t.stage? other <;> simp [steady]

theorem is_index (steps : t.Steps index before behind u) : t.Is kind index ↔ kind before = true := by
  unfold Is
  rw [steps.stage]
  simp

theorem held (steps : t.Steps index before behind u) (orderly : t.Orderly)
    (holds : before.holds = true) : t.custody = .taken :=
  orderly.taken.mpr ⟨index, steps.is_index.mpr holds⟩

/-- **The handle stays with one**: nobody takes it but from where it is stored. -/
theorem sole (steps : t.Steps index before behind u) (orderly : t.Orderly) :
    ∀ i j, u.Is holds i → u.Is holds j → i = j := by
  -- Whoever has the handle behind the step had it before, or nobody else had.
  have alone (mine : behind.holds = true) (other : Nat) (has : t.Is holds other) : other = index := by
    have passes := steps.passes
    rw [orderly.taken.mpr ⟨other, has⟩] at passes
    exact orderly.sole other index has (steps.is_index.mpr (passes.holds_of_taken mine))
  intro i j first second
  rw [steps.is_iff holds_roused] at first second
  grind [orderly.sole i j]

theorem taken (steps : t.Steps index before behind u) (orderly : t.Orderly) :
    u.custody = .taken ↔ ∃ i, u.Is holds i := by
  rw [steps.passes.taken_iff (steps.held orderly)]
  simp only [steps.is_iff holds_roused]
  constructor
  · rintro (mine | ⟨free, taken⟩)
    · exact ⟨index, by simpa using mine⟩
    · obtain ⟨other, has⟩ := orderly.taken.mp taken
      have apart : other ≠ index := by
        rintro rfl
        simp [steps.is_index.mp has] at free
      exact ⟨other, by simpa [apart] using has⟩
  · rintro ⟨other, has⟩
    split at has
    · exact .inl has
    · rename_i apart
      by_cases mine : before.holds = true
      · exact absurd (orderly.sole other index has (steps.is_index.mpr mine)) apart
      · exact .inr ⟨by simpa using mine, orderly.taken.mpr ⟨other, has⟩⟩

/-- **Nobody waits unheard**: who parts with the handle is about to wake the others, and who wakes the
others leaves nobody waiting. -/
theorem heard (steps : t.Steps index before behind u) (orderly : t.Orderly) (other : Nat)
    (waits : u.stage? other = some .waiting) : ∃ j, u.Is holds j ∨ u.Is isWaking j := by
  rw [steps.stage?_eq] at waits
  have stays (j : Nat) (apart : j ≠ index) (there : t.Is holds j ∨ t.Is isWaking j) :
      u.Is holds j ∨ u.Is isWaking j := by
    rw [steps.is_iff holds_roused, steps.is_iff isWaking_roused]
    simpa [apart] using there
  split at waits
  · cases waits
    have passes := steps.passes
    obtain ⟨rfl, taken⟩ := passes.waiting
    obtain ⟨j, has⟩ := orderly.taken.mp taken
    refine ⟨j, stays j ?_ (.inl has)⟩
    rintro rfl
    cases steps.is_index.mp has
  · split at waits
    · obtain ⟨stage, _, roused⟩ := Option.map_eq_some_iff.mp waits
      exact absurd roused (roused_ne_waiting stage)
    · rename_i quiet
      obtain ⟨j, there⟩ := orderly.heard other waits
      by_cases mine : j = index
      · subst mine
        rw [steps.is_index, steps.is_index] at there
        refine ⟨j, ?_⟩
        rw [steps.is_iff holds_roused, steps.is_iff isWaking_roused]
        simpa using steps.passes.parts (there.resolve_right quiet)
      · exact ⟨j, stays j mine there⟩

/-- **A step of a waiter keeps the order.** -/
theorem orderly (steps : t.Steps index before behind u) (orderly : t.Orderly) : u.Orderly where
  sole := steps.sole orderly
  taken := steps.taken orderly
  spent spent := by
    rw [steps.ended]
    rcases steps.passes.spent spent with already | seen
    · exact orderly.spent already
    · exact orderly.behind index (steps.is_index.mpr seen)
  behind other there := by
    rw [steps.ended]
    rw [steps.is_iff isBehind_roused] at there
    split at there
    · rcases steps.passes.isBehind there with seen | ended | spent
      · exact orderly.behind index (steps.is_index.mpr seen)
      · exact ended
      · exact orderly.spent spent
    · exact orderly.behind other there
  late other there := by
    rw [steps.isLate_eq]
    rw [steps.is_iff hasGivenUp_roused] at there
    split at there
    · rename_i same
      subst same
      rcases steps.passes.hasGivenUp there with before | late
      · exact orderly.late other (steps.is_index.mpr before)
      · exact late
    · exact orderly.late other there
  heard := steps.heard orderly

end Steps

/-! ### What others do -/

theorem stage?_join (t : SharedWait) (timeout : Option Nat) (index : Nat) :
    (t.join timeout).stage? index =
      if index = t.waiters.length then some .looking else t.stage? index := by
  unfold stage? join
  rw [List.getElem?_append]
  grind

/-- A caller that begins to wait looks for the handle, and all others are where they were. -/
theorem is_join_iff (kind : WaiterStage → Bool) (other : kind .looking = false)
    (timeout : Option Nat) : (t.join timeout).Is kind index ↔ t.Is kind index := by
  unfold Is
  rw [stage?_join]
  split
  · rename_i new
    subst new
    simp [other, stage?]
  · rfl

theorem isLate_join (timeout : Option Nat) (late : t.isLate index = true) :
    (t.join timeout).isLate index = true := by
  unfold isLate at late ⊢
  cases here : t.waiters[index]? with
  | none => simp [here] at late
  | some waiter =>
    have kept : (t.join timeout).waiters[index]? = some waiter := by
      rw [join, List.getElem?_append_left (List.getElem?_eq_some_iff.mp here).1, here]
    rw [here] at late
    rw [kept]
    exact late

theorem isLate_tick (time : Nat) (late : t.isLate index = true) :
    (t.tick time).isLate index = true := by
  unfold isLate tick Waiter.isLate at *
  simp only [Option.any_eq_true_iff_get, decide_eq_true_eq] at *
  grind

theorem orderly_running : running.Orderly := by
  constructor <;> simp [running, Is, stage?]

/-- **Every step keeps the order.** -/
theorem Moves.orderly {event : Event} (moves : t.Moves event u) (orderly : t.Orderly) : u.Orderly := by
  cases moves with
  | join timeout =>
    refine ⟨?_, ?_, orderly.spent, ?_, ?_, ?_⟩
    · simpa only [is_join_iff holds rfl] using orderly.sole
    · show t.custody = .taken ↔ _
      simpa only [is_join_iff holds rfl] using orderly.taken
    · show ∀ i, _ → t.ended = true
      simpa only [is_join_iff isBehind rfl] using orderly.behind
    · simp only [is_join_iff hasGivenUp rfl]
      exact fun i there => isLate_join timeout (orderly.late i there)
    · intro i waits
      simp only [is_join_iff holds rfl, is_join_iff isWaking rfl]
      rw [stage?_join] at waits
      split at waits
      · cases waits
      · exact orderly.heard i waits
  | finish =>
    exact ⟨orderly.sole, orderly.taken, fun _ => rfl, fun _ _ => rfl, orderly.late, orderly.heard⟩
  | tick time =>
    exact ⟨orderly.sole, orderly.taken, orderly.spent, orderly.behind,
      fun i there => isLate_tick time (orderly.late i there), orderly.heard⟩
  | act index u acted =>
    obtain ⟨before, behind, steps⟩ := steps_of_act acted
    exact steps.orderly orderly
  | giveUp index u gaveUp =>
    obtain ⟨before, behind, steps⟩ := steps_of_giveUp gaveUp
    exact steps.orderly orderly

theorem Course.orderly {events : List Event} (course : running.Course events t) : t.Orderly := by
  induction course with
  | rest => exact orderly_running
  | move _ moves ih => exact moves.orderly ih

/-! ### Toil -/

/-- What is still ahead of all waiters at most. -/
def toil (callers : Nat) (t : SharedWait) : Nat :=
  (t.waiters.map fun waiter => waiter.stage.effort callers).sum

theorem sum_map_modify {α : Type} (g : α → Nat) (f : α → α) {l : List α} {i : Nat} {a : α}
    (here : l[i]? = some a) : ((l.modify i f).map g).sum + g a = (l.map g).sum + g (f a) := by
  induction l generalizing i with
  | nil => simp at here
  | cons b l ih =>
    cases i with
    | zero =>
      obtain rfl : b = a := by simpa using here
      simp only [List.modify_zero_cons, List.map_cons, List.sum_cons]
      omega
    | succ i =>
      have further := ih (i := i) (by simpa using here)
      simp only [List.modify_succ_cons, List.map_cons, List.sum_cons]
      omega

/-- To wake all who wait costs no more than five for each. -/
theorem sum_wake_le (callers : Nat) (waiters : List Waiter) :
    ((waiters.map Waiter.wake).map fun waiter => waiter.stage.effort callers).sum ≤
      (waiters.map fun waiter => waiter.stage.effort callers).sum + 5 * waiters.length := by
  induction waiters with
  | nil => simp
  | cons waiter rest ih =>
    have one := effort_roused_le callers waiter.stage
    simp only [List.map_cons, List.sum_cons, List.length_cons, Waiter.wake_eq] at ih ⊢
    omega

/-- **Every step of a waiter uses up toil.** -/
theorem Steps.toil_lt {before behind : WaiterStage} (steps : t.Steps index before behind u)
    {callers : Nat} (enough : t.waiters.length ≤ callers) : u.toil callers < t.toil callers := by
  obtain ⟨waiter, here, rfl⟩ := Option.map_eq_some_iff.mp steps.stage
  have lower := steps.passes.effort_lt callers
  unfold toil
  rw [steps.waiters]
  cases wakes : waiter.stage.isWaking with
  | false =>
    have changed := sum_map_modify (fun waiter : Waiter => waiter.stage.effort callers)
      (fun waiter => { waiter with stage := behind }) here
    simp only [wakes, Bool.false_eq_true, if_false] at lower changed ⊢
    omega
  | true =>
    have woken : (t.waiters.map Waiter.wake)[index]? = some waiter.wake := by
      rw [List.getElem?_map, here]
      rfl
    have changed := sum_map_modify (fun waiter : Waiter => waiter.stage.effort callers)
      (fun waiter => { waiter with stage := behind }) woken
    have same : waiter.wake.stage = waiter.stage := by
      cases stage : waiter.stage <;> simp_all [isWaking, Waiter.wake]
    have all := sum_wake_le callers t.waiters
    simp only [wakes, if_true, same] at lower changed ⊢
    omega

theorem Steps.length_eq {before behind : WaiterStage} (steps : t.Steps index before behind u) :
    u.waiters.length = t.waiters.length := by
  rw [steps.waiters, List.length_modify]
  split <;> simp

/-- All steps so far, and what is ahead, are no more than what so many callers can bring. -/
theorem Course.toil_le {events : List Event} (course : running.Course events t) (callers : Nat)
    (enough : t.waiters.length ≤ callers) :
    events.countP Event.isStep + t.toil callers ≤ t.waiters.length * (5 * callers + 5) := by
  induction course with
  | rest => simp [running, toil]
  | @move events u v event course moves ih =>
    have stepped {index : Nat} {before behind : WaiterStage} (steps : u.Steps index before behind v)
        (own : event.isStep = true) : (events ++ [event]).countP Event.isStep + v.toil callers ≤
          v.waiters.length * (5 * callers + 5) := by
      have lower := steps.toil_lt (steps.length_eq ▸ enough)
      have before := ih (steps.length_eq ▸ enough)
      rw [steps.length_eq, List.countP_append, List.countP_singleton, if_pos own]
      omega
    cases moves with
    | join timeout =>
      have new : (u.join timeout).toil callers = u.toil callers + (5 * callers + 5) := by
        simp [toil, join, effort]
      have more : (u.join timeout).waiters.length = u.waiters.length + 1 := by
        simp [join]
      have before := ih (by omega)
      rw [new, more, Nat.add_mul]
      simp only [List.countP_append, List.countP_singleton, Event.isStep, Bool.false_eq_true, if_false]
      omega
    | finish =>
      have before := ih enough
      simpa [Event.isStep, finish, toil] using before
    | tick time =>
      have before := ih enough
      simpa [Event.isStep, tick, toil] using before
    | act index _ acted =>
      obtain ⟨before, behind, steps⟩ := steps_of_act acted
      exact stepped steps rfl
    | giveUp index _ gaveUp =>
      obtain ⟨before, behind, steps⟩ := steps_of_giveUp gaveUp
      exact stepped steps rfl

/-! ### Getting on -/

theorem answer?_eq_some_iff {answer : Bool} :
    t.answer? index = some answer ↔ t.stage? index = some (.through answer) := by
  unfold answer? stage?
  cases t.waiters[index]? with
  | none => simp
  | some waiter => cases stage : waiter.stage <;> simp [Waiter.answer?, stage]

/-- Behind the end of the task, whoever neither waits nor is through can take a step. -/
theorem exists_act (ended : t.ended = true) (here : t.stage? index = some stage)
    (awake : stage ≠ .waiting) (unanswered : ∀ answer, stage ≠ .through answer) :
    ∃ u, t.act index = some u := by
  unfold stage? at here
  unfold act
  rw [here]
  cases stage with
  | leading => simp [ended]
  | waiting => exact absurd rfl awake
  | through answer => exact absurd rfl (unanswered answer)
  | _ => simp

/-- **Behind the end of the task somebody gets on** until everybody has an answer. -/
theorem Orderly.exists_act (orderly : t.Orderly) (ended : t.ended = true)
    (here : t.stage? index = some stage) (unanswered : ∀ answer, stage ≠ .through answer) :
    ∃ i u, t.act i = some u := by
  by_cases waits : stage = .waiting
  · subst waits
    -- It waits for another, who can take a step.
    obtain ⟨other, ⟨stage, there, kind⟩ | ⟨stage, there, kind⟩⟩ := orderly.heard index here
    all_goals
      refine ⟨other, SharedWait.exists_act ended there ?_ fun answer => ?_⟩ <;> rintro rfl <;>
        cases kind
  · exact ⟨index, SharedWait.exists_act ended here waits unanswered⟩

theorem Steps.storing {before behind : WaiterStage} (steps : t.Steps other before behind u)
    (here : t.stage? index = some .storing) (apart : index ≠ other) :
    u.stage? index = some .storing := by
  rw [steps.stage?_eq, if_neg apart, here]
  cases before.isWaking <;> rfl

/-- A waiter that is about to put the handle back does nothing else, whatever happens to the others. -/
theorem Moves.storing {event : Event} (moves : t.Moves event u)
    (here : t.stage? index = some .storing) (apart : event ≠ .act index) :
    u.stage? index = some .storing := by
  cases moves with
  | join timeout =>
    rw [stage?_join, if_neg, here]
    rintro rfl
    simp [stage?] at here
  | finish => exact here
  | tick time => exact here
  | act other u acted =>
    obtain ⟨before, behind, steps⟩ := steps_of_act acted
    apply steps.storing here
    rintro rfl
    exact apart rfl
  | giveUp other u gaveUp =>
    obtain ⟨before, behind, steps⟩ := steps_of_giveUp gaveUp
    apply steps.storing here
    -- It has given up already.
    rintro rfl
    obtain ⟨waiter, there, stage⟩ := Option.map_eq_some_iff.mp here
    simp [SharedWait.giveUp, there, stage] at gaveUp

theorem Course.storing {events : List Event} (course : t.Course events u)
    (here : t.stage? index = some .storing) (apart : ∀ event ∈ events, event ≠ .act index) :
    u.stage? index = some .storing := by
  induction course with
  | rest => exact here
  | move _ moves ih =>
    exact moves.storing (ih fun event there => apart event (by simp [there])) (apart _ (by simp))

theorem Course.trans {first second : List Event} (course : t.Course first u)
    (further : u.Course second v) : t.Course (first ++ second) v := by
  induction further with
  | rest => simpa using course
  | move _ moves ih =>
    rw [← List.append_assoc]
    exact ih.move moves

/-- **A leader that gives up puts the handle back**: it keeps it until its own next step, and that step
stores it. -/
theorem storing_of_giveUp (leads : t.stage? index = some .leading) (gaveUp : t.giveUp index = some u) :
    u.stage? index = some .storing := by
  obtain ⟨waiter, here, stage⟩ := Option.map_eq_some_iff.mp leads
  simp only [giveUp, here, stage] at gaveUp
  split at gaveUp <;> cases gaveUp
  simp [stage?, place, here]

theorem stored_of_act (here : t.stage? index = some .storing) :
    ∃ u, t.act index = some u ∧ u.custody = .stored := by
  unfold stage? at here
  simp [act, here, place]

/-- **Waiting together strands nobody.** Along every course of callers that wait for one task:

* an answer that the task has ended is given behind its end, and another one only when the time of the
  caller is up;
* the handle is stored, or it is with exactly one waiter, or it is used up behind the end of the task;
* a leader that gives up keeps the handle, whatever the others do, until its next step puts it back;
* who waits has somebody who holds the handle or is about to wake all who wait;
* there are at most so many steps for so many callers, and when no more can be taken behind the end of
  the task, everybody has an answer. -/
theorem strands_nobody {events : List Event} (course : running.Course events t) :
    (∀ i, t.answer? i = some true → t.ended = true) ∧
    (∀ i, t.answer? i = some false → t.isLate i = true) ∧
    ((t.custody = .stored ∧ ∀ i, ¬t.Is holds i) ∨ (t.custody = .taken ∧ ∃! i, t.Is holds i) ∨
      (t.custody = .spent ∧ t.ended = true ∧ ∀ i, ¬t.Is holds i)) ∧
    (∀ i u, t.stage? i = some .leading → t.giveUp i = some u →
      ∀ more v, u.Course more v → (∀ event ∈ more, event ≠ .act i) →
        v.custody = .taken ∧ ∃ w, v.act i = some w ∧ w.custody = .stored) ∧
    (∀ i, t.stage? i = some .waiting → ∃ j, t.Is holds j ∨ t.Is isWaking j) ∧
    events.countP Event.isStep ≤ 5 * t.waiters.length * (t.waiters.length + 1) ∧
    (t.ended = true → (∀ i, t.act i = none) → ∀ i < t.waiters.length, (t.answer? i).isSome) := by
  have orderly := course.orderly
  refine ⟨?_, ?_, ?_, ?_, orderly.heard, ?_, ?_⟩
  · intro i answer
    exact orderly.behind i ⟨_, answer?_eq_some_iff.mp answer, rfl⟩
  · intro i answer
    exact orderly.late i ⟨_, answer?_eq_some_iff.mp answer, rfl⟩
  · have free (other : t.custody ≠ .taken) (i : Nat) : ¬t.Is holds i :=
      fun has => other (orderly.taken.mpr ⟨i, has⟩)
    cases custody : t.custody with
    | stored => exact .inl ⟨rfl, free (by simp [custody])⟩
    | taken =>
      obtain ⟨i, has⟩ := orderly.taken.mp custody
      exact .inr (.inl ⟨rfl, i, has, fun j also => orderly.sole j i also has⟩)
    | spent => exact .inr (.inr ⟨rfl, orderly.spent custody, free (by simp [custody])⟩)
  · intro i u leads gaveUp more v further apart
    have storing := further.storing (storing_of_giveUp leads gaveUp) apart
    have there := ((course.move (.giveUp i u gaveUp)).trans further).orderly
    exact ⟨there.taken.mpr ⟨i, _, storing, rfl⟩, stored_of_act storing⟩
  · have bound := course.toil_le t.waiters.length le_rfl
    calc events.countP Event.isStep
        ≤ t.waiters.length * (5 * t.waiters.length + 5) := by omega
      _ = 5 * t.waiters.length * (t.waiters.length + 1) := by ring
  · intro ended rests i here
    have stage : t.stage? i = some t.waiters[i].stage := by
      simp [stage?, here]
    by_contra unanswered
    have open' (answer : Bool) : t.waiters[i].stage ≠ .through answer := by
      intro through
      rw [through] at stage
      simp [answer?_eq_some_iff.mpr stage] at unanswered
    obtain ⟨j, u, acts⟩ := orderly.exists_act ended stage open'
    simp [rests j] at acts

/-- A leader that gives up makes room for another, who sees the end. -/
theorem strands_nobody_retried : ∃ t : SharedWait, t.answer? 0 = some false ∧ t.isLate 0 = true ∧
    t.answer? 1 = some true ∧ t.ended = true := by
  -- The first leads, until its time is up; it puts the handle back and wakes the second, who leads on.
  have apart := ((((Course.rest (t := running)).move (.join (some 1))).move (.join none)).move
    (.act 0 _ rfl)).move (.act 1 _ rfl)
  have stored := (((apart.move (.tick 1)).move (.giveUp 0 _ rfl)).move (.act 0 _ rfl)).move
    (.act 0 _ rfl)
  have leads := (stored.move (.act 1 _ rfl)).move (.act 1 _ rfl)
  have recorded := (((leads.move .finish).move (.act 1 _ rfl)).move (.act 1 _ rfl)).move
    (.act 1 _ rfl)
  obtain ⟨ended, late, _⟩ := strands_nobody recorded
  exact ⟨_, rfl, late 0 rfl, rfl, ended 1 rfl⟩

/-! ### What runs -/

/-- Steps taken as long as there is one are a course if each of them is. -/
theorem exists_course_exhaust (step : SharedWait → Option SharedWait)
    (each : ∀ {t u}, step t = some u → ∃ events, t.Course events u) (limit : Nat) (t : SharedWait) :
    ∃ events, t.Course events (exhaust step limit t) := by
  induction limit generalizing t with
  | zero => exact ⟨[], .rest⟩
  | succ limit ih =>
    unfold exhaust
    cases next : step t with
    | none => exact ⟨[], .rest⟩
    | some u =>
      obtain ⟨first, course⟩ := each next
      obtain ⟨second, further⟩ := ih u
      exact ⟨_, course.trans further⟩

/-- **The steps that need no time are a course.** -/
theorem exists_course_settle (t : SharedWait) : ∃ events, t.Course events t.settle := by
  apply exists_course_exhaust
  intro t u stepped
  rcases Option.or_eq_some_iff.mp stepped with acts | ⟨-, givesUp⟩
  · obtain ⟨index, -, acts⟩ := List.exists_of_findSome?_eq_some acts
    exact ⟨_, Course.rest.move (.act index u acts)⟩
  · obtain ⟨index, -, givesUp⟩ := List.exists_of_findSome?_eq_some givesUp
    exact ⟨_, Course.rest.move (.giveUp index u givesUp)⟩

/-- **Time passing until a waiter is through is a course.** -/
theorem exists_course_outwait (t : SharedWait) (index : Nat) :
    ∃ events, t.Course events (t.outwait index) := by
  obtain ⟨first, course⟩ := exists_course_settle t
  suffices further : ∃ events, t.settle.Course events (t.outwait index) by
    obtain ⟨second, further⟩ := further
    exact ⟨_, course.trans further⟩
  apply exists_course_exhaust
  intro t u stepped
  split at stepped
  · cases stepped
  · obtain ⟨time, -, rfl⟩ := Option.map_eq_some_iff.mp stepped
    obtain ⟨events, course⟩ := exists_course_settle (t.tick time)
    exact ⟨_, (Course.rest.move (.tick time)).trans course⟩

end SharedWait

end ShellSession
