/-
**The ledger of breakpoints.**

Every change of the breakpoint table is reported with the record that it concerns, and nothing else is.
So the table is what the reports come to when they are replayed one after another: what has been added is
entered under its number, and what has been removed is crossed out. Numbers are given out in order and
only once, and a record is removed as it was entered. That holds whatever an engine is asked for and
wherever the commands stand, in script files, in stops and before failures; a command that fails has
changed nothing.

* `replay`: the table that reported changes come to;
* `Ledger`, `Booked`: a row of changes that fit each other, and a state whose table they come to;
* `Does.booked`: **whatever a command does is booked**;
* `Travels.booked`, `Made.booked`: every journey and every engine keeps its books;
* `breakpoints_replayed`: **what the breakpoint commands do, and the table, at every moment**.
-/

import Mathlib.Algebra.Group.Nat.Defs
import ShellSession.Proofs.Engine.Undertaking

namespace ShellSession

/-- The change of the breakpoint table that a report is one of. -/
def Notice.update? : Notice → Option Update
  | breakpoint update => some update
  | _ => none

/-- The number of a breakpoint that has been added. -/
def Update.addedId? (update : Update) : Option Nat :=
  match update.change with
  | .added => some update.breakpoint.id
  | .removed => none

namespace Engine

/-! ### Changes replayed -/

/-- The changes of the breakpoint table that have been reported. -/
def updatesIn (history : Array Notice) : List Update :=
  history.toList.filterMap Notice.update?

/-- The records by number behind a change: what is added is entered, and what is removed crossed out. -/
def entered (records : Nat → Option Breakpoint) (update : Update) (id : Nat) : Option Breakpoint :=
  if id = update.breakpoint.id then
    match update.change with
    | .added => some update.breakpoint
    | .removed => none
  else records id

/-- The records by number that changes come to, one after another. -/
def replay (updates : List Update) : Nat → Option Breakpoint :=
  updates.foldl entered fun _ => none

theorem updatesIn_push (history : Array Notice) (notice : Notice) :
    updatesIn (history.push notice) = updatesIn history ++ notice.update?.toList := by
  unfold updatesIn
  rw [Array.toList_push, List.filterMap_append]
  cases notice <;> rfl

theorem replay_concat (updates : List Update) (update : Update) :
    replay (updates ++ [update]) = entered (replay updates) update :=
  List.foldl_concat _ _ _ _

/-- Changes that fit each other: breakpoints are added with the numbers from one on, and whatever is
removed is there, as it was added. -/
inductive Ledger : Nat → List Update → Prop
  | empty : Ledger 0 []
  | added {count : Nat} {updates : List Update} (ledger : Ledger count updates)
      (breakpoint : Breakpoint) (next : breakpoint.id = count + 1) :
      Ledger (count + 1) (updates ++ [⟨.added, breakpoint⟩])
  | removed {count : Nat} {updates : List Update} (ledger : Ledger count updates)
      (breakpoint : Breakpoint) (there : replay updates breakpoint.id = some breakpoint) :
      Ledger count (updates ++ [⟨.removed, breakpoint⟩])

namespace Ledger

variable {count : Nat} {updates : List Update}

/-- **The numbers given out are one, two, three and so on.** -/
theorem numbers (ledger : Ledger count updates) :
    updates.filterMap Update.addedId? = List.range' 1 count := by
  induction ledger with
  | empty => rfl
  | @added count updates ledger breakpoint next ih =>
    rw [List.filterMap_append, ih, List.range'_concat]
    refine congrArg (_ ++ ·) ?_
    show [breakpoint.id] = [1 + 1 * count]
    rw [next, Nat.one_mul, Nat.add_comm]
  | removed ledger breakpoint there ih =>
    rw [List.filterMap_append, ih]
    exact List.append_nil _

/-- A record stands under its own number, which has been given out. -/
theorem record (ledger : Ledger count updates) {id : Nat} {breakpoint : Breakpoint}
    (there : replay updates id = some breakpoint) : breakpoint.id = id ∧ id ≤ count := by
  induction ledger with
  | empty => cases there
  | @added count updates ledger last next ih =>
    rw [replay_concat, entered] at there
    split at there
    · rename_i same
      cases there
      exact ⟨same.symm, Nat.le_of_eq (same.trans next)⟩
    · obtain ⟨own, given⟩ := ih there
      exact ⟨own, Nat.le_succ_of_le given⟩
  | removed ledger last _ ih =>
    rw [replay_concat, entered] at there
    split at there
    · cases there
    · exact ih there

end Ledger

/-! ### States with their books -/

/-- A state with its books in order: the changes reported fit each other, and have added as many
breakpoints as were ever created; the table is what they come to, by ascending number. -/
structure Booked (s : Interpreter) : Prop where
  ledger : Ledger s.breakpoints.created (updatesIn s.history)
  table : ∀ breakpoint, breakpoint ∈ s.breakpoints.table ↔
    replay (updatesIn s.history) breakpoint.id = some breakpoint
  ascending : s.breakpoints.table.Pairwise fun earlier later => earlier.id < later.id

variable {s t : Interpreter}

namespace Booked

/-- A state with the same table and the same changes reported. -/
theorem of_eq (booked : Booked s) (table : t.breakpoints = s.breakpoints)
    (updates : updatesIn t.history = updatesIn s.history) : Booked t := by
  refine ⟨?_, ?_, ?_⟩
  · rw [table, updates]
    exact booked.ledger
  · rw [table, updates]
    exact booked.table
  · rw [table]
    exact booked.ascending

/-- The numbers of the table have been given out. -/
theorem ordered (booked : Booked s) : s.breakpoints.Ordered :=
  ⟨booked.ascending, fun breakpoint member =>
    (booked.ledger.record ((booked.table breakpoint).mp member)).2⟩

/-- A report of something else than a breakpoint. -/
theorem emit (booked : Booked s) {notice : Notice} (other : notice.update? = none) :
    Booked (s.emit notice) := by
  refine booked.of_eq rfl ?_
  show updatesIn (s.history.push notice) = _
  rw [updatesIn_push, other]
  exact List.append_nil _

theorem setAvailability (booked : Booked s) (next : Availability) :
    Booked (s.setAvailability next) := by
  unfold Interpreter.setAvailability
  split
  · exact booked
  · exact (booked.of_eq (t := { s with availability := next }) rfl rfl).emit rfl

theorem enterStop (booked : Booked s) (stop : Stop) : Booked (enterStop stop s) :=
  (booked.setAvailability .nested).emit rfl

theorem leaveStop (booked : Booked s) (verb : Verb) : Booked (leaveStop verb s) :=
  (booked.setAvailability .busy).of_eq rfl rfl

theorem closeRun (booked : Booked s) : Booked (closeRun s) :=
  (booked.setAvailability .available).emit rfl

theorem begunFrom (booked : Booked s) : Booked (begunFrom s) :=
  (booked.of_eq (t := { s with frame := .start }) rfl rfl).setAvailability .busy

/-- What can be removed is on the books under its number. -/
theorem of_remove (booked : Booked s) {id : Nat} {breakpoint : Breakpoint} {breakpoints : Breakpoints}
    (removed : s.breakpoints.remove id = some (breakpoint, breakpoints)) :
    replay (updatesIn s.history) breakpoint.id = some breakpoint ∧ breakpoint.id = id ∧
      breakpoints =
        ⟨s.breakpoints.table.filter fun other => other.id ≠ id, s.breakpoints.created⟩ := by
  obtain ⟨_, found, same⟩ := Option.map_eq_some_iff.mp removed
  cases same
  have named := List.find?_some found
  exact ⟨(booked.table breakpoint).mp (List.mem_of_find?_eq_some found), of_decide_eq_true named, rfl⟩

/-- One more change reported. -/
theorem reported (s : Interpreter) (update : Update)
    (history : t.history = s.history.push (.breakpoint update))
    (ledger : Ledger t.breakpoints.created (updatesIn s.history ++ [update]))
    (table : ∀ breakpoint, breakpoint ∈ t.breakpoints.table ↔
      entered (replay (updatesIn s.history)) update breakpoint.id = some breakpoint)
    (ordered : t.breakpoints.Ordered) : Booked t := by
  have updates : updatesIn t.history = updatesIn s.history ++ [update] :=
    (congrArg updatesIn history).trans (updatesIn_push s.history _)
  refine ⟨?_, fun breakpoint => ?_, ordered.ascending⟩
  · rw [updates]
    exact ledger
  · rw [updates, replay_concat]
    exact table breakpoint

/-- A breakpoint added and reported. -/
theorem adds (booked : Booked s) (line : Nat) {breakpoint : Breakpoint} {breakpoints : Breakpoints}
    (added : s.breakpoints.add line = (breakpoint, breakpoints)) :
    Booked ({ s with breakpoints := breakpoints }.emit (.breakpoint ⟨.added, breakpoint⟩)) := by
  have ordered := booked.ordered.add line
  cases added
  refine reported s ⟨.added, _⟩ rfl (booked.ledger.added _ rfl) (fun other => ?_) ordered
  refine (List.mem_append.trans (or_congr (booked.table other) List.mem_singleton)).trans ?_
  rw [entered]
  constructor
  · rintro (old | rfl)
    · have given := (booked.ledger.record old).2
      exact (if_neg (Nat.ne_of_lt (Nat.lt_succ_of_le given))).trans old
    · exact if_pos rfl
  · intro there
    split at there
    · cases there
      exact .inr rfl
    · exact .inl there

/-- A breakpoint removed and reported. -/
theorem removes (booked : Booked s) {id : Nat} {breakpoint : Breakpoint} {breakpoints : Breakpoints}
    (removed : s.breakpoints.remove id = some (breakpoint, breakpoints)) :
    Booked ({ s with breakpoints := breakpoints }.emit (.breakpoint ⟨.removed, breakpoint⟩)) := by
  have ordered := booked.ordered.remove removed
  obtain ⟨there, named, same⟩ := booked.of_remove removed
  cases same
  refine reported s ⟨.removed, breakpoint⟩ rfl (booked.ledger.removed breakpoint there)
    (fun other => ?_) ordered
  refine (List.mem_filter.trans (and_congr_left' (booked.table other))).trans ?_
  rw [entered]
  by_cases crossed : other.id = breakpoint.id
  · rw [if_pos crossed]
    exact ⟨fun kept => absurd (crossed.trans named) (of_decide_eq_true kept.2), nofun⟩
  · rw [if_neg crossed]
    exact ⟨fun kept => kept.1, fun there => ⟨there, decide_eq_true (named ▸ crossed)⟩⟩

end Booked

/-- **Whatever a command does is booked.** -/
theorem Does.booked (does : Does s t) (booked : Booked s) : Booked t := by
  cases does with
  | nothing => exact booked
  | sets name value => exact booked.of_eq rfl rfl
  | adds line added => exact booked.adds line added
  | removes removed => exact booked.removes removed

/-! ### Journeys and engines -/

variable {files : Files}

/-- **Every move keeps its books.** -/
theorem Moves.booked {a b : Journey} {acts : List Act} (moves : Moves files a acts b)
    (booked : Booked a.state) : Booked b.state := by
  cases moves with
  | passes inside here => exact here ▸ booked.of_eq rfl rfl
  | reaches outside here free => exact here ▸ booked.of_eq rfl rfl
  | @stops statement go s t stop returns outside here hits =>
    have reached : Booked t := here ▸ booked.of_eq rfl rfl
    exact reached.enterStop stop
  | assigns set => exact set ▸ booked.of_eq rfl rfl
  | performs performed => exact (does_of_performed performed).booked booked
  | waits outside builtin hits => exact booked.enterStop _
  | enters unknown isFile read bound =>
    obtain ⟨scope, same⟩ := bindArguments_eq _
    subst bound
    unfold fileState
    rw [same]
    exact booked.of_eq rfl rfl
  | leaves left => exact left ▸ booked.of_eq rfl rfl
  | resumes leads left => exact left ▸ booked.leaveStop _
  | halts => exact booked.leaveStop .stop
  | switches enabled => exact booked.of_eq rfl rfl

/-- **Every journey keeps its books**, the commands in its stops included. -/
theorem Travels.booked {a b : Journey} {acts : List Act} (travels : Travels files a acts b)
    (booked : Booked a.state) : Booked b.state := by
  induction travels with
  | rest journey => exact booked
  | move travels moves ih => exact moves.booked (ih booked)
  | serves travels evaluates ih inside =>
    have opened := inside ((ih booked).of_eq rfl rfl)
    exact opened.of_eq rfl rfl

/-- The state of the execution has the books of the journey. -/
theorem Journey.Rests.booked {journey : Journey} (rests : journey.Rests files)
    (booked : Booked journey.state) : Booked (journey.execution files).state := by
  cases rests with
  | ended outcome s returns => exact booked
  | stopped stop go s returns outside => exact booked
  | reached statement go s returns outside =>
    rw [execution_reached outside]
    exact booked.of_eq rfl rfl
  | entering position name text arguments input next s returns unknown isFile read =>
    obtain ⟨bound, same⟩ := bindArguments_eq arguments
    rw [execution_entering unknown isFile read, same]
    exact booked.of_eq rfl rfl

variable {e f : Engine} {ticket : Nat} {origin : Journey} {acts : List Act} {pipeline : Pipeline}

/-- An engine that follows a journey has its books. -/
theorem Follows.booked (follows : e.Follows origin ticket acts) (booked : Booked origin.state) :
    Booked e.state := by
  unfold Engine.state
  cases follows with
  | running acts journey travels rests activity =>
    rw [activity]
    exact rests.booked (travels.booked booked)
  | serving acts inner stop go s returns pipeline asker inside travels evaluates rests activity =>
    rw [activity]
    have opened : Booked (Journey.begin pipeline (openNested s)).state :=
      (travels.booked booked).of_eq rfl rfl
    exact rests.booked (evaluates.booked opened)
  | ended acts outcome s travels activity found =>
    rw [activity]
    exact (travels.booked booked).closeRun

/-- An engine that is idle with its books in order, or follows the journey of a run that has begun
so. -/
inductive Accounted (e : Engine) : Prop
  | idle (s : Interpreter) (activity : e.activity = .idle s) (booked : Booked s)
  | busy (origin : Journey) (ticket : Nat) (acts : List Act) (begun : origin.Begun)
      (booked : Booked origin.state) (follows : e.Follows origin ticket acts)

namespace Accounted

theorem booked (accounted : e.Accounted) : Booked e.state := by
  cases accounted with
  | idle s activity booked =>
    unfold Engine.state
    rw [activity]
    exact booked
  | busy origin ticket acts begun booked follows => exact follows.booked booked

/-- A run begun begins with the books of the engine. -/
theorem invoke (accounted : e.Accounted) (guided : e.Guided)
    (invoked : e.invoke pipeline = .ok (ticket, f)) : f.Accounted := by
  obtain ⟨s, activity, same⟩ := exists_idle invoked
  obtain ⟨outside, ordered⟩ := guided.of_idle activity
  obtain ⟨acts, follows, _⟩ := Follows.invoke activity invoked
  obtain ⟨nested, _, table, _⟩ := setAvailability_keeps { s with frame := .start } .busy
  exact .busy _ ticket acts
    ⟨nested.trans outside, table.symm ▸ ordered, Journey.begin_placed pipeline _⟩
    (same ▸ accounted.booked).begunFrom follows

/-- Whatever else is asked of an engine leaves the books alone. -/
theorem asked (accounted : e.Accounted) (request : Ask) (own : e.accepts (.ask request) = 0) :
    (e.asked request).Accounted := by
  cases accounted with
  | busy origin ticket acts begun booked follows =>
    obtain ⟨more, further, _⟩ := follows.asked request own
    exact .busy origin ticket _ begun booked further
  | idle s activity booked =>
    rcases asked_idle activity request own with ⟨stays, _⟩ | ⟨enabled, rfl⟩
    · rw [stays]
      exact .idle s activity booked
    · refine .idle { s with stepping := enabled } ?_ (booked.of_eq rfl rfl)
      show e.activity.withState { e.state with stepping := enabled } = _
      rw [Engine.state, activity]
      rfl

/-- A step of an engine. -/
theorem step (accounted : e.Accounted) (made : e.Made) (stepped : e.step = some f) :
    f.Accounted := by
  cases accounted with
  | idle s activity booked => cases (step_idle activity).symm.trans stepped
  | busy origin ticket acts begun booked follows =>
    obtain ⟨more, further, _⟩ := follows.step begun made.lawful.2 stepped
    exact .busy origin ticket _ begun booked further

end Accounted

/-- **However an engine has come about, its books are in order.** -/
theorem Made.accounted (made : e.Made) : e.Accounted := by
  refine made.invariant Accounted
    (fun files release => .idle .fresh rfl ⟨.empty, fun _ => ⟨nofun, nofun⟩, .nil⟩) ?_ ?_ ?_
  · exact fun made accounted stepped => accounted.step made stepped
  · exact fun made accounted invoked => accounted.invoke made.guided invoked
  · exact fun request _ accounted own => accounted.asked request own

/-- A pipeline that an engine undertakes begins with the books of the engine. -/
theorem Undertakes.booked (undertakes : e.Undertakes ticket pipeline s f) (made : e.Made) :
    Booked s := by
  have booked := made.accounted.booked
  cases undertakes with
  | run invoked => exact booked.begunFrom
  | command activity inbox stepped =>
    rw [Engine.state, activity] at booked
    exact booked.of_eq rfl rfl

/-! ### The breakpoint commands -/

variable {arguments : Arguments}

/-- The number of the breakpoint that is to be removed. -/
def removalId (arguments : Arguments) : Except Fault Int64 := do
  integer "Remove-PSBreakpoint" "Id" (← arguments.require "Remove-PSBreakpoint" "Id" 0)

/-- What adding a breakpoint comes to: a refusal that has changed nothing; or the next number, and the
breakpoint entered and reported under it. -/
inductive Adds (s : Interpreter) (arguments : Arguments) : Run (List Value) → Prop
  | refused (fault : Fault) (refuses : Builtin.breakpointLine arguments = .error fault) :
      Adds s arguments (.done (.error (.runtime fault none)) s)
  | added (line : Nat) (id : Int64) (binds : Builtin.breakpointLine arguments = .ok line)
      (next : id.toInt = s.breakpoints.created + 1) (breakpoint : Breakpoint)
      (record : breakpoint = ⟨s.breakpoints.created + 1, line, true⟩) :
      Adds s arguments (.done (.ok [.int id]) ({ s with breakpoints :=
        ⟨s.breakpoints.table ++ [breakpoint], s.breakpoints.created + 1⟩ }.emit
          (.breakpoint ⟨.added, breakpoint⟩)))

/-- What removing a breakpoint comes to: a refusal that has changed nothing, for want of a number or of a
breakpoint with it; or the breakpoint crossed out and reported as it was entered. -/
inductive Removes (s : Interpreter) (arguments : Arguments) : Run (List Value) → Prop
  | refused (fault : Fault) (refuses : removalId arguments = .error fault) :
      Removes s arguments (.done (.error (.runtime fault none)) s)
  | unknown (id : Int64) (binds : removalId arguments = .ok id)
      (absent : ∀ breakpoint : Breakpoint, breakpoint.id = id.toInt →
        replay (updatesIn s.history) breakpoint.id ≠ some breakpoint) :
      Removes s arguments (.done (.error (.runtime (.unknownBreakpoint id) none)) s)
  | removed (id : Int64) (binds : removalId arguments = .ok id) (breakpoint : Breakpoint)
      (named : breakpoint.id = id.toInt)
      (there : replay (updatesIn s.history) breakpoint.id = some breakpoint) :
      Removes s arguments (.done (.ok []) ({ s with breakpoints :=
        ⟨s.breakpoints.table.filter fun other => other.id ≠ breakpoint.id, s.breakpoints.created⟩ }.emit
          (.breakpoint ⟨.removed, breakpoint⟩)))

/-- What listing the breakpoints comes to: the numbers that are on the books, in ascending order. -/
def Lists (s : Interpreter) (run : Run (List Value)) : Prop :=
  ∃ numbers : List Int64, run = .done (.ok (numbers.map .int)) s ∧
    numbers.Pairwise (fun earlier later => earlier.toInt < later.toInt) ∧
    ∀ number, number ∈ numbers ↔ ∃ id : Nat, number.toInt = id ∧
      (replay (updatesIn s.history) id).isSome

/-- Numbers below two to the power of 32 are values. -/
theorem toInt_ofNat {n : Nat} (small : n ≤ 2 ^ 32) : (Int64.ofNat n).toInt = n :=
  Int64.toInt_ofNat_of_lt (Nat.lt_of_le_of_lt small (by decide))

theorem runSetBreakpoint_adds (few : s.breakpoints.created < 2 ^ 32) :
    Adds s arguments (Builtin.runSetBreakpoint arguments s) := by
  unfold Builtin.runSetBreakpoint
  cases binds : Builtin.breakpointLine arguments with
  | error fault => exact .refused fault binds
  | ok line => exact .added line _ binds (toInt_ofNat few) _ rfl

/-- No breakpoint to be removed has the number. -/
theorem Booked.of_remove_none (booked : Booked s) {id : Nat} (missing : s.breakpoints.remove id = none)
    {breakpoint : Breakpoint} (named : breakpoint.id = id) :
    replay (updatesIn s.history) breakpoint.id ≠ some breakpoint := by
  intro there
  have absent := List.find?_eq_none.mp (Option.map_eq_none_iff.mp missing) breakpoint
    ((booked.table breakpoint).mpr there)
  exact absent (decide_eq_true named)

theorem runRemoveBreakpoint_removes (booked : Booked s) :
    Removes s arguments (Builtin.runRemoveBreakpoint arguments s) := by
  unfold Builtin.runRemoveBreakpoint Builtin.breakpointToRemove
  cases bound : arguments.require "Remove-PSBreakpoint" "Id" 0 with
  | error fault =>
    refine .refused fault ?_
    unfold removalId
    rw [bound]
    rfl
  | ok value =>
    have binds : removalId arguments = integer "Remove-PSBreakpoint" "Id" value := by
      unfold removalId
      rw [bound]
      rfl
    simp only [bind, Except.bind]
    cases converted : integer "Remove-PSBreakpoint" "Id" value with
    | error fault => exact .refused fault (binds.trans converted)
    | ok id =>
      dsimp only
      by_cases negative : id.toInt < 0
      · rw [if_pos negative]
        refine .unknown id (binds.trans converted) fun breakpoint named => ?_
        omega
      · rw [if_neg negative]
        have whole : (id.toInt.toNat : Int) = id.toInt := Int.toNat_of_nonneg (Int.not_lt.mp negative)
        cases found : s.breakpoints.remove id.toInt.toNat with
        | none =>
          refine .unknown id (binds.trans converted) fun breakpoint named => ?_
          exact booked.of_remove_none found (by omega)
        | some pair =>
          obtain ⟨breakpoint, breakpoints⟩ := pair
          obtain ⟨there, named, same⟩ := booked.of_remove found
          rw [← named] at same
          subst same
          exact .removed id (binds.trans converted) breakpoint (by omega) there

theorem lists (booked : Booked s) (few : s.breakpoints.created < 2 ^ 32) :
    Lists s (.done (.ok (s.breakpoints.table.map Builtin.idValue)) s) := by
  have value {breakpoint : Breakpoint} (member : breakpoint ∈ s.breakpoints.table) :
      (Int64.ofNat breakpoint.id).toInt = breakpoint.id :=
    toInt_ofNat (Nat.le_of_lt (Nat.lt_of_le_of_lt (booked.ordered.given breakpoint member) few))
  refine ⟨s.breakpoints.table.map fun breakpoint => Int64.ofNat breakpoint.id, ?_, ?_, ?_⟩
  · rw [List.map_map]
    rfl
  · refine List.pairwise_map.mpr ((List.Pairwise.and_mem.mp booked.ascending).imp ?_)
    rintro earlier later ⟨member, member', less⟩
    rw [value member, value member']
    exact Int.ofNat_lt.mpr less
  · intro number
    constructor
    · intro listed
      obtain ⟨breakpoint, member, rfl⟩ := List.mem_map.mp listed
      refine ⟨breakpoint.id, value member, ?_⟩
      rw [(booked.table breakpoint).mp member]
      rfl
    · rintro ⟨id, same, booking⟩
      obtain ⟨breakpoint, there⟩ := Option.isSome_iff_exists.mp booking
      obtain ⟨rfl, _⟩ := booked.ledger.record there
      have member := (booked.table breakpoint).mpr there
      refine List.mem_map.mpr ⟨breakpoint, member, Int64.toInt.inj ?_⟩
      rw [value member, same]

/-- **The breakpoint table is the replay of the changes reported, at every moment**: however an engine has
come about, and wherever the journey of a pipeline that it has undertaken calls a command. The numbers
given out are one, two, three and so on; a breakpoint is removed as it was added; and a command that fails
has changed and reported nothing. -/
theorem breakpoints_replayed (made : e.Made) :
    Booked e.state ∧
      (updatesIn e.state.history).filterMap Update.addedId? =
        List.range' 1 e.state.breakpoints.created ∧
      ∀ ticket pipeline s f acts journey, e.Undertakes ticket pipeline s f →
        Travels e.files (.begin pipeline s) acts journey → Booked journey.state ∧
        ∀ position name arguments input next,
          journey.standing = .going (.calls position name arguments input next) →
          journey.state.breakpoints.created < 2 ^ 32 →
          (Builtin.ofName? name = some .setBreakpoint →
            Adds journey.state arguments (call e.files name arguments input journey.state)) ∧
          (Builtin.ofName? name = some .removeBreakpoint →
            Removes journey.state arguments (call e.files name arguments input journey.state)) ∧
          (Builtin.ofName? name = some .listBreakpoints →
            Lists journey.state (call e.files name arguments input journey.state)) := by
  have booked := made.accounted.booked
  refine ⟨booked, booked.ledger.numbers, ?_⟩
  intro ticket pipeline s f acts journey undertakes travels
  have here : Booked journey.state := travels.booked (undertakes.booked made)
  refine ⟨here, fun position name arguments input next _ few => ⟨?_, ?_, ?_⟩⟩
  · intro known
    rw [call, known]
    exact runSetBreakpoint_adds few
  · intro known
    rw [call, known]
    exact runRemoveBreakpoint_removes here
  · intro known
    rw [call, known]
    exact lists here few

/-- A script that adds two breakpoints, removes the first, and fails to remove it again. -/
def removingTwice : Pipeline :=
  .script "Set-PSBreakpoint 9; $id = Set-PSBreakpoint '4'; Remove-PSBreakpoint 1; Remove-PSBreakpoint 1"

/-- A pipeline of one command with the argument two. -/
def commanding (name : String) : Pipeline :=
  ⟨[.command name [.positional (.int 2)]]⟩

/-- Behind that script the breakpoint that is left is removed and listed, and a new one gets a number that
has not been used. -/
theorem breakpoints_replayed_behind : ∃ (e : Engine) (s : Interpreter), e.Made ∧
    updatesIn e.state.history =
      [⟨.added, ⟨1, 9, true⟩⟩, ⟨.added, ⟨2, 4, true⟩⟩, ⟨.removed, ⟨1, 9, true⟩⟩] ∧
    (updatesIn e.state.history).filterMap Update.addedId? = [1, 2] ∧
    e.state.breakpoints.table = [⟨2, 4, true⟩] ∧
    (∀ name, ∃ ticket f, e.Undertakes ticket (commanding name) s f) ∧ Booked s ∧
    s.breakpoints.created = 2 ∧
    Adds s ⟨[], [.int 2]⟩ (call e.files "Set-PSBreakpoint" ⟨[], [.int 2]⟩ [] s) ∧
    Removes s ⟨[], [.int 2]⟩ (call e.files "remove-psbreakpoint" ⟨[], [.int 2]⟩ [] s) ∧
    Lists s (call e.files "Get-PSBreakpoint" ⟨[], [.int 2]⟩ [] s) := by
  obtain ⟨e, made, idle, updates, table, created⟩ : ∃ e : Engine, e.Made ∧
      e.availability = .available ∧ updatesIn e.state.history =
        [⟨.added, ⟨1, 9, true⟩⟩, ⟨.added, ⟨2, 4, true⟩⟩, ⟨.removed, ⟨1, 9, true⟩⟩] ∧
      e.state.breakpoints.table = [⟨2, 4, true⟩] ∧ e.state.breakpoints.created = 2 :=
    ⟨((fresh .none none).asked (.invoke removingTwice)).run (.replicate 6 .step),
      ((Made.fresh .none none).run [.ask (.invoke removingTwice)]).run _, by decide +kernel,
      by decide +kernel, by decide +kernel, by decide +kernel⟩
  obtain ⟨t, activity⟩ : ∃ t, e.activity = .idle t := by
    rw [made.availability] at idle
    exact (moment_idle_iff e).mp ((Moment.availability_available_iff _).mp idle)
  have undertaken (name : String) : ∃ f, e.Undertakes (e.lastTicket + 1) (commanding name)
      (begunFrom e.state) f := by
    obtain ⟨f, invoked⟩ : ∃ f, e.invoke (commanding name) = .ok (e.lastTicket + 1, f) := by
      unfold Engine.invoke
      rw [activity]
      exact ⟨_, rfl⟩
    exact ⟨f, .run invoked⟩
  have given : (begunFrom e.state).breakpoints.created = 2 := by
    rw [begunFrom, (setAvailability_keeps _ _).2.2.1]
    exact created
  have few : (begunFrom e.state).breakpoints.created < 2 ^ 32 := by
    rw [given]
    decide
  obtain ⟨_, numbers, calls⟩ := breakpoints_replayed made
  rw [created] at numbers
  have called (name : String) := calls _ _ _ _ _ _ (undertaken name).choose_spec (.rest _)
  refine ⟨e, begunFrom e.state, made, updates, numbers, table, fun name => ⟨_, undertaken name⟩,
    (called "").1, given, ?_, ?_, ?_⟩
  · exact ((called "Set-PSBreakpoint").2 _ _ _ _ _ rfl few).1 (by decide)
  · exact ((called "remove-psbreakpoint").2 _ _ _ _ _ rfl few).2.1 (by decide)
  · exact ((called "Get-PSBreakpoint").2 _ _ _ _ _ rfl few).2.2 (by decide)

end Engine

end ShellSession
