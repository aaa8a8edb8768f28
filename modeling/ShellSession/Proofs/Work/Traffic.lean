/-
**The traffic of a channel.**

Any number of producers push and close, the token is cancelled, and the one receiver receives, takes
what it can get without waiting, and drops a receive that it has begun, step by step in any order. A
wake-up is a step of its own, which comes at any time behind the push or the closing that it is due to.

* `Channel.Moves`, `Channel.Traffic`: one step, and what is seen of it; all steps on the way;
* `Channel.Moves.conserves`: **what is taken, with what is queued, is what has been accepted**;
* `Channel.Wakeful`, `Channel.Moves.wakeful`: **a receiver that waits for what is there is woken**;
* `Channel.Doomed`, `Channel.Moves.doomed`: a cancelled receive takes no item;
* `Channel.Traffic.loses_nothing`: **all of it, along all traffic**.
-/

import ShellSession.Work.Channel

namespace ShellSession

/-! ### Events -/

/-- What is seen of one step at a channel: a push with the depth behind it, or the item that it hands
back; the channel closed; a wake-up given; the token cancelled, or another one put in its place; a
receive begun, dropped, or one step further, with what it gets; and what is taken without waiting. -/
inductive Event (α : Type) where
  | pushed (item : α) (depth : Nat)
  | refused (item : α)
  | closed
  | woke
  | cancelled
  | renewed (fired : Bool)
  | begun (heeds : Bool)
  | received (got : Option (Received α))
  | dropped
  | tried (got : Option α)
  | drained (items : List α)

namespace Event

variable {α : Type}

/-- The item that a push has brought in. -/
def accepted? : Event α → Option α
  | pushed item _ => some item
  | _ => none

/-- The items taken out. -/
def taken : Event α → List α
  | received (some (.item item)) => [item]
  | tried (some item) => [item]
  | drained items => items
  | _ => []

/-- Whether a receive is over. -/
def ends : Event α → Bool
  | received (some _) => true
  | dropped => true
  | _ => false

/-- All that has been accepted, in order. -/
def accepted (events : List (Event α)) : List α :=
  events.filterMap accepted?

/-- All that has been taken out, in order. -/
def takings (events : List (Event α)) : List α :=
  events.flatMap taken

end Event

namespace Channel

variable {α : Type} {q p r : Channel α} {event : Event α} {events more : List (Event α)}

/-- One step at a channel, and what is seen of it. What is taken without waiting, and a receive begun,
take the receiver as a whole, so that it has to be away from any other receive. -/
inductive Moves (q : Channel α) : Event α → Channel α → Prop
  | push (item : α) (p : Channel α) : q.accept item = some p → q.Moves (.pushed item p.size) p
  | refuse (item : α) : q.accept item = none → q.Moves (.refused item) q
  | shut : q.Moves .closed q.shut
  | wake (p : Channel α) : q.wake = some p → q.Moves .woke p
  | cancel : q.Moves .cancelled q.cancel
  | renew (fired : Bool) : q.receiving = .away → q.Moves (.renewed fired) { q with cancelled := fired }
  | begin (heeds : Bool) : q.receiving = .away → q.Moves (.begun heeds) (q.begin heeds)
  | receive (got : Option (Received α)) (p : Channel α) :
      q.receive = some (got, p) → q.Moves (.received got) p
  | leave : q.receiving ≠ .away → q.Moves .dropped q.leave
  | take (item : α) (p : Channel α) : q.receiving = .away → q.tryTake = some (item, p) →
      q.Moves (.tried (some item)) p
  | miss : q.receiving = .away → q.tryTake = none → q.Moves (.tried none) q
  | drain : q.receiving = .away → q.Moves (.drained q.drain.1) q.drain.2

/-- The steps from one channel to another, with what is seen on the way. -/
inductive Traffic (q : Channel α) : List (Event α) → Channel α → Prop
  | rest : q.Traffic [] q
  | move {events : List (Event α)} {p r : Channel α} {event : Event α} :
      q.Traffic events p → p.Moves event r → q.Traffic (events ++ [event]) r

namespace Traffic

/-- Traffic behind other traffic. -/
theorem trans (first : q.Traffic events p) (second : p.Traffic more r) :
    q.Traffic (events ++ more) r := by
  induction second with
  | rest =>
    rw [List.append_nil]
    exact first
  | move _ moves ih =>
    rw [← List.append_assoc]
    exact ih.move moves

theorem single (moves : q.Moves event p) : q.Traffic [event] p :=
  Traffic.rest.move moves

/-- What every step keeps holds all along. -/
theorem invariant (kept : Channel α → List (Event α) → Prop) (traffic : q.Traffic events p)
    (holds : kept q []) (step : ∀ {p events event r}, kept p events → p.Moves event r →
      kept r (events ++ [event])) : kept p events := by
  induction traffic with
  | rest => exact holds
  | move _ moves ih => exact step ih moves

end Traffic

/-! ### Items -/

@[simp] theorem signal_backlog (q : Channel α) : q.signal.backlog = q.backlog := by
  unfold signal
  split <;> rfl

@[simp] theorem park_backlog (q : Channel α) : q.park.backlog = q.backlog := by
  unfold park
  split <;> rfl

@[simp] theorem leave_backlog (q : Channel α) : q.leave.backlog = q.backlog := by
  unfold leave
  split <;> rfl

@[simp] theorem leave_receiving (q : Channel α) : q.leave.receiving = .away := by
  unfold leave
  split <;> rfl

theorem wake_eq (woken : q.wake = some p) :
    0 < q.due ∧ p = { q with due := q.due - 1 }.signal := by
  unfold wake at woken
  split at woken
  · cases woken
  · cases woken
    exact ⟨Nat.pos_of_ne_zero ‹_›, rfl⟩

theorem accept_eq {item : α} (accepted : q.accept item = some p) : q.isClosed = false ∧
    p = { q with backlog := ⟨q.backlog.items ++ [item], q.backlog.closed⟩, due := q.due + 1 } := by
  unfold accept Backlog.push at accepted
  unfold isClosed
  split at accepted
  · cases accepted
  · cases accepted
    exact ⟨Bool.eq_false_iff.mpr ‹_›, rfl⟩

theorem accept_none {item : α} : q.accept item = none ↔ q.isClosed = true := by
  unfold accept Backlog.push isClosed
  split <;> rename_i closed
  · exact iff_of_true rfl closed
  · exact iff_of_false nofun closed

theorem tryTake_eq {item : α} (taken : q.tryTake = some (item, p)) :
    ∃ rest, q.backlog.items = item :: rest ∧
      p = { q with backlog := ⟨rest, q.backlog.closed⟩ } := by
  unfold tryTake Backlog.take at taken
  split at taken
  · cases taken
  · cases taken
    exact ⟨_, ‹_›, rfl⟩

/-- **A step of the receiver**: it gives up, gets the first item, finds the channel closed and empty, or
goes on without a result. -/
inductive Receives (q : Channel α) : Option (Received α) → Channel α → Prop
  | cancelled (stage : q.receiving ≠ .away) (late : q.receiving ≠ .looking)
      (fired : q.givesUp = true) : q.Receives (some .cancelled) q.leave
  | item (item : α) (rest : List α) (looking : q.receiving = .looking)
      (items : q.backlog.items = item :: rest) : q.Receives (some (.item item))
        { q with backlog := ⟨rest, q.backlog.closed⟩, receiving := .away }
  | closed (looking : q.receiving = .looking) (items : q.backlog.items = [])
      (closed : q.isClosed = true) : q.Receives (some .closed) { q with receiving := .away }
  | empty (looking : q.receiving = .looking) (items : q.backlog.items = [])
      (opened : q.isClosed = false) : q.Receives none { q with receiving := .parking }
  | check (checking : q.receiving = .checking) (waits : q.givesUp = false) :
      q.Receives none { q with receiving := .looking }
  | park (parking : q.receiving = .parking) (waits : q.givesUp = false) : q.Receives none q.park
  | rouse (woken : q.receiving = .woken) (waits : q.givesUp = false) :
      q.Receives none { q with receiving := .checking }

theorem receives_of_receive {got : Option (Received α)} (received : q.receive = some (got, p)) :
    q.Receives got p := by
  unfold receive at received
  split at received
  · cases received
  · rename_i looking
    unfold look Backlog.take at received
    cases items : q.backlog.items with
    | nil =>
      rw [items] at received
      cases closed : q.backlog.closed with
      | true =>
        simp only [closed, if_true, Option.some.injEq, Prod.mk.injEq] at received
        obtain ⟨rfl, rfl⟩ := received
        exact .closed looking items closed
      | false =>
        simp only [closed, Bool.false_eq_true, if_false, Option.some.injEq, Prod.mk.injEq] at received
        obtain ⟨rfl, rfl⟩ := received
        exact .empty looking items closed
    | cons item rest =>
      rw [items] at received
      cases received
      exact .item item rest looking items
  all_goals
    rename_i stage
    split at received <;> cases received
    · exact .cancelled (by rw [stage]; nofun) (by rw [stage]; nofun) ‹_›
  · exact .check stage (Bool.eq_false_iff.mpr ‹_›)
  · exact .park stage (Bool.eq_false_iff.mpr ‹_›)
  · exact .rouse stage (Bool.eq_false_iff.mpr ‹_›)

/-- **A step takes from the front what it takes, and puts to the end what it accepts.** -/
theorem Moves.conserves (moves : q.Moves event p) :
    event.taken ++ p.backlog.items = q.backlog.items ++ event.accepted?.toList := by
  cases moves with
  | push item p accepted =>
    rw [(accept_eq accepted).2]
    rfl
  | wake p woken =>
    rw [(wake_eq woken).2, signal_backlog]
    exact (List.append_nil _).symm
  | receive got p received =>
    refine Eq.trans ?_ (List.append_nil _).symm
    cases receives_of_receive received with
    | cancelled => rw [leave_backlog]; rfl
    | item item rest looking items => exact items.symm
    | park => rw [park_backlog]; rfl
    | _ => rfl
  | leave =>
    rw [leave_backlog]
    exact (List.append_nil _).symm
  | take item p away taken =>
    obtain ⟨rest, items, rfl⟩ := tryTake_eq taken
    exact items.symm.trans (List.append_nil _).symm
  | drain => rfl
  | _ => exact (List.append_nil _).symm

/-- A channel is closed by its closing, and stays so. -/
theorem Moves.isClosed_iff (moves : q.Moves event p) :
    p.isClosed = true ↔ q.isClosed = true ∨ .closed = event := by
  have kept : p.backlog.closed = q.backlog.closed → .closed ≠ event →
      (p.isClosed = true ↔ q.isClosed = true ∨ .closed = event) := fun same other => by
    unfold isClosed
    rw [same]
    exact (or_iff_left other).symm
  cases moves with
  | push item p accepted => exact kept (by rw [(accept_eq accepted).2]) nofun
  | shut => exact iff_of_true rfl (.inr rfl)
  | wake p woken => exact kept (by rw [(wake_eq woken).2, signal_backlog]) nofun
  | receive got p received =>
    refine kept ?_ nofun
    cases receives_of_receive received with
    | cancelled => rw [leave_backlog]
    | park => rw [park_backlog]
    | _ => rfl
  | leave => exact kept (by rw [leave_backlog]) nofun
  | take item p away taken =>
    obtain ⟨rest, _, rfl⟩ := tryTake_eq taken
    exact kept rfl nofun
  | _ => exact kept rfl nofun

/-! ### Wake-ups -/

/-- Whether there is something to be got: an item, or that there will be none. -/
def Ready (q : Channel α) : Prop :=
  q.backlog.items ≠ [] ∨ q.isClosed = true

/-- The wake-up of a receiver that waits for what is there is due, or kept where it does not wait yet. -/
structure Wakeful (q : Channel α) : Prop where
  parking : q.receiving = .parking → q.Ready → 0 < q.due ∨ q.kept = true
  parked : q.receiving = .parked → q.Ready → 0 < q.due

theorem wakeful_empty : (empty : Channel α).Wakeful :=
  ⟨nofun, nofun⟩

/-- A receiver that is not about to wait, and does not wait, needs no wake-up. -/
theorem Wakeful.of_up (parking : q.receiving ≠ .parking) (parked : q.receiving ≠ .parked) :
    q.Wakeful :=
  ⟨fun stage => absurd stage parking, fun stage => absurd stage parked⟩

theorem Wakeful.of_away (away : q.receiving = .away) : q.Wakeful :=
  .of_up (by rw [away]; nofun) (by rw [away]; nofun)

/-- **A wake-up goes to the receiver that waits, and is kept for one that is about to.** -/
theorem Wakeful.signal (q : Channel α) : q.signal.Wakeful := by
  unfold Channel.signal
  split
  · exact .of_up nofun nofun
  · rename_i stage
    exact ⟨fun _ _ => .inr rfl, fun parked => absurd parked stage⟩

/-- The receiver waits only where no wake-up is kept. -/
theorem Wakeful.park (wakeful : q.Wakeful) (parking : q.receiving = .parking) : q.park.Wakeful := by
  unfold Channel.park
  split
  · exact .of_up nofun nofun
  · rename_i unkept
    exact ⟨nofun, fun _ ready => (wakeful.parking parking ready).resolve_right unkept⟩

/-- **No step loses a wake-up.** -/
theorem Moves.wakeful (moves : q.Moves event p) (wakeful : q.Wakeful) : p.Wakeful := by
  cases moves with
  | push item p accepted =>
    rw [(accept_eq accepted).2]
    exact ⟨fun _ _ => .inl (Nat.succ_pos _), fun _ _ => Nat.succ_pos _⟩
  | shut => exact ⟨fun _ _ => .inl (Nat.succ_pos _), fun _ _ => Nat.succ_pos _⟩
  | wake p woken =>
    rw [(wake_eq woken).2]
    exact .signal _
  | receive got p received =>
    cases receives_of_receive received with
    | cancelled => exact .of_away (leave_receiving q)
    | empty looking items opened =>
      refine ⟨fun _ ready => ?_, nofun⟩
      rcases ready with pending | closed
      · exact absurd items pending
      · cases opened.symm.trans closed
    | park parking => exact wakeful.park parking
    | _ => exact .of_up nofun nofun
  | begin => exact .of_up nofun nofun
  | leave => exact .of_away (leave_receiving q)
  | take item p away taken =>
    obtain ⟨rest, _, rfl⟩ := tryTake_eq taken
    exact .of_away away
  | drain away => exact .of_away away
  | refuse | cancel | renew | miss => exact ⟨wakeful.parking, wakeful.parked⟩

/-! ### Receives that end -/

/-- What a receive may end with: the first item; that there will be none, where the channel is closed and
empty; or that it was cancelled, where it heeds a token that is. -/
def Offers (q : Channel α) : Received α → Prop
  | .item item => q.backlog.items.head? = some item
  | .closed => q.isClosed = true ∧ q.backlog.items = []
  | .cancelled => q.givesUp = true

/-- **A receive ends only with what there is.** -/
theorem Moves.offers {got : Received α} (moves : q.Moves (.received (some got)) p) : q.Offers got := by
  cases moves with
  | receive _ _ received =>
    cases receives_of_receive received with
    | cancelled away late fired => exact fired
    | item item rest looking items =>
      show q.backlog.items.head? = some item
      rw [items]
      rfl
    | closed looking items closed => exact ⟨closed, items⟩

/-- The receive under way can end with `got` by wake-ups that are due and its own steps alone. -/
inductive Yields : Channel α → Received α → Prop
  | now {q p : Channel α} {got : Received α} :
      q.Moves (.received (some got)) p → q.Yields got
  | woke {q p : Channel α} {got : Received α} : q.Moves .woke p → p.Yields got → q.Yields got
  | step {q p : Channel α} {got : Received α} :
      q.Moves (.received none) p → p.Yields got → q.Yields got

/-- A wake-up, and a step of the receiver without a result, leave what there is to be got as it is. -/
theorem Moves.same_offers {got : Received α} (moves : q.Moves event p)
    (quiet : event = .woke ∨ event = .received none) (offers : p.Offers got) : q.Offers got := by
  have same : p.backlog = q.backlog ∧ p.heeds = q.heeds ∧ p.cancelled = q.cancelled := by
    rcases quiet with rfl | rfl
    · cases moves with
      | wake _ woken =>
        rw [(wake_eq woken).2]
        unfold signal
        split <;> exact ⟨rfl, rfl, rfl⟩
    · cases moves with
      | receive _ _ received =>
        cases receives_of_receive received with
        | park =>
          unfold Channel.park
          split <;> exact ⟨rfl, rfl, rfl⟩
        | _ => exact ⟨rfl, rfl, rfl⟩
  obtain ⟨backlog, heeds, cancelled⟩ := same
  cases got <;> simp only [Offers, isClosed, givesUp, backlog, heeds, cancelled] at offers ⊢ <;>
    exact offers

/-- What a receive under way ends with is there from the beginning. -/
theorem Yields.offers {got : Received α} (yields : q.Yields got) : q.Offers got := by
  induction yields with
  | now moves => exact moves.offers
  | woke moves _ ih => exact moves.same_offers (.inl rfl) ih
  | step moves _ ih => exact moves.same_offers (.inr rfl) ih

/-- A receive that looks gets the first item, or that there will be none. -/
theorem exists_yields_of_looking (looking : q.receiving = .looking) (ready : q.Ready) :
    ∃ got, q.Yields got := by
  unfold Ready isClosed at ready
  cases items : q.backlog.items with
  | nil =>
    have closed := ready.resolve_left fun pending => pending items
    refine ⟨.closed, .now (.receive _ { q with receiving := .away } ?_)⟩
    unfold receive look Backlog.take
    rw [looking, items]
    simp only [closed, if_true]
  | cons item rest =>
    refine ⟨.item item,
      .now (.receive _ { q with backlog := ⟨rest, q.backlog.closed⟩, receiving := .away } ?_)⟩
    unfold receive look Backlog.take
    rw [looking, items]

/-- A receive that has to give up does so as soon as it looks at the token. -/
theorem receive_of_fired (fired : q.givesUp = true) (away : q.receiving ≠ .away)
    (late : q.receiving ≠ .looking) : q.receive = some (some .cancelled, q.leave) := by
  unfold receive
  cases stage : q.receiving with
  | away => exact absurd stage away
  | looking => exact absurd stage late
  | _ => simp only [fired, if_true]

theorem exists_yields_of_checking (checking : q.receiving = .checking) (ready : q.Ready) :
    ∃ got, q.Yields got := by
  cases fired : q.givesUp with
  | true =>
    have received := receive_of_fired fired (by rw [checking]; nofun) (by rw [checking]; nofun)
    exact ⟨_, .now (.receive _ _ received)⟩
  | false =>
    obtain ⟨got, yields⟩ :=
      exists_yields_of_looking (q := { q with receiving := .looking }) rfl ready
    refine ⟨got, .step (.receive _ _ ?_) yields⟩
    unfold receive
    rw [checking]
    simp only [fired, Bool.false_eq_true, if_false]

theorem exists_yields_of_woken (woken : q.receiving = .woken) (ready : q.Ready) :
    ∃ got, q.Yields got := by
  cases fired : q.givesUp with
  | true =>
    have received := receive_of_fired fired (by rw [woken]; nofun) (by rw [woken]; nofun)
    exact ⟨_, .now (.receive _ _ received)⟩
  | false =>
    obtain ⟨got, yields⟩ :=
      exists_yields_of_checking (q := { q with receiving := .checking }) rfl ready
    refine ⟨got, .step (.receive _ _ ?_) yields⟩
    unfold receive
    rw [woken]
    simp only [fired, Bool.false_eq_true, if_false]

/-- A receiver that waits is woken by the wake-up that is due. -/
theorem exists_yields_of_parked (parked : q.receiving = .parked) (due : 0 < q.due)
    (ready : q.Ready) : ∃ got, q.Yields got := by
  have woken : q.wake = some { q with due := q.due - 1, receiving := .woken } := by
    unfold wake signal
    rw [if_neg (Nat.ne_of_gt due)]
    simp only [parked]
  obtain ⟨got, yields⟩ := exists_yields_of_woken (q := { q with due := q.due - 1, receiving := .woken })
    rfl ready
  exact ⟨got, .woke (.wake _ woken) yields⟩

/-- **A receive that is under way ends**, if there is something to be got or it has to give up: all that
it takes are wake-ups that are due and its own steps. -/
theorem Wakeful.exists_yields (wakeful : q.Wakeful) (away : q.receiving ≠ .away)
    (stirs : q.Ready ∨ q.givesUp = true) : ∃ got, q.Yields got := by
  by_cases fired : q.givesUp = true
  · by_cases looking : q.receiving = .looking
    · by_cases ready : q.Ready
      · exact exists_yields_of_looking looking ready
      · -- The look at the backlog finds nothing, and the next one at the token ends the receive.
        have items : q.backlog.items = [] :=
          Classical.byContradiction fun pending => ready (.inl pending)
        have opened : q.backlog.closed = false := Bool.eq_false_iff.mpr fun closed => ready (.inr closed)
        have yields := Yields.now (.receive _ _
          (receive_of_fired (q := { q with receiving := .parking }) fired nofun nofun))
        refine ⟨_, .step (.receive _ _ ?_) yields⟩
        unfold receive look Backlog.take
        rw [looking, items]
        simp only [opened, Bool.false_eq_true, if_false]
    · exact ⟨_, .now (.receive _ _ (receive_of_fired fired away looking))⟩
  · have ready := stirs.resolve_right fired
    have waits := Bool.eq_false_iff.mpr fired
    cases stage : q.receiving with
    | away => exact absurd stage away
    | checking => exact exists_yields_of_checking stage ready
    | looking => exact exists_yields_of_looking stage ready
    | woken => exact exists_yields_of_woken stage ready
    | parked => exact exists_yields_of_parked stage (wakeful.parked stage ready) ready
    | parking =>
      have parks : q.receive = some (none, q.park) := by
        unfold receive
        rw [stage]
        simp only [waits, Bool.false_eq_true, if_false]
      cases kept : q.kept with
      | true =>
        have same : q.park = { q with kept := false, receiving := .checking } := by
          unfold Channel.park
          rw [kept]
          rfl
        obtain ⟨got, yields⟩ := exists_yields_of_checking (q := q.park) (by rw [same])
          (by rw [same]; exact ready)
        exact ⟨got, .step (.receive _ _ parks) yields⟩
      | false =>
        have same : q.park = { q with receiving := .parked } := by
          unfold Channel.park
          rw [kept]
          rfl
        obtain ⟨got, yields⟩ := exists_yields_of_parked (q := q.park) (by rw [same])
          ((wakeful.park stage).parked (by rw [same]) (by rw [same]; exact ready))
          (by rw [same]; exact ready)
        exact ⟨got, .step (.receive _ _ parks) yields⟩

/-! ### Cancelled receives -/

/-- A receive that has to give up before it looks at the backlog again. -/
structure Doomed (q : Channel α) : Prop where
  fired : q.givesUp = true
  away : q.receiving ≠ .away
  late : q.receiving ≠ .looking

/-- A receive is doomed that is begun with a cancelled token, or whose token is cancelled as it waits. -/
theorem Moves.doomed (moves : q.Moves event p)
    (told : (event = .begun true ∧ q.cancelled = true) ∨ (event = .cancelled ∧ q.heeds = true ∧
      (q.receiving = .parking ∨ q.receiving = .parked ∨ q.receiving = .woken))) : p.Doomed := by
  rcases told with ⟨rfl, fired⟩ | ⟨rfl, heeds, waits⟩
  · cases moves with
    | begin => exact ⟨fired, nofun, nofun⟩
  · cases moves with
    | cancel =>
      refine ⟨Bool.and_eq_true_iff.mpr ⟨heeds, rfl⟩, ?_, ?_⟩ <;>
        · show q.receiving ≠ _
          rcases waits with stage | stage | stage <;> rw [stage] <;> nofun

/-- **A doomed receive is given up in its next step**, and until then nothing saves it. -/
theorem Doomed.after (doomed : q.Doomed) (moves : q.Moves event p) :
    (∀ got, event = .received got → got = some .cancelled) ∧ (event.ends = false → p.Doomed) := by
  obtain ⟨fired, away, late⟩ := doomed
  cases moves with
  | push item p accepted =>
    rw [(accept_eq accepted).2]
    exact ⟨nofun, fun _ => ⟨fired, away, late⟩⟩
  | wake p woken =>
    rw [(wake_eq woken).2]
    refine ⟨nofun, fun _ => ?_⟩
    unfold signal
    split
    · exact ⟨fired, nofun, nofun⟩
    · exact ⟨fired, away, late⟩
  | cancel =>
    have heeds := (Bool.and_eq_true_iff.mp fired).1
    exact ⟨nofun, fun _ => ⟨Bool.and_eq_true_iff.mpr ⟨heeds, rfl⟩, away, late⟩⟩
  | receive got p received =>
    cases receives_of_receive received with
    | cancelled => exact ⟨fun got same => by cases same; rfl, nofun⟩
    | item item rest looking => exact absurd looking late
    | closed looking => exact absurd looking late
    | empty looking => exact absurd looking late
    | check checking waits => cases waits.symm.trans fired
    | park parking waits => cases waits.symm.trans fired
    | rouse woken waits => cases waits.symm.trans fired
  | leave => exact ⟨nofun, nofun⟩
  | refuse | shut => exact ⟨nofun, fun _ => ⟨fired, away, late⟩⟩
  | renew _ here | begin _ here | take _ _ here | miss here | drain here => exact absurd here away

/-- A doomed receive that ends with a result ends as cancelled. -/
theorem Doomed.cancelled (doomed : q.Doomed) (traffic : q.Traffic events p) :
    (∀ before got after, events = before ++ .received got :: after →
      (∀ event ∈ before, event.ends = false) → got = some .cancelled) ∧
    ((∀ event ∈ events, event.ends = false) → p.Doomed) := by
  induction traffic with
  | rest =>
    exact ⟨fun before got after split => absurd split.symm
      (List.append_ne_nil_of_right_ne_nil _ (List.cons_ne_nil _ _)), fun _ => doomed⟩
  | @move events p r event traffic moves ih =>
    have step : (∀ other ∈ events, other.ends = false) → p.Doomed := ih.2
    refine ⟨fun before got after split going => ?_, fun going => ?_⟩
    · rcases List.eq_nil_or_concat after with rfl | ⟨rest, last, rfl⟩
      · obtain ⟨rfl, same⟩ := List.append_inj' split rfl
        cases same
        exact ((step going).after moves).1 got rfl
      · rw [List.concat_eq_append, ← List.cons_append, ← List.append_assoc] at split
        exact ih.1 before got rest (List.append_inj' split rfl).1 going
    · exact ((step fun other member => going other (List.mem_append_left _ member)).after moves).2
        (going event (List.mem_append_right _ (List.mem_singleton_self _)))

/-! ### Along all traffic -/

namespace Traffic

/-- **What is taken, with what is queued, is what has been accepted**, in the same order. -/
theorem conserves (traffic : empty.Traffic events q) :
    Event.takings events ++ q.backlog.items = Event.accepted events := by
  refine traffic.invariant
    (fun q events => Event.takings events ++ q.backlog.items = Event.accepted events) rfl
    fun {p events event r} before moves => ?_
  calc Event.takings (events ++ [event]) ++ r.backlog.items
      = Event.takings events ++ (event.taken ++ r.backlog.items) := by
        unfold Event.takings
        rw [List.flatMap_append, List.flatMap_singleton, List.append_assoc]
    _ = Event.accepted events ++ event.accepted?.toList := by
        rw [moves.conserves, ← List.append_assoc, before]
    _ = Event.accepted (events ++ [event]) := by
        unfold Event.accepted
        rw [List.filterMap_append]
        cases same : event.accepted? <;> simp [same]

/-- A channel is closed when somebody has closed it. -/
theorem isClosed_iff (traffic : empty.Traffic events q) :
    q.isClosed = true ↔ .closed ∈ events := by
  refine traffic.invariant (fun q events => q.isClosed = true ↔ .closed ∈ events)
    (iff_of_false nofun nofun) fun before moves => ?_
  rw [moves.isClosed_iff, before, List.mem_append, List.mem_singleton]

theorem wakeful (traffic : empty.Traffic events q) : q.Wakeful :=
  traffic.invariant (fun q _ => q.Wakeful) wakeful_empty fun before moves =>
    moves.wakeful before

/-- **A channel loses nothing**, whatever producers, the receiver and the token do at it, in any order:

* what has been taken, with what is queued, is what has been accepted, in the same order;
* as long as nobody has closed the channel, a push is accepted and returns the depth behind it; behind a
  closing it hands its item back and changes nothing;
* a receive ends with the first item, or because the channel is closed and empty, or because it heeds a
  token that is cancelled;
* one whose token was cancelled before it, or is cancelled while it waits, ends with no item;
* a receiver that waits, though there is something to be got or it has to give up, has a wake-up due or
  gives up in its next step; and each receive for which that holds ends, all that it takes being
  wake-ups that are due and its own steps. -/
theorem loses_nothing (traffic : (empty : Channel α).Traffic events q) :
    Event.takings events ++ q.backlog.items = Event.accepted events ∧
    (q.isClosed = true ↔ .closed ∈ events) ∧
    (∀ item, q.isClosed = false → ∃ p, q.Moves (.pushed item (q.size + 1)) p) ∧
    (∀ item depth p, q.Moves (.pushed item depth) p → q.isClosed = false ∧ depth = p.size) ∧
    (∀ item, q.isClosed = true → q.Moves (.refused item) q) ∧
    (∀ item p, q.Moves (.refused item) p → q.isClosed = true ∧ p = q) ∧
    (∀ got p, q.Moves (.received (some got)) p → q.Offers got) ∧
    (∀ event p, q.Moves event p →
      (event = .begun true ∧ q.cancelled = true) ∨ (event = .cancelled ∧ q.heeds = true ∧
        (q.receiving = .parking ∨ q.receiving = .parked ∨ q.receiving = .woken)) →
      ∀ more r, p.Traffic more r → ∀ before got after, more = before ++ .received got :: after →
        (∀ event ∈ before, event.ends = false) → got = some .cancelled) ∧
    (q.receiving = .parked → q.Ready ∨ q.givesUp = true →
      0 < q.due ∨ ∃ p, q.Moves (.received (some .cancelled)) p) ∧
    (q.receiving ≠ .away → q.Ready ∨ q.givesUp = true → ∃ got, q.Yields got ∧ q.Offers got) := by
  have wakeful := traffic.wakeful
  refine ⟨traffic.conserves, traffic.isClosed_iff, fun item opened => ?_, fun item depth p moves => ?_,
    fun item closed => .refuse item (accept_none.mpr closed), fun item p moves => ?_,
    fun got p moves => moves.offers,
    fun event p moves told more r later before got after split going =>
      ((moves.doomed told).cancelled later).1 before got after split going,
    fun parked stirs => ?_, fun away stirs => ?_⟩
  · cases accepted : q.accept item with
    | none => cases opened.symm.trans (accept_none.mp accepted)
    | some p =>
      obtain ⟨_, same⟩ := accept_eq accepted
      have depth : p.size = q.size + 1 := by
        rw [same]
        exact List.length_append
      exact ⟨p, depth ▸ .push item p accepted⟩
  · cases moves with
    | push _ _ accepted => exact ⟨(accept_eq accepted).1, rfl⟩
  · cases moves with
    | refuse _ refused => exact ⟨accept_none.mp refused, rfl⟩
  · rcases stirs with ready | fired
    · exact .inl (wakeful.parked parked ready)
    · exact .inr ⟨_, .receive _ _ (receive_of_fired fired (by rw [parked]; nofun) (by rw [parked]; nofun))⟩
  · obtain ⟨got, yields⟩ := wakeful.exists_yields away stirs
    exact ⟨got, yields, yields.offers⟩

/-- A receive that heeds its token waits on an empty channel when an item is pushed: the wake-up is due,
and with it the receive ends with that item. -/
theorem loses_nothing_waiting : ∃ events q, (empty : Channel Nat).Traffic events q ∧
    q.receiving = .parked ∧ Event.accepted events = [7] ∧ q.backlog.items = [7] ∧ 0 < q.due ∧
    q.Yields (.item 7) := by
  let waiting : Channel Nat := { empty with heeds := true, receiving := .parked }
  let pushed : Channel Nat := { waiting with backlog := ⟨[7], false⟩, due := 1 }
  have waits : (empty : Channel Nat).Traffic
      [.begun true, .received none, .received none, .received none] waiting :=
    (((rest.move (.begin true rfl)).move (.receive none _ rfl)).move (.receive none _ rfl)).move
      (.receive none waiting rfl)
  have push : waiting.Moves (.pushed 7 1) pushed := .push 7 pushed rfl
  have traffic := waits.move push
  obtain ⟨conserved, _, _, _, _, _, _, _, waits, ends⟩ := loses_nothing traffic
  have due := (waits rfl (.inl (.inl nofun))).resolve_right fun ⟨p, moves⟩ => by
    cases moves with
    | receive _ _ received => cases received
  obtain ⟨got, yields, offers⟩ := ends nofun (.inl (.inl nofun))
  cases got with
  | item item =>
    cases offers
    exact ⟨_, _, traffic, rfl, conserved.symm, rfl, due, yields⟩
  | closed => cases offers.1
  | cancelled => cases offers

end Traffic

/-! ### Nothing in between -/

/-- A push with nothing in between is its two steps. -/
theorem push_traffic {item : α} (pushed : q.push item = some p) :
    q.Traffic [.pushed item p.size, .woke] p := by
  obtain ⟨m, accepted, woken⟩ := Option.bind_eq_some_iff.mp pushed
  have depth : m.size = p.size := by
    rw [(wake_eq woken).2]
    unfold size
    rw [signal_backlog]
  exact (Traffic.rest.move (depth ▸ .push item m accepted)).move (.wake p woken)

/-- Closing with nothing in between is its two steps. -/
theorem close_traffic (q : Channel α) : q.Traffic [.closed, .woke] q.close := by
  refine (Traffic.rest.move .shut).move (.wake _ ?_)
  unfold close wake
  rw [if_neg (show q.shut.due ≠ 0 from Nat.succ_ne_zero _)]
  rfl

/-- What a poll does are steps of the receiver, the last of which brings what the poll returns. -/
theorem pollFrom_traffic (limit : Nat) (q : Channel α) : ∃ events,
    q.Traffic events (q.pollFrom limit).2 ∧ ∀ got, (q.pollFrom limit).1 = some got →
      ∃ before, events = before ++ [.received (some got)] := by
  induction limit generalizing q with
  | zero => exact ⟨[], .rest, nofun⟩
  | succ limit ih =>
    unfold pollFrom
    split
    · exact ⟨[], .rest, nofun⟩
    · rename_i received
      exact ⟨_, .single (.receive _ _ received), fun got same => ⟨[], by cases same; rfl⟩⟩
    · rename_i p received
      obtain ⟨events, traffic, last⟩ := ih p
      refine ⟨_, (Traffic.single (.receive _ _ received)).trans traffic, fun got same => ?_⟩
      obtain ⟨before, rfl⟩ := last got same
      exact ⟨_, (List.append_assoc _ _ _).symm⟩

/-- The steps that a wake-up costs which is kept: it takes the receiver round once more. -/
def lap (q : Channel α) : Nat :=
  if q.kept then 3 else 0

/-- How many steps the receiver takes at most before it has a result or waits for good. -/
def patience (q : Channel α) : Nat :=
  match q.receiving with
  | .away => 0
  | .parked => if q.givesUp then 1 else 0
  | .parking => 1 + q.lap
  | .looking => 2 + q.lap
  | .checking => 3 + q.lap
  | .woken => 4 + q.lap

theorem patience_le (q : Channel α) : q.patience ≤ 7 := by
  have lap : q.lap ≤ 3 := by
    unfold lap
    split <;> decide
  unfold patience
  split
  case h_2 => split <;> decide
  all_goals omega

/-- A step without a result uses up patience. -/
theorem patience_lt (received : q.receive = some (none, p)) : p.patience < q.patience := by
  cases receives_of_receive received with
  | park parking waits =>
    unfold Channel.park
    have steadfast : ∀ p : Channel α, p.heeds = q.heeds → p.cancelled = q.cancelled →
        p.givesUp = false := fun p heeds cancelled => by
      unfold givesUp at waits ⊢
      rw [heeds, cancelled]
      exact waits
    split <;> rename_i kept
    · simp only [patience, lap, parking, kept, Bool.false_eq_true, if_false, if_true]
      decide
    · simp only [patience, lap, parking, kept, steadfast, Bool.false_eq_true, if_false]
      decide
  | empty stage | check stage | rouse stage =>
    simp only [patience, lap, stage]
    omega

/-- Without patience there is no step. -/
theorem receive_of_patience (out : q.patience = 0) : q.receive = none := by
  unfold patience at out
  unfold receive
  split at out <;> rename_i stage
  · rw [stage]
  · rw [stage]
    split at out
    · cases out
    · rename_i waits
      exact if_neg waits
  all_goals omega

/-- **A poll goes on until it gets something or has to wait.** -/
theorem poll_settles (waits : q.poll.1 = none) : q.poll.2.receive = none := by
  suffices settles : ∀ limit (q : Channel α), q.patience ≤ limit → (q.pollFrom limit).1 = none →
      (q.pollFrom limit).2.receive = none from settles 7 q q.patience_le waits
  intro limit
  induction limit with
  | zero => exact fun q bound _ => receive_of_patience (Nat.le_zero.mp bound)
  | succ limit ih =>
    intro q bound unmet
    unfold pollFrom at unmet ⊢
    split at unmet
    · assumption
    · cases unmet
    · rename_i received
      exact ih _ (Nat.le_of_lt_succ (Nat.lt_of_lt_of_le (patience_lt received) bound)) unmet

end Channel

end ShellSession
