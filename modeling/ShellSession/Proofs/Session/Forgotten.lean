/-
**What a refusal leaves behind.**

A call alone has left no trace so far, or is not refused any more, however many steps it takes. Where
it is refused, the session is what the listener has made of it meanwhile, but for the number of the
call and the refusal itself; and what is done to the session later comes to the same as if the call
had not been made.

* `Session.Reached`: what is known of a session that was created and is held on to;
* `Session.Reached.trodden_after`: a call alone, along every move;
* `Session.Forgets`: a session that is as if a call had not been made;
* `Session.refusal_leaves_no_trace`: **a refused call leaves no trace**;
* `Session.bereft`: a pause to whose debugger nobody gets any more.
-/

import ShellSession.Proofs.Session.Exclusion
import ShellSession.Proofs.Session.Refusal

namespace ShellSession

variable {heard : Bool} {error : SessionFailure}

/-! ### Who moves beside a call alone -/

section Alone

variable {v : Session} {call : Call} {now : Standing}

/-- A call that has left no trace waits for nobody. -/
theorem Call.Traceless.unawaited (traceless : call.Traceless v now) : call.awaits = false := by
  cases call with
  | start guarded =>
    cases guarded with
    | entering => rfl
    | inside stage => cases stage <;> first | rfl | exact traceless.elim
  | nested pipeline shape stage =>
    cases stage with
    | awaiting ticket => cases traceless.1
    | _ => rfl
  | dispose guarded => exact traceless.elim
  | _ => rfl

/-- A call that has left no trace does not dispose of the session. -/
theorem Call.Traceless.undisposing (traceless : call.Traceless v now) : call.disposing? = none := by
  cases call with
  | start guarded =>
    cases guarded with
    | entering => rfl
    | inside stage => cases stage <;> first | rfl | exact traceless.elim
  | dispose guarded => exact traceless.elim
  | _ => rfl

end Alone

namespace Session

variable {s t u v w : Session} {call : Call} {move : Move} {order : Order} {j k : Journal}

/-- Beside a call that has left no trace, only the call and the listener move. -/
theorem Visits.moves (visits : v.Visits call s) (orderly : s.Orderly)
    (allowed : Environment.alone (v.lastCall + 1) heard s move) (moved : s.after move = some t) :
    move = .act (.call (v.lastCall + 1)) ∨ heard = true ∧ move = .act .listener := by
  obtain ⟨now, rfl, traceless⟩ := visits
  have mine := Visits.mem v call now
  rcases allowed with own | rfl | listener | ⟨other, actor, member, awaits, _⟩
  · exact .inl own
  · obtain ⟨other, _, member, expires, _⟩ := expires_of_expire moved
    obtain rfl : other = call := (Prod.mk.inj (orderly.eq_of_number member mine rfl)).2
    obtain ⟨_, _, disposing, _⟩ := expires.disposes
    cases disposing.symm.trans traceless.undisposing
  · exact .inr listener
  · obtain rfl : other = call := (Prod.mk.inj (orderly.eq_of_number member mine rfl)).2
    cases awaits.symm.trans traceless.unawaited

/-- Behind a refusal, only the listener moves. -/
theorem Numbered.moves (numbered : v.Numbered)
    (allowed : Environment.alone (v.lastCall + 1) heard (v.refused error) move)
    (moved : (v.refused error).after move = some t) : heard = true ∧ move = .act .listener := by
  have gone (call : Call) : (v.lastCall + 1, call) ∉ (v.refused error).calls := fun member =>
    Nat.not_succ_le_self v.lastCall (numbered.calls _ member)
  rcases allowed with rfl | rfl | listener | ⟨call, actor, member, _⟩
  · obtain ⟨call, found, _⟩ := Option.bind_eq_some_iff.mp moved
    exact absurd (mem_of_lookup found) (gone call)
  · obtain ⟨call, _, member, _⟩ := expires_of_expire moved
    exact absurd member (gone call)
  · exact listener
  · exact absurd member (gone call)

/-! ### What is known of every session -/

/-- What is known of a session that was created and is held on to. -/
structure Reached (s : Session) (j : Journal) : Prop where
  kept : s.Kept j
  founded : s.Founded
  atGate : s.AtGate
  asks : ∃ answers, s.desk.Asks s.fallback answers

theorem Reached.after (reached : s.Reached j) (owned : move ≠ .drop) (moved : s.after move = some t) :
    t.Reached (j.note s move t) where
  kept := reached.kept.after owned moved
  founded := founded_after reached.founded reached.kept moved
  atGate := atGate_after reached.atGate reached.kept.tidy.orderly moved
  asks :=
    let ⟨_, asks⟩ := reached.asks
    ⟨_, question_after asks reached.kept reached.founded moved⟩

theorem reached_of_create {settings : Settings} {hosted : HostedEngine}
    (created : create settings hosted = .ok s) : s.Reached .empty := by
  have kept := kept_of_create created
  obtain ⟨fallback, _, rfl⟩ := fresh_of_create created
  exact ⟨kept, founded_fresh settings fallback hosted, atGate_fresh settings fallback hosted,
    [], .unasked rfl⟩

theorem Reached.numbered (reached : s.Reached j) : s.Numbered :=
  numbered_of_tidy reached.kept.tidy reached.atGate

theorem Reached.course {env : Environment} (reached : s.Reached j) (course : Course env s j k t)
    (owned : env.Owned) : t.Reached k := by
  refine course.invariant (fun t k => t.Reached k) ?_ reached
  rintro t u k move reached allowed moved
  refine reached.after ?_ moved
  rintro rfl
  exact owned t allowed

/-! ### A call alone -/

/-- A call alone, on its way: the session without it is what the listener has made of it meanwhile. -/
def Trodden (t : Session) (heard : Bool) (order : Order) (s : Session) : Prop :=
  ∃ v, t.Hears heard v ∧ v.Treads order s

theorem trodden_begin (orderly : t.Orderly) (order : Order) :
    t.Trodden heard order (t.begin order.call).2 := by
  refine ⟨t, .rest heard t, ?_⟩
  by_cases disposes : order = .dispose
  · subst disposes
    exact .commits (follows_begin orderly .dispose ⟨rfl, trivial⟩)
  · exact .visits order.order_call (t.visits_begin disposes)

/-- **A call alone has left no trace so far, or is not refused any more**: every move keeps it so. -/
theorem Reached.trodden_after (reached : s.Reached j) (fresh : t.Numbered)
    (trodden : t.Trodden heard order s)
    (allowed : Environment.alone (t.lastCall + 1) heard s move) (moved : s.after move = some u) :
    t.Trodden heard order u := by
  obtain ⟨v, hears, treads⟩ := trodden
  have numbered : v.Numbered := hears.invariant Numbered (fun numbered => numbered.listen) fresh
  rw [← hears.same_calls.1] at allowed
  cases treads with
  | @visits call same visits =>
    subst same
    rcases visits.moves reached.kept.tidy.orderly allowed moved with rfl | ⟨rfl, rfl⟩
    · obtain ⟨now, rfl, traceless⟩ := visits
      have taken := reached.kept.tidy.orderly.taken (Visits.mem v call now) moved
      exact ⟨v, hears, Visits.advance numbered reached.kept reached.founded reached.atGate
        ⟨now, rfl, traceless⟩ taken⟩
    · obtain ⟨w, further, visits⟩ := visits.listen moved
      exact ⟨w, hears.listen further, .visits rfl visits⟩
  | commits commits => exact ⟨v, hears, .commits (commits_after commits moved)⟩
  | inaugurates starts inaugurates =>
    exact ⟨v, hears, .inaugurates starts
      (inaugurates_after inaugurates reached.kept reached.founded moved)⟩
  | refused error same =>
    subst same
    obtain ⟨rfl, rfl⟩ := numbered.moves allowed moved
    obtain ⟨w, further, same⟩ := listen_refused moved
    exact ⟨w, hears.listen further, .refused error same⟩

/-- A start that has settled what it returns has not been made at the wrong time. -/
theorem Reached.not_usage (reached : s.Reached j) (decides : s.Decides (.error error)) :
    error.isUsage = false := by
  obtain ⟨result, found, verdict⟩ := decides
  obtain ⟨answers, asks⟩ := reached.asks
  cases reached.kept.settles asks found with
  | exhausted count bound =>
    cases verdict
    rfl
  | answered count last free more =>
    rw [Starting.verdict] at verdict
    unfold Dialect.ofVersion at verdict
    split at verdict
    · cases verdict
    · split at verdict
      · cases verdict
      · split at verdict
        · cases verdict
        · cases verdict
          rfl

/-- A call alone that is refused has left nothing but its number and the refusal. -/
theorem Treads.eq_refused (treads : v.Treads order s) (reached : s.Reached j) (numbered : v.Numbered)
    (replied : s.reply? (v.lastCall + 1) = some (.error error))
    (refuses : order.isRefusedBy error = true) : s = v.refused error := by
  have given := mem_of_lookup replied
  cases treads with
  | visits _ visits =>
    obtain ⟨now, rfl, _⟩ := visits
    exact absurd rfl ((reached.kept.tidy.orderly.returned _ given).2 _ (Visits.mem v _ now))
  | commits commits => cases refuses.symm.trans (commits.reply replied error rfl)
  | inaugurates starts inaugurates =>
    subst starts
    obtain ⟨outcome, same, settled⟩ := inaugurates.reply replied
    cases outcome with
    | ok release => cases same
    | error other =>
      cases same
      have spared : (Order.start).isRefusedBy error = false := reached.not_usage settled.1
      cases refuses.symm.trans spared
  | refused other same =>
    subst same
    rcases List.mem_append.mp given with before | last
    · exact absurd (numbered.replies _ before) (Nat.not_succ_le_self v.lastCall)
    · cases List.mem_singleton.mp last
      rfl

/-! ### As if it had not been made -/

/-- The refusal of the next call of a session. -/
def refusal (v : Session) (error : SessionFailure) : Refusal :=
  ⟨v.lastCall, v.replies.length, error⟩

/-- The session that has refused a call is the one that it would be if the call had been refused. -/
theorem refused_eq_recalling (numbered : v.Numbered) (error : SessionFailure) :
    v.refused error = v.recalling (v.refusal error) := by
  have same (number : Nat) (below : number ≤ v.lastCall) :
      (v.refusal error).number number = number := Refusal.number_of_le below
  have lock (line : Lock) (below : ∀ number ∈ line, number ≤ v.lastCall) :
      line.map (v.refusal error).number = line :=
    (List.map_congr_left fun number member => same number (below number member)).trans
      (List.map_id _)
  have entries {α : Type} (list : List (Nat × α)) (below : ∀ entry ∈ list, entry.1 ≤ v.lastCall) :
      list.map (fun entry => ((v.refusal error).number entry.1, entry.2)) = list := by
    refine (List.map_congr_left fun entry member => ?_).trans (List.map_id _)
    rw [same entry.1 (below entry member)]
    rfl
  have replies : (v.refusal error).replies v.replies =
      v.replies ++ [(v.lastCall + 1, .error error)] := by
    have whole : v.replies.take (v.refusal error).given = v.replies :=
      List.take_of_length_le (Nat.le_refl _)
    have rest : v.replies.drop (v.refusal error).given = [] :=
      List.drop_of_length_le (Nat.le_refl _)
    unfold Refusal.replies
    rw [whole, rest, entries v.replies numbered.replies]
    rfl
  unfold recalling refused
  rw [lock v.lifecycle numbered.lifecycle, lock v.gate numbered.gate,
    entries v.calls numbered.calls, replies]

/-- A session that is as if a call had not been made that was refused with a failure, compared with
the session without the call. -/
structure Forgets (v : Session) (error : SessionFailure) (u : Session) : Prop where
  /-- Nothing is left but the number of the call and the refusal. -/
  same : u = v.refused error
  /-- Whatever is done later comes to the same: later calls are numbered behind the refused one. -/
  plays : ∀ moves : List Move,
    u.play (moves.map (v.refusal error).move) = (v.play moves).map (·.recalling (v.refusal error))
  /-- All the while every call returns the same. -/
  replies : ∀ (w : Session) (caller : Nat),
    (w.recalling (v.refusal error)).reply? ((v.refusal error).number caller) = w.reply? caller

theorem forgets_refused (numbered : v.Numbered) (error : SessionFailure) :
    v.Forgets error (v.refused error) where
  same := rfl
  plays := fun moves => by
    rw [refused_eq_recalling numbered]
    exact Refusal.play_recalling moves (Nat.le_refl _) (Nat.le_refl _)
  replies := fun w caller => Refusal.reply?_recalling w caller

theorem Forgets.standing (forgets : v.Forgets error u) : u.standing = v.standing := by
  rw [forgets.same]
  rfl

/-- **A refused call leaves no trace.** Take any session that was created and is held on to, and call
it while no other call and no request goes on. If the call returns that it was made at the wrong time,
or is a resume that returns any failure but that the engine is not stopped any more, then the session
is what it was, but for the number of the call and the refusal itself; where the listener has read on
meanwhile, it is what the listener alone would have made of it. A pause that is left has no verb noted,
unless another call had noted it before. And whatever is done to the session later comes to the same as
if the call had not been made. -/
theorem refusal_leaves_no_trace {settings : Settings} {hosted : HostedEngine}
    (created : create settings hosted = .ok s) {before : Environment}
    (course : Course before s .empty j t) (owned : before.Owned) (order : Order) (heard : Bool)
    (alone : Course (.alone (t.lastCall + 1) heard) (t.begin order.call).2
      (j.note t (.order order) (t.begin order.call).2) k u)
    (replied : u.reply? (t.lastCall + 1) = some (.error error))
    (refuses : order.isRefusedBy error = true) :
    ∃ v, t.Hears heard v ∧ (heard = false → v = t) ∧ v.Forgets error u ∧
      ∀ stop verb, u.standing = .paused stop (some verb) →
        ∃ entry ∈ t.calls, entry.2.standpoint.isNoted = true := by
  have before := (reached_of_create created).course course owned
  have begun : (t.begin order.call).2.Reached (j.note t (.order order) (t.begin order.call).2) :=
    before.after (fun other => by cases other) rfl
  have all : u.Reached k ∧ t.Trodden heard order u := by
    refine alone.invariant (fun u k => u.Reached k ∧ t.Trodden heard order u) ?_
      ⟨begun, trodden_begin before.kept.tidy.orderly order⟩
    rintro u w k move ⟨reached, trodden⟩ allowed moved
    refine ⟨reached.after ?_ moved, reached.trodden_after before.numbered trodden allowed moved⟩
    rintro rfl
    exact Environment.alone_owned _ _ u allowed
  obtain ⟨reached, v, hears, treads⟩ := all
  have numbered : v.Numbered :=
    hears.invariant Numbered (fun numbered => numbered.listen) before.numbered
  obtain ⟨lastCall, calls⟩ := hears.same_calls
  rw [← lastCall] at replied
  obtain rfl := treads.eq_refused reached numbered replied refuses
  refine ⟨v, hears, ?_, forgets_refused numbered error, fun stop verb paused => ?_⟩
  · rintro rfl
    exact hears.eq_of_unheard
  · obtain ⟨entry, member, noted⟩ := reached.atGate.noted stop verb paused
    exact ⟨entry, calls ▸ member, noted⟩

/-! ### A debugger that is gone -/

/-- A session whose script waits in the debugger, behind which the host has taken the debugger away. -/
def bereft : Session :=
  { waiting with hosted := ⟨waiting.hosted.engine, false, 0, false, none⟩ }

/-- Whether a call has returned that there is no debugger. -/
def missesDebugger (s : Session) (caller : Nat) : Bool :=
  match s.reply? caller with
  | some (.error .debuggerUnavailable) => true
  | _ => false

theorem reply?_of_misses {caller : Nat} (misses : s.missesDebugger caller = true) :
    s.reply? caller = some (.error .debuggerUnavailable) := by
  unfold missesDebugger at misses
  split at misses
  · assumption
  · cases misses

/-- The steps of a resume alone. -/
def Move.resuming (caller : Nat) : List Move :=
  List.replicate 9 (.act (.call caller))

/-- A resume that does not get to the debugger lifts the pause and puts it back, and it is as if it had
not been asked for. -/
theorem refusal_leaves_no_trace_bereft : ∃ j k u,
    Course (.alone (bereft.lastCall + 1) false) (bereft.begin (Order.resume .resume).call).2 j k u ∧
      u.reply? (bereft.lastCall + 1) = some (.error .debuggerUnavailable) ∧
      bereft.Forgets .debuggerUnavailable u ∧ u.standing = .paused ⟨.waitDebugger, 1⟩ none := by
  let owned : Environment := fun _ move => move ≠ .drop
  obtain ⟨j, course⟩ : ∃ j, Course owned plain .empty j bereft := by
    obtain ⟨i, course⟩ := plain.exists_course_carryOut .empty
      [.start, .submit (.script "Wait-Debugger")]
    have wider : Course owned plain .empty i waiting := by
      refine course.weaken ?_
      rintro t move (⟨actor, rfl⟩ | ⟨order, _, rfl⟩) other
      · cases other
      · cases other
    exact ⟨_, wider.move (.host false 0 false none) (fun other => by cases other) rfl⟩
  have refused : ((bereft.begin (Order.resume .resume).call).2.play
      (Move.resuming (bereft.lastCall + 1))).any (·.missesDebugger (bereft.lastCall + 1)) = true := by
    decide +kernel
  obtain ⟨u, played, misses⟩ := (Option.any_eq_true _ _).mp refused
  have replied := reply?_of_misses misses
  obtain ⟨deeds, chronicle⟩ : ∃ deeds, Chronicle (.alone (bereft.lastCall + 1) false)
      (bereft.begin (Order.resume .resume).call).2 deeds u :=
    exists_chronicle_play (fun move member t => .inl (List.eq_of_mem_replicate member)) played
  obtain ⟨k, alone⟩ := chronicle.course (j.note bereft (.order (.resume .resume)) _)
  obtain ⟨v, _, unheard, forgets, _⟩ := refusal_leaves_no_trace create_plain course
    (fun _ other => other rfl) (.resume .resume) false alone replied rfl
  obtain rfl := unheard rfl
  have paused : bereft.standing = .paused ⟨.waitDebugger, 1⟩ none := by decide +kernel
  exact ⟨_, k, u, alone, replied, forgets, forgets.standing.trans paused⟩

end Session

end ShellSession
