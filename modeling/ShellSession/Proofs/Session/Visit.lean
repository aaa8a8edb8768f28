/-
**A call with nobody else about.**

A call begins, takes its steps while no other call and no request goes on, and is refused. On its way
it has stood in line for locks, and a resume has lifted the pause; all of it is put back, and what is
left of the session is what it was before, or what the listener has made of it meanwhile.

* `Environment.alone`: one call takes its steps, the parties theirs only while it waits for them;
* `Session.AtGate`: what is known of the gate in every session;
* `Session.Visits`: a call that has left no trace so far, beside the session that it would be without;
* `Session.Visits.listen`: **the listener does the same with the call as without it**.
-/

import ShellSession.Proofs.Session.Arrival
import ShellSession.Proofs.Session.Renumbering

namespace ShellSession

/-! ### One call alone -/

/-- A call that waits for the parties of the session. -/
def Call.awaits : Call → Bool
  | start (.inside (.awaiting _)) => true
  | start (.inside (.failing _ .awaitingDriver)) => true
  | start (.inside (.failing _ .awaitingListener)) => true
  | nested _ _ (.awaiting _) => true
  | dispose (.inside .awaitingDriver) => true
  | dispose (.inside .awaitingListener) => true
  | _ => false

/-- Whether an actor is a party of the session, and not one of its callers. -/
def Actor.isParty : Actor → Bool
  | call _ => false
  | timeout _ => false
  | _ => true

/-- An environment in which one call takes its steps, and no other call or request goes on meanwhile:
the parties take theirs only while the call waits for them. The listener may read on, if it is
heard. -/
def Environment.alone (caller : Nat) (heard : Bool) : Environment := fun s move =>
  move = .act (.call caller) ∨ move = .act (.timeout caller) ∨
    (heard = true ∧ move = .act .listener) ∨
    ∃ call actor, (caller, call) ∈ s.calls ∧ call.awaits = true ∧ actor.isParty = true ∧
      move = .act actor

theorem Environment.alone_owned (caller : Nat) (heard : Bool) : (alone caller heard).Owned := by
  rintro s (other | other | ⟨_, other⟩ | ⟨_, _, _, _, _, other⟩) <;> cases other

/-! ### The gate -/

namespace Session

variable {s t u v w : Session} {caller : Nat} {call later : Call} {move : Move}

/-- A verb that is noted, where neither the pause nor the calls have changed. -/
theorem Noted.frame (noted : s.Noted) (standing : t.standing = s.standing)
    (calls : ∀ entry ∈ s.calls, entry.2.standpoint.isNoted = true → entry ∈ t.calls) : t.Noted := by
  intro stop verb paused
  obtain ⟨entry, member, mark⟩ := noted stop verb (standing.symm.trans paused)
  exact ⟨entry, calls entry member mark, mark⟩

/-- A call that waits no longer has not been about to clear the pause. -/
theorem Noted.expire (noted : s.Noted) (orderly : s.Orderly) (mine : (caller, call) ∈ s.calls)
    (expires : call.Expires later) : (s.proceed caller later).Noted := by
  refine noted.frame rfl fun entry member mark => mem_proceed_of_ne member fun number => ?_
  rw [orderly.eq_of_number member mine number, expires.behind.1] at mark
  cases mark

/-- **A verb is noted only by a call that is about to clear the pause.** -/
theorem noted_after (noted : s.Noted) (orderly : s.Orderly) (moved : s.after move = some t) :
    t.Noted := by
  cases moves_of_after moved with
  | call caller moved =>
    obtain ⟨call, next, found, advances, leads⟩ := advance_leads moved
    exact noted.advance orderly (mem_of_lookup found) advances leads
  | timeout caller mine expires => exact noted.expire orderly mine expires
  | order order => exact noted.frame rfl fun entry member _ => List.mem_append_left _ member
  | listener moved same =>
    intro stop verb paused
    rw [same]
    exact noted stop verb (noted_listen moved paused)
  | driver _ same | aside _ same =>
    exact noted.frame (by rw [same]) fun entry member _ => by rw [same]; exact member

/-- In line for the gate are calls that have begun, and a verb is noted only by the one that is about
to clear the pause. -/
structure AtGate (s : Session) : Prop where
  numbered : ∀ number ∈ s.gate, number ≤ s.lastCall
  noted : s.Noted

theorem atGate_after (atGate : s.AtGate) (orderly : s.Orderly) (moved : s.after move = some t) :
    t.AtGate := by
  refine ⟨?_, noted_after atGate.noted orderly moved⟩
  cases moves_of_after moved with
  | call caller moved =>
    obtain ⟨call, next, found, advances⟩ := advance_advances moved
    have gate := advances.gate
    rw [advances.lastCall]
    intro number member
    generalize t.gate = line at gate member
    generalize next.any Call.isGated = goes at gate
    cases gate with
    | stay after held => exact atGate.numbered number member
    | enter =>
      rcases List.mem_append.mp member with before | now
      · exact atGate.numbered number before
      · rw [List.mem_singleton.mp now]
        exact orderly.numbered _ (mem_of_lookup found)
    | leave => exact atGate.numbered number (List.mem_filter.mp member).1
  | timeout _ _ _ => exact atGate.numbered
  | order order => exact fun number member => Nat.le_succ_of_le (atGate.numbered number member)
  | driver _ same | listener _ same | aside _ same =>
    rw [same]
    exact atGate.numbered

theorem atGate_fresh (settings : Settings) (fallback : Release) (hosted : HostedEngine) :
    (fresh settings fallback hosted).AtGate :=
  { numbered := fun _ other => by cases other
    noted := fun _ _ other => by cases other }

/-- All numbers in the books are those of calls that have begun. -/
structure Numbered (s : Session) : Prop where
  calls : ∀ entry ∈ s.calls, entry.1 ≤ s.lastCall
  replies : ∀ entry ∈ s.replies, entry.1 ≤ s.lastCall
  lifecycle : ∀ number ∈ s.lifecycle, number ≤ s.lastCall
  gate : ∀ number ∈ s.gate, number ≤ s.lastCall

theorem numbered_of_tidy (tidy : s.Tidy) (atGate : s.AtGate) : s.Numbered where
  calls := tidy.orderly.numbered
  replies := fun entry member => (tidy.orderly.returned entry member).1
  lifecycle := fun number waits =>
    let ⟨_, member, _⟩ := tidy.lined.waiting number waits
    tidy.orderly.numbered _ member
  gate := atGate.numbered

/-! ### Other books -/

/-- The session with other books, and with another pause. -/
def rebooked (s : Session) (standing : Standing) (lifecycle gate : Lock) (lastCall : Nat)
    (calls : List (Nat × Call)) (replies : List (Nat × Except SessionFailure Reply)) : Session :=
  { s with
    standing := standing
    lifecycle := lifecycle
    gate := gate
    lastCall := lastCall
    calls := calls
    replies := replies }

/-- **The listener does the same with other books**, and records the same stops. -/
theorem listen_rebooked {standing : Standing} {lifecycle gate : Lock} {lastCall : Nat}
    {calls : List (Nat × Call)} {replies : List (Nat × Except SessionFailure Reply)}
    (moved : (s.rebooked standing lifecycle gate lastCall calls replies).listen = some t) :
    ∃ u, s.listen = some u ∧
      (u.standing = s.standing ∧ t = u.rebooked standing lifecycle gate lastCall calls replies ∨
        ∃ stop, u.standing = .paused stop none ∧
          t = u.rebooked (.paused stop none) lifecycle gate lastCall calls replies) := by
  have listening : (s.rebooked standing lifecycle gate lastCall calls replies).listening =
    s.listening := rfl
  have shutdown : (s.rebooked standing lifecycle gate lastCall calls replies).shutdown =
    s.shutdown := rfl
  have hosted : (s.rebooked standing lifecycle gate lastCall calls replies).hosted = s.hosted := rfl
  rw [listen, listening] at moved
  rw [listen]
  cases reads : s.listening with
  | unborn =>
    rw [reads] at moved
    cases moved
  | reading read =>
    rw [reads] at moved
    simp only [shutdown, hosted] at moved ⊢
    split at moved
    · rename_i fired
      cases moved
      rw [if_pos fired]
      exact ⟨_, rfl, .inl ⟨rfl, rfl⟩⟩
    · rename_i calm
      rw [if_neg calm]
      split at moved
      · rename_i lag
        cases moved
        rw [if_pos lag]
        exact ⟨_, rfl, .inl ⟨rfl, rfl⟩⟩
      · rename_i near
        rw [if_neg near]
        obtain ⟨notice, found, rfl⟩ := Option.map_eq_some_iff.mp moved
        rw [found]
        refine ⟨_, rfl, ?_⟩
        cases notice with
        | stopped stop => exact .inr ⟨stop, rfl, rfl⟩
        | _ => exact .inl ⟨rfl, rfl⟩
  | publishing read stop =>
    rw [reads] at moved
    cases moved
    exact ⟨_, rfl, .inl ⟨rfl, rfl⟩⟩
  | ended =>
    rw [reads] at moved
    cases moved

end Session

/-! ### Calls that have left no trace -/

/-- A resume that stands in line for the gate, or holds it. -/
def Resuming.isAtGate : Resuming → Bool
  | noting => true
  | clearing => true
  | applying _ => true
  | restoring _ _ => true
  | leaving _ => true
  | _ => false

/-- A nested execution that stands in line for the gate, or holds it. -/
def Nesting.isAtGate : Nesting → Bool
  | relooking _ => true
  | posting _ => true
  | awaiting _ => true
  | leaving _ => true
  | _ => false

/-- A call that stands in line for the gate, or holds it, in its own name. -/
def Call.isAtGate : Call → Bool
  | nested _ _ stage => stage.isAtGate
  | resume _ stage => stage.isAtGate
  | _ => false

/-- A resume that has left no trace, or will put everything back: what the pause is, and what it would
be without the resume. -/
def Resuming.Traceless (without now : Standing) : Resuming → Prop
  | clearing => ∃ stop, without = .paused stop none ∧
      (now = without ∨ ∃ verb, now = .paused stop (some verb))
  | applying stop => without.isPaused = true ∧
      (now = without ∨ now = .active ∧ without = .paused stop none)
  | restoring stop error => error.saysNotStopped = false ∧ without.isPaused = true ∧
      (now = without ∨ now = .active ∧ without = .paused stop none)
  | leaving (.error error) => error.saysNotStopped = false ∧ now = without
  | finished (.error error) => error.saysNotStopped = false ∧ now = without
  | leaving (.ok _) => False
  | finished (.ok _) => False
  | _ => now = without

/-- A nested execution that has left no trace. -/
def Nesting.isTraceless : Nesting → Bool
  | awaiting _ => false
  | leaving (.ok _) => false
  | finished (.ok _) => false
  | _ => true

/-- A call that has left no trace, or will put everything back, beside the session that it would be
without the call. -/
def Call.Traceless (s : Session) (now : Standing) : Call → Prop
  | resume _ stage => stage.Traceless s.standing now
  | nested _ _ stage => stage.isTraceless = true ∧ now = s.standing
  | submit _ .pushing => s.phase.accepts = true ∧ now = s.standing
  | submit _ (.finished (.ok _)) => False
  | submit _ _ => now = s.standing
  | start .entering => now = s.standing
  | start (.inside .checking) => now = s.standing
  | start (.inside (.finished (.error _))) => now = s.standing
  | abort .entering => now = s.standing
  | abort (.inside .checking) => now = s.standing
  | abort (.inside (.finished (.error _))) => now = s.standing
  | pause => now = s.standing
  | _ => False

namespace Session

variable {s t u v w : Session} {caller : Nat} {call later : Call} {move : Move} {now : Standing}

/-- The session with one more call in progress. -/
def visited (s : Session) (call : Call) (now : Standing) : Session :=
  s.rebooked now (if call.isInLine then s.lifecycle ++ [s.lastCall + 1] else s.lifecycle)
    (if call.isAtGate then s.gate ++ [s.lastCall + 1] else s.gate) (s.lastCall + 1)
    (s.calls ++ [(s.lastCall + 1, call)]) s.replies

/-- A call that has left no trace, beside the session that it would be without the call. -/
def Visits (v : Session) (call : Call) (s : Session) : Prop :=
  ∃ now, s = v.visited call now ∧ call.Traceless v now

/-- The session in which one more call has been refused. -/
def refused (s : Session) (error : SessionFailure) : Session :=
  { s with lastCall := s.lastCall + 1, replies := s.replies ++ [(s.lastCall + 1, .error error)] }

/-- A call begins without a trace, a dispose apart. -/
theorem visits_begin (s : Session) {order : Order} (stays : order ≠ .dispose) :
    s.Visits order.call (s.begin order.call).2 := by
  refine ⟨s.standing, ?_, ?_⟩
  · cases order <;> rfl
  · cases order with
    | dispose => exact absurd rfl stays
    | nested pipeline shape => exact ⟨rfl, rfl⟩
    | _ => rfl

/-! ### Books with a call -/

/-- A lock without a caller that has not been in line for it. -/
theorem without_of_new {lock : Lock} {last : Nat} (numbered : ∀ number ∈ lock, number ≤ last) :
    without lock (last + 1) = lock := by
  refine List.filter_eq_self.mpr fun number member => decide_eq_true fun same => ?_
  have below := numbered number member
  omega

/-- A lock without a caller that has been the last in line for it. -/
theorem without_of_last {lock : Lock} {last : Nat} (numbered : ∀ number ∈ lock, number ≤ last) :
    without (lock ++ [last + 1]) (last + 1) = lock := by
  have rest := without_of_new numbered
  unfold without at rest ⊢
  rw [List.filter_append, rest, List.filter_cons_of_neg (by simp), List.filter_nil, List.append_nil]

/-- The next stage of the last call. -/
theorem proceed_rebooked {lifecycle gate : Lock}
    {replies : List (Nat × Except SessionFailure Reply)} (numbered : v.Numbered) :
    (v.rebooked now lifecycle gate (v.lastCall + 1) (v.calls ++ [(v.lastCall + 1, call)])
      replies).proceed (v.lastCall + 1) later =
      v.rebooked now lifecycle gate (v.lastCall + 1) (v.calls ++ [(v.lastCall + 1, later)])
        replies := by
  have rest : (v.calls.map fun entry =>
      if entry.1 = v.lastCall + 1 then (v.lastCall + 1, later) else entry) = v.calls := by
    refine (List.map_congr_left fun entry member => ?_).trans (List.map_id _)
    have below := numbered.calls entry member
    exact if_neg (by omega)
  show v.rebooked now lifecycle gate (v.lastCall + 1)
    ((v.calls ++ [(v.lastCall + 1, call)]).map _) replies = _
  rw [List.map_append, rest, List.map_singleton, if_pos rfl]

/-- The end of the last call, which was refused. -/
theorem giveBack_visited {error : SessionFailure} (numbered : v.Numbered)
    (through : call.isAtGate = false) :
    (v.visited call v.standing).giveBack (v.lastCall + 1) (.error error) = v.refused error := by
  have calls : ((v.calls ++ [(v.lastCall + 1, call)]).filter fun entry =>
      entry.1 ≠ v.lastCall + 1) = v.calls := by
    have rest : (v.calls.filter fun entry => entry.1 ≠ v.lastCall + 1) = v.calls := by
      refine List.filter_eq_self.mpr fun entry member => decide_eq_true fun same => ?_
      have below := numbered.calls entry member
      omega
    rw [List.filter_append, rest, List.filter_cons_of_neg (by simp), List.filter_nil,
      List.append_nil]
  have lifecycle : without (if call.isInLine then v.lifecycle ++ [v.lastCall + 1]
      else v.lifecycle) (v.lastCall + 1) = v.lifecycle := by
    split
    · exact without_of_last numbered.lifecycle
    · exact without_of_new numbered.lifecycle
  unfold visited rebooked giveBack refused
  rw [through]
  simp only [calls, lifecycle]
  rfl

/-- A step by which the call takes its place in the lines, or gives it up. -/
theorem Visits.turn (numbered : v.Numbered) (later : Call) (now : Standing)
    (books : u = v.rebooked now
      (if later.isInLine then v.lifecycle ++ [v.lastCall + 1] else v.lifecycle)
      (if later.isAtGate then v.gate ++ [v.lastCall + 1] else v.gate) (v.lastCall + 1)
      (v.calls ++ [(v.lastCall + 1, call)]) v.replies) (traceless : later.Traceless v now) :
    v.Visits later (u.proceed (v.lastCall + 1) later) := by
  refine ⟨now, ?_, traceless⟩
  rw [books, proceed_rebooked numbered]
  rfl

/-- A look that changes nothing. -/
theorem Visits.stay (numbered : v.Numbered) (later : Call) (traceless : later.Traceless v now)
    (inLine : later.isInLine = call.isInLine) (atGate : later.isAtGate = call.isAtGate) :
    v.Visits later ((v.visited call now).proceed (v.lastCall + 1) later) := by
  have books : v.visited call now = v.rebooked now
      (if later.isInLine then v.lifecycle ++ [v.lastCall + 1] else v.lifecycle)
      (if later.isAtGate then v.gate ++ [v.lastCall + 1] else v.gate) (v.lastCall + 1)
      (v.calls ++ [(v.lastCall + 1, call)]) v.replies := by
    rw [inLine, atGate]
    rfl
  exact .turn numbered later now books traceless

/-- The lock that is left by the last in line. -/
theorem leaveGate_visited (numbered : v.Numbered) (there : call.isAtGate = true) :
    (v.visited call now).leaveGate (v.lastCall + 1) = v.rebooked now
      (if call.isInLine then v.lifecycle ++ [v.lastCall + 1] else v.lifecycle) v.gate
      (v.lastCall + 1) (v.calls ++ [(v.lastCall + 1, call)]) v.replies := by
  have gate : without (v.gate ++ [v.lastCall + 1]) (v.lastCall + 1) = v.gate :=
    without_of_last numbered.gate
  show v.rebooked now _ (without (if call.isAtGate then v.gate ++ [v.lastCall + 1] else v.gate)
    (v.lastCall + 1)) _ _ _ = _
  rw [if_pos there, gate]
  rfl

/-- The listener leaves the books alone. -/
theorem Numbered.listen (numbered : v.Numbered) (moved : v.listen = some w) : w.Numbered := by
  have changes := listen_changes moved
  rw [changes]
  exact ⟨numbered.calls, numbered.replies, numbered.lifecycle, numbered.gate⟩

end Session

/-! ### The listener meanwhile -/

section Heard

variable {v w : Session} {call : Call} {now : Standing} {stop : Stop}

/-- A resume whose pause has just been recorded has left no trace in it. -/
theorem Resuming.Traceless.recorded {stage : Resuming} {without : Standing}
    (traceless : stage.Traceless without now) :
    stage.Traceless (.paused stop none) (.paused stop none) := by
  cases stage with
  | clearing => exact ⟨stop, rfl, .inl rfl⟩
  | applying other => exact ⟨rfl, .inl rfl⟩
  | restoring other error => exact ⟨traceless.1, rfl, .inl rfl⟩
  | leaving result =>
    cases result with
    | ok done => exact traceless
    | error error => exact ⟨traceless.1, rfl⟩
  | finished result =>
    cases result with
    | ok done => exact traceless
    | error error => exact ⟨traceless.1, rfl⟩
  | _ => rfl

/-- A call that has left no trace has left none in a pause that has just been recorded. -/
theorem Call.Traceless.recorded (traceless : call.Traceless v now) (phase : w.phase = v.phase)
    (standing : w.standing = .paused stop none) : call.Traceless w (.paused stop none) := by
  have same : Standing.paused stop none = w.standing := standing.symm
  cases call with
  | start guarded =>
    cases guarded with
    | entering => exact same
    | inside stage =>
      cases stage with
      | checking => exact same
      | finished result =>
        cases result with
        | ok release => exact traceless
        | error error => exact same
      | _ => exact traceless
  | submit payload stage =>
    cases stage with
    | checking => exact same
    | pushing => exact ⟨phase.symm ▸ traceless.1, same⟩
    | finished result =>
      cases result with
      | ok id => exact traceless
      | error error => exact same
  | nested pipeline shape stage => exact ⟨traceless.1, same⟩
  | pause => exact same
  | resume verb stage =>
    show stage.Traceless w.standing _
    rw [standing]
    exact Resuming.Traceless.recorded traceless
  | abort guarded =>
    cases guarded with
    | entering => exact same
    | inside stage =>
      cases stage with
      | checking => exact same
      | finished result =>
        cases result with
        | ok done => exact traceless
        | error error => exact same
      | _ => exact traceless
  | dispose guarded => exact traceless

/-- A call that has left no trace has left none where phase and pause are the same. -/
theorem Call.Traceless.frame (traceless : call.Traceless v now) (phase : w.phase = v.phase)
    (standing : w.standing = v.standing) : call.Traceless w now := by
  unfold Call.Traceless at traceless ⊢
  rw [phase, standing]
  exact traceless

end Heard

namespace Session

variable {s t v w : Session} {call : Call} {heard : Bool}

/-- The session that the listener leads to, if it is heard. -/
def Hears (heard : Bool) (s t : Session) : Prop :=
  ∃ count, (heard = false → count = 0) ∧ s.play (List.replicate count (.act .listener)) = some t

theorem Hears.rest (heard : Bool) (s : Session) : s.Hears heard s :=
  ⟨0, fun _ => rfl, rfl⟩

theorem Hears.listen (hears : s.Hears true v) (moved : v.listen = some w) : s.Hears true w := by
  obtain ⟨count, _, played⟩ := hears
  refine ⟨count + 1, (fun other => by cases other), ?_⟩
  unfold play at played ⊢
  rw [List.replicate_succ', List.foldlM_append, played]
  show (v.after (.act .listener)).bind some = some w
  rw [show v.after (.act .listener) = some w from moved]
  rfl

/-- Who is not heard leaves the session as it is. -/
theorem Hears.eq_of_unheard (hears : s.Hears false v) : v = s := by
  obtain ⟨count, none, played⟩ := hears
  rw [none rfl] at played
  exact (Option.some.inj played).symm

/-- What the listener preserves holds all the way. -/
theorem Hears.invariant (kept : Session → Prop)
    (preserved : ∀ {v w : Session}, kept v → v.listen = some w → kept w) (hears : s.Hears heard v)
    (holds : kept s) : kept v := by
  obtain ⟨count, -, played⟩ := hears
  induction count generalizing s with
  | zero =>
    cases played
    exact holds
  | succ count ih =>
    obtain ⟨u, moved, later⟩ := Option.bind_eq_some_iff.mp played
    exact ih (preserved holds moved) later

/-- The listener does not look into the books. -/
theorem Hears.same_calls (hears : s.Hears heard v) : v.lastCall = s.lastCall ∧ v.calls = s.calls := by
  refine hears.invariant (fun v => v.lastCall = s.lastCall ∧ v.calls = s.calls) ?_ ⟨rfl, rfl⟩
  rintro v w ⟨lastCall, calls⟩ moved
  rw [listen_changes moved]
  exact ⟨lastCall, calls⟩

/-- **The listener does the same with the call as without it**, as long as the call has left no
trace. -/
theorem Visits.listen (visits : v.Visits call s) (moved : s.listen = some t) :
    ∃ w, v.listen = some w ∧ w.Visits call t := by
  obtain ⟨now, rfl, traceless⟩ := visits
  obtain ⟨w, heard, same⟩ := listen_rebooked moved
  have changes := listen_changes heard
  have phase : w.phase = v.phase := by rw [changes]
  have books (now : Standing) : w.visited call now = w.rebooked now
      (if call.isInLine then v.lifecycle ++ [v.lastCall + 1] else v.lifecycle)
      (if call.isAtGate then v.gate ++ [v.lastCall + 1] else v.gate) (v.lastCall + 1)
      (v.calls ++ [(v.lastCall + 1, call)]) v.replies := by
    unfold visited
    rw [changes]
  refine ⟨w, heard, ?_⟩
  rcases same with ⟨standing, rfl⟩ | ⟨stop, standing, rfl⟩
  · exact ⟨now, (books now).symm, traceless.frame phase standing⟩
  · exact ⟨_, (books _).symm, traceless.recorded phase standing⟩

/-- The listener does the same behind a refusal. -/
theorem listen_refused {error : SessionFailure} (moved : (v.refused error).listen = some t) :
    ∃ w, v.listen = some w ∧ t = w.refused error := by
  have other : v.refused error = v.rebooked v.standing v.lifecycle v.gate (v.lastCall + 1) v.calls
    (v.replies ++ [(v.lastCall + 1, .error error)]) := rfl
  rw [other] at moved
  obtain ⟨w, heard, same⟩ := listen_rebooked moved
  have changes := listen_changes heard
  have books : w.refused error = w.rebooked w.standing v.lifecycle v.gate (v.lastCall + 1) v.calls
      (v.replies ++ [(v.lastCall + 1, .error error)]) := by
    unfold refused rebooked
    rw [changes]
  refine ⟨w, heard, ?_⟩
  rcases same with ⟨standing, rfl⟩ | ⟨stop, standing, rfl⟩
  · rw [books, standing]
  · rw [books, standing]

end Session

end ShellSession
