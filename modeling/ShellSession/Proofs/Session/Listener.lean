/-
**What the listener makes of stops.**

The listener records a stop when it comes to its report, and publishes it in its next step. So it has
published what it has recorded, but for the one that it is about to publish, and a stop is published
behind its recording.

* `Deed.recordings`, `Deed.publications`: the stops recorded and published, in order;
* `Session.Minds`, `Session.minds_after`: **what a move is, as far as the listener is concerned**;
* `Session.Publishes`, `Chronicle.publishes`: **what is published is what was recorded**.
-/

import ShellSession.Proofs.Session.Chronicle

namespace ShellSession

/-! ### Recordings and publications -/

namespace Deed

/-- The stop that a deed records. -/
def recorded? : Deed → Option Stop
  | recorded stop => some stop
  | _ => none

/-- The stop that a deed publishes. -/
def published? : Deed → Option Stop
  | published stop => some stop
  | _ => none

/-- The stops recorded, in order. -/
def recordings (deeds : List Deed) : List Stop :=
  deeds.filterMap recorded?

/-- The stops published, in order. -/
def publications (deeds : List Deed) : List Stop :=
  deeds.filterMap published?

theorem recordings_append (deeds more : List Deed) :
    recordings (deeds ++ more) = recordings deeds ++ recordings more :=
  List.filterMap_append

theorem publications_append (deeds more : List Deed) :
    publications (deeds ++ more) = publications deeds ++ publications more :=
  List.filterMap_append

/-- What calls do neither records nor publishes a stop. -/
theorem silent {deed : Option Deed} (theirs : ∀ done, deed = some done → done.caller?.isSome = true) :
    recordings deed.toList = [] ∧ publications deed.toList = [] := by
  cases deed with
  | none => exact ⟨rfl, rfl⟩
  | some done =>
    have caller := theirs done rfl
    cases done <;> first | exact ⟨rfl, rfl⟩ | cases caller

end Deed

/-- The stop that the listener is about to publish. -/
def Listening.pending? : Listening → Option Stop
  | publishing _ stop => some stop
  | _ => none

/-! ### Moves -/

/-- A call leaves the listener alone, unless it starts it. -/
theorem Effect.minds {s u : Session} {order : Order} {before after : Bool}
    (effect : Effect s order before u after) :
    (s.driving = .unborn ∧ u = s.spawn) ∨
      u.listening = s.listening ∧ u.stops = s.stops ∧
        (s.driving = .unborn → u.driving = .unborn ∨ u.driving = .exited) := by
  cases effect with
  | spawn asked free bound => exact .inl ⟨free, rfl⟩
  | drain asked free => exact .inr ⟨rfl, rfl, fun _ => .inr rfl⟩
  | _ => exact .inr ⟨rfl, rfl, .inl⟩

/-- A driver that has been started is not taken back. -/
theorem Handling.born {d e : Desk} {said : Option Said} (handling : Handling d said e)
    (born : d.driving ≠ .unborn) : e.driving ≠ .unborn := by
  cases handling <;> first | exact born | exact fun other => by cases other

namespace Session

variable {s t : Session} {move : Move} {deeds : List Deed}

/-- What a move is, as far as the listener is concerned: a step of its own; its beginning, together
with that of the driver; or one that leaves it alone. -/
inductive Minds (s : Session) (move : Move) (t : Session) : Option Deed → Prop
  | step (mine : move = .act .listener) (moved : s.listen = some t) :
      Minds s move t (s.heeded? t)
  | spawn {deed : Option Deed} (theirs : ∀ done, deed = some done → done.caller?.isSome = true)
      (unborn : s.driving = .unborn) (born : t.driving ≠ .unborn)
      (listening : t.listening = .reading s.hosted.engine.history.size)
      (hosted : t.hosted = s.hosted) (stops : t.stops = s.stops) : Minds s move t deed
  | aside {deed : Option Deed} (theirs : ∀ done, deed = some done → done.caller?.isSome = true)
      (listening : t.listening = s.listening) (stops : t.stops = s.stops)
      (idle : s.driving = .unborn → t.driving = .unborn ∨ t.driving = .exited) :
      Minds s move t deed

/-- A move that does nothing about stops and leaves the listener alone. -/
theorem Minds.of_eq (listening : t.listening = s.listening) (stops : t.stops = s.stops)
    (idle : s.driving = .unborn → t.driving = s.driving) : s.Minds move t none :=
  .aside (fun _ other => by cases other) listening stops fun unborn =>
    .inl ((idle unborn).trans unborn)

theorem minds_after (moved : s.after move = some t) : s.Minds move t (s.deed? move t) := by
  cases move with
  | act actor =>
    cases actor with
    | call caller =>
      obtain ⟨call, next, found, advances⟩ := advance_advances moved
      obtain ⟨u, effect, books⟩ := advances.effect
      have theirs : ∀ done, s.deed? (.act (.call caller)) t = some done →
          done.caller?.isSome = true := fun done same => by
        rw [Standpoint.deed?_caller same]
        rfl
      have listening : t.listening = u.listening := by rw [books]
      have stops : t.stops = u.stops := by rw [books]
      rcases effect.minds with ⟨unborn, rfl⟩ | ⟨same, kept, idle⟩
      · refine .spawn theirs unborn ?_ listening (by rw [books]; rfl) stops
        rw [books]
        exact fun other => by cases other
      · refine .aside theirs (listening.trans same) (stops.trans kept) fun unborn => ?_
        rw [books]
        exact idle unborn
    | listener => exact .step rfl moved
    | engine =>
      have same := compute_changes moved
      exact .of_eq (by rw [same]) (by rw [same]) fun _ => by rw [same]
    | thread =>
      have same := work_changes moved
      exact .of_eq (by rw [same]) (by rw [same]) fun _ => by rw [same]
    | driver =>
      have same := drive_changes moved
      refine .of_eq (by rw [same]) (by rw [same]) fun unborn => ?_
      have stuck : s.drive = some t := moved
      unfold drive at stuck
      rw [unborn] at stuck
      cases stuck
    | backoff =>
      have same := ring_changes moved
      refine .of_eq (by rw [same]) (by rw [same]) fun unborn => ?_
      have stuck : s.ring = some t := moved
      unfold ring at stuck
      rw [unborn] at stuck
      cases stuck
    | timeout caller =>
      have same : s.Books t := expire_books moved
      exact .of_eq (by rw [same]) (by rw [same]) fun _ => by rw [same]
  | _ =>
    cases moved
    exact .of_eq rfl rfl fun _ => rfl

/-- A driver that has been started is not taken back. -/
theorem born_after (born : s.driving ≠ .unborn) (moved : s.after move = some t) :
    t.driving ≠ .unborn :=
  (after_handling moved).born born

/-! ### Accounts of the listener -/

/-- What is published is what was recorded, but for the stop that is about to be published; every
stop is published behind its recording; and there is no listener before there is a driver. -/
structure Publishes (s : Session) (deeds : List Deed) : Prop where
  published : Deed.publications deeds = s.stops
  recorded : Deed.recordings deeds = s.stops ++ s.listening.pending?.toList
  order : ∀ before stop behind, deeds = before ++ .published stop :: behind →
    Deed.recordings before = Deed.publications before ++ [stop]
  unborn : s.driving = .unborn → s.listening = .unborn

/-- Publications come behind their recordings, if that of the last deed does. -/
theorem Publishes.order_append (publishes : s.Publishes deeds) {deed : Option Deed}
    (last : ∀ stop, deed = some (.published stop) →
      Deed.recordings deeds = Deed.publications deeds ++ [stop]) : ∀ before stop behind,
    deeds ++ deed.toList = before ++ .published stop :: behind →
      Deed.recordings before = Deed.publications before ++ [stop] := by
  intro before stop behind split
  cases deed with
  | none => exact publishes.order before stop behind ((List.append_nil deeds).symm.trans split)
  | some done =>
    rcases List.eq_nil_or_concat behind with rfl | ⟨rest, other, rfl⟩
    · obtain ⟨rfl, same⟩ := List.append_inj' split rfl
      cases same
      exact last stop rfl
    · rw [List.concat_eq_append, ← List.cons_append, ← List.append_assoc] at split
      exact publishes.order before stop rest (List.append_inj' split rfl).1

/-- A move that neither records a stop nor publishes one. -/
theorem Publishes.silent (publishes : s.Publishes deeds) {deed : Option Deed}
    (none : Deed.recordings deed.toList = []) (neither : Deed.publications deed.toList = [])
    (stops : t.stops = s.stops) (pending : t.listening.pending? = s.listening.pending?)
    (unborn : t.driving = .unborn → t.listening = .unborn) :
    t.Publishes (deeds ++ deed.toList) := by
  refine ⟨?_, ?_, publishes.order_append fun stop same => ?_, unborn⟩
  · rw [Deed.publications_append, neither, List.append_nil, publishes.published, stops]
  · rw [Deed.recordings_append, none, List.append_nil, publishes.recorded, stops, pending]
  · subst same
    cases neither

/-- **The listener records stops, and publishes what it has recorded.** -/
theorem Publishes.step (publishes : s.Publishes deeds) (moved : s.listen = some t) :
    t.Publishes (deeds ++ (s.heeded? t).toList) := by
  have born : t.driving = .unborn → s.listening = .unborn := fun unborn =>
    publishes.unborn (by rw [listen_changes moved] at unborn; exact unborn)
  have hears : ∀ {read : Nat}, s.listening = .reading read →
      t.driving = .unborn → t.listening = .unborn := fun listening unborn => by
    cases listening.symm.trans (born unborn)
  have none : ∀ {read : Nat}, s.listening = .reading read → s.listening.pending? = none :=
    fun listening => by
      rw [listening]
      rfl
  have pumps := pumps_of_listen moved
  generalize s.heeded? t = deed at pumps ⊢
  cases pumps with
  | quit read listening fired | drop read listening live lag =>
    exact publishes.silent rfl rfl rfl (none listening).symm (hears listening)
  | pass read notice listening found other onward standing stops =>
    exact publishes.silent rfl rfl stops (by rw [onward, none listening]; rfl) (hears listening)
  | record read stop listening found =>
    refine ⟨?_, ?_, publishes.order_append nofun, hears listening⟩
    · rw [Deed.publications_append, publishes.published]
      exact List.append_nil _
    · rw [Deed.recordings_append, publishes.recorded, none listening, Option.toList_none,
        List.append_nil]
      rfl
  | publish read stop listening =>
    have pending : Deed.recordings deeds = Deed.publications deeds ++ [stop] := by
      rw [publishes.recorded, publishes.published, listening]
      rfl
    refine ⟨?_, ?_, publishes.order_append fun other same => ?_, fun unborn => ?_⟩
    · rw [Deed.publications_append, publishes.published]
      rfl
    · rw [Deed.recordings_append, pending, publishes.published]
      rfl
    · cases same
      exact pending
    · cases listening.symm.trans (born unborn)

theorem Publishes.after (publishes : s.Publishes deeds) (moved : s.after move = some t) :
    t.Publishes (deeds ++ (s.deed? move t).toList) := by
  have before : t.driving = .unborn → s.driving = .unborn := fun unborn =>
    Classical.byContradiction fun born => born_after born moved unborn
  have minds := minds_after moved
  generalize s.deed? move t = deed at minds ⊢
  cases minds with
  | step mine moved => exact publishes.step moved
  | spawn theirs unborn born listening hosted stops =>
    obtain ⟨none, neither⟩ := Deed.silent theirs
    refine publishes.silent none neither stops ?_ fun other => absurd other born
    rw [listening, publishes.unborn unborn]
    rfl
  | aside theirs listening stops idle =>
    obtain ⟨none, neither⟩ := Deed.silent theirs
    exact publishes.silent none neither stops (by rw [listening]) fun unborn =>
      listening.trans (publishes.unborn (before unborn))

end Session

/-- **What is published is what was recorded, along every chronicle.** -/
theorem Chronicle.publishes {env : Environment} {t : Session} {deeds : List Deed}
    {settings : Settings} {fallback : Release} {hosted : HostedEngine}
    (chronicle : Chronicle env (.fresh settings fallback hosted) deeds t) : t.Publishes deeds :=
  chronicle.invariant (fun t deeds => t.Publishes deeds)
    (fun _ publishes _ moved => publishes.after moved)
    ⟨rfl, rfl, fun before _ _ split =>
      absurd split.symm (List.append_ne_nil_of_right_ne_nil before (List.cons_ne_nil _ _)),
      fun _ => rfl⟩

end ShellSession
