/-
**What comes of what is sent into a stop.**

Outside a stop, commands and verbs are refused. In a stop all are accepted, in the order in which they
come, and nobody is told what is on its way already. The engine takes them in that order up to the first
verb, which leaves the stop; what is behind it is dropped. A command that is dropped is refused in the
end, but a verb that is dropped has been accepted for nothing.

* `Engine.Stays`, `Engine.Leaves`: an engine that remains in its stop, and one that leaves it;
* `Engine.Foremost`, `Engine.Behind`: what is on its way with no verb in front of it, and with one;
* `Engine.Heeded`: what has become of a command that was sent with no verb in front of it;
* `Engine.Unheeding.run`: **a verb behind another one makes no difference**, whatever happens later;
* `Engine.comes_of_sending`: **what comes of what is sent into a stop**.
-/

import ShellSession.Proofs.Engine.Commands
import ShellSession.Proofs.Engine.Events

namespace ShellSession.Engine

variable {e f : Engine} {verb : Verb} {request : StopRequest} {pipeline : Pipeline} {ticket : Nat}
  {taken : Engine → Prop}

/-! ### What is put on its way -/

/-- The engine with these requests on their way into its stop. -/
def sending (e : Engine) (inbox : List StopRequest) : Engine :=
  { e with inbox := inbox }

/-- What is put on its way into the stop, when something is asked. -/
def posts (e : Engine) : Ask → List StopRequest
  | .command pipeline => if e.isStopped then [.command (e.lastTicket + 1) pipeline] else []
  | .resume verb => if e.isStopped then [.verb verb] else []
  | _ => []

/-- **What is asked does not depend on what is on its way**, and comes behind it. -/
theorem asked_sending (e : Engine) (inbox : List StopRequest) (request : Ask) :
    (e.sending inbox).asked request = (e.asked request).sending (inbox ++ e.posts request) := by
  have same : (e.sending inbox).isStopped = e.isStopped := rfl
  cases request with
  | command pipeline =>
    by_cases inside : e.isStopped = true
    · simp [asked, ask, command, posts, same, inside, Except.map]
      rfl
    · simp [asked, ask, command, posts, same, inside, Except.map]
  | resume verb =>
    by_cases inside : e.isStopped = true
    · simp [asked, ask, resume, posts, same, inside]
      rfl
    · simp [asked, ask, resume, posts, same, inside]
  | setStepping enabled => simp [asked, ask, posts, sending, setStepping, state]
  | _ =>
    show _ = Engine.sending _ (inbox ++ [])
    obtain ⟨files, release, activity, own, last, results⟩ := e
    rw [List.append_nil]
    cases activity <;> cases release <;> rfl

theorem inbox_asked (e : Engine) (request : Ask) :
    (e.asked request).inbox = e.inbox ++ e.posts request :=
  congrArg inbox (e.asked_sending e.inbox request)

/-! ### Stops that last and stops that are left -/

/-- What becomes of an engine that does not leave its stop. -/
inductive Stays (e : Engine) : Engine → Prop
  | rest : Stays e e
  | asked {f : Engine} (stays : Stays e f) (request : Ask) : Stays e (f.asked request)
  | step {f g : Engine} (stays : Stays e f) (remains : f.leaving? = none)
      (stepped : f.step = some g) : Stays e g

/-- An engine leaves a stop by a verb: the run goes on as the verb has it, nothing is on its way any more,
and the commands that were are refused. -/
inductive Leaves (verb : Verb) (e : Engine) : Engine → Prop
  | mk (main : Nat) (stop : Stop) (s : Interpreter) (resume : Verb → Interpreter → Run (List Value))
      (callers : List Caller) (rest : List StopRequest)
      (activity : e.activity = .running main ⟨.stopped stop s resume, callers⟩)
      (inbox : e.inbox = .verb verb :: rest) : Leaves verb e { e with
        inbox := []
        activity := .running main ⟨resume verb s, callers⟩
        results := e.results ++ refusals rest }

/-- A stop is left by the verb that is the first on its way. -/
theorem Leaves.exists_inbox (leaves : e.Leaves verb f) :
    ∃ rest, e.inbox = .verb verb :: rest ∧ f.results = e.results ++ refusals rest := by
  cases leaves with
  | mk main stop s resume callers rest activity inbox => exact ⟨rest, inbox, rfl⟩

/-- **The next step leaves the stop by the verb that is the next to be taken.** -/
theorem leaves_of_leaving (leaving : e.leaving? = some verb) :
    ∃ f, e.step = some f ∧ e.Leaves verb f := by
  unfold leaving? at leaving
  split at leaving
  · rename_i main stop s resume callers other rest activity inbox
    cases leaving
    exact ⟨_, step_of_stepsTo (.leave activity inbox),
      .mk main stop s resume callers rest activity inbox⟩
  · cases leaving

/-- What is asked of an engine in a stop leaves it in the stop. -/
theorem stop?_asked (inside : e.isStopped = true) (request : Ask) :
    (e.asked request).stop? = e.stop? := by
  obtain ⟨main, doing⟩ := exists_main_of_stopped inside
  obtain ⟨activity, _⟩ := asked_busy doing request
  unfold stop?
  rw [activity]
  exact e.stop?_setStepping (request.mode?.getD e.state.stepping)

namespace Stays

/-- **An engine that does not leave its stop is in the same stop.** -/
theorem stop? (stays : e.Stays f) (inside : e.isStopped = true) : f.stop? = e.stop? := by
  induction stays with
  | rest => rfl
  | asked _ request ih => exact (stop?_asked ((congrArg Option.isSome ih).trans inside) request).trans ih
  | step _ remains stepped ih =>
    exact (stop?_stay ((congrArg Option.isSome ih).trans inside) remains stepped).trans ih

theorem isStopped (stays : e.Stays f) (inside : e.isStopped = true) : f.isStopped = true :=
  (congrArg Option.isSome (stays.stop? inside)).trans inside

theorem made (stays : e.Stays f) (made : e.Made) : f.Made := by
  induction stays with
  | rest => exact made
  | asked _ request ih => exact ih.asked request
  | step _ _ stepped ih => exact ih.step stepped

end Stays

/-! ### Order in a stop -/

/-- What is on its way with no verb in front of it. -/
def Foremost (request : StopRequest) (e : Engine) : Prop :=
  ∃ front rest, e.inbox = front ++ request :: rest ∧ ∀ other ∈ front, other.isVerb = false

/-- What is on its way behind a verb. -/
def Behind (request : StopRequest) (e : Engine) : Prop :=
  ∃ front verb rest, e.inbox = front ++ .verb verb :: rest ∧ request ∈ rest

namespace Foremost

theorem mem (foremost : e.Foremost request) : request ∈ e.inbox := by
  obtain ⟨front, rest, inbox, _⟩ := foremost
  rw [inbox]
  exact List.mem_append_right _ List.mem_cons_self

theorem asked (foremost : e.Foremost request) (question : Ask) : (e.asked question).Foremost request := by
  obtain ⟨front, rest, inbox, free⟩ := foremost
  refine ⟨front, rest ++ e.posts question, ?_, free⟩
  rw [inbox_asked, inbox, List.append_assoc]
  rfl

/-- What has no verb in front of it is next to be taken, or comes closer. -/
theorem serves (foremost : e.Foremost request) (serves : e.Serves f) :
    f.Foremost request ∨ ∃ main waiting asker pipeline, request = .command asker pipeline ∧
      f.activity = .nested main waiting asker (e.undebugged pipeline) ∧ f.files = e.files := by
  obtain ⟨front, rest, inbox, free⟩ := foremost
  cases serves with
  | further main asker waiting x y activity stepped => exact .inl ⟨front, rest, inbox, free⟩
  | answer main asker waiting outcome s activity => exact .inl ⟨front, rest, inbox, free⟩
  | take main asker x waiting pipeline others activity first =>
    rw [first] at inbox
    cases front with
    | nil =>
      obtain ⟨rfl, rfl⟩ := List.cons.inj inbox
      exact .inr ⟨main, waiting, asker, pipeline, rfl, rfl, rfl⟩
    | cons other front =>
      obtain ⟨rfl, rfl⟩ := List.cons.inj inbox
      exact .inl ⟨front, rest, rfl, fun one member => free one (List.mem_cons_of_mem _ member)⟩

/-- What has no verb in front of it when the stop is left is the verb that leaves it. -/
theorem leaves (foremost : e.Foremost request) (leaves : e.Leaves verb f) : request = .verb verb := by
  obtain ⟨front, rest, inbox, free⟩ := foremost
  obtain ⟨others, first, _⟩ := leaves.exists_inbox
  rw [first] at inbox
  cases front with
  | nil => exact (List.cons.inj inbox).1.symm
  | cons other front =>
    obtain ⟨rfl, _⟩ := List.cons.inj inbox
    cases free (.verb verb) List.mem_cons_self

/-- **The first verb on its way remains the first.** -/
theorem stays (foremost : e.Foremost (.verb verb)) (inside : e.isStopped = true) (stays : e.Stays f) :
    f.Foremost (.verb verb) := by
  induction stays with
  | rest => exact foremost
  | asked _ request ih => exact ih.asked request
  | step stays remains stepped ih =>
    rcases ih.serves (serves_of_stay (stays.isStopped inside) remains stepped) with still | taken
    · exact still
    · obtain ⟨_, _, _, _, other, _⟩ := taken
      cases other

end Foremost

namespace Behind

theorem asked (behind : e.Behind request) (question : Ask) : (e.asked question).Behind request := by
  obtain ⟨front, verb, rest, inbox, member⟩ := behind
  refine ⟨front, verb, rest ++ e.posts question, ?_, List.mem_append_left _ member⟩
  rw [inbox_asked, inbox, List.append_assoc]
  rfl

theorem serves (behind : e.Behind request) (serves : e.Serves f) : f.Behind request := by
  obtain ⟨front, verb, rest, inbox, member⟩ := behind
  cases serves with
  | further main asker waiting x y activity stepped => exact ⟨front, verb, rest, inbox, member⟩
  | answer main asker waiting outcome s activity => exact ⟨front, verb, rest, inbox, member⟩
  | take main asker x waiting pipeline others activity first =>
    rw [first] at inbox
    cases front with
    | nil => cases (List.cons.inj inbox).1
    | cons other front =>
      obtain ⟨rfl, rfl⟩ := List.cons.inj inbox
      exact ⟨front, verb, rest, rfl, member⟩

/-- What is behind a verb stays there as long as the stop is not left. -/
theorem stays (behind : e.Behind request) (inside : e.isStopped = true) (stays : e.Stays f) :
    f.Behind request := by
  induction stays with
  | rest => exact behind
  | asked _ question ih => exact ih.asked question
  | step stays remains stepped ih =>
    exact ih.serves (serves_of_stay (stays.isStopped inside) remains stepped)

/-- What is behind a verb is dropped with the stop. -/
theorem dropped (behind : e.Behind request) {rest : List StopRequest}
    (first : e.inbox = .verb verb :: rest) : request ∈ rest := by
  obtain ⟨front, other, others, inbox, member⟩ := behind
  rw [first] at inbox
  cases front with
  | nil =>
    obtain ⟨_, rfl⟩ := List.cons.inj inbox
    exact member
  | cons _ front =>
    obtain ⟨_, rfl⟩ := List.cons.inj inbox
    exact List.mem_append_right _ (List.mem_cons_of_mem _ member)

/-- A command behind a verb has no answer. -/
theorem unanswered (behind : e.Behind (.command ticket pipeline)) (ticketed : e.Ticketed) :
    e.result? ticket = none := by
  obtain ⟨front, verb, rest, inbox, member⟩ := behind
  refine ticketed.unanswered (List.mem_append_right _ (List.mem_append_right _ ?_))
  rw [inbox]
  exact List.mem_filterMap.mpr
    ⟨_, List.mem_append_right _ (List.mem_cons_of_mem _ member), rfl⟩

end Behind

/-- A command that is dropped is refused as coming too late. -/
theorem lookup_refusals {inbox : List StopRequest} (dropped : .command ticket pipeline ∈ inbox) :
    (refusals inbox).lookup ticket = some (.error .notStopped) := by
  induction inbox with
  | nil => cases dropped
  | cons request rest ih =>
    have later (other : .command ticket pipeline ∈ rest) := ih other
    cases request with
    | verb verb =>
      rcases List.mem_cons.mp dropped with here | there
      · cases here
      · exact later there
    | command asker other =>
      show List.lookup ticket ((asker, .error .notStopped) :: refusals rest) = _
      by_cases same : ticket = asker
      · rw [same, List.lookup_cons_self]
      · rw [List.lookup_cons, beq_false_of_ne same]
        rcases List.mem_cons.mp dropped with here | there
        · cases here
          exact absurd rfl same
        · exact later there

/-- **A command behind a verb is refused when the stop is left.** -/
theorem Behind.refused (behind : e.Behind (.command ticket pipeline)) (ticketed : e.Ticketed)
    (leaves : e.Leaves verb f) : f.result? ticket = some (.error .notStopped) := by
  obtain ⟨rest, first, results⟩ := leaves.exists_inbox
  have unanswered := behind.unanswered ticketed
  unfold result? at unanswered ⊢
  rw [results, List.lookup_append, unanswered]
  exact lookup_refusals (behind.dropped first)

/-! ### Commands with no verb in front of them -/

/-- A command that is heeded: no verb is in front of it, or it has been taken up. -/
inductive Heeded (pipeline : Pipeline) (ticket : Nat) (taken : Engine → Prop) (e : Engine) : Prop
  | queued (foremost : e.Foremost (.command ticket pipeline)) : Heeded pipeline ticket taken e
  | underway (underway : e.Underway pipeline ticket taken) : Heeded pipeline ticket taken e

/-- What is asked makes no difference to a command that has been taken up. -/
theorem Underway.asked (underway : e.Underway pipeline ticket taken) (inside : e.isStopped = true)
    (request : Ask) : (e.asked request).Underway pipeline ticket taken := by
  obtain ⟨main, doing⟩ := exists_main_of_stopped inside
  obtain ⟨activity, _, files, results⟩ := asked_busy doing request
  cases underway with
  | serving origin since main waiting x plain before mirrors same =>
    refine .serving origin since main waiting
      (x.withState { e.state with stepping := request.mode?.getD e.state.stepping }) plain ?_
      (mirrors.withState ?_) (files ▸ same)
    · rw [activity, before]
      rfl
    · rw [Engine.state, before]
      exact ⟨rfl, rfl, rfl⟩
  | answered origin since outcome t ends found =>
    refine .answered origin since outcome t ends ?_
    unfold result?
    rw [results]
    exact found

namespace Heeded

theorem entrusted (heeded : e.Heeded pipeline ticket taken) : e.Entrusted pipeline ticket taken := by
  cases heeded with
  | queued foremost => exact .queued foremost.mem
  | underway underway => exact underway.entrusted

theorem asked (heeded : e.Heeded pipeline ticket taken) (inside : e.isStopped = true)
    (request : Ask) : (e.asked request).Heeded pipeline ticket taken := by
  cases heeded with
  | queued foremost => exact .queued (foremost.asked request)
  | underway underway => exact .underway (underway.asked inside request)

theorem serves (heeded : e.Heeded pipeline ticket taken) (ticketed : e.Ticketed)
    (serves : e.Serves f) :
    f.Heeded pipeline ticket fun origin => taken origin ∨ origin = e := by
  cases heeded with
  | underway underway =>
    exact .underway ((underway.serves ticketed serves).weaken fun _ => .inl)
  | queued foremost =>
    rcases foremost.serves serves with still | ⟨main, waiting, asker, other, same, activity, files⟩
    · exact .queued still
    · cases same
      exact .underway (.of_take activity files)

/-- **A command with no verb in front of it is heeded as long as the stop is not left.** -/
theorem stays (foremost : e.Foremost (.command ticket pipeline)) (made : e.Made)
    (inside : e.isStopped = true) (stays : e.Stays f) : f.Heeded pipeline ticket e.Stays := by
  induction stays with
  | rest => exact .queued foremost
  | asked stays request ih => exact ih.asked (stays.isStopped inside) request
  | step stays remains stepped ih =>
    have within := serves_of_stay (stays.isStopped inside) remains stepped
    cases ih.serves (stays.made made).lawful.2 within with
    | queued foremost => exact .queued foremost
    | underway underway =>
      exact .underway (underway.weaken fun origin since => since.elim id fun same => same ▸ stays)

/-- **A command that is heeded is answered when the stop is left.** -/
theorem answered (heeded : e.Heeded pipeline ticket taken) (leaves : e.Leaves verb f) :
    ∃ outcome, e.result? ticket = some outcome := by
  cases heeded with
  | queued foremost => cases foremost.leaves leaves
  | underway underway =>
    cases underway with
    | answered origin since outcome t ends found => exact ⟨outcome, found⟩
    | serving origin since main waiting x plain activity mirrors same =>
      cases leaves with
      | mk main stop s resume callers rest before inbox => cases before.symm.trans activity

end Heeded

/-! ### Verbs behind another one -/

/-- Engines that are the same, but for a verb that the second has on its way behind another one. -/
inductive Unheeding (e : Engine) : Engine → Prop
  | same : Unheeding e e
  | more (front : List StopRequest) (first : Verb) (middle : List StopRequest) (late : Verb)
      (rest : List StopRequest) (inbox : e.inbox = front ++ .verb first :: (middle ++ rest)) :
      Unheeding e (e.sending (front ++ .verb first :: (middle ++ .verb late :: rest)))

/-- A verb among those that are dropped is nobody's refusal. -/
theorem refusals_verb (inbox rest : List StopRequest) (verb : Verb) :
    refusals (inbox ++ .verb verb :: rest) = refusals (inbox ++ rest) := by
  induction inbox with
  | nil => rfl
  | cons request others ih =>
    cases request with
    | command asker pipeline => exact congrArg (List.cons _) ih
    | verb other => exact ih

/-- A step that takes nothing out of the inbox does not depend on it. -/
theorem step_sending (inbox : List StopRequest)
    (free : ∀ main stop s resume callers, e.activity ≠ .running main ⟨.stopped stop s resume, callers⟩) :
    (e.sending inbox).step = e.step.map fun f => f.sending inbox := by
  obtain ⟨files, release, activity, own, last, results⟩ := e
  cases activity with
  | idle s => rfl
  | running main x =>
    obtain ⟨run, callers⟩ := x
    cases run with
    | stopped stop s resume => exact absurd rfl (free main stop s resume callers)
    | done outcome s => cases callers <;> rfl
    | _ => rfl
  | nested main waiting asker x =>
    obtain ⟨run, callers⟩ := x
    cases run with
    | done outcome s => cases callers <;> rfl
    | stopped stop s resume => cases callers <;> rfl
    | _ => rfl

section

variable {main : Nat} {stop : Stop} {s : Interpreter} {resume : Verb → Interpreter → Run (List Value)}
  {callers : List Caller}

/-- A step that takes a verb does not depend on the verbs behind it. -/
theorem after_verb (activity : e.activity = .running main ⟨.stopped stop s resume, callers⟩)
    {rest others : List StopRequest} (inbox : e.inbox = .verb verb :: rest)
    (same : refusals others = refusals rest) :
    (e.sending (.verb verb :: others)).after .step = e.after .step := by
  have doing : (e.sending (.verb verb :: others)).activity =
      .running main ⟨.stopped stop s resume, callers⟩ := activity
  unfold after
  rw [step_of_stepsTo (.leave doing rfl), step_of_stepsTo (.leave activity inbox)]
  simp only [sending, same, Option.getD_some]

/-- A step that takes a command leaves what is behind it. -/
theorem step_command (activity : e.activity = .running main ⟨.stopped stop s resume, callers⟩)
    {asker : Nat} {rest : List StopRequest} (inbox : e.inbox = .command asker pipeline :: rest) :
    ∃ f, e.step = some f ∧ f.inbox = rest ∧ ∀ others,
      (e.sending (.command asker pipeline :: others)).step = some (f.sending others) := by
  have doing : ∀ others, (e.sending others).activity =
      .running main ⟨.stopped stop s resume, callers⟩ := fun _ => activity
  exact ⟨_, step_of_stepsTo (.take activity inbox), rfl,
    fun others => step_of_stepsTo (.take (doing _) rfl)⟩

end

namespace Unheeding

theorem asked (unheeding : e.Unheeding f) (request : Ask) :
    (e.asked request).Unheeding (f.asked request) := by
  cases unheeding with
  | same => exact .same
  | more front first middle late rest inbox =>
    have further : (e.asked request).inbox =
        front ++ .verb first :: (middle ++ (rest ++ e.posts request)) := by
      simp [inbox_asked, inbox]
    have behind := more front first middle late (rest ++ e.posts request) further
    rw [asked_sending]
    simpa using behind

/-- **A step does not tell the engines apart**; if it leaves a stop, they are the same behind it. -/
theorem step (unheeding : e.Unheeding f) :
    (e.after .step).Unheeding (f.after .step) ∧
      (e.leaving?.isSome = true → f.after .step = e.after .step) := by
  cases unheeding with
  | same => exact ⟨.same, fun _ => rfl⟩
  | more front first middle late rest inbox =>
    by_cases waits : ∃ main stop s resume callers,
        e.activity = .running main ⟨.stopped stop s resume, callers⟩
    · obtain ⟨main, stop, s, resume, callers, activity⟩ := waits
      cases front with
      | nil =>
        have same := after_verb activity inbox (refusals_verb middle rest late)
        exact ⟨same ▸ .same, fun _ => same⟩
      | cons request front =>
        cases request with
        | verb verb =>
          have refused := refusals_verb (front ++ .verb first :: middle) rest late
          simp only [List.append_assoc, List.cons_append] at refused
          have same := after_verb activity inbox refused
          exact ⟨same ▸ .same, fun _ => same⟩
        | command asker pipeline =>
          obtain ⟨g, taken, behind, others⟩ := step_command activity inbox
          refine ⟨?_, fun leaves => ?_⟩
          · unfold after
            show ((e.step).getD e).Unheeding (Option.getD (Engine.step (e.sending
              (.command asker pipeline :: (front ++ .verb first :: (middle ++ .verb late :: rest))))) _)
            rw [taken, others]
            exact .more front first middle late rest behind
          · unfold leaving? at leaves
            rw [activity, inbox] at leaves
            cases leaves
    · have free main stop s resume callers
          (same : e.activity = .running main ⟨.stopped stop s resume, callers⟩) : False :=
        waits ⟨main, stop, s, resume, callers, same⟩
      refine ⟨?_, fun leaves => ?_⟩
      · unfold after
        rw [step_sending _ free]
        cases stepped : e.step with
        | none => exact .more front first middle late rest inbox
        | some g =>
          have own : some g = some (g.sending e.inbox) := by
            have same := step_sending e.inbox free
            rw [stepped] at same
            exact stepped.symm.trans same
          have kept := congrArg Engine.inbox (Option.some.inj own)
          exact .more front first middle late rest (kept.trans inbox)
      · obtain ⟨verb, leaving⟩ := Option.isSome_iff_exists.mp leaves
        obtain ⟨g, _, left⟩ := leaves_of_leaving leaving
        cases left with
        | mk main stop s resume callers rest activity _ =>
          exact (free main stop s resume callers activity).elim

theorem after (unheeding : e.Unheeding f) (event : Event) :
    (e.after event).Unheeding (f.after event) := by
  cases event with
  | ask request => exact unheeding.asked request
  | step => exact unheeding.step.1

/-- **A verb behind another one makes no difference**, whatever happens later. -/
theorem run (unheeding : e.Unheeding f) (events : List Event) :
    (e.run events).Unheeding (f.run events) := by
  induction events generalizing e f with
  | nil => exact unheeding
  | cons event rest ih => exact ih (unheeding.after event)

/-- Nobody but the engine sees what is on its way. -/
theorem same_but (unheeding : e.Unheeding f) : ∃ inbox, f = e.sending inbox := by
  cases unheeding with
  | same => exact ⟨e.inbox, rfl⟩
  | more front first middle late rest inbox => exact ⟨_, rfl⟩

end Unheeding

/-! ### What comes of it -/

/-- What is sent while no verb is on its way has none in front of it. -/
theorem foremost_of_quiet (quiet : e.verbsWaiting = 0) (inbox : f.inbox = e.inbox ++ [request]) :
    f.Foremost request := by
  refine ⟨e.inbox, [], inbox, fun other member => ?_⟩
  exact Bool.eq_false_iff.mpr (List.countP_eq_zero.mp quiet other member)

/-- What is sent while a verb is on its way is behind it. -/
theorem exists_verb (waits : e.verbsWaiting ≠ 0) :
    ∃ front verb rest, e.inbox = front ++ .verb verb :: rest := by
  obtain ⟨other, member, isVerb⟩ := List.countP_pos_iff.mp (Nat.pos_of_ne_zero waits)
  obtain ⟨front, rest, split⟩ := List.append_of_mem member
  cases other with
  | command asker pipeline => cases isVerb
  | verb verb => exact ⟨front, verb, rest, split⟩

/-- A verb that is accepted is put on its way into the stop, and nothing else. -/
theorem sending_of_resume (resumed : e.resume verb = .ok f) :
    e.isStopped = true ∧ f = e.sending (e.inbox ++ [.verb verb]) := by
  unfold resume at resumed
  split at resumed
  · rename_i inside
    cases resumed
    exact ⟨inside, rfl⟩
  · cases resumed

/-- A command is accepted in a stop, and leaves the engine there. -/
theorem isStopped_of_command (sent : e.command pipeline = .ok (ticket, f)) : f.isStopped = true := by
  unfold command at sent
  split at sent
  · rename_i inside
    cases sent
    exact inside
  · cases sent

/-- A verb that is sent while one is on its way is not heeded. -/
theorem unheeding_of_resume (waits : e.verbsWaiting ≠ 0) (resumed : e.resume verb = .ok f) :
    e.Unheeding f := by
  obtain ⟨front, first, rest, inbox⟩ := exists_verb waits
  obtain ⟨_, rfl⟩ := sending_of_resume resumed
  have before : e.inbox = front ++ .verb first :: (rest ++ []) := by rw [List.append_nil, inbox]
  have more := Unheeding.more front first rest verb [] before
  rw [inbox, List.append_assoc]
  exact more

/-- **What comes of what is sent into a stop.** A stop is left by nothing but a verb, and outside a stop
commands and verbs are refused. Let something be accepted in a stop:
* a verb, when none is on its way, is the one by which the stop is left, and the engine comes to that;
* a verb, when one is on its way, makes no difference to anything that anybody sees later, and once a
stop is left the engine is the one that it would be without it;
* a command, when no verb is on its way, is answered before the stop is left, with what its own pipeline
comes to in that stop;
* a command, when a verb is on its way, is refused when the stop is left. -/
theorem comes_of_sending (made : e.Made) :
    (∀ f, e.isStopped = true → e.step = some f → f.stop? = e.stop? ∨ ∃ verb, e.Leaves verb f) ∧
    (e.isStopped = false → (∀ verb, e.resume verb = .error .notStopped) ∧
      ∀ pipeline, e.command pipeline = .error .notStopped) ∧
    (∀ verb f, e.resume verb = .ok f →
      (e.verbsWaiting = 0 → ∀ g, f.Stays g → (∃ h, g.step = some h) ∧
        ∀ other h, g.Leaves other h → other = verb) ∧
      (e.verbsWaiting ≠ 0 → ∀ events, (∃ inbox, f.run events = (e.run events).sending inbox) ∧
        ∀ later, (e.run events).leaving?.isSome = true →
          f.run (events ++ .step :: later) = e.run (events ++ .step :: later))) ∧
    ∀ pipeline ticket f, e.command pipeline = .ok (ticket, f) →
      (e.verbsWaiting = 0 → ∀ g, f.Stays g →
        (∀ outcome, g.result? ticket = some outcome → ∃ origin t, f.Stays origin ∧
          (origin.undebugged pipeline).Ends origin.files outcome t) ∧
        ∀ verb h, g.Leaves verb h → ∃ outcome, g.result? ticket = some outcome) ∧
      (e.verbsWaiting ≠ 0 → ∀ g, f.Stays g → g.result? ticket = none ∧
        ∀ verb h, g.Leaves verb h → h.result? ticket = some (.error .notStopped)) := by
  refine ⟨fun f inside stepped => ?_, fun outside => ⟨fun verb => ?_, fun pipeline => ?_⟩,
    fun verb f resumed => ⟨fun quiet g stays => ?_, fun waits events => ?_⟩,
    fun pipeline ticket f sent => ⟨fun quiet g stays => ?_, fun waits g stays => ?_⟩⟩
  · cases leaving : e.leaving? with
    | none => exact .inl (stop?_stay inside leaving stepped)
    | some verb =>
      obtain ⟨g, same, leaves⟩ := leaves_of_leaving leaving
      cases same.symm.trans stepped
      exact .inr ⟨verb, leaves⟩
  · unfold resume
    rw [if_neg (Bool.eq_false_iff.mp outside)]
  · unfold command
    rw [if_neg (Bool.eq_false_iff.mp outside)]
  · have inside : f.isStopped = true := by
      obtain ⟨inside, rfl⟩ := sending_of_resume resumed
      exact inside
    have foremost := (foremost_of_quiet quiet (resume_activity resumed).2.1).stays inside stays
    refine ⟨step_of_inbox (stays.isStopped inside) (stays.made (made.verb resumed)).lawful.1
      (List.ne_nil_of_mem foremost.mem), fun other h leaves => ?_⟩
    cases foremost.leaves leaves
    rfl
  · have unheeding := (unheeding_of_resume waits resumed).run events
    refine ⟨unheeding.same_but, fun later leaves => ?_⟩
    unfold run at *
    rw [List.foldl_append, List.foldl_append]
    exact congrArg (fun engine => List.foldl Engine.after engine later) (unheeding.step.2 leaves)
  · have inside := isStopped_of_command sent
    have sound := made.use (.command pipeline ticket sent)
    have foremost := foremost_of_quiet quiet (command_activity sent).2.1
    have heeded := Heeded.stays foremost sound inside stays
    exact ⟨fun outcome found => heeded.entrusted.own (stays.made sound).lawful.2 found,
      fun verb h leaves => heeded.answered leaves⟩
  · have inside := isStopped_of_command sent
    have sound := made.use (.command pipeline ticket sent)
    obtain ⟨front, first, rest, inbox⟩ := exists_verb waits
    have behind : f.Behind (.command ticket pipeline) := by
      refine ⟨front, first, rest ++ [.command ticket pipeline], ?_, ?_⟩
      · rw [(command_activity sent).2.1, inbox, List.append_assoc]
        rfl
      · exact List.mem_append_right _ (List.mem_singleton_self _)
    have still := behind.stays inside stays
    have ticketed := (stays.made sound).lawful.2
    exact ⟨still.unanswered ticketed, fun verb h leaves => still.refused ticketed leaves⟩

/-- A run goes on to its end although `stop` is accepted, because another verb is in front of it. -/
example :
    let e := (fresh .none none).run [.ask (.invoke (.script "Wait-Debugger")), .step, .step]
    let f := e.run [.ask (.resume .resume), .ask (.resume .stop)]
    e.isStopped = true ∧ f.inbox.length = 2 ∧
      ((f.run [.step, .step]).result? 1).map Except.isOk = some true := by
  decide +kernel

end ShellSession.Engine
