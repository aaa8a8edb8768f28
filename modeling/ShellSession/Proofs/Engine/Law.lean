/-
**Laws of evaluation.**

A law says what an evaluation may do to the interpreter between two points at which somebody else
may act, the way in which it leaves a stop included. What is done to the interpreter at those points is
not the evaluation's doing, so a run keeps a law whatever state it goes on in.

* `Law`: a law, which is a rule that allows stops to be left;
* `Run.Keeps`, `Eval.Keeps`: a run and an evaluation keep a law;
* `evalPipeline_keeps`: **every pipeline keeps every law**.
-/

import ShellSession.Proofs.Engine.Rule

namespace ShellSession.Engine

/-! ### Laws and runs -/

/-- What an evaluation may do to the interpreter, and the failures with which it may end. -/
structure Law where
  change : Interpreter → Interpreter → Prop
  failure : EngineFailure → Prop
  refl : ∀ s, change s s
  trans : ∀ {s t u}, change s t → change t u → change s u
  nested : ∀ {s t}, change s t → t.nested = s.nested
  setVariable : ∀ s name value, change s (s.setVariable name value)
  setFrame : ∀ s frame, change s { s with frame := frame }
  setBreakpoints : ∀ s table update,
    change s ({ s with breakpoints := table : Interpreter }.emit (.breakpoint update))
  leaveStop : ∀ verb s, change s (leaveStop verb s)
  parse : ∀ fault position, failure (.parse fault position)
  runtime : ∀ fault position, failure (.runtime fault position)
  stopped : failure .stopped

variable {law : Law} {α β : Type}

/-- The results that a law allows. -/
def Law.Allows (law : Law) (result : Except EngineFailure α) : Prop :=
  ∀ error, result = .error error → law.failure error

theorem Law.allows_ok (value : α) : law.Allows (.ok value) := by
  intro error same
  cases same

theorem Law.allows_error {error : EngineFailure} (allowed : law.failure error) :
    law.Allows (.error error : Except EngineFailure α) := by
  intro other same
  cases same
  exact allowed

/-- A run that began in a state keeps a law. A stop is entered from a state that the law allows, and
whatever remains of the run keeps the law from any state outside nested commands. -/
def Run.Keeps (law : Law) : Run α → Interpreter → Prop
  | .done result s, before => law.change before s ∧ law.Allows result
  | .ready s go, before =>
    before.nested = 0 ∧ law.change before s ∧ ∀ t, t.nested = 0 → (go t).Keeps law t
  | .stopped stop s resume, before =>
    before.nested = 0 ∧ (∃ reached, law.change before reached ∧ s = enterStop stop reached) ∧
      (∀ verb t, t.nested = 0 → (resume verb t).Keeps law t) ∧ ∀ t, (resume .stop t).IsEnded
  | .calling _ _ s back, before =>
    law.change before s ∧
      (∀ outcome t, law.Allows outcome → t.nested = before.nested → (back outcome t).Keeps law t) ∧
      ∀ t, (back (.error .stopped) t).IsEnded

/-- An evaluation keeps a law, whatever state it begins in. -/
def Eval.Keeps (law : Law) (evaluation : Eval α) : Prop :=
  ∀ s, (evaluation s).Keeps law s

/-! ### Laws as rules -/

/-- A law as a rule, which does not say how stops are left. -/
def Law.rule (law : Law) : Rule where
  change := law.change
  failure := law.failure
  refl := law.refl
  trans := law.trans
  nested := law.nested
  setVariable := law.setVariable
  setFrame := law.setFrame
  setBreakpoints := law.setBreakpoints
  parse := law.parse
  runtime := law.runtime
  stopped := law.stopped

/-- A run keeps a law from an earlier state as well. -/
theorem Run.Keeps.since {run : Run α} {earlier before : Interpreter}
    (changed : law.change earlier before) (kept : run.Keeps law before) :
    run.Keeps law earlier := by
  have nested := law.nested changed
  cases run with
  | done result s => exact ⟨law.trans changed kept.1, kept.2⟩
  | ready s go =>
    obtain ⟨free, later, rest⟩ := kept
    exact ⟨nested.symm.trans free, law.trans changed later, rest⟩
  | stopped stop s resume =>
    obtain ⟨free, ⟨reached, later, same⟩, rest⟩ := kept
    exact ⟨nested.symm.trans free, ⟨reached, law.trans changed later, same⟩, rest⟩
  | calling file text s back =>
    obtain ⟨later, rest, ends⟩ := kept
    refine ⟨law.trans changed later, fun outcome t allowed level => ?_, ends⟩
    exact rest outcome t allowed (level.trans nested.symm)

/-- **A run that obeys the rule of a law keeps the law**: stops are left as the law allows. -/
theorem Run.Obeys.keeps {run : Run α} {before : Interpreter}
    (obeyed : run.Obeys law.rule before) : run.Keeps law before := by
  induction run generalizing before with
  | done result s => exact obeyed
  | ready s go ih =>
    obtain ⟨free, later, rest⟩ := obeyed
    exact ⟨free, later, fun t level => ih t (rest t level)⟩
  | stopped stop s resume ih =>
    obtain ⟨free, entered, rest, ends⟩ := obeyed
    exact ⟨free, entered, fun verb t level =>
      (ih verb t (rest verb t level)).since (law.leaveStop verb t), ends⟩
  | calling file text s back ih =>
    obtain ⟨later, rest, ends⟩ := obeyed
    exact ⟨later, fun outcome t allowed level => ih outcome t (rest outcome t allowed level), ends⟩

theorem runText_keeps (files : Files) (text : String) : Eval.Keeps law (runText files text) :=
  fun s => (runText_obeys files text s).keeps

/-- **Every pipeline keeps every law.** -/
theorem evalPipeline_keeps (files : Files) (pipeline : Pipeline) :
    Eval.Keeps law (evalPipeline files pipeline) :=
  fun s => (evalPipeline_obeys files pipeline s).keeps

end ShellSession.Engine
