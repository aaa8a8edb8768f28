/-
**A hosted engine.**

A host may hold an engine, so that it answers as busy, for good or for a number of calls; it may
take the debugger away, and may have it refuse every verb. Pipelines and questions pass through the
gate; everything else goes to the engine as it is.

* `HostedEngine.letThrough`: whether the gate lets a call through;
* `HostedEngine.invoke`, `HostedEngine.askVariable`, `HostedEngine.askRelease`: the calls that pass
  through the gate.
-/

import ShellSession.Engine.Machine
import ShellSession.Session.Dialect

namespace ShellSession

/-- An engine and what its host has set. -/
structure HostedEngine where
  engine : Engine
  held : Bool
  heldFor : Nat
  debuggerPresent : Bool
  refusal : Option EngineFailure

namespace HostedEngine

/-- An engine whose host does not interfere. -/
def ofEngine (engine : Engine) : HostedEngine :=
  ⟨engine, false, 0, true, none⟩

/-- Whether the gate lets a call through; a call held back counts. -/
def letThrough (h : HostedEngine) : Bool × HostedEngine :=
  if h.held then (false, h)
  else if h.heldFor = 0 then (true, h)
  else (false, { h with heldFor := h.heldFor - 1 })

/-- A run begun for a caller. -/
def invoke (h : HostedEngine) (pipeline : Pipeline) : Except EngineFailure Nat × HostedEngine :=
  match h.letThrough with
  | (false, h) => (.error .busy, h)
  | (true, h) =>
    match h.engine.invoke pipeline with
    | .error error => (.error error, h)
    | .ok (ticket, engine) => (.ok ticket, { h with engine := engine })

/-- The value of a variable. -/
def askVariable (h : HostedEngine) (name : String) :
    Except EngineFailure (Option Value) × HostedEngine :=
  match h.letThrough with
  | (false, h) => (.error .busy, h)
  | (true, h) => (h.engine.askVariable name, h)

/-- The release of the engine. -/
def askRelease (h : HostedEngine) : Except EngineFailure Release × HostedEngine :=
  match h.letThrough with
  | (false, h) => (.error .busy, h)
  | (true, h) => (h.engine.askRelease, h)

/-- A verb given to the debugger. -/
def resume (h : HostedEngine) (verb : Verb) : Except SessionFailure HostedEngine :=
  if h.debuggerPresent then
    match h.refusal with
    | some error => .error (.execution error)
    | none =>
      match h.engine.resume verb with
      | .error error => .error (.execution error)
      | .ok engine => .ok { h with engine := engine }
  else .error .debuggerUnavailable

/-- A command given to the debugger for a caller. -/
def command (h : HostedEngine) (pipeline : Pipeline) : Except SessionFailure (Nat × HostedEngine) :=
  if h.debuggerPresent then
    match h.engine.command pipeline with
    | .error error => .error (.execution error)
    | .ok (ticket, engine) => .ok (ticket, { h with engine := engine })
  else .error .debuggerUnavailable

/-- The debugger of a dialect asked to stop at the next statement. -/
def pause (h : HostedEngine) (dialect : Dialect) : Except SessionFailure HostedEngine :=
  if h.debuggerPresent then
    match dialect.pauseFailure? with
    | some error => .error error
    | none => .ok { h with engine := h.engine.setStepping true }
  else .error .debuggerUnavailable

end HostedEngine

end ShellSession
