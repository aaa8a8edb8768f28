/-
**Why a call of a session fails.**

* `SessionFailure.message`: the wording of a failure;
* `SessionFailure.isUsage`: the failures of a call made at the wrong time;
* `Phase.refusal`: the failure of a request in a phase that accepts none.
-/

import ShellSession.Engine.Failure
import ShellSession.Session.Phase
import ShellSession.Value.Shape
import ShellSession.Version

namespace ShellSession

/-- A failure of a call of a session. -/
inductive SessionFailure where
  | notStarted
  | rejected (phase : Phase)
  | disposed
  | execution (error : EngineFailure)
  | decode (mismatch : Mismatch)
  | retriesExhausted (attempts : Nat)
  | notPaused
  | debuggerUnavailable
  | unsupportedVersion (version : Version)
  | invalidTransition (source target : Phase)
  | panicked (message : String)
  | abandoned
  | interpreterGone

namespace SessionFailure

/-- The wording of a failure. -/
def message : SessionFailure → String
  | notStarted => "session has not been started"
  | rejected phase => "session is " ++ phase.label ++ " and does not accept requests"
  | disposed => "session was disposed"
  | execution error => error.display
  | decode mismatch => "cannot decode engine output: " ++ mismatch.message
  | retriesExhausted attempts =>
    "engine stayed busy after " ++ Decimal.natText attempts ++ " attempts"
  | notPaused => "debugger is not paused"
  | debuggerUnavailable => "engine does not provide a debugger"
  | unsupportedVersion version => "engine version " ++ version.display ++ " is not supported"
  | invalidTransition source target =>
    "invalid session state transition from " ++ source.label ++ " to " ++ target.label
  | panicked message => "request panicked: " ++ message
  | abandoned => "request was dropped without a result"
  | interpreterGone => "interpreter thread has exited"

/-- The failures of a call made at the wrong time. -/
def isUsage : SessionFailure → Bool
  | notStarted => true
  | rejected _ => true
  | disposed => true
  | notPaused => true
  | debuggerUnavailable => true
  | invalidTransition _ _ => true
  | _ => false

end SessionFailure

/-- The failure of a request in a phase that accepts none. -/
def Phase.refusal : Phase → SessionFailure
  | .notStarted => .notStarted
  | .disposed => .disposed
  | phase => .rejected phase

end ShellSession
