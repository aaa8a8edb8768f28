/-
**Debugger dialects.**

What a session can ask of the debugger depends on the engine's major version: from five on a running
script can be paused, in four it cannot, and in three nested output comes back as one text.

* `Dialect.ofVersion`: the dialect of a version, if it is supported;
* `Dialect.nestedPipeline`: the pipeline that is evaluated in a stop for a host's pipeline;
* `Dialect.pauseFailure?`: why a script cannot be paused.
-/

import ShellSession.Pipeline
import ShellSession.Session.Failure

namespace ShellSession

/-- The debugger operations of a range of versions. -/
inductive Dialect where
  | modern
  | fourth
  | third
deriving Repr, DecidableEq

namespace Dialect

/-- The name of a dialect. -/
def name : Dialect → String
  | modern => "modern"
  | fourth => "v4"
  | third => "v3"

/-- The dialect of a version. -/
def ofVersion (version : Version) : Except SessionFailure Dialect :=
  if 5 ≤ version.major then .ok modern
  else if version.major = 4 then .ok fourth
  else if version.major = 3 then .ok third
  else .error (.unsupportedVersion version)

/-- The pipeline that is evaluated in a stop: the oldest dialect turns the output into a text. -/
def nestedPipeline (dialect : Dialect) (pipeline : Pipeline) : Pipeline :=
  match dialect with
  | third => pipeline.push (.command "Out-String" [])
  | _ => pipeline

/-- The failure of pausing on a version that cannot pause. -/
def cannotPause (version : String) : SessionFailure :=
  .execution (.unsupported ("pausing the debugger is not supported on version " ++ version))

/-- Why a script cannot be paused, if it cannot. -/
def pauseFailure? : Dialect → Option SessionFailure
  | modern => none
  | fourth => some (cannotPause "4")
  | third => some (cannotPause "3")

end Dialect

end ShellSession
