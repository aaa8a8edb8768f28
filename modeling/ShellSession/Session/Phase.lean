/-
**The life of a session.**

A session is not started, ready, running a request, aborting, or disposed. It moves from one phase
to the next along `Phase.leadsTo`, and never leaves the last.

* `Phase.accepts`: the phases in which requests are accepted;
* `Phase.leadsTo`: the moves from phase to phase.
-/

namespace ShellSession

/-- A phase in the life of a session. -/
inductive Phase where
  | notStarted
  | ready
  | running
  | aborting
  | disposed
deriving Repr, DecidableEq, Inhabited

namespace Phase

/-- The label of a phase. -/
def label : Phase → String
  | notStarted => "not_started"
  | ready => "ready"
  | running => "running"
  | aborting => "aborting"
  | disposed => "disposed"

/-- Whether new requests are accepted. -/
def accepts : Phase → Bool
  | ready => true
  | running => true
  | _ => false

/-- The moves from phase to phase. -/
def leadsTo : Phase → Phase → Bool
  | notStarted, ready => true
  | ready, running => true
  | running, ready => true
  | ready, aborting => true
  | running, aborting => true
  | notStarted, disposed => true
  | ready, disposed => true
  | running, disposed => true
  | aborting, disposed => true
  | _, _ => false

end Phase

end ShellSession
