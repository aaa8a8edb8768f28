/-
**How a task ends.**

A task returns, is cancelled, or panics with a payload that may be a text.

* `PanicPayload.message?`: the text of a payload;
* `Ending.message?`: the text of a failed task.
-/

namespace ShellSession

/-- What a panic carries. -/
inductive PanicPayload where
  | text (message : String)
  | other
deriving Repr, DecidableEq

namespace PanicPayload

/-- The text of a payload. -/
def message? : PanicPayload → Option String
  | text message => some message
  | other => none

/-- The text of a payload, or a placeholder. -/
def message (payload : PanicPayload) : String :=
  payload.message?.getD "<non-string panic payload>"

end PanicPayload

/-- The end of a task. -/
inductive Ending where
  | returned
  | cancelled
  | panicked (payload : PanicPayload)
deriving Repr, DecidableEq

/-- The text of a task that panicked. -/
def Ending.message? : Ending → Option String
  | panicked payload => some payload.message
  | _ => none

end ShellSession
