import ShellSession.Settings.Reading
import ShellSession.Session.Settle
import ShellSession.Work.SharedWait
import ShellSession.Work.Channel
import ShellSession.Proofs.Session.Outcome
import ShellSession.Proofs.Session.Leftover
import ShellSession.Proofs.Session.Disposed
import ShellSession.Proofs.Session.Attempt
import ShellSession.Proofs.Session.Equivalence
import ShellSession.Proofs.Engine.Mirror
import ShellSession.Proofs.Engine.Transparency
import ShellSession.Proofs.Session.Life
import ShellSession.Proofs.Session.Lifecycle
import ShellSession.Proofs.Session.Afterlife
import ShellSession.Proofs.Session.Phases
import ShellSession.Proofs.Engine.Commands
import ShellSession.Proofs.Session.Chronicle
import ShellSession.Proofs.Session.Errand
import ShellSession.Proofs.Session.Exclusion
import ShellSession.Proofs.Engine.Reports
import ShellSession.Proofs.Engine.Stream
import ShellSession.Proofs.Session.Listener
import ShellSession.Proofs.Session.Reading
import ShellSession.Proofs.Session.Startup
import ShellSession.Proofs.Session.Awareness
import ShellSession.Proofs.Work.Traffic
import ShellSession.Proofs.Script.Parsing
import ShellSession.Proofs.Script.Naming
import ShellSession.Proofs.Engine.Nesting
import ShellSession.Proofs.Engine.Stopping
import ShellSession.Proofs.Engine.Halting
import ShellSession.Proofs.Engine.Scene
import ShellSession.Proofs.Engine.Blame
import ShellSession.Proofs.Engine.Unparsed
import ShellSession.Proofs.Session.Founding
import ShellSession.Proofs.Session.Question
import ShellSession.Proofs.Session.Inauguration
import ShellSession.Proofs.Session.Countdown
import ShellSession.Proofs.Session.Arrival
import ShellSession.Proofs.Session.Renumbering
import ShellSession.Proofs.Session.Visit
import ShellSession.Proofs.Session.Refusal
import ShellSession.Proofs.Session.Forgotten
import ShellSession.Proofs.Decimal.Nonzero
import ShellSession.Proofs.Decimal.Numeral
import ShellSession.Proofs.Engine.Exactness
import ShellSession.Proofs.Engine.Interplay
import ShellSession.Proofs.Engine.Compound
import ShellSession.Proofs.Engine.Ledger
import ShellSession.Proofs.Script.Printed
import ShellSession.Proofs.Engine.Printed
import ShellSession.Proofs.Script.Escapes
import ShellSession.Proofs.Value.Decoding
import ShellSession.Proofs.Work.Waiting
import ShellSession.Proofs.Engine.Completion
import ShellSession.Proofs.Version
import ShellSession.Proofs.Script.Layout
import ShellSession.Proofs.Engine.Acknowledgement
