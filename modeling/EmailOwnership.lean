import EmailOwnership.Context.Script
import EmailOwnership.Failure.Raised
import EmailOwnership.Rehearsal.Crowd
import EmailOwnership.Rehearsal.Database
import EmailOwnership.Rehearsal.Exchange
import EmailOwnership.Startup
import EmailOwnership.Store.Database.EmailTable
import EmailOwnership.Store.Database.Migrations
import EmailOwnership.Proofs.Memory.Transition
import EmailOwnership.Proofs.Memory.Step
import EmailOwnership.Proofs.Program.Writes
import EmailOwnership.Proofs.Registry.Writes
import EmailOwnership.Proofs.Crowd.Advance
import EmailOwnership.Proofs.Lifecycle
import EmailOwnership.Proofs.Program.Settled
import EmailOwnership.Proofs.Registry.Outcome
import EmailOwnership.Proofs.Registry.Atomic
import EmailOwnership.Proofs.Crowd.Settled
import EmailOwnership.Proofs.Serialization
import EmailOwnership.Proofs.Contention
import EmailOwnership.Proofs.CurrentCode
import EmailOwnership.Proofs.Memory.Filing
import EmailOwnership.Proofs.Memory.Accounts
import EmailOwnership.Proofs.Registry.Decision
import EmailOwnership.Proofs.Registry.Flow
import EmailOwnership.Proofs.Provenance
import EmailOwnership.Proofs.Database.Course
import EmailOwnership.Proofs.Database.Sessions
import EmailOwnership.Proofs.Database.Passage
import EmailOwnership.Proofs.Database.Discipline
import EmailOwnership.Proofs.Database.Ask
import EmailOwnership.Proofs.Database.LateWrite
import EmailOwnership.Proofs.Database.Mirror
import EmailOwnership.Proofs.Database.Refinement
import EmailOwnership.Proofs.Program.Dialogue
import EmailOwnership.Proofs.Registry.Course
import EmailOwnership.Proofs.Crowd.Dialogue
import EmailOwnership.Proofs.AlreadyVerified
import EmailOwnership.Proofs.FailedOperations
import EmailOwnership.Proofs.Memory.Growth
import EmailOwnership.Proofs.Representation
import EmailOwnership.Proofs.Database.Faults
import EmailOwnership.Proofs.ErrorSurface
import EmailOwnership.Proofs.Program.Alone
import EmailOwnership.Proofs.Registry.Alone
import EmailOwnership.Proofs.Interruption
import EmailOwnership.Proofs.Api.Alone
import EmailOwnership.Proofs.AccessControl
import EmailOwnership.Proofs.Password
import EmailOwnership.Proofs.Api.Answer
import EmailOwnership.Proofs.Acceptance
import EmailOwnership.Proofs.Api.Alike
import EmailOwnership.Proofs.Secrecy
import EmailOwnership.Proofs.Program.Delivery
import EmailOwnership.Proofs.Registry.Choice
import EmailOwnership.Proofs.Delivery
import EmailOwnership.Proofs.Conflict
import EmailOwnership.Proofs.MissingOwner
import EmailOwnership.Proofs.Text.Pieces
import EmailOwnership.Proofs.Text.Ascii
import EmailOwnership.Proofs.Mailbox
import EmailOwnership.Proofs.EchoedAddress
import EmailOwnership.Proofs.Program.Abreast
import EmailOwnership.Proofs.Authentication
import EmailOwnership.Proofs.Api.Callers
import EmailOwnership.Proofs.HiddenAccounts
import EmailOwnership.Proofs.Registry.Abreast
import EmailOwnership.Proofs.HiddenRecords
import EmailOwnership.Proofs.CredentialErrors
import EmailOwnership.Proofs.Spelling
import EmailOwnership.Proofs.Context.Scene
import EmailOwnership.Proofs.Context.Script
import EmailOwnership.Proofs.Cancellation
import EmailOwnership.Proofs.DecisionTable
import EmailOwnership.Rehearsal.Trouble
import EmailOwnership.Proofs.Program.Troubled
import EmailOwnership.Proofs.Recovery
import EmailOwnership.Proofs.Context.Double
import EmailOwnership.Proofs.Context.Expiry
import EmailOwnership.Proofs.Program.Denied
import EmailOwnership.Proofs.DoneContext
import EmailOwnership.Proofs.Database.Blame
import EmailOwnership.Proofs.Text.Lowered
import EmailOwnership.Proofs.NormalForm
import EmailOwnership.Proofs.AccountLookups
import EmailOwnership.Proofs.Text.Alphabetical
import EmailOwnership.Proofs.Database.OrderedPrefix
import EmailOwnership.Proofs.ErrorText
