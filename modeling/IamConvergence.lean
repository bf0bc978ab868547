import IamConvergence.Ordered.IdSet
import IamConvergence.Attachment.Difference
import IamConvergence.Attachment.Reconcile
import IamConvergence.Document.Equality
import IamConvergence.Document.Numeral
import IamConvergence.Document.Reader
import IamConvergence.Document.Writer
import IamConvergence.Iam.Account
import IamConvergence.Iam.Config
import IamConvergence.Iam.PolicyHandler
import IamConvergence.Iam.RoleHandler
import IamConvergence.Logging.Filter
import IamConvergence.Logging.Setup
import IamConvergence.Proofs.Pass.Service
import IamConvergence.Proofs.Pass.Discipline
import IamConvergence.Proofs.Pass.Cancellation
import IamConvergence.Proofs.Ordered.IdSet
import IamConvergence.Proofs.Attachment.Plan
import IamConvergence.Proofs.Attachment.Accounting
import IamConvergence.Proofs.Attachment.Membership
import IamConvergence.Proofs.Version.Trace
import IamConvergence.Proofs.Version.Store
import IamConvergence.Proofs.Version.Safety
import IamConvergence.Proofs.Document.WellFormed
import IamConvergence.Proofs.Document.Equality
import IamConvergence.Proofs.Version.Retry
import IamConvergence.Proofs.Version.Aging
import IamConvergence.Proofs.Version.Queue
import IamConvergence.Proofs.Version.Eviction
import IamConvergence.Proofs.Document.Alike
import IamConvergence.Proofs.Document.NumericEquality
import IamConvergence.Proofs.Document.Equivalence
import IamConvergence.Proofs.Document.Rendering
import IamConvergence.Proofs.Document.Scanning
import IamConvergence.Proofs.Document.Reading
import IamConvergence.Proofs.Account.Operations
import IamConvergence.Proofs.Account.Service
import IamConvergence.Proofs.Account.Adapters
import IamConvergence.Proofs.Account.WellFormed
import IamConvergence.Proofs.Account.Histories
import IamConvergence.Proofs.Role.Attachments
import IamConvergence.Proofs.Role.Trace
import IamConvergence.Proofs.Role.Deploy
import IamConvergence.Proofs.Role.Absence
import IamConvergence.Proofs.Role.Summary
import IamConvergence.Proofs.Role.Healing
import IamConvergence.Proofs.Policy.Versions
import IamConvergence.Proofs.Policy.Apply
import IamConvergence.Proofs.Policy.Convergence
import IamConvergence.Proofs.Idempotence
import IamConvergence.Proofs.Discipline
import IamConvergence.Proofs.Faults
import IamConvergence.Proofs.Cancellation
import IamConvergence.Proofs.Role.Races
import IamConvergence.Proofs.Account.Identity
import IamConvergence.Proofs.Account.Representation
import IamConvergence.Proofs.Account.Refinement
import IamConvergence.Proofs.Account.VersionRequests
import IamConvergence.Proofs.Account.VersionAdapter
import IamConvergence.Proofs.Policy.Deletion
import IamConvergence.Proofs.Account.Stepwise
import IamConvergence.Proofs.Account.Atomicity
import IamConvergence.Proofs.Account.Integrity
import IamConvergence.Proofs.Attachment.Progress
import IamConvergence.Proofs.Role.Retry
import IamConvergence.Proofs.Policy.Removal
import IamConvergence.Proofs.Role.Removal
import IamConvergence.Proofs.Policy.Tracking
import IamConvergence.Proofs.Account.Frame
import IamConvergence.Proofs.Role.Locality
import IamConvergence.Proofs.Independence
import IamConvergence.Proofs.Instant.Calendar
import IamConvergence.Proofs.Instant.Rfc3339
import IamConvergence.Proofs.Record.Shape
import IamConvergence.Proofs.Record.Persistence
import IamConvergence.Proofs.Config.Resolution
import IamConvergence.Proofs.Config.TrustPolicy
import IamConvergence.Proofs.Checks
import IamConvergence.Proofs.Policy.Naming
import IamConvergence.Proofs.Version.Draining
