import Reconciliation.Cluster.Recorder
import Reconciliation.Cluster.Store
import Reconciliation.Observability
import Reconciliation.Proofs.Pass.Carried
import Reconciliation.Proofs.Pass.LostUpdate
import Reconciliation.Proofs.Pass.Recorded
import Reconciliation.Proofs.Pass.Schedule
import Reconciliation.Proofs.Pass.Twice
import Reconciliation.Reconciler
import Reconciliation.Proofs.Pass.Protocol
import Reconciliation.Proofs.Memory.Alike
import Reconciliation.Proofs.Pass.Alike
import Reconciliation.Proofs.Pass.Apart
import Reconciliation.Proofs.Pass.Ceiling
import Reconciliation.Proofs.Pass.Timed
import Reconciliation.Proofs.Pass.Batch
import Reconciliation.Proofs.Pass.Reused
import Reconciliation.Proofs.Pass.Rendered
import Reconciliation.Proofs.Memory.Separate
import Reconciliation.Proofs.Cluster.Address
import Reconciliation.Proofs.Cluster.Answers
import Reconciliation.Proofs.Pass.Repeated
import Reconciliation.Proofs.Reread
import Reconciliation.Proofs.Resource.Controller
import Reconciliation.Proofs.Memory.Refusal
import Reconciliation.Proofs.Pass.Idempotent
import Reconciliation.Proofs.Backoff.Monotone
import Reconciliation.Proofs.Manifest.Grouping
import Reconciliation.Proofs.Configuration
import Reconciliation.Proofs.Resource.Conversion
import Reconciliation.Proofs.Pass.Accounts
import Reconciliation.Proofs.Memory.Unlogged
import Reconciliation.Proofs.Observability
import Reconciliation.Proofs.Cluster.Recorder
