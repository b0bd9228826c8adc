import TenantStore.Http.Router
import TenantStore.Keyed
import TenantStore.Main
import TenantStore.Page.Walk
import TenantStore.Page.Window.Checked
import TenantStore.Query.Plan
import TenantStore.Run.Agreement
import TenantStore.Run.History
import TenantStore.Run.Tenancy
import TenantStore.Store.Listing
import TenantStore.Proofs.Acceptance
import TenantStore.Proofs.Accounts
import TenantStore.Proofs.Adding
import TenantStore.Proofs.Backends
import TenantStore.Proofs.Containment
import TenantStore.Proofs.CreationOrder
import TenantStore.Proofs.Cursors
import TenantStore.Proofs.FailedUpdates
import TenantStore.Proofs.Histories
import TenantStore.Proofs.ListFields
import TenantStore.Proofs.Masking
import TenantStore.Proofs.Memory.Arrival
import TenantStore.Proofs.Memory.Bookkeeping
import TenantStore.Proofs.Memory.Refinement
import TenantStore.Proofs.Parents
import TenantStore.Proofs.Places
import TenantStore.Proofs.Provenance
import TenantStore.Proofs.ReadingBack
import TenantStore.Proofs.Relational.Fetching
import TenantStore.Proofs.Relational.Refinement
import TenantStore.Proofs.Retries
import TenantStore.Proofs.Soundness
import TenantStore.Proofs.Tenancy.Isolation
import TenantStore.Proofs.Tenancy.Queries
import TenantStore.Proofs.Validation
import TenantStore.Proofs.Walks.Exact
import TenantStore.Proofs.Walks.Growing
import TenantStore.Proofs.Walks.Interleaved
import TenantStore.Proofs.Walks.TurningBack
import TenantStore.Proofs.Relational.StoredKeys
import TenantStore.Proofs.CheckedWindow
