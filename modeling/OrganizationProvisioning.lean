import OrganizationProvisioning.Guarantee.NoReplay
import OrganizationProvisioning.Guarantee.Sequence
import OrganizationProvisioning.Guarantee.Fencing
import OrganizationProvisioning.Guarantee.Compensation
import OrganizationProvisioning.Guarantee.Contract
import OrganizationProvisioning.Guarantee.Snapshot
import OrganizationProvisioning.Guarantee.Lifecycle
import OrganizationProvisioning.Guarantee.Admission
import OrganizationProvisioning.Guarantee.Stability
import OrganizationProvisioning.Guarantee.Defenses
import OrganizationProvisioning.Guarantee.Polling
import OrganizationProvisioning.Guarantee.Draining
import OrganizationProvisioning.Guarantee.Resolution
import OrganizationProvisioning.Guarantee.Recovery
import OrganizationProvisioning.Guarantee.Cursor
import OrganizationProvisioning.Guarantee.Listing
import OrganizationProvisioning.Guarantee.Quarantine
import OrganizationProvisioning.Guarantee.Accounting
import OrganizationProvisioning.Guarantee.Timeline
import OrganizationProvisioning.Guarantee.Isolation
import OrganizationProvisioning.Guarantee.Concurrency
import OrganizationProvisioning.Guarantee.Revision
import OrganizationProvisioning.Guarantee.Idempotency
import OrganizationProvisioning.Guarantee.Selection
import OrganizationProvisioning.Guarantee.Deadlock
import OrganizationProvisioning.Guarantee.Audit
import OrganizationProvisioning.Guarantee.Exchange
import OrganizationProvisioning.Guarantee.Binding
import OrganizationProvisioning.Guarantee.Provenance
import OrganizationProvisioning.Guarantee.Decision
import OrganizationProvisioning.Guarantee.Verdict
