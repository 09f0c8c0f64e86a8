/-
**The stored data: enumerations and rows.**

The enumerations list the values the `CHECK` constraints of migration 001 admit, each with the text
the column holds. A row is split into the columns only an `INSERT` writes (`SagaIntent`,
`EffectPlan`, `MutationRequest`) and the columns an `UPDATE` may write (`SagaProgress`,
`EffectProgress`, `MutationOutcome`), so that a
`SET` clause is a function on the second part and cannot touch the first.

Instants are microseconds since the epoch, the precision of `timestamptz`.
-/
import OrganizationProvisioning.Library.Table
import OrganizationProvisioning.Library.Numeral

namespace OrganizationProvisioning

/-- The 128 bits of a UUID. -/
abbrev Uuid := Fin (2 ^ 128)

instance Uuid.bits : NeZero ((2 : Nat) ^ 128) := ⟨by decide⟩

/-- Microseconds since the epoch. -/
abbrev Timestamp := Int

/-! ### UUID text -/

namespace Uuid

/-- The widths of the five hyphenated groups. -/
def groups : List Nat := [8, 4, 4, 4, 12]

/-- The hyphenated lower-case text. -/
def text (id : Uuid) : String := String.ofList (Numeral.hyphenated groups id.val)

/-- The UUID of a hyphenated text. -/
def parse (text : String) : Option Uuid :=
  (Numeral.readHyphenated groups 0 text.toList).bind fun value =>
    if small : value < 2 ^ 128 then some ⟨value, small⟩ else none

theorem parse_text (id : Uuid) : parse id.text = some id := by
  unfold parse text
  rw [String.toList_ofList, Numeral.readHyphenated_hyphenated]
  have bits : 16 ^ groups.sum = 2 ^ 128 := by decide
  rw [bits, Nat.mul_zero, Nat.zero_add, Nat.mod_eq_of_lt id.isLt, Option.bind_some,
    dif_pos id.isLt]

end Uuid

/-! ### Enumerations -/

inductive SagaStatus
  | pending | running | completed | failed | manualReview
  | cleanupPending | cleanupRunning | cleanupCompleted | cleanupFailed
deriving DecidableEq, Repr

def SagaStatus.name : SagaStatus → String
  | .pending => "pending"
  | .running => "running"
  | .completed => "completed"
  | .failed => "failed"
  | .manualReview => "manual_review"
  | .cleanupPending => "cleanup_pending"
  | .cleanupRunning => "cleanup_running"
  | .cleanupCompleted => "cleanup_completed"
  | .cleanupFailed => "cleanup_failed"

inductive EffectKind
  | createOrganization | putEntitlement | revokeEntitlement
deriving DecidableEq, Repr

namespace EffectKind

def name : EffectKind → String
  | .createOrganization => "create_organization"
  | .putEntitlement => "put_entitlement"
  | .revokeEntitlement => "revoke_entitlement"

/-- `CASE kind WHEN 'create_organization' THEN 0 WHEN 'put_entitlement' THEN 1 ELSE 2 END`. -/
def rank : EffectKind → Nat
  | .createOrganization => 0
  | .putEntitlement => 1
  | .revokeEntitlement => 2

end EffectKind

inductive EffectState
  | pending | inFlight | applied | failed | unknown | compensated | skipped
deriving DecidableEq, Repr

def EffectState.name : EffectState → String
  | .pending => "pending"
  | .inFlight => "in_flight"
  | .applied => "applied"
  | .failed => "failed"
  | .unknown => "unknown"
  | .compensated => "compensated"
  | .skipped => "skipped"

inductive MutationStatus
  | started | completed
deriving DecidableEq, Repr

/-- The operation a mutation row reserves its key for. -/
inductive Operation
  | start | retry | requestCleanup
deriving DecidableEq, Repr

inductive ActivityKind
  | provisioningStarted | provisioningRetried | cleanupRequested | effectClaimed
  | effectApplied | effectCompensated | effectFailed | effectOutcomeUnknown
deriving DecidableEq, Repr

inductive RetryResolution
  | retryFailed | confirmApplied | confirmNotApplied
deriving DecidableEq, Repr

/-! ### JSON -/

/-- The JSON values of the stored responses, receipts and evidence. -/
inductive Json
  | null
  | bool (value : Bool)
  | num (value : Int)
  | str (value : String)
  | arr (items : List Json)
  | obj (fields : List (String × Json))

/-- An optional text as JSON. -/
def Json.optional : Option String → Json
  | none => .null
  | some value => .str value

/-! ### Rows -/

/-- The columns of `organization_provisionings` fixed at insertion. -/
structure SagaIntent where
  provisioningId : Uuid
  requestedBy : String
  name : String
  slug : String
  ownerSubject : String
  createdAt : Timestamp
deriving DecidableEq

/-- The columns of `organization_provisionings` that updates write. -/
structure SagaProgress where
  status : SagaStatus
  revision : Int
  organizationId : Option String
  ownerMembershipId : Option String
  cleanupRequested : Bool
  organizationResidue : Bool
  lastError : Option String
  updatedAt : Timestamp
  completedAt : Option Timestamp
  cleanupCompletedAt : Option Timestamp
deriving DecidableEq

/-- A row of `organization_provisionings`. -/
structure SagaRow extends SagaIntent, SagaProgress
deriving DecidableEq

/-- The columns of `organization_provisioning_effects` fixed at insertion. -/
structure EffectPlan where
  effectId : Uuid
  provisioningId : Uuid
  kind : EffectKind
  ordinal : Int
  downstreamKey : String
  subjectKind : Option String
  feature : Option String
  limitValue : Option Int
  sourceEffectId : Option Uuid
  createdAt : Timestamp
deriving DecidableEq

/-- The columns of `organization_provisioning_effects` that updates write. -/
structure EffectProgress where
  state : EffectState
  externalId : Option String
  attempts : Int
  leaseToken : Option Uuid
  leaseUntil : Option Timestamp
  lastError : Option String
  providerReceipt : Option Json
  updatedAt : Timestamp
  completedAt : Option Timestamp

/-- A row of `organization_provisioning_effects`. -/
structure EffectRow extends EffectPlan, EffectProgress

/-- The columns of `organization_provisioning_mutations` fixed at insertion; the first two are its
primary key. -/
structure MutationRequest where
  callerInstance : String
  idempotencyKey : String
  operation : Operation
  actorSubject : String
  requestHash : List UInt8
  createdAt : Timestamp

/-- The columns of `organization_provisioning_mutations` that updates write. -/
structure MutationOutcome where
  provisioningId : Option Uuid
  status : MutationStatus
  response : Option Json

/-- A row of `organization_provisioning_mutations`. -/
structure MutationRow extends MutationRequest, MutationOutcome

/-- A row of `organization_provisioning_activity`. -/
structure ActivityRow where
  activityId : Uuid
  provisioningId : Uuid
  effectId : Option Uuid
  kind : ActivityKind
  actorSubject : String
  provisioningRevision : Int
  evidence : Json
  createdAt : Timestamp

/-- A `SET` clause on a saga row. -/
def SagaRow.set (row : SagaRow) (change : SagaProgress → SagaProgress) : SagaRow :=
  { row with toSagaProgress := change row.toSagaProgress }

/-- A `SET` clause on an effect row. -/
def EffectRow.set (row : EffectRow) (change : EffectProgress → EffectProgress) : EffectRow :=
  { row with toEffectProgress := change row.toEffectProgress }

/-- A `SET` clause on a mutation row. -/
def MutationRow.set (row : MutationRow) (change : MutationOutcome → MutationOutcome) :
    MutationRow :=
  { row with toMutationOutcome := change row.toMutationOutcome }

@[simp] theorem SagaRow.set_intent (row : SagaRow) (change : SagaProgress → SagaProgress) :
    (row.set change).toSagaIntent = row.toSagaIntent := rfl

@[simp] theorem SagaRow.set_progress (row : SagaRow) (change : SagaProgress → SagaProgress) :
    (row.set change).toSagaProgress = change row.toSagaProgress := rfl

@[simp] theorem EffectRow.set_plan (row : EffectRow) (change : EffectProgress → EffectProgress) :
    (row.set change).toEffectPlan = row.toEffectPlan := rfl

@[simp] theorem EffectRow.set_progress (row : EffectRow)
    (change : EffectProgress → EffectProgress) :
    (row.set change).toEffectProgress = change row.toEffectProgress := rfl

@[simp] theorem MutationRow.set_request (row : MutationRow)
    (change : MutationOutcome → MutationOutcome) :
    (row.set change).toMutationRequest = row.toMutationRequest := rfl

@[simp] theorem MutationRow.set_outcome (row : MutationRow)
    (change : MutationOutcome → MutationOutcome) :
    (row.set change).toMutationOutcome = change row.toMutationOutcome := rfl

/-- Whether a kind belongs to provisioning proper: `kind IN ('create_organization',
'put_entitlement')`. -/
def EffectKind.isMain (kind : EffectKind) : Bool :=
  kind = .createOrganization ∨ kind = .putEntitlement

end OrganizationProvisioning
