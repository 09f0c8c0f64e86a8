/-
**The storage functions, as transactions.**

Each function is the program of statements its source sends, in order, with the early returns: a
`return Ok(Err(failure))` and a `?` both drop the transaction, so both are rollbacks.

* The `SET` clauses are functions on the columns an update may write (`EffectProgress.leased`,
  `SagaProgress.refreshed`, …), so each can be read beside its SQL text.
* `summarize` — the loop of `refresh_saga_status`.
* `start`, `get`, `retry`, `requestCleanup`, `quarantineExpired`, `claimNext`, `finalizeEffect`.

`now` is `CURRENT_TIMESTAMP`, the start of the transaction; generated UUIDs are arguments.
-/
import OrganizationProvisioning.Model.Sql

namespace OrganizationProvisioning

open Transactional

/-! ### Inputs and results -/

structure BootstrapGrant where
  subjectKind : String
  feature : String
  limit : Option Int
deriving DecidableEq

structure RetryInput where
  caller : String
  actor : String
  idempotencyKey : String
  requestHash : List UInt8
  provisioningId : Uuid
  expectedRevision : Int
  resolution : RetryResolution
  observedOrganizationId : Option String
  observedOwnerMembershipId : Option String
  observedGrantId : Option String
  evidence : String

structure CleanupInput where
  caller : String
  actor : String
  idempotencyKey : String
  requestHash : List UInt8
  provisioningId : Uuid
  expectedRevision : Int
  evidence : String

structure StartInput where
  caller : String
  actor : String
  idempotencyKey : String
  requestHash : List UInt8
  provisioningId : Uuid
  name : String
  slug : String
  ownerSubject : String
  grants : List BootstrapGrant

/-- What a worker takes away from a claim. -/
structure EffectRecord where
  effectId : Uuid
  provisioningId : Uuid
  kind : EffectKind
  downstreamKey : String
  subjectKind : Option String
  feature : Option String
  limit : Option Int
  externalId : Option String
  leaseToken : Uuid
  name : String
  slug : String
  ownerSubject : String
  organizationId : Option String
deriving DecidableEq

inductive EffectOutcome
  | organizationApplied (organizationId ownerMembershipId : String) (receipt : Json)
  | entitlementApplied (grantId : String) (receipt : Json)
  | compensated (receipt : Json)
  | failed (errorCode : String)
  | unknown (errorCode : String)

inductive FinalizeResult
  | applied | failed | manualReview | superseded
deriving DecidableEq, Repr

inductive MutationReplay
  | execute
  | replay (response : ProvisioningView)

/-- The last instant of `OffsetDateTime`, in microseconds, and the first. -/
def maxInstant : Timestamp := 253402300799999999

def minInstant : Timestamp := -377705116800000000

def invalidData (detail : String) : Abort := .storage (.invalidStoredData detail)

/-! ### Control -/

/-- Go on under a condition. -/
def require (condition : Bool) (otherwise : Abort) : Transaction Unit :=
  if condition then .pure () else .abort otherwise

/-- The value of an option, which must be there. -/
def expect {α : Type} (otherwise : Abort) : Option α → Transaction α
  | some value => .pure value
  | none => .abort otherwise

/-- `fetch_one`, and the decoding of a column that must not be null. -/
def fetchOne {α : Type} (operation : String) (row : Option α) : Transaction α :=
  expect (.storage (.database operation)) row

/-! ### `SET` clauses of effects -/

namespace EffectProgress

/-- `state='in_flight',attempts=attempts+1,lease_token=$2,lease_until=$3,last_error=NULL`. -/
def leased (now : Timestamp) (fence : Uuid) (leaseUntil : Timestamp) (old : EffectProgress) :
    EffectProgress :=
  { old with
    state := .inFlight
    attempts := old.attempts + 1
    leaseToken := some fence
    leaseUntil := some leaseUntil
    lastError := none
    updatedAt := now }

/-- `state='applied',external_id=$2,…,provider_receipt=$3,completed_at=CURRENT_TIMESTAMP`. -/
def applied (now : Timestamp) (externalId : String) (receipt : Json) (old : EffectProgress) :
    EffectProgress :=
  { old with
    state := .applied
    externalId := some externalId
    leaseToken := none
    leaseUntil := none
    lastError := none
    providerReceipt := some receipt
    completedAt := some now
    updatedAt := now }

/-- `state='compensated',…,provider_receipt=$2,completed_at=CURRENT_TIMESTAMP`. -/
def compensated (now : Timestamp) (receipt : Json) (old : EffectProgress) : EffectProgress :=
  { old with
    state := .compensated
    leaseToken := none
    leaseUntil := none
    lastError := none
    providerReceipt := some receipt
    completedAt := some now
    updatedAt := now }

/-- `state='failed',lease_token=NULL,lease_until=NULL,last_error=$2`, and the same to
`'unknown'`. -/
def stopped (now : Timestamp) (state : EffectState) (error : String) (old : EffectProgress) :
    EffectProgress :=
  { old with
    state := state
    leaseToken := none
    leaseUntil := none
    lastError := some error
    updatedAt := now }

/-- `state='pending',lease_token=NULL,lease_until=NULL,last_error=NULL`. -/
def reset (now : Timestamp) (old : EffectProgress) : EffectProgress :=
  { old with
    state := .pending
    leaseToken := none
    leaseUntil := none
    lastError := none
    updatedAt := now }

/-- `state='skipped',last_error='cleanup_requested'`. -/
def skipped (now : Timestamp) (old : EffectProgress) : EffectProgress :=
  { old with
    state := .skipped
    lastError := some "cleanup_requested"
    updatedAt := now }

end EffectProgress

/-! ### `SET` clauses of sagas -/

namespace SagaProgress

/-- `status=$2,revision=revision+1,last_error=NULL`, and with a status and an error of its own when
a lease expired. -/
def moved (now : Timestamp) (status : SagaStatus) (error : Option String) (old : SagaProgress) :
    SagaProgress :=
  { old with
    status := status
    revision := old.revision + 1
    lastError := error
    updatedAt := now }

/-- `organization_id=$2,owner_membership_id=$3,organization_residue=TRUE`. -/
def recorded (organizationId ownerMembershipId : String) (old : SagaProgress) : SagaProgress :=
  { old with
    organizationId := some organizationId
    ownerMembershipId := some ownerMembershipId
    organizationResidue := true }

/-- `cleanup_requested=TRUE,last_error=NULL`. -/
def cleanupMarked (old : SagaProgress) : SagaProgress :=
  { old with
    cleanupRequested := true
    lastError := none }

/-- The `UPDATE` of `refresh_saga_status`; `$5` is the organization id read before it. -/
def refreshed (now : Timestamp) (bump : Int) (summary : SagaStatus × Option String)
    (organizationId : Option String) (old : SagaProgress) : SagaProgress :=
  { old with
    status := summary.1
    revision := old.revision + bump
    lastError := summary.2
    organizationResidue := organizationId.isSome
    updatedAt := now
    completedAt := if summary.1 = .completed then old.completedAt.or (some now)
      else old.completedAt
    cleanupCompletedAt := if summary.1 = .cleanupCompleted then old.cleanupCompletedAt.or (some now)
      else old.cleanupCompletedAt }

end SagaProgress

/-! ### Shared pieces -/

/-- The columns of a saga's first row. -/
def newSaga (now : Timestamp) (input : StartInput) : SagaRow where
  provisioningId := input.provisioningId
  requestedBy := input.actor
  name := input.name
  slug := input.slug
  ownerSubject := input.ownerSubject
  createdAt := now
  status := .pending
  revision := 1
  organizationId := none
  ownerMembershipId := none
  cleanupRequested := false
  organizationResidue := false
  lastError := none
  updatedAt := now
  completedAt := none
  cleanupCompletedAt := none

/-- The columns an inserted effect starts with. -/
def newProgress (now : Timestamp) (externalId : Option String) : EffectProgress where
  state := .pending
  externalId := externalId
  attempts := 0
  leaseToken := none
  leaseUntil := none
  lastError := none
  providerReceipt := none
  updatedAt := now
  completedAt := none

/-- `organization-provisioning:{provisioning_id}:create:v1`. -/
def createKey (provisioningId : Uuid) : String :=
  "organization-provisioning:" ++ provisioningId.text ++ ":create:v1"

/-- `organization-provisioning:{provisioning_id}:entitlement:{ordinal}:v1`. -/
def entitlementKey (provisioningId : Uuid) (ordinal : Int) : String :=
  "organization-provisioning:" ++ provisioningId.text ++ ":entitlement:" ++ toString ordinal ++
    ":v1"

/-- `organization-provisioning:{provisioning_id}:cleanup:{ordinal}:v1`. -/
def cleanupKey (provisioningId : Uuid) (ordinal : Int) : String :=
  "organization-provisioning:" ++ provisioningId.text ++ ":cleanup:" ++ toString ordinal ++ ":v1"

def createEffect (now : Timestamp) (effectId provisioningId : Uuid) : EffectRow where
  effectId := effectId
  provisioningId := provisioningId
  kind := .createOrganization
  ordinal := 0
  downstreamKey := createKey provisioningId
  subjectKind := none
  feature := none
  limitValue := none
  sourceEffectId := none
  createdAt := now
  toEffectProgress := newProgress now none

def grantEffect (now : Timestamp) (effectId provisioningId : Uuid) (ordinal : Nat)
    (grant : BootstrapGrant) : EffectRow where
  effectId := effectId
  provisioningId := provisioningId
  kind := .putEntitlement
  ordinal := ordinal
  downstreamKey := entitlementKey provisioningId ordinal
  subjectKind := some grant.subjectKind
  feature := some grant.feature
  limitValue := grant.limit
  sourceEffectId := none
  createdAt := now
  toEffectProgress := newProgress now none

/-- The compensation of an applied grant. -/
def revokeEffect (now : Timestamp) (effectId : Uuid) (source : EffectRow)
    (subjectKind feature grantId : String) : EffectRow where
  effectId := effectId
  provisioningId := source.provisioningId
  kind := .revokeEntitlement
  ordinal := source.ordinal
  downstreamKey := cleanupKey source.provisioningId source.ordinal
  subjectKind := some subjectKind
  feature := some feature
  limitValue := source.limitValue
  sourceEffectId := some source.effectId
  createdAt := now
  toEffectProgress := newProgress now (some grantId)

def lockSaga (provisioningId : Uuid) (actor : String) : Transaction (Option SagaRow) :=
  exec "lock provisioning saga" (.lockSaga provisioningId fun row => row.requestedBy = actor)

def insertActivity (now : Timestamp) (activityId provisioningId : Uuid) (effectId : Option Uuid)
    (kind : ActivityKind) (actor : String) (revision : Int) (evidence : Json) :
    Transaction Unit :=
  exec "insert provisioning activity" (.insertActivity {
    activityId := activityId
    provisioningId := provisioningId
    effectId := effectId
    kind := kind
    actorSubject := actor
    provisioningRevision := revision
    evidence := evidence
    createdAt := now })

def resetEffectToPending (now : Timestamp) (effectId : Uuid) : Transaction Unit := do
  let _ ← exec "reset provisioning effect" (.updateEffect effectId
    (fun row => row.state = .failed ∨ row.state = .unknown) (.reset now))
  return ()

/-- The accumulators of the loop of `refresh_saga_status`. -/
structure Tally where
  unknown : Option String
  failed : Option String
  pending : Bool

/-- One iteration of the loop. -/
def Tally.add (cleanupRequested : Bool) (tally : Tally) (row : EffectRow) : Tally :=
  let relevant := if cleanupRequested then row.kind = .revokeEntitlement else row.kind.isMain
  if relevant then
    match row.state with
    | .unknown => { tally with unknown := tally.unknown.or row.lastError }
    | .failed => { tally with failed := tally.failed.or row.lastError }
    | .pending | .inFlight => { tally with pending := true }
    | _ => tally
  else tally

/-- The status and the error `refresh_saga_status` derives from the effects. -/
def summarize (cleanupRequested : Bool) (rows : List EffectRow) : SagaStatus × Option String :=
  let tally := rows.foldl (Tally.add cleanupRequested) ⟨none, none, false⟩
  match tally.unknown, tally.failed, tally.pending with
  | some error, _, _ => (.manualReview, some error)
  | none, some error, _ => (if cleanupRequested then .cleanupFailed else .failed, some error)
  | none, none, true => (if cleanupRequested then .cleanupPending else .pending, none)
  | none, none, false => (if cleanupRequested then .cleanupCompleted else .completed, none)

/-- Recompute the stored summary; the new revision. -/
def refreshSagaStatus (now : Timestamp) (provisioningId : Uuid) (bumpRevision : Bool) :
    Transaction Int := do
  let locked ← exec "lock provisioning status refresh" (.lockSaga provisioningId fun _ => true)
  let saga ← fetchOne "lock provisioning status refresh" locked
  let rows ← exec "read provisioning effects for status"
    (.selectEffects provisioningId (fun _ => true) phaseOrder)
  let updated ← exec "refresh provisioning status" (.updateSaga provisioningId
    (.refreshed now (if bumpRevision then 1 else 0) (summarize saga.cleanupRequested rows)
      saga.organizationId))
  let saga ← fetchOne "refresh provisioning status" updated
  return saga.revision

/-- How a rendering ends that meets an instant without a text: the driver panics over one that is after the last
instant of `OffsetDateTime`, and `format_time` refuses one before the year 0. -/
def undatedAbort (values : List Timestamp) : Abort :=
  if (values.find? fun value => (formatTime value).isNone).any fun value => maxInstant < value then .panicked
  else invalidData ("timestamp cannot be formatted: The year component cannot be formatted into the " ++
    "requested format.")

/-- The instants of a view, in the order they are decoded. -/
def viewInstants (row : SagaRow) (rows : List EffectRow) : List Timestamp :=
  (rows.map fun effect => effect.updatedAt) ++
    row.createdAt :: row.updatedAt :: (row.completedAt.toList ++ row.cleanupCompletedAt.toList)

/-- The view of a row and its steps, when its instants can be formatted. -/
def renderView (row : SagaRow) (rows : List EffectRow) : Option ProvisioningView :=
  (rows.mapM stepFromRow).bind (viewFromRow row)

def loadView (provisioningId : Uuid) (actor : String) : Transaction (Option ProvisioningView) := do
  let found ← exec "read provisioning saga"
    (.selectSaga provisioningId fun row => row.requestedBy = actor)
  match found with
  | none => return none
  | some row => do
    let rows ← exec "read provisioning steps"
      (.selectEffects provisioningId (fun _ => true) phaseOrder)
    let view ← expect (undatedAbort (viewInstants row rows)) (renderView row rows)
    return some view

def beginMutation (now : Timestamp) (caller idempotencyKey : String) (operation : Operation)
    (actor : String) (requestHash : List UInt8) (provisioningId : Option Uuid) :
    Transaction MutationReplay := do
  let inserted ← exec "reserve provisioning mutation" (.insertMutation {
    callerInstance := caller
    idempotencyKey := idempotencyKey
    operation := operation
    actorSubject := actor
    requestHash := requestHash
    createdAt := now
    provisioningId := provisioningId
    status := .started
    response := none })
  match inserted with
  | true => return .execute
  | false => do
    let found ← exec "read provisioning mutation replay" (.selectMutation caller idempotencyKey)
    let row ← fetchOne "read provisioning mutation replay" found
    require (row.operation = operation ∧ row.actorSubject = actor ∧ row.requestHash = requestHash)
      (.domain .idempotencyConflict)
    require (row.status = .completed) (invalidData "committed provisioning mutation is incomplete")
    let response ← expect (invalidData "completed provisioning mutation has no response")
      row.response
    let view ← expect (invalidData "invalid mutation response") (ProvisioningView.fromJson response)
    return .replay view

def completeMutation (caller idempotencyKey : String) (response : ProvisioningView) :
    Transaction Unit := do
  let affected ← exec "complete provisioning mutation" (.updateMutation caller idempotencyKey
    (fun row => row.status = .started)
    fun old => { old with status := .completed, response := some response.toJson })
  require (affected = 1) (invalidData "provisioning mutation completion lost ownership")

/-! ### `start` -/

/-- The UUIDs one call of `start` generates beside the provisioning id. -/
structure StartIds where
  createEffectId : Uuid
  grantEffectId : Nat → Uuid
  activityId : Uuid

/-- The loop over the grants. -/
def insertGrants (now : Timestamp) (provisioningId : Uuid) (effectId : Nat → Uuid) :
    Nat → List BootstrapGrant → Transaction Unit
  | _, [] => return ()
  | ordinal, grant :: grants => do
    require (ordinal ≤ 2147483647) (invalidData "bootstrap grant ordinal overflow")
    exec "insert entitlement bootstrap effect"
      (.insertEffect (grantEffect now (effectId ordinal) provisioningId ordinal grant))
    insertGrants now provisioningId effectId (ordinal + 1) grants

def start (now : Timestamp) (ids : StartIds) (input : StartInput) :
    Transaction ProvisioningView := do
  let replay ← beginMutation now input.caller input.idempotencyKey .start input.actor
    input.requestHash none
  match replay with
  | .replay response => return response
  | .execute => do
    exec "insert provisioning saga" (.insertSaga (newSaga now input))
    let _ ← exec "attach start mutation to provisioning saga"
      (.updateMutation input.caller input.idempotencyKey (fun _ => true)
        fun old => { old with provisioningId := some input.provisioningId })
    exec "insert organization creation effect"
      (.insertEffect (createEffect now ids.createEffectId input.provisioningId))
    insertGrants now input.provisioningId ids.grantEffectId 0 input.grants
    insertActivity now ids.activityId input.provisioningId none .provisioningStarted input.actor 1
      (.obj [("bootstrap_grants", .num input.grants.length)])
    let loaded ← loadView input.provisioningId input.actor
    let response ← expect (invalidData "new provisioning saga disappeared") loaded
    completeMutation input.caller input.idempotencyKey response
    return response

/-! ### `get` -/

def get (provisioningId : Uuid) (actor : String) : Transaction (Option ProvisioningView) :=
  loadView provisioningId actor

/-! ### `retry` -/

def RetryInput.observesNothing (input : RetryInput) : Bool :=
  input.observedOrganizationId.isNone && input.observedOwnerMembershipId.isNone &&
    input.observedGrantId.isNone

/-- The effect a retry resolves: the first one in doubt, or the first failed one. -/
def retriedEffect (input : RetryInput) (saga : SagaRow) : Transaction EffectRow := do
  if saga.status = .manualReview then do
    let rows ← exec "lock unknown provisioning effect" (.selectEffects input.provisioningId
      (fun row => row.state = .unknown) createdOrder)
    expect (.domain .manualResolutionRequired) rows.head?
  else if saga.status = .failed ∨ saga.status = .cleanupFailed then do
    require (input.resolution = .retryFailed) (.domain .invalidTransition)
    let rows ← exec "lock failed provisioning effect" (.selectEffects input.provisioningId
      (fun row => row.state = .failed) createdOrder)
    expect (.domain .invalidTransition) rows.head?
  else .abort (.domain .invalidTransition)

/-- `confirm_applied` for each kind of effect, with the observed ids that kind needs. -/
def confirmApplied (now : Timestamp) (input : RetryInput) (effect : EffectRow) :
    Transaction Unit :=
  match effect.kind with
  | .createOrganization =>
    match input.observedOrganizationId, input.observedOwnerMembershipId, input.observedGrantId with
    | some organizationId, some ownerMembershipId, none => do
      let _ ← exec "confirm organization creation effect" (.updateEffect effect.effectId
        (fun row => row.state = .unknown)
        (.applied now organizationId (.obj [("manual_confirmation", .bool true),
          ("owner_membership_id", .str ownerMembershipId)])))
      let _ ← exec "record manually confirmed organization" (.updateSaga input.provisioningId
        (.recorded organizationId ownerMembershipId))
      return ()
    | _, _, _ => .abort (.domain .manualResolutionRequired)
  | .putEntitlement =>
    match input.observedOrganizationId, input.observedOwnerMembershipId, input.observedGrantId with
    | none, none, some grantId => do
      let _ ← exec "confirm entitlement grant effect" (.updateEffect effect.effectId
        (fun row => row.state = .unknown)
        (.applied now grantId (.obj [("manual_confirmation", .bool true)])))
      return ()
    | _, _, _ => .abort (.domain .manualResolutionRequired)
  | .revokeEntitlement => do
    require input.observesNothing (.domain .manualResolutionRequired)
    let _ ← exec "confirm entitlement revocation effect" (.updateEffect effect.effectId
      (fun row => row.state = .unknown)
      (.compensated now (.obj [("manual_confirmation", .bool true)])))
    return ()

/-- The decision of the operator. -/
def resolveEffect (now : Timestamp) (input : RetryInput) (saga : SagaRow) (effect : EffectRow) :
    Transaction Unit :=
  match input.resolution with
  | .retryFailed => do
    require (saga.status ≠ .manualReview && input.observesNothing)
      (.domain .manualResolutionRequired)
    resetEffectToPending now effect.effectId
  | .confirmNotApplied => do
    require (saga.status = .manualReview && input.observesNothing) (.domain .invalidTransition)
    resetEffectToPending now effect.effectId
  | .confirmApplied => confirmApplied now input effect

def retryResolutionName : RetryResolution → String
  | .retryFailed => "retry_failed"
  | .confirmApplied => "confirm_applied"
  | .confirmNotApplied => "confirm_not_applied"

def retry (now : Timestamp) (activityId : Uuid) (input : RetryInput) :
    Transaction ProvisioningView := do
  let locked ← lockSaga input.provisioningId input.actor
  let saga ← expect (.domain .provisioningNotFound) locked
  let replay ← beginMutation now input.caller input.idempotencyKey .retry input.actor
    input.requestHash (some input.provisioningId)
  match replay with
  | .replay response => return response
  | .execute => do
    require (saga.revision = input.expectedRevision) (.domain .revisionConflict)
    let effect ← retriedEffect input saga
    resolveEffect now input saga effect
    let revision ← refreshSagaStatus now input.provisioningId true
    insertActivity now activityId input.provisioningId (some effect.effectId) .provisioningRetried
      input.actor revision
      (.obj [("resolution", .str (retryResolutionName input.resolution)),
        ("evidence", .str input.evidence), ("effect_kind", .str effect.kind.name)])
    let loaded ← loadView input.provisioningId input.actor
    let response ← expect (invalidData "retried provisioning saga disappeared") loaded
    completeMutation input.caller input.idempotencyKey response
    return response

/-! ### `request_cleanup` -/

/-- The loop over the applied grants; `effectId` gives the UUIDs it generates. -/
def insertRevokes (now : Timestamp) (effectId : Nat → Uuid) :
    Nat → List EffectRow → Transaction Unit
  | _, [] => return ()
  | index, source :: sources => do
    let subjectKind ← fetchOne "decode cleanup subject kind" source.subjectKind
    let feature ← fetchOne "decode cleanup feature" source.feature
    let grantId ← expect (invalidData "applied entitlement has no grant id") source.externalId
    exec "insert entitlement cleanup effect"
      (.insertEffect (revokeEffect now (effectId index) source subjectKind feature grantId))
    insertRevokes now effectId (index + 1) sources

def requestCleanup (now : Timestamp) (effectId : Nat → Uuid) (activityId : Uuid)
    (input : CleanupInput) : Transaction ProvisioningView := do
  let locked ← lockSaga input.provisioningId input.actor
  let saga ← expect (.domain .provisioningNotFound) locked
  let replay ← beginMutation now input.caller input.idempotencyKey .requestCleanup input.actor
    input.requestHash (some input.provisioningId)
  match replay with
  | .replay response => return response
  | .execute => do
    require (saga.revision = input.expectedRevision) (.domain .revisionConflict)
    require (!saga.cleanupRequested) (.domain .invalidTransition)
    require (saga.status ≠ .manualReview) (.domain .manualResolutionRequired)
    require (saga.status = .completed ∨ saga.status = .failed) (.domain .invalidTransition)
    let grants ← exec "lock applied bootstrap grants for cleanup"
      (.selectEffects input.provisioningId
        (fun row => row.kind = .putEntitlement ∧ row.state = .applied) ordinalOrder)
    let _ ← exec "skip unfinished bootstrap grants" (.updateEffects input.provisioningId
      (fun row => row.kind = .putEntitlement ∧ (row.state = .pending ∨ row.state = .failed))
      (.skipped now))
    insertRevokes now effectId 0 grants
    let _ ← exec "mark provisioning cleanup requested"
      (.updateSaga input.provisioningId .cleanupMarked)
    let revision ← refreshSagaStatus now input.provisioningId true
    insertActivity now activityId input.provisioningId none .cleanupRequested input.actor revision
      (.obj [("reversible_grants", .num grants.length),
        ("organization_residue", .bool saga.organizationId.isSome),
        ("evidence", .str input.evidence)])
    let loaded ← loadView input.provisioningId input.actor
    let response ← expect (invalidData "cleanup provisioning saga disappeared") loaded
    completeMutation input.caller input.idempotencyKey response
    return response

/-! ### `quarantine_expired` -/

/-- `state='in_flight' AND lease_until<CURRENT_TIMESTAMP`. -/
def expired (now : Timestamp) (row : EffectRow) : Bool :=
  row.state = .inFlight && row.leaseUntil.any fun leaseUntil => leaseUntil < now

/-- A running saga with an expired effect. -/
def hasExpired (now : Timestamp) (saga : SagaRow) (effects : List EffectRow) : Bool :=
  (saga.status = .running ∨ saga.status = .cleanupRunning) && effects.any (expired now)

def leaseExpiredError : String := "effect_outcome_unknown_after_lease_expiry"

/-- One iteration of the loop, on the saga the scan found. -/
def quarantineSaga (now : Timestamp) (actor : String) (activityId : Uuid) (saga : SagaRow) :
    Transaction Unit := do
  let rows ← exec "lock expired provisioning effect"
    (.selectEffects saga.provisioningId (expired now) updatedOrder)
  let effect ← expect (invalidData "expired effect disappeared while saga was locked") rows.head?
  let previousFence ← fetchOne "decode expired effect fence" effect.leaseToken
  let _ ← exec "quarantine expired provisioning effect" (.updateEffect effect.effectId
    (fun _ => true) (.stopped now .unknown leaseExpiredError))
  let updated ← exec "mark expired effect for manual review" (.updateSaga saga.provisioningId
    (.moved now .manualReview (some leaseExpiredError)))
  let updated ← fetchOne "mark expired effect for manual review" updated
  insertActivity now activityId saga.provisioningId (some effect.effectId) .effectOutcomeUnknown
    actor updated.revision
    (.obj [("effect_kind", .str effect.kind.name), ("reason", .str "lease_expired"),
      ("invalidated_fence", .str previousFence.text)])

/-- The loop: at most `fuel` more sagas after the first `quarantined`. -/
def quarantineLoop (now : Timestamp) (actor : String) (activityId : Nat → Uuid) :
    Nat → Nat → Transaction Nat
  | 0, quarantined => return quarantined
  | fuel + 1, quarantined => do
    let found ← exec "claim saga with expired effect" (.scanSagas (hasExpired now))
    match found with
    | none => return quarantined
    | some saga => do
      quarantineSaga now actor (activityId quarantined) saga
      quarantineLoop now actor activityId fuel (quarantined + 1)

def quarantineExpired (now : Timestamp) (actor : String) (activityId : Nat → Uuid) (limit : Int) :
    Transaction Nat :=
  quarantineLoop now actor activityId limit.toNat 0

/-! ### `claim_next` -/

/-- A saga with a due effect of its phase. -/
def claimable (saga : SagaRow) (effects : List EffectRow) : Bool :=
  (saga.status = .pending && effects.any fun row => row.state = .pending ∧ row.kind.isMain) ||
    (saga.status = .cleanupPending &&
      effects.any fun row => row.state = .pending ∧ row.kind = .revokeEntitlement)

/-- `ORDER BY CASE kind WHEN 'create_organization' THEN 0 ELSE 1 END ASC,ordinal ASC,
effect_id ASC`. -/
def claimOrder (first second : EffectRow) : Bool :=
  let rank (row : EffectRow) : Nat := if row.kind = .createOrganization then 0 else 1
  rank first < rank second ∨ (rank first = rank second ∧ ordinalOrder first second)

/-- The effect to claim: the first pending one of the saga's phase. -/
def dueEffect (saga : SagaRow) : Transaction EffectRow :=
  if saga.cleanupRequested then do
    let rows ← exec "lock entitlement cleanup effect" (.selectEffects saga.provisioningId
      (fun row => row.kind = .revokeEntitlement ∧ row.state = .pending) ordinalOrder)
    fetchOne "lock entitlement cleanup effect" rows.head?
  else do
    let rows ← exec "lock provisioning effect" (.selectEffects saga.provisioningId
      (fun row => row.kind.isMain ∧ row.state = .pending) claimOrder)
    fetchOne "lock provisioning effect" rows.head?

/-- `OffsetDateTime::now_utc().checked_add(Duration::seconds(lease_seconds))`. -/
def leaseEnd (utcNow : Timestamp) (leaseSeconds : Int) : Option Timestamp :=
  let leaseUntil := utcNow + leaseSeconds * 1000000
  if minInstant ≤ leaseUntil ∧ leaseUntil ≤ maxInstant then some leaseUntil else none

/-- The record of a claimed effect, with the inputs read from its saga. -/
def effectRecord (effect : EffectRow) (fence : Uuid) (saga : SagaRow) : EffectRecord where
  effectId := effect.effectId
  provisioningId := saga.provisioningId
  kind := effect.kind
  downstreamKey := effect.downstreamKey
  subjectKind := effect.subjectKind
  feature := effect.feature
  limit := effect.limitValue
  externalId := effect.externalId
  leaseToken := fence
  name := saga.name
  slug := saga.slug
  ownerSubject := saga.ownerSubject
  organizationId := saga.organizationId

/-- The rest of `claim_next`, on the saga the scan found. -/
def claimSaga (now utcNow : Timestamp) (actor : String) (fence activityId : Uuid)
    (leaseSeconds : Int) (saga : SagaRow) : Transaction EffectRecord := do
  let effect ← dueEffect saga
  let leaseUntil ← expect (invalidData "effect lease overflow") (leaseEnd utcNow leaseSeconds)
  let leased ← exec "lease provisioning effect" (.updateEffect effect.effectId (fun _ => true)
    (.leased now fence leaseUntil))
  let leased ← fetchOne "lease provisioning effect" leased
  let updated ← exec "mark provisioning effect running" (.updateSaga saga.provisioningId
    (.moved now (if saga.cleanupRequested then .cleanupRunning else .running) none))
  let updated ← fetchOne "mark provisioning effect running" updated
  insertActivity now activityId saga.provisioningId (some effect.effectId) .effectClaimed actor
    updated.revision
    (.obj [("effect_kind", .str effect.kind.name), ("attempt", .num leased.attempts),
      ("fence", .str fence.text)])
  let inputs ← exec "read claimed provisioning inputs"
    (.selectSaga saga.provisioningId fun _ => true)
  let inputs ← fetchOne "read claimed provisioning inputs" inputs
  return effectRecord effect fence inputs

def claimNext (now utcNow : Timestamp) (actor : String) (fence activityId : Uuid)
    (leaseSeconds : Int) : Transaction (Option EffectRecord) := do
  let found ← exec "claim due provisioning saga" (.scanSagas claimable)
  match found with
  | none => return none
  | some saga => do
    let record ← claimSaga now utcNow actor fence activityId leaseSeconds saga
    return some record

/-! ### `finalize_effect` -/

/-- `state='in_flight' AND lease_token=$2`. -/
def fenced (fence : Uuid) (row : EffectRow) : Bool :=
  row.state = .inFlight ∧ row.leaseToken = some fence

/-- What an outcome writes, and the result and the activity it is recorded under. -/
def recordOutcome (now : Timestamp) (effect : EffectRecord) :
    EffectOutcome → Transaction (FinalizeResult × ActivityKind × Json)
  | .organizationApplied organizationId ownerMembershipId receipt => do
    require (effect.kind = .createOrganization)
      (invalidData "organization receipt applied to non-organization effect")
    let _ ← exec "complete organization creation effect" (.updateEffect effect.effectId
      (fenced effect.leaseToken) (.applied now organizationId receipt))
    let _ ← exec "record created organization" (.updateSaga effect.provisioningId
      (.recorded organizationId ownerMembershipId))
    return (.applied, .effectApplied, .obj [("organization_id", .str organizationId),
      ("owner_membership_id", .str ownerMembershipId)])
  | .entitlementApplied grantId receipt => do
    require (effect.kind = .putEntitlement)
      (invalidData "grant receipt applied to non-entitlement effect")
    let _ ← exec "complete entitlement grant effect" (.updateEffect effect.effectId
      (fenced effect.leaseToken) (.applied now grantId receipt))
    return (.applied, .effectApplied, .obj [("grant_id", .str grantId)])
  | .compensated receipt => do
    require (effect.kind = .revokeEntitlement)
      (invalidData "compensation receipt applied to non-cleanup effect")
    let _ ← exec "complete entitlement compensation effect" (.updateEffect effect.effectId
      (fenced effect.leaseToken) (.compensated now receipt))
    return (.applied, .effectCompensated, .obj [("grant_id", .optional effect.externalId)])
  | .failed errorCode => do
    let _ ← exec "fail provisioning effect" (.updateEffect effect.effectId
      (fenced effect.leaseToken) (.stopped now .failed errorCode))
    return (.failed, .effectFailed, .obj [("error_code", .str errorCode)])
  | .unknown errorCode => do
    let _ ← exec "quarantine unknown provisioning effect" (.updateEffect effect.effectId
      (fenced effect.leaseToken) (.stopped now .unknown errorCode))
    return (.manualReview, .effectOutcomeUnknown, .obj [("error_code", .str errorCode)])

def finalizeEffect (now : Timestamp) (activityId : Uuid) (effect : EffectRecord) (actor : String)
    (outcome : EffectOutcome) : Transaction FinalizeResult := do
  let locked ← exec "lock provisioning saga for effect finalization"
    (.lockSaga effect.provisioningId fun _ => true)
  let _ ← fetchOne "lock provisioning saga for effect finalization" locked
  let current ← exec "fence provisioning effect finalization"
    (.lockEffect effect.effectId (fenced effect.leaseToken))
  match current with
  | none => return .superseded
  | some _ => do
    let (result, kind, evidence) ← recordOutcome now effect outcome
    let revision ← refreshSagaStatus now effect.provisioningId true
    insertActivity now activityId effect.provisioningId (some effect.effectId) kind actor revision
      evidence
    return result

end OrganizationProvisioning
