/-
**The plugin in front of the store.**

Before it opens a transaction a handler asks which instance calls, reads the assertion of the context and checks
the request. What the kernel, its SDKs and the crates give is one parameter (`Host`).

* `authorizePublic`, `authorizeWorker` — who may call, and for whom.
* `startCall`, `retryCall`, `requestCleanupCall`, `processDueCall` — a handler up to the transactions it opens.
* `Allows` — what a caller must have; `authorize_ok` — **nothing less and nothing more is asked.**
* `startCall_ok`, `retryCall_ok`, `requestCleanupCall_ok` — what the transaction of a public request is called
  with.
* `Issued` — the transactions an accepted configuration opens, by a public handler or by the worker.
-/
import OrganizationProvisioning.Model.Failure
import OrganizationProvisioning.Model.Hashing
import OrganizationProvisioning.Model.Response
import OrganizationProvisioning.Model.Worker

namespace OrganizationProvisioning

/-! ### The host -/

structure ActorAssertion where
  actorKind : String
  subject : String

inductive ActorProjectionError
  | unexpectedActorKind (expected actual : String)

structure ProvisioningActor where
  subject : String

def ProvisioningActor.fromAssertion (assertion : ActorAssertion) :
    Except ActorProjectionError ProvisioningActor :=
  if assertion.actorKind = "user" ∨ assertion.actorKind = "service_account" then .ok ⟨assertion.subject⟩
  else .error (.unexpectedActorKind "user or service_account" assertion.actorKind)

/-- What is outside the source: the libraries that check a configuration, the instance that calls in a context,
the assertion of a context that the verifier of an issuer and its key accepts for an operation of a capability
at an instant, SHA-256, and the readers of texts. -/
structure Host (Ctx : Type) where
  checks : ConfigChecks
  callerInstance : Ctx → Option String
  assertion : String → String → Ctx → String → String → Timestamp → Option ActorAssertion
  sha256 : Digest
  readers : Readers

/-! ### Errors -/

/-- Failures that are not part of a contract, with their details; that of a database names the operation. -/
inductive RuntimeFailure
  | invalidResolvedPlan (detail : String)
  | pluginFailure (detail : String)
  | internal (detail : String)
deriving DecidableEq

inductive PluginError (Code : Type)
  | domain (error : DomainError Code)
  | runtime (failure : RuntimeFailure)

/-- `PublicRoleError::from_storage`. -/
def PublicCode.fromStorage : DomainFailure → PublicCode
  | .provisioningNotFound => .provisioningNotFound
  | .revisionConflict => .revisionConflict
  | .idempotencyConflict => .idempotencyConflict
  | .invalidTransition => .invalidTransition
  | .manualResolutionRequired => .manualResolutionRequired

def StorageError.detail : StorageError → String
  | .database operation => operation ++ ": "
  | .invalidStoredData detail => "invalid stored Organization Provisioning data: " ++ detail

/-- `storage_runtime`. -/
def storageRuntime {Code : Type} (error : StorageError) : PluginError Code :=
  .runtime (.pluginFailure error.detail)

/-- `serialization_runtime`. -/
def serializationRuntime {Code : Type} : PluginError Code :=
  .runtime (.internal "Organization Provisioning wire serialization failed: ")

/-- `ok_or_else`. -/
def okOr {Error Value : Type} (error : Error) : Option Value → Except Error Value
  | none => .error error
  | some value => .ok value

/-- What a caller is told of an aborted transaction: nothing, when the driver panicked. -/
def abortError : Abort → Option (PluginError PublicCode)
  | .domain failure => some (.domain (.known (.fromStorage failure)))
  | .storage error => some (storageRuntime error)
  | .panicked => none

/-! ### The plugin -/

/-- The plugin instance: its configuration, and whether it has its pool. -/
structure PostgresOrganizationProvisioningPlugin where
  config : OrganizationProvisioningConfig
  prepared : Bool

/-- `START_OPERATION`, `RETRY_OPERATION` and `REQUEST_CLEANUP_OPERATION`. -/
def Operation.wireName : Operation → String
  | .start => "start"
  | .retry => "retry"
  | .requestCleanup => "request_cleanup"

/-- `CAPABILITY_ID` of the public role. -/
def publicCapability : String := "lenso.organization-provisioning@1"

/-- `CAPABILITY_ID` of the worker role. -/
def workerCapability : String := "lenso.organization-provisioning-worker@1"

section Handlers

variable {Ctx : Type} (host : Host Ctx)

def allowedCaller (context : Ctx) (allowed : List String) : Option String :=
  (host.callerInstance context).filter fun caller => allowed.contains caller

/-- What a handler is called with: the context, and what the clock shows when the assertion is verified. -/
structure Invoked (Ctx : Type) where
  context : Ctx
  utcNow : Timestamp

namespace PostgresOrganizationProvisioningPlugin

variable (plugin : PostgresOrganizationProvisioningPlugin) (invoked : Invoked Ctx)

def authenticatedSubject (capability operation : String) : Option String :=
  let issuer := plugin.config.authIssuer
  let key := plugin.config.authAssertionPublicKey
  if host.checks.publicKey issuer key then do
    let assertion ← host.assertion issuer key invoked.context capability operation invoked.utcNow
    let actor ← (ProvisioningActor.fromAssertion assertion).toOption
    if validOpaqueId actor.subject 512 then some actor.subject else none
  else none

/-- The two authorizations, with the errors, the callers and the capability of their role. -/
def authorize {Code : Type} (forbidden unauthenticated : Code) (callers : List String)
    (capability operation : String) : Except (PluginError Code) Asker :=
  match allowedCaller host invoked.context callers with
  | none => .error (.domain (.known forbidden))
  | some caller =>
    match plugin.authenticatedSubject host invoked capability operation with
    | none => .error (.domain (.known unauthenticated))
    | some actor => .ok ⟨caller, actor⟩

def authorizePublic (operation : String) : Except (PluginError PublicCode) Asker :=
  plugin.authorize host invoked .forbidden .unauthenticated plugin.config.managementCallers publicCapability
    operation

def authorizeWorker (operation : String) : Except (PluginError WorkerCode) Asker :=
  plugin.authorize host invoked .forbidden .unauthenticated plugin.config.workerCallers workerCapability
    operation

/-- The pool, or the failure of a plugin that has none. -/
def requirePrepared {Code : Type} : Except (PluginError Code) Unit :=
  check plugin.prepared (.runtime (.pluginFailure "Organization Provisioning Plugin is not prepared"))

/-- `start`, up to its transaction. -/
def startCall (now : Timestamp) (ids : StartIds) (provisioningId : Uuid) (request : StartRequest) :
    Except (PluginError PublicCode) Event := do
  let asker ← plugin.authorizePublic host invoked Operation.start.wireName
  let input ← okOr (.domain (.known .invalidRequest))
    (startInput asker (requestHash host.sha256 request.wire) provisioningId [] request)
  let grants ← okOr (.runtime (.invalidResolvedPlan "Organization Provisioning grant limit is invalid"))
    plugin.config.grantSnapshots
  plugin.requirePrepared
  return .start now ids { input with grants := grants }

/-- `retry`, up to its transaction. -/
def retryCall (now : Timestamp) (activityId : Uuid) (request : RetryRequest) :
    Except (PluginError PublicCode) Event := do
  let asker ← plugin.authorizePublic host invoked Operation.retry.wireName
  let input ← okOr (.domain (.known .invalidRequest))
    (retryInput host.readers.parseUuid asker (requestHash host.sha256 request.wire) request)
  plugin.requirePrepared
  return .retry now activityId input

/-- `request_cleanup`, up to its transaction. -/
def requestCleanupCall (now : Timestamp) (effectId : Nat → Uuid) (activityId : Uuid)
    (request : RequestCleanupRequest) : Except (PluginError PublicCode) Event := do
  let asker ← plugin.authorizePublic host invoked Operation.requestCleanup.wireName
  let input ← okOr (.domain (.known .invalidRequest))
    (cleanupInput host.readers.parseUuid asker (requestHash host.sha256 request.wire) request)
  plugin.requirePrepared
  return .requestCleanup now effectId activityId input

/-- `get`, up to its statements: the saga it asks for, and the actor it asks for. -/
def getCall (provisioningId : String) : Except (PluginError PublicCode) (Uuid × String) := do
  let asker ← plugin.authorizePublic host invoked "get"
  let id ← okOr (.domain (.known .invalidRequest)) (host.readers.parseUuid provisioningId)
  plugin.requirePrepared
  return (id, asker.actor)

/-- `process_due`, up to its transactions: the actor of the worker. -/
def processDueCall (request : ProcessDueRequest) : Except (PluginError WorkerCode) String := do
  let asker ← plugin.authorizeWorker host invoked "process_due"
  check request.valid (.domain (.known .invalidRequest))
  plugin.requirePrepared
  return asker.actor

end PostgresOrganizationProvisioningPlugin

/-- A public mutation. -/
inductive PublicRequest
  | start (request : StartRequest)
  | retry (request : RetryRequest)
  | requestCleanup (request : RequestCleanupRequest)

namespace PublicRequest

def operation : PublicRequest → Operation
  | .start _ => .start
  | .retry _ => .retry
  | .requestCleanup _ => .requestCleanup

def idempotencyKey : PublicRequest → String
  | .start request => request.idempotencyKey
  | .retry request => request.idempotencyKey
  | .requestCleanup request => request.idempotencyKey

/-- What is hashed of it. -/
def wire : PublicRequest → List Char
  | .start request => request.wire
  | .retry request => request.wire
  | .requestCleanup request => request.wire

end PublicRequest

/-- What the clock and the UUIDs give a transaction. -/
structure CallInputs where
  now : Timestamp
  provisioningId : Uuid
  createEffectId : Uuid
  effectId : Nat → Uuid
  activityId : Uuid

namespace PostgresOrganizationProvisioningPlugin

variable (plugin : PostgresOrganizationProvisioningPlugin) (invoked : Invoked Ctx)

/-- A public mutation, up to its transaction. -/
def publicCall (inputs : CallInputs) : PublicRequest → Except (PluginError PublicCode) Event
  | .start request => plugin.startCall host invoked inputs.now
      ⟨inputs.createEffectId, inputs.effectId, inputs.activityId⟩ inputs.provisioningId request
  | .retry request => plugin.retryCall host invoked inputs.now inputs.activityId request
  | .requestCleanup request =>
      plugin.requestCleanupCall host invoked inputs.now inputs.effectId inputs.activityId request

end PostgresOrganizationProvisioningPlugin

/-! ### Who is let in -/

/-- **What a caller must have**: its instance is listed, and its context carries an assertion for this operation,
of a user or a service account with a valid subject. -/
structure Allows (config : OrganizationProvisioningConfig) (callers : List String)
    (capability operation : String) (invoked : Invoked Ctx) (asker : Asker) : Prop where
  calls : host.callerInstance invoked.context = some asker.caller
  listed : asker.caller ∈ callers
  verifier : host.checks.publicKey config.authIssuer config.authAssertionPublicKey = true
  asserted : ∃ assertion, host.assertion config.authIssuer config.authAssertionPublicKey invoked.context
    capability operation invoked.utcNow = some assertion ∧
      (assertion.actorKind = "user" ∨ assertion.actorKind = "service_account") ∧
      assertion.subject = asker.actor
  subject : validOpaqueId asker.actor 512 = true

theorem allowedCaller_eq {context : Ctx} {allowed : List String} {caller : String} :
    allowedCaller host context allowed = some caller ↔
      host.callerInstance context = some caller ∧ caller ∈ allowed := by
  unfold allowedCaller
  rw [Option.filter_eq_some_iff, List.contains_iff_mem]

namespace PostgresOrganizationProvisioningPlugin

variable {host} {plugin : PostgresOrganizationProvisioningPlugin} {invoked : Invoked Ctx}
  {capability operation actor : String} {asker : Asker}

theorem fromAssertion_ok {assertion : ActorAssertion} {projected : ProvisioningActor} :
    (ProvisioningActor.fromAssertion assertion).toOption = some projected ↔
      (assertion.actorKind = "user" ∨ assertion.actorKind = "service_account") ∧
        projected = ⟨assertion.subject⟩ := by
  unfold ProvisioningActor.fromAssertion
  split
  · rename_i kind
    constructor
    · intro same
      cases same
      exact ⟨kind, rfl⟩
    · rintro ⟨-, rfl⟩
      rfl
  · rename_i kind
    constructor
    · intro impossible
      cases impossible
    · rintro ⟨other, -⟩
      exact absurd other kind

theorem authenticatedSubject_eq : plugin.authenticatedSubject host invoked capability operation = some actor ↔
    host.checks.publicKey plugin.config.authIssuer plugin.config.authAssertionPublicKey = true ∧
      (∃ assertion, host.assertion plugin.config.authIssuer plugin.config.authAssertionPublicKey
        invoked.context capability operation invoked.utcNow = some assertion ∧
          (assertion.actorKind = "user" ∨ assertion.actorKind = "service_account") ∧
          assertion.subject = actor) ∧ validOpaqueId actor 512 = true := by
  unfold authenticatedSubject
  simp only [Option.ite_none_right_eq_some, Option.bind_eq_bind, Option.bind_eq_some_iff, fromAssertion_ok,
    Option.some.injEq]
  constructor
  · rintro ⟨key, assertion, found, _, ⟨kind, rfl⟩, valid, rfl⟩
    exact ⟨key, ⟨assertion, found, kind, rfl⟩, valid⟩
  · rintro ⟨key, ⟨assertion, found, kind, rfl⟩, valid⟩
    exact ⟨key, assertion, found, _, ⟨kind, rfl⟩, valid, rfl⟩

/-- **Who is let in.** -/
theorem authorize_ok {Code : Type} {forbidden unauthenticated : Code} {callers : List String} :
    plugin.authorize host invoked forbidden unauthenticated callers capability operation = .ok asker ↔
      Allows host plugin.config callers capability operation invoked asker := by
  unfold authorize
  constructor
  · intro authorized
    split at authorized
    · cases authorized
    · rename_i caller allowed
      split at authorized
      · cases authorized
      · rename_i actor authenticated
        cases authorized
        obtain ⟨calls, listed⟩ := (allowedCaller_eq host).mp allowed
        obtain ⟨verifier, asserted, subject⟩ := authenticatedSubject_eq.mp authenticated
        exact ⟨calls, listed, verifier, asserted, subject⟩
  · intro allows
    rw [(allowedCaller_eq host).mpr ⟨allows.calls, allows.listed⟩]
    simp only [authenticatedSubject_eq.mpr ⟨allows.verifier, allows.asserted, allows.subject⟩]

end PostgresOrganizationProvisioningPlugin

/-! ### The transactions -/

theorem okOr_eq {Error Value : Type} {error : Error} {found : Option Value} {value : Value} :
    okOr error found = .ok value ↔ found = some value := by
  cases found <;> simp [okOr]

theorem check_eq {Error : Type} {condition : Bool} {error : Error} {value : Unit} :
    check condition error = .ok value ↔ condition = true := by
  cases condition <;> simp [check]

theorem except_bind {Error Value Result : Type} {first : Except Error Value}
    {rest : Value → Except Error Result} {result : Result} :
    (first >>= rest) = .ok result ↔ ∃ value, first = .ok value ∧ rest value = .ok result := by
  cases first <;> simp [bind, Except.bind]

theorem except_pure {Error Value : Type} {value result : Value} :
    (pure value : Except Error Value) = .ok result ↔ value = result :=
  iff_of_eq (Except.ok.injEq value result)

/-- The grants of a start do not bear on its checks. -/
theorem startInput_grants {asker : Asker} {hash : List UInt8} {provisioningId : Uuid}
    {grants : List BootstrapGrant} {request : StartRequest} {input : StartInput} :
    startInput asker hash provisioningId grants request = some input ↔
      ∃ checked, startInput asker hash provisioningId [] request = some checked ∧
        input = { checked with grants := grants } := by
  simp only [startInput, Option.ite_none_right_eq_some, Option.some.injEq]
  constructor
  · rintro ⟨valid, rfl⟩
    exact ⟨_, ⟨valid, rfl⟩, rfl⟩
  · rintro ⟨checked, ⟨valid, rfl⟩, rfl⟩
    exact ⟨valid, rfl⟩

namespace PostgresOrganizationProvisioningPlugin

variable {host} {plugin : PostgresOrganizationProvisioningPlugin} {invoked : Invoked Ctx} {now : Timestamp}
  {event : Event}

/-- **The transaction of a start.** -/
theorem startCall_ok {ids : StartIds} {provisioningId : Uuid} {request : StartRequest} :
    plugin.startCall host invoked now ids provisioningId request = .ok event ↔ ∃ asker grants input,
      Allows host plugin.config plugin.config.managementCallers publicCapability Operation.start.wireName
        invoked asker ∧
      plugin.config.grantSnapshots = some grants ∧ plugin.prepared = true ∧
      startInput asker (requestHash host.sha256 request.wire) provisioningId grants request = some input ∧
      event = .start now ids input := by
  unfold startCall authorizePublic requirePrepared
  simp only [except_bind, okOr_eq, check_eq, authorize_ok, except_pure]
  constructor
  · rintro ⟨asker, allows, input, checked, grants, snapshot, _, prepared, rfl⟩
    exact ⟨asker, grants, _, allows, snapshot, prepared, startInput_grants.mpr ⟨input, checked, rfl⟩, rfl⟩
  · rintro ⟨asker, grants, _, allows, snapshot, prepared, accepted, rfl⟩
    obtain ⟨input, checked, rfl⟩ := startInput_grants.mp accepted
    exact ⟨asker, allows, input, checked, grants, snapshot, (), prepared, rfl⟩

/-- **The transaction of a retry.** -/
theorem retryCall_ok {activityId : Uuid} {request : RetryRequest} :
    plugin.retryCall host invoked now activityId request = .ok event ↔ ∃ asker input,
      Allows host plugin.config plugin.config.managementCallers publicCapability Operation.retry.wireName
        invoked asker ∧ plugin.prepared = true ∧
      retryInput host.readers.parseUuid asker (requestHash host.sha256 request.wire) request = some input ∧
      event = .retry now activityId input := by
  unfold retryCall authorizePublic requirePrepared
  simp only [except_bind, okOr_eq, check_eq, authorize_ok, except_pure]
  constructor
  · rintro ⟨asker, allows, input, checked, _, prepared, rfl⟩
    exact ⟨asker, input, allows, prepared, checked, rfl⟩
  · rintro ⟨asker, input, allows, prepared, checked, rfl⟩
    exact ⟨asker, allows, input, checked, (), prepared, rfl⟩

/-- **The transaction of a cleanup request.** -/
theorem requestCleanupCall_ok {effectId : Nat → Uuid} {activityId : Uuid} {request : RequestCleanupRequest} :
    plugin.requestCleanupCall host invoked now effectId activityId request = .ok event ↔ ∃ asker input,
      Allows host plugin.config plugin.config.managementCallers publicCapability
        Operation.requestCleanup.wireName invoked asker ∧ plugin.prepared = true ∧
      cleanupInput host.readers.parseUuid asker (requestHash host.sha256 request.wire) request = some input ∧
      event = .requestCleanup now effectId activityId input := by
  unfold requestCleanupCall authorizePublic requirePrepared
  simp only [except_bind, okOr_eq, check_eq, authorize_ok, except_pure]
  constructor
  · rintro ⟨asker, allows, input, checked, _, prepared, rfl⟩
    exact ⟨asker, input, allows, prepared, checked, rfl⟩
  · rintro ⟨asker, input, allows, prepared, checked, rfl⟩
    exact ⟨asker, allows, input, checked, (), prepared, rfl⟩

/-- **The actor of the worker.** -/
theorem processDueCall_ok {request : ProcessDueRequest} {actor : String} :
    plugin.processDueCall host invoked request = .ok actor ↔ ∃ asker,
      Allows host plugin.config plugin.config.workerCallers workerCapability "process_due" invoked asker ∧
      request.valid = true ∧ plugin.prepared = true ∧ actor = asker.actor := by
  unfold processDueCall authorizeWorker requirePrepared
  simp only [except_bind, check_eq, authorize_ok, except_pure]
  constructor
  · rintro ⟨asker, allows, _, valid, _, prepared, rfl⟩
    exact ⟨asker, allows, valid, prepared, rfl⟩
  · rintro ⟨asker, allows, valid, prepared, rfl⟩
    exact ⟨asker, allows, (), valid, (), prepared, rfl⟩

end PostgresOrganizationProvisioningPlugin

/-- **The transaction of a public request**, opened by an accepted configuration. -/
structure Handles (request : PublicRequest) (event : Event) : Prop where
  call : ∃ plugin : PostgresOrganizationProvisioningPlugin, ∃ invoked inputs,
    plugin.config.validate host.checks = .ok () ∧ plugin.publicCall host invoked inputs request = .ok event

/-- A transaction of `process_due`. -/
def Opens (request : ProcessDueRequest) (actor : String) : Event → Prop
  | .quarantineExpired _ worker _ limit => worker = actor ∧ limit = request.limit
  | .claimNext _ _ worker _ _ leaseSeconds => worker = actor ∧ leaseSeconds = request.leaseSeconds
  | .finalizeEffect _ _ _ worker _ => worker = actor
  | _ => False

/-- **The transactions of the service**: those of the public requests, and those of the worker. -/
inductive Issued (event : Event) : Prop
  | handled {request : PublicRequest} (handles : Handles host request event)
  | opened {plugin : PostgresOrganizationProvisioningPlugin} {invoked : Invoked Ctx}
      {request : ProcessDueRequest} {actor : String} (accepted : plugin.config.validate host.checks = .ok ())
      (called : plugin.processDueCall host invoked request = .ok actor) (opens : Opens request actor event)

end Handlers

end OrganizationProvisioning
