/-
**The plugin around the store: its configuration and the downstream calls.**

* `OrganizationProvisioningConfig.validate` — the checks of a configuration. What the database kit
  says of a schema name and the assertion SDK of a key are parameters (`ConfigChecks`).
* `executeEffect` — the one downstream call of a claimed effect and the outcome it is recorded as.
  A downstream service is any function from requests to results (`Downstream`).
-/
import OrganizationProvisioning.Model.Storage

namespace OrganizationProvisioning

/-! ### Text checks -/

/-- `valid_dimension`: bounded, nonempty, and of ASCII letters, digits and `._-:/` only. -/
def validDimension (value : String) (maximum : Nat) : Bool :=
  value ≠ "" && value.utf8ByteSize ≤ maximum &&
    value.toList.all fun character => character.isAlphanum || ".:_-/".toList.contains character

def validOpaqueId (value : String) (maximum : Nat) : Bool := validDimension value maximum

def validIdentifier (value : String) (maximum : Nat) : Bool :=
  validOpaqueId value maximum && !value.toList.contains '/'

/-- The texts between slashes. -/
def segments : List Char → List (List Char)
  | [] => [[]]
  | '/' :: rest => [] :: segments rest
  | character :: rest =>
    match segments rest with
    | first :: others => (character :: first) :: others
    | [] => [[character]]

/-- `valid_secret_reference`: no leading, trailing or doubled slash, no `.` or `..` segment. -/
def validSecretReference (reference : String) : Bool :=
  let parts := segments reference.toList
  reference ≠ "" && reference.utf8ByteSize ≤ 256 && parts.all (fun part => part ≠ []) &&
    parts.all (fun part => part ≠ ['.'] && part ≠ ['.', '.']) && validOpaqueId reference 256

/-- `validate_callers`: between one and 64 distinct identifiers. -/
def validateCallers (callers : List String) : Bool :=
  callers ≠ [] && callers.length ≤ 64 && callers.all (validIdentifier · 256) && callers.Nodup

/-! ### Configuration -/

structure BootstrapGrantConfig where
  subjectKind : String
  feature : String
  limit : Option String

structure OrganizationProvisioningConfig where
  schema : String
  databaseUrlSecret : String
  authIssuer : String
  authAssertionPublicKey : String
  managementCallers : List String
  workerCallers : List String
  bootstrapGrants : List BootstrapGrantConfig

inductive OrganizationProvisioningConfigError
  | invalidSchema | invalidSecretReference | invalidAuthIssuer | invalidAuthPublicKey
  | invalidManagementCallers | invalidWorkerCallers | invalidBootstrapGrants
deriving DecidableEq, Repr

/-- The checks two libraries make: `SchemaPlan::new` and
`ActorAssertionVerifier::from_public_key_base64`. -/
structure ConfigChecks where
  schemaPlan : String → Bool
  publicKey : String → String → Bool

/-- `value.parse::<i64>()`. -/
def parseI64 (value : String) : Option Int :=
  Numeral.parseBounded (-9223372036854775808) 9223372036854775807 value

/-- The checks of one grant, beside that its subject kind and feature are new. -/
def BootstrapGrantConfig.valid (grant : BootstrapGrantConfig) : Bool :=
  (grant.subjectKind = "organization" || grant.subjectKind = "owner") &&
    validDimension grant.feature 128 &&
    grant.limit.all fun value => (parseI64 value).any fun limit => 0 < limit

/-- Go on under a condition. -/
def check {Error : Type} (condition : Bool) (error : Error) : Except Error Unit :=
  if condition then .ok () else .error error

theorem check_bind {Error Value : Type} {condition : Bool} {error : Error}
    {rest : Unit → Except Error Value} {value : Value} :
    (check condition error >>= rest) = .ok value ↔ condition = true ∧ rest () = .ok value := by
  unfold check
  cases condition <;> simp [bind, Except.bind]

namespace OrganizationProvisioningConfig

def validate (checks : ConfigChecks) (config : OrganizationProvisioningConfig) :
    Except OrganizationProvisioningConfigError Unit := do
  check (checks.schemaPlan config.schema) .invalidSchema
  check (validSecretReference config.databaseUrlSecret) .invalidSecretReference
  check (validIdentifier config.authIssuer 256) .invalidAuthIssuer
  check (checks.publicKey config.authIssuer config.authAssertionPublicKey) .invalidAuthPublicKey
  check (validateCallers config.managementCallers) .invalidManagementCallers
  check (validateCallers config.workerCallers) .invalidWorkerCallers
  check (config.bootstrapGrants.length ≤ 64) .invalidBootstrapGrants
  check (config.bootstrapGrants.all BootstrapGrantConfig.valid &&
    (config.bootstrapGrants.map fun grant => (grant.subjectKind, grant.feature)).Nodup)
    .invalidBootstrapGrants

/-- The grants a start snapshots; a limit that is no number makes the plan invalid. -/
def grantSnapshots (config : OrganizationProvisioningConfig) : Option (List BootstrapGrant) :=
  config.bootstrapGrants.mapM fun grant =>
    match grant.limit with
    | none => some ⟨grant.subjectKind, grant.feature, none⟩
    | some value => (parseI64 value).map fun limit => ⟨grant.subjectKind, grant.feature, some limit⟩

end OrganizationProvisioningConfig

/-! ### Downstream calls -/

/-- The end of a downstream call. -/
inductive Invocation (Error Response : Type)
  | ok (response : Response)
  | domain (error : Error)
  | runtime

structure CreateOrganizationRequest where
  idempotencyKey : String
  name : String
  ownerSubject : String
  slug : String
deriving DecidableEq

structure CreateOrganizationResponse where
  created : Bool
  organizationId : String
  ownerMembershipId : String

inductive CreateOrganizationError
  | forbidden | idempotencyConflict | invalidOrganization | slugConflict
  | unknown (code : String)

structure PutGrantRequest where
  scopeKind : String
  scopeId : String
  subject : String
  feature : String
  limit : Option String
  expiresAt : Option String
deriving DecidableEq

structure PutGrantResponse where
  grantId : String
  changed : Bool
  policyRevision : Json

inductive PutGrantError
  | forbidden | invalidGrant
  | unknown (code : String)

structure RevokeGrantRequest where
  grantId : String
deriving DecidableEq

structure RevokeGrantResponse where
  changed : Bool
  policyRevision : Json

inductive RevokeGrantError
  | forbidden | invalidGrant | notFound
  | unknown (code : String)

/-- The two administration services, at the moment of a call. -/
structure Downstream where
  createOrganization : CreateOrganizationRequest →
    Invocation CreateOrganizationError CreateOrganizationResponse
  putGrant : PutGrantRequest → Invocation PutGrantError PutGrantResponse
  revokeGrant : RevokeGrantRequest → Invocation RevokeGrantError RevokeGrantResponse

/-- `bounded_external_code`: the safe characters of a foreign code, 128 of them at most. -/
def boundedExternalCode (code value : String) : String :=
  code ++ ":" ++ String.ofList ((value.toList.filter fun character =>
    character.isAlphanum || "._-".toList.contains character).take 128)

def organizationErrorCode : CreateOrganizationError → String
  | .forbidden => "organization_forbidden"
  | .idempotencyConflict => "organization_idempotency_conflict"
  | .invalidOrganization => "organization_invalid"
  | .slugConflict => "organization_slug_conflict"
  | .unknown code => boundedExternalCode "organization_domain" code

def putGrantErrorCode : PutGrantError → String
  | .forbidden => "entitlement_put_forbidden"
  | .invalidGrant => "entitlement_put_invalid"
  | .unknown code => boundedExternalCode "entitlement_put_domain" code

def revokeGrantErrorCode : RevokeGrantError → String
  | .forbidden => "entitlement_revoke_forbidden"
  | .invalidGrant => "entitlement_revoke_invalid"
  | .notFound => "entitlement_revoke_not_found"
  | .unknown code => boundedExternalCode "entitlement_revoke_domain" code

/-- The request of `execute_create_organization`. -/
def createRequest (effect : EffectRecord) : CreateOrganizationRequest where
  idempotencyKey := effect.downstreamKey
  name := effect.name
  ownerSubject := effect.ownerSubject
  slug := effect.slug

def executeCreateOrganization (downstream : Downstream) (effect : EffectRecord) : EffectOutcome :=
  match downstream.createOrganization (createRequest effect) with
  | .ok response => .organizationApplied response.organizationId response.ownerMembershipId
      (.obj [("created", .bool response.created),
        ("organization_id", .str response.organizationId),
        ("owner_membership_id", .str response.ownerMembershipId)])
  | .domain error => .failed (organizationErrorCode error)
  | .runtime => .unknown "organization_outcome_unknown"

/-- The request of `execute_put_entitlement`, or the code of the input that is missing. -/
def putRequest (effect : EffectRecord) : Except String PutGrantRequest := do
  let some organizationId := effect.organizationId | throw "missing_organization_id"
  let some subjectKind := effect.subjectKind | throw "missing_entitlement_subject_kind"
  let subject ←
    if subjectKind = "organization" then pure organizationId
    else if subjectKind = "owner" then pure effect.ownerSubject
    else throw "invalid_entitlement_subject_kind"
  let some feature := effect.feature | throw "missing_entitlement_feature"
  return {
    scopeKind := "organization"
    scopeId := organizationId
    subject := subject
    feature := feature
    limit := effect.limit.map toString
    expiresAt := none }

def executePutEntitlement (downstream : Downstream) (effect : EffectRecord) : EffectOutcome :=
  match putRequest effect with
  | .error errorCode => .failed errorCode
  | .ok request =>
    match downstream.putGrant request with
    | .ok response => .entitlementApplied response.grantId
        (.obj [("grant_id", .str response.grantId), ("changed", .bool response.changed),
          ("policy_revision", response.policyRevision)])
    | .domain error => .failed (putGrantErrorCode error)
    | .runtime => .unknown "entitlement_put_outcome_unknown"

/-- The request of `execute_revoke_entitlement`. -/
def revokeRequest (effect : EffectRecord) : Except String RevokeGrantRequest :=
  match effect.externalId with
  | none => .error "missing_cleanup_grant_id"
  | some grantId => .ok ⟨grantId⟩

def executeRevokeEntitlement (downstream : Downstream) (effect : EffectRecord) : EffectOutcome :=
  match revokeRequest effect with
  | .error errorCode => .failed errorCode
  | .ok request =>
    match downstream.revokeGrant request with
    | .ok response => .compensated
        (.obj [("grant_id", .str request.grantId), ("changed", .bool response.changed),
          ("policy_revision", response.policyRevision)])
    | .domain .notFound => .compensated
        (.obj [("grant_id", .str request.grantId), ("already_absent", .bool true)])
    | .domain error => .failed (revokeGrantErrorCode error)
    | .runtime => .unknown "entitlement_revoke_outcome_unknown"

/-- The downstream call of an effect. -/
def executeEffect (downstream : Downstream) (effect : EffectRecord) : EffectOutcome :=
  match effect.kind with
  | .createOrganization => executeCreateOrganization downstream effect
  | .putEntitlement => executePutEntitlement downstream effect
  | .revokeEntitlement => executeRevokeEntitlement downstream effect

/-- The kind of effect an outcome belongs to; a failure or a doubt belongs to every kind. -/
def EffectOutcome.fits (kind : EffectKind) : EffectOutcome → Bool
  | .organizationApplied _ _ _ => kind = .createOrganization
  | .entitlementApplied _ _ => kind = .putEntitlement
  | .compensated _ => kind = .revokeEntitlement
  | .failed _ | .unknown _ => true

/-- **A downstream call gives an outcome of the kind of its effect.** -/
theorem executeEffect_fits (downstream : Downstream) (effect : EffectRecord) :
    (executeEffect downstream effect).fits effect.kind = true := by
  unfold executeEffect
  cases kind : effect.kind with
  | createOrganization =>
    simp only [executeCreateOrganization]
    split <;> rfl
  | putEntitlement =>
    simp only [executePutEntitlement]
    split
    · rfl
    · split <;> rfl
  | revokeEntitlement =>
    simp only [executeRevokeEntitlement]
    split
    · rfl
    · split <;> rfl

/-- An accepted configuration has at most 64 bootstrap grants. -/
theorem bounded_of_validate {checks : ConfigChecks} {config : OrganizationProvisioningConfig}
    (accepted : config.validate checks = .ok ()) : config.bootstrapGrants.length ≤ 64 := by
  unfold OrganizationProvisioningConfig.validate at accepted
  simp only [check_bind] at accepted
  obtain ⟨-, -, -, -, -, -, bounded, -⟩ := accepted
  simpa using bounded

/-- A snapshot has a grant for each configured one. -/
theorem length_grantSnapshots {config : OrganizationProvisioningConfig}
    {grants : List BootstrapGrant} (snapshot : config.grantSnapshots = some grants) :
    grants.length = config.bootstrapGrants.length := by
  unfold OrganizationProvisioningConfig.grantSnapshots at snapshot
  generalize config.bootstrapGrants = configured at snapshot
  induction configured generalizing grants with
  | nil =>
    cases snapshot
    rfl
  | cons grant rest ih =>
    rw [List.mapM_cons] at snapshot
    simp only [Option.bind_eq_bind, Option.bind_eq_some_iff, Option.pure_def,
      Option.some.injEq] at snapshot
    obtain ⟨first, _, others, read, rfl⟩ := snapshot
    rw [List.length_cons, List.length_cons, ih read]

end OrganizationProvisioning
