/-
**The dispatch on the kind of an effect.**

* `EffectKind.ofName` — the kind a text names; the `match` of `execute_effect` and the one of a manual
  confirmation take it apart and end in a defensive branch, which `executeNamed` and `confirmNamed`
  keep.
* `downstreamRequest` — the one request of an effect, or the code of the input that is missing.
* `executeEffect_eq` — an effect without a request fails locally; one with a request is decided by the
  response to it.
* `localFailures` — the codes of the local failures; `outcome_not_local` — no response gives one.
-/
import OrganizationProvisioning.Model.Plugin

namespace OrganizationProvisioning

open Transactional

/-! ### Kinds by name -/

/-- The kind a text names. -/
def EffectKind.ofName (name : String) : Option EffectKind :=
  if name = "create_organization" then some .createOrganization
  else if name = "put_entitlement" then some .putEntitlement
  else if name = "revoke_entitlement" then some .revokeEntitlement
  else none

@[simp] theorem EffectKind.ofName_name (kind : EffectKind) : ofName kind.name = some kind := by
  cases kind <;> rfl

/-- `execute_effect`, on the text of a kind. -/
def executeNamed (downstream : Downstream) (kind : String) (effect : EffectRecord) :
    EffectOutcome :=
  match EffectKind.ofName kind with
  | some .createOrganization => executeCreateOrganization downstream effect
  | some .putEntitlement => executePutEntitlement downstream effect
  | some .revokeEntitlement => executeRevokeEntitlement downstream effect
  | none => .failed "invalid_effect_kind"

theorem executeNamed_name (downstream : Downstream) (effect : EffectRecord) :
    executeNamed downstream effect.kind.name effect = executeEffect downstream effect := by
  unfold executeNamed executeEffect
  rw [EffectKind.ofName_name]
  cases effect.kind <;> rfl

def unknownKind : String := "unknown effect kind during manual resolution"

/-- `confirm_applied`, on the text of a kind. -/
def confirmNamed (now : Timestamp) (input : RetryInput) (kind : String) (effect : EffectRow) :
    Transaction Unit :=
  match EffectKind.ofName kind with
  | some kind => confirmApplied now input { effect with kind := kind }
  | none => .abort (invalidData unknownKind)

theorem confirmNamed_name (now : Timestamp) (input : RetryInput) (effect : EffectRow) :
    confirmNamed now input effect.kind.name effect = confirmApplied now input effect := by
  unfold confirmNamed
  rw [EffectKind.ofName_name]

/-! ### Requests -/

/-- The request of an effect to its administration service. -/
inductive DownstreamRequest
  | createOrganization (request : CreateOrganizationRequest)
  | putGrant (request : PutGrantRequest)
  | revokeGrant (request : RevokeGrantRequest)
deriving DecidableEq

/-- The request `execute_effect` sends, or the code of the input that is missing. -/
def downstreamRequest (effect : EffectRecord) : Except String DownstreamRequest :=
  match effect.kind with
  | .createOrganization => .ok (.createOrganization (createRequest effect))
  | .putEntitlement => (putRequest effect).map .putGrant
  | .revokeEntitlement => (revokeRequest effect).map .revokeGrant

/-- The outcome of sending a request. -/
def Downstream.outcome (downstream : Downstream) : DownstreamRequest → EffectOutcome
  | .createOrganization request =>
    match downstream.createOrganization request with
    | .ok response => .organizationApplied response.organizationId response.ownerMembershipId
        (.obj [("created", .bool response.created),
          ("organization_id", .str response.organizationId),
          ("owner_membership_id", .str response.ownerMembershipId)])
    | .domain error => .failed (organizationErrorCode error)
    | .runtime => .unknown "organization_outcome_unknown"
  | .putGrant request =>
    match downstream.putGrant request with
    | .ok response => .entitlementApplied response.grantId
        (.obj [("grant_id", .str response.grantId), ("changed", .bool response.changed),
          ("policy_revision", response.policyRevision)])
    | .domain error => .failed (putGrantErrorCode error)
    | .runtime => .unknown "entitlement_put_outcome_unknown"
  | .revokeGrant request =>
    match downstream.revokeGrant request with
    | .ok response => .compensated
        (.obj [("grant_id", .str request.grantId), ("changed", .bool response.changed),
          ("policy_revision", response.policyRevision)])
    | .domain .notFound => .compensated
        (.obj [("grant_id", .str request.grantId), ("already_absent", .bool true)])
    | .domain error => .failed (revokeGrantErrorCode error)
    | .runtime => .unknown "entitlement_revoke_outcome_unknown"

/-- **An effect sends its request and nothing else**: the response to it decides the outcome. -/
theorem executeEffect_eq (downstream : Downstream) (effect : EffectRecord) :
    executeEffect downstream effect = match downstreamRequest effect with
      | .error errorCode => .failed errorCode
      | .ok request => downstream.outcome request := by
  unfold executeEffect downstreamRequest
  cases effect.kind with
  | createOrganization => rfl
  | putEntitlement =>
    show executePutEntitlement downstream effect = _
    unfold executePutEntitlement
    cases putRequest effect <;> rfl
  | revokeEntitlement =>
    show executeRevokeEntitlement downstream effect = _
    unfold executeRevokeEntitlement
    cases revokeRequest effect <;> rfl

/-! ### Local failures -/

/-- The codes `execute_effect` fails with before it sends a request. -/
def localFailures : List String :=
  ["invalid_effect_kind", "missing_organization_id", "missing_entitlement_subject_kind",
    "invalid_entitlement_subject_kind", "missing_entitlement_feature", "missing_cleanup_grant_id"]

/-- The code of a response starts with the name of its service. -/
def serviceCode (code : String) : Prop :=
  code.toList.head? = some 'o' ∨ code.toList.head? = some 'e'

theorem not_local_of_service {code : String} (service : serviceCode code) :
    code ∉ localFailures := by
  intro member
  have first : ∀ code ∈ localFailures, code.toList.head? = some 'i' ∨
      code.toList.head? = some 'm' := by decide
  rcases service with here | here <;> rcases first code member with there | there <;>
    rw [here] at there <;> cases there

theorem serviceCode_bounded {family value : String} (nonempty : serviceCode family) :
    serviceCode (boundedExternalCode family value) := by
  unfold serviceCode boundedExternalCode at *
  rw [String.append_assoc, String.toList_append, List.head?_append]
  rcases nonempty with here | here <;> rw [here] <;> simp

/-- **No response fails with a local code.** -/
theorem outcome_not_local (downstream : Downstream) (request : DownstreamRequest) {code : String}
    (local_ : code ∈ localFailures) : downstream.outcome request ≠ .failed code := by
  intro failed
  refine not_local_of_service ?_ local_
  cases request with
  | createOrganization request =>
    simp only [Downstream.outcome] at failed
    split at failed
    · cases failed
    · rename_i error _
      cases failed
      cases error with
      | unknown value => exact serviceCode_bounded (Or.inl (by decide))
      | _ => exact Or.inl (by decide)
    · cases failed
  | putGrant request =>
    simp only [Downstream.outcome] at failed
    split at failed
    · cases failed
    · rename_i error _
      cases failed
      cases error with
      | unknown value => exact serviceCode_bounded (Or.inr (by decide))
      | _ => exact Or.inr (by decide)
    · cases failed
  | revokeGrant request =>
    simp only [Downstream.outcome] at failed
    split at failed
    · cases failed
    · cases failed
    · rename_i error _ _
      cases failed
      cases error with
      | unknown value => exact serviceCode_bounded (Or.inr (by decide))
      | _ => exact Or.inr (by decide)
    · cases failed

end OrganizationProvisioning
