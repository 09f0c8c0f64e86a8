/-
**The published schema of a response.**

`provisioning-response.schema.json`, keyword by keyword, as a test of JSON values. `format` is an
annotation of the draft the schema names, so `date-time` texts are texts here.

* `stepSchema`, `responseSchema` — the schema of a step and of a response.
* `Conforms` — what it asks of a view; `responseSchema_toJson` — nothing else.
-/
import OrganizationProvisioning.Model.Wire

namespace OrganizationProvisioning

namespace Json

/-- `"type": "string"`. -/
def isText : Json → Bool
  | .str _ => true
  | _ => false

/-- `"type": ["string", "null"]`. -/
def isNullableText : Json → Bool
  | .str _ | .null => true
  | _ => false

/-- `"type": "boolean"`. -/
def isBool : Json → Bool
  | .bool _ => true
  | _ => false

/-- `"enum"`. -/
def isOneOf (names : List String) : Json → Bool
  | .str value => names.contains value
  | _ => false

/-- `"type": "string", "pattern": "^[1-9][0-9]*$"`. -/
def isPositiveDecimal : Json → Bool
  | .str value => Numeral.positiveDecimal value.toList
  | _ => false

/-- `"type": "integer"` with `"minimum"` and `"maximum"`. -/
def isInteger (minimum : Int) (maximum : Option Int) : Json → Bool
  | .num value => minimum ≤ value && maximum.all fun bound => value ≤ bound
  | _ => false

/-- `"type": "array"` with `"maxItems"` and `"items"`. -/
def isArray (maxItems : Nat) (item : Json → Bool) : Json → Bool
  | .arr items => items.length ≤ maxItems && items.all item
  | _ => false

/-- `"type": "object"` with `"properties"`, all of them `"required"`, and
`"additionalProperties": false`. -/
def isObject (properties : List (String × (Json → Bool))) : Json → Bool
  | .obj fields =>
    (properties.all fun property => (fields.lookup property.1).any property.2) &&
      fields.all fun field => (properties.map Prod.fst).contains field.1
  | _ => false

end Json

/-- `properties.status.enum`. -/
def statusNames : List String := ["pending", "running", "completed", "failed", "manual_review",
  "cleanup_pending", "cleanup_running", "cleanup_completed", "cleanup_failed"]

/-- `kind.enum` of a step. -/
def kindNames : List String := ["create_organization", "put_entitlement", "revoke_entitlement"]

/-- `status.enum` of a step. -/
def stepStatusNames : List String :=
  ["pending", "in_flight", "applied", "failed", "unknown", "compensated", "skipped"]

/-- `properties.steps.items`. -/
def stepSchema : Json → Bool := Json.isObject [
  ("effect_id", Json.isText),
  ("kind", Json.isOneOf kindNames),
  ("ordinal", Json.isInteger 0 (some 64)),
  ("status", Json.isOneOf stepStatusNames),
  ("attempt", Json.isInteger 0 none),
  ("external_id", Json.isNullableText),
  ("last_error", Json.isNullableText),
  ("updated_at", Json.isText)]

/-- `provisioning-response.schema.json`. -/
def responseSchema : Json → Bool := Json.isObject [
  ("provisioning_id", Json.isText),
  ("status", Json.isOneOf statusNames),
  ("revision", Json.isPositiveDecimal),
  ("name", Json.isText),
  ("slug", Json.isText),
  ("owner_subject", Json.isText),
  ("requested_by", Json.isText),
  ("organization_id", Json.isNullableText),
  ("owner_membership_id", Json.isNullableText),
  ("cleanup_requested", Json.isBool),
  ("organization_residue", Json.isBool),
  ("last_error", Json.isNullableText),
  ("steps", Json.isArray 65 stepSchema),
  ("created_at", Json.isText),
  ("updated_at", Json.isText),
  ("completed_at", Json.isNullableText),
  ("cleanup_completed_at", Json.isNullableText)]

/-! ### What it asks of a view -/

/-- What the schema asks of a step. -/
structure StepView.Conforms (step : StepView) : Prop where
  kind : step.kind ∈ kindNames
  ordinal : 0 ≤ step.ordinal ∧ step.ordinal ≤ 64
  status : step.status ∈ stepStatusNames
  attempt : 0 ≤ step.attempt

/-- What the schema asks of a response. -/
structure ProvisioningView.Conforms (view : ProvisioningView) : Prop where
  status : view.status ∈ statusNames
  revision : Numeral.positiveDecimal (toString view.revision).toList = true
  size : view.steps.length ≤ 65
  steps : ∀ step ∈ view.steps, step.Conforms

@[simp] theorem Json.isNullableText_optional (value : Option String) :
    Json.isNullableText (.optional value) = true := by
  cases value <;> rfl

theorem stepSchema_toJson (step : StepView) : stepSchema step.toJson = true ↔ step.Conforms := by
  have accepted : stepSchema step.toJson = true ↔ step.kind ∈ kindNames ∧
      (0 ≤ step.ordinal ∧ step.ordinal ≤ 64) ∧ step.status ∈ stepStatusNames ∧
      0 ≤ step.attempt := by
    simp [stepSchema, Json.isObject, StepView.toJson, List.lookup_cons, Json.isText, Json.isOneOf,
      Json.isInteger]
  rw [accepted]
  constructor
  · rintro ⟨kind, ordinal, status, attempt⟩
    exact ⟨kind, ordinal, status, attempt⟩
  · rintro ⟨kind, ordinal, status, attempt⟩
    exact ⟨kind, ordinal, status, attempt⟩

/-- **A view is accepted exactly when it conforms.** -/
theorem responseSchema_toJson (view : ProvisioningView) :
    responseSchema view.toJson = true ↔ view.Conforms := by
  have accepted : responseSchema view.toJson = true ↔ view.status ∈ statusNames ∧
      Numeral.positiveDecimal (toString view.revision).toList = true ∧ view.steps.length ≤ 65 ∧
      ∀ step ∈ view.steps, step.Conforms := by
    simp [responseSchema, Json.isObject, ProvisioningView.toJson, List.lookup_cons, Json.isText,
      Json.isOneOf, Json.isBool, Json.isPositiveDecimal, Json.isArray, stepSchema_toJson]
  rw [accepted]
  constructor
  · rintro ⟨status, revision, size, steps⟩
    exact ⟨status, revision, size, steps⟩
  · rintro ⟨status, revision, size, steps⟩
    exact ⟨status, revision, size, steps⟩

end OrganizationProvisioning
