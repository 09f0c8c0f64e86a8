/-
**The response of the public role, its texts and its JSON.**

* `formatTime` — an instant as RFC 3339 text in UTC, for years 0 to 9999.
* `ProvisioningView`, `StepView` — the response of `start`, `get`, `retry` and `request_cleanup`,
  with `viewFromRow` and `stepFromRow`.
* `ProvisioningView.toJson`, `ProvisioningView.fromJson` — the derived serializer and deserializer,
  with the revision as a decimal string; `fromJson_toJson` — a view whose integers are in their
  machine ranges is read back.
-/
import OrganizationProvisioning.Model.Data

namespace OrganizationProvisioning

/-! ### RFC 3339 -/

/-- Year, month and day of a day count since the epoch (proleptic Gregorian calendar). -/
def civilDate (days : Int) : Int × Nat × Nat :=
  let shifted := days + 719468
  let era := shifted / 146097
  let dayOfEra := (shifted % 146097).toNat
  let yearOfEra :=
    (dayOfEra - dayOfEra / 1460 + dayOfEra / 36524 - dayOfEra / 146096) / 365
  let dayOfYear := dayOfEra - (365 * yearOfEra + yearOfEra / 4 - yearOfEra / 100)
  let marchMonth := (5 * dayOfYear + 2) / 153
  let day := dayOfYear - (153 * marchMonth + 2) / 5 + 1
  let month := if marchMonth < 10 then marchMonth + 3 else marchMonth - 9
  (yearOfEra + era * 400 + if month ≤ 2 then 1 else 0, month, day)

/-- A number with at least `width` decimal digits. -/
def padded (width value : Nat) : String :=
  let digits := Nat.toDigits 10 value
  String.ofList (List.replicate (width - digits.length) '0' ++ digits)

/-- The fraction of a second, without trailing zeros. -/
def fraction (micros : Nat) : String :=
  if micros = 0 then "" else
    "." ++ String.ofList
      (((padded 6 micros).toList.reverse.dropWhile fun digit => digit = '0').reverse)

/-- The RFC 3339 text of an instant, when its year has four digits. -/
def formatTime (value : Timestamp) : Option String :=
  let seconds := value / 1000000
  let ofDay := (seconds % 86400).toNat
  let (year, month, day) := civilDate (seconds / 86400)
  if 0 ≤ year ∧ year ≤ 9999 then
    some (padded 4 year.toNat ++ "-" ++ padded 2 month ++ "-" ++ padded 2 day ++ "T" ++
      padded 2 (ofDay / 3600) ++ ":" ++ padded 2 (ofDay / 60 % 60) ++ ":" ++
      padded 2 (ofDay % 60) ++ fraction (value % 1000000).toNat ++ "Z")
  else none

example : formatTime 1709210096120000 = some "2024-02-29T12:34:56.12Z" := by decide

/-- The text of an optional instant. -/
def formatOptionalTime : Option Timestamp → Option (Option String)
  | none => some none
  | some value => (formatTime value).map some

/-! ### Views -/

structure StepView where
  effectId : Uuid
  kind : String
  ordinal : Int
  status : String
  attempt : Int
  externalId : Option String
  lastError : Option String
  updatedAt : String
deriving DecidableEq

structure ProvisioningView where
  provisioningId : Uuid
  status : String
  revision : Int
  name : String
  slug : String
  ownerSubject : String
  requestedBy : String
  organizationId : Option String
  ownerMembershipId : Option String
  cleanupRequested : Bool
  organizationResidue : Bool
  lastError : Option String
  steps : List StepView
  createdAt : String
  updatedAt : String
  completedAt : Option String
  cleanupCompletedAt : Option String
deriving DecidableEq

def stepFromRow (row : EffectRow) : Option StepView := do
  let updatedAt ← formatTime row.updatedAt
  return {
    effectId := row.effectId
    kind := row.kind.name
    ordinal := row.ordinal
    status := row.state.name
    attempt := row.attempts
    externalId := row.externalId
    lastError := row.lastError
    updatedAt := updatedAt }

def viewFromRow (row : SagaRow) (steps : List StepView) : Option ProvisioningView := do
  let createdAt ← formatTime row.createdAt
  let updatedAt ← formatTime row.updatedAt
  let completedAt ← formatOptionalTime row.completedAt
  let cleanupCompletedAt ← formatOptionalTime row.cleanupCompletedAt
  return {
    provisioningId := row.provisioningId
    status := row.status.name
    revision := row.revision
    name := row.name
    slug := row.slug
    ownerSubject := row.ownerSubject
    requestedBy := row.requestedBy
    organizationId := row.organizationId
    ownerMembershipId := row.ownerMembershipId
    cleanupRequested := row.cleanupRequested
    organizationResidue := row.organizationResidue
    lastError := row.lastError
    steps := steps
    createdAt := createdAt
    updatedAt := updatedAt
    completedAt := completedAt
    cleanupCompletedAt := cleanupCompletedAt }

/-! ### JSON -/

/-- `i64` and `i32`. -/
def i64Range (value : Int) : Prop := -9223372036854775808 ≤ value ∧ value ≤ 9223372036854775807

def i32Range (value : Int) : Prop := -2147483648 ≤ value ∧ value ≤ 2147483647

instance (value : Int) : Decidable (i64Range value) := inferInstanceAs (Decidable (_ ∧ _))

instance (value : Int) : Decidable (i32Range value) := inferInstanceAs (Decidable (_ ∧ _))

namespace Json

/-- A field of an object. -/
def field (value : Json) (name : String) : Option Json :=
  match value with
  | .obj fields => fields.lookup name
  | _ => none

def asText : Json → Option String
  | .str value => some value
  | _ => none

def asBool : Json → Option Bool
  | .bool value => some value
  | _ => none

def asI32 : Json → Option Int
  | .num value => if i32Range value then some value else none
  | _ => none

/-- `decimal_i64::deserialize`. -/
def asDecimal (value : Json) : Option Int :=
  value.asText.bind (Numeral.parseBounded (-9223372036854775808) 9223372036854775807)

def asUuid (value : Json) : Option Uuid := value.asText.bind Uuid.parse

/-- An `Option<String>` field: absent and `null` are both `None`. -/
def asOptionalText : Option Json → Option (Option String)
  | none => some none
  | some .null => some none
  | some (.str text) => some (some text)
  | some _ => none

@[simp] theorem asOptionalText_optional (value : Option String) :
    asOptionalText (some (.optional value)) = some value := by
  cases value <;> rfl

end Json

namespace StepView

def toJson (step : StepView) : Json := .obj [
  ("effect_id", .str step.effectId.text),
  ("kind", .str step.kind),
  ("ordinal", .num step.ordinal),
  ("status", .str step.status),
  ("attempt", .num step.attempt),
  ("external_id", .optional step.externalId),
  ("last_error", .optional step.lastError),
  ("updated_at", .str step.updatedAt)]

def fromJson (json : Json) : Option StepView := do
  let effectId ← (← json.field "effect_id").asUuid
  let kind ← (← json.field "kind").asText
  let ordinal ← (← json.field "ordinal").asI32
  let status ← (← json.field "status").asText
  let attempt ← (← json.field "attempt").asI32
  let externalId ← Json.asOptionalText (json.field "external_id")
  let lastError ← Json.asOptionalText (json.field "last_error")
  let updatedAt ← (← json.field "updated_at").asText
  return ⟨effectId, kind, ordinal, status, attempt, externalId, lastError, updatedAt⟩

/-- The integers of a step are `i32`s. -/
def InRange (step : StepView) : Prop := i32Range step.ordinal ∧ i32Range step.attempt

theorem fromJson_toJson (step : StepView) (bounded : step.InRange) :
    fromJson step.toJson = some step := by
  obtain ⟨ordinal, attempt⟩ := bounded
  simp [fromJson, toJson, Json.field, Json.asUuid, Json.asText, Json.asI32, List.lookup_cons,
    Uuid.parse_text, ordinal, attempt]

end StepView

namespace ProvisioningView

def toJson (view : ProvisioningView) : Json := .obj [
  ("provisioning_id", .str view.provisioningId.text),
  ("status", .str view.status),
  ("revision", .str (toString view.revision)),
  ("name", .str view.name),
  ("slug", .str view.slug),
  ("owner_subject", .str view.ownerSubject),
  ("requested_by", .str view.requestedBy),
  ("organization_id", .optional view.organizationId),
  ("owner_membership_id", .optional view.ownerMembershipId),
  ("cleanup_requested", .bool view.cleanupRequested),
  ("organization_residue", .bool view.organizationResidue),
  ("last_error", .optional view.lastError),
  ("steps", .arr (view.steps.map StepView.toJson)),
  ("created_at", .str view.createdAt),
  ("updated_at", .str view.updatedAt),
  ("completed_at", .optional view.completedAt),
  ("cleanup_completed_at", .optional view.cleanupCompletedAt)]

/-- The `steps` array. -/
def stepsFromJson : Json → Option (List StepView)
  | .arr items => items.mapM StepView.fromJson
  | _ => none

def fromJson (json : Json) : Option ProvisioningView := do
  let provisioningId ← (← json.field "provisioning_id").asUuid
  let status ← (← json.field "status").asText
  let revision ← (← json.field "revision").asDecimal
  let name ← (← json.field "name").asText
  let slug ← (← json.field "slug").asText
  let ownerSubject ← (← json.field "owner_subject").asText
  let requestedBy ← (← json.field "requested_by").asText
  let organizationId ← Json.asOptionalText (json.field "organization_id")
  let ownerMembershipId ← Json.asOptionalText (json.field "owner_membership_id")
  let cleanupRequested ← (← json.field "cleanup_requested").asBool
  let organizationResidue ← (← json.field "organization_residue").asBool
  let lastError ← Json.asOptionalText (json.field "last_error")
  let steps ← stepsFromJson (← json.field "steps")
  let createdAt ← (← json.field "created_at").asText
  let updatedAt ← (← json.field "updated_at").asText
  let completedAt ← Json.asOptionalText (json.field "completed_at")
  let cleanupCompletedAt ← Json.asOptionalText (json.field "cleanup_completed_at")
  return ⟨provisioningId, status, revision, name, slug, ownerSubject, requestedBy,
    organizationId, ownerMembershipId, cleanupRequested, organizationResidue, lastError, steps,
    createdAt, updatedAt, completedAt, cleanupCompletedAt⟩

/-- The revision of a view is an `i64` and the integers of its steps are `i32`s. -/
def InRange (view : ProvisioningView) : Prop :=
  i64Range view.revision ∧ ∀ step ∈ view.steps, step.InRange

end ProvisioningView

theorem mapM_fromJson_toJson (steps : List StepView) (bounded : ∀ step ∈ steps, step.InRange) :
    (steps.map StepView.toJson).mapM StepView.fromJson = some steps := by
  induction steps with
  | nil => rfl
  | cons step steps ih =>
    rw [List.map_cons, List.mapM_cons, StepView.fromJson_toJson step (bounded step (by simp)),
      ih fun other member => bounded other (List.mem_cons_of_mem _ member)]
    rfl

/-- **A response survives its JSON encoding.** -/
theorem ProvisioningView.fromJson_toJson (view : ProvisioningView) (bounded : view.InRange) :
    fromJson view.toJson = some view := by
  obtain ⟨revision, steps⟩ := bounded
  have decimal : Numeral.parseBounded (-9223372036854775808) 9223372036854775807
      view.revision.repr = some view.revision :=
    Numeral.parseBounded_toString revision.1 revision.2
  have items : stepsFromJson (.arr (view.steps.map StepView.toJson)) = some view.steps :=
    mapM_fromJson_toJson view.steps steps
  simp [fromJson, toJson, Json.field, Json.asUuid, Json.asText, Json.asBool, Json.asDecimal,
    List.lookup_cons, Uuid.parse_text, decimal, items]

end OrganizationProvisioning
