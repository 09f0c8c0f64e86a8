/-
**The generated responses.**

The handlers cast what the store returns into the types of the contract, by way of JSON. `GetResponse`,
`StartResponse`, `RetryResponse` and `RequestCleanupResponse` are one type here. The `Timestamp` of the contract
runtime is outside the source: `TimeFormat` is what it reads and writes, `TimeFormat.Documented` what is relied
on.

* `Response`, `ListedResponse` — the types, with their generated serializers and deserializers.
* `wireCast`, `wireCastPage` — the casts.
* `Response.fromJson_toJson`, `ListedResponse.fromJson_toJson` — **what a client reads is what was sent.**
* `wireCast_rendered`, `wireCastPage_shown` — **a rendered view, or page of items, is cast to what it shows.**
-/
import OrganizationProvisioning.Model.Listing

namespace OrganizationProvisioning

/-! ### Names -/

/-- The status a text names. -/
def SagaStatus.ofName (text : String) : Option SagaStatus :=
  [SagaStatus.pending, .running, .completed, .failed, .manualReview, .cleanupPending, .cleanupRunning,
    .cleanupCompleted, .cleanupFailed].find? fun status => status.name = text

/-- The state a text names. -/
def EffectState.ofName (text : String) : Option EffectState :=
  [EffectState.pending, .inFlight, .applied, .failed, .unknown, .compensated, .skipped].find? fun state =>
    state.name = text

/-- The kind a text names, as the contract lists them. -/
def EffectKind.listed (text : String) : Option EffectKind :=
  [EffectKind.createOrganization, .putEntitlement, .revokeEntitlement].find? fun kind => kind.name = text

@[simp] theorem SagaStatus.ofName_name (status : SagaStatus) : ofName status.name = some status := by
  cases status <;> decide

@[simp] theorem EffectState.ofName_name (state : EffectState) : ofName state.name = some state := by
  cases state <;> decide

@[simp] theorem EffectKind.listed_name (kind : EffectKind) : listed kind.name = some kind := by
  cases kind <;> decide

/-! ### Instants -/

/-- The texts a `Timestamp` is read from and written as. -/
structure TimeFormat (Time : Type) where
  read : String → Option Time
  write : Time → String

/-- **What is relied on**: the RFC 3339 text of an instant in UTC is read and written as it was, and what is
written is read. -/
structure TimeFormat.Documented {Time : Type} (format : TimeFormat Time) : Prop where
  reads : ∀ value text, formatTime value = some text →
    ∃ time, format.read text = some time ∧ format.write time = text
  writes : ∀ time, format.read (format.write time) = some time

/-- `i64`. -/
abbrev I64 := { value : Int // i64Range value }

namespace Json

def asI64 : Json → Option I64
  | .num value => if bounded : i64Range value then some ⟨value, bounded⟩ else none
  | _ => none

@[simp] theorem asI64_num (value : I64) : asI64 (.num value.val) = some value := dif_pos value.property

/-- An `Option<String>` that must be there. -/
def asNullableText : Json → Option (Option String)
  | .null => some none
  | .str text => some (some text)
  | _ => none

@[simp] theorem asNullableText_optional (value : Option String) :
    asNullableText (.optional value) = some value := by
  cases value <;> rfl

variable {Time : Type} (format : TimeFormat Time)

def asTime (json : Json) : Option Time := json.asText.bind format.read

def asNullableTime (json : Json) : Option (Option Time) :=
  json.asNullableText.bind fun text => match text with
    | none => some none
    | some text => (format.read text).map some

end Json

/-! ### The types -/

structure ResponseStepsItem (Time : Type) where
  attempt : I64
  effectId : String
  externalId : Option String
  kind : EffectKind
  lastError : Option String
  ordinal : I64
  status : EffectState
  updatedAt : Time

structure Response (Time : Type) where
  cleanupCompletedAt : Option Time
  cleanupRequested : Bool
  completedAt : Option Time
  createdAt : Time
  lastError : Option String
  name : String
  organizationId : Option String
  organizationResidue : Bool
  ownerMembershipId : Option String
  ownerSubject : String
  provisioningId : String
  requestedBy : String
  revision : String
  slug : String
  status : SagaStatus
  steps : List (ResponseStepsItem Time)
  updatedAt : Time

section Typed

variable {Time : Type} (format : TimeFormat Time)

def ResponseStepsItem.toJson (step : ResponseStepsItem Time) : Json := .obj [
  ("attempt", .num step.attempt.val),
  ("effect_id", .str step.effectId),
  ("external_id", .optional step.externalId),
  ("kind", .str step.kind.name),
  ("last_error", .optional step.lastError),
  ("ordinal", .num step.ordinal.val),
  ("status", .str step.status.name),
  ("updated_at", .str (format.write step.updatedAt))]

def ResponseStepsItem.fromJson (json : Json) : Option (ResponseStepsItem Time) := do
  let attempt ← (← json.field "attempt").asI64
  let effectId ← (← json.field "effect_id").asText
  let externalId ← (← json.field "external_id").asNullableText
  let kind ← (← (← json.field "kind").asText) |> EffectKind.listed
  let lastError ← (← json.field "last_error").asNullableText
  let ordinal ← (← json.field "ordinal").asI64
  let status ← (← (← json.field "status").asText) |> EffectState.ofName
  let updatedAt ← (← json.field "updated_at").asTime format
  return ⟨attempt, effectId, externalId, kind, lastError, ordinal, status, updatedAt⟩

def Response.toJson (response : Response Time) : Json := .obj [
  ("cleanup_completed_at", .optional (response.cleanupCompletedAt.map format.write)),
  ("cleanup_requested", .bool response.cleanupRequested),
  ("completed_at", .optional (response.completedAt.map format.write)),
  ("created_at", .str (format.write response.createdAt)),
  ("last_error", .optional response.lastError),
  ("name", .str response.name),
  ("organization_id", .optional response.organizationId),
  ("organization_residue", .bool response.organizationResidue),
  ("owner_membership_id", .optional response.ownerMembershipId),
  ("owner_subject", .str response.ownerSubject),
  ("provisioning_id", .str response.provisioningId),
  ("requested_by", .str response.requestedBy),
  ("revision", .str response.revision),
  ("slug", .str response.slug),
  ("status", .str response.status.name),
  ("steps", .arr (response.steps.map (ResponseStepsItem.toJson format))),
  ("updated_at", .str (format.write response.updatedAt))]

/-- An array, item by item. -/
def Json.asArray {Item : Type} (item : Json → Option Item) : Json → Option (List Item)
  | .arr items => items.mapM item
  | _ => none

def Response.fromJson (json : Json) : Option (Response Time) := do
  let cleanupCompletedAt ← (← json.field "cleanup_completed_at").asNullableTime format
  let cleanupRequested ← (← json.field "cleanup_requested").asBool
  let completedAt ← (← json.field "completed_at").asNullableTime format
  let createdAt ← (← json.field "created_at").asTime format
  let lastError ← (← json.field "last_error").asNullableText
  let name ← (← json.field "name").asText
  let organizationId ← (← json.field "organization_id").asNullableText
  let organizationResidue ← (← json.field "organization_residue").asBool
  let ownerMembershipId ← (← json.field "owner_membership_id").asNullableText
  let ownerSubject ← (← json.field "owner_subject").asText
  let provisioningId ← (← json.field "provisioning_id").asText
  let requestedBy ← (← json.field "requested_by").asText
  let revision ← (← json.field "revision").asText
  let slug ← (← json.field "slug").asText
  let status ← (← (← json.field "status").asText) |> SagaStatus.ofName
  let steps ← (← json.field "steps").asArray (ResponseStepsItem.fromJson format)
  let updatedAt ← (← json.field "updated_at").asTime format
  return ⟨cleanupCompletedAt, cleanupRequested, completedAt, createdAt, lastError, name, organizationId,
    organizationResidue, ownerMembershipId, ownerSubject, provisioningId, requestedBy, revision, slug, status,
    steps, updatedAt⟩

/-! ### Pages -/

structure ListResponseItemsItem (Time : Type) where
  cleanupRequested : Bool
  createdAt : Time
  lastError : Option String
  name : String
  organizationId : Option String
  organizationResidue : Bool
  ownerSubject : String
  provisioningId : String
  revision : String
  slug : String
  status : SagaStatus
  updatedAt : Time

/-- The generated `ListResponse`. -/
structure ListedResponse (Time : Type) where
  items : List (ListResponseItemsItem Time)
  nextCursor : Option String

def ListResponseItemsItem.toJson (item : ListResponseItemsItem Time) : Json := .obj [
  ("cleanup_requested", .bool item.cleanupRequested),
  ("created_at", .str (format.write item.createdAt)),
  ("last_error", .optional item.lastError),
  ("name", .str item.name),
  ("organization_id", .optional item.organizationId),
  ("organization_residue", .bool item.organizationResidue),
  ("owner_subject", .str item.ownerSubject),
  ("provisioning_id", .str item.provisioningId),
  ("revision", .str item.revision),
  ("slug", .str item.slug),
  ("status", .str item.status.name),
  ("updated_at", .str (format.write item.updatedAt))]

def ListResponseItemsItem.fromJson (json : Json) : Option (ListResponseItemsItem Time) := do
  let cleanupRequested ← (← json.field "cleanup_requested").asBool
  let createdAt ← (← json.field "created_at").asTime format
  let lastError ← (← json.field "last_error").asNullableText
  let name ← (← json.field "name").asText
  let organizationId ← (← json.field "organization_id").asNullableText
  let organizationResidue ← (← json.field "organization_residue").asBool
  let ownerSubject ← (← json.field "owner_subject").asText
  let provisioningId ← (← json.field "provisioning_id").asText
  let revision ← (← json.field "revision").asText
  let slug ← (← json.field "slug").asText
  let status ← (← (← json.field "status").asText) |> SagaStatus.ofName
  let updatedAt ← (← json.field "updated_at").asTime format
  return ⟨cleanupRequested, createdAt, lastError, name, organizationId, organizationResidue, ownerSubject,
    provisioningId, revision, slug, status, updatedAt⟩

def ListedResponse.toJson (page : ListedResponse Time) : Json := .obj [
  ("items", .arr (page.items.map (ListResponseItemsItem.toJson format))),
  ("next_cursor", .optional page.nextCursor)]

def ListedResponse.fromJson (json : Json) : Option (ListedResponse Time) := do
  let items ← (← json.field "items").asArray (ListResponseItemsItem.fromJson format)
  let nextCursor ← (← json.field "next_cursor").asNullableText
  return ⟨items, nextCursor⟩

end Typed

/-- `Serialize` of an item of the store. -/
def ProvisioningListItem.toJson (item : ProvisioningListItem) : Json := .obj [
  ("provisioning_id", .str item.provisioningId.text),
  ("status", .str item.status),
  ("revision", .str (toString item.revision)),
  ("name", .str item.name),
  ("slug", .str item.slug),
  ("owner_subject", .str item.ownerSubject),
  ("organization_id", .optional item.organizationId),
  ("cleanup_requested", .bool item.cleanupRequested),
  ("organization_residue", .bool item.organizationResidue),
  ("last_error", .optional item.lastError),
  ("created_at", .str item.createdAt),
  ("updated_at", .str item.updatedAt)]

/-- `json!({"items": items, "next_cursor": next_cursor})`. -/
def ListResponse.toJson (page : ListResponse) : Json := .obj [
  ("items", .arr (page.items.map ProvisioningListItem.toJson)),
  ("next_cursor", .optional page.nextCursor)]

/-! ### The casts -/

section Casts

variable {Time : Type} (format : TimeFormat Time)

/-- `wire_cast` of a view. -/
def wireCast (view : ProvisioningView) : Option (Response Time) :=
  Response.fromJson format view.toJson

/-- `wire_cast` of a page. -/
def wireCastPage (page : ListResponse) : Option (ListedResponse Time) :=
  ListedResponse.fromJson format page.toJson

variable {format}

theorem asArray_map {Item : Type} {write : Item → Json} {read : Json → Option Item}
    (back : ∀ item, read (write item) = some item) (items : List Item) :
    Json.asArray read (.arr (items.map write)) = some items := by
  show (items.map write).mapM read = some items
  induction items with
  | nil => rfl
  | cons item items ih =>
    rw [List.map_cons, List.mapM_cons, back, ih]
    rfl

theorem asTime_write (documented : format.Documented) (time : Time) :
    Json.asTime format (.str (format.write time)) = some time :=
  documented.writes time

theorem asNullableTime_write (documented : format.Documented) (time : Option Time) :
    Json.asNullableTime format (.optional (time.map format.write)) = some time := by
  cases time with
  | none => rfl
  | some time => exact congrArg (Option.map some) (documented.writes time)

/-- **What a client reads of a step is what was sent.** -/
theorem ResponseStepsItem.fromJson_toJson (documented : format.Documented) (step : ResponseStepsItem Time) :
    fromJson format (step.toJson format) = some step := by
  simp [fromJson, toJson, Json.field, Json.asText, List.lookup_cons, asTime_write documented]

/-- **What a client reads is what was sent.** -/
theorem Response.fromJson_toJson (documented : format.Documented) (response : Response Time) :
    fromJson format (response.toJson format) = some response := by
  have steps := asArray_map (ResponseStepsItem.fromJson_toJson documented) response.steps
  simp [fromJson, toJson, Json.field, Json.asText, Json.asBool, List.lookup_cons, asTime_write documented,
    asNullableTime_write documented, steps]

theorem ListResponseItemsItem.fromJson_toJson (documented : format.Documented)
    (item : ListResponseItemsItem Time) : fromJson format (item.toJson format) = some item := by
  simp [fromJson, toJson, Json.field, Json.asText, Json.asBool, List.lookup_cons, asTime_write documented]

/-- **What a client reads of a page is what was sent.** -/
theorem ListedResponse.fromJson_toJson (documented : format.Documented) (page : ListedResponse Time) :
    fromJson format (page.toJson format) = some page := by
  have items := asArray_map (ListResponseItemsItem.fromJson_toJson documented) page.items
  simp [fromJson, toJson, Json.field, List.lookup_cons, items]

/-! ### What a cast shows -/

variable (format) in
/-- A step shows an effect. -/
structure ResponseStepsItem.Shows (effect : EffectRow) (step : ResponseStepsItem Time) : Prop where
  attempt : step.attempt.val = effect.attempts
  effectId : step.effectId = effect.effectId.text
  externalId : step.externalId = effect.externalId
  kind : step.kind = effect.kind
  lastError : step.lastError = effect.lastError
  ordinal : step.ordinal.val = effect.ordinal
  status : step.status = effect.state
  updatedAt : formatTime effect.updatedAt = some (format.write step.updatedAt)

variable (format) in
/-- **A response shows a saga and its effects**, field by field. -/
structure Response.Shows (row : SagaRow) (rows : List EffectRow) (response : Response Time) : Prop where
  cleanupCompletedAt : formatOptionalTime row.cleanupCompletedAt =
    some (response.cleanupCompletedAt.map format.write)
  cleanupRequested : response.cleanupRequested = row.cleanupRequested
  completedAt : formatOptionalTime row.completedAt = some (response.completedAt.map format.write)
  createdAt : formatTime row.createdAt = some (format.write response.createdAt)
  lastError : response.lastError = row.lastError
  name : response.name = row.name
  organizationId : response.organizationId = row.organizationId
  organizationResidue : response.organizationResidue = row.organizationResidue
  ownerMembershipId : response.ownerMembershipId = row.ownerMembershipId
  ownerSubject : response.ownerSubject = row.ownerSubject
  provisioningId : response.provisioningId = row.provisioningId.text
  requestedBy : response.requestedBy = row.requestedBy
  revision : response.revision = toString row.revision
  slug : response.slug = row.slug
  status : response.status = row.status
  steps : List.Forall₂ (ResponseStepsItem.Shows format) rows response.steps
  updatedAt : formatTime row.updatedAt = some (format.write response.updatedAt)

variable (format) in
/-- An item shows a saga. -/
structure ListResponseItemsItem.Shows (row : SagaRow) (item : ListResponseItemsItem Time) : Prop where
  cleanupRequested : item.cleanupRequested = row.cleanupRequested
  createdAt : formatTime row.createdAt = some (format.write item.createdAt)
  lastError : item.lastError = row.lastError
  name : item.name = row.name
  organizationId : item.organizationId = row.organizationId
  organizationResidue : item.organizationResidue = row.organizationResidue
  ownerSubject : item.ownerSubject = row.ownerSubject
  provisioningId : item.provisioningId = row.provisioningId.text
  revision : item.revision = toString row.revision
  slug : item.slug = row.slug
  status : item.status = row.status
  updatedAt : formatTime row.updatedAt = some (format.write item.updatedAt)

/-- An optional instant that has a text is read from it. -/
theorem asNullableTime_format (documented : format.Documented) {value : Option Timestamp} {text : Option String}
    (shown : formatOptionalTime value = some text) : ∃ time, Json.asNullableTime format (.optional text) =
      some time ∧ formatOptionalTime value = some (time.map format.write) := by
  cases value with
  | none =>
    cases shown
    exact ⟨none, rfl, rfl⟩
  | some value =>
    obtain ⟨written, here, rfl⟩ := Option.map_eq_some_iff.mp shown
    obtain ⟨time, read, back⟩ := documented.reads value written here
    refine ⟨some time, congrArg (Option.map some) read, ?_⟩
    rw [shown, Option.map_some, back]

/-- **The step of an effect is cast to what it shows.** -/
theorem fromJson_step (documented : format.Documented) {effect : EffectRow} {step : StepView}
    (shown : stepFromRow effect = some step) (attempt : i64Range effect.attempts)
    (ordinal : i64Range effect.ordinal) : ∃ item, ResponseStepsItem.fromJson format step.toJson = some item ∧
      item.Shows format effect := by
  unfold stepFromRow at shown
  simp only [Option.bind_eq_bind, Option.bind_eq_some_iff, Option.pure_def, Option.some.injEq] at shown
  obtain ⟨updatedAt, written, rfl⟩ := shown
  obtain ⟨time, read, back⟩ := documented.reads _ _ written
  refine ⟨⟨⟨effect.attempts, attempt⟩, effect.effectId.text, effect.externalId, effect.kind, effect.lastError,
    ⟨effect.ordinal, ordinal⟩, effect.state, time⟩, ?_, ?_⟩
  · simp [ResponseStepsItem.fromJson, StepView.toJson, Json.field, Json.asText, Json.asI64, Json.asTime,
      List.lookup_cons, attempt, ordinal, read]
  · exact ⟨rfl, rfl, rfl, rfl, rfl, rfl, rfl, written.trans (congrArg some back.symm)⟩

/-- **The steps of a saga are cast one by one.** -/
theorem fromJson_steps (documented : format.Documented) {rows : List EffectRow} {steps : List StepView}
    (shown : rows.mapM stepFromRow = some steps)
    (bounded : ∀ effect ∈ rows, i64Range effect.attempts ∧ i64Range effect.ordinal) :
    ∃ items, Json.asArray (ResponseStepsItem.fromJson format) (.arr (steps.map StepView.toJson)) = some items ∧
      List.Forall₂ (ResponseStepsItem.Shows format) rows items := by
  show ∃ items, (steps.map StepView.toJson).mapM (ResponseStepsItem.fromJson format) = some items ∧ _
  induction rows generalizing steps with
  | nil =>
    cases shown
    exact ⟨[], rfl, .nil⟩
  | cons effect rows ih =>
    rw [List.mapM_cons] at shown
    simp only [Option.bind_eq_bind, Option.bind_eq_some_iff, Option.pure_def, Option.some.injEq] at shown
    obtain ⟨step, first, steps, others, rfl⟩ := shown
    obtain ⟨attempt, ordinal⟩ := bounded effect List.mem_cons_self
    obtain ⟨item, read, shows⟩ := fromJson_step documented first attempt ordinal
    obtain ⟨items, rest, all⟩ := ih others fun other member => bounded other (List.mem_cons_of_mem _ member)
    refine ⟨item :: items, ?_, .cons shows all⟩
    rw [List.map_cons, List.mapM_cons, read, rest]
    rfl

/-- **A rendered view is cast to what it shows.** -/
theorem wireCast_rendered (documented : format.Documented) {row : SagaRow} {rows : List EffectRow}
    {view : ProvisioningView} (rendered : renderView row rows = some view)
    (bounded : ∀ effect ∈ rows, i64Range effect.attempts ∧ i64Range effect.ordinal) :
    ∃ response, wireCast format view = some response ∧ response.Shows format row rows := by
  unfold renderView at rendered
  obtain ⟨steps, shown, rest⟩ := Option.bind_eq_some_iff.mp rendered
  unfold viewFromRow at rest
  simp only [Option.bind_eq_bind, Option.bind_eq_some_iff, Option.pure_def, Option.some.injEq] at rest
  obtain ⟨createdAt, created, updatedAt, updated, completedAt, completed, cleanupCompletedAt, cleaned, rfl⟩ :=
    rest
  obtain ⟨items, read, all⟩ := fromJson_steps documented shown bounded
  obtain ⟨createdTime, readCreated, backCreated⟩ := documented.reads _ _ created
  obtain ⟨updatedTime, readUpdated, backUpdated⟩ := documented.reads _ _ updated
  obtain ⟨completedTime, readCompleted, backCompleted⟩ := asNullableTime_format documented completed
  obtain ⟨cleanedTime, readCleaned, backCleaned⟩ := asNullableTime_format documented cleaned
  refine ⟨⟨cleanedTime, row.cleanupRequested, completedTime, createdTime, row.lastError, row.name,
    row.organizationId, row.organizationResidue, row.ownerMembershipId, row.ownerSubject,
    row.provisioningId.text, row.requestedBy, toString row.revision, row.slug, row.status, items, updatedTime⟩,
    ?_, ?_⟩
  · simp [wireCast, Response.fromJson, ProvisioningView.toJson, Json.field, Json.asText, Json.asBool,
      List.lookup_cons, Json.asTime, readCreated, readUpdated, readCompleted, readCleaned, read]
  · refine
      { cleanupCompletedAt := backCleaned
        cleanupRequested := rfl
        completedAt := backCompleted
        createdAt := created.trans (congrArg some backCreated.symm)
        lastError := rfl
        name := rfl
        organizationId := rfl
        organizationResidue := rfl
        ownerMembershipId := rfl
        ownerSubject := rfl
        provisioningId := rfl
        requestedBy := rfl
        revision := rfl
        slug := rfl
        status := rfl
        steps := all
        updatedAt := updated.trans (congrArg some backUpdated.symm) }

/-- **The item of a saga is cast to what it shows.** -/
theorem fromJson_item (documented : format.Documented) {row : SagaRow} {item : ProvisioningListItem}
    (shown : listItemFromRow row = some item) : ∃ typed, ListResponseItemsItem.fromJson format item.toJson =
      some typed ∧ typed.Shows format row := by
  unfold listItemFromRow at shown
  simp only [Option.bind_eq_bind, Option.bind_eq_some_iff, Option.pure_def, Option.some.injEq] at shown
  obtain ⟨createdAt, created, updatedAt, updated, rfl⟩ := shown
  obtain ⟨createdTime, readCreated, backCreated⟩ := documented.reads _ _ created
  obtain ⟨updatedTime, readUpdated, backUpdated⟩ := documented.reads _ _ updated
  refine ⟨⟨row.cleanupRequested, createdTime, row.lastError, row.name, row.organizationId,
    row.organizationResidue, row.ownerSubject, row.provisioningId.text, toString row.revision, row.slug,
    row.status, updatedTime⟩, ?_, ?_⟩
  · simp [ListResponseItemsItem.fromJson, ProvisioningListItem.toJson, Json.field, Json.asText, Json.asBool,
      List.lookup_cons, Json.asTime, readCreated, readUpdated]
  · exact ⟨rfl, created.trans (congrArg some backCreated.symm), rfl, rfl, rfl, rfl, rfl, rfl, rfl, rfl, rfl,
      updated.trans (congrArg some backUpdated.symm)⟩

/-- **A page of items is cast to what it shows.** -/
theorem wireCastPage_shown (documented : format.Documented) {rows : List SagaRow}
    {items : List ProvisioningListItem} (shown : rows.mapM listItemFromRow = some items)
    (nextCursor : Option String) : ∃ page, wireCastPage format ⟨items, nextCursor⟩ = some page ∧
      page.nextCursor = nextCursor ∧
      List.Forall₂ (ListResponseItemsItem.Shows format) rows page.items := by
  have array : ∃ typed, (items.map ProvisioningListItem.toJson).mapM (ListResponseItemsItem.fromJson format) =
      some typed ∧ List.Forall₂ (ListResponseItemsItem.Shows format) rows typed := by
    induction rows generalizing items with
    | nil =>
      cases shown
      exact ⟨[], rfl, .nil⟩
    | cons row rows ih =>
      rw [List.mapM_cons] at shown
      simp only [Option.bind_eq_bind, Option.bind_eq_some_iff, Option.pure_def, Option.some.injEq] at shown
      obtain ⟨item, first, items, others, rfl⟩ := shown
      obtain ⟨typed, read, shows⟩ := fromJson_item documented first
      obtain ⟨rest, readRest, all⟩ := ih others
      refine ⟨typed :: rest, ?_, .cons shows all⟩
      rw [List.map_cons, List.mapM_cons, read, readRest]
      rfl
  obtain ⟨typed, read, all⟩ := array
  refine ⟨⟨typed, nextCursor⟩, ?_, rfl, all⟩
  simp [wireCastPage, ListedResponse.fromJson, ListResponse.toJson, Json.field, List.lookup_cons, Json.asArray,
    read]

end Casts

end OrganizationProvisioning
