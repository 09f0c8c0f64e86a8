/-
**The list of an actor's sagas, page by page.**

* `encodeCursor`, `decodeCursor` — the text of a place in the list. What the `time` and the `uuid` crates
  read is a parameter (`Readers`); `Readers.Documented` — what their documentation says of it.
* `list` — the query of a page, and its rows as items.
* `PostgresOrganizationProvisioningPlugin.list` — the checks of the handler, one row of lookahead, and the
  next cursor.

The listing is a single statement outside a transaction, so it is a function of the store it sees.
-/
import OrganizationProvisioning.Model.Handlers
import OrganizationProvisioning.Model.Instant
import OrganizationProvisioning.Model.Schema
import OrganizationProvisioning.Library.Keyset
import Mathlib.Data.Prod.Lex

namespace OrganizationProvisioning

open Relational

/-! ### What the crates read -/

/-- An `OffsetDateTime` in UTC, by its nanoseconds since the epoch. -/
structure OffsetDateTime where
  unixTimestampNanos : Int
  representable : minInstant * 1000 ≤ unixTimestampNanos ∧ unixTimestampNanos < (maxInstant + 1) * 1000

/-- `OffsetDateTime::parse(_, &Rfc3339)` with `unix_timestamp_nanos`, or its error;
`OffsetDateTime::from_unix_timestamp_nanos`; `Uuid::parse_str`. -/
structure Readers where
  parseTime : String → Except String Int
  fromUnixTimestampNanos : Int → Option OffsetDateTime
  parseUuid : String → Option Uuid

/-- **What the crates document**: RFC 3339 texts and UUID texts are read back, and an instant is that of its
timestamp. Outside the range of instants only the fraction of the second is relied on. -/
structure Readers.Documented (readers : Readers) : Prop where
  times : ∀ value text, formatTime value = some text → readers.parseTime text = .ok (value * 1000)
  instants : ∀ nanos, minInstant * 1000 ≤ nanos → nanos < (maxInstant + 1) * 1000 →
    ∃ instant, readers.fromUnixTimestampNanos nanos = some instant ∧ instant.unixTimestampNanos = nanos
  fractions : ∀ nanos instant, readers.fromUnixTimestampNanos nanos = some instant →
    instant.unixTimestampNanos % 1000000000 = nanos % 1000000000
  uuids : ∀ id : Uuid, readers.parseUuid id.text = some id

/-! ### Items and cursors -/

structure ProvisioningListItem where
  provisioningId : Uuid
  status : String
  revision : Int
  name : String
  slug : String
  ownerSubject : String
  organizationId : Option String
  cleanupRequested : Bool
  organizationResidue : Bool
  lastError : Option String
  createdAt : String
  updatedAt : String
deriving DecidableEq

structure PageCursor where
  createdAt : OffsetDateTime
  provisioningId : Uuid

/-- The instant as the parameter of a statement, in the precision of `timestamptz`. -/
def PageCursor.timestamptz (cursor : PageCursor) : Timestamp := cursor.createdAt.unixTimestampNanos / 1000

def listItemFromRow (row : SagaRow) : Option ProvisioningListItem := do
  let createdAt ← formatTime row.createdAt
  let updatedAt ← formatTime row.updatedAt
  return {
    provisioningId := row.provisioningId
    status := row.status.name
    revision := row.revision
    name := row.name
    slug := row.slug
    ownerSubject := row.ownerSubject
    organizationId := row.organizationId
    cleanupRequested := row.cleanupRequested
    organizationResidue := row.organizationResidue
    lastError := row.lastError
    createdAt := createdAt
    updatedAt := updatedAt }

/-- `i128`. -/
def i128Range (value : Int) : Prop :=
  -170141183460469231731687303715884105728 ≤ value ∧ value ≤ 170141183460469231731687303715884105727

instance (value : Int) : Decidable (i128Range value) := inferInstanceAs (Decidable (_ ∧ _))

/-- `str::split_once`. -/
def splitOnce (mark : Char) (text : String) : Option (String × String) :=
  let (before, rest) := text.toList.span (· ≠ mark)
  match rest with
  | [] => none
  | _ :: after => some (String.ofList before, String.ofList after)

/-- `i128::checked_mul`. -/
def checkedMul (value factor : Int) : Option Int :=
  if i128Range (value * factor) then some (value * factor) else none

section Cursor

variable (readers : Readers)

/-- The division is that of `i128`, which truncates. -/
def encodeCursor (item : ProvisioningListItem) : Except Abort String :=
  match readers.parseTime item.createdAt with
  | .error error => .error (invalidData ("list cursor time is invalid: " ++ error))
  | .ok nanos => .ok (toString (nanos.tdiv 1000) ++ ":" ++ item.provisioningId.text)

def decodeCursor (value : String) : Option PageCursor := do
  let (micros, provisioningId) ← splitOnce ':' value
  let micros ← Numeral.parseBounded (-170141183460469231731687303715884105728)
    170141183460469231731687303715884105727 micros
  let nanos ← checkedMul micros 1000
  let createdAt ← readers.fromUnixTimestampNanos nanos
  let provisioningId ← readers.parseUuid provisioningId
  return ⟨createdAt, provisioningId⟩

end Cursor

/-! ### The query -/

structure ListFilters where
  actor : String
  status : Option String
  cursor : Option PageCursor
  limit : Int

/-- `ORDER BY created_at DESC,provisioning_id DESC`. -/
def listOrder (first second : SagaRow) : Bool :=
  second.createdAt < first.createdAt ∨
    (second.createdAt = first.createdAt ∧ second.provisioningId ≤ first.provisioningId)

namespace ListFilters

/-- `requested_by=$1 AND ($2::text IS NULL OR status=$2)`. -/
def selects (actor : String) (status : Option String) (row : SagaRow) : Bool :=
  row.requestedBy = actor && status.all fun status => row.status.name = status

/-- `$3::timestamptz IS NULL OR (created_at,provisioning_id)<($3,$4)`. -/
def passes (cursor : Option PageCursor) (row : SagaRow) : Bool :=
  cursor.all fun cursor => row.createdAt < cursor.timestamptz ∨
    (row.createdAt = cursor.timestamptz ∧ row.provisioningId < cursor.provisioningId)

/-- The rows of the query. -/
def rows (filters : ListFilters) (store : Store) : List SagaRow :=
  (orderBy listOrder (store.sagas.rows.filter fun row =>
    selects filters.actor filters.status row && passes filters.cursor row)).take filters.limit.toNat

end ListFilters

def list (filters : ListFilters) (store : Store) : Except Abort (List ProvisioningListItem) :=
  match (filters.rows store).mapM listItemFromRow with
  | some items => .ok items
  | none => .error (undatedAbort ((filters.rows store).flatMap fun row => [row.createdAt, row.updatedAt]))

/-! ### The handler -/

structure ListRequest where
  cursor : Option String
  limit : Int
  status : Option String

structure ListResponse where
  items : List ProvisioningListItem
  nextCursor : Option String
deriving DecidableEq

/-- A storage error is what the caller is told; of a panic he is told nothing. -/
inductive ListFailure
  | invalidRequest
  | runtime (error : Abort)
deriving DecidableEq

def validStatus (value : String) : Bool := ["pending", "running", "completed", "failed",
  "manual_review", "cleanup_pending", "cleanup_running", "cleanup_completed",
  "cleanup_failed"].contains value

/-- The items of a page and its next cursor, from one item more than the page may have. -/
def pageOf (readers : Readers) (limit : Int) (items : List ProvisioningListItem) :
    Except Abort ListResponse :=
  if limit.toNat < items.length then
    match (items.take limit.toNat).getLast? with
    | none => .ok ⟨items.take limit.toNat, none⟩
    | some last => match encodeCursor readers last with
      | .error error => .error error
      | .ok cursor => .ok ⟨items.take limit.toNat, some cursor⟩
  else .ok ⟨items, none⟩

/-- The cursor of a request; `none` for a text that is no cursor. -/
def requestedCursor (readers : Readers) : Option String → Option (Option PageCursor)
  | none => some none
  | some value => (decodeCursor readers value).map some

def PostgresOrganizationProvisioningPlugin.list (readers : Readers) (actor : String)
    (request : ListRequest) (store : Store) : Except ListFailure ListResponse :=
  if ¬ (1 ≤ request.limit ∧ request.limit ≤ 100) ∨ (request.status.any fun value => !validStatus value) then
    .error .invalidRequest
  else match requestedCursor readers request.cursor with
  | none => .error .invalidRequest
  | some cursor =>
    ((OrganizationProvisioning.list ⟨actor, request.status, cursor, request.limit + 1⟩ store).bind
      (pageOf readers request.limit)).mapError .runtime

end OrganizationProvisioning
