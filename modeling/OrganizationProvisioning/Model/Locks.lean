/-
**What PostgreSQL locks, and what a statement sees beside others.**

At READ COMMITTED every statement sees the latest commit when it takes its snapshot. A row it writes, or
reads `FOR UPDATE`, and the unique keys of a row it inserts stay locked until its transaction ends; a
statement that needs a row another holds waits. A row that changed meanwhile is read again.

* `Lock`, `Image.locks`, `Sql.takes` — what is locked. The locks of rows a foreign key refers to, and of
  effects read `FOR UPDATE` below the lock of their saga, are left out: fewer locks leave more orders.
* `Sql.references`, `Sql.needs` — what a statement waits for, with those locks.
* `Sql.sees` — what a statement may return. The worker's scan goes through the sagas that satisfy its
  condition at the snapshot, passes over those that others hold when it comes to them, and checks the
  first of the rest that still satisfies it with its new columns and with the effects of the snapshot.
  What others hold meanwhile is left open, so any of them may be returned, or none.
* `Sql.meets` — what a scan returns that passes over no saga because others hold it: one of the above.
* `readCommitted`, `undelayed` — the two lockings of the transaction programs; `Event.draws` — the rows of
  new UUIDs.
-/
import OrganizationProvisioning.Library.Locking
import OrganizationProvisioning.Model.System

namespace OrganizationProvisioning

open Relational Transactional

/-- A row, or a unique key of an inserted one. -/
inductive Lock
  | saga (id : Uuid)
  | effect (id : Uuid)
  | downstream (key : String)
  | mutation (caller key : String)
  | activity (id : Uuid)
deriving DecidableEq

/-- The rows and the unique keys a row version locks. -/
def Image.locks : Image → Set Lock
  | .insertSaga row | .writeSaga row => {.saga row.provisioningId}
  | .insertEffect row => {.effect row.effectId, .downstream row.downstreamKey}
  | .writeEffect row => {.effect row.effectId}
  | .insertMutation row | .writeMutation row => {.mutation row.callerInstance row.idempotencyKey}
  | .insertActivity row => {.activity row.activityId}

namespace Sql

/-- The row a statement reads `FOR UPDATE`. -/
def selected : (sql : Sql) → sql.Answer → Set Lock
  | lockSaga _ _, some row | scanSagas _, some row => {.saga row.provisioningId}
  | lockEffect _ _, some row => {.effect row.effectId}
  | _, _ => ∅

/-- The locks a statement takes. -/
def takes (sql : Sql) (store : Store) (answer : sql.Answer) : Set Lock :=
  sql.selected answer ∪ {lock | ∃ image ∈ sql.images store answer, lock ∈ image.locks}

/-- What a statement may return, from what it sees at its snapshot and at its end, whatever others hold. -/
def sees : (sql : Sql) → Store → Store → sql.Answer → Prop
  | scanSagas condition, snapshot, view, found => ∀ row, found = some row →
      (∃ old, snapshot.saga row.provisioningId = some old ∧
        condition old (snapshot.effectsOf row.provisioningId) = true) ∧
      view.saga row.provisioningId = some row ∧
      condition row (snapshot.effectsOf row.provisioningId) = true
  | sql, _, view, result => result = sql.answer (fun _ => false) view

/-- What a statement returns that meets no saga others hold: a scan returns the first saga of its queue that still
satisfies its condition. -/
def meets : (sql : Sql) → Store → Store → sql.Answer → Prop
  | scanSagas condition, snapshot, view, found =>
      found = ((orderBy queueOrder (snapshot.sagas.rows.filter fun old =>
        condition old (snapshot.effectsOf old.provisioningId))).filterMap fun old =>
          (view.saga old.provisioningId).filter fun row =>
            condition row (snapshot.effectsOf row.provisioningId)).head?
  | sql, _, view, result => result = sql.answer (fun _ => false) view

/-- The rows a statement refers to by a foreign key, and the effects it selects: some are read
`FOR UPDATE`. -/
def references : (sql : Sql) → Store → sql.Answer → Set Lock
  | insertEffect row, _, _ => {.saga row.provisioningId} ∪
      {lock | ∃ source, row.sourceEffectId = some source ∧ lock = .effect source}
  | selectEffects _ _ _, _, rows => {lock | ∃ row ∈ rows, lock = .effect row.effectId}
  | insertMutation row, _, _ => {lock | ∃ id, row.provisioningId = some id ∧ lock = .saga id}
  | updateMutation caller key condition change, store, _ => {lock | ∃ row id,
      (store.mutation caller key).filter condition = some row ∧
        (row.set change).provisioningId = some id ∧ row.provisioningId ≠ some id ∧ lock = .saga id}
  | insertActivity row, _, _ => {.saga row.provisioningId} ∪
      {lock | ∃ id, row.effectId = some id ∧ lock = .effect id}
  | _, _, _ => ∅

/-- The locks a statement waits for when another transaction holds them. -/
def needs (sql : Sql) (store : Store) (answer : sql.Answer) : Set Lock :=
  sql.takes store answer ∪ sql.references store answer

end Sql

/-- The locks a statement of a transaction waits for. -/
def Statement.needs (statement : Statement) : Store → statement.Answer → Set Lock :=
  statement.sql.needs

/-- The rows a call inserts under the UUIDs it drew. -/
def Event.draws : Event → Set Lock
  | .start _ ids input => {.saga input.provisioningId, .effect ids.createEffectId,
      .activity ids.activityId} ∪ {lock | ∃ ordinal, lock = .effect (ids.grantEffectId ordinal)}
  | .retry _ activityId _ | .claimNext _ _ _ _ activityId _ | .finalizeEffect _ activityId _ _ _ =>
    {.activity activityId}
  | .requestCleanup _ effectId activityId _ =>
    {.activity activityId} ∪ {lock | ∃ index, lock = .effect (effectId index)}
  | .quarantineExpired _ _ activityId _ => {lock | ∃ index, lock = .activity (activityId index)}

/-- The statements of the plugin beside others. -/
def readCommitted : Locking Statement Statement.Answer Store Lock where
  sees statement := statement.sql.sees
  takes statement := statement.sql.takes

/-- The same, where no scan passes over a saga because others hold it. -/
def undelayed : Locking Statement Statement.Answer Store Lock where
  sees statement := statement.sql.meets
  takes statement := statement.sql.takes

/-- The clients of the store and their transactions. -/
abbrev Clients (Client : Type) :=
  Configuration Statement Statement.Answer Abort Store Image Event Reply Client Lock

end OrganizationProvisioning
