/-
**The four tables and the statements the plugin sends them.**

* `Store` — the tables of migration 001, each under its primary key.
* `SagaRow.checked`, `EffectRow.checked`, `ActivityRow.checked` — the `CHECK` constraints and the
  ranges of the integer columns.
* `Sql` — the shapes of statement the plugin uses. `Sql.answer` computes what one returns,
  `Sql.images` the row versions it writes, `Sql.refuses` whether a constraint rejects it.
* `Sql.Answers` — what one may return. It differs from `Sql.answer` only for the worker's
  `FOR UPDATE OF p SKIP LOCKED` scan: that statement passes over rows others hold locked, and a row
  that changed after its snapshot is checked again with the row's new columns but with the effects
  of the old snapshot. Which rows others hold is left open, so `Sql.Answers` allows more than one run
  of PostgreSQL: what is shown of all its answers holds of every run.
* `postgres` — the engine of the transaction programs.
-/
import OrganizationProvisioning.Library.Transaction
import OrganizationProvisioning.Model.Wire

namespace OrganizationProvisioning

open Relational Transactional

/-! ### Tables -/

/-- The owned schema. -/
structure Store where
  sagas : Table fun row : SagaRow => row.provisioningId
  effects : Table fun row : EffectRow => row.effectId
  mutations : Table fun row : MutationRow => (row.callerInstance, row.idempotencyKey)
  activity : Table fun row : ActivityRow => row.activityId

namespace Store

/-- The schema as the migration creates it. -/
def initial : Store := ⟨.empty, .empty, .empty, .empty⟩

def saga (store : Store) (id : Uuid) : Option SagaRow := store.sagas.find id

def effect (store : Store) (id : Uuid) : Option EffectRow := store.effects.find id

def mutation (store : Store) (caller key : String) : Option MutationRow :=
  store.mutations.find (caller, key)

/-- The effects of a saga. -/
def effectsOf (store : Store) (id : Uuid) : List EffectRow :=
  store.effects.rows.filter fun row => row.provisioningId = id

/-- The activity of a saga. -/
def activityOf (store : Store) (id : Uuid) : List ActivityRow :=
  store.activity.rows.filter fun row => row.provisioningId = id

end Store

/-! ### Orders -/

/-- `ORDER BY CASE kind … END ASC, ordinal ASC, effect_id ASC`. -/
def phaseOrder (first second : EffectRow) : Bool :=
  first.kind.rank < second.kind.rank ∨ (first.kind.rank = second.kind.rank ∧
    (first.ordinal < second.ordinal ∨
      (first.ordinal = second.ordinal ∧ first.effectId ≤ second.effectId)))

/-- `ORDER BY ordinal ASC, effect_id ASC`. -/
def ordinalOrder (first second : EffectRow) : Bool :=
  first.ordinal < second.ordinal ∨
    (first.ordinal = second.ordinal ∧ first.effectId ≤ second.effectId)

/-- `ORDER BY created_at ASC, effect_id ASC`. -/
def createdOrder (first second : EffectRow) : Bool :=
  first.createdAt < second.createdAt ∨
    (first.createdAt = second.createdAt ∧ first.effectId ≤ second.effectId)

/-- `ORDER BY updated_at ASC, effect_id ASC`. -/
def updatedOrder (first second : EffectRow) : Bool :=
  first.updatedAt < second.updatedAt ∨
    (first.updatedAt = second.updatedAt ∧ first.effectId ≤ second.effectId)

/-- `ORDER BY p.updated_at ASC, p.provisioning_id ASC`. -/
def queueOrder (first second : SagaRow) : Bool :=
  first.updatedAt < second.updatedAt ∨
    (first.updatedAt = second.updatedAt ∧ first.provisioningId ≤ second.provisioningId)

/-! ### Constraints -/

def SagaRow.checked (row : SagaRow) : Bool :=
  (1 ≤ row.name.length ∧ row.name.length ≤ 200) ∧
  (1 ≤ row.slug.length ∧ row.slug.length ≤ 100) ∧
  (1 ≤ row.ownerSubject.length ∧ row.ownerSubject.length ≤ 256) ∧
  (0 < row.revision ∧ row.revision ≤ 9223372036854775807) ∧
  row.organizationId.isNone = row.ownerMembershipId.isNone ∧
  (row.organizationResidue = true → row.organizationId.isSome)

/-- The columns each kind of effect has. -/
def EffectPlan.shaped (plan : EffectPlan) : Bool :=
  match plan.kind with
  | .createOrganization => plan.ordinal = 0 ∧ plan.subjectKind.isNone ∧ plan.feature.isNone ∧
      plan.limitValue.isNone ∧ plan.sourceEffectId.isNone
  | .putEntitlement => plan.subjectKind.isSome ∧ plan.feature.isSome ∧ plan.sourceEffectId.isNone
  | .revokeEntitlement =>
      plan.subjectKind.isSome ∧ plan.feature.isSome ∧ plan.sourceEffectId.isSome

/-- The columns of an effect fixed at insertion. -/
def EffectPlan.checked (plan : EffectPlan) : Bool :=
  (0 ≤ plan.ordinal ∧ plan.ordinal ≤ 64) ∧
  (plan.subjectKind = none ∨ plan.subjectKind = some "organization" ∨
    plan.subjectKind = some "owner") ∧
  (plan.limitValue.all fun limit => 0 < limit ∧ limit ≤ 9223372036854775807) ∧ plan.shaped

/-- The columns of an effect that updates write: a lease exactly while in flight. -/
def EffectProgress.checked (progress : EffectProgress) : Bool :=
  (0 ≤ progress.attempts ∧ progress.attempts ≤ 2147483647) ∧
  ((progress.state = .inFlight ∧ progress.leaseToken.isSome ∧ progress.leaseUntil.isSome) ∨
    (progress.state ≠ .inFlight ∧ progress.leaseToken.isNone ∧ progress.leaseUntil.isNone))

def EffectRow.checked (row : EffectRow) : Bool :=
  row.toEffectPlan.checked && row.toEffectProgress.checked

def ActivityRow.checked (row : ActivityRow) : Bool :=
  0 < row.provisioningRevision ∧ row.provisioningRevision ≤ 9223372036854775807

/-! ### Statements -/

/-- The statements, with their `WHERE`, `SET` and `ORDER BY` clauses. -/
inductive Sql
  | insertSaga (row : SagaRow)
  /-- `SELECT … WHERE provisioning_id=$1 AND …`. -/
  | selectSaga (id : Uuid) (condition : SagaRow → Bool)
  /-- `SELECT … WHERE provisioning_id=$1 AND … FOR UPDATE`. -/
  | lockSaga (id : Uuid) (condition : SagaRow → Bool)
  /-- `UPDATE … WHERE provisioning_id=$1 RETURNING …`. -/
  | updateSaga (id : Uuid) (change : SagaProgress → SagaProgress)
  /-- `SELECT … WHERE … EXISTS(…) ORDER BY p.updated_at, p.provisioning_id LIMIT 1 FOR UPDATE OF p
  SKIP LOCKED`, on a saga and its effects. -/
  | scanSagas (condition : SagaRow → List EffectRow → Bool)
  | insertEffect (row : EffectRow)
  /-- `SELECT … WHERE provisioning_id=$1 AND … ORDER BY …`. -/
  | selectEffects (id : Uuid) (condition : EffectRow → Bool) (order : EffectRow → EffectRow → Bool)
  /-- `SELECT … WHERE effect_id=$1 AND … FOR UPDATE`. -/
  | lockEffect (id : Uuid) (condition : EffectRow → Bool)
  /-- `UPDATE … WHERE effect_id=$1 AND … RETURNING …`. -/
  | updateEffect (id : Uuid) (condition : EffectRow → Bool)
      (change : EffectProgress → EffectProgress)
  /-- `UPDATE … WHERE provisioning_id=$1 AND …`. -/
  | updateEffects (id : Uuid) (condition : EffectRow → Bool)
      (change : EffectProgress → EffectProgress)
  /-- `INSERT … ON CONFLICT(caller_instance,idempotency_key) DO NOTHING`. -/
  | insertMutation (row : MutationRow)
  | selectMutation (caller key : String)
  /-- `UPDATE … WHERE caller_instance=$1 AND idempotency_key=$2 AND …`. -/
  | updateMutation (caller key : String) (condition : MutationRow → Bool)
      (change : MutationOutcome → MutationOutcome)
  | insertActivity (row : ActivityRow)

namespace Sql

/-- What a statement returns: its rows, or the number of rows it affected. -/
@[reducible] def Answer : Sql → Type
  | insertSaga _ | insertEffect _ | insertActivity _ => Unit
  | selectSaga _ _ | lockSaga _ _ | updateSaga _ _ | scanSagas _ => Option SagaRow
  | selectEffects _ _ _ => List EffectRow
  | lockEffect _ _ | updateEffect _ _ _ => Option EffectRow
  | updateEffects _ _ _ => Nat
  | insertMutation _ => Bool
  | selectMutation _ _ => Option MutationRow
  | updateMutation _ _ _ _ => Nat

/-- The answer on a store, with the sagas other transactions hold locked. -/
def answer (locked : Uuid → Bool) : (sql : Sql) → Store → sql.Answer
  | insertSaga _, _ | insertEffect _, _ | insertActivity _, _ => ()
  | selectSaga id condition, store | lockSaga id condition, store =>
      (store.saga id).filter condition
  | updateSaga id change, store => (store.saga id).map fun row => row.set change
  | scanSagas condition, store =>
      (orderBy queueOrder (store.sagas.rows.filter fun row =>
        !locked row.provisioningId && condition row (store.effectsOf row.provisioningId))).head?
  | selectEffects id condition order, store =>
      orderBy order ((store.effectsOf id).filter condition)
  | lockEffect id condition, store => (store.effect id).filter condition
  | updateEffect id condition change, store =>
      ((store.effect id).filter condition).map fun row => row.set change
  | updateEffects id condition _, store => ((store.effectsOf id).filter condition).length
  | insertMutation row, store => (store.mutation row.callerInstance row.idempotencyKey).isNone
  | selectMutation caller key, store => store.mutation caller key
  | updateMutation caller key condition _, store =>
      if ((store.mutation caller key).filter condition).isSome then 1 else 0

/-- The answers a statement may give. The scan may find nothing, since every match can be locked; a
row it finds has its current columns, and satisfies the condition with the effects of some
snapshot. -/
def Answers : (sql : Sql) → Store → sql.Answer → Prop
  | scanSagas condition, store, found => ∀ row, found = some row →
      row ∈ store.sagas.rows ∧ ∃ stale, condition row stale = true
  | sql, store, result => result = answer (fun _ => false) sql store

/-! ### Row versions -/

end Sql

/-- A row version a statement writes: a new row, or the new version of a row. -/
inductive Image
  | insertSaga (row : SagaRow)
  | writeSaga (row : SagaRow)
  | insertEffect (row : EffectRow)
  | writeEffect (row : EffectRow)
  | insertMutation (row : MutationRow)
  | writeMutation (row : MutationRow)
  | insertActivity (row : ActivityRow)

/-- Install a row version. -/
def Image.apply : Image → Store → Store
  | .insertSaga row, store => { store with sagas := store.sagas.insert row }
  | .writeSaga row, store => { store with
      sagas := store.sagas.modify row.provisioningId
        (fun old => old.set fun _ => row.toSagaProgress) fun _ => rfl }
  | .insertEffect row, store => { store with effects := store.effects.insert row }
  | .writeEffect row, store => { store with
      effects := store.effects.modify row.effectId
        (fun old => old.set fun progress =>
          if old.provisioningId = row.provisioningId then row.toEffectProgress else progress)
        fun _ => rfl }
  | .insertMutation row, store => { store with mutations := store.mutations.insert row }
  | .writeMutation row, store => { store with
      mutations := store.mutations.modify (row.callerInstance, row.idempotencyKey)
        (fun old => old.set fun _ => row.toMutationOutcome) fun _ => rfl }
  | .insertActivity row, store => { store with activity := store.activity.insert row }

namespace Sql

/-- The row versions a statement writes. -/
def images : (sql : Sql) → Store → sql.Answer → List Image
  | insertSaga row, _, _ => [.insertSaga row]
  | updateSaga id change, store, _ =>
      ((store.saga id).map fun row => Image.writeSaga (row.set change)).toList
  | insertEffect row, _, _ => [.insertEffect row]
  | updateEffect id condition change, store, _ =>
      (((store.effect id).filter condition).map fun row =>
        Image.writeEffect (row.set change)).toList
  | updateEffects id condition change, store, _ =>
      ((store.effectsOf id).filter condition).map fun row => Image.writeEffect (row.set change)
  | insertMutation row, _, inserted => if inserted then [.insertMutation row] else []
  | updateMutation caller key condition change, store, _ =>
      (((store.mutation caller key).filter condition).map fun row =>
        Image.writeMutation (row.set change)).toList
  | insertActivity row, _, _ => [.insertActivity row]
  | selectSaga _ _, _, _ | lockSaga _ _, _, _ | scanSagas _, _, _ | selectEffects _ _ _, _, _
  | lockEffect _ _, _, _ | selectMutation _ _, _, _ => []

/-- A constraint rejects the rows a statement would write. -/
def refuses : Sql → Store → Bool
  | insertSaga row, store => !row.checked || (store.saga row.provisioningId).isSome
  | updateSaga id change, store => (store.saga id).any fun row => !(row.set change).checked
  | insertEffect row, store =>
      !row.checked || (store.effect row.effectId).isSome ||
      (store.effects.rows.any fun other => other.downstreamKey = row.downstreamKey) ||
      ((store.effectsOf row.provisioningId).any fun other =>
        other.kind = row.kind ∧ other.ordinal = row.ordinal) ||
      (store.saga row.provisioningId).isNone ||
      (row.sourceEffectId.any fun source => (store.effect source).isNone)
  | updateEffect id condition change, store =>
      ((store.effect id).filter condition).any fun row => !(row.set change).checked
  | updateEffects id condition change, store =>
      ((store.effectsOf id).filter condition).any fun row => !(row.set change).checked
  | insertMutation row, store =>
      (store.mutation row.callerInstance row.idempotencyKey).isNone &&
        row.provisioningId.any fun id => (store.saga id).isNone
  | updateMutation caller key condition change, store =>
      ((store.mutation caller key).filter condition).any fun row =>
        (row.set change).provisioningId.any fun id => (store.saga id).isNone
  | insertActivity row, store =>
      !row.checked || (store.activity.find row.activityId).isSome ||
      (store.saga row.provisioningId).isNone ||
      (row.effectId.any fun id => (store.effect id).isNone)
  | selectSaga _ _, _ | lockSaga _ _, _ | scanSagas _, _ | selectEffects _ _ _, _
  | lockEffect _ _, _ | selectMutation _ _, _ => false

end Sql

/-! ### The engine -/

inductive DomainFailure
  | provisioningNotFound | revisionConflict | idempotencyConflict | invalidTransition
  | manualResolutionRequired
deriving DecidableEq, Repr

inductive StorageError
  | database (operation : String)
  | invalidStoredData (detail : String)
deriving DecidableEq, Repr

/-- Why a transaction is dropped without a commit: the two error layers of the storage functions, or a panic
of the driver, which unwinds the call. -/
inductive Abort
  | domain (failure : DomainFailure)
  | storage (error : StorageError)
  | panicked
deriving DecidableEq, Repr

/-- A statement with the operation its database error names. -/
structure Statement where
  operation : String
  sql : Sql

@[reducible] def Statement.Answer (statement : Statement) : Type := statement.sql.Answer

/-- A transaction of the plugin. -/
abbrev Transaction := Tx Statement Statement.Answer Abort

/-- PostgreSQL, one transaction at a time. -/
def postgres : Engine Statement Statement.Answer Abort Store Image where
  answers statement store result := statement.sql.Answers store result
  images statement store result := statement.sql.images store result
  apply := Image.apply
  refuses statement store := statement.sql.refuses store = true
  failure statement := .storage (.database statement.operation)

instance (statement : Statement) (store : Store) : Decidable (postgres.refuses statement store) :=
  inferInstanceAs (Decidable (_ = true))

/-- Send a statement. -/
def exec (operation : String) (sql : Sql) : Transaction sql.Answer :=
  Tx.perform (⟨operation, sql⟩ : Statement)

end OrganizationProvisioning
