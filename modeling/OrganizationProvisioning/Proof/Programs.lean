/-
**The shared parts of the programs.**

* `commits_refreshSagaStatus` — the recomputed summary and the new revision.
* `commits_loadView` — a view is the rendering of the saga's row and its effects.
* `commits_beginMutation_execute`, `commits_completeMutation` — a key is reserved by a row that was not
  there, and completed with the response.
* `commits_beginMutation_replay` — a reserved key replays its response.
* `commits_insertGrants`, `commits_insertRevokes` — the loops that insert effects.
-/
import OrganizationProvisioning.Proof.Statements

namespace OrganizationProvisioning

open Relational Transactional

theorem filter_all {α : Type} (rows : List α) : (rows.filter fun _ => true) = rows :=
  List.filter_eq_self.mpr fun _ _ => rfl

theorem Option.filter_all {α : Type} (found : Option α) : (found.filter fun _ => true) = found := by
  cases found <;> rfl

/-- The effects of a saga in the order of the views. -/
def Store.stepsOf (store : Store) (id : Uuid) : List EffectRow :=
  orderBy phaseOrder (store.effectsOf id)

section Shared

variable {store final : Store} {now : Timestamp} {id : Uuid} {actor : String}

/-- What `refresh_saga_status` writes on a row. -/
def refreshChange (store : Store) (now : Timestamp) (id : Uuid) (row : SagaRow) :
    SagaProgress → SagaProgress :=
  .refreshed now 1 (summarize row.cleanupRequested (store.stepsOf id)) row.organizationId

/-- **The status refresh.** -/
theorem commits_refreshSagaStatus {revision : Int} :
    postgres.Commits (refreshSagaStatus now id true) store revision final ↔
      ∃ row, store.saga id = some row ∧
        (row.set (refreshChange store now id row)).checked = true ∧
        revision = row.revision + 1 ∧
        final = store.setSaga id (refreshChange store now id row) := by
  unfold refreshSagaStatus
  simp only [Tx.bind_eq, Tx.pure_eq, Engine.commits_bind, Engine.commits_pure, commits_lockSaga,
    commits_fetchOne, commits_selectEffects, commits_updateSaga, filter_all, Option.filter_all]
  constructor
  · rintro ⟨_, _, ⟨rfl, rfl⟩, row, _, ⟨found, rfl⟩, _, _, ⟨rfl, rfl⟩, _, _,
      ⟨checked, rfl, rfl⟩, updated, _, ⟨present, rfl⟩, rfl, rfl⟩
    rw [found, Option.map_some] at present
    cases present
    exact ⟨row, found, checked row found, rfl, rfl⟩
  · rintro ⟨row, found, checked, rfl, rfl⟩
    refine ⟨_, _, ⟨rfl, rfl⟩, row, _, ⟨found, rfl⟩, _, _, ⟨rfl, rfl⟩, _, _, ⟨?_, rfl, rfl⟩,
      row.set _, _, ⟨by rw [found]; rfl, rfl⟩, rfl, rfl⟩
    intro other present
    rw [found] at present
    cases present
    exact checked

/-- **A view is the rendering of the saga's row and its effects.** -/
theorem commits_loadView {view : ProvisioningView} :
    postgres.Commits (loadView id actor) store (some view) final ↔
      ∃ row, store.saga id = some row ∧ row.requestedBy = actor ∧
        renderView row (store.stepsOf id) = some view ∧ final = store := by
  unfold loadView
  simp only [Tx.bind_eq, Tx.pure_eq, Engine.commits_bind, commits_selectSaga]
  constructor
  · rintro ⟨_, store, ⟨rfl, rfl⟩, rest⟩
    cases found : (store.saga id).filter fun row => decide (row.requestedBy = actor) with
    | none =>
      rw [found] at rest
      cases rest.1
    | some row =>
      rw [found] at rest
      simp only [Engine.commits_bind, commits_selectEffects, commits_expect,
        Engine.commits_pure, filter_all] at rest
      obtain ⟨_, _, ⟨rfl, rfl⟩, _, _, ⟨rendered, rfl⟩, same, rfl⟩ := rest
      cases same
      obtain ⟨present, owner⟩ := Option.filter_eq_some_iff.mp found
      exact ⟨row, present, by simpa using owner, rendered, rfl⟩
  · rintro ⟨row, found, owner, rendered, rfl⟩
    refine ⟨_, _, ⟨rfl, rfl⟩, ?_⟩
    rw [found, Option.filter_some, if_pos (by simpa using owner)]
    simp only [Engine.commits_bind, commits_selectEffects, commits_expect, Engine.commits_pure,
      filter_all]
    exact ⟨_, _, ⟨rfl, rfl⟩, view, _, ⟨rendered, rfl⟩, rfl, rfl⟩

/-- The row of one activity. -/
def activityRow (now : Timestamp) (activityId provisioningId : Uuid) (effectId : Option Uuid)
    (kind : ActivityKind) (actor : String) (revision : Int) (evidence : Json) : ActivityRow where
  activityId := activityId
  provisioningId := provisioningId
  effectId := effectId
  kind := kind
  actorSubject := actor
  provisioningRevision := revision
  evidence := evidence
  createdAt := now

theorem commits_activity {activityId : Uuid} {effectId : Option Uuid} {kind : ActivityKind}
    {revision : Int} {evidence : Json} {value : Unit} :
    postgres.Commits (insertActivity now activityId id effectId kind actor revision evidence)
      store value final ↔
        AdmitsActivity store
          (activityRow now activityId id effectId kind actor revision evidence) ∧
        final = store.addActivity
          (activityRow now activityId id effectId kind actor revision evidence) :=
  commits_insertActivity

end Shared

/-! ### Mutations -/

section Mutations

variable {store final : Store} {now : Timestamp} {caller key actor : String}
  {operation : Operation} {requestHash : List UInt8} {provisioningId : Option Uuid}

/-- The row that reserves a key. -/
def reservation (now : Timestamp) (caller key : String) (operation : Operation) (actor : String)
    (requestHash : List UInt8) (provisioningId : Option Uuid) : MutationRow where
  callerInstance := caller
  idempotencyKey := key
  operation := operation
  actorSubject := actor
  requestHash := requestHash
  createdAt := now
  provisioningId := provisioningId
  status := .started
  response := none

/-- A completed row answers a request with a response. -/
structure Answered (row : MutationRow) (operation : Operation) (actor : String)
    (requestHash : List UInt8) (response : ProvisioningView) : Prop where
  operation_eq : row.operation = operation
  actor_eq : row.actorSubject = actor
  hash_eq : row.requestHash = requestHash
  status_eq : row.status = .completed
  response_eq : row.response.bind ProvisioningView.fromJson = some response

/-- **Reserving a key:** it executes exactly when no row reserves the key. -/
theorem commits_beginMutation_execute :
    postgres.Commits (beginMutation now caller key operation actor requestHash provisioningId)
      store .execute final ↔ store.mutation caller key = none ∧ Refers store provisioningId ∧
        final = store.addMutation
          (reservation now caller key operation actor requestHash provisioningId) := by
  unfold beginMutation
  simp only [Tx.bind_eq, Tx.pure_eq, Engine.commits_bind, commits_insertMutation]
  constructor
  · rintro ⟨_, _, ⟨rfl, fresh, refers, rfl⟩ | ⟨rfl, present, rfl⟩, rest⟩
    · exact ⟨fresh, refers, rest.2⟩
    · simp only [Engine.commits_bind, commits_selectMutation, commits_fetchOne, commits_require,
        commits_expect, Engine.commits_pure] at rest
      obtain ⟨_, _, _, _, _, _, _, _, _, _, _, _, _, _, _, _, _, _, impossible, _⟩ := rest
      cases impossible
  · rintro ⟨fresh, refers, rfl⟩
    exact ⟨true, _, Or.inl ⟨rfl, fresh, refers, rfl⟩, rfl, rfl⟩

/-- **Replaying a key:** the response of the row that reserves it, if that row answers the same
request. -/
theorem commits_beginMutation_replay {response : ProvisioningView} :
    postgres.Commits (beginMutation now caller key operation actor requestHash provisioningId)
      store (.replay response) final ↔ final = store ∧
        ∃ row, store.mutation caller key = some row ∧
          Answered row operation actor requestHash response := by
  unfold beginMutation
  simp only [Tx.bind_eq, Tx.pure_eq, Engine.commits_bind, commits_insertMutation]
  constructor
  · rintro ⟨_, _, ⟨rfl, fresh, refers, rfl⟩ | ⟨rfl, present, rfl⟩, rest⟩
    · cases rest.1
    · simp only [Engine.commits_bind, commits_selectMutation, commits_fetchOne, commits_require,
        commits_expect, Engine.commits_pure] at rest
      obtain ⟨_, _, ⟨rfl, rfl⟩, row, _, ⟨found, rfl⟩, _, _, ⟨same, rfl⟩, _, _, ⟨status, rfl⟩,
        json, _, ⟨stored, rfl⟩, view, _, ⟨decoded, rfl⟩, equal, rfl⟩ := rest
      cases equal
      simp only [decide_eq_true_eq] at same status
      refine ⟨rfl, row, found, same.1, same.2.1, same.2.2, status, ?_⟩
      rw [stored]
      exact decoded
  · rintro ⟨rfl, row, found, operation_eq, actor_eq, hash_eq, status_eq, response_eq⟩
    refine ⟨false, _, Or.inr ⟨rfl, ?_, rfl⟩, ?_⟩
    · show (final.mutation caller key).isSome
      rw [found]
      rfl
    · obtain ⟨json, stored, decoded⟩ := Option.bind_eq_some_iff.mp response_eq
      simp only [Engine.commits_bind, commits_selectMutation, commits_fetchOne, commits_require,
        commits_expect, Engine.commits_pure]
      exact ⟨_, _, ⟨rfl, rfl⟩, row, _, ⟨found, rfl⟩, (), _,
        ⟨by simp [operation_eq, actor_eq, hash_eq], rfl⟩, (), _, ⟨by simp [status_eq], rfl⟩,
        json, _, ⟨stored, rfl⟩, response, _, ⟨decoded, rfl⟩, rfl, rfl⟩

/-- The columns a completion writes. -/
def completed (response : ProvisioningView) (old : MutationOutcome) : MutationOutcome :=
  { old with status := .completed, response := some response.toJson }

/-- **Completing a key** that this transaction reserved. -/
theorem commits_completeMutation {response : ProvisioningView} {row : MutationRow}
    (found : store.mutation caller key = some row) (started : row.status = .started) {value : Unit} :
    postgres.Commits (completeMutation caller key response) store value final ↔
      Refers store row.provisioningId ∧
        final = store.setMutation caller key (completed response) := by
  unfold completeMutation
  simp only [Tx.bind_eq, Engine.commits_bind, commits_require]
  constructor
  · rintro ⟨affected, middle, first, -, rfl⟩
    obtain ⟨refers, -, rfl⟩ := (commits_updateMutation found (by simpa using started)).mp first
    exact ⟨refers, rfl⟩
  · rintro ⟨refers, rfl⟩
    exact ⟨1, _, (commits_updateMutation found (by simpa using started)).mpr ⟨refers, rfl, rfl⟩,
      by simp, rfl⟩

end Mutations

/-! ### Inserting effects -/

section Loops

variable {store final : Store} {now : Timestamp} {id : Uuid} {effectId : Nat → Uuid} {value : Unit}

/-- Insert rows one after the other. -/
def Store.addEffects (store : Store) (rows : List EffectRow) : Store :=
  rows.foldl Store.addEffect store

/-- Each of the rows is admitted after those before it. -/
def AdmitsAll : Store → List EffectRow → Prop
  | _, [] => True
  | store, row :: rows => Admits store row ∧ AdmitsAll (store.addEffect row) rows

/-- The rows of the grants from an ordinal on. -/
def grantRows (now : Timestamp) (id : Uuid) (effectId : Nat → Uuid) :
    Nat → List BootstrapGrant → List EffectRow
  | _, [] => []
  | ordinal, grant :: grants => grantEffect now (effectId ordinal) id ordinal grant ::
      grantRows now id effectId (ordinal + 1) grants

theorem grantRows_eq (ordinal : Nat) (grants : List BootstrapGrant) :
    grantRows now id effectId ordinal grants = grants.mapIdx fun index grant =>
      grantEffect now (effectId (ordinal + index)) id (ordinal + index) grant := by
  induction grants generalizing ordinal with
  | nil => rfl
  | cons grant grants ih =>
    rw [grantRows, ih, List.mapIdx_cons]
    congr 2
    funext index other
    rw [show ordinal + 1 + index = ordinal + (index + 1) by omega]

/-- **The loop over the grants inserts their rows.** -/
theorem commits_insertGrants {ordinal : Nat} {grants : List BootstrapGrant} :
    postgres.Commits (insertGrants now id effectId ordinal grants) store value final ↔
      (grants = [] ∨ ordinal + grants.length ≤ 2147483648) ∧
        AdmitsAll store (grantRows now id effectId ordinal grants) ∧
        final = store.addEffects (grantRows now id effectId ordinal grants) := by
  induction grants generalizing ordinal store with
  | nil =>
    unfold insertGrants
    simp [grantRows, AdmitsAll, Store.addEffects]
  | cons grant grants ih =>
    unfold insertGrants
    simp only [Tx.bind_eq, Engine.commits_bind, commits_require, commits_insertEffect, ih,
      grantRows, AdmitsAll, decide_eq_true_eq]
    constructor
    · rintro ⟨_, _, ⟨small, rfl⟩, _, _, ⟨admits, rfl⟩, bound, others, rfl⟩
      refine ⟨Or.inr ?_, ⟨admits, others⟩, rfl⟩
      rw [List.length_cons]
      rcases bound with rfl | bound
      · simp
        omega
      · omega
    · rintro ⟨bound, ⟨admits, others⟩, rfl⟩
      rcases bound with impossible | bound
      · cases impossible
      · rw [List.length_cons] at bound
        exact ⟨(), _, ⟨by omega, rfl⟩, (), _, ⟨admits, rfl⟩, Or.inr (by omega), others, rfl⟩

/-- **The loop over the applied grants inserts a revocation of each.** -/
theorem commits_insertRevokes {index : Nat} {sources : List EffectRow}
    (committed : postgres.Commits (insertRevokes now effectId index sources) store value final) :
    ∃ revokes, List.Forall₂ (fun source revoke => ∃ position subjectKind feature grantId,
        source.subjectKind = some subjectKind ∧ source.feature = some feature ∧
        source.externalId = some grantId ∧
        revoke = revokeEffect now (effectId position) source subjectKind feature grantId)
      sources revokes ∧ AdmitsAll store revokes ∧ final = store.addEffects revokes := by
  induction sources generalizing index store with
  | nil =>
    obtain ⟨-, rfl⟩ := committed
    exact ⟨[], .nil, trivial, rfl⟩
  | cons source sources ih =>
    unfold insertRevokes at committed
    simp only [Tx.bind_eq, Engine.commits_bind, commits_fetchOne, commits_expect,
      commits_insertEffect] at committed
    obtain ⟨subjectKind, _, ⟨subject, rfl⟩, feature, _, ⟨named, rfl⟩, grantId, _, ⟨grant, rfl⟩,
      _, _, ⟨admits, rfl⟩, rest⟩ := committed
    obtain ⟨revokes, paired, others, rfl⟩ := ih rest
    exact ⟨_ :: revokes, .cons ⟨index, subjectKind, feature, grantId, subject, named, grant, rfl⟩
      paired, ⟨admits, others⟩, rfl⟩

end Loops

/-! ### Lookups after several insertions -/

section AddEffects

variable {store : Store} {rows : List EffectRow}

@[simp] theorem saga_addEffects (id : Uuid) : (store.addEffects rows).saga id = store.saga id := by
  induction rows generalizing store with
  | nil => rfl
  | cons row rows ih =>
    show ((store.addEffect row).addEffects rows).saga id = _
    rw [ih, saga_addEffect]

@[simp] theorem activityOf_addEffects (id : Uuid) :
    (store.addEffects rows).activityOf id = store.activityOf id := by
  induction rows generalizing store with
  | nil => rfl
  | cons row rows ih =>
    show ((store.addEffect row).addEffects rows).activityOf id = _
    rw [ih, activityOf_addEffect]

theorem activity_addEffects : (store.addEffects rows).activity = store.activity := by
  induction rows generalizing store with
  | nil => rfl
  | cons row rows ih => exact ih

theorem mutations_addEffects : (store.addEffects rows).mutations = store.mutations := by
  induction rows generalizing store with
  | nil => rfl
  | cons row rows ih => exact ih

@[simp] theorem mutation_addEffects (caller key : String) :
    (store.addEffects rows).mutation caller key = store.mutation caller key := by
  unfold Store.mutation
  rw [mutations_addEffects]

/-- A saga has the inserted effects after those it had. -/
theorem effectsOf_addEffects (admitted : AdmitsAll store rows) {id : Uuid}
    (owned : ∀ row ∈ rows, row.provisioningId = id) (other : Uuid) :
    (store.addEffects rows).effectsOf other =
      store.effectsOf other ++ if other = id then rows else [] := by
  induction rows generalizing store with
  | nil => simp [Store.addEffects]
  | cons row rows ih =>
    show ((store.addEffect row).addEffects rows).effectsOf other = _
    rw [ih admitted.2 fun row member => owned row (List.mem_cons_of_mem _ member),
      effectsOf_addEffect admitted.1.fresh, owned row List.mem_cons_self]
    by_cases same : other = id
    · subst same
      simp
    · rw [if_neg (Ne.symm same), if_neg same, if_neg same]
      simp

end AddEffects

end OrganizationProvisioning
