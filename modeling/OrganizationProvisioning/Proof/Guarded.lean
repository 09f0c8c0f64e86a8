/-
**Every transaction is guarded by its locks.**

* `guarded_query`, `guarded_lockSaga`, `guarded_beginMutation` — statements and shared pieces.
* `guarded_start`, `guarded_retry`, `guarded_requestCleanup`, `guarded_quarantineExpired`,
  `guarded_claimNext`, `guarded_finalizeEffect` — the storage functions.
-/
import OrganizationProvisioning.Proof.Locks

namespace OrganizationProvisioning

open Relational Transactional

/-! ### Statements and control -/

section Rules

variable {α β : Type} {locks : Set Lock} {store : Store} {operation : String} {id : Uuid}
  {otherwise : Abort} {post : α → Set Lock → Store → Prop}

theorem guarded_require {condition : Bool} {rest : Unit → Transaction α}
    (goes : condition = true → rowLocks.Guards (rest ()) locks store post) :
    rowLocks.Guards ((require condition otherwise).bind rest) locks store post := by
  unfold require
  split
  · exact goes ‹_›
  · trivial

theorem guarded_expect {found : Option β} {rest : β → Transaction α}
    (goes : ∀ value, found = some value → rowLocks.Guards (rest value) locks store post) :
    rowLocks.Guards ((expect otherwise found).bind rest) locks store post := by
  cases found with
  | none => trivial
  | some value => exact goes value rfl

/-- An expected value at the end. -/
theorem guarded_expected {found : Option α} (goes : ∀ value, found = some value →
    post value locks store) : rowLocks.Guards (expect otherwise found) locks store post := by
  cases found with
  | none => trivial
  | some value => exact goes value rfl

/-- A statement that its locks protect, and the rest. -/
theorem guarded_query {sql : Sql} {rest : sql.Answer → Transaction α}
    (safe : ∀ answer, sql.Answers store answer → sql.Protected locks store answer)
    (goes : ∀ answer more, sql.Answers store answer → locks ∪ sql.takes store answer ⊆ more →
      rowLocks.Guards (rest answer) more (postgres.after ⟨operation, sql⟩ store answer) post) :
    rowLocks.Guards ((exec operation sql).bind rest) locks store post :=
  fun _ answer answered => ⟨Or.inr (safe answer answered), goes answer _ answered Set.Subset.rfl⟩

/-- A statement whose answer does not matter. -/
theorem guarded_write {sql : Sql} {rest : sql.Answer → Transaction α}
    (safe : ∀ answer, sql.Protected locks store answer)
    (goes : ∀ answer more middle, locks ⊆ more →
      rowLocks.Guards (rest answer) more middle post) :
    rowLocks.Guards ((exec operation sql).bind rest) locks store post :=
  guarded_query (fun answer _ => safe answer) fun answer more _ larger =>
    goes answer more _ (Set.subset_union_left.trans larger)

/-- A saga that is locked, or the transaction gives up. -/
theorem guarded_lockSaga {condition : SagaRow → Bool} {rest : SagaRow → Transaction α}
    (goes : ∀ row more, locks ⊆ more → .saga id ∈ more →
      rowLocks.Guards (rest row) more store post) :
    rowLocks.Guards ((exec operation (.lockSaga id condition)).bind fun locked =>
      (expect otherwise locked).bind rest) locks store post := by
  intro _ locked answered
  have found : locked = (store.saga id).filter condition := answered
  cases locked with
  | none => exact ⟨Or.inl ⟨_, rfl⟩, trivial⟩
  | some row =>
    obtain ⟨-, owner⟩ := Store.saga_found.mp (Option.filter_eq_some_iff.mp found.symm).1
    refine ⟨Or.inr rfl, goes row _ Set.subset_union_left (Or.inr (Or.inl ?_))⟩
    rw [← owner]
    exact rfl

/-- The effects of a locked saga. -/
theorem guarded_selectEffects {condition : EffectRow → Bool} {order : EffectRow → EffectRow → Bool}
    {rest : List EffectRow → Transaction α} (held : .saga id ∈ locks)
    (goes : ∀ rows more, locks ⊆ more → (∀ effect ∈ rows, effect ∈ store.effectsOf id) →
      rowLocks.Guards (rest rows) more store post) :
    rowLocks.Guards ((exec operation (.selectEffects id condition order)).bind rest) locks store
      post := by
  refine guarded_query (fun _ _ => held) fun rows more answered larger => ?_
  have found : rows = orderBy order ((store.effectsOf id).filter condition) := answered
  refine goes rows more (Set.subset_union_left.trans larger) fun effect member => ?_
  rw [found, mem_orderBy] at member
  exact (List.mem_filter.mp member).1

/-- The first of them is held. -/
theorem Store.held_of_head {rows : List EffectRow} {effect : EffectRow} (held : .saga id ∈ locks)
    (inside : ∀ effect ∈ rows, effect ∈ store.effectsOf id) (first : rows.head? = some effect) :
    store.Held locks effect.effectId :=
  ⟨id, held, effect, inside effect (List.mem_of_mem_head? (Option.mem_def.mpr first)), rfl⟩

end Rules

/-! ### Shared pieces -/

section Shared

variable {α : Type} {locks : Set Lock} {store : Store} {now : Timestamp} {id : Uuid}
  {caller key actor : String} {post : α → Set Lock → Store → Prop}

/-- Activity needs no lock. -/
theorem guarded_insertActivity {activityId : Uuid} {effectId : Option Uuid} {kind : ActivityKind}
    {revision : Int} {evidence : Json} :
    rowLocks.Guards (insertActivity now activityId id effectId kind actor revision evidence) locks
      store fun _ _ _ => True :=
  .perform fun _ _ _ => ⟨trivial, trivial⟩

/-- A reset needs the lock of the effect's saga. -/
theorem guarded_resetEffectToPending {effectId : Uuid} (held : store.Held locks effectId) :
    rowLocks.Guards (resetEffectToPending now effectId) locks store fun _ _ _ => True :=
  guarded_write (fun _ => held) fun _ _ _ _ => trivial

/-- A status refresh locks its saga. -/
theorem guarded_refreshSagaStatus {bump : Bool} :
    rowLocks.Guards (refreshSagaStatus now id bump) locks store fun _ more _ => .saga id ∈ more := by
  refine guarded_lockSaga fun saga more _ held => ?_
  refine guarded_write (fun _ => held) fun rows more' middle larger => ?_
  refine guarded_write (fun _ => larger held) fun updated more'' last larger' => ?_
  exact guarded_expect fun row _ => larger' (larger held)

/-- A view is read under the lock of its saga. -/
theorem guarded_loadView (held : .saga id ∈ locks) :
    rowLocks.Guards (loadView id actor) locks store fun _ _ _ => True := by
  refine guarded_write (fun _ => held) fun found more middle larger => ?_
  cases found with
  | none => trivial
  | some row =>
    refine guarded_write (fun _ => larger held) fun rows more' middle' larger' => ?_
    exact guarded_expect fun _ _ => trivial

/-- A new key is locked. -/
theorem guarded_beginMutation {operation : Operation} {requestHash : List UInt8}
    {provisioningId : Option Uuid} :
    rowLocks.Guards (beginMutation now caller key operation actor requestHash provisioningId) locks
      store fun replay more _ => replay = .execute → .mutation caller key ∈ more := by
  refine guarded_query (fun _ _ => trivial) fun inserted more _ larger => ?_
  cases inserted with
  | true => exact fun _ => larger (Or.inr (Or.inr ⟨_, List.mem_cons_self, rfl⟩))
  | false =>
    intro _ found answered
    cases found with
    | none => exact ⟨Or.inl ⟨_, rfl⟩, trivial⟩
    | some row =>
      refine ⟨Or.inr (Or.inl rfl), ?_⟩
      refine guarded_require fun _ => guarded_require fun _ => ?_
      refine guarded_expect fun response _ => guarded_expect fun view _ => ?_
      exact fun impossible => by cases impossible

/-- A key is completed under its lock. -/
theorem guarded_completeMutation {response : ProvisioningView} (held : .mutation caller key ∈ locks) :
    rowLocks.Guards (completeMutation caller key response) locks store fun _ _ _ => True := by
  refine guarded_write (fun _ => held) fun affected more middle _ => ?_
  unfold require
  split
  · trivial
  · trivial

/-- **The end of a public operation.** -/
theorem guarded_answer {otherwise : Abort} (held : .saga id ∈ locks)
    (reserved : .mutation caller key ∈ locks) :
    rowLocks.Guards ((loadView id actor).bind fun loaded => (expect otherwise loaded).bind
      fun response => (completeMutation caller key response).bind fun _ => .pure response) locks store
        fun _ _ _ => True := by
  refine .andThen (guarded_loadView held) fun loaded more middle larger _ => ?_
  refine guarded_expect fun response _ => ?_
  exact .andThen (guarded_completeMutation (larger reserved)) fun _ _ _ _ _ => trivial

end Shared

/-! ### Public operations -/

section Public

variable {locks : Set Lock} {store : Store} {now : Timestamp} {id : Uuid}

/-- The grants are inserted under the lock of their saga. -/
theorem guarded_insertGrants {effectId : Nat → Uuid} {ordinal : Nat} {grants : List BootstrapGrant}
    (held : .saga id ∈ locks) :
    rowLocks.Guards (insertGrants now id effectId ordinal grants) locks store fun _ _ _ => True := by
  induction grants generalizing ordinal locks store with
  | nil => trivial
  | cons grant grants ih =>
    refine guarded_require fun _ => ?_
    exact guarded_write (fun _ => held) fun _ _ _ larger => ih (larger held)

/-- **`start` is guarded.** -/
theorem guarded_start {ids : StartIds} {input : StartInput} :
    rowLocks.Guards (start now ids input) locks store fun _ _ _ => True := by
  refine .andThen guarded_beginMutation fun replay more middle _ reserved => ?_
  cases replay with
  | replay response => trivial
  | execute =>
    have key := reserved rfl
    refine guarded_query (fun _ _ => trivial) fun _ more' _ larger => ?_
    have held : .saga input.provisioningId ∈ more' :=
      larger (Or.inr (Or.inr ⟨_, List.mem_cons_self, rfl⟩))
    replace key := larger (Or.inl key)
    refine guarded_write (fun _ => key) fun _ more'' _ larger => ?_
    replace held := larger held
    replace key := larger key
    refine guarded_write (fun _ => held) fun _ more₁ _ larger => ?_
    replace held := larger held
    replace key := larger key
    refine .andThen (guarded_insertGrants held) fun _ more₂ _ larger _ => ?_
    replace held := larger held
    replace key := larger key
    refine .andThen guarded_insertActivity fun _ more₃ _ larger _ => ?_
    exact guarded_answer (larger held) (larger key)

/-- The effect a retry resolves belongs to the locked saga. -/
theorem guarded_retriedEffect {input : RetryInput} {saga : SagaRow}
    (held : .saga input.provisioningId ∈ locks) :
    rowLocks.Guards (retriedEffect input saga) locks store fun effect more last =>
      last.Held more effect.effectId := by
  unfold retriedEffect
  split
  · refine guarded_selectEffects held fun rows more larger inside => ?_
    exact guarded_expected fun effect first => Store.held_of_head (larger held) inside first
  · split
    · refine guarded_require fun _ => ?_
      refine guarded_selectEffects held fun rows more larger inside => ?_
      exact guarded_expected fun effect first => Store.held_of_head (larger held) inside first
    · trivial

/-- Its resolution writes it and its saga. -/
theorem guarded_resolveEffect {input : RetryInput} {saga : SagaRow} {effect : EffectRow}
    (held : .saga input.provisioningId ∈ locks) (own : store.Held locks effect.effectId) :
    rowLocks.Guards (resolveEffect now input saga effect) locks store fun _ _ _ => True := by
  unfold resolveEffect
  split
  · exact guarded_require fun _ => guarded_resetEffectToPending own
  · exact guarded_require fun _ => guarded_resetEffectToPending own
  · unfold confirmApplied
    split
    · split
      · refine guarded_write (fun _ => own) fun _ more _ larger => ?_
        exact guarded_write (fun _ => larger held) fun _ _ _ _ => trivial
      · trivial
    · split
      · exact guarded_write (fun _ => own) fun _ _ _ _ => trivial
      · trivial
    · refine guarded_require fun _ => ?_
      exact guarded_write (fun _ => own) fun _ _ _ _ => trivial

/-- **`retry` is guarded.** -/
theorem guarded_retry {activityId : Uuid} {input : RetryInput} :
    rowLocks.Guards (retry now activityId input) locks store fun _ _ _ => True := by
  refine guarded_lockSaga fun saga more _ held => ?_
  refine .andThen guarded_beginMutation fun replay more' middle larger reserved => ?_
  replace held := larger held
  cases replay with
  | replay response => trivial
  | execute =>
    have key := reserved rfl
    refine guarded_require fun _ => ?_
    refine .andThen (guarded_retriedEffect held) fun effect more'' middle' larger own => ?_
    replace held := larger held
    replace key := larger key
    refine .andThen (guarded_resolveEffect held own) fun _ more₁ _ larger _ => ?_
    replace key := larger key
    refine .andThen guarded_refreshSagaStatus fun revision more₂ _ larger held => ?_
    replace key := larger key
    refine .andThen guarded_insertActivity fun _ more₃ _ larger _ => ?_
    exact guarded_answer (larger held) (larger key)

/-- The compensations are inserted under the lock of their saga. -/
theorem guarded_insertRevokes {effectId : Nat → Uuid} {index : Nat} {sources : List EffectRow}
    (held : .saga id ∈ locks) (owners : ∀ source ∈ sources, source.provisioningId = id) :
    rowLocks.Guards (insertRevokes now effectId index sources) locks store fun _ _ _ => True := by
  induction sources generalizing index locks store with
  | nil => trivial
  | cons source sources ih =>
    have owner : .saga source.provisioningId ∈ locks := by
      rw [owners source List.mem_cons_self]
      exact held
    refine guarded_expect fun subjectKind _ => guarded_expect fun feature _ => ?_
    refine guarded_expect fun grantId _ => guarded_write (fun _ => owner) fun _ _ _ larger => ?_
    exact ih (larger held) fun other member => owners other (List.mem_cons_of_mem _ member)

/-- **`request_cleanup` is guarded.** -/
theorem guarded_requestCleanup {effectId : Nat → Uuid} {activityId : Uuid} {input : CleanupInput} :
    rowLocks.Guards (requestCleanup now effectId activityId input) locks store
      fun _ _ _ => True := by
  refine guarded_lockSaga fun saga more _ held => ?_
  refine .andThen guarded_beginMutation fun replay more' middle larger reserved => ?_
  replace held := larger held
  cases replay with
  | replay response => trivial
  | execute =>
    have key := reserved rfl
    refine guarded_require fun _ => guarded_require fun _ => ?_
    refine guarded_require fun _ => guarded_require fun _ => ?_
    refine guarded_selectEffects held fun grants more'' larger inside => ?_
    replace held := larger held
    replace key := larger key
    refine guarded_write (fun _ => held) fun _ more₁ _ larger => ?_
    replace held := larger held
    replace key := larger key
    have owners : ∀ source ∈ grants, source.provisioningId = input.provisioningId :=
      fun source member => (Store.mem_effectsOf.mp (inside source member)).2
    refine .andThen (guarded_insertRevokes held owners) fun _ more₂ _ larger _ => ?_
    replace held := larger held
    replace key := larger key
    refine guarded_write (fun _ => held) fun _ more₃ _ larger => ?_
    replace key := larger key
    refine .andThen guarded_refreshSagaStatus fun revision more₄ _ larger held => ?_
    replace key := larger key
    refine .andThen guarded_insertActivity fun _ more₅ _ larger _ => ?_
    exact guarded_answer (larger held) (larger key)

end Public

/-! ### The worker -/

section Worker

variable {locks : Set Lock} {store : Store} {now utcNow : Timestamp} {actor : String}

/-- A saga the scan finds is locked. -/
theorem guarded_scan {α : Type} {operation : String} {condition : SagaRow → List EffectRow → Bool}
    {rest : Option SagaRow → Transaction α} {post : α → Set Lock → Store → Prop}
    (goes : ∀ found more, (∀ row, found = some row → .saga row.provisioningId ∈ more) →
      rowLocks.Guards (rest found) more store post) :
    rowLocks.Guards ((exec operation (.scanSagas condition)).bind rest) locks store post := by
  refine guarded_query (fun _ _ => trivial) fun found more _ larger => goes found more ?_
  rintro row rfl
  exact larger (Or.inr (Or.inl rfl))

/-- One turn of the loop. -/
theorem guarded_quarantineSaga {activityId : Uuid} {saga : SagaRow}
    (held : .saga saga.provisioningId ∈ locks) :
    rowLocks.Guards (quarantineSaga now actor activityId saga) locks store fun _ _ _ => True := by
  refine guarded_selectEffects held fun rows more larger inside => ?_
  replace held := larger held
  refine guarded_expect fun effect first => guarded_expect fun fence _ => ?_
  refine guarded_write (fun _ => Store.held_of_head held inside first) fun _ more' _ larger => ?_
  refine guarded_write (fun _ => larger held) fun updated more'' _ _ => ?_
  exact guarded_expect fun row _ => guarded_insertActivity

/-- **`quarantine_expired` is guarded.** -/
theorem guarded_quarantineExpired {activityId : Nat → Uuid} {limit : Int} :
    rowLocks.Guards (quarantineExpired now actor activityId limit) locks store
      fun _ _ _ => True := by
  unfold quarantineExpired
  generalize limit.toNat = fuel
  generalize 0 = quarantined
  induction fuel generalizing quarantined locks store with
  | zero => trivial
  | succ fuel ih =>
    refine guarded_scan fun found more held => ?_
    cases found with
    | none => trivial
    | some saga =>
      exact .andThen (guarded_quarantineSaga (held saga rfl)) fun _ _ _ _ _ => ih _

/-- The effect to claim belongs to the locked saga. -/
theorem guarded_dueEffect {saga : SagaRow} (held : .saga saga.provisioningId ∈ locks) :
    rowLocks.Guards (dueEffect saga) locks store fun effect more last =>
      last.Held more effect.effectId ∧ .saga saga.provisioningId ∈ more := by
  unfold dueEffect
  split
  · refine guarded_selectEffects held fun rows more larger inside => ?_
    exact guarded_expected fun effect first =>
      ⟨Store.held_of_head (larger held) inside first, larger held⟩
  · refine guarded_selectEffects held fun rows more larger inside => ?_
    exact guarded_expected fun effect first =>
      ⟨Store.held_of_head (larger held) inside first, larger held⟩

/-- The rest of a claim, on the saga the scan found. -/
theorem guarded_claimSaga {fence activityId : Uuid} {leaseSeconds : Int} {saga : SagaRow}
    (held : .saga saga.provisioningId ∈ locks) :
    rowLocks.Guards (claimSaga now utcNow actor fence activityId leaseSeconds saga) locks store
      fun _ _ _ => True := by
  refine .andThen (guarded_dueEffect held) fun effect more middle _ own => ?_
  obtain ⟨own, held⟩ := own
  refine guarded_expect fun leaseUntil _ => ?_
  refine guarded_write (fun _ => own) fun leased more' _ larger => ?_
  replace held := larger held
  refine guarded_expect fun leased _ => ?_
  refine guarded_write (fun _ => held) fun updated more'' _ larger => ?_
  replace held := larger held
  refine guarded_expect fun updated _ => ?_
  refine .andThen guarded_insertActivity fun _ more₁ _ larger _ => ?_
  refine guarded_write (fun _ => larger held) fun inputs more₂ _ _ => ?_
  exact guarded_expect fun _ _ => trivial

/-- **`claim_next` is guarded.** -/
theorem guarded_claimNext {fence activityId : Uuid} {leaseSeconds : Int} :
    rowLocks.Guards (claimNext now utcNow actor fence activityId leaseSeconds) locks store
      fun _ _ _ => True := by
  refine guarded_scan fun found more held => ?_
  cases found with
  | none => trivial
  | some saga => exact .andThen (guarded_claimSaga (held saga rfl)) fun _ _ _ _ _ => trivial

/-- What an outcome writes is under the lock of the effect's saga. -/
theorem guarded_recordOutcome {effect : EffectRecord} {outcome : EffectOutcome}
    (held : .saga effect.provisioningId ∈ locks) (own : store.Held locks effect.effectId) :
    rowLocks.Guards (recordOutcome now effect outcome) locks store fun _ _ _ => True := by
  cases outcome with
  | organizationApplied organizationId ownerMembershipId receipt =>
    refine guarded_require fun _ => guarded_write (fun _ => own) fun _ more _ larger => ?_
    exact guarded_write (fun _ => larger held) fun _ _ _ _ => trivial
  | entitlementApplied grantId receipt =>
    exact guarded_require fun _ => guarded_write (fun _ => own) fun _ _ _ _ => trivial
  | compensated receipt =>
    exact guarded_require fun _ => guarded_write (fun _ => own) fun _ _ _ _ => trivial
  | failed errorCode => exact guarded_write (fun _ => own) fun _ _ _ _ => trivial
  | unknown errorCode => exact guarded_write (fun _ => own) fun _ _ _ _ => trivial

/-- **`finalize_effect` is guarded**, for an effect its saga has. -/
theorem guarded_finalizeEffect {activityId : Uuid} {effect : EffectRecord} {outcome : EffectOutcome}
    (known : ∃ row ∈ store.effectsOf effect.provisioningId, row.effectId = effect.effectId) :
    rowLocks.Guards (finalizeEffect now activityId effect actor outcome) locks store
      fun _ _ _ => True := by
  refine guarded_lockSaga fun saga more _ held => ?_
  refine guarded_query (fun _ _ => ⟨_, held, known⟩) fun current more' _ larger => ?_
  replace held : .saga effect.provisioningId ∈ more' := larger (Or.inl held)
  cases current with
  | none => trivial
  | some row =>
    refine .andThen (guarded_recordOutcome held ⟨_, held, known⟩) fun recorded more'' _ _ _ => ?_
    refine .andThen guarded_refreshSagaStatus fun revision more₁ _ _ _ => ?_
    exact .andThen guarded_insertActivity fun _ _ _ _ _ => trivial

end Worker

end OrganizationProvisioning
