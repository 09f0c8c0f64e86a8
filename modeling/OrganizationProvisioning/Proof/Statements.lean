/-
**What each statement leaves behind.**

* `Store.setSaga`, `Store.setEffects`, `Store.setMutation`, `Store.addSaga`, … — the writes, as
  functions on the store; `after_updateSaga`, `after_updateEffects`, … — the row versions of a
  statement install them.
* `saga_setSaga`, `effectsOf_setEffects`, … — what a lookup reads after a write.
* `commits_updateSaga`, `commits_lockSaga`, … — when a statement commits, with what answer and what
  store; the rules by which the programs are run.
-/
import OrganizationProvisioning.Model.System

namespace OrganizationProvisioning

open Relational Transactional

/-! ### Writes -/

theorem SagaRow.set_key (change : SagaProgress → SagaProgress) (row : SagaRow) :
    (row.set change).provisioningId = row.provisioningId := rfl

theorem MutationRow.set_key (change : MutationOutcome → MutationOutcome) (row : MutationRow) :
    ((row.set change).callerInstance, (row.set change).idempotencyKey) =
      (row.callerInstance, row.idempotencyKey) := rfl

theorem EffectRow.setIf_plan (selected : EffectRow → Bool)
    (change : EffectProgress → EffectProgress) (row : EffectRow) :
    (if selected row then row.set change else row).toEffectPlan = row.toEffectPlan := by
  split <;> rfl

theorem EffectRow.setIf_key (selected : EffectRow → Bool)
    (change : EffectProgress → EffectProgress) (row : EffectRow) :
    (if selected row then row.set change else row).effectId = row.effectId := by
  split <;> rfl

namespace Store

variable (store : Store)

def setSaga (id : Uuid) (change : SagaProgress → SagaProgress) : Store :=
  { store with
    sagas := store.sagas.modify id (fun row => row.set change) (SagaRow.set_key change) }

def setEffects (selected : EffectRow → Bool) (change : EffectProgress → EffectProgress) : Store :=
  { store with
    effects := store.effects.update (fun row => if selected row then row.set change else row)
      (EffectRow.setIf_key selected change) }

def setMutation (caller key : String) (change : MutationOutcome → MutationOutcome) : Store :=
  { store with
    mutations := store.mutations.modify (caller, key) (fun row => row.set change)
      (MutationRow.set_key change) }

def addSaga (row : SagaRow) : Store := { store with sagas := store.sagas.insert row }

def addEffect (row : EffectRow) : Store := { store with effects := store.effects.insert row }

def addMutation (row : MutationRow) : Store :=
  { store with mutations := store.mutations.insert row }

def addActivity (row : ActivityRow) : Store := { store with activity := store.activity.insert row }

variable {store} in
theorem saga_found {id : Uuid} {row : SagaRow} :
    store.saga id = some row ↔ row ∈ store.sagas.rows ∧ row.provisioningId = id := by
  unfold saga
  rw [Table.find_eq_some]

variable {store} in
theorem effect_found {id : Uuid} {row : EffectRow} :
    store.effect id = some row ↔ row ∈ store.effects.rows ∧ row.effectId = id := by
  unfold effect
  rw [Table.find_eq_some]

variable {store} in
theorem mutation_found {caller key : String} {row : MutationRow} :
    store.mutation caller key = some row ↔
      row ∈ store.mutations.rows ∧ row.callerInstance = caller ∧ row.idempotencyKey = key := by
  unfold mutation
  rw [Table.find_eq_some, Prod.mk.injEq]

/-- The effect of a saga under its id. -/
theorem mem_effectsOf {store : Store} {id : Uuid} {row : EffectRow} :
    row ∈ store.effectsOf id ↔ store.effect row.effectId = some row ∧ row.provisioningId = id := by
  unfold effectsOf effect
  rw [List.mem_filter, Table.find_eq_some]
  simp

theorem effectsOf_nodup (id : Uuid) : ((store.effectsOf id).map fun row => row.effectId).Nodup :=
  store.effects.unique.sublist (List.Sublist.map _ List.filter_sublist)

end Store

/-! ### Lookups after a write -/

section Lookups

variable {store : Store} {id other : Uuid} {change : SagaProgress → SagaProgress}
  {selected : EffectRow → Bool} {progress : EffectProgress → EffectProgress}

@[simp] theorem saga_setSaga : (store.setSaga id change).saga other =
    if other = id then (store.saga other).map fun row => row.set change else store.saga other := by
  unfold Store.saga Store.setSaga
  rw [Table.find_modify]

@[simp] theorem effectsOf_setSaga :
    (store.setSaga id change).effectsOf other = store.effectsOf other := rfl

@[simp] theorem effect_setSaga :
    (store.setSaga id change).effect other = store.effect other := rfl

@[simp] theorem activityOf_setSaga :
    (store.setSaga id change).activityOf other = store.activityOf other := rfl

@[simp] theorem mutation_setSaga {caller key : String} :
    (store.setSaga id change).mutation caller key = store.mutation caller key := rfl

@[simp] theorem effectsOf_setEffects : (store.setEffects selected progress).effectsOf other =
    (store.effectsOf other).map fun row => if selected row then row.set progress else row := by
  unfold Store.effectsOf Store.setEffects
  rw [Table.filter_update]
  intro row
  rw [EffectRow.setIf_plan]

@[simp] theorem effect_setEffects : (store.setEffects selected progress).effect other =
    (store.effect other).map fun row => if selected row then row.set progress else row := by
  unfold Store.effect Store.setEffects
  rw [Table.find_update]

@[simp] theorem saga_setEffects :
    (store.setEffects selected progress).saga other = store.saga other := rfl

@[simp] theorem activityOf_setEffects :
    (store.setEffects selected progress).activityOf other = store.activityOf other := rfl

@[simp] theorem mutation_setEffects {caller key : String} :
    (store.setEffects selected progress).mutation caller key = store.mutation caller key := rfl

@[simp] theorem mutation_setMutation {caller key otherCaller otherKey : String}
    {outcome : MutationOutcome → MutationOutcome} :
    (store.setMutation caller key outcome).mutation otherCaller otherKey =
      if otherCaller = caller ∧ otherKey = key then
        (store.mutation otherCaller otherKey).map fun row => row.set outcome
      else store.mutation otherCaller otherKey := by
  unfold Store.mutation Store.setMutation
  rw [Table.find_modify]
  simp only [Prod.mk.injEq]

@[simp] theorem saga_setMutation {caller key : String}
    {outcome : MutationOutcome → MutationOutcome} :
    (store.setMutation caller key outcome).saga other = store.saga other := rfl

@[simp] theorem effectsOf_setMutation {caller key : String}
    {outcome : MutationOutcome → MutationOutcome} :
    (store.setMutation caller key outcome).effectsOf other = store.effectsOf other := rfl

@[simp] theorem effect_setMutation {caller key : String}
    {outcome : MutationOutcome → MutationOutcome} :
    (store.setMutation caller key outcome).effect other = store.effect other := rfl

@[simp] theorem activityOf_setMutation {caller key : String}
    {outcome : MutationOutcome → MutationOutcome} :
    (store.setMutation caller key outcome).activityOf other = store.activityOf other := rfl

variable {saga : SagaRow} {effect : EffectRow} {mutation : MutationRow} {note : ActivityRow}

theorem saga_addSaga : (store.addSaga saga).saga other =
    (store.saga other).or (if saga.provisioningId = other then some saga else none) :=
  Table.find_insert _ _ _

@[simp] theorem effectsOf_addSaga :
    (store.addSaga saga).effectsOf other = store.effectsOf other := rfl

@[simp] theorem effect_addSaga : (store.addSaga saga).effect other = store.effect other := rfl

@[simp] theorem activityOf_addSaga :
    (store.addSaga saga).activityOf other = store.activityOf other := rfl

@[simp] theorem mutation_addSaga {caller key : String} :
    (store.addSaga saga).mutation caller key = store.mutation caller key := rfl

theorem effect_addEffect : (store.addEffect effect).effect other =
    (store.effect other).or (if effect.effectId = other then some effect else none) :=
  Table.find_insert _ _ _

theorem effectsOf_addEffect (fresh : store.effect effect.effectId = none) :
    (store.addEffect effect).effectsOf other =
      store.effectsOf other ++ if effect.provisioningId = other then [effect] else [] := by
  unfold Store.effectsOf Store.addEffect
  rw [Table.filter_insert fresh]
  simp

@[simp] theorem saga_addEffect : (store.addEffect effect).saga other = store.saga other := rfl

@[simp] theorem activityOf_addEffect :
    (store.addEffect effect).activityOf other = store.activityOf other := rfl

@[simp] theorem mutation_addEffect {caller key : String} :
    (store.addEffect effect).mutation caller key = store.mutation caller key := rfl

theorem activityOf_addActivity (fresh : store.activity.find note.activityId = none) :
    (store.addActivity note).activityOf other =
      store.activityOf other ++ if note.provisioningId = other then [note] else [] := by
  unfold Store.activityOf Store.addActivity
  rw [Table.filter_insert fresh]
  simp

@[simp] theorem saga_addActivity : (store.addActivity note).saga other = store.saga other := rfl

@[simp] theorem effectsOf_addActivity :
    (store.addActivity note).effectsOf other = store.effectsOf other := rfl

@[simp] theorem effect_addActivity :
    (store.addActivity note).effect other = store.effect other := rfl

@[simp] theorem mutation_addActivity {caller key : String} :
    (store.addActivity note).mutation caller key = store.mutation caller key := rfl

theorem mutation_addMutation {caller key : String} : (store.addMutation mutation).mutation caller
    key = (store.mutation caller key).or
      (if mutation.callerInstance = caller ∧ mutation.idempotencyKey = key then some mutation
        else none) := by
  unfold Store.mutation Store.addMutation
  rw [Table.find_insert]
  simp only [Prod.mk.injEq]

@[simp] theorem saga_addMutation :
    (store.addMutation mutation).saga other = store.saga other := rfl

@[simp] theorem effectsOf_addMutation :
    (store.addMutation mutation).effectsOf other = store.effectsOf other := rfl

@[simp] theorem effect_addMutation :
    (store.addMutation mutation).effect other = store.effect other := rfl

@[simp] theorem activityOf_addMutation :
    (store.addMutation mutation).activityOf other = store.activityOf other := rfl

theorem addEffect_taken (taken : (store.effect effect.effectId).isSome) :
    store.addEffect effect = store := by
  unfold Store.addEffect
  rw [Table.insert_taken taken]

theorem addActivity_taken (taken : (store.activity.find note.activityId).isSome) :
    store.addActivity note = store := by
  unfold Store.addActivity
  rw [Table.insert_taken taken]

/-- A written effect is rewritten in the effects of its saga. -/
theorem effectsOf_writeEffect {row : EffectRow} :
    ((Image.writeEffect row).apply store).effectsOf id = (store.effectsOf id).map fun old =>
      if old.effectId = row.effectId then old.set fun progress =>
        if old.provisioningId = row.provisioningId then row.toEffectProgress else progress
      else old := by
  unfold Store.effectsOf Image.apply Table.modify
  rw [Table.filter_update]
  intro old
  split <;> rfl

end Lookups

/-! ### Row versions installed -/

section After

variable {operation : String} {store : Store}

theorem after_updateSaga {id : Uuid} {change : SagaProgress → SagaProgress}
    (result : Option SagaRow) :
    postgres.after ⟨operation, .updateSaga id change⟩ store result = store.setSaga id change := by
  show postgres.install ((store.saga id).map _).toList store = _
  cases found : store.saga id with
  | none =>
    unfold Store.setSaga
    rw [Table.modify_absent found]
    rfl
  | some row =>
    have same := (Store.saga_found.mp found).2
    show { store with sagas := _ } = _
    unfold Store.setSaga Table.modify
    congr 1
    refine Table.update_congr fun old member => ?_
    show (if old.provisioningId = row.provisioningId then _ else _) = _
    rw [same]
    by_cases here : old.provisioningId = id
    · have old_eq : old = row := Table.eq_of_key member (Table.mem_of_find found)
        (here.trans same.symm)
      rw [if_pos here, if_pos here, old_eq]
      rfl
    · rw [if_neg here, if_neg here]

theorem after_updateMutation {caller key : String} {condition : MutationRow → Bool}
    {change : MutationOutcome → MutationOutcome} (result : Nat)
    (holds : ∀ row, store.mutation caller key = some row → condition row = true) :
    postgres.after ⟨operation, .updateMutation caller key condition change⟩ store result =
      store.setMutation caller key change := by
  show postgres.install (((store.mutation caller key).filter condition).map _).toList store = _
  cases found : store.mutation caller key with
  | none =>
    unfold Store.setMutation
    rw [Table.modify_absent found]
    rfl
  | some row =>
    have same : (row.callerInstance, row.idempotencyKey) = (caller, key) :=
      Prod.ext (Store.mutation_found.mp found).2.1 (Store.mutation_found.mp found).2.2
    rw [Option.filter_some, if_pos (holds row found)]
    show { store with mutations := _ } = _
    unfold Store.setMutation Table.modify
    congr 1
    refine Table.update_congr fun old member => ?_
    show (if _ = (row.callerInstance, row.idempotencyKey) then _ else _) = _
    rw [same]
    by_cases here : (old.callerInstance, old.idempotencyKey) = (caller, key)
    · have old_eq : old = row := Table.eq_of_key member (Table.mem_of_find found)
        (here.trans same.symm)
      rw [if_pos here, if_pos here, old_eq]
      rfl
    · rw [if_neg here, if_neg here]

/-- Writing the changed versions of some rows changes exactly these rows. -/
theorem install_writes {rows : List EffectRow} {change : EffectProgress → EffectProgress}
    (inside : ∀ row ∈ rows, row ∈ store.effects.rows)
    (distinct : (rows.map fun row => row.effectId).Nodup) :
    postgres.install (rows.map fun row => Image.writeEffect (row.set change)) store =
      store.setEffects (fun row => row.effectId ∈ rows.map fun row => row.effectId) change := by
  induction rows generalizing store with
  | nil =>
    unfold Store.setEffects
    rw [Table.update_same fun row _ => by simp]
    rfl
  | cons row rows ih =>
    rw [List.map_cons, List.nodup_cons] at distinct
    have first : Image.apply (.writeEffect (row.set change)) store =
        store.setEffects (fun old => old.effectId = row.effectId) change := by
      show { store with effects := _ } = _
      unfold Store.setEffects Table.modify
      congr 1
      refine Table.update_congr fun old member => ?_
      by_cases here : old.effectId = row.effectId
      · have old_eq : old = row :=
          Table.eq_of_key member (inside row List.mem_cons_self) here
        subst old_eq
        simp [EffectRow.set]
      · simp [EffectRow.set, here]
    rw [List.map_cons, Engine.install_cons]
    show postgres.install _ (Image.apply (.writeEffect (row.set change)) store) = _
    rw [first, ih]
    · unfold Store.setEffects
      congr 1
      apply Table.ext
      rw [Table.rows_update, Table.rows_update, Table.rows_update, List.map_map]
      refine List.map_congr_left fun old _ => ?_
      by_cases here : old.effectId = row.effectId
      · have outside : old.effectId ∉ rows.map fun row => row.effectId := here ▸ distinct.1
        simp only [Function.comp_apply, here, decide_true, if_true, EffectRow.set_plan]
        rw [if_neg, if_pos]
        · simp
        · simpa [here] using distinct.1
      · simp [here]
    · intro other member
      have differs : other.effectId ≠ row.effectId := by
        intro same
        exact distinct.1 (same ▸ List.mem_map_of_mem member)
      refine List.mem_map.mpr ⟨other, inside other (List.mem_cons_of_mem _ member), ?_⟩
      simp [differs]
    · exact distinct.2

theorem after_updateEffect {id : Uuid} {condition : EffectRow → Bool}
    {change : EffectProgress → EffectProgress} (result : Option EffectRow) :
    postgres.after ⟨operation, .updateEffect id condition change⟩ store result =
      store.setEffects (fun row => row.effectId = id && condition row) change := by
  show postgres.install (((store.effect id).filter condition).map _).toList store = _
  cases found : (store.effect id).filter condition with
  | none =>
    unfold Store.setEffects
    rw [Table.update_same]
    · rfl
    · intro row member
      rw [if_neg]
      intro selected
      simp only [Bool.and_eq_true, decide_eq_true_eq] at selected
      have present : store.effect id = some row := by
        rw [← selected.1]
        exact Table.find_of_mem member
      rw [present, Option.filter_some, if_pos selected.2] at found
      cases found
  | some row =>
    obtain ⟨present, holds⟩ := Option.filter_eq_some_iff.mp found
    obtain ⟨inside, same⟩ := Store.effect_found.mp present
    show postgres.install ([row].map fun row => Image.writeEffect (row.set change)) store = _
    rw [install_writes (by simpa using inside) (by simp)]
    unfold Store.setEffects
    congr 1
    refine Table.update_congr fun old member => ?_
    by_cases here : old.effectId = id
    · have old_eq : old = row := Table.eq_of_key member inside (here.trans same.symm)
      subst old_eq
      simp [here, holds]
    · simp [here, same]

theorem after_updateEffects {id : Uuid} {condition : EffectRow → Bool}
    {change : EffectProgress → EffectProgress} (result : Nat) :
    postgres.after ⟨operation, .updateEffects id condition change⟩ store result =
      store.setEffects (fun row => row.provisioningId = id && condition row) change := by
  have inside : ∀ row ∈ (store.effectsOf id).filter condition, row ∈ store.effects.rows :=
    fun row member => (List.mem_filter.mp (List.mem_filter.mp member).1).1
  have distinct : (((store.effectsOf id).filter condition).map fun row => row.effectId).Nodup :=
    (store.effectsOf_nodup id).sublist (List.Sublist.map _ List.filter_sublist)
  show postgres.install (((store.effectsOf id).filter condition).map fun row =>
    Image.writeEffect (row.set change)) store = _
  rw [install_writes inside distinct]
  unfold Store.setEffects
  congr 1
  refine Table.update_congr fun old member => ?_
  congr 1
  simp only [decide_eq_true_eq, Bool.and_eq_true, eq_iff_iff]
  constructor
  · intro listed
    obtain ⟨row, rowMember, same⟩ := List.mem_map.mp listed
    have old_eq : row = old := Table.eq_of_key (inside row rowMember) member same
    rw [← old_eq]
    have chosen := List.mem_filter.mp rowMember
    exact ⟨(Store.mem_effectsOf.mp chosen.1).2, chosen.2⟩
  · rintro ⟨owner, holds⟩
    refine List.mem_map_of_mem (List.mem_filter.mpr ⟨?_, holds⟩)
    exact Store.mem_effectsOf.mpr ⟨Table.find_of_mem member, owner⟩

end After

/-! ### Control -/

section Control

variable {α β : Type} {store final : Store} {error otherwise : Abort}

theorem commits_require {condition : Bool} {value : Unit} :
    postgres.Commits (require condition otherwise) store value final ↔
      condition = true ∧ final = store := by
  unfold require
  cases condition <;> simp

theorem commits_expect {found : Option α} {value : α} :
    postgres.Commits (expect otherwise found) store value final ↔
      found = some value ∧ final = store := by
  cases found <;> simp [expect, eq_comm]

theorem commits_fetchOne {operation : String} {found : Option α} {value : α} :
    postgres.Commits (fetchOne operation found) store value final ↔
      found = some value ∧ final = store :=
  commits_expect

theorem aborts_require {condition : Bool} :
    postgres.Aborts (require condition otherwise) store error ↔
      condition = false ∧ error = otherwise := by
  unfold require
  cases condition <;> simp

theorem aborts_expect {found : Option α} :
    postgres.Aborts (expect otherwise found) store error ↔
      found = none ∧ error = otherwise := by
  cases found <;> simp [expect]

theorem aborts_fetchOne {operation : String} {found : Option α} :
    postgres.Aborts (fetchOne operation found) store error ↔
      found = none ∧ error = .storage (.database operation) :=
  aborts_expect

end Control

/-! ### Statements alone -/

section Alone

variable {operation : String} {store final : Store} {error : Abort}

theorem commits_exec {sql : Sql} {result : sql.Answer} :
    postgres.Commits (exec operation sql) store result final ↔ sql.refuses store = false ∧
      sql.Answers store result ∧ final = postgres.after ⟨operation, sql⟩ store result := by
  unfold exec
  rw [Engine.commits_perform]
  show ¬ sql.refuses store = true ∧ _ ↔ _
  rw [Bool.not_eq_true]
  rfl

/-- A statement fails exactly where a constraint rejects it. -/
theorem aborts_exec {sql : Sql} :
    postgres.Aborts (exec operation sql) store error ↔
      sql.refuses store = true ∧ error = .storage (.database operation) := by
  unfold exec Tx.perform
  rw [Engine.aborts_query]
  simp only [Engine.aborts_pure, and_false, exists_false, or_false]
  rfl

theorem commits_selectSaga {id : Uuid} {condition : SagaRow → Bool} {result : Option SagaRow} :
    @Engine.Commits _ _ _ _ _ (Option SagaRow) postgres
        (exec operation (.selectSaga id condition)) store result final ↔
      result = (store.saga id).filter condition ∧ final = store := by
  rw [commits_exec]
  exact and_iff_right rfl

theorem commits_lockSaga {id : Uuid} {condition : SagaRow → Bool} {result : Option SagaRow} :
    @Engine.Commits _ _ _ _ _ (Option SagaRow) postgres
        (exec operation (.lockSaga id condition)) store result final ↔
      result = (store.saga id).filter condition ∧ final = store := by
  rw [commits_exec]
  exact and_iff_right rfl

theorem commits_scanSagas {condition : SagaRow → List EffectRow → Bool}
    {result : Option SagaRow} :
    @Engine.Commits _ _ _ _ _ (Option SagaRow) postgres
        (exec operation (.scanSagas condition)) store result final ↔
      (∀ row, result = some row → store.saga row.provisioningId = some row ∧
        ∃ stale, condition row stale = true) ∧ final = store := by
  rw [commits_exec]
  simp only [Store.saga_found, and_true]
  exact and_iff_right rfl

theorem commits_selectEffects {id : Uuid} {condition : EffectRow → Bool}
    {order : EffectRow → EffectRow → Bool} {result : List EffectRow} :
    @Engine.Commits _ _ _ _ _ (List EffectRow) postgres
        (exec operation (.selectEffects id condition order)) store result final ↔
      result = orderBy order ((store.effectsOf id).filter condition) ∧ final = store := by
  rw [commits_exec]
  exact and_iff_right rfl

theorem commits_lockEffect {id : Uuid} {condition : EffectRow → Bool}
    {result : Option EffectRow} :
    @Engine.Commits _ _ _ _ _ (Option EffectRow) postgres
        (exec operation (.lockEffect id condition)) store result final ↔
      result = (store.effect id).filter condition ∧ final = store := by
  rw [commits_exec]
  exact and_iff_right rfl

theorem commits_selectMutation {caller key : String} {result : Option MutationRow} :
    @Engine.Commits _ _ _ _ _ (Option MutationRow) postgres
        (exec operation (.selectMutation caller key)) store result final ↔
      result = store.mutation caller key ∧ final = store := by
  rw [commits_exec]
  exact and_iff_right rfl

theorem commits_updateSaga {id : Uuid} {change : SagaProgress → SagaProgress}
    {result : Option SagaRow} :
    @Engine.Commits _ _ _ _ _ (Option SagaRow) postgres
        (exec operation (.updateSaga id change)) store result final ↔
      (∀ row, store.saga id = some row → (row.set change).checked = true) ∧
        result = (store.saga id).map (fun row => row.set change) ∧
        final = store.setSaga id change := by
  rw [commits_exec, after_updateSaga]
  refine and_congr ?_ Iff.rfl
  show (store.saga id).any _ = false ↔ _
  cases store.saga id <;> simp

theorem commits_updateEffect {id : Uuid} {condition : EffectRow → Bool}
    {change : EffectProgress → EffectProgress} {result : Option EffectRow} :
    @Engine.Commits _ _ _ _ _ (Option EffectRow) postgres
        (exec operation (.updateEffect id condition change)) store result final ↔
      (∀ row, (store.effect id).filter condition = some row → (row.set change).checked = true) ∧
        result = ((store.effect id).filter condition).map (fun row => row.set change) ∧
        final = store.setEffects (fun row => row.effectId = id && condition row) change := by
  rw [commits_exec, after_updateEffect]
  refine and_congr ?_ Iff.rfl
  show ((store.effect id).filter condition).any _ = false ↔ _
  cases (store.effect id).filter condition <;> simp

theorem commits_updateEffects {id : Uuid} {condition : EffectRow → Bool}
    {change : EffectProgress → EffectProgress} {result : Nat} :
    @Engine.Commits _ _ _ _ _ Nat postgres
        (exec operation (.updateEffects id condition change)) store result final ↔
      (∀ row ∈ (store.effectsOf id).filter condition, (row.set change).checked = true) ∧
        result = ((store.effectsOf id).filter condition).length ∧
        final = store.setEffects (fun row => row.provisioningId = id && condition row) change := by
  rw [commits_exec, after_updateEffects]
  refine and_congr ?_ Iff.rfl
  show ((store.effectsOf id).filter condition).any _ = false ↔ _
  simp

theorem commits_insertSaga {row : SagaRow} {result : Unit} :
    @Engine.Commits _ _ _ _ _ Unit postgres (exec operation (.insertSaga row)) store result final ↔
      (row.checked = true ∧ store.saga row.provisioningId = none) ∧
        final = store.addSaga row := by
  rw [commits_exec]
  refine and_congr ?_ (and_iff_right rfl)
  show (!row.checked || (store.saga row.provisioningId).isSome) = false ↔ _
  cases row.checked <;> cases store.saga row.provisioningId <;> simp

/-- The constraints an inserted effect meets. -/
structure Admits (store : Store) (row : EffectRow) : Prop where
  checked : row.checked = true
  fresh : store.effect row.effectId = none
  key : ∀ other ∈ store.effects.rows, other.downstreamKey ≠ row.downstreamKey
  ordinal : ∀ other ∈ store.effectsOf row.provisioningId,
    ¬ (other.kind = row.kind ∧ other.ordinal = row.ordinal)
  saga : (store.saga row.provisioningId).isSome
  source : ∀ source, row.sourceEffectId = some source → (store.effect source).isSome

theorem commits_insertEffect {row : EffectRow} {result : Unit} :
    @Engine.Commits _ _ _ _ _ Unit postgres
        (exec operation (.insertEffect row)) store result final ↔
      Admits store row ∧ final = store.addEffect row := by
  rw [commits_exec]
  refine and_congr ?_ (and_iff_right rfl)
  simp only [Sql.refuses, Bool.or_eq_false_iff, Bool.not_eq_false', Option.isSome_eq_false_iff,
    Option.isNone_iff_eq_none, List.any_eq_false, decide_eq_true_eq, Option.isNone_eq_false_iff,
    Option.any_eq_false]
  constructor
  · rintro ⟨⟨⟨⟨⟨checked, fresh⟩, key⟩, ordinal⟩, saga⟩, source⟩
    refine ⟨checked, fresh, key, ordinal, saga, fun id present => ?_⟩
    simpa [Option.isSome_iff_ne_none] using source id present
  · rintro ⟨checked, fresh, key, ordinal, saga, source⟩
    refine ⟨⟨⟨⟨⟨checked, fresh⟩, key⟩, ordinal⟩, saga⟩, fun id present => ?_⟩
    simpa [Option.isSome_iff_ne_none] using source id present

/-- The constraints an inserted activity row meets. -/
structure AdmitsActivity (store : Store) (row : ActivityRow) : Prop where
  checked : row.checked = true
  fresh : store.activity.find row.activityId = none
  saga : (store.saga row.provisioningId).isSome
  effect : ∀ effect, row.effectId = some effect → (store.effect effect).isSome

theorem commits_insertActivity {row : ActivityRow} {result : Unit} :
    @Engine.Commits _ _ _ _ _ Unit postgres
        (exec operation (.insertActivity row)) store result final ↔
      AdmitsActivity store row ∧ final = store.addActivity row := by
  rw [commits_exec]
  refine and_congr ?_ (and_iff_right rfl)
  simp only [Sql.refuses, Bool.or_eq_false_iff, Bool.not_eq_false', Option.isSome_eq_false_iff,
    Option.isNone_iff_eq_none, Option.isNone_eq_false_iff, Option.any_eq_false]
  constructor
  · rintro ⟨⟨⟨checked, fresh⟩, saga⟩, effect⟩
    refine ⟨checked, fresh, saga, fun id present => ?_⟩
    simpa [Option.isSome_iff_ne_none] using effect id present
  · rintro ⟨checked, fresh, saga, effect⟩
    refine ⟨⟨⟨checked, fresh⟩, saga⟩, fun id present => ?_⟩
    simpa [Option.isSome_iff_ne_none] using effect id present

/-- The saga a mutation names exists. -/
def Refers (store : Store) (provisioningId : Option Uuid) : Prop :=
  ∀ id, provisioningId = some id → (store.saga id).isSome

theorem commits_insertMutation {row : MutationRow} {inserted : Bool} :
    @Engine.Commits _ _ _ _ _ Bool postgres
        (exec operation (.insertMutation row)) store inserted final ↔
      (inserted = true ∧ store.mutation row.callerInstance row.idempotencyKey = none ∧
          Refers store row.provisioningId ∧ final = store.addMutation row) ∨
        (inserted = false ∧ (store.mutation row.callerInstance row.idempotencyKey).isSome ∧
          final = store) := by
  rw [commits_exec]
  show ((store.mutation _ _).isNone && _) = false ∧
    inserted = (store.mutation row.callerInstance row.idempotencyKey).isNone ∧
      final = postgres.install (if inserted then [_] else []) store ↔ _
  cases store.mutation row.callerInstance row.idempotencyKey with
  | none =>
    simp only [Option.isNone_none, Bool.true_and, Option.any_eq_false, Option.isSome_none,
      Bool.false_eq_true, false_and, and_false, or_false, true_and]
    constructor
    · rintro ⟨refers, rfl, rfl⟩
      refine ⟨rfl, fun id present => ?_, rfl⟩
      simpa [Option.isSome_iff_ne_none] using refers id present
    · rintro ⟨rfl, refers, rfl⟩
      refine ⟨fun id present => ?_, rfl, rfl⟩
      simpa [Option.isSome_iff_ne_none] using refers id present
  | some other =>
    simp only [Option.isNone_some, Bool.false_and, true_and, reduceCtorEq, false_and, and_false,
      Option.isSome_some, false_or]
    constructor
    · rintro ⟨rfl, rfl⟩
      exact ⟨rfl, rfl⟩
    · rintro ⟨rfl, rfl⟩
      exact ⟨rfl, rfl⟩

theorem commits_updateMutation {caller key : String} {condition : MutationRow → Bool}
    {change : MutationOutcome → MutationOutcome} {affected : Nat} {row : MutationRow}
    (found : store.mutation caller key = some row) (holds : condition row = true) :
    @Engine.Commits _ _ _ _ _ Nat postgres
        (exec operation (.updateMutation caller key condition change)) store affected
      final ↔ Refers store (row.set change).provisioningId ∧ affected = 1 ∧
        final = store.setMutation caller key change := by
  rw [commits_exec, after_updateMutation]
  · refine and_congr ?_ (and_congr_left' ?_)
    · show ((store.mutation caller key).filter condition).any _ = false ↔ _
      rw [found, Option.filter_some, if_pos holds]
      simp only [Option.any_some, Option.any_eq_false, Refers]
      refine forall₂_congr fun id _ => ?_
      simp [Option.isSome_iff_ne_none]
    · show affected = (if ((store.mutation caller key).filter condition).isSome then 1 else 0) ↔ _
      rw [found, Option.filter_some, if_pos holds]
      rfl
  · intro other present
    rw [found] at present
    cases present
    exact holds

end Alone

end OrganizationProvisioning
