/-
**What the locks of a transaction protect.**

* `Concur` — two stores that agree on what is locked; `Image.Covered` — a row version of locked rows.
* `Concur.apply` — such row versions leave stores that agree in agreement; `concur_image` — and they
  leave what others have locked.
* `Sql.Protected` — the locks a statement needs; `Sql.Protected.stable` — then a store that agrees
  gives the same answer.
* `rowLocks` — the discipline of the store.
-/
import OrganizationProvisioning.Model.Locks
import OrganizationProvisioning.Proof.Statements

namespace OrganizationProvisioning

open Relational Transactional

/-! ### Stores that agree -/

/-- An effect has the downstream key. -/
def Store.hasKey (store : Store) (key : String) : Bool :=
  store.effects.rows.any fun effect => effect.downstreamKey = key

/-- **Two stores that agree on what is locked**, of which the second has every row the first has. -/
structure Concur (locks : Set Lock) (one two : Store) : Prop where
  saga : ∀ id, .saga id ∈ locks → one.saga id = two.saga id
  effects : ∀ id, .saga id ∈ locks → one.effectsOf id = two.effectsOf id
  effect : ∀ id, .effect id ∈ locks → one.effect id = two.effect id
  downstream : ∀ key, .downstream key ∈ locks → one.hasKey key = two.hasKey key
  mutation : ∀ caller key, .mutation caller key ∈ locks →
    one.mutation caller key = two.mutation caller key
  activity : ∀ id, .activity id ∈ locks → one.activity.find id = two.activity.find id
  sagas : ∀ id, (one.saga id).isSome → (two.saga id).isSome
  moreEffects : ∀ id, (one.effect id).isSome → (two.effect id).isSome

/-- The saga of an effect that is written. -/
def Image.owner : Image → Set Lock
  | .insertEffect row | .writeEffect row => {.saga row.provisioningId}
  | _ => ∅

/-- **A row version of locked rows**; an effect is written under the lock of its saga. -/
def Image.Covered (locks : Set Lock) (image : Image) : Prop := image.locks ∪ image.owner ⊆ locks

theorem Image.Covered.mono {locks more : Set Lock} {image : Image} (covered : image.Covered locks)
    (larger : locks ⊆ more) : image.Covered more :=
  Set.Subset.trans covered larger

namespace Concur

variable {locks more : Set Lock} {one two three : Store}

theorem refl (locks : Set Lock) (store : Store) : Concur locks store store :=
  ⟨fun _ _ => rfl, fun _ _ => rfl, fun _ _ => rfl, fun _ _ => rfl, fun _ _ _ => rfl, fun _ _ => rfl,
    fun _ => id, fun _ => id⟩

theorem trans (first : Concur locks one two) (second : Concur locks two three) :
    Concur locks one three where
  saga id held := (first.saga id held).trans (second.saga id held)
  effects id held := (first.effects id held).trans (second.effects id held)
  effect id held := (first.effect id held).trans (second.effect id held)
  downstream key held := (first.downstream key held).trans (second.downstream key held)
  mutation caller key held :=
    (first.mutation caller key held).trans (second.mutation caller key held)
  activity id held := (first.activity id held).trans (second.activity id held)
  sagas id present := second.sagas id (first.sagas id present)
  moreEffects id present := second.moreEffects id (first.moreEffects id present)

theorem mono (concur : Concur more one two) (fewer : locks ⊆ more) : Concur locks one two where
  saga id held := concur.saga id (fewer held)
  effects id held := concur.effects id (fewer held)
  effect id held := concur.effect id (fewer held)
  downstream key held := concur.downstream key (fewer held)
  mutation caller key held := concur.mutation caller key (fewer held)
  activity id held := concur.activity id (fewer held)
  sagas := concur.sagas
  moreEffects := concur.moreEffects

end Concur

/-! ### Row versions -/

section Images

variable {store one two : Store} {id : Uuid} {key : String} {locks : Set Lock} {image : Image}

theorem hasKey_addEffect {row : EffectRow} (fresh : store.effect row.effectId = none) :
    (store.addEffect row).hasKey key = (store.hasKey key || decide (row.downstreamKey = key)) := by
  have rows : (store.addEffect row).effects.rows = store.effects.rows ++ [row] :=
    Table.rows_insert fresh
  unfold Store.hasKey
  rw [rows, List.any_append, List.any_cons, List.any_nil, Bool.or_false]

theorem hasKey_writeEffect {row : EffectRow} :
    ((Image.writeEffect row).apply store).hasKey key = store.hasKey key := by
  unfold Store.hasKey Image.apply Table.modify Table.update
  rw [List.any_map]
  congr 1
  funext old
  show decide ((if _ then _ else _ : EffectRow).downstreamKey = key) = _
  split <;> rfl

theorem effect_writeEffect {row : EffectRow} :
    ((Image.writeEffect row).apply store).effect id = if id = row.effectId then
      (store.effect id).map fun old => old.set fun progress =>
        if old.provisioningId = row.provisioningId then row.toEffectProgress else progress
      else store.effect id := by
  have keeps : ∀ old : EffectRow, (old.set fun progress =>
      if old.provisioningId = row.provisioningId then row.toEffectProgress else progress).effectId =
        old.effectId := fun _ => rfl
  exact @Table.find_modify _ _ _ _ _ _ _ keeps id

theorem note_addActivity {note : ActivityRow} : (store.addActivity note).activity.find id =
    (store.activity.find id).or (if note.activityId = id then some note else none) :=
  Table.find_insert _ _ _

/-- **A covered row version leaves what is not locked.** -/
theorem concur_image (covered : image.Covered locks) : Concur locksᶜ store (image.apply store) := by
  have free : ∀ {lock : Lock}, lock ∈ locksᶜ → lock ∉ image.locks ∧ lock ∉ image.owner :=
    fun other => ⟨fun inside => other (covered (Or.inl inside)),
      fun inside => other (covered (Or.inr inside))⟩
  have same := Concur.refl locksᶜ store
  cases image with
  | insertSaga row =>
    refine { same with saga := fun id other => ?_, sagas := fun id present => ?_ }
    · have differs : row.provisioningId ≠ id := fun equal => (free other).1 (by simp [Image.locks, equal])
      show _ = (store.addSaga row).saga id
      rw [saga_addSaga, if_neg differs, Option.or_none]
    · show ((store.addSaga row).saga id).isSome
      rw [saga_addSaga, Option.isSome_or, present]
      rfl
  | writeSaga row =>
    refine { same with saga := fun id other => ?_, sagas := fun id present => ?_ }
    · have differs : id ≠ row.provisioningId := fun equal => (free other).1 (by simp [Image.locks, equal])
      show _ = (store.setSaga row.provisioningId _).saga id
      rw [saga_setSaga, if_neg differs]
    · show ((store.setSaga row.provisioningId _).saga id).isSome
      rw [saga_setSaga]
      split
      · rwa [Option.isSome_map]
      · exact present
  | insertEffect row =>
    cases taken : store.effect row.effectId with
    | some old =>
      show Concur _ store (store.addEffect row)
      rw [addEffect_taken (by rw [taken]; rfl)]
      exact same
    | none =>
      refine { same with
        effects := fun id other => ?_, effect := fun id other => ?_
        downstream := fun key other => ?_, moreEffects := fun id present => ?_ }
      · have differs : row.provisioningId ≠ id := fun equal => (free other).2 (by simp [Image.owner, equal])
        show _ = (store.addEffect row).effectsOf id
        rw [effectsOf_addEffect taken, if_neg differs, List.append_nil]
      · have differs : row.effectId ≠ id := fun equal => (free other).1 (by simp [Image.locks, equal])
        show _ = (store.addEffect row).effect id
        rw [effect_addEffect, if_neg differs, Option.or_none]
      · have differs : row.downstreamKey ≠ key := fun equal => (free other).1 (by simp [Image.locks, equal])
        show _ = (store.addEffect row).hasKey key
        rw [hasKey_addEffect taken, decide_eq_false differs, Bool.or_false]
      · show ((store.addEffect row).effect id).isSome
        rw [effect_addEffect, Option.isSome_or, present]
        rfl
  | writeEffect row =>
    refine { same with
      effects := fun id other => ?_, effect := fun id other => ?_
      downstream := fun key _ => hasKey_writeEffect.symm, moreEffects := fun id present => ?_ }
    · rw [effectsOf_writeEffect]
      conv_lhs => rw [← List.map_id' (store.effectsOf id)]
      refine List.map_congr_left fun old member => ?_
      have owner : old.provisioningId = id := (Store.mem_effectsOf.mp member).2
      have differs : old.provisioningId ≠ row.provisioningId := by
        intro equal
        refine (free other).2 ?_
        rw [← owner, equal]
        exact rfl
      by_cases same : old.effectId = row.effectId
      · rw [if_pos same]
        simp only [EffectRow.set, if_neg differs]
      · rw [if_neg same]
    · have differs : id ≠ row.effectId := fun equal => (free other).1 (by simp [Image.locks, equal])
      rw [effect_writeEffect, if_neg differs]
    · rw [effect_writeEffect]
      split
      · rwa [Option.isSome_map]
      · exact present
  | insertMutation row =>
    refine { same with mutation := fun caller key other => ?_ }
    have differs : ¬ (row.callerInstance = caller ∧ row.idempotencyKey = key) := by
      rintro ⟨rfl, rfl⟩
      exact (free other).1 (by simp [Image.locks])
    show _ = (store.addMutation row).mutation caller key
    rw [mutation_addMutation, if_neg differs, Option.or_none]
  | writeMutation row =>
    refine { same with mutation := fun caller key other => ?_ }
    have differs : ¬ (caller = row.callerInstance ∧ key = row.idempotencyKey) := by
      rintro ⟨rfl, rfl⟩
      exact (free other).1 (by simp [Image.locks])
    show _ = (store.setMutation row.callerInstance row.idempotencyKey _).mutation caller key
    rw [mutation_setMutation, if_neg differs]
  | insertActivity row =>
    refine { same with activity := fun id other => ?_ }
    have differs : row.activityId ≠ id := fun equal => (free other).1 (by simp [Image.locks, equal])
    show _ = (store.addActivity row).activity.find id
    rw [note_addActivity, if_neg differs, Option.or_none]

/-- **A covered row version leaves stores that agree in agreement.** -/
theorem Concur.apply (concur : Concur locks one two) (covered : image.Covered locks) :
    Concur locks (image.apply one) (image.apply two) := by
  cases image with
  | insertSaga row =>
    refine { concur with saga := fun id held => ?_, sagas := fun id => ?_ }
    · show (one.addSaga row).saga id = (two.addSaga row).saga id
      rw [saga_addSaga, saga_addSaga, concur.saga id held]
    · show ((one.addSaga row).saga id).isSome → ((two.addSaga row).saga id).isSome
      rw [saga_addSaga, saga_addSaga, Option.isSome_or, Option.isSome_or, Bool.or_eq_true,
        Bool.or_eq_true]
      exact Or.imp_left (concur.sagas id)
  | writeSaga row =>
    refine { concur with saga := fun id held => ?_, sagas := fun id => ?_ }
    · show (one.setSaga row.provisioningId _).saga id = (two.setSaga row.provisioningId _).saga id
      rw [saga_setSaga, saga_setSaga, concur.saga id held]
    · show ((one.setSaga row.provisioningId _).saga id).isSome →
        ((two.setSaga row.provisioningId _).saga id).isSome
      rw [saga_setSaga, saga_setSaga]
      split
      · rw [Option.isSome_map, Option.isSome_map]
        exact concur.sagas id
      · exact concur.sagas id
  | insertEffect row =>
    have here : one.effect row.effectId = two.effect row.effectId :=
      concur.effect row.effectId (covered (Or.inl (Or.inl rfl)))
    cases taken : two.effect row.effectId with
    | some old =>
      show Concur locks (one.addEffect row) (two.addEffect row)
      rw [addEffect_taken (by rw [here, taken]; rfl), addEffect_taken (by rw [taken]; rfl)]
      exact concur
    | none =>
      rw [taken] at here
      refine { concur with
        effects := fun id held => ?_, effect := fun id held => ?_
        downstream := fun key held => ?_, moreEffects := fun id => ?_ }
      · show (one.addEffect row).effectsOf id = (two.addEffect row).effectsOf id
        rw [effectsOf_addEffect here, effectsOf_addEffect taken, concur.effects id held]
      · show (one.addEffect row).effect id = (two.addEffect row).effect id
        rw [effect_addEffect, effect_addEffect, concur.effect id held]
      · show (one.addEffect row).hasKey key = (two.addEffect row).hasKey key
        rw [hasKey_addEffect here, hasKey_addEffect taken, concur.downstream key held]
      · show ((one.addEffect row).effect id).isSome → ((two.addEffect row).effect id).isSome
        rw [effect_addEffect, effect_addEffect, Option.isSome_or, Option.isSome_or,
          Bool.or_eq_true, Bool.or_eq_true]
        exact Or.imp_left (concur.moreEffects id)
  | writeEffect row =>
    refine { concur with
      effects := fun id held => ?_, effect := fun id held => ?_
      downstream := fun key held => ?_, moreEffects := fun id => ?_ }
    · rw [effectsOf_writeEffect, effectsOf_writeEffect, concur.effects id held]
    · rw [effect_writeEffect, effect_writeEffect, concur.effect id held]
    · rw [hasKey_writeEffect, hasKey_writeEffect, concur.downstream key held]
    · rw [effect_writeEffect, effect_writeEffect]
      split
      · rw [Option.isSome_map, Option.isSome_map]
        exact concur.moreEffects id
      · exact concur.moreEffects id
  | insertMutation row =>
    refine { concur with mutation := fun caller key held => ?_ }
    show (one.addMutation row).mutation caller key = (two.addMutation row).mutation caller key
    rw [mutation_addMutation, mutation_addMutation, concur.mutation caller key held]
  | writeMutation row =>
    refine { concur with mutation := fun caller key held => ?_ }
    show (one.setMutation row.callerInstance row.idempotencyKey _).mutation caller key =
      (two.setMutation row.callerInstance row.idempotencyKey _).mutation caller key
    rw [mutation_setMutation, mutation_setMutation, concur.mutation caller key held]
  | insertActivity row =>
    refine { concur with activity := fun id held => ?_ }
    show (one.addActivity row).activity.find id = (two.addActivity row).activity.find id
    rw [note_addActivity, note_addActivity, concur.activity id held]

end Images

/-! ### Lists of row versions -/

/-- The second store has every key the first has reserved, with the same row. -/
def KeepsKeys (one two : Store) : Prop :=
  ∀ caller key row, one.mutation caller key = some row → two.mutation caller key = some row

section Lists

variable {store one two : Store} {locks others : Set Lock} {images : List Image}

/-- **Covered row versions leave what is not locked.** -/
theorem concur_install (covered : ∀ image ∈ images, image.Covered locks) :
    Concur locksᶜ store (postgres.install images store) := by
  induction images generalizing store with
  | nil => exact Concur.refl _ _
  | cons image images ih =>
    exact (concur_image (covered image List.mem_cons_self)).trans
      (ih fun other member => covered other (List.mem_cons_of_mem _ member))

theorem Concur.install (concur : Concur locks one two)
    (covered : ∀ image ∈ images, image.Covered locks) :
    Concur locks (postgres.install images one) (postgres.install images two) := by
  induction images generalizing one two with
  | nil => exact concur
  | cons image images ih =>
    exact ih (concur.apply (covered image List.mem_cons_self)) fun other member =>
      covered other (List.mem_cons_of_mem _ member)

theorem KeepsKeys.install (keeps : KeepsKeys one two) (concur : Concur locks one two)
    (covered : ∀ image ∈ images, image.Covered locks) :
    KeepsKeys (postgres.install images one) (postgres.install images two) := by
  intro caller key row found
  by_cases held : .mutation caller key ∈ locks
  · rw [← (concur.install covered).mutation caller key held]
    exact found
  · rw [← (concur_install covered).mutation caller key held] at found ⊢
    exact keeps caller key row found

/-- Covered row versions write new keys only, and keep the others. -/
theorem keepsKeys_install (covered : ∀ image ∈ images, image.Covered locks)
    (fresh : ∀ caller key, .mutation caller key ∈ locks → store.mutation caller key = none) :
    KeepsKeys store (postgres.install images store) := by
  intro caller key row found
  by_cases held : .mutation caller key ∈ locks
  · rw [fresh caller key held] at found
    cases found
  · rw [← (concur_install covered).mutation caller key held]
    exact found

end Lists

/-! ### Statements -/

/-- An effect of a locked saga. -/
def Store.Held (store : Store) (locks : Set Lock) (effectId : Uuid) : Prop :=
  ∃ id, .saga id ∈ locks ∧ ∃ effect ∈ store.effectsOf id, effect.effectId = effectId

/-- **The locks a statement needs**, before it and with its answer. -/
def Sql.Protected (locks : Set Lock) : (sql : Sql) → Store → sql.Answer → Prop
  | .selectSaga id _, _, _ | .updateSaga id _, _, _ | .selectEffects id _ _, _, _
  | .updateEffects id _ _, _, _ => .saga id ∈ locks
  | .lockSaga _ _, _, found => found.isSome
  | .insertEffect row, _, _ => .saga row.provisioningId ∈ locks
  | .lockEffect id _, store, _ | .updateEffect id _ _, store, _ => store.Held locks id
  | .selectMutation caller key, _, found => found.isSome ∨ .mutation caller key ∈ locks
  | .updateMutation caller key _ _, _, _ => .mutation caller key ∈ locks
  | .insertSaga _, _, _ | .scanSagas _, _, _ | .insertMutation _, _, _ | .insertActivity _, _, _ =>
    True

section Statements

variable {locks more : Set Lock} {one two store : Store} {id : Uuid}

/-- An effect of a locked saga is in both stores. -/
theorem Store.Held.effect (held : one.Held locks id) (concur : Concur locks one two) :
    one.effect id = two.effect id ∧ two.Held locks id := by
  obtain ⟨owner, locked, effect, member, rfl⟩ := held
  have member' := member
  rw [concur.effects owner locked] at member'
  exact ⟨(Store.mem_effectsOf.mp member).1.trans (Store.mem_effectsOf.mp member').1.symm, owner,
    locked, effect, member', rfl⟩

theorem Store.Held.mono (held : store.Held locks id) (larger : locks ⊆ more) : store.Held more id :=
  held.imp fun _ => And.imp_left fun inside => larger inside

/-- An effect that is held is one of a locked saga. -/
theorem Store.Held.owner {effect : EffectRow} (held : store.Held locks id)
    (found : store.effect id = some effect) : .saga effect.provisioningId ∈ locks := by
  obtain ⟨owner, locked, other, member, rfl⟩ := held
  obtain ⟨stored, same⟩ := Store.mem_effectsOf.mp member
  rw [stored] at found
  cases found
  rwa [same]

/-- **The row versions of a protected statement are locked.** -/
theorem Sql.Protected.covered {sql : Sql} {answer : sql.Answer}
    (safe : sql.Protected locks store answer) :
    ∀ image ∈ sql.images store answer, image.Covered (locks ∪ sql.takes store answer) := by
  intro image member
  refine Set.union_subset (fun lock inside => Or.inr (Or.inr ⟨image, member, inside⟩)) ?_
  refine Set.Subset.trans ?_ Set.subset_union_left
  cases sql with
  | insertEffect row =>
    rw [List.mem_singleton.mp member]
    exact Set.singleton_subset_iff.mpr safe
  | updateEffect id condition change =>
    obtain ⟨row, found, rfl⟩ := Option.map_eq_some_iff.mp (Option.mem_toList.mp member)
    have owner : .saga row.provisioningId ∈ locks :=
      Store.Held.owner safe (Option.filter_eq_some_iff.mp found).1
    exact Set.singleton_subset_iff.mpr owner
  | updateEffects id condition change =>
    obtain ⟨row, found, rfl⟩ := List.mem_map.mp member
    refine Set.singleton_subset_iff.mpr ?_
    rw [show (row.set change).provisioningId = id from
      (Store.mem_effectsOf.mp (List.mem_filter.mp found).1).2]
    exact safe
  | insertSaga row | insertActivity row =>
    rw [List.mem_singleton.mp member]
    exact Set.empty_subset _
  | updateSaga id change =>
    obtain ⟨row, -, rfl⟩ := Option.map_eq_some_iff.mp (Option.mem_toList.mp member)
    exact Set.empty_subset _
  | insertMutation row =>
    dsimp only [Sql.images] at member
    split at member
    · rw [List.mem_singleton.mp member]
      exact Set.empty_subset _
    · cases member
  | updateMutation caller key condition change =>
    obtain ⟨row, -, rfl⟩ := Option.map_eq_some_iff.mp (Option.mem_toList.mp member)
    exact Set.empty_subset _
  | selectSaga | lockSaga | scanSagas | selectEffects | lockEffect | selectMutation => cases member

/-- A key a statement locks is new, or it was locked. -/
theorem Sql.Protected.key {sql : Sql} {answer : sql.Answer} {caller key : String}
    (safe : sql.Protected locks store answer) (answered : sql.Answers store answer)
    (taken : .mutation caller key ∈ sql.takes store answer) :
    store.mutation caller key = none ∨ .mutation caller key ∈ locks := by
  rcases taken with chosen | ⟨image, member, inside⟩
  · cases sql with
    | lockSaga | scanSagas | lockEffect => cases answer <;> cases chosen
    | _ => cases chosen
  · cases sql with
    | insertMutation row =>
      cases answered
      dsimp only [Sql.images] at member
      split at member
      · rename_i inserted
        rw [List.mem_singleton.mp member] at inside
        cases inside
        exact Or.inl (Option.isNone_iff_eq_none.mp inserted)
      · cases member
    | updateMutation caller' key' condition change =>
      obtain ⟨row, found, rfl⟩ := Option.map_eq_some_iff.mp (Option.mem_toList.mp member)
      obtain ⟨-, rfl, rfl⟩ := Store.mutation_found.mp (Option.filter_eq_some_iff.mp found).1
      cases inside
      have held : .mutation row.callerInstance row.idempotencyKey ∈ locks := safe
      exact Or.inr held
    | insertSaga row | insertEffect row | insertActivity row =>
      rw [List.mem_singleton.mp member] at inside
      simp [Image.locks] at inside
    | updateSaga id change =>
      obtain ⟨row, -, rfl⟩ := Option.map_eq_some_iff.mp (Option.mem_toList.mp member)
      cases inside
    | updateEffect id condition change =>
      obtain ⟨row, -, rfl⟩ := Option.map_eq_some_iff.mp (Option.mem_toList.mp member)
      cases inside
    | updateEffects id condition change =>
      obtain ⟨row, -, rfl⟩ := List.mem_map.mp member
      cases inside
    | selectSaga | lockSaga | scanSagas | selectEffects | lockEffect | selectMutation => cases member

/-- What a statement does on another store as on this one. -/
structure Sql.Repeats (locks : Set Lock) (one two : Store) (sql : Sql) (answer : sql.Answer) :
    Prop where
  accepted : sql.refuses two = false
  answered : sql.Answers two answer
  images : sql.images two answer = sql.images one answer
  safe : sql.Protected locks two answer

/-- A row that exists in the first store exists in the second. -/
theorem isNone_of_grows {α : Type} {first second : Option α}
    (grows : first.isSome → second.isSome) (present : first.isNone = false) :
    second.isNone = false := by
  rw [Option.isNone_eq_false_iff] at present ⊢
  exact grows present

theorem any_isNone_of_grows {α : Type} {first second : Uuid → Option α}
    (grows : ∀ id, (first id).isSome → (second id).isSome) {named : Option Uuid}
    (present : (named.any fun id => (first id).isNone) = false) :
    (named.any fun id => (second id).isNone) = false := by
  cases named with
  | none => rfl
  | some id => exact isNone_of_grows (grows id) present

/-- **A protected answer holds in a store that agrees.** -/
theorem Sql.Protected.stable {sql : Sql} {answer : sql.Answer}
    (safe : sql.Protected locks one answer) (accepted : sql.refuses one = false)
    (answered : sql.Answers one answer)
    (concur : Concur (locks ∪ sql.takes one answer) one two) (keeps : KeepsKeys one two) :
    sql.Repeats locks one two answer := by
  have held : ∀ {lock : Lock}, lock ∈ locks → lock ∈ locks ∪ sql.takes one answer := Or.inl
  have written : ∀ {lock : Lock} {image : Image}, image ∈ sql.images one answer →
      lock ∈ image.locks → lock ∈ locks ∪ sql.takes one answer :=
    fun member inside => Or.inr (Or.inr ⟨_, member, inside⟩)
  have chosen : ∀ {lock : Lock}, lock ∈ sql.selected answer →
      lock ∈ locks ∪ sql.takes one answer := fun inside => Or.inr (Or.inl inside)
  cases sql with
  | insertSaga row =>
    have same := concur.saga row.provisioningId (written List.mem_cons_self rfl)
    refine ⟨?_, answered, rfl, trivial⟩
    simp only [Sql.refuses] at accepted ⊢
    rwa [← same]
  | selectSaga id condition =>
    have same := concur.saga id (held safe)
    refine ⟨rfl, ?_, rfl, safe⟩
    simp only [Sql.Answers, Sql.answer] at answered ⊢
    rwa [← same]
  | lockSaga id condition =>
    obtain ⟨row, rfl⟩ := Option.isSome_iff_exists.mp safe
    have found : (one.saga id).filter condition = some row := answered.symm
    obtain ⟨-, owner⟩ := Store.saga_found.mp (Option.filter_eq_some_iff.mp found).1
    have same := concur.saga id (chosen (by rw [← owner]; exact rfl))
    refine ⟨rfl, ?_, rfl, safe⟩
    simp only [Sql.Answers, Sql.answer] at answered ⊢
    rwa [← same]
  | updateSaga id change =>
    have same := concur.saga id (held safe)
    refine ⟨?_, ?_, ?_, safe⟩
    · simp only [Sql.refuses] at accepted ⊢
      rwa [← same]
    · simp only [Sql.Answers, Sql.answer] at answered ⊢
      rwa [← same]
    · simp only [Sql.images]
      rw [same]
  | scanSagas condition =>
    refine ⟨rfl, fun row found => ?_, rfl, trivial⟩
    subst found
    obtain ⟨member, stale⟩ := answered row rfl
    have same := concur.saga row.provisioningId (chosen rfl)
    rw [Store.saga_found.mpr ⟨member, rfl⟩] at same
    exact ⟨(Store.saga_found.mp same.symm).1, stale⟩
  | insertEffect row =>
    have inserted : Image.insertEffect row ∈ (Sql.insertEffect row).images one answer :=
      List.mem_cons_self
    have effect := concur.effect row.effectId (written inserted (Or.inl rfl))
    have key := concur.downstream row.downstreamKey (written inserted (Or.inr rfl))
    have effects := concur.effects row.provisioningId (held safe)
    have saga := concur.saga row.provisioningId (held safe)
    unfold Store.hasKey at key
    refine ⟨?_, answered, rfl, safe⟩
    simp only [Sql.refuses, Bool.or_eq_false_iff] at accepted ⊢
    obtain ⟨same, source⟩ := accepted
    rw [← effect, ← key, ← effects, ← saga]
    exact ⟨same, any_isNone_of_grows concur.moreEffects source⟩
  | selectEffects id condition order =>
    have same := concur.effects id (held safe)
    refine ⟨rfl, ?_, rfl, safe⟩
    simp only [Sql.Answers, Sql.answer] at answered ⊢
    rwa [← same]
  | lockEffect id condition =>
    obtain ⟨same, safe'⟩ := Store.Held.effect safe (concur.mono Set.subset_union_left)
    refine ⟨rfl, ?_, rfl, safe'⟩
    simp only [Sql.Answers, Sql.answer] at answered ⊢
    rwa [← same]
  | updateEffect id condition change =>
    obtain ⟨same, safe'⟩ := Store.Held.effect safe (concur.mono Set.subset_union_left)
    refine ⟨?_, ?_, ?_, safe'⟩
    · simp only [Sql.refuses] at accepted ⊢
      rwa [← same]
    · simp only [Sql.Answers, Sql.answer] at answered ⊢
      rwa [← same]
    · simp only [Sql.images]
      rw [same]
  | updateEffects id condition change =>
    have same := concur.effects id (held safe)
    refine ⟨?_, ?_, ?_, safe⟩
    · simp only [Sql.refuses] at accepted ⊢
      rwa [← same]
    · simp only [Sql.Answers, Sql.answer] at answered ⊢
      rwa [← same]
    · simp only [Sql.images]
      rw [same]
  | insertMutation row =>
    have here : answer = (one.mutation row.callerInstance row.idempotencyKey).isNone := answered
    cases taken : one.mutation row.callerInstance row.idempotencyKey with
    | some old =>
      have there := keeps _ _ old taken
      refine ⟨?_, ?_, rfl, trivial⟩
      · simp only [Sql.refuses, there, Option.isNone_some, Bool.false_and]
      · simp only [Sql.Answers, Sql.answer]
        rw [here, taken, there]
    | none =>
      rw [taken] at here
      subst here
      have same := concur.mutation row.callerInstance row.idempotencyKey
        (written List.mem_cons_self rfl)
      rw [taken] at same
      refine ⟨?_, ?_, rfl, trivial⟩
      · simp only [Sql.refuses, taken, Option.isNone_none, Bool.true_and] at accepted
        simp only [Sql.refuses, ← same, Option.isNone_none, Bool.true_and]
        exact any_isNone_of_grows concur.sagas accepted
      · simp only [Sql.Answers, Sql.answer]
        rw [← same]
  | selectMutation caller key =>
    have here : answer = one.mutation caller key := answered
    refine ⟨rfl, ?_, rfl, safe⟩
    show answer = two.mutation caller key
    rcases safe with present | locked
    · obtain ⟨row, rfl⟩ := Option.isSome_iff_exists.mp present
      exact (keeps caller key row here.symm).symm
    · rw [← concur.mutation caller key (held locked)]
      exact here
  | updateMutation caller key condition change =>
    have same := concur.mutation caller key (held safe)
    refine ⟨?_, ?_, ?_, safe⟩
    · simp only [Sql.refuses] at accepted ⊢
      rw [← same]
      cases found : (one.mutation caller key).filter condition with
      | none => rfl
      | some row =>
        rw [found] at accepted
        exact any_isNone_of_grows concur.sagas accepted
    · simp only [Sql.Answers, Sql.answer] at answered ⊢
      rwa [← same]
    · simp only [Sql.images]
      rw [same]
  | insertActivity row =>
    have same := concur.activity row.activityId (written List.mem_cons_self rfl)
    refine ⟨?_, answered, rfl, trivial⟩
    simp only [Sql.refuses, Bool.or_eq_false_iff] at accepted ⊢
    obtain ⟨⟨own, saga⟩, effect⟩ := accepted
    rw [← same]
    exact ⟨⟨own, isNone_of_grows (concur.sagas _) saga⟩,
      any_isNone_of_grows concur.moreEffects effect⟩

end Statements

/-! ### The discipline -/

/-- A statement repeats, and takes the same locks. -/
theorem Sql.Repeats.takes {locks : Set Lock} {one two : Store} {sql : Sql} {answer : sql.Answer}
    (repeats : sql.Repeats locks one two answer) : sql.takes two answer = sql.takes one answer := by
  unfold Sql.takes
  rw [repeats.images]

/-- **The locks of the store protect its answers.** -/
def rowLocks : Discipline postgres readCommitted.takes where
  agrees locks one two := Concur locks one two ∧ KeepsKeys one two
  covers locks image := image.Covered locks
  fresh locks store := ∀ caller key, .mutation caller key ∈ locks → store.mutation caller key = none
  protects locks statement store answer := statement.sql.Protected locks store answer
  agrees_refl locks store := ⟨Concur.refl locks store, fun _ _ _ => id⟩
  agrees_trans first second := ⟨first.1.trans second.1, fun caller key row found =>
    second.2 caller key row (first.2 caller key row found)⟩
  agrees_mono fewer agree := ⟨agree.1.mono fewer, agree.2⟩
  covers_mono fewer covered := covered.mono fewer
  fresh_empty _ _ _ impossible := impossible.elim
  stable accepted answered safe agree := by
    have repeats := Sql.Protected.stable safe (Bool.eq_false_of_not_eq_true accepted) answered
      agree.1 agree.2
    exact ⟨fun refused => Bool.false_ne_true (repeats.accepted.symm.trans refused),
      repeats.answered, repeats.images, repeats.takes, repeats.safe⟩
  written _ safe := Sql.Protected.covered safe
  news := by
    intro locks statement store images answer covered fresh _ answered safe caller key taken
    rcases taken with held | taken
    · exact fresh caller key held
    · by_cases held : .mutation caller key ∈ locks
      · exact fresh caller key held
      · rw [(concur_install covered).mutation caller key held]
        exact (Sql.Protected.key safe answered taken).resolve_right held
  own covered agree := ⟨agree.1.install covered, agree.2.install agree.1 covered⟩
  frame covered fresh apart :=
    ⟨(concur_install covered).mono (Set.subset_compl_iff_disjoint_right.mpr apart),
      keepsKeys_install covered fresh⟩

end OrganizationProvisioning
