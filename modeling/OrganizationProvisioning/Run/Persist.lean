/-
**What every commit keeps, whatever its program.**

* `Persist` — no row is deleted and the columns fixed at insertion never change.
* `Checked` — every row satisfies the constraints of its table.
* `Owned` — every effect and every activity row belongs to a saga.

Each is proved of one row version and carried to whole transactions by the rules of the library.
-/
import OrganizationProvisioning.Proof.Operator

namespace OrganizationProvisioning

open Relational Transactional Worklist

/-! ### What is written stays -/

/-- Rows stay, with the columns fixed at their insertion. -/
structure Persist (before after : Store) : Prop where
  sagas : ∀ id row, before.saga id = some row →
    ∃ row', after.saga id = some row' ∧ row'.toSagaIntent = row.toSagaIntent
  effects : ∀ id row, before.effect id = some row →
    ∃ row', after.effect id = some row' ∧ row'.toEffectPlan = row.toEffectPlan

namespace Persist

theorem refl (store : Store) : Persist store store :=
  ⟨fun _ row found => ⟨row, found, rfl⟩, fun _ row found => ⟨row, found, rfl⟩⟩

theorem trans {first second third : Store} (one : Persist first second)
    (two : Persist second third) : Persist first third := by
  refine ⟨fun id row found => ?_, fun id row found => ?_⟩
  · obtain ⟨middle, there, same⟩ := one.sagas id row found
    obtain ⟨last, present, kept⟩ := two.sagas id middle there
    exact ⟨last, present, kept.trans same⟩
  · obtain ⟨middle, there, same⟩ := one.effects id row found
    obtain ⟨last, present, kept⟩ := two.effects id middle there
    exact ⟨last, present, kept.trans same⟩

/-- A row under a key stays there when another row is inserted. -/
theorem find_insert {Row Key : Type} [DecidableEq Key] {key : Row → Key} {table : Table key}
    {row other : Row} {wanted : Key} (found : table.find wanted = some row) :
    (table.insert other).find wanted = some row := by
  rw [Table.find_insert, found, Option.some_or]

/-- A row under a key stays there, as it was or rewritten, when a row is rewritten. -/
theorem find_modify {Row Key : Type} [DecidableEq Key] {key : Row → Key} {table : Table key}
    {row : Row} {wanted other : Key} {change : Row → Row}
    (keeps : ∀ row, key (change row) = key row) (found : table.find wanted = some row) :
    ∃ row', (table.modify other change keeps).find wanted = some row' ∧
      (row' = row ∨ row' = change row) := by
  rw [Table.find_modify, found]
  split
  · exact ⟨_, rfl, Or.inr rfl⟩
  · exact ⟨_, rfl, Or.inl rfl⟩

/-- Installing a row version deletes nothing. -/
theorem apply (image : Image) (store : Store) : Persist store (image.apply store) := by
  cases image with
  | insertSaga saga =>
    exact ⟨fun _ row found => ⟨row, find_insert found, rfl⟩, fun _ row found => ⟨row, found, rfl⟩⟩
  | insertEffect effect =>
    exact ⟨fun _ row found => ⟨row, found, rfl⟩, fun _ row found => ⟨row, find_insert found, rfl⟩⟩
  | writeSaga saga =>
    refine ⟨fun id row found => ?_, fun _ row found => ⟨row, found, rfl⟩⟩
    have written : ∃ row', ((Image.writeSaga saga).apply store).saga id = some row' ∧
        (row' = row ∨ row' = row.set fun _ => saga.toSagaProgress) :=
      find_modify (by exact fun _ => rfl) found
    obtain ⟨row', there, rfl | rfl⟩ := written
    · exact ⟨_, there, rfl⟩
    · exact ⟨_, there, rfl⟩
  | writeEffect effect =>
    refine ⟨fun _ row found => ⟨row, found, rfl⟩, fun id row found => ?_⟩
    have written : ∃ row', ((Image.writeEffect effect).apply store).effect id = some row' ∧
        (row' = row ∨ row' = row.set fun progress =>
          if row.provisioningId = effect.provisioningId then effect.toEffectProgress
          else progress) :=
      find_modify (by exact fun _ => rfl) found
    obtain ⟨row', there, rfl | rfl⟩ := written
    · exact ⟨_, there, rfl⟩
    · exact ⟨_, there, rfl⟩
  | insertMutation _ | writeMutation _ | insertActivity _ =>
    exact ⟨fun _ row found => ⟨row, found, rfl⟩, fun _ row found => ⟨row, found, rfl⟩⟩

/-- **Every commit lets rows stay.** -/
theorem of_commits {α : Type} {program : Transaction α} {store final : Store} {result : α}
    (committed : postgres.Commits program store result final) : Persist store final :=
  postgres.commits_images Persist refl trans apply committed

theorem saga_isSome {before after : Store} (persist : Persist before after) {id : Uuid}
    (present : (before.saga id).isSome) : (after.saga id).isSome := by
  obtain ⟨row, found⟩ := Option.isSome_iff_exists.mp present
  obtain ⟨row', there, -⟩ := persist.sagas id row found
  rw [there]
  rfl

/-- A record names its effect in every later store. -/
theorem names {before after : Store} (persist : Persist before after) {record : EffectRecord}
    (named : Names before record) : Names after record := by
  obtain ⟨effect, found, owner, kind⟩ := named
  obtain ⟨effect', there, plan⟩ := persist.effects _ effect found
  refine ⟨effect', there, ?_, ?_⟩
  · rw [show effect'.provisioningId = effect.provisioningId from congrArg _ plan, owner]
  · rw [show effect'.kind = effect.kind from congrArg _ plan, kind]

end Persist

/-! ### What the constraints admit -/

/-- Every row satisfies the constraints of its table. -/
structure Checked (store : Store) : Prop where
  sagas : ∀ row ∈ store.sagas.rows, row.checked = true
  effects : ∀ row ∈ store.effects.rows, row.checked = true
  activity : ∀ note ∈ store.activity.rows, note.checked = true

/-- The row of a version satisfies the constraints of its table. -/
def Image.Checked : Image → Prop
  | .insertSaga row | .writeSaga row => row.checked = true
  | .insertEffect row | .writeEffect row => row.checked = true
  | .insertActivity row => row.checked = true
  | .insertMutation _ | .writeMutation _ => True

/-- A new effect and a new activity row belong to a saga. -/
def Image.Owned : Image → Store → Prop
  | .insertEffect row, store => (store.saga row.provisioningId).isSome
  | .insertActivity row, store => (store.saga row.provisioningId).isSome
  | _, _ => True

section Admitted

variable {store : Store}

/-- The constraints on the columns a `SET` writes do not depend on the others. -/
theorem SagaRow.checked_set {row other : SagaRow} (one : row.checked = true)
    (two : other.checked = true) : (row.set fun _ => other.toSagaProgress).checked = true := by
  unfold SagaRow.checked at one two ⊢
  rw [decide_eq_true_eq] at one two ⊢
  exact ⟨one.1, one.2.1, one.2.2.1, two.2.2.2⟩

theorem EffectRow.checked_set {row : EffectRow} {progress : EffectProgress}
    (one : row.checked = true) (two : progress.checked = true) :
    (row.set fun _ => progress).checked = true := by
  unfold EffectRow.checked at one ⊢
  rw [Bool.and_eq_true] at one ⊢
  exact ⟨one.1, two⟩

theorem mem_insert_cases {Row Key : Type} [DecidableEq Key] {key : Row → Key} {table : Table key}
    {row other : Row} (member : other ∈ (table.insert row).rows) :
    other = row ∨ other ∈ table.rows := by
  cases taken : table.find (key row) with
  | none =>
    rw [Table.rows_insert taken] at member
    rcases List.mem_append.mp member with there | here
    · exact Or.inr there
    · exact Or.inl (List.mem_singleton.mp here)
  | some found =>
    rw [Table.insert_taken (by rw [taken]; rfl)] at member
    exact Or.inr member

/-- The rows of a rewritten table are rows of the table, as they were or rewritten. -/
theorem mem_modify_cases {Row Key : Type} [DecidableEq Key] {key : Row → Key} {table : Table key}
    {wanted : Key} {change : Row → Row} (keeps : ∀ row, key (change row) = key row) {other : Row}
    (member : other ∈ (table.modify wanted change keeps).rows) :
    ∃ row ∈ table.rows, other = row ∨ (key row = wanted ∧ other = change row) := by
  obtain ⟨row, inside, rfl⟩ := List.mem_map.mp member
  refine ⟨row, inside, ?_⟩
  split
  · exact Or.inr ⟨‹_›, rfl⟩
  · exact Or.inl rfl

theorem Image.Checked.apply (image : Image) (store : Store) (good : image.Checked)
    (holds : OrganizationProvisioning.Checked store) :
    OrganizationProvisioning.Checked (image.apply store) := by
  cases image with
  | insertSaga saga =>
    refine ⟨fun row member => ?_, holds.effects, holds.activity⟩
    rcases mem_insert_cases member with rfl | there
    · exact good
    · exact holds.sagas row there
  | writeSaga saga =>
    refine ⟨fun row member => ?_, holds.effects, holds.activity⟩
    obtain ⟨old, inside, rfl | ⟨-, rfl⟩⟩ := mem_modify_cases (by exact fun _ => rfl) member
    · exact holds.sagas _ inside
    · exact SagaRow.checked_set (holds.sagas _ inside) good
  | insertEffect effect =>
    refine ⟨holds.sagas, fun row member => ?_, holds.activity⟩
    rcases mem_insert_cases member with rfl | there
    · exact good
    · exact holds.effects row there
  | writeEffect effect =>
    refine ⟨holds.sagas, fun row member => ?_, holds.activity⟩
    obtain ⟨old, inside, rfl | ⟨-, rfl⟩⟩ := mem_modify_cases (by exact fun _ => rfl) member
    · exact holds.effects _ inside
    · unfold EffectRow.set
      split
      · exact EffectRow.checked_set (holds.effects _ inside) (Bool.and_eq_true_iff.mp good).2
      · exact holds.effects _ inside
  | insertActivity note =>
    refine ⟨holds.sagas, holds.effects, fun row member => ?_⟩
    rcases mem_insert_cases member with rfl | there
    · exact good
    · exact holds.activity row there
  | insertMutation _ | writeMutation _ => exact ⟨holds.sagas, holds.effects, holds.activity⟩

/-- The versions an accepted statement writes satisfy the constraints. -/
theorem checked_of_accepted {statement : Statement} {answer : statement.Answer}
    (accepted : ¬ postgres.refuses statement store) {image : Image}
    (member : image ∈ postgres.images statement store answer) : image.Checked := by
  obtain ⟨operation, sql⟩ := statement
  have admitted : sql.refuses store = false := by
    rw [← Bool.not_eq_true]
    exact accepted
  have written : image ∈ sql.images store answer := member
  clear member accepted
  cases sql with
  | insertSaga row =>
    simp only [Sql.refuses, Bool.or_eq_false_iff, Bool.not_eq_eq_eq_not, Bool.not_false] at admitted
    rw [List.mem_singleton.mp written]
    exact admitted.1
  | insertEffect row =>
    simp only [Sql.refuses, Bool.or_eq_false_iff, Bool.not_eq_eq_eq_not, Bool.not_false] at admitted
    rw [List.mem_singleton.mp written]
    exact admitted.1.1.1.1.1
  | insertActivity row =>
    simp only [Sql.refuses, Bool.or_eq_false_iff, Bool.not_eq_eq_eq_not, Bool.not_false] at admitted
    rw [List.mem_singleton.mp written]
    exact admitted.1.1.1
  | updateSaga id change =>
    simp only [Sql.images, Option.mem_toList, Option.map_eq_some_iff] at written
    obtain ⟨row, found, rfl⟩ := written
    show (row.set change).checked = true
    simpa [Sql.refuses, found] using admitted
  | updateEffect id condition change =>
    simp only [Sql.images, Option.mem_toList, Option.map_eq_some_iff] at written
    obtain ⟨row, found, rfl⟩ := written
    show (row.set change).checked = true
    simpa [Sql.refuses, found] using admitted
  | updateEffects id condition change =>
    obtain ⟨row, chosen, rfl⟩ := List.mem_map.mp written
    simp only [Sql.refuses, List.any_eq_false, Bool.not_eq_true, Bool.not_eq_false'] at admitted
    exact admitted row chosen
  | insertMutation row =>
    cases answer with
    | true =>
      rw [List.mem_singleton.mp written]
      trivial
    | false => cases written
  | updateMutation caller key condition change =>
    simp only [Sql.images, Option.mem_toList, Option.map_eq_some_iff] at written
    obtain ⟨row, found, rfl⟩ := written
    trivial
  | selectSaga _ _ | lockSaga _ _ | scanSagas _ | selectEffects _ _ _ | lockEffect _ _
  | selectMutation _ _ => cases written

/-- **Every commit keeps the constraints.** -/
theorem Checked.of_commits {α : Type} {program : Transaction α} {final : Store} {result : α}
    (committed : postgres.Commits program store result final) (holds : Checked store) :
    Checked final :=
  postgres.commits_admitted (fun image _ => image.Checked) Checked
    (fun _ _ _ accepted _ _ member => checked_of_accepted accepted member)
    (fun _ _ _ good => good) Image.Checked.apply committed holds

/-- A new effect or activity row an accepted statement writes belongs to a saga. -/
theorem owned_of_accepted {statement : Statement} {answer : statement.Answer}
    (accepted : ¬ postgres.refuses statement store) {image : Image}
    (member : image ∈ postgres.images statement store answer) : image.Owned store := by
  obtain ⟨operation, sql⟩ := statement
  have admitted : sql.refuses store = false := by
    rw [← Bool.not_eq_true]
    exact accepted
  have written : image ∈ sql.images store answer := member
  clear member accepted
  cases sql with
  | insertEffect row =>
    simp only [Sql.refuses, Bool.or_eq_false_iff] at admitted
    rw [List.mem_singleton.mp written]
    exact Option.isNone_eq_false_iff.mp admitted.1.2
  | insertActivity row =>
    simp only [Sql.refuses, Bool.or_eq_false_iff] at admitted
    rw [List.mem_singleton.mp written]
    exact Option.isNone_eq_false_iff.mp admitted.1.2
  | insertSaga row =>
    rw [List.mem_singleton.mp written]
    trivial
  | insertMutation row =>
    cases answer with
    | true =>
      rw [List.mem_singleton.mp written]
      trivial
    | false => cases written
  | updateEffects id condition change =>
    obtain ⟨row, chosen, rfl⟩ := List.mem_map.mp written
    trivial
  | updateSaga _ _ | updateEffect _ _ _ | updateMutation _ _ _ _ =>
    simp only [Sql.images, Option.mem_toList, Option.map_eq_some_iff] at written
    obtain ⟨row, found, rfl⟩ := written
    trivial
  | selectSaga _ _ | lockSaga _ _ | scanSagas _ | selectEffects _ _ _ | lockEffect _ _
  | selectMutation _ _ => cases written

/-- **Every commit lets every effect and activity row belong to a saga.** -/
theorem Owned.of_commits {α : Type} {program : Transaction α} {final : Store} {result : α}
    (committed : postgres.Commits program store result final) (holds : Owned store) :
    Owned final := by
  refine postgres.commits_admitted Image.Owned Owned
    (fun _ _ _ accepted _ _ member => owned_of_accepted accepted member) ?_ ?_ committed holds
  · intro image other middle good
    cases image with
    | insertEffect row | insertActivity row => exact (Persist.apply other middle).saga_isSome good
    | _ => trivial
  · intro image middle good owned
    have stays := Persist.apply image middle
    refine ⟨fun effect member => ?_, fun note member => ?_⟩
    · cases image with
      | insertEffect row =>
        rcases mem_insert_cases member with rfl | there
        · exact stays.saga_isSome good
        · exact stays.saga_isSome (owned.effects effect there)
      | writeEffect row =>
        obtain ⟨old, inside, rfl | ⟨-, rfl⟩⟩ := mem_modify_cases (by exact fun _ => rfl) member
        · exact stays.saga_isSome (owned.effects _ inside)
        · exact stays.saga_isSome (owned.effects old inside)
      | _ => exact stays.saga_isSome (owned.effects effect member)
    · cases image with
      | insertActivity row =>
        rcases mem_insert_cases member with rfl | there
        · exact stays.saga_isSome good
        · exact stays.saga_isSome (owned.activity note there)
      | _ => exact stays.saga_isSome (owned.activity note member)

end Admitted

end OrganizationProvisioning
