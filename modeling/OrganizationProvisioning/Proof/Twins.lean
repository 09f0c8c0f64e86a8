/-
**Two stores that agree on one saga.**

* `Scope` — a saga, the ids a call may give new rows, the effects it knows to be of the saga, and the
  reservations that name no other saga.
* `Twins` — two stores that agree on the rows of the saga and on the reservations.
* `Sql.Within` — the statement names nothing outside the scope; `alike_within` — then it answers alike on
  twins and leaves twins.
* `alike_start`, `alike_retry`, `alike_requestCleanup` — so do the operations.
-/
import OrganizationProvisioning.Library.Alike
import OrganizationProvisioning.Proof.Requests
import OrganizationProvisioning.Proof.Sends

namespace OrganizationProvisioning

open Relational Transactional

/-! ### Twins -/

/-- What a call may name. -/
structure Scope where
  saga : Uuid
  /-- The ids of new effects. -/
  effects : Uuid → Prop
  /-- The ids of new activity rows. -/
  notes : Uuid → Prop
  /-- The ids of effects of the saga. -/
  mine : Uuid → Prop
  /-- The reservations that name no other saga. -/
  keys : String → String → Prop

/-- No other saga has rows under the ids of the scope. -/
structure Apart (scope : Scope) (store : Store) : Prop where
  effects : ∀ effect ∈ store.effects.rows, scope.effects effect.effectId →
    effect.provisioningId = scope.saga
  notes : ∀ note ∈ store.activity.rows, scope.notes note.activityId →
    note.provisioningId = scope.saga
  keyed : Keyed store

/-- **Two stores that agree on the rows of the saga and on the reservations.** -/
structure Twins (scope : Scope) (one two : Store) : Prop where
  saga : one.saga scope.saga = two.saga scope.saga
  effects : one.effectsOf scope.saga = two.effectsOf scope.saga
  activity : one.activityOf scope.saga = two.activityOf scope.saga
  mutations : ∀ caller key, one.mutation caller key = two.mutation caller key
  mine : ∀ id, scope.mine id → ∃ effect ∈ one.effectsOf scope.saga, effect.effectId = id
  named : ∀ caller key row id, scope.keys caller key → one.mutation caller key = some row →
    row.provisioningId = some id → id = scope.saga
  apart : Apart scope one
  apart' : Apart scope two

/-- The row version belongs to the scope, if it is a new row. -/
def Image.Within (scope : Scope) : Image → Prop
  | .insertEffect row => row.provisioningId = scope.saga ∧ scope.effects row.effectId ∧ row.Keyed
  | .insertMutation row => ∀ id, row.provisioningId = some id → id = scope.saga
  | .writeMutation row => scope.keys row.callerInstance row.idempotencyKey →
      ∀ id, row.provisioningId = some id → id = scope.saga
  | .insertActivity row => row.provisioningId = scope.saga ∧ scope.notes row.activityId
  | _ => True

/-- **The statement names nothing outside the scope.** -/
def Sql.Within (scope : Scope) : Sql → Prop
  | .insertSaga row => row.provisioningId = scope.saga
  | .selectSaga id _ | .lockSaga id _ | .updateSaga id _ => id = scope.saga
  | .scanSagas _ => False
  | .insertEffect row => (row.provisioningId = scope.saga ∧ scope.effects row.effectId ∧ row.Keyed) ∧
      ∀ source, row.sourceEffectId = some source → scope.mine source
  | .selectEffects id _ _ | .updateEffects id _ _ => id = scope.saga
  | .lockEffect id _ | .updateEffect id _ _ => scope.mine id
  | .insertMutation row => ∀ id, row.provisioningId = some id → id = scope.saga
  | .selectMutation _ _ => True
  | .updateMutation caller key _ change => scope.keys caller key ∧ ∀ old id,
      (old.provisioningId = some id → id = scope.saga) →
        (change old).provisioningId = some id → id = scope.saga
  | .insertActivity row => (row.provisioningId = scope.saga ∧ scope.notes row.activityId) ∧
      ∀ effect, row.effectId = some effect → scope.mine effect

section Twins

variable {scope : Scope} {one two store : Store} {id : Uuid}

/-- An effect of the saga is the same row in both stores. -/
theorem effect_of_mem {effect : EffectRow} (member : effect ∈ store.effectsOf scope.saga) :
    store.effect effect.effectId = some effect :=
  (Store.mem_effectsOf.mp member).1

theorem Twins.effect_eq (twins : Twins scope one two) (mine : scope.mine id) :
    one.effect id = two.effect id ∧ (one.effect id).isSome := by
  obtain ⟨effect, member, rfl⟩ := twins.mine id mine
  have there := effect_of_mem (twins.effects ▸ member)
  rw [effect_of_mem member, there]
  exact ⟨rfl, rfl⟩

/-- An id for new effects is taken by an effect of the saga or by none. -/
theorem Apart.effect (apart : Apart scope store) (new : scope.effects id) :
    store.effect id = (store.effectsOf scope.saga).find? fun effect => effect.effectId = id := by
  refine Table.find_filter fun effect member same => decide_eq_true ?_
  exact apart.effects effect member (same ▸ new)

theorem Apart.note (apart : Apart scope store) (new : scope.notes id) :
    store.activity.find id = (store.activityOf scope.saga).find? fun note => note.activityId = id := by
  refine Table.find_filter fun note member same => decide_eq_true ?_
  exact apart.notes note member (same ▸ new)

theorem Twins.new_effect (twins : Twins scope one two) (new : scope.effects id) :
    one.effect id = two.effect id := by
  rw [twins.apart.effect new, twins.apart'.effect new, twins.effects]

theorem Twins.new_note (twins : Twins scope one two) (new : scope.notes id) :
    one.activity.find id = two.activity.find id := by
  rw [twins.apart.note new, twins.apart'.note new, twins.activity]

/-! ### Row versions -/

theorem Apart.apply (apart : Apart scope store) {image : Image} (within : image.Within scope) :
    Apart scope (image.apply store) := by
  cases image with
  | insertEffect row =>
    cases taken : store.effect row.effectId with
    | some other =>
      show Apart scope (store.addEffect row)
      rwa [addEffect_taken (by rw [taken]; rfl)]
    | none =>
      have rows : (store.addEffect row).effects.rows = store.effects.rows ++ [row] :=
        Table.rows_insert taken
      refine ⟨fun effect member new => ?_, apart.notes, fun effect member => ?_⟩
      · rcases List.mem_append.mp (rows ▸ member) with old | same
        · exact apart.effects effect old new
        · rw [List.mem_singleton.mp same]
          exact within.1
      · rcases List.mem_append.mp (rows ▸ member) with old | same
        · exact apart.keyed effect old
        · rw [List.mem_singleton.mp same]
          exact within.2.2
  | writeEffect row =>
    refine ⟨fun effect member new => ?_, apart.notes, fun effect member => ?_⟩
    · obtain ⟨old, inside, rfl⟩ := List.mem_map.mp member
      split at new
      · rw [if_pos ‹_›]
        exact apart.effects old inside new
      · rw [if_neg ‹_›]
        exact apart.effects old inside new
    · obtain ⟨old, inside, rfl⟩ := List.mem_map.mp member
      split
      · exact (apart.keyed old inside).of_plan rfl
      · exact apart.keyed old inside
  | insertActivity row =>
    cases taken : store.activity.find row.activityId with
    | some other =>
      show Apart scope (store.addActivity row)
      rwa [addActivity_taken (by rw [taken]; rfl)]
    | none =>
      have rows : (store.addActivity row).activity.rows = store.activity.rows ++ [row] :=
        Table.rows_insert taken
      refine ⟨apart.effects, fun note member new => ?_, apart.keyed⟩
      rcases List.mem_append.mp (rows ▸ member) with old | same
      · exact apart.notes note old new
      · rw [List.mem_singleton.mp same]
        exact within.1
  | insertSaga | writeSaga | insertMutation | writeMutation =>
    exact ⟨apart.effects, apart.notes, apart.keyed⟩

/-- **A row version of the scope leaves twins.** -/
theorem Twins.apply (twins : Twins scope one two) {image : Image} (within : image.Within scope) :
    Twins scope (image.apply one) (image.apply two) := by
  have apart := twins.apart.apply within
  have apart' := twins.apart'.apply within
  cases image with
  | insertSaga row =>
    refine ⟨?_, twins.effects, twins.activity, twins.mutations, twins.mine, twins.named, apart, apart'⟩
    show (one.addSaga row).saga _ = (two.addSaga row).saga _
    rw [saga_addSaga, saga_addSaga, twins.saga]
  | writeSaga row =>
    refine ⟨?_, twins.effects, twins.activity, twins.mutations, twins.mine, twins.named, apart, apart'⟩
    show (one.setSaga row.provisioningId _).saga _ = (two.setSaga row.provisioningId _).saga _
    rw [saga_setSaga, saga_setSaga, twins.saga]
  | insertEffect row =>
    have same := twins.new_effect within.2.1
    cases taken : one.effect row.effectId with
    | some other =>
      show Twins scope (one.addEffect row) (two.addEffect row)
      rwa [addEffect_taken (by rw [taken]; rfl), addEffect_taken (by rw [← same, taken]; rfl)]
    | none =>
      have effects := @effectsOf_addEffect one scope.saga row taken
      have effects' := @effectsOf_addEffect two scope.saga row (same ▸ taken)
      refine ⟨twins.saga, ?_, twins.activity, twins.mutations, fun id mine => ?_, twins.named, apart,
        apart'⟩
      · rw [Image.apply, Image.apply]
        exact effects.trans (twins.effects ▸ effects'.symm)
      · obtain ⟨effect, member, same⟩ := twins.mine id mine
        refine ⟨effect, ?_, same⟩
        show effect ∈ (one.addEffect row).effectsOf scope.saga
        rw [effects]
        exact List.mem_append_left _ member
  | writeEffect row =>
    have effects := @effectsOf_writeEffect one scope.saga row
    have effects' := @effectsOf_writeEffect two scope.saga row
    refine ⟨twins.saga, ?_, twins.activity, twins.mutations, fun id mine => ?_, twins.named, apart,
      apart'⟩
    · rw [effects, effects', twins.effects]
    · obtain ⟨effect, member, rfl⟩ := twins.mine id mine
      rw [effects]
      refine ⟨_, List.mem_map_of_mem member, ?_⟩
      split <;> rfl
  | insertMutation row =>
    refine ⟨twins.saga, twins.effects, twins.activity, fun caller key => ?_, twins.mine,
      fun caller key found id holds present names => ?_, apart, apart'⟩
    · show (one.addMutation row).mutation caller key = (two.addMutation row).mutation caller key
      rw [mutation_addMutation, mutation_addMutation, twins.mutations]
    · have present : (one.addMutation row).mutation caller key = some found := present
      rw [mutation_addMutation] at present
      cases old : one.mutation caller key with
      | some other =>
        rw [old, Option.some_or, Option.some.injEq] at present
        exact twins.named caller key found id holds (old.trans (congrArg some present)) names
      | none =>
        rw [old, Option.none_or] at present
        split at present
        · cases present
          exact within id names
        · cases present
  | writeMutation row =>
    refine ⟨twins.saga, twins.effects, twins.activity, fun caller key => ?_, twins.mine,
      fun caller key found id holds present names => ?_, apart, apart'⟩
    · show (one.setMutation row.callerInstance row.idempotencyKey _).mutation caller key =
        (two.setMutation row.callerInstance row.idempotencyKey _).mutation caller key
      rw [mutation_setMutation, mutation_setMutation, twins.mutations]
    · have present : (one.setMutation row.callerInstance row.idempotencyKey
          fun _ => row.toMutationOutcome).mutation caller key = some found := present
      rw [mutation_setMutation] at present
      by_cases here : caller = row.callerInstance ∧ key = row.idempotencyKey
      · rw [if_pos here] at present
        obtain ⟨old, -, rfl⟩ := Option.map_eq_some_iff.mp present
        rw [here.1, here.2] at holds
        exact within holds id names
      · rw [if_neg here] at present
        exact twins.named caller key found id holds present names
  | insertActivity row =>
    have same := twins.new_note within.2
    cases taken : one.activity.find row.activityId with
    | some other =>
      show Twins scope (one.addActivity row) (two.addActivity row)
      rwa [addActivity_taken (by rw [taken]; rfl), addActivity_taken (by rw [← same, taken]; rfl)]
    | none =>
      have notes := @activityOf_addActivity one scope.saga row taken
      have notes' := @activityOf_addActivity two scope.saga row (same ▸ taken)
      refine ⟨twins.saga, twins.effects, ?_, twins.mutations, twins.mine, twins.named, apart, apart'⟩
      rw [Image.apply, Image.apply]
      exact notes.trans (twins.activity ▸ notes'.symm)

/-! ### Statements -/

/-- A downstream key of the saga is taken by an effect of the saga or by none. -/
theorem Apart.key (apart : Apart scope store) {row : EffectRow} (owner : row.provisioningId = scope.saga)
    (keyed : row.Keyed) : (store.effects.rows.any fun other => other.downstreamKey = row.downstreamKey) =
      (store.effectsOf scope.saga).any fun other => other.downstreamKey = row.downstreamKey := by
  rw [Bool.eq_iff_iff, List.any_eq_true, List.any_eq_true]
  constructor
  · rintro ⟨other, member, taken⟩
    have named := apart.keyed other member
    have same := of_decide_eq_true taken
    unfold EffectRow.Keyed at named keyed
    rw [named, keyed] at same
    refine ⟨other, Store.mem_effectsOf.mpr ⟨Table.find_of_mem member, ?_⟩, taken⟩
    rw [(downstreamKey_eq same).1, owner]
  · rintro ⟨other, member, taken⟩
    exact ⟨other, (Store.effect_found.mp (Store.mem_effectsOf.mp member).1).1, taken⟩

/-- A statement of the scope is refused alike, and writes row versions of the scope. -/
structure Sql.TwinsOn (scope : Scope) (sql : Sql) (one two : Store) : Prop where
  refuses : sql.refuses one = sql.refuses two
  answer : sql.answer (fun _ => false) one = sql.answer (fun _ => false) two
  images : ∀ result, sql.images one result = sql.images two result
  within : ∀ result, ∀ image ∈ sql.images one result, image.Within scope

theorem Sql.twinsOn {sql : Sql} (within : sql.Within scope) (twins : Twins scope one two) :
    sql.TwinsOn scope one two := by
  cases sql with
  | insertSaga row =>
    refine ⟨?_, rfl, fun _ => rfl, fun _ image member => ?_⟩
    · simp only [Sql.refuses, show row.provisioningId = scope.saga from within, twins.saga]
    · cases List.mem_singleton.mp member
      trivial
  | selectSaga id condition | lockSaga id condition =>
    cases (show id = scope.saga from within)
    exact ⟨rfl, congrArg (Option.filter condition) twins.saga, fun _ => rfl,
      fun _ _ member => by cases member⟩
  | updateSaga id change =>
    cases (show id = scope.saga from within)
    refine ⟨?_, ?_, fun _ => ?_, fun _ image member => ?_⟩
    · simp only [Sql.refuses, twins.saga]
    · simp only [Sql.answer, twins.saga]
    · simp only [Sql.images, twins.saga]
    · obtain ⟨row, -, rfl⟩ := Option.map_eq_some_iff.mp (Option.mem_toList.mp member)
      trivial
  | scanSagas condition => exact within.elim
  | insertEffect row =>
    obtain ⟨⟨owner, new, keyed⟩, sources⟩ := within
    refine ⟨?_, rfl, fun _ => rfl, fun _ image member => ?_⟩
    · have source : (row.sourceEffectId.any fun source => (one.effect source).isNone) =
          row.sourceEffectId.any fun source => (two.effect source).isNone := by
        cases named : row.sourceEffectId with
        | none => rfl
        | some source => rw [Option.any_some, Option.any_some, (twins.effect_eq (sources source named)).1]
      simp only [Sql.refuses, twins.new_effect new, twins.apart.key owner keyed,
        twins.apart'.key owner keyed, owner, twins.effects, twins.saga, source]
    · cases List.mem_singleton.mp member
      exact ⟨owner, new, keyed⟩
  | selectEffects id condition order =>
    cases (show id = scope.saga from within)
    refine ⟨rfl, ?_, fun _ => rfl, fun _ _ member => by cases member⟩
    simp only [Sql.answer, twins.effects]
  | lockEffect id condition =>
    refine ⟨rfl, ?_, fun _ => rfl, fun _ _ member => by cases member⟩
    simp only [Sql.answer, (twins.effect_eq within).1]
  | updateEffect id condition change =>
    have same := (twins.effect_eq within).1
    refine ⟨?_, ?_, fun _ => ?_, fun _ image member => ?_⟩
    · simp only [Sql.refuses, same]
    · simp only [Sql.answer, same]
    · simp only [Sql.images, same]
    · obtain ⟨row, -, rfl⟩ := Option.map_eq_some_iff.mp (Option.mem_toList.mp member)
      trivial
  | updateEffects id condition change =>
    cases (show id = scope.saga from within)
    refine ⟨?_, ?_, fun _ => ?_, fun _ image member => ?_⟩
    · simp only [Sql.refuses, twins.effects]
    · simp only [Sql.answer, twins.effects]
    · simp only [Sql.images, twins.effects]
    · obtain ⟨row, -, rfl⟩ := List.mem_map.mp member
      trivial
  | insertMutation row =>
    have referred : (row.provisioningId.any fun id => (one.saga id).isNone) =
        row.provisioningId.any fun id => (two.saga id).isNone := by
      cases named : row.provisioningId with
      | none => rfl
      | some id => rw [Option.any_some, Option.any_some, within id named, twins.saga]
    refine ⟨?_, ?_, fun _ => rfl, fun result image member => ?_⟩
    · simp only [Sql.refuses, twins.mutations, referred]
    · simp only [Sql.answer, twins.mutations]
    · cases result with
      | true =>
        cases List.mem_singleton.mp member
        exact within
      | false => cases member
  | selectMutation caller key =>
    exact ⟨rfl, twins.mutations caller key, fun _ => rfl, fun _ _ member => by cases member⟩
  | updateMutation caller key condition change =>
    obtain ⟨reserved, keeps⟩ := within
    have inside : ∀ row, one.mutation caller key = some row → ∀ id,
        (change row.toMutationOutcome).provisioningId = some id → id = scope.saga := by
      intro row found id
      exact keeps row.toMutationOutcome id (twins.named caller key row id reserved found)
    refine ⟨?_, ?_, fun _ => ?_, fun _ image member => ?_⟩
    · simp only [Sql.refuses, ← twins.mutations]
      cases chosen : (one.mutation caller key).filter condition with
      | none => rfl
      | some row =>
        rw [Option.any_some, Option.any_some]
        cases named : (row.set change).provisioningId with
        | none => rfl
        | some id =>
          have here := inside row (Option.filter_eq_some_iff.mp chosen).1 id named
          rw [Option.any_some, Option.any_some, here, twins.saga]
    · simp only [Sql.answer, twins.mutations]
    · simp only [Sql.images, twins.mutations]
    · obtain ⟨row, chosen, rfl⟩ := Option.map_eq_some_iff.mp (Option.mem_toList.mp member)
      exact fun _ => inside row (Option.filter_eq_some_iff.mp chosen).1
  | insertActivity row =>
    obtain ⟨⟨owner, new⟩, effects⟩ := within
    refine ⟨?_, rfl, fun _ => rfl, fun _ image member => ?_⟩
    · have effect : (row.effectId.any fun id => (one.effect id).isNone) =
          row.effectId.any fun id => (two.effect id).isNone := by
        cases named : row.effectId with
        | none => rfl
        | some id => rw [Option.any_some, Option.any_some, (twins.effect_eq (effects id named)).1]
      simp only [Sql.refuses, twins.new_note new, owner, twins.saga, effect]
    · cases List.mem_singleton.mp member
      exact ⟨owner, new⟩

/-- **A statement of the scope answers alike on twins and leaves twins.** -/
theorem answersAlike_within {operation : String} {sql : Sql} (within : sql.Within scope) :
    postgres.AnswersAlike computed (Twins scope) ⟨operation, sql⟩ fun _ => Twins scope := by
  intro one two twins
  have on := Sql.twinsOn within twins
  refine ⟨?_, fun _ => ⟨on.answer, ?_⟩⟩
  · show sql.refuses one = true ↔ sql.refuses two = true
    rw [on.refuses]
  · have same : computed ⟨operation, sql⟩ one = computed ⟨operation, sql⟩ two := on.answer
    rw [← same]
    show Twins scope (postgres.install (sql.images one _) one) (postgres.install (sql.images two _) two)
    rw [← on.images]
    exact postgres.install_related (fun image member _ _ related =>
      related.apply (on.within _ image member)) twins

/-- **A program of the scope ends alike on twins.** -/
theorem alike_within {α : Type} {program : Transaction α}
    (asks : Asks (fun statement : Statement => statement.sql.Within scope) program) :
    postgres.Alike computed (Twins scope) program fun _ => Twins scope :=
  .of_asks (fun statement within => @answersAlike_within scope statement.operation statement.sql within) asks

end Twins

/-! ### Programs -/

/-- Every statement of the program is within the scope. -/
abbrev Stays (scope : Scope) {α : Type} (program : Transaction α) : Prop :=
  Asks (fun statement : Statement => statement.sql.Within scope) program

namespace Stays

variable {scope : Scope} {now : Timestamp} {actor : String}

theorem loadView : Stays scope (loadView scope.saga actor) := by
  refine .bind (.perform rfl) fun found => ?_
  cases found with
  | none => exact .pure _
  | some row => exact .bind (.perform rfl) fun _ => .bind asks_expect fun _ => .pure _

theorem refreshSagaStatus {bump : Bool} : Stays scope (refreshSagaStatus now scope.saga bump) :=
  .bind (.perform rfl) fun _ => .bind asks_fetchOne fun _ => .bind (.perform rfl) fun _ =>
    .bind (.perform rfl) fun _ => .bind asks_fetchOne fun _ => .pure _

theorem beginMutation {caller key : String} {operation : Operation} {requestHash : List UInt8}
    {provisioningId : Option Uuid} (names : ∀ id, provisioningId = some id → id = scope.saga) :
    Stays scope (beginMutation now caller key operation actor requestHash provisioningId) := by
  refine .bind (.perform names) fun inserted => ?_
  cases inserted with
  | true => exact .pure _
  | false =>
    exact .bind (.perform trivial) fun _ => .bind asks_fetchOne fun _ => .bind asks_require
      fun _ => .bind asks_require fun _ => .bind asks_expect fun _ => .bind asks_expect
        fun _ => .pure _

theorem completeMutation {caller key : String} {response : ProvisioningView}
    (reserved : scope.keys caller key) : Stays scope (completeMutation caller key response) :=
  .bind (.perform ⟨reserved, fun _ _ kept => kept⟩) fun _ => asks_require

theorem insertActivity {activityId : Uuid} {effectId : Option Uuid} {kind : ActivityKind} {revision : Int}
    {evidence : Json} (new : scope.notes activityId)
    (mine : ∀ id, effectId = some id → scope.mine id) : Stays scope
      (insertActivity now activityId scope.saga effectId kind actor revision evidence) :=
  .perform ⟨⟨rfl, new⟩, mine⟩

theorem insertGrants {effectId : Nat → Uuid} {ordinal : Nat} {grants : List BootstrapGrant}
    (new : ∀ index, index < ordinal + grants.length → scope.effects (effectId index)) :
    Stays scope (insertGrants now scope.saga effectId ordinal grants) := by
  induction grants generalizing ordinal with
  | nil => exact .pure _
  | cons grant grants ih =>
    refine .bind asks_require fun _ => .bind (.perform ⟨⟨rfl, new ordinal ?_, rfl⟩, ?_⟩) fun _ => ih ?_
    · rw [List.length_cons]
      omega
    · intro source impossible
      cases impossible
    · intro index small
      refine new index ?_
      rw [List.length_cons]
      omega

theorem insertRevokes {effectId : Nat → Uuid} {index : Nat} {sources : List EffectRow}
    (new : ∀ place, place < index + sources.length → scope.effects (effectId place))
    (owned : ∀ source ∈ sources, source.provisioningId = scope.saga ∧ scope.mine source.effectId) :
    Stays scope (insertRevokes now effectId index sources) := by
  induction sources generalizing index with
  | nil => exact .pure _
  | cons source sources ih =>
    obtain ⟨owner, mine⟩ := owned source List.mem_cons_self
    refine .bind asks_fetchOne fun _ => .bind asks_fetchOne fun _ => .bind asks_expect fun _ =>
      .bind (.perform ⟨⟨owner, new index ?_, rfl⟩, ?_⟩) fun _ => ih ?_ ?_
    · rw [List.length_cons]
      omega
    · intro id same
      cases same
      exact mine
    · intro place small
      refine new place ?_
      rw [List.length_cons]
      omega
    · exact fun other member => owned other (List.mem_cons_of_mem _ member)

section Resolve

variable {input : RetryInput} {saga : SagaRow} {effect : EffectRow}
  (mine : scope.mine effect.effectId) (names : input.provisioningId = scope.saga)

include mine

omit mine in
include names in
theorem retriedEffect : Stays scope (retriedEffect input saga) := by
  unfold OrganizationProvisioning.retriedEffect
  split
  · exact .bind (.perform names) fun _ => asks_expect
  · split
    · exact .bind asks_require fun _ => .bind (.perform names) fun _ => asks_expect
    · exact .abort _

theorem resetEffectToPending : Stays scope (resetEffectToPending now effect.effectId) :=
  .bind (.perform mine) fun _ => .pure _

include names

theorem confirmApplied : Stays scope (confirmApplied now input effect) := by
  unfold OrganizationProvisioning.confirmApplied
  cases effect.kind with
  | createOrganization =>
    simp only
    split
    · exact .bind (.perform mine) fun _ => .bind (.perform names) fun _ => .pure _
    · exact .abort _
  | putEntitlement =>
    simp only
    split
    · exact .bind (.perform mine) fun _ => .pure _
    · exact .abort _
  | revokeEntitlement => exact .bind asks_require fun _ => .bind (.perform mine) fun _ => .pure _

theorem resolveEffect : Stays scope (resolveEffect now input saga effect) := by
  unfold OrganizationProvisioning.resolveEffect
  cases input.resolution with
  | retryFailed | confirmNotApplied => exact .bind asks_require fun _ => resetEffectToPending mine
  | confirmApplied => exact confirmApplied mine names

end Resolve

end Stays

/-! ### Operations -/

/-- **Two stores agree on the rows of a saga and on the reservations.** -/
structure AgreesOn (id : Uuid) (one two : Store) : Prop where
  saga : one.saga id = two.saga id
  effects : one.effectsOf id = two.effectsOf id
  activity : one.activityOf id = two.activityOf id
  mutations : ∀ caller key, one.mutation caller key = two.mutation caller key

theorem Twins.agrees {scope : Scope} {one two : Store} (twins : Twins scope one two) :
    AgreesOn scope.saga one two :=
  ⟨twins.saga, twins.effects, twins.activity, twins.mutations⟩

/-- The scope of a call that has reserved its key. -/
def Scope.reserve (scope : Scope) (caller key : String) : Scope :=
  { scope with keys := fun other otherKey => other = caller ∧ otherKey = key }

/-- The reservation of a key names no other saga than this one. -/
def NamesOnly (id : Uuid) (caller key : String) (store : Store) : Prop :=
  ∀ row other, store.mutation caller key = some row → row.provisioningId = some other → other = id

section Operations

variable {scope : Scope} {α : Type} {program : Transaction α} {now : Timestamp} {actor : String}

theorem Twins.reserve {one two : Store} (twins : Twins scope one two) {caller key : String}
    (names : NamesOnly scope.saga caller key one) : Twins (scope.reserve caller key) one two := by
  refine ⟨twins.saga, twins.effects, twins.activity, twins.mutations, twins.mine, ?_,
    ⟨twins.apart.effects, twins.apart.notes, twins.apart.keyed⟩,
    ⟨twins.apart'.effects, twins.apart'.notes, twins.apart'.keyed⟩⟩
  rintro other otherKey row id ⟨rfl, rfl⟩ found named
  exact names row id found named

/-- **A program of the scope ends alike**, with what its commits make of the first store. -/
theorem alike_framed {Inv : Store → Prop} {Inv' : α → Store → Prop} (stays : Stays scope program)
    (makes : ∀ store value final, postgres.Commits program store value final → Inv store →
      Inv' value final) :
    postgres.Alike computed (fun one two => Twins scope one two ∧ Inv one) program
      fun value one two => Twins scope one two ∧ Inv' value one :=
  (alike_within stays).frame fun store value final ran =>
    makes store value final (postgres.commits_of_run computed_answers ran)

/-- A check carries along whatever held. -/
theorem alike_require {Inv : Store → Prop} {condition : Bool} {otherwise : Abort} :
    postgres.Alike computed (fun one two => Twins scope one two ∧ Inv one) (require condition otherwise)
      fun _ one two => Twins scope one two ∧ Inv one :=
  alike_framed asks_require fun _ _ _ committed holds => (commits_require.mp committed).2 ▸ holds

/-- **Reserving a key** ends alike, and the new reservation names the saga or none. -/
theorem alike_beginMutation {Inv : Store → Prop} {caller key : String} {operation : Operation}
    {requestHash : List UInt8} {provisioningId : Option Uuid}
    (names : ∀ id, provisioningId = some id → id = scope.saga)
    (spared : ∀ store row, Inv store → Inv (store.addMutation row)) :
    postgres.Alike computed (fun one two => Twins scope one two ∧ Inv one)
      (beginMutation now caller key operation actor requestHash provisioningId)
      fun replay one two => Twins scope one two ∧ Inv one ∧
        (replay = .execute → NamesOnly scope.saga caller key one) := by
  refine alike_framed (.beginMutation names) fun store replay final committed holds => ?_
  cases replay with
  | replay response =>
    obtain ⟨rfl, -⟩ := commits_beginMutation_replay.mp committed
    exact ⟨holds, fun impossible => by cases impossible⟩
  | execute =>
    obtain ⟨fresh, -, rfl⟩ := commits_beginMutation_execute.mp committed
    refine ⟨spared store _ holds, fun _ row other found named => ?_⟩
    rw [mutation_addMutation, fresh, Option.none_or] at found
    split at found
    · cases found
      exact names other named
    · cases found

/-- The scope of a start. -/
def startScope (ids : StartIds) (input : StartInput) : Scope where
  saga := input.provisioningId
  effects id := id = ids.createEffectId ∨ ∃ index < input.grants.length, id = ids.grantEffectId index
  notes id := id = ids.activityId
  mine _ := False
  keys _ _ := False

/-- The scope of a call on a stored saga: it may insert effects under some ids, and one activity row. -/
def callScope (saga : Uuid) (effects : Uuid → Prop) (activityId : Uuid) (stored : List EffectRow) :
    Scope where
  saga := saga
  effects := effects
  notes id := id = activityId
  mine id := ∃ effect ∈ stored, effect.effectId = id
  keys _ _ := False

/-- **A start ends alike.** -/
theorem alike_start {ids : StartIds} {input : StartInput} :
    postgres.Alike computed (Twins (startScope ids input)) (start now ids input)
      fun _ => AgreesOn input.provisioningId := by
  have begins := @alike_beginMutation (startScope ids input) now input.actor (fun _ => True) input.caller
    input.idempotencyKey .start input.requestHash none (fun _ impossible => by cases impossible)
    fun _ _ _ => trivial
  refine (begins.mono (fun _ _ twins => ⟨twins, trivial⟩) fun _ _ _ after => after).bind fun replay => ?_
  cases replay with
  | replay response => exact .pure fun _ _ after => after.1.agrees
  | execute =>
    refine (@alike_within ((startScope ids input).reserve input.caller input.idempotencyKey) _ _ ?_).mono
      (fun _ _ after => after.1.reserve (after.2.2 rfl)) fun _ _ _ twins => twins.agrees
    refine .bind (.perform rfl) fun _ => .bind (.perform ⟨⟨rfl, rfl⟩, fun _ _ _ same => ?_⟩) fun _ =>
      .bind (.perform ⟨⟨rfl, Or.inl rfl, rfl⟩, fun _ impossible => ?_⟩) fun _ =>
        .bind (Stays.insertGrants fun index small => Or.inr ⟨index, ?_, rfl⟩) fun _ =>
          .bind (Stays.insertActivity rfl fun _ impossible => ?_) fun _ => .bind Stays.loadView fun _ =>
            .bind asks_expect fun _ => .bind (Stays.completeMutation ⟨rfl, rfl⟩) fun _ => .pure _
    · cases same
      rfl
    · cases impossible
    · omega
    · cases impossible

/-- The effects of a saga are still those of a list. -/
def Still (id : Uuid) (stored : List EffectRow) (store : Store) : Prop := store.effectsOf id = stored

variable {saga : Uuid} {effects : Uuid → Prop} {activityId : Uuid} {stored : List EffectRow}

/-- **The first steps of a call on a stored saga end alike**: its lock, its check and its reservation. -/
theorem alike_opening {caller key : String} {operation : Operation} {requestHash : List UInt8}
    {β : Type} {Last : β → Store → Store → Prop}
    {rest : SagaRow → MutationReplay → Transaction β} (names : scope.saga = saga)
    (replays : ∀ row response, postgres.Alike computed (Twins scope) (rest row (.replay response)) Last)
    (executes : ∀ row, postgres.Alike computed
      (fun one two => Twins (scope.reserve caller key) one two ∧ Still saga stored one)
      (rest row .execute) Last) :
    postgres.Alike computed (fun one two => Twins scope one two ∧ Still saga stored one)
      (Tx.bind (lockSaga saga actor) fun locked =>
        Tx.bind (expect (.domain .provisioningNotFound) locked) fun row =>
          Tx.bind (beginMutation now caller key operation actor requestHash (some saga)) (rest row))
      Last := by
  subst names
  have locks : postgres.Alike computed (fun one two => Twins scope one two ∧ Still scope.saga stored one)
      (lockSaga scope.saga actor) fun _ one two => Twins scope one two ∧ Still scope.saga stored one :=
    alike_framed (.perform rfl) fun _ _ _ committed holds =>
      (commits_lockSaga.mp committed).2 ▸ holds
  refine locks.bind fun locked => ?_
  have found : postgres.Alike computed (fun one two => Twins scope one two ∧ Still scope.saga stored one)
      (expect (.domain .provisioningNotFound) locked)
      fun _ one two => Twins scope one two ∧ Still scope.saga stored one :=
    alike_framed asks_expect fun _ _ _ committed holds => (commits_expect.mp committed).2 ▸ holds
  refine found.bind fun row => ?_
  refine (alike_beginMutation (fun _ same => (Option.some.inj same).symm)
    fun _ _ holds => holds).bind fun replay => ?_
  cases replay with
  | replay response => exact (replays row response).mono (fun _ _ after => after.1) fun _ _ _ last => last
  | execute =>
    exact (executes row).mono (fun _ _ after => ⟨after.1.reserve (after.2.2 rfl), after.2.1⟩)
      fun _ _ _ last => last

/-- **A retry ends alike.** -/
theorem alike_retry {input : RetryInput} : postgres.Alike computed
    (fun one two => Twins (callScope input.provisioningId effects activityId stored) one two ∧
      Still input.provisioningId stored one)
    (retry now activityId input) fun _ => AgreesOn input.provisioningId := by
  refine alike_opening rfl (fun _ _ => .pure fun _ _ twins => twins.agrees) fun row => ?_
  refine alike_require.bind fun _ => ?_
  have focus : postgres.Alike computed
      (fun one two => Twins ((callScope input.provisioningId effects activityId stored).reserve
        input.caller input.idempotencyKey) one two ∧ Still input.provisioningId stored one)
      (retriedEffect input row)
      fun effect one two => Twins ((callScope input.provisioningId effects activityId stored).reserve
        input.caller input.idempotencyKey) one two ∧ effect ∈ stored := by
    refine alike_framed (Stays.retriedEffect rfl) fun store effect final committed holds => ?_
    exact holds ▸ (commits_retriedEffect committed).2.1
  refine focus.bind fun effect => ?_
  refine (Engine.Alike.fact fun member => ?_).mono (fun _ _ after => after.symm) fun _ _ _ last => last
  refine (alike_within ?_).mono (fun _ _ twins => twins) fun _ _ _ twins => twins.agrees
  refine .bind (Stays.resolveEffect ⟨effect, member, rfl⟩ rfl) fun _ => .bind Stays.refreshSagaStatus
    fun _ => .bind (Stays.insertActivity rfl fun id same => ?_) fun _ => .bind Stays.loadView fun _ =>
      .bind asks_expect fun _ => .bind (Stays.completeMutation ⟨rfl, rfl⟩) fun _ => .pure _
  exact ⟨effect, member, Option.some.inj same⟩

/-- **A cleanup request ends alike.** -/
theorem alike_requestCleanup {effectId : Nat → Uuid} {input : CleanupInput}
    (new : ∀ index < (stored.filter granted).length, effects (effectId index))
    (owned : ∀ effect ∈ stored, effect.provisioningId = input.provisioningId) :
    postgres.Alike computed
      (fun one two => Twins (callScope input.provisioningId effects activityId stored) one two ∧
        Still input.provisioningId stored one)
      (requestCleanup now effectId activityId input) fun _ => AgreesOn input.provisioningId := by
  refine alike_opening rfl (fun _ _ => .pure fun _ _ twins => twins.agrees) fun row => ?_
  refine alike_require.bind fun _ => alike_require.bind fun _ => alike_require.bind fun _ =>
    alike_require.bind fun _ => ?_
  have sources : postgres.Alike computed
      (fun one two => Twins ((callScope input.provisioningId effects activityId stored).reserve
        input.caller input.idempotencyKey) one two ∧ Still input.provisioningId stored one)
      (exec "lock applied bootstrap grants for cleanup" (.selectEffects input.provisioningId
        (fun row => row.kind = .putEntitlement ∧ row.state = .applied) ordinalOrder))
      fun grants one two => Twins ((callScope input.provisioningId effects activityId stored).reserve
        input.caller input.idempotencyKey) one two ∧
          grants = orderBy ordinalOrder (stored.filter granted) := by
    refine alike_framed (.perform rfl) fun store grants final committed holds => ?_
    rw [(commits_selectEffects.mp committed).1, holds]
    rfl
  refine sources.bind fun grants => ?_
  refine (Engine.Alike.fact fun same => ?_).mono (fun _ _ after => after.symm) fun _ _ _ last => last
  have members : ∀ source ∈ grants, source ∈ stored := by
    intro source member
    rw [same, mem_orderBy] at member
    exact List.mem_of_mem_filter member
  refine (alike_within ?_).mono (fun _ _ twins => twins) fun _ _ _ twins => twins.agrees
  refine .bind (.perform rfl) fun _ => .bind (Stays.insertRevokes (fun place small => new place ?_)
    fun source member => ⟨owned source (members source member), source, members source member, rfl⟩)
      fun _ => .bind (.perform rfl) fun _ => .bind Stays.refreshSagaStatus fun _ =>
        .bind (Stays.insertActivity rfl fun _ impossible => ?_) fun _ => .bind Stays.loadView fun _ =>
          .bind asks_expect fun _ => .bind (Stays.completeMutation ⟨rfl, rfl⟩) fun _ => .pure _
  · rw [same, (perm_orderBy ordinalOrder _).length_eq, Nat.zero_add] at small
    exact small
  · cases impossible

end Operations

end OrganizationProvisioning
