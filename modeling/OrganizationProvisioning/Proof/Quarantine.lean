/-
**What a quarantine does, alone.**

* `Store.expiredSagas` — the sagas with an effect whose lease has run out, in the order of the queue.
* `quarantineSaga_exact` — the store one iteration leaves.
* `Reviews` — some sagas go under review and the rest of the store stands still; `Reviews.next` — one more.
* `quarantineLoop_exact` — the loop puts the first expired sagas under review, as many as it may.
-/
import OrganizationProvisioning.Proof.Alone
import Mathlib.Data.Prod.Lex

namespace OrganizationProvisioning

open Relational Transactional Worklist

/-! ### The queue -/

section Queue

variable {store : Store} {now : Timestamp}

/-- The sagas with an effect whose lease has run out, in the order of the queue. -/
def Store.expiredSagas (store : Store) (now : Timestamp) : List SagaRow :=
  orderBy queueOrder (store.sagas.rows.filter fun row =>
    (store.effectsOf row.provisioningId).any (expired now))

theorem mem_expiredSagas {row : SagaRow} : row ∈ store.expiredSagas now ↔
    row ∈ store.sagas.rows ∧ (store.effectsOf row.provisioningId).any (expired now) = true := by
  unfold Store.expiredSagas
  rw [mem_orderBy, List.mem_filter]

theorem expiredSagas_nodup :
    ((store.expiredSagas now).map fun row => row.provisioningId).Nodup := by
  refine ((perm_orderBy queueOrder _).map _).nodup_iff.mpr ?_
  exact store.sagas.unique.sublist (List.filter_sublist.map _)

theorem queueOrder_iff {first second : SagaRow} : queueOrder first second = true ↔
    first.updatedAt < second.updatedAt ∨
      (first.updatedAt = second.updatedAt ∧ first.provisioningId ≤ second.provisioningId) := by
  unfold queueOrder
  rw [decide_eq_true_eq]

/-- The order of the queue is lexicographic. -/
theorem queueOrder_lex {first second : SagaRow} : queueOrder first second = true ↔
    toLex (first.updatedAt, first.provisioningId) ≤ toLex (second.updatedAt, second.provisioningId) := by
  rw [queueOrder_iff, Prod.Lex.toLex_le_toLex]

theorem queueOrder_total (first second : SagaRow) :
    queueOrder first second = true ∨ queueOrder second first = true := by
  rw [queueOrder_lex, queueOrder_lex]
  exact le_total _ _

theorem queueOrder_trans (first second third : SagaRow) (one : queueOrder first second = true)
    (two : queueOrder second third = true) : queueOrder first third = true := by
  rw [queueOrder_lex] at one two ⊢
  exact one.trans two

theorem queueOrder_antisymm {first second : SagaRow} (one : queueOrder first second = true)
    (two : queueOrder second first = true) : first.provisioningId = second.provisioningId := by
  rw [queueOrder_lex] at one two
  exact congrArg Prod.snd (toLex_inj.mp (one.antisymm two))

/-- **The queue is in order.** -/
theorem expiredSagas_sorted : (store.expiredSagas now).Pairwise fun first second =>
    queueOrder first second = true :=
  pairwise_orderBy queueOrder queueOrder_total queueOrder_trans _

variable (all : AllCoherent store)

include all

/-- An effect in flight is the only one of its saga, which runs. -/
theorem inFlight_unique {row : SagaRow} (present : store.saga row.provisioningId = some row)
    {effect : EffectRow} (member : effect ∈ store.effectsOf row.provisioningId)
    (flying : effect.state = .inFlight) :
    (row.status = .running ∨ row.status = .cleanupRunning) ∧
      ∀ other ∈ store.effectsOf row.provisioningId, other.state = .inFlight → other = effect := by
  obtain ⟨saga, shows, coherent⟩ := all _ row present
  have same : saga.row = row := Option.some.inj (shows.row.symm.trans present)
  rw [shows.effects] at member ⊢
  obtain ⟨past, rest, split⟩ := coherent.split_of_state member (Or.inl flying)
  constructor
  · have status := (coherent.status_of_split split).1
    rw [flying, same] at status
    rw [status]
    cases row.cleanupRequested
    · exact Or.inl rfl
    · exact Or.inr rfl
  · intro other inside flies
    obtain ⟨past', rest', split'⟩ := coherent.split_of_state inside (Or.inl flies)
    exact Option.some.inj (split'.next_eq.symm.trans split.next_eq)

/-- **The scan takes the first saga of the queue**: the status it asks for is that of every saga with an
effect in flight. -/
theorem first_hasExpired : store.first (hasExpired now) = (store.expiredSagas now).head? := by
  unfold Store.first Store.expiredSagas
  congr 2
  refine List.filter_congr fun row member => ?_
  unfold hasExpired
  cases late : (store.effectsOf row.provisioningId).any (expired now) with
  | false => exact Bool.and_false _
  | true =>
    obtain ⟨effect, inside, expires⟩ := List.any_eq_true.mp late
    have flying := of_decide_eq_true (Bool.and_eq_true_iff.mp expires).1
    have present : store.saga row.provisioningId = some row := Store.saga_found.mpr ⟨member, rfl⟩
    rw [Bool.and_true]
    exact decide_eq_true (inFlight_unique all present inside flying).1

end Queue

/-! ### One saga -/

/-- The activity row of a quarantine. -/
def quarantineNote (now : Timestamp) (activityId : Uuid) (actor : String) (row : SagaRow)
    (effect : EffectRow) (fence : Uuid) : ActivityRow :=
  activityRow now activityId row.provisioningId (some effect.effectId) .effectOutcomeUnknown actor
    (row.revision + 1)
    (.obj [("effect_kind", .str effect.kind.name), ("reason", .str "lease_expired"),
      ("invalidated_fence", .str fence.text)])

/-- **The saga went under review**: its expired effect is in doubt without a lease, and one activity row
records the fence that no longer holds. -/
structure Reviewed (now : Timestamp) (actor : String) (activityId : Uuid) (row : SagaRow)
    (effect : EffectRow) (before after : Store) : Prop where
  saga : after.saga row.provisioningId =
    some (row.set (.moved now .manualReview (some leaseExpiredError)))
  focus : after.effect effect.effectId = some (effect.set (.stopped now .unknown leaseExpiredError))
  activity : ∃ fence, effect.leaseToken = some fence ∧ after.activityOf row.provisioningId =
    before.activityOf row.provisioningId ++ [quarantineNote now activityId actor row effect fence]

/-- **The rest of the store stands still**: the other sagas, and every effect but the expired ones of
these sagas. -/
structure Spares (now : Timestamp) (changed : List Uuid) (before after : Store) : Prop where
  saga : ∀ id, id ∉ changed → after.saga id = before.saga id
  activity : ∀ id, id ∉ changed → after.activityOf id = before.activityOf id
  effect : ∀ id, (∀ effect, before.effect id = some effect → expired now effect = true →
    effect.provisioningId ∉ changed) → after.effect id = before.effect id
  mutations : after.mutations = before.mutations

section One

variable {store final : Store} {now : Timestamp} {actor : String} {activityId : Uuid} {row : SagaRow}

/-- **The store one iteration leaves.** -/
theorem quarantineSaga_exact (present : store.saga row.provisioningId = some row) {value : Unit}
    (committed : postgres.Commits (quarantineSaga now actor activityId row) store value final) :
    ∃ effect fence, effect ∈ store.effectsOf row.provisioningId ∧ expired now effect = true ∧
      effect.leaseToken = some fence ∧ store.activity.find activityId = none ∧
      final = ((store.setEffects (fun other => other.effectId = effect.effectId && true)
        (.stopped now .unknown leaseExpiredError)).setSaga row.provisioningId
          (.moved now .manualReview (some leaseExpiredError))).addActivity
            (quarantineNote now activityId actor row effect fence) := by
  unfold quarantineSaga at committed
  simp only [Tx.bind_eq, Engine.commits_bind, commits_selectEffects, commits_expect,
    commits_fetchOne, commits_updateEffect, commits_updateSaga, commits_activity] at committed
  obtain ⟨_, store, ⟨rfl, rfl⟩, effect, _, ⟨head, rfl⟩, fence, _, ⟨leased, rfl⟩, _, _,
    ⟨-, -, rfl⟩, _, _, ⟨-, updatedEq, rfl⟩, updated, _, ⟨updatedFound, rfl⟩, admits, rfl⟩ :=
    committed
  have member := List.mem_of_mem_head? (Option.mem_def.mpr head)
  rw [mem_orderBy, List.mem_filter] at member
  rw [saga_setEffects, present] at updatedEq
  rw [updatedEq] at updatedFound
  cases updatedFound
  exact ⟨effect, fence, member.1, member.2, leased, admits.fresh, rfl⟩

/-- A list without repetitions whose members are all one is a singleton. -/
theorem eq_singleton {Row : Type} {rows : List Row} {row : Row} (member : row ∈ rows) (nodup : rows.Nodup)
    (only : ∀ other ∈ rows, other = row) : rows = [row] := by
  cases rows with
  | nil => cases member
  | cons first rest =>
    obtain rfl := only first List.mem_cons_self
    cases rest with
    | nil => rfl
    | cons second rest =>
      have same := only second (List.mem_cons_of_mem _ List.mem_cons_self)
      exact absurd (same ▸ List.mem_cons_self) (List.nodup_cons.mp nodup).1

/-- **One iteration puts its saga under review**, takes it off the queue and leaves the rest as it is. -/
theorem quarantineSaga_reviews (all : AllCoherent store)
    (present : store.saga row.provisioningId = some row) {value : Unit}
    (committed : postgres.Commits (quarantineSaga now actor activityId row) store value final) :
    ∃ effect, (store.effectsOf row.provisioningId).filter (expired now) = [effect] ∧
      Reviewed now actor activityId row effect store final ∧
      Spares now [row.provisioningId] store final ∧
      (∀ id, id ≠ row.provisioningId → final.effectsOf id = store.effectsOf id) ∧
      final.expiredSagas now =
        (store.expiredSagas now).filter fun other => other.provisioningId ≠ row.provisioningId := by
  obtain ⟨effect, fence, member, expires, leased, fresh, rfl⟩ := quarantineSaga_exact present committed
  obtain ⟨stored, owner⟩ := Store.mem_effectsOf.mp member
  have flying := of_decide_eq_true (Bool.and_eq_true_iff.mp expires).1
  obtain ⟨-, only⟩ := inFlight_unique all present member flying
  have single : ∀ other ∈ store.effectsOf row.provisioningId, expired now other = true →
      other = effect := fun other inside late =>
    only other inside (of_decide_eq_true (Bool.and_eq_true_iff.mp late).1)
  have elsewhere : ∀ id, id ≠ row.provisioningId → (store.setEffects
      (fun other => other.effectId = effect.effectId && true)
      (.stopped now .unknown leaseExpiredError)).effectsOf id = store.effectsOf id := by
    refine (Elsewhere.setEffects fun other inside chosen => ?_).effects
    have same : other.effectId = effect.effectId := by simpa using chosen
    rw [Table.eq_of_key inside (Store.effect_found.mp stored).1 same]
    exact owner
  have settled : ((store.setEffects (fun other => other.effectId = effect.effectId && true)
      (.stopped now .unknown leaseExpiredError)).effectsOf row.provisioningId).any (expired now) =
        false := by
    rw [effectsOf_setEffects, List.any_map, List.any_eq_false]
    intro other inside late
    rw [Function.comp_apply] at late
    split at late
    · cases late
    · rename_i differs
      exact differs (by simp [single other inside late])
  refine ⟨effect, ?_, ⟨?_, ?_, fence, leased, ?_⟩, ⟨?_, ?_, ?_, rfl⟩, elsewhere, ?_⟩
  · refine eq_singleton (List.mem_filter.mpr ⟨member, expires⟩) ?_ fun other inside =>
      single other (List.mem_of_mem_filter inside) (List.mem_filter.mp inside).2
    exact ((store.effectsOf_nodup _).of_map _).filter _
  · rw [saga_addActivity, saga_setSaga, if_pos rfl, saga_setEffects, present]
    rfl
  · rw [effect_addActivity, effect_setSaga, effect_setEffects, stored]
    simp
  · rw [activityOf_addActivity fresh, activityOf_setSaga, activityOf_setEffects]
    exact congrArg _ (if_pos rfl)
  · intro id differs
    rw [saga_addActivity, saga_setSaga, if_neg (by simpa using differs), saga_setEffects]
  · intro id differs
    rw [activityOf_addActivity fresh, if_neg, List.append_nil, activityOf_setSaga, activityOf_setEffects]
    exact fun same => differs (List.mem_singleton.mpr same.symm)
  · intro id spared
    rw [effect_addActivity, effect_setSaga, effect_setEffects]
    cases found : store.effect id with
    | none => rfl
    | some other =>
      have differs : other.effectId ≠ effect.effectId := by
        intro same
        rw [Table.eq_of_key (Store.effect_found.mp found).1 (Store.effect_found.mp stored).1 same] at found
        exact spared effect found expires (List.mem_singleton.mpr owner)
      simp [differs]
  · unfold Store.expiredSagas
    rw [← orderBy_filter queueOrder queueOrder_total queueOrder_trans, List.filter_filter]
    · congr 1
      refine @Table.filter_modify _ _ _ _ store.sagas row.provisioningId
        (fun old => old.set (.moved now .manualReview (some leaseExpiredError))) (fun _ => rfl) _ _
        (fun other inside same => ?_) fun other inside differs => ?_
      · obtain rfl := Table.eq_of_key inside (Store.saga_found.mp present).1 same
        exact settled
      · exact congrArg (fun effects => effects.any (expired now)) (elsewhere _ differs)
    · intro first inside second inside' one two
      exact Table.eq_of_key (List.mem_of_mem_filter inside) (List.mem_of_mem_filter inside')
        (queueOrder_antisymm one two)

end One

/-! ### The loop -/

/-- **These sagas went under review**, each with its activity row, and the rest of the store stands
still. -/
structure Reviews (now : Timestamp) (actor : String) (activityId : Nat → Uuid) (changed : List SagaRow)
    (before after : Store) : Prop where
  each : ∀ index row, changed[index]? = some row → ∃ effect,
    (before.effectsOf row.provisioningId).filter (expired now) = [effect] ∧
      Reviewed now actor (activityId index) row effect before after
  spares : Spares now (changed.map fun row => row.provisioningId) before after

namespace Spares

variable {now : Timestamp} {first second : List Uuid} {before middle after : Store}

theorem refl (store : Store) : Spares now [] store store :=
  ⟨fun _ _ => rfl, fun _ _ => rfl, fun _ _ => rfl, rfl⟩

/-- What two parts spare, both spare. -/
theorem trans (one : Spares now first before middle) (two : Spares now second middle after) :
    Spares now (first ++ second) before after := by
  refine ⟨fun id outside => ?_, fun id outside => ?_, fun id spared => ?_, ?_⟩
  · rw [List.mem_append, not_or] at outside
    rw [two.saga id outside.2, one.saga id outside.1]
  · rw [List.mem_append, not_or] at outside
    rw [two.activity id outside.2, one.activity id outside.1]
  · have still : middle.effect id = before.effect id := one.effect id fun effect found expires inside =>
      spared effect found expires (List.mem_append_left _ inside)
    rw [two.effect id fun effect found expires inside => spared effect (still ▸ found) expires
      (List.mem_append_right _ inside), still]
  · rw [two.mutations, one.mutations]

end Spares

section Loop

variable {store middle final : Store} {now : Timestamp} {actor : String} {row : SagaRow}

/-- One more saga under review, before the others. -/
theorem Reviews.next {activityId : Nat → Uuid} {effect : EffectRow} {changed : List SagaRow}
    (single : (store.effectsOf row.provisioningId).filter (expired now) = [effect])
    (reviewed : Reviewed now actor (activityId 0) row effect store middle)
    (spares : Spares now [row.provisioningId] store middle)
    (elsewhere : ∀ id, id ≠ row.provisioningId → middle.effectsOf id = store.effectsOf id)
    (others : Reviews now actor (fun index => activityId (index + 1)) changed middle final)
    (absent : row.provisioningId ∉ changed.map fun other => other.provisioningId) :
    Reviews now actor activityId (row :: changed) store final := by
  constructor
  · intro index other found
    cases index with
    | zero =>
      obtain rfl : row = other := Option.some.inj found
      refine ⟨effect, single, ?_, ?_, ?_⟩
      · rw [others.spares.saga _ absent, reviewed.saga]
      · rw [others.spares.effect effect.effectId, reviewed.focus]
        intro still here expires
        rw [reviewed.focus] at here
        cases here
        cases expires
      · obtain ⟨fence, leased, noted⟩ := reviewed.activity
        exact ⟨fence, leased, by rw [others.spares.activity _ absent, noted]⟩
    | succ index =>
      have later : changed[index]? = some other := found
      obtain ⟨focus, alone, goes⟩ := others.each index other later
      have differs : other.provisioningId ≠ row.provisioningId := by
        intro same
        exact absent (same ▸ List.mem_map_of_mem (List.mem_of_getElem? later))
      rw [elsewhere _ differs] at alone
      refine ⟨focus, alone, goes.saga, goes.focus, ?_⟩
      obtain ⟨fence, leased, noted⟩ := goes.activity
      refine ⟨fence, leased, ?_⟩
      rw [noted, spares.activity _ fun inside => differs (List.mem_singleton.mp inside)]
  · exact spares.trans others.spares

/-- **Alone, the loop puts the first expired sagas under review**, as many as it may, and takes them off
the queue. -/
theorem quarantineLoop_exact {activityId : Nat → Uuid} {fuel quarantined : Nat} (all : AllCoherent store)
    (checked : Checked store) (room : ∀ row ∈ store.sagas.rows,
      row.status = .running ∨ row.status = .cleanupRunning → row.revision < 9223372036854775807)
    (fresh : ∀ index, quarantined ≤ index → index < quarantined + fuel →
      store.activity.find (activityId index) = none)
    (distinct : ∀ first second, first < second → second < quarantined + fuel →
      activityId first ≠ activityId second) :
    ∃ final, alone (quarantineLoop now actor activityId fuel quarantined) store =
        .ok (quarantined + min fuel (store.expiredSagas now).length, final) ∧
      Reviews now actor (fun index => activityId (quarantined + index))
        ((store.expiredSagas now).take fuel) store final ∧
      final.expiredSagas now = (store.expiredSagas now).drop fuel := by
  induction fuel generalizing store quarantined with
  | zero =>
    refine ⟨store, by rw [Nat.zero_min]; rfl, ⟨fun index row found => ?_, .refl store⟩, rfl⟩
    rw [List.take_zero] at found
    cases found
  | succ fuel ih =>
    rw [quarantineLoop_alone, first_hasExpired all]
    cases queue : store.expiredSagas now with
    | nil =>
      refine ⟨store, rfl, ⟨fun index row found => ?_, .refl store⟩, ?_⟩
      · cases found
      · exact queue
    | cons row rest =>
      have scanned : store.first (hasExpired now) = some row := by
        rw [first_hasExpired all, queue]
        rfl
      obtain ⟨present, late⟩ := Store.first_some scanned
      have running := of_decide_eq_true (Bool.and_eq_true_iff.mp late).1
      have spacious := room row (Store.saga_found.mp present).1 running
      have unused := fresh quarantined le_rfl (by omega)
      obtain ⟨value, middle, ran⟩ := postgres.run_commits computed_answers fun error =>
        @quarantineSaga_safe store now actor (activityId quarantined) row error checked present
          spacious unused late
      have committed := postgres.commits_of_run computed_answers ran
      obtain ⟨-, leaves⟩ := @admitted_quarantineSaga store now actor row _ checked present spacious
        unused
      obtain ⟨room', fresh'⟩ :=
        quarantined_ready room fresh distinct (leaves value middle committed)
      obtain ⟨effect, single, reviewed, spares, elsewhere, left⟩ :=
        quarantineSaga_reviews all present committed
      have keys := @expiredSagas_nodup store now
      rw [queue, List.map_cons, List.nodup_cons] at keys
      have shorter : middle.expiredSagas now = rest := by
        rw [left, queue, List.filter_cons_of_neg (by simp), List.filter_eq_self]
        intro other inside
        exact decide_eq_true fun same => keys.1 (same ▸ List.mem_map_of_mem inside)
      have all' : AllCoherent middle := by
        obtain ⟨saga, shows, coherent⟩ := all _ row present
        have same : saga.row = row := Option.some.inj (shows.row.symm.trans present)
        rw [← same] at committed
        obtain ⟨_, _, moves, -, -⟩ := quarantineSaga_moves shows coherent committed
        exact moves.allCoherent all
      obtain ⟨final, more, reviews, drained⟩ := @ih middle (quarantined + 1) all'
        (Checked.of_commits committed checked) room' fresh'
          fun first second less small => distinct first second less (by omega)
      rw [shorter] at more reviews drained
      refine ⟨final, ?_, ?_, drained⟩
      · simp only [List.head?_cons, alone, ran]
        show alone _ _ = _
        rw [more, List.length_cons]
        congr 2
        omega
      · rw [List.take_succ_cons]
        refine .next single reviewed spares elsewhere ?_ fun inside => ?_
        · have shift : (fun index => activityId (quarantined + (index + 1))) =
              fun index => activityId (quarantined + 1 + index) := by
            funext index
            congr 1
            omega
          rw [shift]
          exact reviews
        · obtain ⟨other, taken, same⟩ := List.mem_map.mp inside
          exact keys.1 (same ▸ List.mem_map_of_mem (List.mem_of_mem_take taken))

end Loop

end OrganizationProvisioning
