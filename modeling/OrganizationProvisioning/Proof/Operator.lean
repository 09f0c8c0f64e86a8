/-
**The public operations are steps of the machine.**

* `start_begins` — an executed start begins a saga; `retry_moves` — an executed retry resolves the
  first unfinished effect; `requestCleanup_moves` — an executed cleanup request starts the cleanup.
* Each of them is a replay instead exactly when its key was reserved before (`Replays`); executed,
  it reserves its key with its response (`Reserves`).
-/
import OrganizationProvisioning.Proof.Worker

namespace OrganizationProvisioning

open Relational Transactional Worklist

/-- A row holds the response of a completed request. -/
structure Holds (row : MutationRow) (operation : Operation) (actor : String)
    (requestHash : List UInt8) (response : ProvisioningView) : Prop where
  operation_eq : row.operation = operation
  actor_eq : row.actorSubject = actor
  hash_eq : row.requestHash = requestHash
  status_eq : row.status = .completed
  response_eq : row.response = some response.toJson

/-- **An executed request reserves its key with its response.** -/
structure Reserves (caller key : String) (operation : Operation) (actor : String)
    (requestHash : List UInt8) (response : ProvisioningView) (before after : Store) : Prop where
  fresh : before.mutation caller key = none
  holds : ∃ row, after.mutation caller key = some row ∧
    Holds row operation actor requestHash response
  others : ∀ otherCaller otherKey, ¬ (otherCaller = caller ∧ otherKey = key) →
    after.mutation otherCaller otherKey = before.mutation otherCaller otherKey

/-- **A replayed request** reads its response and changes nothing. -/
def Replays (caller key : String) (operation : Operation) (actor : String)
    (requestHash : List UInt8) (response : ProvisioningView) (before after : Store) : Prop :=
  after = before ∧ ∃ row, before.mutation caller key = some row ∧
    Answered row operation actor requestHash response

/-- Every effect and every activity row belongs to a saga. -/
structure Owned (store : Store) : Prop where
  effects : ∀ effect ∈ store.effects.rows, (store.saga effect.provisioningId).isSome
  activity : ∀ note ∈ store.activity.rows, (store.saga note.provisioningId).isSome

theorem Owned.effectsOf_nil {store : Store} (owned : Owned store) {id : Uuid}
    (absent : store.saga id = none) : store.effectsOf id = [] := by
  unfold Store.effectsOf
  rw [List.filter_eq_nil_iff]
  intro effect member same
  have present := owned.effects effect member
  rw [of_decide_eq_true same, absent] at present
  cases present

theorem Owned.activityOf_nil {store : Store} (owned : Owned store) {id : Uuid}
    (absent : store.saga id = none) : store.activityOf id = [] := by
  unfold Store.activityOf
  rw [List.filter_eq_nil_iff]
  intro note member same
  have present := owned.activity note member
  rw [of_decide_eq_true same, absent] at present
  cases present

theorem Shows.setMutation {store : Store} {id : Uuid} {saga : Saga} (shows : Shows store id saga)
    (caller key : String) (change : MutationOutcome → MutationOutcome) :
    Shows (store.setMutation caller key change) id saga :=
  ⟨shows.row, shows.effects, shows.activity⟩

/-- **The view of a coherent saga** is the rendering of its row and its effects. -/
theorem loadView_shown {store final : Store} {id : Uuid} {saga : Saga} (shows : Shows store id saga)
    (coherent : Coherent saga) {actor : String} {view : ProvisioningView}
    (committed : postgres.Commits (loadView id actor) store (some view) final) :
    saga.row.requestedBy = actor ∧ renderView saga.row saga.effects = some view ∧
      final = store := by
  obtain ⟨row, present, owner, rendered, rfl⟩ := commits_loadView.mp committed
  rw [shows.row] at present
  cases present
  unfold Store.stepsOf at rendered
  rw [shows.effects, coherent.orderBy_effects] at rendered
  exact ⟨owner, rendered, rfl⟩

/-! ### Keys -/

section Keys

variable {store final : Store} {now : Timestamp} {caller key actor : String}
  {operation : Operation} {requestHash : List UInt8} {provisioningId : Option Uuid}
  {response : ProvisioningView}

/-- The key a transaction has just reserved. -/
theorem mutation_reserved (fresh : store.mutation caller key = none) :
    (store.addMutation (reservation now caller key operation actor requestHash
      provisioningId)).mutation caller key =
        some (reservation now caller key operation actor requestHash provisioningId) := by
  rw [mutation_addMutation, fresh, Option.none_or, if_pos ⟨rfl, rfl⟩]

theorem mutation_added {otherCaller otherKey : String}
    (differs : ¬ (otherCaller = caller ∧ otherKey = key)) :
    (store.addMutation (reservation now caller key operation actor requestHash
      provisioningId)).mutation otherCaller otherKey = store.mutation otherCaller otherKey := by
  rw [mutation_addMutation, if_neg, Option.or_none]
  rintro ⟨rfl, rfl⟩
  exact differs ⟨rfl, rfl⟩

theorem mutation_of_eq {other : Store} (same : other.mutations = store.mutations)
    (caller key : String) : other.mutation caller key = store.mutation caller key := by
  unfold Store.mutation
  rw [same]

/-- Reserving a key and completing it, with other tables written between. -/
theorem reserves_of {middle : Store} {row : MutationRow}
    (fresh : store.mutation caller key = none)
    (kept : ∀ otherCaller otherKey, ¬ (otherCaller = caller ∧ otherKey = key) →
      middle.mutation otherCaller otherKey = store.mutation otherCaller otherKey)
    (found : middle.mutation caller key = some row) (same : row.operation = operation)
    (by_ : row.actorSubject = actor) (hash : row.requestHash = requestHash) :
    Reserves caller key operation actor requestHash response store
      (middle.setMutation caller key (completed response)) := by
  refine ⟨fresh, ⟨row.set (completed response), ?_, same, by_, hash, rfl, rfl⟩, ?_⟩
  · rw [mutation_setMutation, if_pos ⟨rfl, rfl⟩, found]
    rfl
  · intro otherCaller otherKey differs
    rw [mutation_setMutation, if_neg differs, kept otherCaller otherKey differs]

end Keys

/-! ### Start -/

section Start

variable {store final : Store} {now : Timestamp} {ids : StartIds} {input : StartInput}
  {response : ProvisioningView}

/-- The rows a start inserts are the planned effects. -/
theorem grantRows_planned : createEffect now ids.createEffectId input.provisioningId ::
    grantRows now input.provisioningId ids.grantEffectId 0 input.grants =
      plannedEffects now ids input := by
  rw [grantRows_eq]
  unfold plannedEffects
  congr 2
  funext index grant
  rw [Nat.zero_add]

/-- The store of a start before it inserts effects: the key is reserved and names the new saga. -/
def Store.opened (store : Store) (now : Timestamp) (input : StartInput) : Store :=
  ((store.addMutation (reservation now input.caller input.idempotencyKey .start input.actor
    input.requestHash none)).addSaga (newSaga now input)).setMutation input.caller
      input.idempotencyKey fun old => { old with provisioningId := some input.provisioningId }

theorem saga_opened (other : Uuid) : (store.opened now input).saga other =
    (store.saga other).or
      (if input.provisioningId = other then some (newSaga now input) else none) := by
  unfold Store.opened
  rw [saga_setMutation, saga_addSaga, saga_addMutation]
  rfl

theorem mutation_opened (fresh : store.mutation input.caller input.idempotencyKey = none) :
    (store.opened now input).mutation input.caller input.idempotencyKey =
      some (reservation now input.caller input.idempotencyKey .start input.actor
        input.requestHash (some input.provisioningId)) := by
  unfold Store.opened
  rw [mutation_setMutation, if_pos ⟨rfl, rfl⟩, mutation_addSaga, mutation_reserved fresh]
  rfl

theorem mutation_opened_other {caller key : String}
    (differs : ¬ (caller = input.caller ∧ key = input.idempotencyKey)) :
    (store.opened now input).mutation caller key = store.mutation caller key := by
  unfold Store.opened
  rw [mutation_setMutation, if_neg differs, mutation_addSaga, mutation_added differs]

theorem elsewhere_opened : Elsewhere input.provisioningId store (store.opened now input) := by
  refine ⟨fun other differs => ?_, fun _ _ => rfl, fun _ _ => rfl⟩
  rw [saga_opened, if_neg (Ne.symm differs), Option.or_none]

/-- The store of a start when it loads its view. -/
def Store.filled (store : Store) (now : Timestamp) (ids : StartIds) (input : StartInput)
    (note : ActivityRow) : Store :=
  ((store.opened now input).addEffects (plannedEffects now ids input)).addActivity note

theorem mutation_filled {note : ActivityRow} (caller key : String) :
    (store.filled now ids input note).mutation caller key =
      (store.opened now input).mutation caller key :=
  mutation_addActivity.trans (mutation_addEffects caller key)

/-- The effects and the activity row of a start make the first state of its saga. -/
theorem filled_begins {note : ActivityRow} (owned : Owned store)
    (absent : store.saga input.provisioningId = none)
    (admits : AdmitsAll (store.opened now input) (plannedEffects now ids input))
    (admitsNote : AdmitsActivity ((store.opened now input).addEffects
      (plannedEffects now ids input)) note)
    (noted : note.provisioningId = input.provisioningId ∧ note.provisioningRevision = 1 ∧
      note.createdAt = now) :
    ∃ saga, Saga.Begins now ids input saga ∧
      Shows (store.filled now ids input note) input.provisioningId saga ∧
      Elsewhere input.provisioningId store (store.filled now ids input note) := by
  have owner : ∀ row ∈ plannedEffects now ids input, row.provisioningId = input.provisioningId :=
    fun row member => (Saga.mem_plannedEffects member).2
  refine ⟨⟨newSaga now input, plannedEffects now ids input, [], [note]⟩,
    ⟨rfl, rfl, rfl, note, rfl, noted⟩, ⟨?_, ?_, ?_⟩, ?_⟩ <;> unfold Store.filled
  · rw [saga_addActivity, saga_addEffects, saga_opened, absent, if_pos rfl, Option.none_or]
  · rw [effectsOf_addActivity, effectsOf_addEffects admits owner, if_pos rfl,
      show (store.opened now input).effectsOf _ = [] from owned.effectsOf_nil absent,
      List.nil_append, Saga.effects, List.append_nil]
  · rw [activityOf_addActivity admitsNote.fresh, activityOf_addEffects,
      show (store.opened now input).activityOf _ = [] from owned.activityOf_nil absent,
      if_pos noted.1, List.nil_append]
  · exact (elsewhere_opened.trans (Elsewhere.addEffects admits owner)).trans
      (Elsewhere.addActivity admitsNote.fresh noted.1)

/-- **A call of `start`** replays its response, or begins a saga and reserves its key. -/
theorem start_begins (owned : Owned store)
    (committed : postgres.Commits (start now ids input) store response final) :
    Replays input.caller input.idempotencyKey .start input.actor input.requestHash response store
        final ∨
      ∃ saga, store.saga input.provisioningId = none ∧ Saga.Begins now ids input saga ∧
        Shows final input.provisioningId saga ∧ Elsewhere input.provisioningId store final ∧
        renderView saga.row saga.effects = some response ∧
        Reserves input.caller input.idempotencyKey .start input.actor input.requestHash response
          store final := by
  unfold start at committed
  simp only [Tx.bind_eq, Tx.pure_eq, Engine.commits_bind] at committed
  obtain ⟨replay, middle, begun, rest⟩ := committed
  cases replay with
  | replay stored =>
    obtain ⟨rfl, rfl⟩ := rest
    exact Or.inl (commits_beginMutation_replay.mp begun)
  | execute =>
    obtain ⟨fresh, -, rfl⟩ := commits_beginMutation_execute.mp begun
    simp only [Engine.commits_bind, Engine.commits_pure, commits_insertSaga, commits_insertEffect,
      commits_insertGrants, commits_activity, commits_expect] at rest
    obtain ⟨_, _, ⟨⟨checkedSaga, newSagaId⟩, rfl⟩, _, _, attached, _, _, ⟨admitsCreate, rfl⟩, _, _,
      ⟨-, admitsGrants, rfl⟩, _, _, ⟨admitsNote, rfl⟩, loaded, _, load, _, _, ⟨rfl, rfl⟩, _, _,
      completion, rfl, rfl⟩ := rest
    rw [commits_updateMutation (by rw [mutation_addSaga]; exact mutation_reserved fresh) rfl]
      at attached
    obtain ⟨-, -, rfl⟩ := attached
    have admits : AdmitsAll (store.opened now input) (plannedEffects now ids input) := by
      rw [← grantRows_planned]
      exact ⟨admitsCreate, admitsGrants⟩
    have rows : ((store.opened now input).addEffect (createEffect now ids.createEffectId
        input.provisioningId)).addEffects (grantRows now input.provisioningId ids.grantEffectId 0
          input.grants) = (store.opened now input).addEffects (plannedEffects now ids input) := by
      rw [← grantRows_planned]
      rfl
    change AdmitsActivity (((store.opened now input).addEffect _).addEffects _) _ at admitsNote
    change postgres.Commits _ ((((store.opened now input).addEffect _).addEffects
      _).addActivity _) _ _ at load
    rw [rows] at admitsNote load
    obtain ⟨saga, begins, shows, elsewhere⟩ :=
      filled_begins owned newSagaId admits admitsNote ⟨rfl, rfl, rfl⟩
    obtain ⟨-, rendered, rfl⟩ := loadView_shown shows begins.coherent load
    have found : ∀ note, (store.filled now ids input note).mutation input.caller
        input.idempotencyKey = _ := fun note => (mutation_filled _ _).trans (mutation_opened fresh)
    obtain ⟨-, rfl⟩ := (commits_completeMutation (found _) rfl).mp completion
    refine Or.inr ⟨saga, newSagaId, begins, shows.setMutation _ _ _,
      elsewhere.trans (Elsewhere.setMutation _ _ _), rendered,
      reserves_of fresh (fun caller key differs => ?_) (found _) rfl rfl rfl⟩
    exact (mutation_filled _ _).trans (mutation_opened_other differs)

end Start

/-! ### Retry -/

section Retry

variable {store final : Store} {now : Timestamp} {input : RetryInput} {activityId : Uuid}
  {saga : SagaRow} {effect : EffectRow}

/-- What a resolution may find: the effect in doubt of a saga under review, or the failed effect of
a failed saga. -/
def Resolvable (input : RetryInput) (saga : SagaRow) (effect : EffectRow) : Prop :=
  (saga.status = .manualReview ∧ effect.state = .unknown) ∨
    ((saga.status = .failed ∨ saga.status = .cleanupFailed) ∧ input.resolution = .retryFailed ∧
      effect.state = .failed)

theorem commits_retriedEffect
    (committed : postgres.Commits (retriedEffect input saga) store effect final) :
    final = store ∧ effect ∈ store.effectsOf input.provisioningId ∧
      Resolvable input saga effect := by
  unfold retriedEffect at committed
  split at committed
  · rename_i review
    simp only [Tx.bind_eq, Engine.commits_bind, commits_selectEffects, commits_expect] at committed
    obtain ⟨_, store, ⟨rfl, rfl⟩, head, rfl⟩ := committed
    have member := List.mem_of_mem_head? (Option.mem_def.mpr head)
    rw [mem_orderBy, List.mem_filter, decide_eq_true_eq] at member
    exact ⟨rfl, member.1, Or.inl ⟨review, member.2⟩⟩
  · split at committed
    · rename_i failed
      simp only [Tx.bind_eq, Engine.commits_bind, commits_require, commits_selectEffects,
        commits_expect, decide_eq_true_eq] at committed
      obtain ⟨_, _, ⟨resolution, rfl⟩, _, store, ⟨rfl, rfl⟩, head, rfl⟩ := committed
      have member := List.mem_of_mem_head? (Option.mem_def.mpr head)
      rw [mem_orderBy, List.mem_filter, decide_eq_true_eq] at member
      exact ⟨rfl, member.1, Or.inr ⟨failed, resolution, member.2⟩⟩
    · exact committed.elim

/-- A manual confirmation writes what a success writes. -/
theorem commits_confirmApplied {value : Unit}
    (committed : postgres.Commits (confirmApplied now input effect) store value final) :
    ∃ outcome : EffectOutcome, outcome.fits effect.kind = true ∧ outcome.succeeds = true ∧
      final = (store.setEffects (fun row => row.effectId = effect.effectId &&
        decide (row.state = .unknown)) (outcome.write now)).setSaga input.provisioningId
          (.recordedIf outcome.organization) := by
  unfold confirmApplied at committed
  cases kind : effect.kind with
  | createOrganization =>
    rw [kind] at committed
    simp only at committed
    split at committed
    · rename_i organizationId ownerMembershipId _ _ _
      simp only [Tx.bind_eq, Tx.pure_eq, Engine.commits_bind, Engine.commits_pure,
        commits_updateEffect, commits_updateSaga] at committed
      obtain ⟨_, _, ⟨-, -, rfl⟩, _, _, ⟨-, -, rfl⟩, -, rfl⟩ := committed
      exact ⟨.organizationApplied organizationId ownerMembershipId _, rfl, rfl, rfl⟩
    · exact committed.elim
  | putEntitlement =>
    rw [kind] at committed
    simp only at committed
    split at committed
    · rename_i grantId _ _ _
      simp only [Tx.bind_eq, Tx.pure_eq, Engine.commits_bind, Engine.commits_pure,
        commits_updateEffect] at committed
      obtain ⟨_, _, ⟨-, -, rfl⟩, -, rfl⟩ := committed
      exact ⟨.entitlementApplied grantId _, rfl, rfl, (setSaga_none _ _).symm⟩
    · exact committed.elim
  | revokeEntitlement =>
    rw [kind] at committed
    simp only [Tx.bind_eq, Tx.pure_eq, Engine.commits_bind, Engine.commits_pure, commits_require,
      commits_updateEffect] at committed
    obtain ⟨_, _, ⟨-, rfl⟩, _, _, ⟨-, -, rfl⟩, -, rfl⟩ := committed
    exact ⟨.compensated _, rfl, rfl, (setSaga_none _ _).symm⟩

/-- **A resolution turns the effect it resolves.** -/
theorem commits_resolveEffect {value : Unit} (resolvable : Resolvable input saga effect)
    (committed : postgres.Commits (resolveEffect now input saga effect) store value final) :
    ∃ (condition : EffectRow → Bool) (change : EffectProgress → EffectProgress)
        (organization : Option (String × String)), condition effect = true ∧
      Turn now effect (.retry effect.effectId input.resolution) (change effect.toEffectProgress)
        organization ∧ (change effect.toEffectProgress).state ≠ .inFlight ∧
      final = (store.setEffects (fun row => row.effectId = effect.effectId && condition row)
        change).setSaga input.provisioningId (.recordedIf organization) := by
  unfold resolveEffect at committed
  cases resolution : input.resolution with
  | retryFailed =>
    rw [resolution] at committed
    simp only [Tx.bind_eq, Engine.commits_bind, commits_require, Bool.and_eq_true,
      decide_eq_true_eq, resetEffectToPending, commits_updateEffect, Tx.pure_eq,
      Engine.commits_pure] at committed
    obtain ⟨_, _, ⟨⟨open_, -⟩, rfl⟩, _, _, ⟨-, -, rfl⟩, -, rfl⟩ := committed
    rcases resolvable with ⟨review, -⟩ | ⟨-, -, failed⟩
    · exact absurd review open_
    · exact ⟨_, _, none, by simp [failed], .retryFailed failed, by simp [EffectProgress.reset],
        (setSaga_none _ _).symm⟩
  | confirmNotApplied =>
    rw [resolution] at committed
    simp only [Tx.bind_eq, Engine.commits_bind, commits_require, Bool.and_eq_true,
      decide_eq_true_eq, resetEffectToPending, commits_updateEffect, Tx.pure_eq,
      Engine.commits_pure] at committed
    obtain ⟨_, _, ⟨⟨review, -⟩, rfl⟩, _, _, ⟨-, -, rfl⟩, -, rfl⟩ := committed
    rcases resolvable with ⟨-, doubted⟩ | ⟨-, other, -⟩
    · exact ⟨_, _, none, by simp [doubted], .confirmNotApplied doubted,
        by simp [EffectProgress.reset], (setSaga_none _ _).symm⟩
    · rw [resolution] at other
      cases other
  | confirmApplied =>
    rw [resolution] at committed
    obtain ⟨outcome, fits, succeeds, rfl⟩ := commits_confirmApplied committed
    rcases resolvable with ⟨-, doubted⟩ | ⟨-, other, -⟩
    · refine ⟨_, _, _, by simp [doubted], .confirmApplied outcome doubted fits succeeds, ?_, rfl⟩
      rw [EffectOutcome.state_succeeds fits succeeds]
      cases effect.kind.isMain <;> simp [finishedState]
    · rw [resolution] at other
      cases other

/-- What a resolution may find is the first unfinished effect of the phase. -/
theorem Resolvable.split {saga : Saga} (resolvable : Resolvable input saga.row effect)
    (coherent : Coherent saga) (member : effect ∈ saga.effects) :
    ∃ past rest, Split (stage saga.row.cleanupRequested) saga.phase past effect rest := by
  rcases resolvable with ⟨-, doubted⟩ | ⟨failed, -, broken⟩
  · exact coherent.split_of_state member (Or.inr doubted)
  · exact coherent.split_of_failed failed member broken

/-- **A resolution, the status refresh and the activity row turn the saga.** -/
theorem resolved_turned {id : Uuid} {saga : Saga} {middle refreshed : Store} {value done : Unit}
    {revision : Int} {kind : ActivityKind} {actor : String} {evidence : Json}
    (names : input.provisioningId = id) (shows : Shows store id saga) (coherent : Coherent saga)
    (resolvable : Resolvable input saga.row effect) {past rest : List EffectRow}
    (split : Split (stage saga.row.cleanupRequested) saga.phase past effect rest)
    (resolved : postgres.Commits (resolveEffect now input saga.row effect) store value middle)
    (refresh : postgres.Commits (refreshSagaStatus now id true) middle revision refreshed)
    (noted : postgres.Commits (insertActivity now activityId id (some effect.effectId) kind actor
      revision evidence) refreshed done final) :
    ∃ saga', Saga.Step now saga (.retry effect.effectId input.resolution) saga' ∧
      Shows final id saga' ∧ Elsewhere id store final ∧ final.mutations = store.mutations := by
  subst names
  obtain ⟨condition, change, organization, holds, turn, landed, rfl⟩ :=
    commits_resolveEffect resolvable resolved
  obtain ⟨note, records, shown, elsewhere, kept⟩ := refreshed_turned coherent shows.id_eq split
    turn landed (by rw [saga_setSaga, if_pos rfl, saga_setEffects, shows.row]; rfl)
    (fun note => by
      rw [effectsOf_setSaga]
      exact effectsOf_turned shows split holds change note)
    (by rw [activityOf_setSaga, activityOf_setEffects, shows.activity]) refresh noted
  exact ⟨_, .turn split turn records, shown,
    ((elsewhere_turned shows coherent split _).trans (Elsewhere.setSaga _)).trans elsewhere, kept⟩

/-- **A call of `retry`** replays its response, or turns the first unfinished effect of the saga
and reserves its key. -/
theorem retry_moves (all : AllCoherent store) {response : ProvisioningView}
    (committed : postgres.Commits (retry now activityId input) store response final) :
    Replays input.caller input.idempotencyKey .retry input.actor input.requestHash response store
        final ∨
      ∃ effect saga saga', Moves now (.retry effect.effectId input.resolution)
          input.provisioningId store final saga saga' ∧ effect ∈ saga.phase ∧
        saga.row.requestedBy = input.actor ∧ saga.row.revision = input.expectedRevision ∧
        Resolvable input saga.row effect ∧
        renderView saga'.row saga'.effects = some response ∧
        Reserves input.caller input.idempotencyKey .retry input.actor input.requestHash response
          store final := by
  unfold retry at committed
  simp only [Tx.bind_eq, Tx.pure_eq, Engine.commits_bind, lockSaga, commits_lockSaga,
    commits_expect] at committed
  obtain ⟨_, _, ⟨rfl, rfl⟩, row, store, ⟨locked, rfl⟩, replay, middle, begun, rest⟩ := committed
  cases replay with
  | replay stored =>
    obtain ⟨rfl, rfl⟩ := rest
    exact Or.inl (commits_beginMutation_replay.mp begun)
  | execute =>
    obtain ⟨fresh, -, rfl⟩ := commits_beginMutation_execute.mp begun
    simp only [Engine.commits_bind, Engine.commits_pure, commits_require, commits_expect,
      decide_eq_true_eq] at rest
    obtain ⟨_, _, ⟨current, rfl⟩, effect, _, retried, _, _, resolved, revision, _, refresh, _, _,
      noted, loaded, _, load, _, _, ⟨rfl, rfl⟩, _, _, completion, rfl, rfl⟩ := rest
    obtain ⟨present, owner⟩ := Option.filter_eq_some_iff.mp locked
    obtain ⟨saga, shows, coherent⟩ := all _ row present
    have same : saga.row = row := Option.some.inj (shows.row.symm.trans present)
    obtain ⟨rfl, member, resolvable⟩ := commits_retriedEffect retried
    rw [effectsOf_addMutation, shows.effects] at member
    have reserved : Shows (store.addMutation (reservation now input.caller input.idempotencyKey
        .retry input.actor input.requestHash (some input.provisioningId))) input.provisioningId
          saga := ⟨shows.row, shows.effects, shows.activity⟩
    rw [← same] at resolvable resolved
    obtain ⟨past, rest, split⟩ :=
      resolvable.split coherent member
    obtain ⟨saga', step, shown, elsewhere, kept⟩ :=
      resolved_turned rfl reserved coherent resolvable split resolved refresh noted
    obtain ⟨-, rendered, rfl⟩ := loadView_shown shown (step.coherent coherent) load
    have found := (mutation_of_eq kept input.caller input.idempotencyKey).trans
      (mutation_reserved fresh)
    obtain ⟨-, rfl⟩ := (commits_completeMutation found rfl).mp completion
    refine Or.inr ⟨effect, saga, saga', ⟨shows, coherent, step, shown.setMutation _ _ _, ?_⟩,
      split.focus_mem, ?_, ?_, resolvable, rendered,
      reserves_of fresh (fun caller key differs => ?_) found rfl rfl rfl⟩
    · exact ((Elsewhere.addMutation _).trans elsewhere).trans (Elsewhere.setMutation _ _ _)
    · rw [same]
      simpa using owner
    · rw [same]
      exact current
    · exact (mutation_of_eq kept caller key).trans (mutation_added differs)

end Retry

/-! ### Cleanup -/

section Cleanup

variable {store final : Store} {now : Timestamp} {input : CleanupInput} {effectId : Nat → Uuid}
  {activityId : Uuid}

/-- Skipping grants, inserting revocations and marking the saga leave the mutations alone. -/
theorem mutation_cleaning {selected : EffectRow → Bool} {change : EffectProgress → EffectProgress}
    {revokes : List EffectRow} {id : Uuid} {mark : SagaProgress → SagaProgress}
    {caller key : String} :
    (((store.setEffects selected change).addEffects revokes).setSaga id mark).mutation caller key =
      store.mutation caller key :=
  mutation_addEffects caller key

/-- Skipping the unfinished grants of a saga skips them among its effects. -/
theorem effectsOf_skipped {saga : Saga} {id : Uuid} (shows : Shows store id saga)
    (unrequested : saga.revokes = []) :
    (store.setEffects (fun row => row.provisioningId = id &&
        decide (row.kind = .putEntitlement ∧ (row.state = .pending ∨ row.state = .failed)))
      (.skipped now)).effectsOf id = saga.mains.map (skipUnfinished now) := by
  rw [effectsOf_setEffects, shows.effects, Saga.effects, unrequested, List.append_nil]
  refine List.map_congr_left fun row member => ?_
  have owner : row.provisioningId = id := by
    have inside : row ∈ store.effectsOf id := by
      rw [shows.effects]
      exact List.mem_append_left _ member
    exact (Store.mem_effectsOf.mp inside).2
  unfold skipUnfinished
  by_cases unfinished : row.kind = .putEntitlement ∧ (row.state = .pending ∨ row.state = .failed)
  · rw [if_pos unfinished, if_pos]
    simp only [owner, decide_true, Bool.true_and]
    exact decide_eq_true unfinished
  · rw [if_neg unfinished, if_neg]
    simp only [Bool.and_eq_true, decide_eq_true_eq]
    exact fun chosen => unfinished chosen.2

/-- **The status refresh and the activity row end a cleanup request.** -/
theorem refreshed_cleaned {saga : Saga} {id : Uuid} {middle refreshed : Store}
    {revokes : List EffectRow} {actor : String} {evidence : Json} {revision : Int} {value : Unit}
    (coherent : Coherent saga) (owner : saga.row.provisioningId = id)
    (unrequested : saga.row.cleanupRequested = false)
    (stopped : saga.row.status = .completed ∨ saga.row.status = .failed)
    (compensated : List.Forall₂ (Revokes now) (saga.mains.filter granted) revokes)
    (row : middle.saga id = some (saga.row.set .cleanupMarked))
    (effects : middle.effectsOf id = saga.mains.map (skipUnfinished now) ++ revokes)
    (activity : middle.activityOf id = saga.activity)
    (refresh : postgres.Commits (refreshSagaStatus now id true) middle revision refreshed)
    (noted : postgres.Commits (insertActivity now activityId id none .cleanupRequested actor
      revision evidence) refreshed value final) :
    ∃ note, Records now saga.row note ∧ Shows final id (saga.cleaned now revokes note) ∧
      Elsewhere id middle final ∧ final.mutations = middle.mutations := by
  obtain ⟨found, present, -, rfl, rfl⟩ := commits_refreshSagaStatus.mp refresh
  rw [row] at present
  cases present
  obtain ⟨admits, rfl⟩ := commits_activity.mp noted
  have records : Records now saga.row (activityRow now activityId id none .cleanupRequested actor
      ((saga.row.set .cleanupMarked).revision + 1) evidence) := ⟨owner.symm, rfl, rfl⟩
  have placed : (activityRow now activityId id none .cleanupRequested actor
      ((saga.row.set .cleanupMarked).revision + 1) evidence).provisioningId = id := rfl
  generalize activityRow now activityId id none .cleanupRequested actor
    ((saga.row.set .cleanupMarked).revision + 1) evidence = note at admits records placed ⊢
  refine ⟨note, records, ⟨?_, ?_, ?_⟩, ?_, rfl⟩
  · have cleaned := coherent.cleaned unrequested stopped compensated records
    have summary := cleaned.summarize_eq (by
      intro effect member
      have fresh : effect ∈ revokes := member
      obtain ⟨source, -, revoked⟩ := exists_partner compensated fresh
      rw [(Coherent.mirrors_of_revokes revoked).2.1]
      decide)
    have steps : middle.stepsOf id = (saga.cleaned now revokes note).effects := by
      unfold Store.stepsOf
      rw [effects]
      exact cleaned.orderBy_effects
    rw [saga_addActivity, saga_setSaga, if_pos rfl, row, Option.map_some]
    congr 1
    unfold refreshChange
    rw [steps]
    rw [show (saga.row.set .cleanupMarked).cleanupRequested =
      (saga.cleaned now revokes note).row.cleanupRequested from rfl, summary]
    rfl
  · rw [effectsOf_addActivity, effectsOf_setSaga]
    exact effects
  · rw [activityOf_addActivity admits.fresh, activityOf_setSaga, activity, if_pos placed]
    rfl
  · exact (Elsewhere.setSaga _).trans (Elsewhere.addActivity admits.fresh placed)

/-- **Skipped grants, revocations, the mark, the status refresh and the activity row clean the
saga.** -/
theorem cleanup_cleaned {saga : Saga} {id : Uuid} {revoked refreshed : Store} {value done : Unit}
    {actor : String} {evidence : Json} {revision : Int} (shows : Shows store id saga)
    (coherent : Coherent saga) (unrequested : saga.row.cleanupRequested = false)
    (stopped : saga.row.status = .completed ∨ saga.row.status = .failed)
    (inserted : postgres.Commits (insertRevokes now effectId 0 (saga.mains.filter granted))
      (store.setEffects (fun row => row.provisioningId = id && decide
        (row.kind = .putEntitlement ∧ (row.state = .pending ∨ row.state = .failed)))
          (.skipped now)) value revoked)
    (refresh : postgres.Commits (refreshSagaStatus now id true) (revoked.setSaga id .cleanupMarked)
      revision refreshed)
    (noted : postgres.Commits (insertActivity now activityId id none .cleanupRequested actor
      revision evidence) refreshed done final) :
    ∃ saga', Saga.Step now saga .cleanup saga' ∧ Shows final id saga' ∧ Elsewhere id store final ∧
      final.mutations = store.mutations := by
  obtain ⟨revokes, paired, admits, rfl⟩ := commits_insertRevokes inserted
  have compensated : List.Forall₂ (Revokes now) (saga.mains.filter granted) revokes := by
    refine paired.imp ?_
    rintro source revoke ⟨position, subjectKind, feature, grantId, subject, named, grant, same⟩
    exact ⟨effectId position, subjectKind, feature, grantId, subject, named, grant, same⟩
  have owned : ∀ revoke ∈ revokes, revoke.provisioningId = id := by
    intro revoke member
    obtain ⟨source, inside, revoked⟩ := exists_partner compensated member
    rw [(Coherent.mirrors_of_revokes revoked).2.2, coherent.owned source
      (List.mem_append_left _ (List.mem_filter.mp inside).1), shows.id_eq]
  obtain ⟨note, records, shown, elsewhere, kept⟩ := refreshed_cleaned coherent shows.id_eq
    unrequested stopped compensated
    (by rw [saga_setSaga, if_pos rfl, saga_addEffects, saga_setEffects, shows.row]; rfl)
    (by rw [effectsOf_setSaga, effectsOf_addEffects admits owned, if_pos rfl,
      effectsOf_skipped shows (coherent.unrequested unrequested)])
    (by rw [activityOf_setSaga, activityOf_addEffects, activityOf_setEffects, shows.activity])
    refresh noted
  refine ⟨_, .cleanup unrequested stopped compensated records, shown, ?_, ?_⟩
  · refine (((Elsewhere.setEffects ?_).trans (Elsewhere.addEffects admits owned)).trans
      (Elsewhere.setSaga _)).trans elsewhere
    intro row _ chosen
    exact of_decide_eq_true (Bool.and_eq_true_iff.mp chosen).1
  · exact kept.trans mutations_addEffects

/-- **A call of `request_cleanup`** replays its response, or starts the cleanup of a stopped saga
and reserves its key. -/
theorem requestCleanup_moves (all : AllCoherent store) {response : ProvisioningView}
    (committed : postgres.Commits (requestCleanup now effectId activityId input) store response
      final) :
    Replays input.caller input.idempotencyKey .requestCleanup input.actor input.requestHash
        response store final ∨
      ∃ saga saga', Moves now .cleanup input.provisioningId store final saga saga' ∧
        saga.row.requestedBy = input.actor ∧ saga.row.revision = input.expectedRevision ∧
        renderView saga'.row saga'.effects = some response ∧
        Reserves input.caller input.idempotencyKey .requestCleanup input.actor input.requestHash
          response store final := by
  unfold requestCleanup at committed
  simp only [Tx.bind_eq, Tx.pure_eq, Engine.commits_bind, lockSaga, commits_lockSaga,
    commits_expect] at committed
  obtain ⟨_, _, ⟨rfl, rfl⟩, row, store, ⟨locked, rfl⟩, replay, middle, begun, rest⟩ := committed
  cases replay with
  | replay stored =>
    obtain ⟨rfl, rfl⟩ := rest
    exact Or.inl (commits_beginMutation_replay.mp begun)
  | execute =>
    obtain ⟨fresh, -, rfl⟩ := commits_beginMutation_execute.mp begun
    simp only [Engine.commits_bind, Engine.commits_pure, commits_require, commits_expect,
      commits_selectEffects, commits_updateEffects, commits_updateSaga, decide_eq_true_eq] at rest
    obtain ⟨_, _, ⟨current, rfl⟩, _, _, ⟨unrequested, rfl⟩, _, _, ⟨-, rfl⟩, _, _, ⟨stopped, rfl⟩,
      grants, _, ⟨rfl, rfl⟩, _, _, ⟨-, -, rfl⟩, _, _, inserted, _, _, ⟨-, -, rfl⟩, revision, _,
      refresh, _, _, noted, loaded, _, load, _, _, ⟨rfl, rfl⟩, _, _, completion, rfl, rfl⟩ := rest
    obtain ⟨present, owner⟩ := Option.filter_eq_some_iff.mp locked
    obtain ⟨saga, shows, coherent⟩ := all _ row present
    have same : saga.row = row := Option.some.inj (shows.row.symm.trans present)
    rw [← same] at unrequested stopped current owner
    have reserved : Shows (store.addMutation (reservation now input.caller input.idempotencyKey
        .requestCleanup input.actor input.requestHash (some input.provisioningId)))
          input.provisioningId saga := ⟨shows.row, shows.effects, shows.activity⟩
    have selected : orderBy ordinalOrder (((store.addMutation (reservation now input.caller
        input.idempotencyKey .requestCleanup input.actor input.requestHash
          (some input.provisioningId))).effectsOf input.provisioningId).filter fun row =>
            decide (row.kind = .putEntitlement ∧ row.state = .applied)) =
        saga.mains.filter granted := by
      rw [reserved.effects]
      exact coherent.grants_selected
    rw [selected] at inserted
    obtain ⟨saga', step, shown, elsewhere, kept⟩ := cleanup_cleaned reserved coherent
      (by simpa using unrequested) stopped inserted refresh noted
    obtain ⟨-, rendered, rfl⟩ := loadView_shown shown (step.coherent coherent) load
    have found := (mutation_of_eq kept input.caller input.idempotencyKey).trans
      (mutation_reserved fresh)
    obtain ⟨-, rfl⟩ := (commits_completeMutation found rfl).mp completion
    refine Or.inr ⟨saga, saga', ⟨shows, coherent, step, shown.setMutation _ _ _, ?_⟩, ?_, current,
      rendered, reserves_of fresh (fun caller key differs => ?_) found rfl rfl rfl⟩
    · exact ((Elsewhere.addMutation _).trans elsewhere).trans (Elsewhere.setMutation _ _ _)
    · simpa using owner
    · exact (mutation_of_eq kept caller key).trans (mutation_added differs)

end Cleanup

end OrganizationProvisioning
