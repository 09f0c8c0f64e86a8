/-
**The worker's transactions are steps of the machine.**

* `claimNext_moves` — a claim that gives out a record turns the first unfinished effect of its saga.
* `finalizeEffect_moves` — a finalization turns the effect it was called for, if that is still in
  flight under its fence, and otherwise changes nothing.
* `quarantineExpired_moves` — a quarantine turns the expired effect of one saga after the other.
-/
import OrganizationProvisioning.Proof.Shown

namespace OrganizationProvisioning

open Relational Transactional Worklist

section Claim

variable {store final : Store} {id : Uuid} {saga : Saga} {now utcNow : Timestamp}
  {actor : String} {fence activityId : Uuid} {leaseSeconds : Int}

/-- The effect a claim takes is the first unfinished one, and it is pending. -/
theorem commits_dueEffect (shows : Shows store id saga) (coherent : Coherent saga)
    (pending : saga.row.status = .pending ∨ saga.row.status = .cleanupPending)
    {effect : EffectRow}
    (committed : postgres.Commits (dueEffect saga.row) store effect final) :
    final = store ∧ effect.state = .pending ∧ ∃ past rest,
      Split (stage saga.row.cleanupRequested) saga.phase past effect rest := by
  have sorted := coherent.phase_sorted
  unfold dueEffect at committed
  rw [shows.id_eq] at committed
  cases requested : saga.row.cleanupRequested with
  | true =>
    rw [requested] at committed sorted
    simp only [if_true, Tx.bind_eq, Engine.commits_bind, commits_selectEffects,
      commits_fetchOne] at committed sorted
    obtain ⟨_, _, ⟨rfl, rfl⟩, found, rfl⟩ := committed
    rw [shows.effects] at found
    have due := coherent.due sorted pending
      (fun row => row.kind = .revokeEntitlement ∧ row.state = .pending)
      (fun row => by rw [requested]; simp [relevant]) found
    rw [requested] at due
    exact ⟨rfl, due⟩
  | false =>
    rw [requested] at committed sorted
    simp only [Bool.false_eq_true, if_false, Tx.bind_eq, Engine.commits_bind,
      commits_selectEffects, commits_fetchOne] at committed sorted
    obtain ⟨_, _, ⟨rfl, rfl⟩, found, rfl⟩ := committed
    rw [shows.effects] at found
    have due := coherent.due sorted pending
      (fun row => row.kind.isMain ∧ row.state = .pending)
      (fun row => by rw [requested]; simp [relevant]) found
    rw [requested] at due
    exact ⟨rfl, due⟩

/-- **A claim turns the first unfinished effect of its saga.** -/
theorem claimSaga_moves (shows : Shows store id saga) (coherent : Coherent saga)
    (pending : saga.row.status = .pending ∨ saga.row.status = .cleanupPending)
    {record : EffectRecord}
    (committed : postgres.Commits (claimSaga now utcNow actor fence activityId leaseSeconds
      saga.row) store record final) :
    ∃ effect saga', Moves now (.claim effect.effectId fence) id store final saga saga' ∧
      effect ∈ saga.phase ∧ record = effectRecord effect fence saga.row ∧
      final.mutations = store.mutations := by
  unfold claimSaga at committed
  simp only [Tx.bind_eq, Tx.pure_eq, Engine.commits_bind, commits_expect, commits_updateEffect,
    commits_updateSaga, commits_fetchOne, commits_activity, commits_selectSaga,
    Option.filter_all] at committed
  obtain ⟨effect, _, dueRun, leaseUntil, middle, ⟨lease, rfl⟩, leasedRow, _,
    ⟨checkedEffect, leasedEq, rfl⟩, leased, _, ⟨leasedFound, rfl⟩, updatedRow, _,
    ⟨checkedSaga, updatedEq, rfl⟩, updated, _, ⟨updatedFound, rfl⟩, _, _, ⟨admits, rfl⟩,
    inputsRow, _, ⟨inputsEq, rfl⟩, inputs, _, ⟨inputsFound, rfl⟩, rfl, rfl⟩ := committed
  obtain ⟨rfl, waits, past, rest, split⟩ := commits_dueEffect shows coherent pending dueRun
  have turn : Turn now effect (.claim effect.effectId fence)
      (effect.toEffectProgress.leased now fence leaseUntil) none :=
    .claim fence leaseUntil waits
  have running : outlook saga.row.cleanupRequested
      (past ++ effect.set (.leased now fence leaseUntil) :: rest) =
        (if saga.row.cleanupRequested then .cleanupRunning else .running, none) := by
    rw [outlook_split ⟨rfl, split.past_finished, Or.inl (stage_busy.mpr (Or.inl rfl)),
      split.rest_waiting⟩]
    rfl
  have open_ : (if saga.row.cleanupRequested then SagaStatus.cleanupRunning else .running) ≠
      .completed ∧ (if saga.row.cleanupRequested then SagaStatus.cleanupRunning else .running) ≠
      .cleanupCompleted := by
    cases saga.row.cleanupRequested <;> decide
  rw [shows.id_eq] at updatedEq admits ⊢
  rw [saga_setEffects, shows.row] at updatedEq
  rw [updatedEq] at updatedFound
  cases updatedFound
  have records : Records now saga.row (activityRow now activityId id (some effect.effectId)
      .effectClaimed actor (saga.row.revision + 1) (.obj [("effect_kind", .str effect.kind.name),
        ("attempt", .num leased.attempts), ("fence", .str fence.text)])) :=
    ⟨shows.id_eq.symm, rfl, rfl⟩
  obtain ⟨shown, elsewhere⟩ := moved_turned shows coherent split rfl running open_ admits records
  refine ⟨effect, _, ⟨shows, coherent, .turn split turn records, shown, elsewhere⟩,
    split.focus_mem, ?_, rfl⟩
  rw [shows.id_eq, saga_addActivity, saga_setSaga, if_pos rfl, saga_setEffects, shows.row]
    at inputsEq
  rw [inputsEq] at inputsFound
  cases inputsFound
  rfl

/-- **A call of `claim_next`** gives out nothing and changes nothing, or turns an effect. -/
theorem claimNext_moves (all : AllCoherent store) {found : Option EffectRecord}
    (committed : postgres.Commits (claimNext now utcNow actor fence activityId leaseSeconds)
      store found final) :
    (found = none ∧ final = store) ∨ ∃ id saga effect saga',
      Moves now (.claim effect.effectId fence) id store final saga saga' ∧
        effect ∈ saga.phase ∧ found = some (effectRecord effect fence saga.row) ∧
        final.mutations = store.mutations := by
  unfold claimNext at committed
  simp only [Tx.bind_eq, Tx.pure_eq, Engine.commits_bind, commits_scanSagas] at committed
  obtain ⟨scanned, _, ⟨scan, rfl⟩, rest⟩ := committed
  cases scanned with
  | none =>
    obtain ⟨rfl, rfl⟩ := rest
    exact Or.inl ⟨rfl, rfl⟩
  | some row =>
    simp only [Engine.commits_bind, Engine.commits_pure] at rest
    obtain ⟨record, _, claimed, rfl, rfl⟩ := rest
    obtain ⟨present, stale, due⟩ := scan row rfl
    obtain ⟨saga, shows, coherent⟩ := all _ row present
    have same : saga.row = row := Option.some.inj (shows.row.symm.trans present)
    have pending : saga.row.status = .pending ∨ saga.row.status = .cleanupPending := by
      rw [same]
      simp only [claimable, Bool.or_eq_true, Bool.and_eq_true, decide_eq_true_eq] at due
      rcases due with ⟨status, -⟩ | ⟨status, -⟩
      · exact Or.inl status
      · exact Or.inr status
    rw [← same] at claimed
    obtain ⟨effect, saga', moves, member, rfl, kept⟩ :=
      claimSaga_moves shows coherent pending claimed
    exact Or.inr ⟨_, saga, effect, saga', moves, member, rfl, kept⟩

end Claim

/-! ### Finalizations -/

section Finalize

variable {store final : Store} {now : Timestamp} {activityId : Uuid} {record : EffectRecord}
  {actor : String} {outcome : EffectOutcome}

/-- The result of an outcome. -/
def EffectOutcome.result : EffectOutcome → FinalizeResult
  | .organizationApplied _ _ _ | .entitlementApplied _ _ | .compensated _ => .applied
  | .failed _ => .failed
  | .unknown _ => .manualReview

theorem setSaga_none (store : Store) (id : Uuid) : store.setSaga id (.recordedIf none) = store := by
  unfold Store.setSaga Table.modify
  rw [Table.update_same]
  intro row _
  split <;> rfl

/-- What recording an outcome writes. -/
theorem commits_recordOutcome {written : FinalizeResult × ActivityKind × Json}
    (committed : postgres.Commits (recordOutcome now record outcome) store written final) :
    outcome.fits record.kind = true ∧ written.1 = outcome.result ∧
      final = (store.setEffects (fun row => row.effectId = record.effectId &&
        fenced record.leaseToken row) (outcome.write now)).setSaga record.provisioningId
          (.recordedIf outcome.organization) := by
  cases outcome with
  | organizationApplied organizationId ownerMembershipId receipt =>
    simp only [recordOutcome, Tx.bind_eq, Tx.pure_eq, Engine.commits_bind, Engine.commits_pure,
      commits_require, commits_updateEffect, commits_updateSaga] at committed
    obtain ⟨_, _, ⟨kind, rfl⟩, _, _, ⟨-, -, rfl⟩, _, _, ⟨-, -, rfl⟩, rfl, rfl⟩ := committed
    exact ⟨kind, rfl, rfl⟩
  | entitlementApplied grantId receipt =>
    simp only [recordOutcome, Tx.bind_eq, Tx.pure_eq, Engine.commits_bind, Engine.commits_pure,
      commits_require, commits_updateEffect] at committed
    obtain ⟨_, _, ⟨kind, rfl⟩, _, _, ⟨-, -, rfl⟩, rfl, rfl⟩ := committed
    exact ⟨kind, rfl, (setSaga_none _ _).symm⟩
  | compensated receipt =>
    simp only [recordOutcome, Tx.bind_eq, Tx.pure_eq, Engine.commits_bind, Engine.commits_pure,
      commits_require, commits_updateEffect] at committed
    obtain ⟨_, _, ⟨kind, rfl⟩, _, _, ⟨-, -, rfl⟩, rfl, rfl⟩ := committed
    exact ⟨kind, rfl, (setSaga_none _ _).symm⟩
  | failed errorCode =>
    simp only [recordOutcome, Tx.bind_eq, Tx.pure_eq, Engine.commits_bind, Engine.commits_pure,
      commits_updateEffect] at committed
    obtain ⟨_, _, ⟨-, -, rfl⟩, rfl, rfl⟩ := committed
    exact ⟨rfl, rfl, (setSaga_none _ _).symm⟩
  | unknown errorCode =>
    simp only [recordOutcome, Tx.bind_eq, Tx.pure_eq, Engine.commits_bind, Engine.commits_pure,
      commits_updateEffect] at committed
    obtain ⟨_, _, ⟨-, -, rfl⟩, rfl, rfl⟩ := committed
    exact ⟨rfl, rfl, (setSaga_none _ _).symm⟩

/-- A record names an effect of the store, with its saga and its kind. -/
def Names (store : Store) (record : EffectRecord) : Prop :=
  ∃ effect, store.effect record.effectId = some effect ∧
    effect.provisioningId = record.provisioningId ∧ effect.kind = record.kind

/-- **A call of `finalize_effect`** turns the effect in flight under its fence; without one it
changes nothing. -/
theorem finalizeEffect_moves (all : AllCoherent store)
    (names : Names store record) {result : FinalizeResult}
    (committed : postgres.Commits (finalizeEffect now activityId record actor outcome)
      store result final) :
    ((store.effect record.effectId).filter (fenced record.leaseToken) = none ∧
        result = .superseded ∧ final = store) ∨
      ∃ effect saga saga', (store.effect record.effectId).filter (fenced record.leaseToken) =
          some effect ∧ effect ∈ saga.phase ∧ result = outcome.result ∧
        Moves now (.finalize record.effectId record.leaseToken outcome) record.provisioningId
          store final saga saga' ∧ final.mutations = store.mutations := by
  unfold finalizeEffect at committed
  simp only [Tx.bind_eq, Tx.pure_eq, Engine.commits_bind, commits_lockSaga, commits_fetchOne,
    commits_lockEffect, Option.filter_all] at committed
  obtain ⟨_, _, ⟨rfl, rfl⟩, row, _, ⟨present, rfl⟩, _, store, ⟨rfl, rfl⟩, rest⟩ :=
    committed
  cases held : (store.effect record.effectId).filter (fenced record.leaseToken) with
  | none =>
    rw [held] at rest
    obtain ⟨rfl, rfl⟩ := rest
    exact Or.inl ⟨rfl, rfl, rfl⟩
  | some effect =>
    rw [held] at rest
    simp only [Engine.commits_bind] at rest
    obtain ⟨written, middle, recorded, revision, refreshed, refresh, _, _, noted, same, ended⟩ :=
      rest
    obtain ⟨rfl, rfl⟩ := ended
    obtain ⟨fits, resulted, rfl⟩ := commits_recordOutcome recorded
    obtain ⟨found, fencing⟩ := Option.filter_eq_some_iff.mp held
    simp only [fenced, Bool.decide_and, Bool.and_eq_true, decide_eq_true_eq] at fencing
    obtain ⟨named, namedFound, owner, kind⟩ := names
    rw [found] at namedFound
    cases namedFound
    obtain ⟨saga, shows, coherent⟩ := all _ row present
    have effectId : record.effectId = effect.effectId := (Store.effect_found.mp found).2.symm
    have member : effect ∈ saga.effects := by
      rw [← shows.effects, Store.mem_effectsOf, ← effectId]
      exact ⟨found, owner⟩
    obtain ⟨past, rest, split⟩ := coherent.split_of_state member (Or.inl fencing.1)
    rw [← kind] at fits
    have turn : Turn now effect (.finalize effect.effectId record.leaseToken outcome)
        (outcome.write now effect.toEffectProgress) outcome.organization :=
      .finalize record.leaseToken outcome fencing.1 fencing.2 fits
    have landed : (outcome.write now effect.toEffectProgress).state ≠ .inFlight := by
      rcases outcome.state_write fits with state | state | state <;> rw [state]
      · cases effect.kind.isMain <;> simp [finishedState]
      · decide
      · decide
    rw [effectId] at refresh noted ⊢
    have holds : fenced record.leaseToken effect = true := by
      simp [fenced, fencing]
    obtain ⟨note, records, shown, elsewhere, kept⟩ := refreshed_turned coherent shows.id_eq split turn
      landed (by rw [saga_setSaga, if_pos rfl, saga_setEffects, shows.row]; rfl)
      (fun note => by
        rw [effectsOf_setSaga]
        exact effectsOf_turned shows split holds (outcome.write now) note)
      (by rw [activityOf_setSaga, activityOf_setEffects, shows.activity]) refresh noted
    refine Or.inr ⟨effect, saga, _, rfl, split.focus_mem, same.trans resulted,
      ⟨shows, coherent, .turn split turn records, shown, ?_⟩, kept⟩
    exact ((elsewhere_turned shows coherent split _).trans (Elsewhere.setSaga _)).trans elsewhere

end Finalize

/-! ### Quarantine -/

section Quarantine

variable {store final : Store} {now : Timestamp} {actor : String}

/-- **Quarantining a saga** turns its expired effect. -/
theorem quarantineSaga_moves {id activityId : Uuid} {saga : Saga} (shows : Shows store id saga)
    (coherent : Coherent saga) {value : Unit}
    (committed : postgres.Commits (quarantineSaga now actor activityId saga.row) store value
      final) :
    ∃ effect saga', Moves now (.quarantine effect.effectId) id store final saga saga' ∧
      effect ∈ saga.phase ∧ final.mutations = store.mutations := by
  unfold quarantineSaga at committed
  simp only [Tx.bind_eq, Engine.commits_bind, commits_selectEffects, commits_expect,
    commits_fetchOne, commits_updateEffect, commits_updateSaga, commits_activity] at committed
  obtain ⟨_, store, ⟨rfl, rfl⟩, effect, _, ⟨head, rfl⟩, previousFence, _, ⟨leased, rfl⟩, _, _,
    ⟨-, -, rfl⟩, _, _, ⟨-, updatedEq, rfl⟩, updated, _, ⟨updatedFound, rfl⟩, admits, rfl⟩ :=
    committed
  rw [shows.id_eq] at head updatedEq admits ⊢
  have chosen : effect ∈ saga.effects ∧ expired now effect = true := by
    have member := List.mem_of_mem_head? (Option.mem_def.mpr head)
    rw [mem_orderBy, List.mem_filter, shows.effects] at member
    exact member
  obtain ⟨member, late⟩ := chosen
  simp only [expired, Bool.and_eq_true, decide_eq_true_eq, Option.any_eq_true] at late
  obtain ⟨flying, leaseUntil, deadline, passed⟩ := late
  obtain ⟨past, rest, split⟩ := coherent.split_of_state member (Or.inl flying)
  have turn : Turn now effect (.quarantine effect.effectId)
      (effect.toEffectProgress.stopped now .unknown leaseExpiredError) none :=
    .quarantine flying ⟨leaseUntil, deadline, passed⟩
  have doubted : outlook saga.row.cleanupRequested
      (past ++ effect.set (.stopped now .unknown leaseExpiredError) :: rest) =
        (.manualReview, some leaseExpiredError) := by
    rw [outlook_split ⟨rfl, split.past_finished, Or.inl (stage_busy.mpr (Or.inr (Or.inr rfl))),
      split.rest_waiting⟩]
    rfl
  rw [saga_setEffects, shows.row] at updatedEq
  rw [updatedEq] at updatedFound
  cases updatedFound
  have records : Records now saga.row (activityRow now activityId id (some effect.effectId)
      .effectOutcomeUnknown actor (saga.row.revision + 1)
      (.obj [("effect_kind", .str effect.kind.name), ("reason", .str "lease_expired"),
        ("invalidated_fence", .str previousFence.text)])) :=
    ⟨shows.id_eq.symm, rfl, rfl⟩
  obtain ⟨shown, elsewhere⟩ := moved_turned shows coherent split rfl doubted
    (by decide) admits records
  exact ⟨effect, _, ⟨shows, coherent, .turn split turn records, shown, elsewhere⟩,
    split.focus_mem, rfl⟩

/-- One saga after the other goes through a quarantine, each from a running status. -/
inductive Quarantines (now : Timestamp) : Nat → Store → Store → Prop
  | done (store : Store) : Quarantines now 0 store store
  | next {count : Nat} {id : Uuid} {before middle after : Store} {saga saga' : Saga}
      {effect : EffectRow}
      (moves : Moves now (.quarantine effect.effectId) id before middle saga saga')
      (member : effect ∈ saga.phase)
      (running : saga.row.status = .running ∨ saga.row.status = .cleanupRunning)
      (kept : middle.mutations = before.mutations)
      (others : Quarantines now count middle after) : Quarantines now (count + 1) before after

theorem quarantineLoop_moves {activityId : Nat → Uuid} {fuel quarantined count : Nat}
    (all : AllCoherent store)
    (committed : postgres.Commits (quarantineLoop now actor activityId fuel quarantined) store
      count final) : ∃ moved, count = quarantined + moved ∧ moved ≤ fuel ∧
        Quarantines now moved store final := by
  induction fuel generalizing store quarantined with
  | zero =>
    obtain ⟨rfl, rfl⟩ := committed
    exact ⟨0, rfl, le_rfl, .done _⟩
  | succ fuel ih =>
    unfold quarantineLoop at committed
    simp only [Tx.bind_eq, Engine.commits_bind, commits_scanSagas] at committed
    obtain ⟨scanned, _, ⟨scan, rfl⟩, rest⟩ := committed
    cases scanned with
    | none =>
      obtain ⟨rfl, rfl⟩ := rest
      exact ⟨0, rfl, Nat.zero_le _, .done _⟩
    | some row =>
      simp only [Engine.commits_bind] at rest
      obtain ⟨_, middle, first, others⟩ := rest
      obtain ⟨present, stale, due⟩ := scan row rfl
      obtain ⟨saga, shows, coherent⟩ := all _ row present
      have same : saga.row = row := Option.some.inj (shows.row.symm.trans present)
      have running : saga.row.status = .running ∨ saga.row.status = .cleanupRunning := by
        rw [same]
        simp only [hasExpired, Bool.and_eq_true, decide_eq_true_eq] at due
        exact due.1
      rw [← same] at first
      obtain ⟨effect, saga', moves, member, kept⟩ := quarantineSaga_moves shows coherent first
      obtain ⟨moved, counted, bounded, chain⟩ := ih (moves.allCoherent all) others
      exact ⟨moved + 1, by omega, by omega, .next moves member running kept chain⟩

/-- **A call of `quarantine_expired`** moves one saga after the other. -/
theorem quarantineExpired_moves {activityId : Nat → Uuid} {limit : Int} {count : Nat}
    (all : AllCoherent store)
    (committed : postgres.Commits (quarantineExpired now actor activityId limit) store count
      final) : Quarantines now count store final := by
  obtain ⟨moved, counted, -, chain⟩ := quarantineLoop_moves all committed
  rw [counted, Nat.zero_add]
  exact chain

end Quarantine

end OrganizationProvisioning
