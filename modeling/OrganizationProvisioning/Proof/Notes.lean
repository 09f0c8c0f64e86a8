/-
**What the activity row of a transaction tells.**

* `Adds` — a commit adds one activity row, signed by an actor; `Doubts` — what the row of a quarantine tells.
* `start_adds`, `claimNext_adds`, `finalizeEffect_adds`, `retry_adds`, `requestCleanup_adds`,
  `quarantineLoop_adds` — the rows of the storage functions.
-/
import OrganizationProvisioning.Proof.Quarantine
import OrganizationProvisioning.Saga.Trail

namespace OrganizationProvisioning

open Relational Transactional Worklist

/-! ### Rows -/

/-- A commit adds one activity row, signed by an actor. -/
structure Adds (actor : String) (before after : Store) (note : ActivityRow) : Prop where
  rows : after.activity.rows = before.activity.rows ++ [note]
  signed : note.actorSubject = actor

theorem adds_addActivity {before store : Store} {note : ActivityRow} (admits : AdmitsActivity store note)
    (same : store.activity = before.activity) :
    Adds note.actorSubject before (store.addActivity note) note := by
  refine ⟨?_, rfl⟩
  rw [← same]
  exact Table.rows_insert admits.fresh

/-- A key written afterwards leaves the row. -/
theorem Adds.kept {actor : String} {before middle after : Store} {note : ActivityRow}
    (adds : Adds actor before middle note) (same : after.activity = middle.activity) :
    Adds actor before after note :=
  ⟨(congrArg _ same).trans adds.rows, adds.signed⟩

/-! ### The worker -/

section Worker

variable {store final : Store} {now utcNow : Timestamp} {actor : String} {fence activityId : Uuid}
  {leaseSeconds : Int}

theorem dueEffect_reads {saga : SagaRow} {effect : EffectRow}
    (committed : postgres.Commits (dueEffect saga) store effect final) : final = store := by
  unfold dueEffect at committed
  split at committed
  · simp only [Tx.bind_eq, Engine.commits_bind, commits_selectEffects, commits_fetchOne] at committed
    obtain ⟨_, _, ⟨-, rfl⟩, -, rfl⟩ := committed
    rfl
  · simp only [Tx.bind_eq, Engine.commits_bind, commits_selectEffects, commits_fetchOne] at committed
    obtain ⟨_, _, ⟨-, rfl⟩, -, rfl⟩ := committed
    rfl

/-- **A claim records its fence.** -/
theorem claimSaga_adds {saga : SagaRow} {record : EffectRecord}
    (committed : postgres.Commits (claimSaga now utcNow actor fence activityId leaseSeconds saga) store
      record final) : ∃ note, Adds actor store final note ∧ Tells note (.claim record.effectId fence) := by
  unfold claimSaga at committed
  simp only [Tx.bind_eq, Tx.pure_eq, Engine.commits_bind, commits_expect, commits_updateEffect,
    commits_updateSaga, commits_fetchOne, commits_activity, commits_selectSaga] at committed
  obtain ⟨effect, _, dueRun, leaseUntil, middle, ⟨-, rfl⟩, -, _, ⟨-, -, rfl⟩, leased, _, ⟨-, rfl⟩, -, _,
    ⟨-, -, rfl⟩, updated, _, ⟨-, rfl⟩, _, _, ⟨admits, rfl⟩, -, _, ⟨-, rfl⟩, inputs, _, ⟨-, rfl⟩, rfl,
    rfl⟩ := committed
  obtain rfl := dueEffect_reads dueRun
  exact ⟨_, adds_addActivity admits rfl, .claim rfl rfl rfl⟩

theorem claimNext_adds {record : EffectRecord}
    (committed : postgres.Commits (claimNext now utcNow actor fence activityId leaseSeconds) store
      (some record) final) :
    ∃ note, Adds actor store final note ∧ Tells note (.claim record.effectId fence) := by
  unfold claimNext at committed
  simp only [Tx.bind_eq, Tx.pure_eq, Engine.commits_bind, commits_scanSagas] at committed
  obtain ⟨scanned, _, ⟨-, rfl⟩, rest⟩ := committed
  cases scanned with
  | none => cases rest.1
  | some row =>
    simp only [Engine.commits_bind, Engine.commits_pure, Option.some.injEq] at rest
    obtain ⟨_, _, claimed, rfl, rfl⟩ := rest
    exact claimSaga_adds claimed

variable {record : EffectRecord} {outcome : EffectOutcome}

/-- What an outcome is recorded under. -/
theorem recordOutcome_tells {written : FinalizeResult × ActivityKind × Json}
    (committed : postgres.Commits (recordOutcome now record outcome) store written final) :
    written.2.1 = outcome.activity ∧
      written.2.2.field "error_code" = outcome.error.map .str := by
  cases outcome with
  | organizationApplied organizationId ownerMembershipId receipt =>
    simp only [recordOutcome, Tx.bind_eq, Tx.pure_eq, Engine.commits_bind, Engine.commits_pure,
      commits_require] at committed
    obtain ⟨_, _, -, _, _, -, _, _, -, rfl, -⟩ := committed
    exact ⟨rfl, rfl⟩
  | entitlementApplied | compensated =>
    simp only [recordOutcome, Tx.bind_eq, Tx.pure_eq, Engine.commits_bind, Engine.commits_pure,
      commits_require] at committed
    obtain ⟨_, _, -, _, _, -, rfl, -⟩ := committed
    exact ⟨rfl, rfl⟩
  | failed | unknown =>
    simp only [recordOutcome, Tx.bind_eq, Tx.pure_eq, Engine.commits_bind,
      Engine.commits_pure] at committed
    obtain ⟨_, _, -, rfl, -⟩ := committed
    exact ⟨rfl, rfl⟩

/-- **An accepted finalization records its outcome.** -/
theorem finalizeEffect_adds {effect : EffectRow} {result : FinalizeResult}
    (held : (store.effect record.effectId).filter (fenced record.leaseToken) = some effect)
    (committed : postgres.Commits (finalizeEffect now activityId record actor outcome) store result
      final) : ∃ note, Adds actor store final note ∧
        Tells note (.finalize record.effectId record.leaseToken outcome) := by
  unfold finalizeEffect at committed
  simp only [Tx.bind_eq, Tx.pure_eq, Engine.commits_bind, commits_lockSaga, commits_fetchOne,
    commits_lockEffect] at committed
  obtain ⟨_, _, ⟨-, rfl⟩, row, _, ⟨-, rfl⟩, _, store, ⟨rfl, rfl⟩, rest⟩ := committed
  rw [held] at rest
  simp only [Engine.commits_bind, commits_activity] at rest
  obtain ⟨written, middle, recorded, revision, refreshed, refresh, _, _, ⟨admits, rfl⟩, -, rfl⟩ := rest
  obtain ⟨told, error⟩ := recordOutcome_tells recorded
  obtain ⟨-, -, rfl⟩ := commits_recordOutcome recorded
  obtain ⟨_, -, -, -, rfl⟩ := commits_refreshSagaStatus.mp refresh
  exact ⟨_, adds_addActivity admits rfl, .finalize rfl told error⟩

/-- An effect in doubt stays as it is through quarantines. -/
theorem quarantineSaga_spares {row : SagaRow} (present : store.saga row.provisioningId = some row)
    {effect : EffectRow} (doubted : effect.state = .unknown) (found : store.effect effect.effectId = some effect)
    {value : Unit}
    (committed : postgres.Commits (quarantineSaga now actor activityId row) store value final) :
    final.effect effect.effectId = some effect := by
  obtain ⟨focus, fence, member, expires, -, -, rfl⟩ := quarantineSaga_exact present committed
  have flying := of_decide_eq_true (Bool.and_eq_true_iff.mp expires).1
  rw [effect_addActivity, effect_setSaga, effect_setEffects, found, Option.map_some, if_neg]
  intro same
  have equal : effect.effectId = focus.effectId := by simpa using same
  have stored := (Store.mem_effectsOf.mp member).1
  rw [← equal, found] at stored
  cases stored
  rw [doubted] at flying
  cases flying

/-- What a quarantine tells: an effect of its saga is in doubt, for want of a result. -/
def Doubts (store : Store) (note : ActivityRow) : Prop :=
  ∃ effect, Tells note (.quarantine effect.effectId) ∧ store.effect effect.effectId = some effect ∧
    effect.provisioningId = note.provisioningId ∧ effect.state = .unknown

/-- **One turn of the loop records the effect it doubts.** -/
theorem quarantineSaga_adds {row : SagaRow} (present : store.saga row.provisioningId = some row)
    {value : Unit}
    (committed : postgres.Commits (quarantineSaga now actor activityId row) store value final) :
    ∃ note, Adds actor store final note ∧ Doubts final note := by
  obtain ⟨focus, fence, member, -, -, fresh, rfl⟩ := quarantineSaga_exact present committed
  obtain ⟨stored, owner⟩ := Store.mem_effectsOf.mp member
  refine ⟨_, ⟨Table.rows_insert fresh, rfl⟩, focus.set (.stopped now .unknown leaseExpiredError),
    .quarantine rfl rfl rfl, ?_, owner, rfl⟩
  show Store.effect _ focus.effectId = _
  rw [effect_addActivity, effect_setSaga, effect_setEffects, stored]
  simp

/-- An effect in doubt goes through the loop as it is. -/
theorem quarantineLoop_spares {activityId : Nat → Uuid} {fuel quarantined count : Nat} {effect : EffectRow}
    (doubted : effect.state = .unknown) (found : store.effect effect.effectId = some effect)
    (committed : postgres.Commits (quarantineLoop now actor activityId fuel quarantined) store count
      final) : final.effect effect.effectId = some effect := by
  induction fuel generalizing store quarantined with
  | zero =>
    obtain ⟨-, rfl⟩ := committed
    exact found
  | succ fuel ih =>
    unfold quarantineLoop at committed
    simp only [Tx.bind_eq, Engine.commits_bind, commits_scanSagas] at committed
    obtain ⟨scanned, _, ⟨scan, rfl⟩, rest⟩ := committed
    cases scanned with
    | none =>
      obtain ⟨-, rfl⟩ := rest
      exact found
    | some row =>
      simp only [Engine.commits_bind] at rest
      obtain ⟨_, middle, first, others⟩ := rest
      exact ih (quarantineSaga_spares (scan row rfl).1 doubted found first) others

/-- **The loop records every effect it doubts.** -/
theorem quarantineLoop_adds {activityId : Nat → Uuid} {fuel quarantined count : Nat}
    (committed : postgres.Commits (quarantineLoop now actor activityId fuel quarantined) store count
      final) : ∃ notes, final.activity.rows = store.activity.rows ++ notes ∧
        ∀ note ∈ notes, Doubts final note ∧ note.actorSubject = actor := by
  induction fuel generalizing store quarantined with
  | zero =>
    obtain ⟨-, rfl⟩ := committed
    exact ⟨[], (List.append_nil _).symm, fun _ impossible => by cases impossible⟩
  | succ fuel ih =>
    unfold quarantineLoop at committed
    simp only [Tx.bind_eq, Engine.commits_bind, commits_scanSagas] at committed
    obtain ⟨scanned, _, ⟨scan, rfl⟩, rest⟩ := committed
    cases scanned with
    | none =>
      obtain ⟨-, rfl⟩ := rest
      exact ⟨[], (List.append_nil _).symm, fun _ impossible => by cases impossible⟩
    | some row =>
      simp only [Engine.commits_bind] at rest
      obtain ⟨_, middle, first, others⟩ := rest
      obtain ⟨note, adds, effect, tells, found, owner, doubted⟩ := quarantineSaga_adds (scan row rfl).1 first
      obtain ⟨notes, more, doubts⟩ := ih others
      refine ⟨note :: notes, ?_, fun other member => ?_⟩
      · rw [more, adds.rows, List.append_assoc]
        rfl
      · rcases List.mem_cons.mp member with rfl | later
        · exact ⟨⟨effect, tells, quarantineLoop_spares doubted found others, owner, doubted⟩, adds.signed⟩
        · exact doubts other later

end Worker

/-! ### Public operations -/

section Public

variable {store final : Store} {now : Timestamp} {response : ProvisioningView}

/-- Writing a key leaves the activity. -/
theorem updateMutation_activity {operation caller key : String} {condition : MutationRow → Bool}
    {change : MutationOutcome → MutationOutcome} {affected : Nat}
    (committed : postgres.Commits (exec operation (.updateMutation caller key condition change)) store
      affected final) : final.activity = store.activity := by
  obtain ⟨-, -, rfl⟩ := commits_exec.mp committed
  show (postgres.install ((((store.mutation caller key).filter condition).map fun row =>
    Image.writeMutation (row.set change)).toList) store).activity = _
  cases (store.mutation caller key).filter condition <;> rfl

theorem completeMutation_activity {caller key : String} {value : Unit}
    (committed : postgres.Commits (completeMutation caller key response) store value final) :
    final.activity = store.activity := by
  unfold completeMutation at committed
  simp only [Tx.bind_eq, Engine.commits_bind, commits_require] at committed
  obtain ⟨_, _, written, -, rfl⟩ := committed
  exact updateMutation_activity written

/-- **A start records itself.** -/
theorem start_adds {ids : StartIds} {input : StartInput}
    (fresh : store.mutation input.caller input.idempotencyKey = none)
    (committed : postgres.Commits (start now ids input) store response final) :
    ∃ note, Adds input.actor store final note ∧ note.effectId = none ∧ note.kind = .provisioningStarted := by
  unfold start at committed
  simp only [Tx.bind_eq, Tx.pure_eq, Engine.commits_bind] at committed
  obtain ⟨replay, middle, begun, rest⟩ := committed
  cases replay with
  | replay stored =>
    obtain ⟨-, row, found, -⟩ := commits_beginMutation_replay.mp begun
    rw [fresh] at found
    cases found
  | execute =>
    obtain ⟨-, -, rfl⟩ := commits_beginMutation_execute.mp begun
    simp only [Engine.commits_bind, Engine.commits_pure, commits_insertSaga, commits_insertEffect,
      commits_insertGrants, commits_activity, commits_expect] at rest
    obtain ⟨_, _, ⟨-, rfl⟩, _, _, attached, _, _, ⟨-, rfl⟩, _, _, ⟨-, -, rfl⟩, _, _, ⟨admits, rfl⟩,
      loaded, _, load, _, _, ⟨rfl, rfl⟩, _, _, completion, -, rfl⟩ := rest
    obtain ⟨_, -, -, -, rfl⟩ := commits_loadView.mp load
    have kept := updateMutation_activity attached
    have adds : Adds input.actor store final _ :=
      (@adds_addActivity store _ _ admits (activity_addEffects.trans kept)).kept
        (completeMutation_activity completion)
    exact ⟨_, adds, rfl, rfl⟩

/-- **A retry records its decision** about an effect it may resolve. -/
theorem retry_adds {activityId : Uuid} {input : RetryInput}
    (fresh : store.mutation input.caller input.idempotencyKey = none)
    (committed : postgres.Commits (retry now activityId input) store response final) :
    ∃ row effect note, store.saga input.provisioningId = some row ∧
      effect ∈ store.effectsOf input.provisioningId ∧ Resolvable input row effect ∧
      Adds input.actor store final note ∧ Tells note (.retry effect.effectId input.resolution) := by
  unfold retry at committed
  simp only [Tx.bind_eq, Tx.pure_eq, Engine.commits_bind, lockSaga, commits_lockSaga,
    commits_expect] at committed
  obtain ⟨_, _, ⟨rfl, rfl⟩, row, store, ⟨locked, rfl⟩, replay, middle, begun, rest⟩ := committed
  cases replay with
  | replay stored =>
    obtain ⟨-, row, found, -⟩ := commits_beginMutation_replay.mp begun
    rw [fresh] at found
    cases found
  | execute =>
    obtain ⟨-, -, rfl⟩ := commits_beginMutation_execute.mp begun
    simp only [Engine.commits_bind, Engine.commits_pure, commits_require, commits_expect,
      commits_activity] at rest
    obtain ⟨_, _, ⟨-, rfl⟩, effect, _, retried, _, _, resolved, revision, _, refresh, _, _,
      ⟨admits, rfl⟩, loaded, _, load, _, _, ⟨rfl, rfl⟩, _, _, completion, -, rfl⟩ := rest
    obtain ⟨rfl, member, resolvable⟩ := commits_retriedEffect retried
    rw [effectsOf_addMutation] at member
    obtain ⟨_, _, _, -, -, -, rfl⟩ := commits_resolveEffect resolvable resolved
    obtain ⟨_, -, -, -, rfl⟩ := commits_refreshSagaStatus.mp refresh
    obtain ⟨_, -, -, -, rfl⟩ := commits_loadView.mp load
    have adds : Adds input.actor store final _ :=
      (@adds_addActivity store _ _ admits rfl).kept (completeMutation_activity completion)
    exact ⟨row, effect, _, (Option.filter_eq_some_iff.mp locked).1, member, resolvable, adds,
      .retry rfl rfl rfl⟩

/-- Inserting revocations leaves the activity. -/
theorem insertRevokes_activity {effectId : Nat → Uuid} {index : Nat} {sources : List EffectRow} {value : Unit}
    (committed : postgres.Commits (insertRevokes now effectId index sources) store value final) :
    final.activity = store.activity := by
  induction sources generalizing index store with
  | nil =>
    obtain ⟨-, rfl⟩ := committed
    rfl
  | cons source sources ih =>
    unfold insertRevokes at committed
    simp only [Tx.bind_eq, Engine.commits_bind, commits_fetchOne, commits_expect,
      commits_insertEffect] at committed
    obtain ⟨_, _, ⟨-, rfl⟩, _, _, ⟨-, rfl⟩, _, _, ⟨-, rfl⟩, _, _, ⟨-, rfl⟩, rest⟩ := committed
    have kept := ih rest
    exact kept

/-- **A cleanup request records itself.** -/
theorem requestCleanup_adds {effectId : Nat → Uuid} {activityId : Uuid} {input : CleanupInput}
    (fresh : store.mutation input.caller input.idempotencyKey = none)
    (committed : postgres.Commits (requestCleanup now effectId activityId input) store response final) :
    ∃ note, Adds input.actor store final note ∧ Tells note .cleanup := by
  unfold requestCleanup at committed
  simp only [Tx.bind_eq, Tx.pure_eq, Engine.commits_bind, lockSaga, commits_lockSaga,
    commits_expect] at committed
  obtain ⟨_, _, ⟨-, rfl⟩, row, store, ⟨locked, rfl⟩, replay, middle, begun, rest⟩ := committed
  cases replay with
  | replay stored =>
    obtain ⟨-, row, found, -⟩ := commits_beginMutation_replay.mp begun
    rw [fresh] at found
    cases found
  | execute =>
    obtain ⟨-, -, rfl⟩ := commits_beginMutation_execute.mp begun
    simp only [Engine.commits_bind, Engine.commits_pure, commits_require, commits_expect,
      commits_activity, commits_selectEffects, commits_updateEffects, commits_updateSaga] at rest
    obtain ⟨_, _, ⟨-, rfl⟩, _, _, ⟨-, rfl⟩, _, _, ⟨-, rfl⟩, _, _, ⟨-, rfl⟩, grants, _, ⟨-, rfl⟩, _, _,
      ⟨-, -, rfl⟩, _, _, inserted, _, _, ⟨-, -, rfl⟩, revision, _, refresh, _, _, ⟨admits, rfl⟩, loaded, _,
      load, _, _, ⟨rfl, rfl⟩, _, _, completion, -, rfl⟩ := rest
    obtain ⟨_, -, -, -, rfl⟩ := commits_refreshSagaStatus.mp refresh
    obtain ⟨_, -, -, -, rfl⟩ := commits_loadView.mp load
    have kept := insertRevokes_activity inserted
    have adds : Adds input.actor store final _ :=
      (@adds_addActivity store _ _ admits kept).kept (completeMutation_activity completion)
    exact ⟨_, adds, .cleanup rfl rfl⟩

end Public

end OrganizationProvisioning
