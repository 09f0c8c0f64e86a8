/-
**Requests of an operator that are accepted.**

* `Decides` — a resolution and its observed ids fit the effect they resolve.
* `retriedEffect_commits`, `resolveEffect_commits` — such a resolution finds its effect and writes it;
  `decides_of_commits` — no other one does.
* `retry_commits` — a retry that decides on an effect is accepted, when its view can be rendered.
* `retry_declines` — any other retry at the current revision ends in one of two domain failures.
* `requestCleanup_commits` — a cleanup request for a stopped saga is accepted, when its view can be
  rendered.
-/
import OrganizationProvisioning.Proof.Requests
import OrganizationProvisioning.Proof.Alone
import OrganizationProvisioning.Proof.Sends

namespace OrganizationProvisioning

open Relational Transactional Worklist

/-! ### Shared parts -/

section Shared

variable {store : Store} {now : Timestamp} {id activityId : Uuid} {effectId : Option Uuid}
  {row : SagaRow} {kind : ActivityKind} {caller key actor : String}

theorem require_commits {condition : Bool} {otherwise : Abort} (holds : condition = true) :
    postgres.Commits (require condition otherwise) store () store :=
  commits_require.mpr ⟨holds, rfl⟩

/-- A status refresh of a recordable saga goes through. -/
theorem refreshSagaStatus_commits (ready : Recordable store id activityId effectId row) :
    postgres.Commits (refreshSagaStatus now id true) store (row.revision + 1)
      (store.setSaga id (refreshChange store now id row)) :=
  commits_refreshSagaStatus.mpr ⟨row, ready.present, checked_refreshed
    (ready.checked.sagas row (Store.saga_found.mp ready.present).1) ready.room store id, rfl, rfl⟩

/-- So does its activity row. -/
theorem insertActivity_commits (ready : Recordable store id activityId effectId row)
    (evidence : Json) (change : SagaProgress → SagaProgress) :
    postgres.Commits (insertActivity now activityId id effectId kind actor (row.revision + 1)
      evidence) (store.setSaga id change) ()
        ((store.setSaga id change).addActivity (activityRow now activityId id effectId kind actor
          (row.revision + 1) evidence)) :=
  commits_activity.mpr ⟨ready.admits evidence change, rfl⟩

/-- **The end of a public operation**: a view that can be rendered completes the key. -/
theorem answer_commits {otherwise : Abort} {saga : Saga} {reserved : MutationRow}
    {view : ProvisioningView} (shows : Shows store id saga) (coherent : Coherent saga)
    (owner : saga.row.requestedBy = actor)
    (rendered : renderView saga.row saga.effects = some view)
    (found : store.mutation caller key = some reserved) (started : reserved.status = .started)
    (refers : Refers store reserved.provisioningId) :
    postgres.Commits ((loadView id actor).bind fun loaded => (expect otherwise loaded).bind
      fun response => (completeMutation caller key response).bind fun _ => .pure response) store view
        (store.setMutation caller key (completed view)) := by
  have steps : store.stepsOf id = saga.effects := by
    unfold Store.stepsOf
    rw [shows.effects, coherent.orderBy_effects]
  have loaded : postgres.Commits (loadView id actor) store (some view) store :=
    commits_loadView.mpr ⟨saga.row, shows.row, owner, by rw [steps]; exact rendered, rfl⟩
  refine postgres.commits_bind.mpr ⟨_, _, loaded, ?_⟩
  refine postgres.commits_bind.mpr ⟨view, store, commits_expect.mpr ⟨rfl, rfl⟩, ?_⟩
  exact postgres.commits_bind.mpr
    ⟨(), _, (commits_completeMutation found started).mpr ⟨refers, rfl⟩, rfl, rfl⟩

end Shared

/-! ### Resolutions -/

/-- The observed ids are those of an effect of a kind. -/
def RetryInput.Observes (input : RetryInput) : EffectKind → Prop
  | .createOrganization => input.observedOrganizationId.isSome ∧
      input.observedOwnerMembershipId.isSome ∧ input.observedGrantId = none
  | .putEntitlement => input.observedOrganizationId = none ∧
      input.observedOwnerMembershipId = none ∧ input.observedGrantId.isSome
  | .revokeEntitlement => input.observesNothing = true

/-- **A resolution fits the effect it resolves.** -/
def Decides (input : RetryInput) (saga : SagaRow) (effect : EffectRow) : Prop :=
  match input.resolution with
  | .retryFailed => (saga.status = .failed ∨ saga.status = .cleanupFailed) ∧
      effect.state = .failed ∧ input.observesNothing = true
  | .confirmNotApplied => saga.status = .manualReview ∧ effect.state = .unknown ∧
      input.observesNothing = true
  | .confirmApplied => saga.status = .manualReview ∧ effect.state = .unknown ∧
      input.Observes effect.kind

section Resolution

variable {store final : Store} {now : Timestamp} {input : RetryInput} {saga : SagaRow}
  {effect : EffectRow}

theorem Decides.resolvable (decides : Decides input saga effect) :
    Resolvable input saga effect := by
  unfold Decides at decides
  cases resolution : input.resolution with
  | retryFailed =>
    rw [resolution] at decides
    exact Or.inr ⟨decides.1, resolution, decides.2.1⟩
  | confirmNotApplied | confirmApplied =>
    rw [resolution] at decides
    exact Or.inl ⟨decides.1, decides.2.1⟩

/-- **A resolution that may find an effect finds one.** -/
theorem retriedEffect_commits (member : effect ∈ store.effectsOf input.provisioningId)
    (resolvable : Resolvable input saga effect) :
    ∃ found, postgres.Commits (retriedEffect input saga) store found store := by
  have selects : ∀ condition : EffectRow → Bool, condition effect = true →
      ∃ found, (orderBy createdOrder
        ((store.effectsOf input.provisioningId).filter condition)).head? = some found := by
    intro condition holds
    rw [← Option.isSome_iff_exists, List.isSome_head?]
    refine List.ne_nil_of_mem (show effect ∈ orderBy createdOrder _ from ?_)
    rw [mem_orderBy]
    exact List.mem_filter.mpr ⟨member, holds⟩
  unfold retriedEffect
  rcases resolvable with ⟨review, doubted⟩ | ⟨failed, resolution, broken⟩
  · obtain ⟨found, first⟩ := selects (fun row => row.state = .unknown) (decide_eq_true doubted)
    rw [if_pos review]
    exact ⟨found, postgres.commits_bind.mpr
      ⟨_, _, commits_selectEffects.mpr ⟨rfl, rfl⟩, commits_expect.mpr ⟨first, rfl⟩⟩⟩
  · obtain ⟨found, first⟩ := selects (fun row => row.state = .failed) (decide_eq_true broken)
    have open_ : saga.status ≠ .manualReview := by
      rcases failed with status | status <;> rw [status] <;> decide
    rw [if_neg open_, if_pos failed]
    refine ⟨found, postgres.commits_bind.mpr ⟨(), store,
      require_commits (decide_eq_true resolution), postgres.commits_bind.mpr ⟨_, _,
        commits_selectEffects.mpr ⟨rfl, rfl⟩, commits_expect.mpr ⟨first, rfl⟩⟩⟩⟩

/-- **A resolution that fits its effect writes it.** -/
theorem resolveEffect_commits (checked : Checked store) (decides : Decides input saga effect) :
    ∃ final, postgres.Commits (resolveEffect now input saga effect) store () final := by
  have written : ∀ (outcome : EffectOutcome) (row : EffectRow),
      (store.effect effect.effectId).filter (fun row => decide (row.state = .unknown)) = some row →
        (row.set (outcome.write now)).checked = true := by
    intro outcome row held
    obtain ⟨present, -⟩ := Option.filter_eq_some_iff.mp held
    exact checked_effect (checked.effects row (Store.effect_found.mp present).1)
      fun holds => checked_write holds outcome
  have reset : ∃ final, postgres.Commits (resetEffectToPending now effect.effectId) store ()
      final := by
    refine ⟨_, postgres.commits_bind.mpr ⟨_, _, commits_updateEffect.mpr ⟨fun row held => ?_, rfl,
      rfl⟩, rfl, rfl⟩⟩
    obtain ⟨present, -⟩ := Option.filter_eq_some_iff.mp held
    exact checked_effect (checked.effects row (Store.effect_found.mp present).1) checked_reset
  unfold Decides at decides
  unfold resolveEffect
  cases resolution : input.resolution with
  | retryFailed =>
    rw [resolution] at decides
    obtain ⟨failed, -, nothing⟩ := decides
    obtain ⟨final, committed⟩ := reset
    refine ⟨final, postgres.commits_bind.mpr ⟨(), store, require_commits ?_, committed⟩⟩
    rcases failed with status | status <;> rw [status, nothing] <;> rfl
  | confirmNotApplied =>
    rw [resolution] at decides
    obtain ⟨review, -, nothing⟩ := decides
    obtain ⟨final, committed⟩ := reset
    refine ⟨final, postgres.commits_bind.mpr ⟨(), store, require_commits ?_, committed⟩⟩
    rw [review, nothing]
    rfl
  | confirmApplied =>
    rw [resolution] at decides
    obtain ⟨-, -, observes⟩ := decides
    unfold confirmApplied
    cases kind : effect.kind with
    | createOrganization =>
      rw [kind] at observes
      obtain ⟨organization, membership, none⟩ := observes
      obtain ⟨organizationId, organization⟩ := Option.isSome_iff_exists.mp organization
      obtain ⟨ownerMembershipId, membership⟩ := Option.isSome_iff_exists.mp membership
      simp only [organization, membership, none]
      refine ⟨_, postgres.commits_bind.mpr ⟨_, _, commits_updateEffect.mpr
        ⟨written (.organizationApplied organizationId ownerMembershipId _), rfl, rfl⟩,
          postgres.commits_bind.mpr ⟨_, _, commits_updateSaga.mpr ⟨fun row present => ?_, rfl, rfl⟩,
            rfl, rfl⟩⟩⟩
      rw [saga_setEffects] at present
      exact checked_recorded (checked.sagas row (Store.saga_found.mp present).1)
        (some (organizationId, ownerMembershipId))
    | putEntitlement =>
      rw [kind] at observes
      obtain ⟨organization, membership, grant⟩ := observes
      obtain ⟨grantId, grant⟩ := Option.isSome_iff_exists.mp grant
      simp only [organization, membership, grant]
      exact ⟨_, postgres.commits_bind.mpr ⟨_, _, commits_updateEffect.mpr
        ⟨written (.entitlementApplied grantId _), rfl, rfl⟩, rfl, rfl⟩⟩
    | revokeEntitlement =>
      rw [kind] at observes
      exact ⟨_, postgres.commits_bind.mpr ⟨(), store, require_commits observes,
        postgres.commits_bind.mpr ⟨_, _, commits_updateEffect.mpr
          ⟨written (.compensated _), rfl, rfl⟩, rfl, rfl⟩⟩⟩

/-- **No other resolution does.** -/
theorem decides_of_commits (resolvable : Resolvable input saga effect) {value : Unit}
    (committed : postgres.Commits (resolveEffect now input saga effect) store value final) :
    Decides input saga effect := by
  unfold Decides
  unfold resolveEffect at committed
  cases resolution : input.resolution with
  | retryFailed =>
    rw [resolution] at committed
    obtain ⟨_, _, holds, -⟩ := postgres.commits_bind.mp committed
    have asked := (commits_require.mp holds).1
    rw [Bool.and_eq_true, decide_eq_true_eq] at asked
    rcases resolvable with ⟨review, -⟩ | ⟨failed, -, broken⟩
    · exact absurd review asked.1
    · exact ⟨failed, broken, asked.2⟩
  | confirmNotApplied =>
    rw [resolution] at committed
    obtain ⟨_, _, holds, -⟩ := postgres.commits_bind.mp committed
    have asked := (commits_require.mp holds).1
    rw [Bool.and_eq_true, decide_eq_true_eq] at asked
    rcases resolvable with ⟨review, doubted⟩ | ⟨-, other, -⟩
    · exact ⟨review, doubted, asked.2⟩
    · rw [resolution] at other
      cases other
  | confirmApplied =>
    rw [resolution] at committed
    rcases resolvable with ⟨review, doubted⟩ | ⟨-, other, -⟩
    · refine ⟨review, doubted, ?_⟩
      unfold confirmApplied at committed
      cases kind : effect.kind with
      | createOrganization =>
        rw [kind] at committed
        simp only at committed
        split at committed
        · rename_i organization membership none
          exact ⟨by rw [organization]; rfl, by rw [membership]; rfl, none⟩
        · exact committed.elim
      | putEntitlement =>
        rw [kind] at committed
        simp only at committed
        split at committed
        · rename_i organization membership grant
          exact ⟨organization, membership, by rw [grant]; rfl⟩
        · exact committed.elim
      | revokeEntitlement =>
        rw [kind] at committed
        obtain ⟨_, _, holds, -⟩ := postgres.commits_bind.mp committed
        exact (commits_require.mp holds).1
    · rw [resolution] at other
      cases other

/-- The effect a resolution may find is the only one. -/
theorem Resolvable.unique {saga : Saga} {other : EffectRow} (coherent : Coherent saga)
    (member : effect ∈ saga.effects) (resolvable : Resolvable input saga.row effect)
    (there : other ∈ saga.effects) (too : Resolvable input saga.row other) : other = effect := by
  obtain ⟨_, _, split⟩ := resolvable.split coherent member
  obtain ⟨_, _, split'⟩ := too.split coherent there
  exact Option.some.inj (split'.next_eq.symm.trans split.next_eq)

/-- The failures of an operator's resolution. -/
def Unresolved (error : Abort) : Prop :=
  error = .domain .manualResolutionRequired ∨ error = .domain .invalidTransition

/-- Looking for the effect fails in no other way. -/
theorem leaves_retriedEffect : Engine.Leaves Unresolved (retriedEffect input saga) := by
  have expecting : ∀ {failure : DomainFailure} (found : Option EffectRow),
      Unresolved (.domain failure) → Engine.Leaves Unresolved (expect (.domain failure) found) := by
    intro failure found named
    cases found with
    | none => exact .abort named
    | some value => exact .pure value
  unfold retriedEffect
  split
  · exact .bind (.perform _) fun _ => expecting _ (Or.inl rfl)
  · split
    · refine .bind ?_ fun _ => .bind (.perform _) fun _ => expecting _ (Or.inr rfl)
      unfold require
      split
      · exact .pure _
      · exact .abort (Or.inr rfl)
    · exact .abort (Or.inr rfl)

/-- Nor does the resolution. -/
theorem leaves_resolveEffect : Engine.Leaves Unresolved (resolveEffect now input saga effect) := by
  have requiring : ∀ {failure : DomainFailure} (condition : Bool), Unresolved (.domain failure) →
      Engine.Leaves Unresolved (require condition (.domain failure)) := by
    intro failure condition named
    cases condition with
    | true => exact .pure _
    | false => exact .abort named
  unfold resolveEffect
  cases input.resolution with
  | retryFailed =>
    exact .bind (requiring _ (Or.inl rfl)) fun _ => .bind (.perform _) fun _ => .pure _
  | confirmNotApplied =>
    exact .bind (requiring _ (Or.inr rfl)) fun _ => .bind (.perform _) fun _ => .pure _
  | confirmApplied =>
    simp only
    unfold confirmApplied
    cases effect.kind with
    | createOrganization =>
      simp only
      split
      · exact .bind (.perform _) fun _ => .bind (.perform _) fun _ => .pure _
      · exact .abort (Or.inl rfl)
    | putEntitlement =>
      simp only
      split
      · exact .bind (.perform _) fun _ => .pure _
      · exact .abort (Or.inl rfl)
    | revokeEntitlement =>
      exact .bind (requiring _ (Or.inl rfl)) fun _ => .bind (.perform _) fun _ => .pure _

end Resolution

/-! ### Retries -/

/-- **A retry with an unused key** by the saga's own actor, at its revision. -/
structure Retries (store : Store) (input : RetryInput) (saga : Saga) : Prop where
  shows : Shows store input.provisioningId saga
  coherent : Coherent saga
  checked : Checked store
  owner : saga.row.requestedBy = input.actor
  unused : store.mutation input.caller input.idempotencyKey = none
  current : saga.row.revision = input.expectedRevision

section Retry

variable {store : Store} {now : Timestamp} {input : RetryInput} {activityId : Uuid} {saga : Saga}
  {effect : EffectRow}

/-- The store of a retry once its key is reserved. -/
def Store.retrying (store : Store) (now : Timestamp) (input : RetryInput) : Store :=
  store.addMutation (reservation now input.caller input.idempotencyKey .retry input.actor
    input.requestHash (some input.provisioningId))

namespace Retries

theorem locked (retries : Retries store input saga) :
    (store.saga input.provisioningId).filter (fun row => decide (row.requestedBy = input.actor)) =
      some saga.row := by
  rw [retries.shows.row, Option.filter_some, if_pos (decide_eq_true retries.owner)]

theorem begun (retries : Retries store input saga) (now : Timestamp) :
    postgres.Commits (beginMutation now input.caller input.idempotencyKey .retry input.actor
      input.requestHash (some input.provisioningId)) store .execute (store.retrying now input) :=
  commits_beginMutation_execute.mpr ⟨retries.unused, retries.shows.refers, rfl⟩

/-- It begins in no other way. -/
theorem certain (_retries : Retries store input saga) (now : Timestamp) :
    Certain (beginMutation now input.caller input.idempotencyKey .retry input.actor
      input.requestHash (some input.provisioningId)) := asks_beginMutation Certain.plain

theorem reserved (retries : Retries store input saga) :
    Shows (store.retrying now input) input.provisioningId saga :=
  ⟨retries.shows.row, retries.shows.effects, retries.shows.activity⟩

end Retries

/-- **A retry that decides on an effect is accepted**, when its view can be rendered. -/
theorem retry_commits (retries : Retries store input saga)
    (room : saga.row.revision < 9223372036854775807)
    (fresh : store.activity.find activityId = none) (member : effect ∈ saga.effects)
    (decides : Decides input saga.row effect)
    (renders : ∀ saga', Saga.Step now saga (.retry effect.effectId input.resolution) saga' →
      ∃ view, renderView saga'.row saga'.effects = some view) :
    ∃ response final, postgres.Commits (retry now activityId input) store response final := by
  have checked : Checked (store.retrying now input) :=
    Checked.of_commits (retries.begun now) retries.checked
  have reserved : Shows (store.retrying now input) input.provisioningId saga := retries.reserved
  have listed : effect ∈ (store.retrying now input).effectsOf input.provisioningId := by
    rw [reserved.effects]
    exact member
  obtain ⟨found, retried⟩ := retriedEffect_commits listed decides.resolvable
  obtain ⟨-, there, too⟩ := commits_retriedEffect retried
  rw [reserved.effects] at there
  obtain rfl := decides.resolvable.unique retries.coherent member there too
  obtain ⟨past, rest, split⟩ := decides.resolvable.split retries.coherent member
  obtain ⟨middle, resolved⟩ := @resolveEffect_commits _ now _ _ _ checked decides
  have kept := Checked.of_commits resolved checked
  obtain ⟨condition, change, organization, -, -, -, shape⟩ :=
    commits_resolveEffect decides.resolvable resolved
  rw [shape] at kept
  have here : ((store.retrying now input).effect found.effectId).isSome := by
    rw [reserved.stored member]
    rfl
  have ready := Recordable.turned kept reserved.row room fresh here
  rw [← shape] at ready
  have refresh := @refreshSagaStatus_commits _ now _ _ _ _ ready
  have noted := @insertActivity_commits _ now _ _ _ _ .provisioningRetried input.actor ready
    (.obj [("resolution", .str (retryResolutionName input.resolution)),
      ("evidence", .str input.evidence), ("effect_kind", .str found.kind.name)])
    (refreshChange middle now input.provisioningId (saga.row.set (.recordedIf organization)))
  obtain ⟨saga', step, shown, -, same⟩ := resolved_turned rfl reserved retries.coherent
    decides.resolvable split resolved refresh noted
  obtain ⟨view, rendered⟩ := renders saga' step
  have owner : saga'.row.requestedBy = input.actor :=
    (congrArg SagaIntent.requestedBy step.intent).trans retries.owner
  have completing := (mutation_of_eq same input.caller input.idempotencyKey).trans
    (mutation_reserved retries.unused)
  have answered := @answer_commits _ _ _ _ _ (invalidData "retried provisioning saga disappeared")
    _ _ _ shown (step.coherent retries.coherent) owner rendered completing rfl shown.refers
  unfold retry
  refine postgres.exists_commits_bind (commits_lockSaga.mpr ⟨rfl, rfl⟩) ?_
  refine postgres.exists_commits_bind (commits_expect.mpr ⟨retries.locked, rfl⟩) ?_
  refine postgres.exists_commits_bind (retries.begun now) ?_
  refine postgres.exists_commits_bind (require_commits (decide_eq_true retries.current)) ?_
  refine postgres.exists_commits_bind retried ?_
  refine postgres.exists_commits_bind resolved ?_
  refine postgres.exists_commits_bind refresh ?_
  exact postgres.exists_commits_bind noted ⟨view, _, answered⟩

/-- **A retry that decides on no effect** ends in one of two domain failures. -/
theorem retry_declines (retries : Retries store input saga)
    (declined : ∀ effect ∈ saga.effects, ¬ Decides input saga.row effect) :
    (∀ response final, ¬ postgres.Commits (retry now activityId input) store response final) ∧
      ∀ error, postgres.Aborts (retry now activityId input) store error → Unresolved error := by
  constructor
  · intro response final committed
    unfold retry at committed
    simp only [Tx.bind_eq, Tx.pure_eq, Engine.commits_bind, lockSaga, commits_lockSaga,
      commits_expect] at committed
    obtain ⟨_, _, ⟨rfl, rfl⟩, row, store, ⟨locked, rfl⟩, replay, middle, begun, rest⟩ := committed
    rw [retries.locked] at locked
    cases locked
    obtain ⟨rfl, rfl⟩ := (retries.certain now).unique begun (retries.begun now)
    simp only [Engine.commits_bind, commits_require] at rest
    obtain ⟨_, _, ⟨-, rfl⟩, effect, _, retried, _, _, resolved, -⟩ := rest
    obtain ⟨rfl, member, resolvable⟩ := commits_retriedEffect retried
    rw [retries.reserved.effects] at member
    exact declined effect member (decides_of_commits resolvable resolved)
  · intro error failed
    unfold retry at failed
    rcases postgres.aborts_bind.mp failed with early | ⟨locked, middle, locking, failed⟩
    · exact absurd early (safe_read rfl)
    obtain ⟨rfl, rfl⟩ := commits_lockSaga.mp locking
    rw [retries.locked] at failed
    rcases postgres.aborts_bind.mp failed with early | ⟨row, _, found, failed⟩
    · exact early.elim
    obtain ⟨same, rfl⟩ := commits_expect.mp found
    cases same
    rcases postgres.aborts_bind.mp failed with early | ⟨replay, _, begun, failed⟩
    · exact absurd early ((retries.certain now).not_aborts (retries.begun now) error)
    obtain ⟨rfl, rfl⟩ := (retries.certain now).unique begun (retries.begun now)
    rcases postgres.aborts_bind.mp failed with early | ⟨_, _, asked, failed⟩
    · exact absurd early (safe_require (decide_eq_true retries.current))
    obtain ⟨-, rfl⟩ := commits_require.mp asked
    rcases postgres.aborts_bind.mp failed with early | ⟨effect, _, retried, failed⟩
    · exact postgres.aborts_admitted leaves_retriedEffect admitted_retriedEffect early
    obtain ⟨rfl, member, resolvable⟩ := commits_retriedEffect retried
    rw [retries.reserved.effects] at member
    rcases postgres.aborts_bind.mp failed with early | ⟨_, _, resolved, -⟩
    · exact postgres.aborts_admitted leaves_resolveEffect (admitted_resolveEffect
        (Checked.of_commits (retries.begun now) retries.checked)) early
    · exact absurd (decides_of_commits resolvable resolved) (declined effect member)

end Retry

/-! ### Cleanup requests -/

/-- **A cleanup request with an unused key** by the saga's own actor, at its revision, of a stopped
saga. -/
structure Cleans (store : Store) (input : CleanupInput) (saga : Saga) : Prop where
  shows : Shows store input.provisioningId saga
  coherent : Coherent saga
  checked : Checked store
  keyed : Keyed store
  owner : saga.row.requestedBy = input.actor
  unused : store.mutation input.caller input.idempotencyKey = none
  current : saga.row.revision = input.expectedRevision
  unrequested : saga.row.cleanupRequested = false
  stopped : saga.row.status = .completed ∨ saga.row.status = .failed

section Cleanup

variable {store : Store} {now : Timestamp} {input : CleanupInput} {effectId : Nat → Uuid}
  {activityId : Uuid} {saga : Saga}

/-- **Grants with their ids can be revoked.** -/
theorem insertRevokes_commits {index : Nat} {sources : List EffectRow}
    (named : ∀ source ∈ sources, source.subjectKind.isSome ∧ source.feature.isSome ∧
      source.externalId.isSome)
    (admits : AdmitsAll store (revokeRows now effectId index sources)) :
    postgres.Commits (insertRevokes now effectId index sources) store ()
      (store.addEffects (revokeRows now effectId index sources)) := by
  induction sources generalizing index store with
  | nil => exact ⟨rfl, rfl⟩
  | cons source sources ih =>
    obtain ⟨subject, feature, grant⟩ := named source List.mem_cons_self
    obtain ⟨subjectKind, subject⟩ := Option.isSome_iff_exists.mp subject
    obtain ⟨feature, featured⟩ := Option.isSome_iff_exists.mp feature
    obtain ⟨grantId, grant⟩ := Option.isSome_iff_exists.mp grant
    have rows : revokeRows now effectId index (source :: sources) =
        revokeEffect now (effectId index) source subjectKind feature grantId ::
          revokeRows now effectId (index + 1) sources := by
      rw [revokeRows, subject, featured, grant]
      rfl
    rw [rows] at admits ⊢
    have rest := ih (fun other member => named other (List.mem_cons_of_mem _ member)) admits.2
    unfold insertRevokes
    refine postgres.commits_bind.mpr ⟨_, _, commits_fetchOne.mpr ⟨subject, rfl⟩, ?_⟩
    refine postgres.commits_bind.mpr ⟨_, _, commits_fetchOne.mpr ⟨featured, rfl⟩, ?_⟩
    refine postgres.commits_bind.mpr ⟨_, _, commits_expect.mpr ⟨grant, rfl⟩, ?_⟩
    exact postgres.commits_bind.mpr ⟨(), _, commits_insertEffect.mpr ⟨admits.1, rfl⟩, rest⟩

/-- The grants in force have their ids. -/
theorem Cleans.named (cleans : Cleans store input saga) :
    ∀ source ∈ saga.mains.filter granted, source.subjectKind.isSome ∧ source.feature.isSome ∧
      source.externalId.isSome := by
  intro source member
  obtain ⟨main, inForce⟩ := List.mem_filter.mp member
  obtain ⟨put, applied⟩ := of_decide_eq_true inForce
  have stored := cleans.shows.stored (List.mem_append_left _ main)
  have plan := (Bool.and_eq_true_iff.mp
    (cleans.checked.effects source (Store.effect_found.mp stored).1)).1
  unfold EffectPlan.checked EffectPlan.shaped at plan
  rw [decide_eq_true_eq, put] at plan
  have shape := of_decide_eq_true plan.2.2.2
  exact ⟨shape.1, shape.2.1, cleans.coherent.receipts source main applied⟩

/-- Unfinished grants can be skipped. -/
theorem skipping_commits (checked : Checked store) (id : Uuid) :
    postgres.Commits (exec "skip unfinished bootstrap grants" (.updateEffects id
      (fun row => row.kind = .putEntitlement ∧ (row.state = .pending ∨ row.state = .failed))
      (.skipped now))) store
      ((store.effectsOf id).filter fun row =>
        decide (row.kind = .putEntitlement ∧ (row.state = .pending ∨ row.state = .failed))).length
      (store.setEffects (fun row => row.provisioningId = id && decide
        (row.kind = .putEntitlement ∧ (row.state = .pending ∨ row.state = .failed)))
          (.skipped now)) := by
  refine commits_updateEffects.mpr ⟨fun row member => ?_, rfl, rfl⟩
  obtain ⟨inside, chosen⟩ := List.mem_filter.mp member
  refine checked_effect (checked.effects row (List.mem_filter.mp inside).1) fun holds =>
    checked_skipped holds ?_
  rcases (of_decide_eq_true chosen).2 with waiting | failed
  · simp [waiting]
  · simp [failed]

/-- **A cleanup request for a stopped saga is accepted**, when its view can be rendered. -/
theorem requestCleanup_commits (cleans : Cleans store input saga)
    (room : saga.row.revision < 9223372036854775807)
    (ids : FreshRevokes store input.provisioningId effectId)
    (fresh : store.activity.find activityId = none)
    (renders : ∀ saga', Saga.Step now saga .cleanup saga' →
      ∃ view, renderView saga'.row saga'.effects = some view) :
    ∃ response final, postgres.Commits (requestCleanup now effectId activityId input) store
      response final := by
  have locked : (store.saga input.provisioningId).filter
      (fun row => decide (row.requestedBy = input.actor)) = some saga.row := by
    rw [cleans.shows.row, Option.filter_some, if_pos (decide_eq_true cleans.owner)]
  generalize reserving : reservation now input.caller input.idempotencyKey .requestCleanup
    input.actor input.requestHash (some input.provisioningId) = reserved
  have begun : postgres.Commits (beginMutation now input.caller input.idempotencyKey
      .requestCleanup input.actor input.requestHash (some input.provisioningId)) store .execute
        (store.addMutation reserved) := by
    rw [← reserving]
    exact commits_beginMutation_execute.mpr ⟨cleans.unused, cleans.shows.refers, rfl⟩
  have checked := Checked.of_commits begun cleans.checked
  have shows : Shows (store.addMutation reserved) input.provisioningId saga :=
    ⟨cleans.shows.row, cleans.shows.effects, cleans.shows.activity⟩
  have selected : orderBy ordinalOrder (((store.addMutation reserved).effectsOf
      input.provisioningId).filter fun row =>
        decide (row.kind = .putEntitlement ∧ row.state = .applied)) =
          saga.mains.filter granted := by
    rw [shows.effects]
    exact cleans.coherent.grants_selected
  have skipped := @skipping_commits _ now checked input.provisioningId
  generalize skipping : (store.addMutation reserved).setEffects _ _ = unfinished at skipped
  have kept := Checked.of_commits skipped checked
  have insertable := @insertable_revokes store now input effectId cleans.keyed cleans.checked saga
    cleans.shows cleans.coherent cleans.unrequested ids
  have admits : AdmitsAll unfinished (revokeRows now effectId 0 (saga.mains.filter granted)) := by
    rw [← skipping]
    exact Insertable.admitsAll
      ⟨fun row member => ((insertable.admits row member).addMutation _).setEffects _ _,
        insertable.distinct⟩
  have inserted := insertRevokes_commits cleans.named admits
  have revoked := Checked.of_commits inserted kept
  generalize revoking : unfinished.addEffects _ = compensating at inserted revoked
  have present : compensating.saga input.provisioningId = some saga.row := by
    rw [← revoking, ← skipping, saga_addEffects, saga_setEffects]
    exact shows.row
  have noActivity : compensating.activity.find activityId = none := by
    rw [← revoking, activity_addEffects, ← skipping]
    exact fresh
  have marked : postgres.Commits (exec "mark provisioning cleanup requested"
      (.updateSaga input.provisioningId .cleanupMarked)) compensating
        (some (saga.row.set .cleanupMarked))
        (compensating.setSaga input.provisioningId .cleanupMarked) := by
    refine commits_updateSaga.mpr ⟨fun row there => ?_, by rw [present]; rfl, rfl⟩
    exact checked_cleanupMarked (revoked.sagas row (Store.saga_found.mp there).1)
  have ready : Recordable (compensating.setSaga input.provisioningId .cleanupMarked)
      input.provisioningId activityId none (saga.row.set .cleanupMarked) :=
    ⟨Checked.of_commits marked revoked, by rw [saga_setSaga, if_pos rfl, present]; rfl, room,
      noActivity, fun _ none => by cases none⟩
  have refresh := @refreshSagaStatus_commits _ now _ _ _ _ ready
  have noted := @insertActivity_commits _ now _ _ _ _ .cleanupRequested input.actor ready
    (.obj [("reversible_grants", .num (saga.mains.filter granted).length),
      ("organization_residue", .bool saga.row.organizationId.isSome),
      ("evidence", .str input.evidence)])
    (refreshChange (compensating.setSaga input.provisioningId .cleanupMarked) now
      input.provisioningId (saga.row.set .cleanupMarked))
  rw [← skipping] at inserted
  obtain ⟨saga', step, shown, -, same⟩ := cleanup_cleaned shows cleans.coherent cleans.unrequested
    cleans.stopped inserted refresh noted
  rw [skipping] at inserted
  obtain ⟨view, rendered⟩ := renders saga' step
  have owner : saga'.row.requestedBy = input.actor :=
    (congrArg SagaIntent.requestedBy step.intent).trans cleans.owner
  have completing : _ = some reserved := (mutation_of_eq same input.caller
    input.idempotencyKey).trans (by rw [← reserving]; exact mutation_reserved cleans.unused)
  have answered := @answer_commits _ _ _ _ _
    (invalidData "cleanup provisioning saga disappeared") _ reserved view shown
      (step.coherent cleans.coherent) owner rendered completing (by rw [← reserving]; rfl)
        (by rw [← reserving]; exact shown.refers)
  unfold requestCleanup
  refine postgres.exists_commits_bind (commits_lockSaga.mpr ⟨rfl, rfl⟩) ?_
  refine postgres.exists_commits_bind (commits_expect.mpr ⟨locked, rfl⟩) ?_
  refine postgres.exists_commits_bind begun ?_
  refine postgres.exists_commits_bind (require_commits (decide_eq_true cleans.current)) ?_
  refine postgres.exists_commits_bind (require_commits (by rw [cleans.unrequested]; rfl)) ?_
  refine postgres.exists_commits_bind (require_commits (decide_eq_true ?_)) ?_
  · rcases cleans.stopped with status | status <;> rw [status] <;> decide
  refine postgres.exists_commits_bind (require_commits (decide_eq_true cleans.stopped)) ?_
  refine postgres.exists_commits_bind (commits_selectEffects.mpr ⟨rfl, rfl⟩) ?_
  rw [selected]
  refine postgres.exists_commits_bind skipped ?_
  refine postgres.exists_commits_bind inserted ?_
  refine postgres.exists_commits_bind marked ?_
  refine postgres.exists_commits_bind refresh ?_
  exact postgres.exists_commits_bind noted ⟨view, _, answered⟩

end Cleanup

end OrganizationProvisioning
