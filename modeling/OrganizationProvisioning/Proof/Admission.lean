/-
**Statements that satisfy the constraints.**

* `checked_reset`, `checked_leased`, … — the rows the `SET` clauses write satisfy the constraints of
  their tables.
* `Room` — revisions and attempts have room in their columns.
* `admitted_finalizeEffect`, `admitted_claimNext`, `admitted_quarantineExpired`, `admitted_start`,
  `admitted_retry`, `admitted_requestCleanup` — no statement of a program is refused, when the ids
  it generates are new.
-/
import OrganizationProvisioning.Proof.Progress
import OrganizationProvisioning.Library.Admission

namespace OrganizationProvisioning

open Relational Transactional Worklist

/-! ### Rows that satisfy the constraints -/

section Rows

variable {now : Timestamp} {old : EffectProgress} {row : SagaRow}

/-- A write that takes the lease away satisfies the constraints. -/
theorem checked_unleased (checked : old.checked = true) {progress : EffectProgress}
    (attempts : progress.attempts = old.attempts) (state : progress.state ≠ .inFlight)
    (token : progress.leaseToken = none) (deadline : progress.leaseUntil = none) :
    progress.checked = true := by
  unfold EffectProgress.checked at checked ⊢
  rw [decide_eq_true_eq] at checked ⊢
  rw [attempts, token, deadline]
  exact ⟨checked.1, Or.inr ⟨state, rfl, rfl⟩⟩

theorem checked_reset (checked : old.checked = true) : (old.reset now).checked = true :=
  checked_unleased checked rfl (by simp [EffectProgress.reset]) rfl rfl

theorem checked_stopped (checked : old.checked = true) {state : EffectState}
    (landed : state ≠ .inFlight) (error : String) : (old.stopped now state error).checked = true :=
  checked_unleased checked rfl landed rfl rfl

/-- An effect that is not in flight has no lease to lose. -/
theorem checked_skipped (checked : old.checked = true) (landed : old.state ≠ .inFlight) :
    (old.skipped now).checked = true := by
  have holds := checked
  unfold EffectProgress.checked at holds
  rw [decide_eq_true_eq] at holds
  rcases holds.2 with ⟨flying, -, -⟩ | ⟨-, token, deadline⟩
  · exact absurd flying landed
  · exact checked_unleased checked rfl (by simp [EffectProgress.skipped])
      (Option.isNone_iff_eq_none.mp token) (Option.isNone_iff_eq_none.mp deadline)

/-- A claim satisfies the constraints while the attempts have room. -/
theorem checked_leased (checked : old.checked = true) (room : old.attempts < 2147483647)
    (fence : Uuid) (leaseUntil : Timestamp) : (old.leased now fence leaseUntil).checked = true := by
  unfold EffectProgress.checked at checked ⊢
  rw [decide_eq_true_eq] at checked ⊢
  obtain ⟨⟨positive, -⟩, -⟩ := checked
  refine ⟨⟨?_, ?_⟩, Or.inl ⟨rfl, rfl, rfl⟩⟩
  · show 0 ≤ old.attempts + 1
    omega
  · show old.attempts + 1 ≤ 2147483647
    omega

theorem checked_moved (checked : row.checked = true) (room : row.revision < 9223372036854775807)
    (status : SagaStatus) (error : Option String) :
    (row.set (.moved now status error)).checked = true := by
  unfold SagaRow.checked at checked ⊢
  rw [decide_eq_true_eq] at checked ⊢
  obtain ⟨name, slug, owner, ⟨positive, -⟩, membership, residue⟩ := checked
  refine ⟨name, slug, owner, ⟨?_, ?_⟩, membership, residue⟩
  · show 0 < row.revision + 1
    omega
  · show row.revision + 1 ≤ 9223372036854775807
    omega

theorem checked_cleanupMarked (checked : row.checked = true) :
    (row.set .cleanupMarked).checked = true := by
  unfold SagaRow.checked at checked ⊢
  rw [decide_eq_true_eq] at checked ⊢
  exact checked

/-- The new columns of an effect satisfy the constraints where its old ones did. -/
theorem checked_effect {effect : EffectRow} (checked : effect.checked = true)
    {change : EffectProgress → EffectProgress}
    (progress : effect.toEffectProgress.checked = true →
      (change effect.toEffectProgress).checked = true) : (effect.set change).checked = true := by
  have both := Bool.and_eq_true_iff.mp checked
  exact Bool.and_eq_true_iff.mpr ⟨both.1, progress both.2⟩

end Rows

/-! ### Statements -/

section Statements

variable {α β : Type} {operation : String} {store final : Store}

/-- A statement that commits is not refused. -/
theorem admitted_of_commits {sql : Sql} {result : sql.Answer}
    (committed : postgres.Commits (exec operation sql) store result final) :
    postgres.Admitted (exec operation sql) store := by
  unfold exec
  rw [Engine.admitted_perform]
  show ¬ sql.refuses store = true
  rw [(commits_exec.mp committed).1]
  decide

/-- A statement that only reads is not refused. -/
theorem admitted_read {sql : Sql} (reads : sql.refuses store = false) :
    postgres.Admitted (exec operation sql) store := by
  unfold exec
  rw [Engine.admitted_perform]
  show ¬ sql.refuses store = true
  rw [reads]
  decide

theorem admitted_require {condition : Bool} {otherwise : Abort} :
    postgres.Admitted (require condition otherwise) store := by
  unfold require
  cases condition <;> trivial

theorem admitted_expect {found : Option α} {otherwise : Abort} :
    postgres.Admitted (expect otherwise found) store := by
  cases found <;> trivial

theorem admitted_fetchOne {found : Option α} :
    postgres.Admitted (fetchOne operation found) store :=
  admitted_expect

/-- Going on under a condition. -/
theorem admitted_required {condition : Bool} {otherwise : Abort}
    {rest : Unit → Transaction β} (holds : condition = true → postgres.Admitted (rest ()) store) :
    postgres.Admitted ((require condition otherwise).bind rest) store := by
  refine postgres.admitted_bind.mpr ⟨admitted_require, fun _ _ committed => ?_⟩
  obtain ⟨here, rfl⟩ := commits_require.mp committed
  exact holds here

/-- Going on with a value that must be there. -/
theorem admitted_expected {found : Option α} {otherwise : Abort} {rest : α → Transaction β}
    (holds : ∀ value, found = some value → postgres.Admitted (rest value) store) :
    postgres.Admitted ((expect otherwise found).bind rest) store := by
  refine postgres.admitted_bind.mpr ⟨admitted_expect, fun value _ committed => ?_⟩
  obtain ⟨here, rfl⟩ := commits_expect.mp committed
  exact holds value here

theorem admitted_fetched {found : Option α} {rest : α → Transaction β}
    (holds : ∀ value, found = some value → postgres.Admitted (rest value) store) :
    postgres.Admitted ((fetchOne operation found).bind rest) store :=
  admitted_expected holds

/-- An update of an effect is not refused when it keeps the constraints on the columns it writes. -/
theorem admitted_updateEffect {effectId : Uuid} {condition : EffectRow → Bool}
    {change : EffectProgress → EffectProgress} (checked : Checked store)
    (kept : ∀ row, store.effect effectId = some row → condition row = true →
      row.toEffectProgress.checked = true → (change row.toEffectProgress).checked = true) :
    postgres.Admitted (exec operation (.updateEffect effectId condition change)) store := by
  refine admitted_of_commits (commits_updateEffect.mpr ⟨fun row held => ?_, rfl, rfl⟩)
  obtain ⟨present, holds⟩ := Option.filter_eq_some_iff.mp held
  exact checked_effect (checked.effects row (Store.effect_found.mp present).1)
    (kept row present holds)

theorem admitted_updateEffects {id : Uuid} {condition : EffectRow → Bool}
    {change : EffectProgress → EffectProgress} (checked : Checked store)
    (kept : ∀ row, condition row = true → row.toEffectProgress.checked = true →
      (change row.toEffectProgress).checked = true) :
    postgres.Admitted (exec operation (.updateEffects id condition change)) store := by
  refine admitted_of_commits (commits_updateEffects.mpr ⟨fun row held => ?_, rfl, rfl⟩)
  obtain ⟨present, holds⟩ := List.mem_filter.mp held
  exact checked_effect (checked.effects row (List.mem_filter.mp present).1) (kept row holds)

theorem admitted_updateSaga {id : Uuid} {change : SagaProgress → SagaProgress}
    (kept : ∀ row, store.saga id = some row → (row.set change).checked = true) :
    postgres.Admitted (exec operation (.updateSaga id change)) store :=
  admitted_of_commits (commits_updateSaga.mpr ⟨kept, rfl, rfl⟩)

end Statements

/-! ### Shared programs -/

section Shared

variable {α : Type} {store : Store} {now : Timestamp} {id : Uuid} {actor caller key : String}

/-- Reserving a key is refused only for a saga that is not there. -/
theorem admitted_beginMutation {operation : Operation} {requestHash : List UInt8}
    {provisioningId : Option Uuid} (refers : Refers store provisioningId) :
    postgres.Admitted (beginMutation now caller key operation actor requestHash provisioningId)
      store := by
  unfold beginMutation
  refine postgres.admitted_bind.mpr ⟨?_, fun inserted middle _ => ?_⟩
  · cases present : store.mutation caller key with
    | none => exact admitted_of_commits (commits_insertMutation.mpr
        (Or.inl ⟨rfl, present, refers, rfl⟩))
    | some row => exact admitted_of_commits (commits_insertMutation.mpr
        (Or.inr ⟨rfl, by rw [show store.mutation _ _ = some row from present]; rfl, rfl⟩))
  · cases inserted with
    | true => trivial
    | false =>
      refine postgres.admitted_bind.mpr ⟨admitted_read rfl, fun _ _ _ => ?_⟩
      exact admitted_fetched fun _ _ => admitted_required fun _ => admitted_required fun _ =>
        admitted_expected fun _ _ => admitted_expected fun _ _ => trivial

/-- A view only reads. -/
theorem admitted_loadView : postgres.Admitted (loadView id actor) store := by
  unfold loadView
  refine postgres.admitted_bind.mpr ⟨admitted_read rfl, fun found _ _ => ?_⟩
  cases found with
  | none => trivial
  | some row =>
    refine postgres.admitted_bind.mpr ⟨admitted_read rfl, fun _ _ _ => ?_⟩
    exact admitted_expected fun _ _ => trivial

/-- **The end of a public operation**: the view and the completion of the key are not refused when
the key names a saga of the store. -/
theorem admitted_answer {otherwise : Abort} (refers : ∀ row, store.mutation caller key = some row →
      Refers store row.provisioningId) :
    postgres.Admitted ((loadView id actor).bind fun loaded => (expect otherwise loaded).bind
      fun response => (completeMutation caller key response).bind fun _ => .pure response)
      store := by
  refine postgres.admitted_bind.mpr ⟨admitted_loadView, fun loaded middle committed => ?_⟩
  refine admitted_expected fun response found => ?_
  rw [found] at committed
  obtain ⟨-, -, -, -, rfl⟩ := commits_loadView.mp committed
  refine postgres.admitted_bind.mpr ⟨?_, fun _ _ _ => trivial⟩
  unfold completeMutation
  refine postgres.admitted_bind.mpr ⟨admitted_read ?_, fun _ _ _ => admitted_require⟩
  show ((middle.mutation caller key).filter _).any _ = false
  rw [Option.any_eq_false]
  intro row held
  obtain ⟨present, -⟩ := Option.filter_eq_some_iff.mp held
  rw [Option.any_eq_false]
  intro saga named
  rw [Option.isNone_eq_false_iff]
  exact refers row present saga named

/-- **Revisions and attempts have room** in their columns. -/
structure Room (store : Store) : Prop where
  revision : ∀ row ∈ store.sagas.rows, row.revision < 9223372036854775807
  attempts : ∀ row ∈ store.effects.rows, row.attempts < 2147483647

/-- The next revision of a saga fits its column. -/
theorem activity_checked {row : SagaRow} (checked : row.checked = true)
    (room : row.revision < 9223372036854775807) {activityId : Uuid} {effectId : Option Uuid}
    {kind : ActivityKind} {evidence : Json} :
    (activityRow now activityId id effectId kind actor (row.revision + 1) evidence).checked =
      true := by
  unfold SagaRow.checked at checked
  rw [decide_eq_true_eq] at checked
  have positive := checked.2.2.2.1.1
  exact decide_eq_true (show 0 < row.revision + 1 ∧ row.revision + 1 ≤ 9223372036854775807 by
    omega)

/-- What recording an activity of a saga needs. -/
structure Recordable (store : Store) (id activityId : Uuid) (effectId : Option Uuid) (row : SagaRow) :
    Prop where
  checked : Checked store
  present : store.saga id = some row
  room : row.revision < 9223372036854775807
  fresh : store.activity.find activityId = none
  effect : ∀ effect, effectId = some effect → (store.effect effect).isSome

variable {activityId : Uuid} {effectId : Option Uuid} {row : SagaRow} {kind : ActivityKind}

/-- A new activity row at a revision that fits its column is admitted. -/
theorem Recordable.admits (ready : Recordable store id activityId effectId row) (evidence : Json)
    (change : SagaProgress → SagaProgress) :
    AdmitsActivity (store.setSaga id change) (activityRow now activityId id effectId kind actor
      (row.revision + 1) evidence) := by
  have checked := ready.checked.sagas row (Store.saga_found.mp ready.present).1
  refine ⟨activity_checked checked ready.room, ready.fresh, ?_, fun effect named => ?_⟩
  · show ((store.setSaga id change).saga id).isSome
    rw [saga_setSaga, if_pos rfl, ready.present]
    rfl
  · rw [effect_setSaga]
    exact ready.effect effect named

/-- A saga stays recordable when one of its effects turns and its organization is recorded. -/
theorem Recordable.turned {effectId : Uuid} {selected : EffectRow → Bool}
    {change : EffectProgress → EffectProgress} {organization : Option (String × String)}
    (checked : Checked ((store.setEffects selected change).setSaga id (.recordedIf organization)))
    (present : store.saga id = some row) (room : row.revision < 9223372036854775807)
    (fresh : store.activity.find activityId = none) (stored : (store.effect effectId).isSome) :
    Recordable ((store.setEffects selected change).setSaga id (.recordedIf organization)) id
      activityId (some effectId) (row.set (.recordedIf organization)) := by
  refine ⟨checked, ?_, ?_, fresh, ?_⟩
  · rw [saga_setSaga, if_pos rfl, saga_setEffects, present]
    rfl
  · rw [show (row.set (.recordedIf organization)).revision = row.revision from
      SagaProgress.recordedIf_revision]
    exact room
  · intro other named
    cases named
    rw [effect_setSaga, effect_setEffects, Option.isSome_map]
    exact stored

theorem admitted_activity {revision : Int} {evidence : Json}
    (admits : AdmitsActivity store (activityRow now activityId id effectId kind actor revision
      evidence)) :
    postgres.Admitted (insertActivity now activityId id effectId kind actor revision evidence)
      store := by
  have noted : postgres.Commits (insertActivity now activityId id effectId kind actor revision
      evidence) store () _ := commits_activity.mpr ⟨admits, rfl⟩
  exact admitted_of_commits noted

/-- **The status refresh and the activity row are not refused.** -/
theorem admitted_recording {evidence : Json} {rest : Unit → Transaction α}
    (ready : Recordable store id activityId effectId row)
    (others : ∀ change note, postgres.Admitted (rest ())
      ((store.setSaga id change).addActivity note)) :
    postgres.Admitted ((refreshSagaStatus now id true).bind fun revision =>
      (insertActivity now activityId id effectId kind actor revision evidence).bind rest)
      store := by
  have changed : (row.set (refreshChange store now id row)).checked = true :=
    checked_refreshed (ready.checked.sagas row (Store.saga_found.mp ready.present).1) ready.room
      store id
  refine postgres.admitted_bind.mpr ⟨?_, fun revision _ committed => ?_⟩
  · unfold refreshSagaStatus
    refine postgres.admitted_bind.mpr ⟨admitted_read rfl, fun locked _ locking => ?_⟩
    obtain ⟨rfl, rfl⟩ := commits_lockSaga.mp locking
    refine admitted_fetched fun saga found => ?_
    refine postgres.admitted_bind.mpr ⟨admitted_read rfl, fun rows _ selecting => ?_⟩
    obtain ⟨rfl, rfl⟩ := commits_selectEffects.mp selecting
    refine postgres.admitted_bind.mpr ⟨?_, fun _ _ _ => admitted_fetched fun _ _ => trivial⟩
    rw [Option.filter_all, ready.present] at found
    cases found
    refine admitted_of_commits (commits_updateSaga.mpr ⟨fun other present => ?_, rfl, rfl⟩)
    rw [ready.present] at present
    cases present
    rw [filter_all]
    exact changed
  · obtain ⟨found, present, -, rfl, rfl⟩ := commits_refreshSagaStatus.mp committed
    rw [ready.present] at present
    cases present
    refine postgres.admitted_bind.mpr ⟨?_, fun _ _ noted => ?_⟩
    · exact admitted_activity (ready.admits evidence _)
    · obtain ⟨-, rfl⟩ := commits_activity.mp noted
      exact others _ _

end Shared

/-! ### Results -/

section Finalize

variable {store : Store} {now : Timestamp} {record : EffectRecord} {outcome : EffectOutcome}

/-- Recording an outcome is not refused. -/
theorem admitted_recordOutcome (checked : Checked store) :
    postgres.Admitted (recordOutcome now record outcome) store := by
  have written : ∀ (result : EffectOutcome) (row : EffectRow),
      store.effect record.effectId = some row → fenced record.leaseToken row = true →
        row.toEffectProgress.checked = true →
          (result.write now row.toEffectProgress).checked = true :=
    fun result _ _ _ holds => checked_write holds result
  cases outcome with
  | organizationApplied organizationId ownerMembershipId receipt =>
    refine admitted_required fun _ => postgres.admitted_bind.mpr ⟨?_, fun _ _ committed => ?_⟩
    · exact admitted_updateEffect checked
        (written (.organizationApplied organizationId ownerMembershipId receipt))
    · obtain ⟨-, -, rfl⟩ := commits_updateEffect.mp committed
      refine postgres.admitted_bind.mpr ⟨?_, fun _ _ _ => trivial⟩
      refine admitted_updateSaga fun row present => ?_
      exact checked_recorded (checked.sagas row (Store.saga_found.mp present).1)
        (some (organizationId, ownerMembershipId))
  | entitlementApplied grantId receipt =>
    refine admitted_required fun _ => postgres.admitted_bind.mpr ⟨?_, fun _ _ _ => trivial⟩
    exact admitted_updateEffect checked (written (.entitlementApplied grantId receipt))
  | compensated receipt =>
    refine admitted_required fun _ => postgres.admitted_bind.mpr ⟨?_, fun _ _ _ => trivial⟩
    exact admitted_updateEffect checked (written (.compensated receipt))
  | failed errorCode =>
    refine postgres.admitted_bind.mpr ⟨?_, fun _ _ _ => trivial⟩
    exact admitted_updateEffect checked (written (.failed errorCode))
  | unknown errorCode =>
    refine postgres.admitted_bind.mpr ⟨?_, fun _ _ _ => trivial⟩
    exact admitted_updateEffect checked (written (.unknown errorCode))

/-- **No statement of a finalization is refused.** -/
theorem admitted_finalizeEffect {activityId : Uuid} {actor : String} (checked : Checked store)
    (room : Room store) (fresh : store.activity.find activityId = none) :
    postgres.Admitted (finalizeEffect now activityId record actor outcome) store := by
  unfold finalizeEffect
  refine postgres.admitted_bind.mpr ⟨admitted_read rfl, fun locked store locking => ?_⟩
  obtain ⟨rfl, rfl⟩ := commits_lockSaga.mp locking
  refine admitted_fetched fun row found => ?_
  rw [Option.filter_all] at found
  refine postgres.admitted_bind.mpr ⟨admitted_read rfl, fun current store fencing => ?_⟩
  obtain ⟨same, rfl⟩ := commits_lockEffect.mp fencing
  cases current with
  | none => trivial
  | some effect =>
    refine postgres.admitted_bind.mpr ⟨admitted_recordOutcome checked, ?_⟩
    rintro ⟨result, kind, evidence⟩ middle recorded
    have held := (Option.filter_eq_some_iff.mp same.symm).1
    have kept := Checked.of_commits recorded checked
    obtain ⟨-, -, rfl⟩ := commits_recordOutcome recorded
    have stored : (store.effect record.effectId).isSome := by
      rw [held]
      rfl
    have ready := Recordable.turned kept found
      (room.revision row (Store.saga_found.mp found).1) fresh stored
    exact admitted_recording ready fun _ _ => trivial

end Finalize

/-! ### Claims -/

section Claim

variable {store : Store} {now utcNow : Timestamp} {actor : String} {fence activityId : Uuid}
  {leaseSeconds : Int} {row : SagaRow}

/-- Reading an effect to claim. -/
theorem admitted_dueEffect : postgres.Admitted (dueEffect row) store := by
  unfold dueEffect
  cases row.cleanupRequested <;>
    exact postgres.admitted_bind.mpr ⟨admitted_read rfl, fun _ _ _ => admitted_fetchOne⟩

/-- An effect to claim is a pending effect. -/
theorem dueEffect_stored {effect : EffectRow} {final : Store}
    (committed : postgres.Commits (dueEffect row) store effect final) :
    final = store ∧ store.effect effect.effectId = some effect ∧ effect.state = .pending := by
  have found : ∀ (condition : EffectRow → Bool) (order : EffectRow → EffectRow → Bool)
      (operation : String), (∀ row, condition row = true → row.state = .pending) →
      postgres.Commits ((exec operation (.selectEffects row.provisioningId
        condition order)).bind fun rows : List EffectRow => fetchOne operation rows.head?) store
          effect final →
      final = store ∧ store.effect effect.effectId = some effect ∧ effect.state = .pending := by
    intro condition order operation waits ran
    obtain ⟨rows, middle, selected, fetched⟩ := postgres.commits_bind.mp ran
    obtain ⟨rfl, rfl⟩ := commits_selectEffects.mp selected
    obtain ⟨head, rfl⟩ := commits_fetchOne.mp fetched
    have member := List.mem_of_mem_head? (Option.mem_def.mpr head)
    rw [mem_orderBy, List.mem_filter] at member
    exact ⟨rfl, (Store.mem_effectsOf.mp member.1).1, waits effect member.2⟩
  unfold dueEffect at committed
  split at committed
  · exact found _ _ _ (fun row holds => (of_decide_eq_true holds).2) committed
  · exact found _ _ _ (fun row holds => (of_decide_eq_true holds).2) committed

/-- **Attempts have room** where a claim counts them: on the pending effects. -/
def Spare (store : Store) : Prop :=
  ∀ effect ∈ store.effects.rows, effect.state = .pending → effect.attempts < 2147483647

/-- **No statement of a claim is refused.** -/
theorem admitted_claimSaga (checked : Checked store) (room : row.revision < 9223372036854775807)
    (spare : Spare store) (present : store.saga row.provisioningId = some row)
    (fresh : store.activity.find activityId = none) :
    postgres.Admitted (claimSaga now utcNow actor fence activityId leaseSeconds row) store := by
  unfold claimSaga
  refine postgres.admitted_bind.mpr ⟨admitted_dueEffect, fun effect _ due => ?_⟩
  obtain ⟨rfl, stored, waits⟩ := dueEffect_stored due
  refine admitted_expected fun leaseUntil _ => ?_
  refine postgres.admitted_bind.mpr ⟨?_, fun leased _ leasing => ?_⟩
  · refine admitted_updateEffect checked fun other found _ old => ?_
    rw [stored] at found
    cases found
    exact checked_leased old (spare effect (Store.effect_found.mp stored).1 waits) fence leaseUntil
  obtain ⟨-, -, rfl⟩ := commits_updateEffect.mp leasing
  refine admitted_fetched fun leasedRow _ => ?_
  have sagaChecked := checked.sagas row (Store.saga_found.mp present).1
  refine postgres.admitted_bind.mpr ⟨?_, fun updated _ moving => ?_⟩
  · refine admitted_updateSaga fun other found => ?_
    rw [saga_setEffects, present] at found
    cases found
    exact checked_moved sagaChecked room _ _
  obtain ⟨-, same, rfl⟩ := commits_updateSaga.mp moving
  refine admitted_fetched fun updatedRow found => ?_
  rw [same, saga_setEffects, present] at found
  cases found
  refine postgres.admitted_bind.mpr ⟨?_, fun _ _ noted => ?_⟩
  · refine admitted_activity ⟨?_, fresh, ?_, ?_⟩
    · exact activity_checked sagaChecked room
    · rw [show (activityRow now activityId row.provisioningId (some effect.effectId) .effectClaimed
        actor _ _).provisioningId = row.provisioningId from rfl, saga_setSaga, if_pos rfl,
        saga_setEffects, present]
      rfl
    · intro other named
      cases named
      rw [effect_setSaga, effect_setEffects, stored]
      rfl
  · refine postgres.admitted_bind.mpr ⟨admitted_read rfl, fun _ _ _ => ?_⟩
    exact admitted_fetched fun _ _ => trivial

theorem admitted_claimNext (checked : Checked store) (room : Room store)
    (fresh : store.activity.find activityId = none) :
    postgres.Admitted (claimNext now utcNow actor fence activityId leaseSeconds) store := by
  unfold claimNext
  refine postgres.admitted_bind.mpr ⟨admitted_read rfl, fun found _ scanning => ?_⟩
  obtain ⟨scan, rfl⟩ := commits_scanSagas.mp scanning
  cases found with
  | none => trivial
  | some saga =>
    refine postgres.admitted_bind.mpr ⟨?_, fun _ _ _ => trivial⟩
    have present := (scan saga rfl).1
    exact admitted_claimSaga checked (room.revision saga (Store.saga_found.mp present).1)
      (fun effect member _ => room.attempts effect member) present fresh

end Claim

/-! ### Quarantines -/

section Quarantine

variable {store : Store} {now : Timestamp} {actor : String} {row : SagaRow}

/-- **No statement of one quarantine is refused**, and it leaves the saga under review with a new
activity row. -/
theorem admitted_quarantineSaga {activityId : Uuid} (checked : Checked store)
    (present : store.saga row.provisioningId = some row)
    (room : row.revision < 9223372036854775807)
    (fresh : store.activity.find activityId = none) :
    postgres.Admitted (quarantineSaga now actor activityId row) store ∧
      ∀ value final, postgres.Commits (quarantineSaga now actor activityId row) store value final →
        ∃ selected note, note.activityId = activityId ∧ final = ((store.setEffects selected
          (.stopped now .unknown leaseExpiredError)).setSaga row.provisioningId
            (.moved now .manualReview (some leaseExpiredError))).addActivity note := by
  have sagaChecked := checked.sagas row (Store.saga_found.mp present).1
  unfold quarantineSaga
  constructor
  · refine postgres.admitted_bind.mpr ⟨admitted_read rfl, fun rows store selecting => ?_⟩
    obtain ⟨rfl, rfl⟩ := commits_selectEffects.mp selecting
    refine admitted_expected fun effect head => ?_
    have member := List.mem_of_mem_head? (Option.mem_def.mpr head)
    rw [mem_orderBy, List.mem_filter] at member
    have stored := (Store.mem_effectsOf.mp member.1).1
    refine admitted_fetched fun previousFence _ => ?_
    refine postgres.admitted_bind.mpr ⟨?_, fun _ _ stopping => ?_⟩
    · exact admitted_updateEffect checked fun _ _ _ old => checked_stopped old (by decide) _
    obtain ⟨-, -, rfl⟩ := commits_updateEffect.mp stopping
    refine postgres.admitted_bind.mpr ⟨?_, fun updated _ moving => ?_⟩
    · refine admitted_updateSaga fun other found => ?_
      rw [saga_setEffects, present] at found
      cases found
      exact checked_moved sagaChecked room _ _
    obtain ⟨-, same, rfl⟩ := commits_updateSaga.mp moving
    refine admitted_fetched fun updatedRow found => ?_
    rw [same, saga_setEffects, present] at found
    cases found
    refine admitted_activity ⟨activity_checked sagaChecked room, fresh, ?_, ?_⟩
    · rw [show (activityRow now activityId row.provisioningId (some effect.effectId)
        .effectOutcomeUnknown actor _ _).provisioningId = row.provisioningId from rfl,
        saga_setSaga, if_pos rfl, saga_setEffects, present]
      rfl
    · intro other named
      cases named
      rw [effect_setSaga, effect_setEffects, stored]
      rfl
  · intro value final committed
    simp only [Tx.bind_eq, Engine.commits_bind, commits_selectEffects, commits_expect,
      commits_fetchOne, commits_updateEffect, commits_updateSaga, commits_activity] at committed
    obtain ⟨_, store, ⟨rfl, rfl⟩, effect, _, ⟨-, rfl⟩, previousFence, _, ⟨-, rfl⟩, _, _,
      ⟨-, -, rfl⟩, _, _, ⟨-, -, rfl⟩, updated, _, ⟨-, rfl⟩, -, rfl⟩ := committed
    exact ⟨_, _, rfl, rfl⟩

/-- What the loop relies on, after one more saga. -/
theorem quarantined_ready {activityId : Nat → Uuid} {fuel quarantined : Nat}
    (room : ∀ row ∈ store.sagas.rows,
      row.status = .running ∨ row.status = .cleanupRunning → row.revision < 9223372036854775807)
    (fresh : ∀ index, quarantined ≤ index → index < quarantined + (fuel + 1) →
      store.activity.find (activityId index) = none)
    (distinct : ∀ first second, first < second → second < quarantined + (fuel + 1) →
      activityId first ≠ activityId second)
    {final : Store} {change : EffectProgress → EffectProgress} {id : Uuid} {error : Option String}
    (leaves : ∃ selected note, note.activityId = activityId quarantined ∧
      final = ((store.setEffects selected change).setSaga id
        (.moved now .manualReview error)).addActivity note) :
    (∀ row ∈ final.sagas.rows,
      row.status = .running ∨ row.status = .cleanupRunning → row.revision < 9223372036854775807) ∧
    ∀ index, quarantined + 1 ≤ index → index < quarantined + 1 + fuel →
      final.activity.find (activityId index) = none := by
  obtain ⟨selected, note, same, rfl⟩ := leaves
  constructor
  · intro other member running
    obtain ⟨old, inside, here⟩ := mem_modify_cases (by exact fun _ => rfl) member
    rcases here with rfl | ⟨-, rfl⟩
    · exact room other inside running
    · rcases running with impossible | impossible <;> cases impossible
  · intro index low high
    have absent := fresh index (by omega) (by omega)
    have differs := distinct quarantined index (by omega) (by omega)
    show (store.activity.insert note).find (activityId index) = none
    rw [Table.find_insert, absent, same, if_neg differs]
    rfl

/-- **No statement of the loop is refused** while the revisions of the running sagas have room and the
activity ids to come are new. -/
theorem admitted_quarantineLoop {activityId : Nat → Uuid} {fuel quarantined : Nat}
    (checked : Checked store) (room : ∀ row ∈ store.sagas.rows,
      row.status = .running ∨ row.status = .cleanupRunning → row.revision < 9223372036854775807)
    (fresh : ∀ index, quarantined ≤ index → index < quarantined + fuel →
      store.activity.find (activityId index) = none)
    (distinct : ∀ first second, first < second → second < quarantined + fuel →
      activityId first ≠ activityId second) :
    postgres.Admitted (quarantineLoop now actor activityId fuel quarantined) store := by
  induction fuel generalizing store quarantined with
  | zero => trivial
  | succ fuel ih =>
    unfold quarantineLoop
    refine postgres.admitted_bind.mpr ⟨admitted_read rfl, fun found store scanning => ?_⟩
    obtain ⟨scan, rfl⟩ := commits_scanSagas.mp scanning
    cases found with
    | none => trivial
    | some row =>
      obtain ⟨present, stale, due⟩ := scan row rfl
      simp only [hasExpired, Bool.and_eq_true, decide_eq_true_eq] at due
      obtain ⟨admitted, leaves⟩ := @admitted_quarantineSaga store now actor row _ checked present
        (room row (Store.saga_found.mp present).1 due.1)
        (fresh quarantined (Nat.le_refl _) (by omega))
      refine postgres.admitted_bind.mpr ⟨admitted, fun value middle committed => ?_⟩
      obtain ⟨room', fresh'⟩ :=
        quarantined_ready room fresh distinct (leaves value middle committed)
      exact ih (Checked.of_commits committed checked) room' fresh'
        fun first second less small => distinct first second less (by omega)

theorem admitted_quarantineExpired {activityId : Nat → Uuid} {limit : Int} (checked : Checked store)
    (room : Room store)
    (fresh : ∀ index < limit.toNat, store.activity.find (activityId index) = none)
    (distinct : ∀ first second, first < second → second < limit.toNat →
      activityId first ≠ activityId second) :
    postgres.Admitted (quarantineExpired now actor activityId limit) store := by
  refine admitted_quarantineLoop checked (fun row member _ => room.revision row member) ?_ ?_
  · exact fun index _ small => fresh index (by omega)
  · exact fun first second less small => distinct first second less (by omega)

end Quarantine

/-! ### Inserting effects -/

section Inserts

variable {store : Store} {now : Timestamp} {id : Uuid} {effectId : Nat → Uuid}

/-- What a list of new effects needs to be inserted: each satisfies the constraints beside the rows of
the store, and no two of them share an id, a key or a place in their saga. -/
structure Insertable (store : Store) (rows : List EffectRow) : Prop where
  admits : ∀ row ∈ rows, Admits store row
  distinct : rows.Pairwise fun first second => first.effectId ≠ second.effectId ∧
    first.downstreamKey ≠ second.downstreamKey ∧
    ¬ (first.kind = second.kind ∧ first.ordinal = second.ordinal)

/-- An inserted row leaves the others admitted. -/
theorem Admits.after {row other : EffectRow} (admits : Admits store other)
    (fresh : store.effect row.effectId = none) (ids : row.effectId ≠ other.effectId)
    (keys : row.downstreamKey ≠ other.downstreamKey)
    (places : ¬ (row.kind = other.kind ∧ row.ordinal = other.ordinal)) :
    Admits (store.addEffect row) other := by
  refine ⟨admits.checked, ?_, fun third member => ?_, fun third member => ?_, admits.saga,
    fun source named => ?_⟩
  · rw [effect_addEffect, admits.fresh, if_neg ids]
    rfl
  · rcases mem_insert_cases member with rfl | there
    · exact keys
    · exact admits.key third there
  · rw [effectsOf_addEffect fresh, List.mem_append] at member
    rcases member with there | here
    · exact admits.ordinal third there
    · split at here
      · rw [List.mem_singleton.mp here]
        exact places
      · cases here
  · rw [effect_addEffect, Option.isSome_or]
    rw [admits.source source named]
    rfl

theorem Insertable.admitsAll {rows : List EffectRow} (insertable : Insertable store rows) :
    AdmitsAll store rows := by
  induction rows generalizing store with
  | nil => trivial
  | cons row rows ih =>
    obtain ⟨admits, distinct⟩ := insertable
    rw [List.pairwise_cons] at distinct
    have first := admits row List.mem_cons_self
    refine ⟨first, ih ⟨fun other member => ?_, distinct.2⟩⟩
    obtain ⟨ids, keys, places⟩ := distinct.1 other member
    exact (admits other (List.mem_cons_of_mem _ member)).after first.fresh ids keys places

theorem admitted_insertEffect {operation : String} {row : EffectRow} (admits : Admits store row) :
    postgres.Admitted (exec operation (.insertEffect row)) store := by
  have inserted : postgres.Commits (exec operation (.insertEffect row)) store () _ :=
    commits_insertEffect.mpr ⟨admits, rfl⟩
  exact admitted_of_commits inserted

theorem admitted_insertGrants {ordinal : Nat} {grants : List BootstrapGrant}
    (admits : AdmitsAll store (grantRows now id effectId ordinal grants)) :
    postgres.Admitted (insertGrants now id effectId ordinal grants) store := by
  induction grants generalizing ordinal store with
  | nil => trivial
  | cons grant grants ih =>
    unfold insertGrants
    refine admitted_required fun _ => ?_
    refine postgres.admitted_bind.mpr ⟨admitted_insertEffect admits.1, fun _ _ committed => ?_⟩
    obtain ⟨-, rfl⟩ := commits_insertEffect.mp committed
    exact ih admits.2

/-- The revocations of grants, from a position on. -/
def revokeRows (now : Timestamp) (effectId : Nat → Uuid) : Nat → List EffectRow → List EffectRow
  | _, [] => []
  | index, source :: sources => revokeEffect now (effectId index) source
      (source.subjectKind.getD "") (source.feature.getD "") (source.externalId.getD "") ::
        revokeRows now effectId (index + 1) sources

theorem admitted_insertRevokes {index : Nat} {sources : List EffectRow}
    (admits : AdmitsAll store (revokeRows now effectId index sources)) :
    postgres.Admitted (insertRevokes now effectId index sources) store := by
  induction sources generalizing index store with
  | nil => trivial
  | cons source sources ih =>
    unfold insertRevokes
    refine admitted_fetched fun subjectKind subject => admitted_fetched fun feature named =>
      admitted_expected fun grantId grant => ?_
    have row : revokeEffect now (effectId index) source (source.subjectKind.getD "")
        (source.feature.getD "") (source.externalId.getD "") =
          revokeEffect now (effectId index) source subjectKind feature grantId := by
      rw [subject, named, grant]
      rfl
    have first := admits.1
    have rest := admits.2
    rw [row] at first rest
    refine postgres.admitted_bind.mpr ⟨admitted_insertEffect first, fun _ _ committed => ?_⟩
    obtain ⟨-, rfl⟩ := commits_insertEffect.mp committed
    exact ih rest

end Inserts

end OrganizationProvisioning
