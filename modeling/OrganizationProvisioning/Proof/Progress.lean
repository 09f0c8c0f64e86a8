/-
**Calls that commit.**

* `checked_write`, `checked_recorded`, `checked_refreshed` — the rows the `SET` clauses write satisfy
  the constraints, as long as a revision fits its column.
* `finalizeEffect_commits` — a result under its fence is accepted whenever the activity id is new
  and the revision has room.
-/
import OrganizationProvisioning.Run.Persist

namespace OrganizationProvisioning

open Relational Transactional Worklist

/-! ### Rows that satisfy the constraints -/

section Checked

variable {now : Timestamp} {row : SagaRow}

/-- What an outcome writes satisfies the constraints. -/
theorem checked_write {old : EffectProgress} (checked : old.checked = true)
    (outcome : EffectOutcome) : (outcome.write now old).checked = true := by
  unfold EffectProgress.checked at checked ⊢
  rw [decide_eq_true_eq] at checked ⊢
  cases outcome <;> refine ⟨checked.1, Or.inr ⟨?_, rfl, rfl⟩⟩ <;> exact fun same => by cases same

/-- Recording an organization satisfies the constraints. -/
theorem checked_recorded (checked : row.checked = true)
    (organization : Option (String × String)) :
    (row.set (.recordedIf organization)).checked = true := by
  cases organization with
  | none => exact checked
  | some pair =>
    unfold SagaRow.checked at checked ⊢
    rw [decide_eq_true_eq] at checked ⊢
    exact ⟨checked.1, checked.2.1, checked.2.2.1, checked.2.2.2.1, rfl, fun _ => rfl⟩

/-- The status refresh satisfies the constraints. -/
theorem checked_refreshed (checked : row.checked = true)
    (room : row.revision < 9223372036854775807) (store : Store) (id : Uuid) :
    (row.set (refreshChange store now id row)).checked = true := by
  unfold SagaRow.checked at checked ⊢
  rw [decide_eq_true_eq] at checked ⊢
  obtain ⟨name, slug, owner, ⟨positive, -⟩, membership, -⟩ := checked
  refine ⟨name, slug, owner, ⟨?_, ?_⟩, membership, fun residue => residue⟩
  · show 0 < row.revision + 1
    omega
  · show row.revision + 1 ≤ 9223372036854775807
    omega

end Checked

/-! ### Results -/

section Finalize

variable {store : Store} {now : Timestamp} {activityId : Uuid} {record : EffectRecord}
  {outcome : EffectOutcome} {effect : EffectRow} {row : SagaRow}

/-- An outcome of the kind of its effect can be recorded. -/
theorem recordOutcome_commits (now : Timestamp) (checked : Checked store)
    (known : store.saga record.provisioningId = some row)
    (fits : outcome.fits record.kind = true) :
    ∃ kind evidence, postgres.Commits (recordOutcome now record outcome) store
      (outcome.result, kind, evidence)
        ((store.setEffects (fun row => row.effectId = record.effectId &&
          fenced record.leaseToken row) (outcome.write now)).setSaga record.provisioningId
            (.recordedIf outcome.organization)) := by
  have checkedRow := checked.sagas row (Store.saga_found.mp known).1
  have written : ∀ effect, (store.effect record.effectId).filter (fenced record.leaseToken) =
      some effect → (effect.set (outcome.write now)).checked = true := by
    intro effect held
    have stored := (Store.effect_found.mp (Option.filter_eq_some_iff.mp held).1).1
    have both := Bool.and_eq_true_iff.mp (checked.effects effect stored)
    exact Bool.and_eq_true_iff.mpr ⟨both.1, checked_write both.2 outcome⟩
  cases outcome with
  | organizationApplied organizationId ownerMembershipId receipt =>
    refine ⟨.effectApplied, .obj [("organization_id", .str organizationId),
      ("owner_membership_id", .str ownerMembershipId)], ?_⟩
    simp only [recordOutcome, Tx.bind_eq, Tx.pure_eq, Engine.commits_bind, Engine.commits_pure,
      commits_require, commits_updateEffect, commits_updateSaga]
    refine ⟨(), _, ⟨fits, rfl⟩, _, _, ⟨written, rfl, rfl⟩, _, _, ⟨?_, rfl, rfl⟩, rfl, rfl⟩
    intro other present
    rw [saga_setEffects, known] at present
    cases present
    exact checked_recorded checkedRow (some (organizationId, ownerMembershipId))
  | entitlementApplied grantId receipt =>
    refine ⟨.effectApplied, .obj [("grant_id", .str grantId)], ?_⟩
    simp only [recordOutcome, Tx.bind_eq, Tx.pure_eq, Engine.commits_bind, Engine.commits_pure,
      commits_require, commits_updateEffect]
    exact ⟨(), _, ⟨fits, rfl⟩, _, _, ⟨written, rfl, rfl⟩, rfl, setSaga_none _ _⟩
  | compensated receipt =>
    refine ⟨.effectCompensated, .obj [("grant_id", .optional record.externalId)], ?_⟩
    simp only [recordOutcome, Tx.bind_eq, Tx.pure_eq, Engine.commits_bind, Engine.commits_pure,
      commits_require, commits_updateEffect]
    exact ⟨(), _, ⟨fits, rfl⟩, _, _, ⟨written, rfl, rfl⟩, rfl, setSaga_none _ _⟩
  | failed errorCode =>
    refine ⟨.effectFailed, .obj [("error_code", .str errorCode)], ?_⟩
    simp only [recordOutcome, Tx.bind_eq, Tx.pure_eq, Engine.commits_bind, Engine.commits_pure,
      commits_updateEffect]
    exact ⟨_, _, ⟨written, rfl, rfl⟩, rfl, setSaga_none _ _⟩
  | unknown errorCode =>
    refine ⟨.effectOutcomeUnknown, .obj [("error_code", .str errorCode)], ?_⟩
    simp only [recordOutcome, Tx.bind_eq, Tx.pure_eq, Engine.commits_bind, Engine.commits_pure,
      commits_updateEffect]
    exact ⟨_, _, ⟨written, rfl, rfl⟩, rfl, setSaga_none _ _⟩

/-- **A result under its fence commits** when the activity id is new and the revision has room. -/
theorem finalizeEffect_commits (checked : Checked store)
    (known : store.saga record.provisioningId = some row)
    (held : (store.effect record.effectId).filter (fenced record.leaseToken) = some effect)
    (fits : outcome.fits record.kind = true) (fresh : store.activity.find activityId = none)
    (room : row.revision < 9223372036854775807) (actor : String) :
    ∃ final, postgres.Commits (finalizeEffect now activityId record actor outcome) store
      outcome.result final := by
  obtain ⟨kind, evidence, recorded⟩ := recordOutcome_commits now checked known fits
  have kept : Checked ((store.setEffects (fun row => row.effectId = record.effectId &&
      fenced record.leaseToken row) (outcome.write now)).setSaga record.provisioningId
        (.recordedIf outcome.organization)) := Checked.of_commits recorded checked
  have stays := Persist.of_commits recorded
  generalize there : (store.setEffects (fun row => row.effectId = record.effectId &&
      fenced record.leaseToken row) (outcome.write now)).setSaga record.provisioningId
        (.recordedIf outcome.organization) = middle at recorded kept stays
  have present : middle.saga record.provisioningId =
      some (row.set (.recordedIf outcome.organization)) := by
    rw [← there, saga_setSaga, if_pos rfl, saga_setEffects, known]
    rfl
  have noActivity : middle.activity.find activityId = none := by
    rw [← there]
    exact fresh
  obtain ⟨stored, effectFound, -⟩ :=
    stays.effects record.effectId effect (Option.filter_eq_some_iff.mp held).1
  have revision : (row.set (.recordedIf outcome.organization)).revision = row.revision :=
    SagaProgress.recordedIf_revision
  have refresh : postgres.Commits (refreshSagaStatus now record.provisioningId true) middle
      ((row.set (.recordedIf outcome.organization)).revision + 1) (middle.setSaga
        record.provisioningId (refreshChange middle now record.provisioningId
          (row.set (.recordedIf outcome.organization)))) :=
    commits_refreshSagaStatus.mpr ⟨_, present, checked_refreshed
      (kept.sagas _ (Store.saga_found.mp present).1) (by rw [revision]; exact room) middle
        record.provisioningId, rfl, rfl⟩
  have admits : AdmitsActivity (middle.setSaga record.provisioningId (refreshChange middle now
      record.provisioningId (row.set (.recordedIf outcome.organization))))
      (activityRow now activityId record.provisioningId (some record.effectId) kind actor
        ((row.set (.recordedIf outcome.organization)).revision + 1) evidence) := by
    have positive := kept.sagas _ (Store.saga_found.mp present).1
    unfold SagaRow.checked at positive
    rw [decide_eq_true_eq] at positive
    refine ⟨?_, noActivity, ?_, ?_⟩
    · have bounds := positive.2.2.2.1.1
      rw [revision] at bounds ⊢
      exact decide_eq_true (show 0 < row.revision + 1 ∧ row.revision + 1 ≤ 9223372036854775807 by
        omega)
    · show ((middle.setSaga _ _).saga record.provisioningId).isSome
      rw [saga_setSaga, if_pos rfl, present]
      rfl
    · intro id named
      cases named
      rw [effect_setSaga, effectFound]
      rfl
  obtain ⟨final, noted⟩ : ∃ final, final = (middle.setSaga record.provisioningId
      (refreshChange middle now record.provisioningId (row.set (.recordedIf
        outcome.organization)))).addActivity (activityRow now activityId record.provisioningId
          (some record.effectId) kind actor
            ((row.set (.recordedIf outcome.organization)).revision + 1) evidence) := ⟨_, rfl⟩
  refine ⟨final, ?_⟩
  unfold finalizeEffect
  simp only [Tx.bind_eq, Tx.pure_eq, Engine.commits_bind, commits_lockSaga, commits_fetchOne,
    commits_lockEffect, Option.filter_all]
  refine ⟨_, _, ⟨rfl, rfl⟩, row, _, ⟨known, rfl⟩, _, _, ⟨rfl, rfl⟩, ?_⟩
  rw [held]
  simp only [Engine.commits_bind]
  exact ⟨_, middle, recorded, _, _, refresh, (), _, commits_activity.mpr ⟨admits, noted⟩, rfl,
    rfl⟩

end Finalize

end OrganizationProvisioning
