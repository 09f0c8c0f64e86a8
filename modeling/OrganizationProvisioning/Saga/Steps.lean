/-
**Every transition keeps a saga coherent.**

* `Turn.kept`, `Turn.blamed`, `Turn.receipt`, `Turn.grant`, `Turn.creates` — what a turn can write
  on its effect.
* `Coherent.turned` — a turn keeps the invariant; `Coherent.cleaned` — so does a cleanup request.
* `Begins.coherent`, `Step.coherent` — the machine starts and stays coherent.
-/
import OrganizationProvisioning.Saga.Coherent

namespace OrganizationProvisioning

open Worklist

/-! ### Turns -/

namespace EffectOutcome

variable {now : Timestamp} {outcome : EffectOutcome} {old : EffectProgress} {kind : EffectKind}

/-- The state an outcome of the right kind writes. -/
theorem state_write (fits : outcome.fits kind = true) :
    (outcome.write now old).state = finishedState (!kind.isMain) ∨
      (outcome.write now old).state = .failed ∨ (outcome.write now old).state = .unknown := by
  cases outcome with
  | failed errorCode => exact Or.inr (Or.inl rfl)
  | unknown errorCode => exact Or.inr (Or.inr rfl)
  | _ =>
    simp only [EffectOutcome.fits, decide_eq_true_eq] at fits
    subst fits
    exact Or.inl rfl

/-- A successful outcome finishes its effect. -/
theorem state_succeeds (fits : outcome.fits kind = true) (succeeds : outcome.succeeds = true) :
    (outcome.write now old).state = finishedState (!kind.isMain) := by
  cases outcome with
  | failed errorCode => cases succeeds
  | unknown errorCode => cases succeeds
  | _ =>
    simp only [EffectOutcome.fits, decide_eq_true_eq] at fits
    subst fits
    rfl

theorem error_write (stopped : (outcome.write now old).state = .failed ∨
    (outcome.write now old).state = .unknown) : (outcome.write now old).lastError.isSome := by
  cases outcome <;> first | rfl | simp [write, EffectProgress.applied, EffectProgress.compensated]
    at stopped

theorem receipt_write (applied : (outcome.write now old).state = .applied) :
    (outcome.write now old).externalId.isSome := by
  cases outcome <;> first | rfl | simp [write, EffectProgress.stopped, EffectProgress.compensated]
    at applied

theorem external_write (fits : outcome.fits .revokeEntitlement = true) :
    (outcome.write now old).externalId = old.externalId := by
  cases outcome <;> first | rfl | simp [EffectOutcome.fits] at fits

/-- An outcome creates an organization exactly when it applies a creation. -/
theorem organization_write (fits : outcome.fits .createOrganization = true) :
    if (outcome.write now old).state = .applied then
      (outcome.organization.map Prod.fst) = (outcome.write now old).externalId
    else outcome.organization = none := by
  cases outcome <;> first | rfl | simp [EffectOutcome.fits] at fits

theorem organization_other (fits : outcome.fits kind = true) (other : kind ≠ .createOrganization) :
    outcome.organization = none := by
  cases outcome with
  | organizationApplied organizationId ownerMembershipId receipt =>
    simp only [EffectOutcome.fits, decide_eq_true_eq] at fits
    exact absurd fits other
  | _ => rfl

end EffectOutcome

namespace Turn

variable {now : Timestamp} {effect : EffectRow} {transition : Transition}
  {progress : EffectProgress} {organization : Option (String × String)}

/-- The states a turn starts from. -/
theorem open_state (turn : Turn now effect transition progress organization) :
    effect.state = .pending ∨ effect.state = .inFlight ∨ effect.state = .failed ∨
      effect.state = .unknown := by
  cases turn <;> simp [*]

/-- The state a turn ends in: finished for the kind of the effect, or open again. -/
theorem state (turn : Turn now effect transition progress organization) :
    progress.state = finishedState (!effect.kind.isMain) ∨ progress.state = .pending ∨
      progress.state = .inFlight ∨ progress.state = .failed ∨ progress.state = .unknown := by
  cases turn with
  | claim fence leaseUntil due => exact Or.inr (Or.inr (Or.inl rfl))
  | finalize fence outcome leased token fits =>
    rcases outcome.state_write fits with finished | failed | unknown
    · exact Or.inl finished
    · exact Or.inr (Or.inr (Or.inr (Or.inl failed)))
    · exact Or.inr (Or.inr (Or.inr (Or.inr unknown)))
  | quarantine leased late => exact Or.inr (Or.inr (Or.inr (Or.inr rfl)))
  | retryFailed stopped => exact Or.inr (Or.inl rfl)
  | confirmNotApplied doubted => exact Or.inr (Or.inl rfl)
  | confirmApplied outcome doubted fits succeeds =>
    exact Or.inl (EffectOutcome.state_succeeds fits succeeds)

/-- A turn leaves its effect in the list of its phase. -/
theorem kept (turn : Turn now effect transition progress organization) {cleanup : Bool}
    (kind : effect.kind.isMain = !cleanup) :
    stage cleanup (effect.set fun _ => progress) ≠ .dropped := by
  rcases turn.state with finished | still
  · have done : stage cleanup (effect.set fun _ => progress) = .finished := by
      rw [stage_finished]
      simpa [kind] using finished
    rw [done]
    decide
  · intro dropped
    have opens : stage cleanup (effect.set fun _ => progress) = .busy ∨
        stage cleanup (effect.set fun _ => progress) = .waiting := stage_open.mpr still
    rw [dropped] at opens
    simp at opens

/-- A failure or a doubt has its error. -/
theorem blamed (turn : Turn now effect transition progress organization)
    (stopped : progress.state = .failed ∨ progress.state = .unknown) :
    progress.lastError.isSome := by
  cases turn with
  | claim fence leaseUntil due => simp [EffectProgress.leased] at stopped
  | finalize fence outcome leased token fits => exact EffectOutcome.error_write stopped
  | quarantine leased late => rfl
  | retryFailed failed => simp [EffectProgress.reset] at stopped
  | confirmNotApplied doubted => simp [EffectProgress.reset] at stopped
  | confirmApplied outcome doubted fits succeeds => exact EffectOutcome.error_write stopped

/-- An applied effect has the id its call returned. -/
theorem receipt (turn : Turn now effect transition progress organization)
    (applied : progress.state = .applied) : progress.externalId.isSome := by
  cases turn with
  | claim fence leaseUntil due => simp [EffectProgress.leased] at applied
  | finalize fence outcome leased token fits => exact EffectOutcome.receipt_write applied
  | quarantine leased late => simp [EffectProgress.stopped] at applied
  | retryFailed failed => simp [EffectProgress.reset] at applied
  | confirmNotApplied doubted => simp [EffectProgress.reset] at applied
  | confirmApplied outcome doubted fits succeeds => exact EffectOutcome.receipt_write applied

/-- A revocation keeps its grant id. -/
theorem grant (turn : Turn now effect transition progress organization)
    (kind : effect.kind = .revokeEntitlement) : progress.externalId = effect.externalId := by
  cases turn with
  | finalize fence outcome leased token fits =>
    rw [kind] at fits
    exact EffectOutcome.external_write fits
  | confirmApplied outcome doubted fits succeeds =>
    rw [kind] at fits
    exact EffectOutcome.external_write fits
  | _ => rfl

/-- A turn records an organization exactly when it applies a creation. -/
theorem creates (turn : Turn now effect transition progress organization)
    (kind : effect.kind = .createOrganization) :
    if progress.state = .applied then (organization.map Prod.fst) = progress.externalId
    else organization = none := by
  cases turn with
  | finalize fence outcome leased token fits =>
    rw [kind] at fits
    exact EffectOutcome.organization_write fits
  | confirmApplied outcome doubted fits succeeds =>
    rw [kind] at fits
    exact EffectOutcome.organization_write fits
  | _ => rfl

/-! Each transition has its own turn. -/

theorem of_claim {effectId fence : Uuid}
    (turn : Turn now effect (.claim effectId fence) progress organization) :
    effect.effectId = effectId ∧ effect.state = .pending ∧
      ∃ leaseUntil, progress = effect.toEffectProgress.leased now fence leaseUntil := by
  generalize made : Transition.claim effectId fence = transition at turn
  cases turn with
  | claim fence' leaseUntil due =>
    obtain ⟨rfl, rfl⟩ := Transition.claim.inj made
    exact ⟨rfl, due, leaseUntil, rfl⟩
  | finalize | quarantine | retryFailed | confirmNotApplied | confirmApplied => cases made

theorem of_finalize {effectId fence : Uuid} {outcome : EffectOutcome}
    (turn : Turn now effect (.finalize effectId fence outcome) progress organization) :
    effect.effectId = effectId ∧ effect.state = .inFlight ∧ effect.leaseToken = some fence ∧
      outcome.fits effect.kind = true ∧ progress = outcome.write now effect.toEffectProgress ∧
      organization = outcome.organization := by
  generalize made : Transition.finalize effectId fence outcome = transition at turn
  cases turn with
  | finalize fence' outcome' leased token fits =>
    obtain ⟨rfl, rfl, rfl⟩ := Transition.finalize.inj made
    exact ⟨rfl, leased, token, fits, rfl, rfl⟩
  | claim | quarantine | retryFailed | confirmNotApplied | confirmApplied => cases made

theorem of_quarantine {effectId : Uuid}
    (turn : Turn now effect (.quarantine effectId) progress organization) :
    effect.effectId = effectId ∧ effect.state = .inFlight ∧
      (∃ leaseUntil, effect.leaseUntil = some leaseUntil ∧ leaseUntil < now) ∧
      progress = effect.toEffectProgress.stopped now .unknown leaseExpiredError := by
  generalize made : Transition.quarantine effectId = transition at turn
  cases turn with
  | quarantine leased late => exact ⟨(Transition.quarantine.inj made).symm, leased, late, rfl⟩
  | claim | finalize | retryFailed | confirmNotApplied | confirmApplied => cases made

/-- The three decisions of an operator. -/
theorem of_retry {effectId : Uuid} {resolution : RetryResolution}
    (turn : Turn now effect (.retry effectId resolution) progress organization) :
    effect.effectId = effectId ∧
      ((resolution = .retryFailed ∧ effect.state = .failed ∧
          progress = effect.toEffectProgress.reset now) ∨
        (resolution = .confirmNotApplied ∧ effect.state = .unknown ∧
          progress = effect.toEffectProgress.reset now) ∨
        (resolution = .confirmApplied ∧ effect.state = .unknown ∧
          ∃ outcome : EffectOutcome, outcome.fits effect.kind = true ∧ outcome.succeeds = true ∧
            progress = outcome.write now effect.toEffectProgress ∧
            organization = outcome.organization)) := by
  generalize made : Transition.retry effectId resolution = transition at turn
  cases turn with
  | retryFailed stopped =>
    obtain ⟨rfl, rfl⟩ := Transition.retry.inj made
    exact ⟨rfl, Or.inl ⟨rfl, stopped, rfl⟩⟩
  | confirmNotApplied doubted =>
    obtain ⟨rfl, rfl⟩ := Transition.retry.inj made
    exact ⟨rfl, Or.inr (Or.inl ⟨rfl, doubted, rfl⟩)⟩
  | confirmApplied outcome doubted fits succeeds =>
    obtain ⟨rfl, rfl⟩ := Transition.retry.inj made
    exact ⟨rfl, Or.inr (Or.inr ⟨rfl, doubted, outcome, fits, succeeds, rfl, rfl⟩)⟩
  | claim | finalize | quarantine => cases made

/-- No turn is a cleanup request. -/
theorem not_cleanup : ¬ Turn now effect .cleanup progress organization := by
  intro turn
  cases turn

theorem records_nothing (turn : Turn now effect transition progress organization)
    (kind : effect.kind ≠ .createOrganization) : organization = none := by
  cases turn with
  | finalize fence outcome leased token fits => exact EffectOutcome.organization_other fits kind
  | confirmApplied outcome doubted fits succeeds =>
    exact EffectOutcome.organization_other fits kind
  | _ => rfl

end Turn

/-! ### The columns of a turned saga -/

namespace SagaProgress

variable {now : Timestamp} {organization : Option (String × String)} {effects : List EffectRow}
  {old : SagaProgress}

@[simp] theorem recordedIf_cleanup :
    (old.recordedIf organization).cleanupRequested = old.cleanupRequested := by
  cases organization <;> rfl

@[simp] theorem recordedIf_revision :
    (old.recordedIf organization).revision = old.revision := by
  cases organization <;> rfl

@[simp] theorem recordedIf_cleanupCompletedAt :
    (old.recordedIf organization).cleanupCompletedAt = old.cleanupCompletedAt := by
  cases organization <;> rfl

@[simp] theorem recordedIf_completedAt :
    (old.recordedIf organization).completedAt = old.completedAt := by
  cases organization <;> rfl

theorem recordedIf_membership
    (same : old.ownerMembershipId.isSome = old.organizationId.isSome) :
    (old.recordedIf organization).ownerMembershipId.isSome =
      (old.recordedIf organization).organizationId.isSome := by
  cases organization
  · exact same
  · rfl

@[simp] theorem advanced_summary : ((old.advanced now effects).status,
    (old.advanced now effects).lastError) = outlook old.cleanupRequested effects := rfl

@[simp] theorem advanced_cleanup :
    (old.advanced now effects).cleanupRequested = old.cleanupRequested := rfl

@[simp] theorem advanced_revision :
    (old.advanced now effects).revision = old.revision + 1 := rfl

theorem advanced_completed (status : (old.advanced now effects).status = .completed) :
    (old.advanced now effects).completedAt.isSome := by
  unfold advanced refreshed at status ⊢
  rw [if_pos status]
  cases old.completedAt <;> rfl

/-- Where cleanup was not completed, it is recorded as completed exactly when it is. -/
theorem advanced_cleanupCompleted (open_ : old.cleanupCompletedAt = none) :
    (old.advanced now effects).status = .cleanupCompleted ↔
      (old.advanced now effects).cleanupCompletedAt.isSome := by
  unfold advanced refreshed
  by_cases status : (outlook old.cleanupRequested effects).1 = .cleanupCompleted <;>
    simp [status, open_]

end SagaProgress

namespace Saga

variable {saga : Saga} {now : Timestamp} {past rest : List EffectRow} {focus : EffectRow}
  {organization : Option (String × String)} {note : ActivityRow}

@[simp] theorem turned_cleanup :
    (saga.turned now past rest focus organization note).row.cleanupRequested =
      saga.row.cleanupRequested :=
  SagaProgress.recordedIf_cleanup

@[simp] theorem turned_phase :
    (saga.turned now past rest focus organization note).phase = past ++ focus :: rest := by
  unfold Saga.phase
  rw [turned_cleanup]
  unfold Saga.turned Saga.withPhase
  split <;> rfl

theorem turned_mains (unrequested : saga.row.cleanupRequested = false) :
    (saga.turned now past rest focus organization note).mains = past ++ focus :: rest ∧
      (saga.turned now past rest focus organization note).revokes = saga.revokes := by
  unfold Saga.turned Saga.withPhase
  rw [unrequested]
  exact ⟨rfl, rfl⟩

theorem turned_revokes (requested : saga.row.cleanupRequested = true) :
    (saga.turned now past rest focus organization note).revokes = past ++ focus :: rest ∧
      (saga.turned now past rest focus organization note).mains = saga.mains := by
  unfold Saga.turned Saga.withPhase
  rw [requested]
  exact ⟨rfl, rfl⟩

theorem mem_turned_mains {original : EffectRow} (shape : saga.phase = past ++ original :: rest)
    {effect : EffectRow}
    (member : effect ∈ (saga.turned now past rest focus organization note).mains) :
    effect = focus ∨ effect ∈ saga.mains := by
  cases requested : saga.row.cleanupRequested with
  | true =>
    rw [(turned_revokes requested).2] at member
    exact Or.inr member
  | false =>
    rw [(turned_mains requested).1] at member
    rw [Saga.phase, requested] at shape
    rw [show saga.mains = _ from shape]
    simp only [List.mem_append, List.mem_cons] at member ⊢
    tauto

theorem mem_turned_revokes {original : EffectRow} (shape : saga.phase = past ++ original :: rest)
    {effect : EffectRow}
    (member : effect ∈ (saga.turned now past rest focus organization note).revokes) :
    effect = focus ∨ effect ∈ saga.revokes := by
  cases requested : saga.row.cleanupRequested with
  | false =>
    rw [(turned_mains requested).2] at member
    exact Or.inr member
  | true =>
    rw [(turned_revokes requested).1] at member
    rw [Saga.phase, requested] at shape
    rw [show saga.revokes = _ from shape]
    simp only [List.mem_append, List.mem_cons] at member ⊢
    tauto

theorem mem_turned {original : EffectRow} (shape : saga.phase = past ++ original :: rest)
    {effect : EffectRow}
    (member : effect ∈ (saga.turned now past rest focus organization note).effects) :
    effect = focus ∨ effect ∈ saga.effects := by
  rcases List.mem_append.mp member with main | revoke
  · rcases mem_turned_mains shape main with here | there
    · exact Or.inl here
    · exact Or.inr (List.mem_append_left _ there)
  · rcases mem_turned_revokes shape revoke with here | there
    · exact Or.inl here
    · exact Or.inr (List.mem_append_right _ there)

end Saga

/-- A turn changes one effect in its place. -/
theorem effects_turned {saga : Saga} {past rest : List EffectRow} {focus : EffectRow}
    (now : Timestamp)
    (split : Split (stage saga.row.cleanupRequested) saga.phase past focus rest) :
    ∃ before after, saga.effects = before ++ focus :: after ∧
      ∀ (changed : EffectRow) (organization : Option (String × String)) (note : ActivityRow),
        (saga.turned now past rest changed organization note).effects =
          before ++ changed :: after := by
  have shape := split.jobs_eq
  rw [Saga.phase] at shape
  cases requested : saga.row.cleanupRequested with
  | false =>
    rw [requested] at shape
    refine ⟨past, rest ++ saga.revokes, ?_, ?_⟩
    · rw [Saga.effects, show saga.mains = _ from shape]
      simp
    · intro changed organization note
      rw [Saga.effects, (Saga.turned_mains requested).1, (Saga.turned_mains requested).2]
      simp
  | true =>
    rw [requested] at shape
    refine ⟨saga.mains ++ past, rest, ?_, ?_⟩
    · rw [Saga.effects, show saga.revokes = _ from shape]
      simp
    · intro changed organization note
      rw [Saga.effects, (Saga.turned_revokes requested).1, (Saga.turned_revokes requested).2]
      simp

/-- Numbered activity stays numbered when a row with the next number is added. -/
theorem numbered_append {activity : List ActivityRow} {note : ActivityRow}
    (numbered : activity.map (fun note => note.provisioningRevision) =
      (List.range activity.length).map fun index : Nat => (index : Int) + 1)
    (following : note.provisioningRevision = activity.length + 1) :
    (activity ++ [note]).map (fun note => note.provisioningRevision) =
      (List.range (activity ++ [note]).length).map fun index : Nat => (index : Int) + 1 := by
  rw [List.map_append, numbered, List.length_append, List.length_singleton, List.range_succ,
    List.map_append, List.map_singleton, List.map_singleton, following]

/-! ### A turn keeps the invariant -/

namespace Coherent

section Turned

variable {saga : Saga} {now : Timestamp} {past rest : List EffectRow} {focus : EffectRow}
  {transition : Transition} {progress : EffectProgress}
  {organization : Option (String × String)} {note : ActivityRow}
  (coherent : Coherent saga)
  (split : Split (stage saga.row.cleanupRequested) saga.phase past focus rest)
  (turn : Turn now focus transition progress organization)

include coherent split turn

/-- The creation stands for the organization after a turn too. -/
theorem turned_created {effect : EffectRow}
    (member : effect ∈ (saga.turned now past rest (focus.set fun _ => progress) organization
      note).mains)
    (create : effect.kind = .createOrganization) :
    CreatedAs effect (saga.turned now past rest (focus.set fun _ => progress) organization
      note).row.organizationId := by
  have recorded : (saga.turned now past rest (focus.set fun _ => progress) organization
      note).row.organizationId =
        (saga.row.toSagaProgress.recordedIf organization).organizationId := rfl
  rw [recorded]
  have phaseKind := coherent.phase_kind split.focus_mem
  cases requested : saga.row.cleanupRequested with
  | true =>
    -- In cleanup the effect is a revocation, so nothing is recorded.
    rw [(Saga.turned_revokes requested).2] at member
    have other : focus.kind ≠ .createOrganization := by
      intro same
      rw [same, requested] at phaseKind
      cases phaseKind
    rw [turn.records_nothing other]
    exact coherent.created effect member create
  | false =>
    rw [(Saga.turned_mains requested).1] at member
    have shape : saga.mains = past ++ focus :: rest := by
      have jobs := split.jobs_eq
      rw [Saga.phase, requested] at jobs
      exact jobs
    have elsewhere : ∀ other ∈ past ++ rest, other.kind = .createOrganization →
        CreatedAs other (saga.row.toSagaProgress.recordedIf organization).organizationId := by
      intro other inside otherCreate
      have foreign : focus.kind ≠ .createOrganization := by
        intro same
        exact coherent.create_unique shape same inside otherCreate
      rw [turn.records_nothing foreign]
      refine coherent.created other ?_ otherCreate
      rw [shape]
      simp only [List.mem_append, List.mem_cons] at inside ⊢
      tauto
    rcases List.mem_append.mp member with early | late
    · exact elsewhere effect (List.mem_append_left _ early) create
    · rcases List.mem_cons.mp late with rfl | after
      · have creates := turn.creates create
        unfold CreatedAs
        rw [EffectRow.set_progress]
        by_cases applied : progress.state = .applied
        · rw [if_pos applied] at creates
          rw [if_pos applied]
          rw [← creates]
          cases organization with
          | some pair => rfl
          | none =>
            have receipt := turn.receipt applied
            rw [← creates] at receipt
            cases receipt
        · rw [if_neg applied] at creates
          rw [if_neg applied, creates]
          have before := coherent.created focus (by rw [shape]; simp) create
          have unapplied : focus.state ≠ .applied := by
            intro same
            have opens := turn.open_state
            rw [same] at opens
            simp at opens
          rw [CreatedAs, if_neg unapplied] at before
          exact before
      · exact elsewhere effect (List.mem_append_right _ after) create

/-- **A turn keeps a saga coherent.** -/
theorem turned (records : Records now saga.row note) :
    Coherent (saga.turned now past rest (focus.set fun _ => progress) organization note) := by
  have phaseKind := coherent.phase_kind split.focus_mem
  have kept := turn.kept phaseKind
  have notFinal : saga.row.cleanupCompletedAt = none := by
    have status := (coherent.status_of_split split).1
    have opens := turn.open_state
    by_contra present
    have final := coherent.cleanupCompleted.mpr (Option.isSome_iff_ne_none.mpr present)
    rw [status] at final
    rcases opens with state | state | state | state <;> rw [state] at final <;>
      cases requested : saga.row.cleanupRequested <;> rw [requested] at final <;> cases final
  refine {
    plan := ?_, owned := ?_, worked := ?_, unrequested := ?_, settled := ?_, mirrored := ?_
    summary := ?_, blamed := ?_, receipts := ?_, created := ?_, residue := rfl
    membership := ?_, numbered := ?_, revision := ?_, noted := ?_, completed := ?_
    cleanupCompleted := ?_ }
  · obtain ⟨count, plan⟩ := coherent.plan
    refine ⟨count, ?_⟩
    rw [← plan]
    cases requested : saga.row.cleanupRequested with
    | true => rw [(Saga.turned_revokes requested).2]
    | false =>
      have shape := split.jobs_eq
      rw [Saga.phase, requested] at shape
      rw [(Saga.turned_mains requested).1, show saga.mains = _ from shape]
      simp
  · intro effect member
    show effect.provisioningId = saga.row.provisioningId
    rcases Saga.mem_turned split.jobs_eq member with rfl | inside
    · exact coherent.owned focus (phase_mem split.focus_mem)
    · exact coherent.owned effect inside
  · rw [Saga.turned_cleanup, Saga.turned_phase]
    exact split.replaced kept
  · intro unrequested
    rw [Saga.turned_cleanup] at unrequested
    rw [(Saga.turned_mains unrequested).2]
    exact coherent.unrequested unrequested
  · intro requested
    rw [Saga.turned_cleanup] at requested
    rw [(Saga.turned_revokes requested).2]
    exact coherent.settled requested
  · intro requested
    rw [Saga.turned_cleanup] at requested
    rw [(Saga.turned_revokes requested).1, (Saga.turned_revokes requested).2]
    have shape := split.jobs_eq
    rw [Saga.phase, requested] at shape
    have mirrored := coherent.mirrored requested
    rw [show saga.revokes = _ from shape] at mirrored
    refine paired_replaced mirrored ?_
    intro source mirrors
    exact ⟨mirrors.kind, mirrors.ordinal, mirrors.subjectKind, mirrors.feature,
      mirrors.limitValue, mirrors.target, (turn.grant mirrors.kind).trans mirrors.grant⟩
  · rw [Saga.turned_cleanup, Saga.turned_phase]
    show outlook (saga.row.toSagaProgress.recordedIf organization).cleanupRequested _ = _
    rw [SagaProgress.recordedIf_cleanup]
  · intro effect member stopped
    rcases Saga.mem_turned split.jobs_eq member with rfl | inside
    · exact turn.blamed stopped
    · exact coherent.blamed effect inside stopped
  · intro effect member applied
    rcases Saga.mem_turned_mains split.jobs_eq member with rfl | inside
    · exact turn.receipt applied
    · exact coherent.receipts effect inside applied
  · intro effect member create
    exact coherent.turned_created split turn member create
  · exact SagaProgress.recordedIf_membership coherent.membership
  · exact numbered_append coherent.numbered (records.revision.trans (by rw [coherent.revision]))
  · show (saga.row.toSagaProgress.recordedIf organization).revision + 1 = _
    rw [SagaProgress.recordedIf_revision, coherent.revision]
    simp [Saga.turned]
  · intro other member
    show other.provisioningId = saga.row.provisioningId
    rcases List.mem_append.mp member with early | late
    · exact coherent.noted other early
    · rw [List.mem_singleton.mp late]
      exact records.provisioning
  · exact SagaProgress.advanced_completed
  · refine SagaProgress.advanced_cleanupCompleted ?_
    rw [SagaProgress.recordedIf_cleanupCompletedAt]
    exact notFinal

end Turned

/-! ### A cleanup request keeps the invariant -/

section Cleaned

variable {saga : Saga} {now : Timestamp} {revokes : List EffectRow} {note : ActivityRow}

theorem skipUnfinished_plan (effect : EffectRow) :
    (skipUnfinished now effect).toEffectPlan = effect.toEffectPlan := by
  unfold skipUnfinished
  split <;> rfl

/-- Skipping leaves alone what is applied. -/
theorem skipUnfinished_applied {effect : EffectRow} (applied : effect.state = .applied) :
    skipUnfinished now effect = effect := by
  unfold skipUnfinished
  rw [if_neg]
  rw [applied]
  simp

theorem skipUnfinished_create {effect : EffectRow} (create : effect.kind = .createOrganization) :
    skipUnfinished now effect = effect := by
  unfold skipUnfinished
  rw [if_neg]
  rw [create]
  simp

theorem skipUnfinished_grant {effect : EffectRow} (grant : effect.kind = .putEntitlement)
    (unfinished : effect.state = .pending ∨ effect.state = .failed) :
    (skipUnfinished now effect).state = .skipped := by
  unfold skipUnfinished
  rw [if_pos ⟨grant, unfinished⟩]
  rfl

theorem granted_skipUnfinished (effect : EffectRow) :
    granted (skipUnfinished now effect) = granted effect := by
  unfold skipUnfinished
  split
  · rename_i unfinished
    obtain ⟨-, state | state⟩ := unfinished <;> simp [granted, EffectProgress.skipped, state]
  · rfl

/-- **Skipping the unfinished grants keeps the grants in force.** -/
theorem filter_granted_skip (mains : List EffectRow) :
    (mains.map (skipUnfinished now)).filter granted = mains.filter granted := by
  rw [List.filter_map, Function.comp_def]
  simp only [granted_skipUnfinished]
  conv_rhs => rw [← List.map_id (mains.filter granted)]
  refine List.map_congr_left fun effect member => ?_
  have holds := (List.mem_filter.mp member).2
  simp only [granted, Bool.decide_and, Bool.and_eq_true, decide_eq_true_eq] at holds
  exact skipUnfinished_applied holds.2

/-- A new revocation mirrors its grant and waits. -/
theorem mirrors_of_revokes {source revoke : EffectRow} (revokes : Revokes now source revoke) :
    Mirrors source revoke ∧ revoke.state = .pending ∧
      revoke.provisioningId = source.provisioningId := by
  obtain ⟨effectId, subjectKind, feature, grantId, subject, named, grant, rfl⟩ := revokes
  exact ⟨⟨rfl, rfl, subject.symm, named.symm, rfl, rfl, grant.symm⟩, rfl, rfl⟩

variable (coherent : Coherent saga) (unrequested : saga.row.cleanupRequested = false)
  (stopped : saga.row.status = .completed ∨ saga.row.status = .failed)

include coherent unrequested stopped

/-- **A saga that may be cleaned up has settled:** its creation and grants are applied up to a
failed one, and the others were not begun. -/
theorem settles : Settled (saga.mains.map (skipUnfinished now)) := by
  have phase : saga.phase = saga.mains := by
    rw [Saga.phase, unrequested]
    rfl
  have worked := coherent.worked
  rw [unrequested, phase] at worked
  have first : saga.mains ≠ [] := by
    obtain ⟨count, plan⟩ := coherent.plan
    rintro empty
    rw [empty] at plan
    cases plan
  rcases worked with done | ⟨past, focus, rest, split⟩
  · -- Everything is applied.
    have applied : ∀ effect ∈ saga.mains, effect.state = .applied := by
      intro effect member
      exact stage_finished.mp (done effect member)
    refine ⟨saga.mains.map (skipUnfinished now), [], by simp, by simpa using first, Or.inl ?_,
      by simp⟩
    intro effect member
    obtain ⟨original, inside, rfl⟩ := List.mem_map.mp member
    rw [skipUnfinished_applied (applied original inside)]
    exact applied original inside
  · -- The first unfinished effect has failed.
    have failed : focus.state = .failed := by
      have open' := split
      rw [← phase, ← unrequested] at open'
      have status := (coherent.status_of_split open').1
      rw [unrequested] at status
      have opens := stage_open.mp split.focus_open
      rcases opens with state | state | state | state
      · rw [state] at status
        rw [status] at stopped
        simp [statusOf] at stopped
      · rw [state] at status
        rw [status] at stopped
        simp [statusOf] at stopped
      · exact state
      · rw [state] at status
        rw [status] at stopped
        simp [statusOf] at stopped
    obtain ⟨create, grants, shape, isCreate, areGrants⟩ := coherent.mains_shape
    have jobs := split.jobs_eq
    have later : ∀ effect ∈ rest, effect.state = .pending := fun effect member =>
      stage_waiting.mp (split.rest_waiting effect member)
    cases past with
    | nil =>
      rw [shape] at jobs
      obtain ⟨rfl, rfl⟩ := List.cons.inj jobs
      refine ⟨[create], grants.map (skipUnfinished now), ?_, by simp, Or.inr ⟨create, rfl, failed⟩,
        ?_⟩
      · rw [shape, List.map_cons, skipUnfinished_create isCreate]
        rfl
      · intro effect member
        obtain ⟨original, inside, rfl⟩ := List.mem_map.mp member
        exact skipUnfinished_grant (areGrants original inside) (Or.inl (later original inside))
    | cons head past =>
      rw [shape] at jobs
      obtain ⟨rfl, rfl⟩ := List.cons.inj jobs
      have applied : ∀ effect ∈ create :: past, effect.state = .applied := fun effect member =>
        stage_finished.mp (split.past_finished effect member)
      refine ⟨(create :: past).map (skipUnfinished now), (focus :: rest).map (skipUnfinished now),
        ?_, by simp, Or.inl ?_, ?_⟩
      · rw [shape, ← List.map_append]
        rfl
      · intro effect member
        obtain ⟨original, inside, rfl⟩ := List.mem_map.mp member
        rw [skipUnfinished_applied (applied original inside)]
        exact applied original inside
      · intro effect member
        obtain ⟨original, inside, rfl⟩ := List.mem_map.mp member
        refine skipUnfinished_grant (areGrants original (List.mem_append_right _ inside)) ?_
        rcases List.mem_cons.mp inside with rfl | after
        · exact Or.inr failed
        · exact Or.inl (later original after)

/-- **A cleanup request keeps a saga coherent.** -/
theorem cleaned (compensated : List.Forall₂ (Revokes now) (saga.mains.filter granted) revokes)
    (records : Records now saga.row note) : Coherent (saga.cleaned now revokes note) := by
  have fresh : ∀ revoke ∈ revokes, revoke.state = .pending ∧
      revoke.provisioningId = saga.row.provisioningId := by
    intro revoke member
    obtain ⟨source, inside, revokes⟩ := exists_partner compensated member
    obtain ⟨-, pending, same⟩ := mirrors_of_revokes revokes
    refine ⟨pending, same.trans (coherent.owned source ?_)⟩
    exact List.mem_append_left _ (List.mem_filter.mp inside).1
  have notFinal : saga.row.cleanupCompletedAt = none := by
    by_contra present
    have final := coherent.cleanupCompleted.mpr (Option.isSome_iff_ne_none.mpr present)
    rw [final] at stopped
    simp at stopped
  have skipped : ∀ effect ∈ saga.mains.map (skipUnfinished now),
      ∃ original ∈ saga.mains, effect = skipUnfinished now original := by
    intro effect member
    obtain ⟨original, inside, rfl⟩ := List.mem_map.mp member
    exact ⟨original, inside, rfl⟩
  refine {
    plan := ?_, owned := ?_, worked := ?_, unrequested := fun impossible => by cases impossible
    settled := fun _ => coherent.settles unrequested stopped, mirrored := fun _ => ?_
    summary := rfl, blamed := ?_, receipts := ?_, created := ?_, residue := rfl
    membership := coherent.membership, numbered := ?_, revision := ?_, noted := ?_
    completed := SagaProgress.advanced_completed
    cleanupCompleted := SagaProgress.advanced_cleanupCompleted notFinal }
  · obtain ⟨count, plan⟩ := coherent.plan
    refine ⟨count, ?_⟩
    rw [← plan]
    show List.map _ (saga.mains.map (skipUnfinished now)) = _
    rw [List.map_map]
    refine List.map_congr_left fun effect _ => ?_
    simp only [Function.comp_apply, skipUnfinished_plan]
  · intro effect member
    show effect.provisioningId = saga.row.provisioningId
    rcases List.mem_append.mp member with main | revoke
    · obtain ⟨original, inside, rfl⟩ := skipped effect main
      rw [skipUnfinished_plan]
      exact coherent.owned original (List.mem_append_left _ inside)
    · exact (fresh effect revoke).2
  · refine Worked.of_waiting fun revoke member => ?_
    exact stage_waiting.mpr (fresh revoke member).1
  · show List.Forall₂ Mirrors ((saga.mains.map (skipUnfinished now)).filter granted) revokes
    rw [filter_granted_skip]
    exact compensated.imp fun _ _ revokes => (mirrors_of_revokes revokes).1
  · intro effect member failing
    rcases List.mem_append.mp member with main | revoke
    · obtain ⟨original, inside, rfl⟩ := skipped effect main
      unfold skipUnfinished at failing ⊢
      split
      · rfl
      · rename_i finished
        rw [if_neg finished] at failing
        exact coherent.blamed original (List.mem_append_left _ inside) failing
    · rw [(fresh effect revoke).1] at failing
      simp at failing
  · intro effect member applied
    obtain ⟨original, inside, rfl⟩ := skipped effect member
    unfold skipUnfinished at applied ⊢
    split
    · rename_i unfinished
      rw [if_pos unfinished] at applied
      simp [EffectProgress.skipped] at applied
    · rename_i finished
      rw [if_neg finished] at applied
      exact coherent.receipts original inside applied
  · intro effect member create
    obtain ⟨original, inside, rfl⟩ := skipped effect member
    rw [skipUnfinished_plan] at create
    rw [skipUnfinished_create create]
    exact coherent.created original inside create
  · exact numbered_append coherent.numbered (records.revision.trans (by rw [coherent.revision]))
  · show saga.row.revision + 1 = _
    rw [coherent.revision]
    simp [Saga.cleaned]
  · intro other member
    show other.provisioningId = saga.row.provisioningId
    rcases List.mem_append.mp member with early | late
    · exact coherent.noted other early
    · rw [List.mem_singleton.mp late]
      exact records.provisioning

end Cleaned

end Coherent

/-! ### The machine stays coherent -/

namespace Saga

variable {saga saga' : Saga} {now : Timestamp} {transition : Transition}

theorem plannedEffects_plan (now : Timestamp) (ids : StartIds) (input : StartInput) :
    (plannedEffects now ids input).map (fun effect => (effect.kind, effect.ordinal)) =
      planOf input.grants.length := by
  unfold plannedEffects planOf
  rw [List.map_cons]
  congr 1
  apply List.ext_getElem
  · simp
  · intro index _ _
    simp [grantEffect]

theorem mem_plannedEffects {now : Timestamp} {ids : StartIds} {input : StartInput}
    {effect : EffectRow} (member : effect ∈ plannedEffects now ids input) :
    effect.toEffectProgress = newProgress now none ∧
      effect.provisioningId = input.provisioningId := by
  rcases List.mem_cons.mp member with rfl | grant
  · exact ⟨rfl, rfl⟩
  · obtain ⟨ordinal, _, rfl⟩ := List.mem_mapIdx.mp grant
    exact ⟨rfl, rfl⟩

/-- **The machine starts coherent.** -/
theorem Begins.coherent {ids : StartIds} {input : StartInput}
    (begins : Begins now ids input saga) : Coherent saga := by
  obtain ⟨row, mains, revokes, activity⟩ := saga
  obtain ⟨rfl, rfl, rfl, note, rfl, owner, revision, -⟩ := begins
  have fresh : ∀ effect ∈ plannedEffects now ids input, effect.state = .pending := by
    intro effect member
    rw [(mem_plannedEffects member).1]
    rfl
  have waiting : ∀ effect ∈ plannedEffects now ids input, stage false effect = .waiting :=
    fun effect member => stage_waiting.mpr (fresh effect member)
  refine {
    plan := ⟨_, plannedEffects_plan now ids input⟩, owned := ?_
    worked := Worked.of_waiting waiting, unrequested := fun _ => rfl
    settled := fun impossible => by cases impossible
    mirrored := fun impossible => by cases impossible
    summary := rfl, blamed := ?_, receipts := ?_, created := ?_, residue := rfl, membership := rfl, numbered := ?_
    revision := rfl, noted := ?_, completed := fun impossible => by cases impossible
    cleanupCompleted := by simp [newSaga] }
  · intro effect member
    rw [Saga.effects, List.append_nil] at member
    exact (mem_plannedEffects member).2
  · intro effect member failing
    rw [Saga.effects, List.append_nil] at member
    rw [fresh effect member] at failing
    simp at failing
  · intro effect member applied
    rw [fresh effect member] at applied
    cases applied
  · intro effect member _
    rw [CreatedAs, fresh effect member]
    rfl
  · simp [revision]
  · intro other member
    rw [List.mem_singleton.mp member]
    exact owner

/-- **The machine stays coherent.** -/
theorem Step.coherent (coherent : Coherent saga) (step : Step now saga transition saga') :
    Coherent saga' := by
  cases step with
  | turn split turns records => exact coherent.turned split turns records
  | cleanup unrequested stopped compensated records =>
    exact coherent.cleaned unrequested stopped compensated records

end Saga

end OrganizationProvisioning
