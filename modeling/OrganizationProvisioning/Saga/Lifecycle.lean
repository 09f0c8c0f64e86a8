/-
**The life of a saga: its statuses.**

* `edges` — the statuses each transition may lead to, from each status.
* `Coherent.turned_status` — the status after a turn, from the state it leaves the effect in.
* `Step.edge` — every step of the machine follows an edge.
* `Step.keeps_completedAt`, `Step.sets_completedAt` — when a saga was completed is recorded once.
-/
import OrganizationProvisioning.Saga.Steps

namespace OrganizationProvisioning

open Worklist

/-- **The documented state machine**: the statuses a transition may lead to. -/
def edges (cleanup : Bool) : Transition → SagaStatus → List SagaStatus
  | .claim _ _, .pending => [.running]
  | .claim _ _, .cleanupPending => [.cleanupRunning]
  | .finalize _ _ _, .running => [.pending, .completed, .failed, .manualReview]
  | .finalize _ _ _, .cleanupRunning =>
    [.cleanupPending, .cleanupCompleted, .cleanupFailed, .manualReview]
  | .quarantine _, .running | .quarantine _, .cleanupRunning => [.manualReview]
  | .retry _ .retryFailed, .failed => [.pending]
  | .retry _ .retryFailed, .cleanupFailed => [.cleanupPending]
  | .retry _ .confirmNotApplied, .manualReview | .retry _ .confirmApplied, .manualReview =>
    if cleanup then [.cleanupPending, .cleanupCompleted] else [.pending, .completed]
  | .cleanup, .completed | .cleanup, .failed => [.cleanupPending, .cleanupCompleted]
  | _, _ => []

/-- The status of a phase whose first effects are finished and whose others wait. -/
def restStatus (cleanup : Bool) (rest : List EffectRow) : SagaStatus :=
  statusOf cleanup (if rest = [] then finishedState cleanup else .pending)

section Turned

variable {saga : Saga} {now : Timestamp} {past rest : List EffectRow} {focus : EffectRow}
  {transition : Transition} {progress : EffectProgress}
  {organization : Option (String × String)}

/-- **The status after a turn.** -/
theorem Coherent.turned_status (coherent : Coherent saga) (note : ActivityRow)
    (split : Split (stage saga.row.cleanupRequested) saga.phase past focus rest)
    (turn : Turn now focus transition progress organization) :
    (saga.turned now past rest (focus.set fun _ => progress) organization note).row.status =
      if progress.state = finishedState saga.row.cleanupRequested then
        restStatus saga.row.cleanupRequested rest
      else statusOf saga.row.cleanupRequested progress.state := by
  have summary : (saga.turned now past rest (focus.set fun _ => progress) organization
      note).row.status = (outlook saga.row.cleanupRequested
        (past ++ (focus.set fun _ => progress) :: rest)).1 := by
    show (outlook (saga.row.toSagaProgress.recordedIf organization).cleanupRequested _).1 = _
    rw [SagaProgress.recordedIf_cleanup]
  rw [summary]
  have kind := coherent.phase_kind split.focus_mem
  by_cases finished : progress.state = finishedState saga.row.cleanupRequested
  · rw [if_pos finished]
    have done : stage saga.row.cleanupRequested (focus.set fun _ => progress) = .finished :=
      stage_finished.mpr finished
    have earlier : ∀ effect ∈ past ++ [focus.set fun _ => progress],
        stage saga.row.cleanupRequested effect = .finished := by
      intro effect member
      rcases List.mem_append.mp member with before | here
      · exact split.past_finished effect before
      · rw [List.mem_singleton.mp here]
        exact done
    unfold restStatus
    cases rest with
    | nil =>
      rw [outlook_finished earlier]
      cases saga.row.cleanupRequested <;> rfl
    | cons following later =>
      have waits := split.rest_waiting following List.mem_cons_self
      have shape : Split (stage saga.row.cleanupRequested)
          (past ++ (focus.set fun _ => progress) :: following :: later)
          (past ++ [focus.set fun _ => progress]) following later :=
        ⟨by simp, earlier, Or.inr waits,
          fun effect member => split.rest_waiting effect (List.mem_cons_of_mem _ member)⟩
      rw [outlook_split shape, stage_waiting.mp waits, if_neg (List.cons_ne_nil _ _)]
  · rw [if_neg finished]
    have opens : stage saga.row.cleanupRequested (focus.set fun _ => progress) = .busy ∨
        stage saga.row.cleanupRequested (focus.set fun _ => progress) = .waiting := by
      rw [stage_open]
      rcases turn.state with same | still
      · rw [kind, Bool.not_not] at same
        exact absurd same finished
      · exact still
    rw [outlook_split ⟨rfl, split.past_finished, opens, split.rest_waiting⟩]
    rfl

end Turned

namespace Saga

variable {saga saga' : Saga} {now : Timestamp} {transition : Transition}

/-- **Every step of the machine follows an edge.** -/
theorem Step.edge (coherent : Coherent saga) (step : Step now saga transition saga') :
    saga'.row.status ∈ edges saga.row.cleanupRequested transition saga.row.status := by
  cases step with
  | @turn transition past rest focus progress organization note split turns records =>
    have before := (coherent.status_of_split split).1
    have after := coherent.turned_status note split turns
    have kind := coherent.phase_kind split.focus_mem
    rw [after, before]
    cases turns with
    | claim fence leaseUntil due =>
      rw [due]
      cases saga.row.cleanupRequested <;> simp [edges, statusOf, EffectProgress.leased,
        finishedState]
    | finalize fence outcome leased token fits =>
      rw [leased]
      rcases outcome.state_write fits with state | state | state <;> rw [state]
      · rw [kind, Bool.not_not, if_pos rfl]
        unfold restStatus
        cases saga.row.cleanupRequested <;> split <;> simp [edges, statusOf, finishedState]
      · cases saga.row.cleanupRequested <;> simp [edges, statusOf, finishedState]
      · cases saga.row.cleanupRequested <;> simp [edges, statusOf, finishedState]
    | quarantine leased late =>
      rw [leased]
      cases saga.row.cleanupRequested <;> simp [edges, statusOf, EffectProgress.stopped,
        finishedState]
    | retryFailed stopped =>
      rw [stopped]
      cases saga.row.cleanupRequested <;> simp [edges, statusOf, EffectProgress.reset,
        finishedState]
    | confirmNotApplied doubted =>
      rw [doubted]
      cases saga.row.cleanupRequested <;> simp [edges, statusOf, EffectProgress.reset,
        finishedState]
    | confirmApplied outcome doubted fits succeeds =>
      rw [doubted, EffectOutcome.state_succeeds fits succeeds, kind, Bool.not_not, if_pos rfl]
      unfold restStatus
      cases saga.row.cleanupRequested <;> split <;> simp [edges, statusOf, finishedState]
  | @cleanup revokes note unrequested stopped compensated records =>
    have pending : ∀ revoke ∈ revokes, stage true revoke = .waiting := by
      intro revoke member
      obtain ⟨source, -, revoked⟩ := exists_partner compensated member
      exact stage_waiting.mpr (Coherent.mirrors_of_revokes revoked).2.1
    have after : (saga.cleaned now revokes note).row.status = (outlook true revokes).1 := rfl
    rw [after, unrequested]
    have reached : (outlook true revokes).1 = .cleanupPending ∨
        (outlook true revokes).1 = .cleanupCompleted := by
      cases revokes with
      | nil => exact Or.inr rfl
      | cons revoke others =>
        have waits := pending revoke List.mem_cons_self
        have split : Split (stage true) (revoke :: others) [] revoke others :=
          ⟨rfl, by simp, Or.inr waits,
            fun effect member => pending effect (List.mem_cons_of_mem _ member)⟩
        rw [outlook_split split, stage_waiting.mp waits]
        exact Or.inl rfl
    rcases stopped with status | status <;> rw [status] <;>
      rcases reached with there | there <;> rw [there] <;> simp [edges]

/-- Cleanup is requested by the cleanup request and never withdrawn. -/
theorem Step.cleanup_eq (step : Step now saga transition saga') :
    saga'.row.cleanupRequested =
      (saga.row.cleanupRequested || decide (transition matches .cleanup)) := by
  cases step with
  | turn split turns records =>
    rw [turned_cleanup]
    cases turns <;> simp
  | cleanup unrequested stopped compensated records => simp [cleaned, SagaProgress.cleanupMarked,
      SagaProgress.advanced, SagaProgress.refreshed]

/-- When a saga was completed stays recorded. -/
theorem Step.keeps_completedAt (step : Step now saga transition saga') {instant : Timestamp}
    (recorded : saga.row.completedAt = some instant) : saga'.row.completedAt = some instant := by
  have kept : ∀ (effects : List EffectRow) (old : SagaProgress),
      old.completedAt = some instant → (old.advanced now effects).completedAt = some instant := by
    intro effects old same
    unfold SagaProgress.advanced SagaProgress.refreshed
    simp [same]
  cases step with
  | turn split turns records =>
    refine kept _ _ ?_
    rw [SagaProgress.recordedIf_completedAt]
    exact recorded
  | cleanup unrequested stopped compensated records => exact kept _ _ recorded

/-- A saga is recorded as completed by the step that completes it. -/
theorem Step.sets_completedAt (step : Step now saga transition saga')
    (open_ : saga.row.completedAt = none) (recorded : saga'.row.completedAt.isSome) :
    saga'.row.status = .completed := by
  have set : ∀ (effects : List EffectRow) (old : SagaProgress), old.completedAt = none →
      (old.advanced now effects).completedAt.isSome →
        (old.advanced now effects).status = .completed := by
    intro effects old none some
    unfold SagaProgress.advanced SagaProgress.refreshed at some ⊢
    by_contra other
    rw [if_neg other, none] at some
    cases some
  cases step with
  | turn split turns records =>
    refine set _ _ ?_ recorded
    rw [SagaProgress.recordedIf_completedAt]
    exact open_
  | cleanup unrequested stopped compensated records => exact set _ _ open_ recorded

end Saga

end OrganizationProvisioning
