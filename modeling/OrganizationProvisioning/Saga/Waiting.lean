/-
**The effects a saga still waits for.**

* `Saga.waiting` — the pending effects of the phase, in order; `Coherent.waits` — a pending saga has some.
* `Step.claim_waiting` — a claim takes the first of them.
* `Step.settle_waiting` — its end leaves the others, and a success leaves the saga pending until there is
  none.
-/
import OrganizationProvisioning.Saga.Selections
import OrganizationProvisioning.Saga.Lifecycle

namespace OrganizationProvisioning

open Worklist

namespace Saga

/-- The pending effects of the phase. -/
def waiting (saga : Saga) : List EffectRow :=
  saga.phase.filter fun effect => decide (effect.state = .pending)

section Waiting

variable {saga saga' : Saga} {now : Timestamp} {past rest : List EffectRow} {focus : EffectRow}

/-- The effects before the first unfinished one do not wait, those after it do. -/
theorem filter_split {phase : List EffectRow} {cleanup : Bool}
    (split : Split (stage cleanup) phase past focus rest) (changed : EffectRow) :
    (past ++ changed :: rest).filter (fun effect => decide (effect.state = .pending)) =
      if changed.state = .pending then changed :: rest else rest := by
  have before : past.filter (fun effect => decide (effect.state = .pending)) = [] := by
    rw [List.filter_eq_nil_iff]
    intro effect member
    have state := stage_finished.mp (split.past_finished effect member)
    rw [state]
    cases cleanup <;> simp [finishedState]
  have after : rest.filter (fun effect => decide (effect.state = .pending)) = rest := by
    rw [List.filter_eq_self]
    intro effect member
    simpa using stage_waiting.mp (split.rest_waiting effect member)
  rw [List.filter_append, before, List.nil_append, List.filter_cons, after]
  simp only [decide_eq_true_eq]

theorem waiting_split (split : Split (stage saga.row.cleanupRequested) saga.phase past focus rest) :
    saga.waiting = if focus.state = .pending then focus :: rest else rest := by
  rw [waiting, split.jobs_eq, filter_split split]

theorem waiting_turned (split : Split (stage saga.row.cleanupRequested) saga.phase past focus rest)
    (changed : EffectRow) (organization : Option (String × String)) (note : ActivityRow) :
    (saga.turned now past rest changed organization note).waiting =
      if changed.state = .pending then changed :: rest else rest := by
  rw [waiting, turned_phase, filter_split split]

/-- **A claim takes the first effect that waits.** -/
theorem Step.claim_waiting {effectId fence : Uuid}
    (step : Step now saga (.claim effectId fence) saga') :
    ∃ effect, effect.effectId = effectId ∧ saga.waiting = effect :: saga'.waiting ∧
      saga'.row.cleanupRequested = saga.row.cleanupRequested := by
  cases step with
  | @turn _ past rest focus progress organization note split turns records =>
    obtain ⟨same, due, leaseUntil, rfl⟩ := turns.of_claim
    refine ⟨focus, same, ?_, turned_cleanup⟩
    rw [waiting_split split, if_pos due, waiting_turned split, if_neg]
    intro impossible
    cases impossible

/-- **The end of a claim leaves the others waiting**, after a success with a status of its own only when
there is none. -/
theorem Step.settle_waiting {effectId fence : Uuid} {outcome : EffectOutcome}
    (coherent : Coherent saga) (step : Step now saga (.finalize effectId fence outcome) saga') :
    saga'.waiting = saga.waiting ∧ saga'.row.cleanupRequested = saga.row.cleanupRequested ∧
      (outcome.succeeds = true →
        saga'.row.status = restStatus saga.row.cleanupRequested saga'.waiting) := by
  cases step with
  | @turn _ past rest focus progress organization note split turns records =>
    have status := coherent.turned_status note split turns
    obtain ⟨-, flying, -, fits, rfl, -⟩ := turns.of_finalize
    have here : saga.waiting = rest := by
      rw [waiting_split split, if_neg]
      rw [flying]
      decide
    have there : (saga.turned now past rest (focus.set fun _ => outcome.write now
        focus.toEffectProgress) organization note).waiting = rest := by
      rw [waiting_turned split, if_neg]
      show (outcome.write now focus.toEffectProgress).state ≠ .pending
      rcases outcome.state_write fits with state | state | state <;> rw [state]
      · cases focus.kind.isMain <;> simp [finishedState]
      · decide
      · decide
    refine ⟨there.trans here.symm, turned_cleanup, fun succeeds => ?_⟩
    have kind := coherent.phase_kind split.focus_mem
    have finished : (outcome.write now focus.toEffectProgress).state =
        finishedState (!focus.kind.isMain) := EffectOutcome.state_succeeds fits succeeds
    rw [kind, Bool.not_not] at finished
    rw [status, if_pos finished, there]

end Waiting

end Saga

section Waits

variable {saga : Saga}

/-- **A pending saga waits for its effects.** -/
theorem Coherent.waits (coherent : Coherent saga)
    (pending : saga.row.status = .pending ∨ saga.row.status = .cleanupPending) :
    saga.waiting ≠ [] ∧ saga.row.status = restStatus saga.row.cleanupRequested saga.waiting := by
  obtain ⟨past, focus, rest, split, waits, first⟩ := coherent.waiting pending
  have status := (coherent.status_of_split split).1
  have some : saga.waiting ≠ [] := by
    rw [Saga.waiting, first]
    exact List.cons_ne_nil _ _
  refine ⟨some, ?_⟩
  rw [status, waits, restStatus, if_neg some]

/-- With no effect that waits, the phase is over. -/
theorem restStatus_nil (cleanup : Bool) :
    restStatus cleanup [] = if cleanup then .cleanupCompleted else .completed := by
  cases cleanup <;> rfl

/-- With effects that wait, the saga is pending. -/
theorem restStatus_pending {cleanup : Bool} {rest : List EffectRow} (some : rest ≠ []) :
    restStatus cleanup rest = if cleanup then .cleanupPending else .pending := by
  unfold restStatus
  rw [if_neg some]
  cases cleanup <;> rfl

end Waits

end OrganizationProvisioning
