/-
**How far a saga has come.**

* `Turn.heavier` — a turn makes its effect heavier: an attempt weighs more than what it risks.
* `Step.heavier` — a step makes its saga heavier, but for the cleanup request of a saga without
  grants, which leaves the effects as they are (`Step.idle`).
* `Step.revised` — every step raises the revision by one.
-/
import OrganizationProvisioning.Saga.Lifecycle

namespace OrganizationProvisioning

open Worklist

/-- How far an effect is within an attempt. -/
def EffectState.rank : EffectState → Int
  | .inFlight => 0
  | .failed | .unknown => 1
  | .pending => 2
  | .applied | .compensated | .skipped => 3

/-- The weight of an effect that was attempted so often and is in a state. -/
def weigh (attempts : Int) (state : EffectState) : Int := 4 * attempts + state.rank

def EffectRow.weight (effect : EffectRow) : Int := weigh effect.attempts effect.state

/-- The weight of effects together. -/
def weight (effects : List EffectRow) : Int := (effects.map EffectRow.weight).sum

theorem weight_append (first second : List EffectRow) :
    weight (first ++ second) = weight first + weight second := by
  unfold weight
  rw [List.map_append, List.sum_append]

theorem weight_cons (effect : EffectRow) (effects : List EffectRow) :
    weight (effect :: effects) = effect.weight + weight effects := by
  unfold weight
  rw [List.map_cons, List.sum_cons]

section Effect

variable {now : Timestamp} {effect : EffectRow} {transition : Transition}
  {progress : EffectProgress} {organization : Option (String × String)}

theorem EffectOutcome.attempts_write (outcome : EffectOutcome) (old : EffectProgress) :
    (outcome.write now old).attempts = old.attempts := by
  cases outcome <;> rfl

/-- A result weighs more than the flight it ends. -/
theorem EffectOutcome.rank_write (now : Timestamp) (outcome : EffectOutcome) (old : EffectProgress) :
    1 ≤ (outcome.write now old).state.rank := by
  cases outcome <;> simp [write, EffectProgress.applied, EffectProgress.compensated,
    EffectProgress.stopped, EffectState.rank]

/-- A success weighs more than a doubt. -/
theorem EffectOutcome.rank_succeeds {outcome : EffectOutcome} (succeeds : outcome.succeeds = true)
    (now : Timestamp) (old : EffectProgress) : (outcome.write now old).state.rank = 3 := by
  cases outcome with
  | failed | unknown => cases succeeds
  | _ => rfl

/-- **A turn makes its effect heavier.** -/
theorem Turn.heavier (turn : Turn now effect transition progress organization) :
    effect.weight < weigh progress.attempts progress.state := by
  unfold EffectRow.weight weigh
  cases turn with
  | claim fence leaseUntil due =>
    rw [due]
    simp only [EffectProgress.leased, EffectState.rank]
    omega
  | finalize fence outcome leased token fits =>
    have risen := outcome.rank_write now effect.toEffectProgress
    rw [leased, outcome.attempts_write]
    show 4 * effect.attempts + 0 < _
    omega
  | quarantine leased late =>
    rw [leased]
    simp only [EffectProgress.stopped, EffectState.rank]
    omega
  | retryFailed stopped =>
    rw [stopped]
    simp only [EffectProgress.reset, EffectState.rank]
    omega
  | confirmNotApplied doubted =>
    rw [doubted]
    simp only [EffectProgress.reset, EffectState.rank]
    omega
  | confirmApplied outcome doubted fits succeeds =>
    have risen := EffectOutcome.rank_succeeds succeeds now effect.toEffectProgress
    rw [doubted, outcome.attempts_write, risen]
    simp only [EffectState.rank]
    omega

/-- Skipping an unfinished grant makes it heavier. -/
theorem skipUnfinished_weight (now : Timestamp) (effect : EffectRow) :
    effect.weight ≤ (skipUnfinished now effect).weight := by
  unfold skipUnfinished
  split
  · rename_i unfinished
    unfold EffectRow.weight weigh
    rcases unfinished.2 with state | state <;> rw [state] <;>
      simp only [EffectProgress.skipped, EffectRow.set, EffectState.rank] <;> omega
  · exact le_refl _

end Effect

namespace Saga

variable {saga saga' : Saga} {now : Timestamp} {transition : Transition}

theorem turned_heavier {past rest : List EffectRow} {focus : EffectRow}
    {progress : EffectProgress} {organization : Option (String × String)}
    (split : Split (stage saga.row.cleanupRequested) saga.phase past focus rest)
    (turns : Turn now focus transition progress organization) (note : ActivityRow) :
    weight saga.effects <
      weight (saga.turned now past rest (focus.set fun _ => progress) organization note).effects := by
  obtain ⟨early, late, shape, turned⟩ := effects_turned now split
  have heavier : focus.weight < (focus.set fun _ => progress).weight := turns.heavier
  rw [shape, turned, weight_append, weight_append, weight_cons, weight_cons]
  omega

/-- Skipping makes no effect lighter, and some heavier where a grant was unfinished. -/
theorem skipped_weight (now : Timestamp) (effects : List EffectRow) :
    weight effects ≤ weight (effects.map (skipUnfinished now)) := by
  induction effects with
  | nil => exact le_refl _
  | cons effect effects ih =>
    have here := skipUnfinished_weight now effect
    rw [List.map_cons, weight_cons, weight_cons]
    omega

/-- New revocations have weight. -/
theorem revokes_weight {sources revokes : List EffectRow}
    (compensated : List.Forall₂ (Revokes now) sources revokes) :
    weight revokes = 2 * sources.length := by
  induction compensated with
  | nil => rfl
  | cons revoked _ ih =>
    obtain ⟨effectId, subjectKind, feature, grantId, -, -, -, rfl⟩ := revoked
    rw [weight_cons, ih, List.length_cons]
    show (2 : Int) + _ = _
    omega

/-- A cleanup request makes a saga with grants heavier. -/
theorem cleaned_heavier {revokes : List EffectRow} {note : ActivityRow} (coherent : Coherent saga)
    (unrequested : saga.row.cleanupRequested = false)
    (stopped : saga.row.status = .completed ∨ saga.row.status = .failed)
    (compensated : List.Forall₂ (Revokes now) (saga.mains.filter granted) revokes)
    {put : EffectRow} (member : put ∈ saga.mains) (grant : put.kind = .putEntitlement) :
    weight saga.effects < weight (saga.cleaned now revokes note).effects := by
  have added := revokes_weight compensated
  show _ < weight (saga.mains.map (skipUnfinished now) ++ revokes)
  rw [Saga.effects, coherent.unrequested unrequested, List.append_nil, weight_append]
  by_cases applied : put.state = .applied
  · have some : 0 < (saga.mains.filter granted).length :=
      List.length_pos_of_mem (List.mem_filter.mpr ⟨member, decide_eq_true ⟨grant, applied⟩⟩)
    have skipped := skipped_weight now saga.mains
    omega
  · have unfinished := coherent.unfinished_put unrequested stopped member applied
    obtain ⟨before, after, shape⟩ := List.append_of_mem member
    have first := skipped_weight now before
    have last := skipped_weight now after
    have here : put.weight < (skipUnfinished now put).weight := by
      unfold skipUnfinished
      rw [if_pos ⟨grant, unfinished⟩]
      unfold EffectRow.weight weigh
      rcases unfinished with state | state <;> rw [state] <;>
        simp only [EffectProgress.skipped, EffectRow.set, EffectState.rank] <;> omega
    rw [shape, List.map_append, List.map_cons, weight_append, weight_append, weight_cons,
      weight_cons]
    omega

/-- The cleanup request of a saga without grants leaves its effects as they are. -/
theorem cleaned_idle {revokes : List EffectRow} {note : ActivityRow} (coherent : Coherent saga)
    (unrequested : saga.row.cleanupRequested = false)
    (compensated : List.Forall₂ (Revokes now) (saga.mains.filter granted) revokes)
    (none : ∀ effect ∈ saga.mains, effect.kind ≠ .putEntitlement) :
    (saga.cleaned now revokes note).effects = saga.effects := by
  have ungranted : saga.mains.filter granted = [] := by
    rw [List.filter_eq_nil_iff]
    intro effect member holds
    exact none effect member (of_decide_eq_true holds).1
  rw [ungranted] at compensated
  cases compensated
  have same : saga.mains.map (skipUnfinished now) = saga.mains := by
    conv_rhs => rw [← List.map_id saga.mains]
    refine List.map_congr_left fun effect member => ?_
    unfold skipUnfinished
    exact if_neg fun unfinished => none effect member unfinished.1
  show saga.mains.map (skipUnfinished now) ++ [] = _
  rw [same, Saga.effects, coherent.unrequested unrequested]

/-- **A step makes its saga heavier**, but for a cleanup request without grants. -/
theorem Step.heavier (coherent : Coherent saga) (step : Step now saga transition saga')
    (busy : transition ≠ .cleanup ∨ ∃ put ∈ saga.mains, put.kind = .putEntitlement) :
    weight saga.effects < weight saga'.effects := by
  cases step with
  | turn split turns records => exact turned_heavier split turns _
  | cleanup unrequested stopped compensated records =>
    rcases busy with other | ⟨put, member, grant⟩
    · exact absurd rfl other
    · exact cleaned_heavier coherent unrequested stopped compensated member grant

/-- **A cleanup request without grants leaves the effects as they are.** -/
theorem Step.idle (coherent : Coherent saga) (step : Step now saga .cleanup saga')
    (none : ∀ effect ∈ saga.mains, effect.kind ≠ .putEntitlement) :
    saga'.effects = saga.effects := by
  cases step with
  | turn split turns records => exact absurd turns Turn.not_cleanup
  | cleanup unrequested stopped compensated records =>
    exact cleaned_idle coherent unrequested compensated none

/-- No step makes its saga lighter. -/
theorem Step.weight_le (coherent : Coherent saga) (step : Step now saga transition saga') :
    weight saga.effects ≤ weight saga'.effects := by
  by_cases busy : transition ≠ .cleanup ∨ ∃ put ∈ saga.mains, put.kind = .putEntitlement
  · exact (step.heavier coherent busy).le
  · rw [not_or, not_not] at busy
    obtain ⟨rfl, none⟩ := busy
    push Not at none
    rw [step.idle coherent none]

/-- **Every step raises the revision by one.** -/
theorem Step.revised (step : Step now saga transition saga') :
    saga'.row.revision = saga.row.revision + 1 := by
  cases step with
  | turn split turns records =>
    show (saga.row.toSagaProgress.recordedIf _).revision + 1 = _
    rw [SagaProgress.recordedIf_revision]
  | cleanup unrequested stopped compensated records => rfl

end Saga

end OrganizationProvisioning
