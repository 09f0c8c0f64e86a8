/-
**Revisions have room.**

Every step raises the revision by one and makes its saga heavier, and the attempts of an effect fit
their column. So the revision of a reachable saga is far from the end of its own column.

* `Saga.Light` — the revision is at most the weight of the effects, and one more for a cleanup request.
* `Run.light`, `Run.revision_room` — this holds on every reachable store.
-/
import OrganizationProvisioning.Run.Fate
import OrganizationProvisioning.Saga.Measure
import Mathlib.Algebra.Order.BigOperators.Group.List

namespace OrganizationProvisioning

open Worklist

namespace Saga

variable {now : Timestamp} {saga saga' : Saga} {transition : Transition}

/-- The revision of a saga is at most its weight, and one more for its cleanup request. -/
def Light (saga : Saga) : Prop :=
  saga.row.revision ≤ weight saga.effects + if saga.row.cleanupRequested then 1 else 0

theorem weight_planned (now : Timestamp) (ids : StartIds) (input : StartInput) :
    2 ≤ weight (plannedEffects now ids input) := by
  unfold plannedEffects
  rw [weight_cons, show (createEffect now ids.createEffectId input.provisioningId).weight = 2
    from rfl]
  have grants : 0 ≤ weight (input.grants.mapIdx fun ordinal grant =>
      grantEffect now (ids.grantEffectId ordinal) input.provisioningId ordinal grant) := by
    refine List.sum_nonneg fun value member => ?_
    obtain ⟨effect, listed, rfl⟩ := List.mem_map.mp member
    obtain ⟨ordinal, _, rfl⟩ := List.mem_mapIdx.mp listed
    show (0 : Int) ≤ 2
    decide
  omega

theorem Begins.light {ids : StartIds} {input : StartInput} (begins : Begins now ids input saga) :
    saga.Light := by
  unfold Light Saga.effects
  rw [begins.row_eq, begins.mains_eq, begins.revokes_eq, List.append_nil]
  have weighs := weight_planned now ids input
  show (1 : Int) ≤ weight _ + 0
  omega

theorem Step.light (coherent : Coherent saga) (step : Step now saga transition saga')
    (light : saga.Light) : saga'.Light := by
  have revised := step.revised
  have weighs := step.weight_le coherent
  unfold Light at light ⊢
  rw [revised]
  cases step with
  | @turn transition past rest focus progress organization note split turns records =>
    have heavier := turned_heavier split turns note
    rw [turned_cleanup]
    omega
  | @cleanup revokes note unrequested stopped compensated records =>
    rw [unrequested] at light
    show _ ≤ _ + (1 : Int)
    simp only [Bool.false_eq_true, if_false] at light
    omega

/-- A saga has few effects: their ordinals fit the column. -/
theorem length_effects (coherent : Coherent saga)
    (checked : ∀ effect ∈ saga.effects, effect.checked = true) : saga.effects.length ≤ 132 := by
  have mains : saga.mains.length ≤ 66 := by
    obtain ⟨count, plan⟩ := coherent.plan
    have size : saga.mains.length = count + 1 := by
      have lengths := congrArg List.length plan
      simpa [planOf] using lengths
    by_contra many
    have last : (EffectKind.putEntitlement, ((count - 1 : Nat) : Int)) ∈ planOf count := by
      refine List.mem_cons_of_mem _ (List.mem_map.mpr ⟨count - 1, ?_, rfl⟩)
      rw [List.mem_range]
      omega
    rw [← plan] at last
    obtain ⟨effect, member, same⟩ := List.mem_map.mp last
    have stored := checked effect (List.mem_append_left _ member)
    have bounded := (Bool.and_eq_true_iff.mp stored).1
    unfold EffectPlan.checked at bounded
    rw [decide_eq_true_eq] at bounded
    have ordinal : effect.ordinal = ((count - 1 : Nat) : Int) := congrArg Prod.snd same
    have small := bounded.1.2
    omega
  have revokes : saga.revokes.length ≤ saga.mains.length := by
    cases requested : saga.row.cleanupRequested with
    | false =>
      rw [coherent.unrequested requested]
      exact Nat.zero_le _
    | true =>
      rw [← (coherent.mirrored requested).length_eq]
      exact List.length_filter_le _ _
  rw [Saga.effects, List.length_append]
  omega

/-- The weight of effects whose attempts fit their column. -/
theorem weight_checked {effects : List EffectRow}
    (checked : ∀ effect ∈ effects, effect.checked = true) :
    weight effects ≤ 8589934591 * effects.length := by
  induction effects with
  | nil => exact le_refl _
  | cons effect effects ih =>
    have rest := ih fun other member => checked other (List.mem_cons_of_mem _ member)
    have stored := (Bool.and_eq_true_iff.mp (checked effect List.mem_cons_self)).2
    unfold EffectProgress.checked at stored
    rw [decide_eq_true_eq] at stored
    have attempts := stored.1.2
    have rank : effect.state.rank ≤ 3 := by cases effect.state <;> decide
    rw [weight_cons, List.length_cons]
    unfold EffectRow.weight weigh
    push_cast
    omega

end Saga

namespace Run

variable {history : List Committed} {store : Store} {id : Uuid} {saga : Saga}

theorem light (run : Run history store) (shows : Shows store id saga) (coherent : Coherent saga) :
    saga.Light := by
  induction run generalizing saga with
  | start => cases shows.row
  | @commit history entry earlier legal committed ih =>
    have run' : Run (history ++ entry :: []) entry.after := .commit earlier legal committed
    cases run'.fate id with
    | still untouched => exact ih (untouched.shown shows) coherent
    | began _ _ _ _ begins shown _ _ =>
      have same := shown.unique begins.coherent shows coherent
      subst same
      exact begins.light
    | moved shown coherent' step shown' _ =>
      have same := shown'.unique (step.coherent coherent') shows coherent
      subst same
      exact step.light coherent' (ih shown coherent')

/-- **Every reachable revision has room in its column.** -/
theorem revision_room (run : Run history store) {row : SagaRow} (member : row ∈ store.sagas.rows) :
    row.revision < 9223372036854775807 := by
  have found : store.saga row.provisioningId = some row := Store.saga_found.mpr ⟨member, rfl⟩
  obtain ⟨saga, rfl, shows, coherent⟩ := run.shows found
  have stored : ∀ effect ∈ saga.effects, effect.checked = true := by
    intro effect inside
    exact run.holds.checked.effects effect (Store.effect_found.mp (shows.stored inside)).1
  have light := run.light shows coherent
  have few := Saga.length_effects coherent stored
  have weighs := Saga.weight_checked stored
  unfold Saga.Light at light
  have bonus : (if saga.row.cleanupRequested then (1 : Int) else 0) ≤ 1 := by
    split <;> decide
  omega

end Run

end OrganizationProvisioning
