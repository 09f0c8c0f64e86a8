/-
**Retry accepts the legitimate resolutions.**

* `Legitimate` — the resolutions a saga in doubt or in failure calls for.
* `Resolved` — what an accepted retry does: the one failed or unknown effect of the phase changes.
* `retry_accepts` — a retry is accepted exactly when it is legitimate; one that is not changes nothing.
* `retry_undated` — beyond the years that have a text, a legitimate retry is given up.
-/
import OrganizationProvisioning.Proof.Accepted
import OrganizationProvisioning.Saga.Instants
import OrganizationProvisioning.Run.Revisions
import OrganizationProvisioning.Run.Script

namespace OrganizationProvisioning

open Relational Transactional Worklist

/-! ### Legitimate resolutions -/

/-- **The legitimate resolutions** of a saga with these effects. -/
def Legitimate (input : RetryInput) (row : SagaRow) (effects : List EffectRow) : Prop :=
  ((row.status = .failed ∨ row.status = .cleanupFailed) ∧ input.resolution = .retryFailed ∧
      input.observesNothing = true) ∨
    (row.status = .manualReview ∧ input.resolution = .confirmNotApplied ∧
      input.observesNothing = true) ∨
    (row.status = .manualReview ∧ input.resolution = .confirmApplied ∧
      ∃ effect ∈ effects, effect.state = .unknown ∧ input.Observes effect.kind)

section Legitimate

variable {input : RetryInput} {saga : Saga} {effect : EffectRow}

theorem Decides.legitimate (member : effect ∈ saga.effects)
    (decides : Decides input saga.row effect) : Legitimate input saga.row saga.effects := by
  unfold Decides at decides
  cases resolution : input.resolution with
  | retryFailed =>
    rw [resolution] at decides
    exact Or.inl ⟨decides.1, resolution, decides.2.2⟩
  | confirmNotApplied =>
    rw [resolution] at decides
    exact Or.inr (Or.inl ⟨decides.1, resolution, decides.2.2⟩)
  | confirmApplied =>
    rw [resolution] at decides
    exact Or.inr (Or.inr ⟨decides.1, resolution, effect, member, decides.2⟩)

/-- A saga that runs, in failure or in doubt has the effect that says so. -/
theorem Coherent.stopped_effect (coherent : Coherent saga) {state : EffectState}
    (status : saga.row.status = statusOf saga.row.cleanupRequested state)
    (stopped : state = .inFlight ∨ state = .failed ∨ state = .unknown) :
    ∃ effect ∈ saga.effects, effect.state = state := by
  obtain ⟨past, focus, rest, split⟩ := coherent.split_of_status
    (by rw [status]; rcases stopped with rfl | rfl | rfl <;> cases saga.row.cleanupRequested <;> decide)
    (by rw [status]; rcases stopped with rfl | rfl | rfl <;> cases saga.row.cleanupRequested <;> decide)
  refine ⟨focus, Coherent.phase_mem split.focus_mem, ?_⟩
  have same := (coherent.status_of_split split).1.symm.trans status
  rcases stopped with rfl | rfl | rfl <;> cases requested : saga.row.cleanupRequested <;>
    cases reached : focus.state <;> rw [requested, reached] at same <;> first | rfl | cases same

/-- The status of a failed saga is that of a failed effect of its phase. -/
theorem Coherent.failed_status (coherent : Coherent saga)
    (failed : saga.row.status = .failed ∨ saga.row.status = .cleanupFailed) :
    saga.row.status = statusOf saga.row.cleanupRequested .failed := by
  obtain ⟨past, focus, rest, split⟩ := coherent.split_of_status
    (by rcases failed with status | status <;> rw [status] <;> decide)
    (by rcases failed with status | status <;> rw [status] <;> decide)
  have same := (coherent.status_of_split split).1
  cases requested : saga.row.cleanupRequested <;> cases reached : focus.state <;>
    rw [requested, reached] at same <;> rw [same] <;> rw [same] at failed <;>
    first | rfl | simp [statusOf] at failed

/-- **A legitimate resolution decides on an effect.** -/
theorem Legitimate.decides (coherent : Coherent saga)
    (legitimate : Legitimate input saga.row saga.effects) :
    ∃ effect ∈ saga.effects, Decides input saga.row effect := by
  have review : saga.row.status = .manualReview →
      saga.row.status = statusOf saga.row.cleanupRequested .unknown := fun status => status
  rcases legitimate with ⟨failed, resolution, nothing⟩ | ⟨status, resolution, nothing⟩ |
    ⟨status, resolution, effect, member, doubted, observes⟩
  · obtain ⟨effect, member, broken⟩ :=
      coherent.stopped_effect (coherent.failed_status failed) (Or.inr (Or.inl rfl))
    refine ⟨effect, member, ?_⟩
    unfold Decides
    rw [resolution]
    exact ⟨failed, broken, nothing⟩
  · obtain ⟨effect, member, doubted⟩ := coherent.stopped_effect (review status) (Or.inr (Or.inr rfl))
    refine ⟨effect, member, ?_⟩
    unfold Decides
    rw [resolution]
    exact ⟨status, doubted, nothing⟩
  · refine ⟨effect, member, ?_⟩
    unfold Decides
    rw [resolution]
    exact ⟨status, doubted, observes⟩

end Legitimate

/-! ### What an accepted retry does -/

/-- The state a resolution leaves an effect in. -/
def RetryResolution.leaves : RetryResolution → EffectKind → EffectState
  | .confirmApplied, .revokeEntitlement => .compensated
  | .confirmApplied, _ => .applied
  | _, _ => .pending

/-- **What an accepted retry does** to the row and the effects of its saga. -/
structure Resolved (input : RetryInput) (row row' : SagaRow) (effects effects' : List EffectRow) :
    Prop where
  /-- The one failed or unknown effect of the phase changes, in its place. -/
  changed : ∃ before focus after progress, effects = before ++ focus :: after ∧
    effects' = before ++ (focus.set fun _ => progress) :: after ∧
    focus.state = (if row.status = .manualReview then .unknown else .failed) ∧
    relevant row.cleanupRequested focus = true ∧
    (∀ other ∈ before ++ after, relevant row.cleanupRequested other = true →
      other.state ≠ focus.state) ∧
    progress.state = input.resolution.leaves focus.kind
  /-- The new status asks for no further resolution. -/
  status : row'.status ≠ .failed ∧ row'.status ≠ .cleanupFailed ∧ row'.status ≠ .manualReview

/-- What a resolution writes. -/
theorem Turn.leaves {now : Timestamp} {effect : EffectRow} {effectId : Uuid}
    {resolution : RetryResolution} {progress : EffectProgress}
    {organization : Option (String × String)}
    (turn : Turn now effect (.retry effectId resolution) progress organization) :
    progress.state = resolution.leaves effect.kind := by
  obtain ⟨-, ⟨rfl, -, rfl⟩ | ⟨rfl, -, rfl⟩ | ⟨rfl, -, outcome, fits, succeeds, rfl, -⟩⟩ :=
    turn.of_retry
  · rfl
  · rfl
  · rw [EffectOutcome.state_succeeds fits succeeds]
    cases effect.kind <;> rfl

/-- The statuses a resolution leads to. -/
theorem edges_retry {cleanup : Bool} {effectId : Uuid} {resolution : RetryResolution}
    {status reached : SagaStatus}
    (edge : reached ∈ edges cleanup (.retry effectId resolution) status) :
    reached ≠ .failed ∧ reached ≠ .cleanupFailed ∧ reached ≠ .manualReview := by
  cases reached with
  | failed | cleanupFailed | manualReview =>
    exfalso
    cases status <;> cases resolution <;> cases cleanup <;> simp [edges] at edge
  | _ => decide

/-- **A step by a retry resolves its saga.** -/
theorem Saga.Step.resolved {now : Timestamp} {input : RetryInput} {saga saga' : Saga}
    {effect : EffectRow} {id : Uuid} {store : Store} (shows : Shows store id saga)
    (coherent : Coherent saga)
    (step : Saga.Step now saga (.retry effect.effectId input.resolution) saga') :
    Resolved input saga.row saga'.row saga.effects saga'.effects := by
  refine ⟨?_, ?_⟩
  · generalize asked : Transition.retry effect.effectId input.resolution = transition at step
    cases step with
    | cleanup => cases asked
    | @turn _ past rest focus progress organization note split turns records =>
      subst asked
      obtain ⟨before, after, shape, turned⟩ := effects_turned now split
      have stopped : focus.state = .failed ∨ focus.state = .unknown := by
        obtain ⟨-, ⟨-, state, -⟩ | ⟨-, state, -⟩ | ⟨-, state, -⟩⟩ := turns.of_retry
        · exact Or.inl state
        · exact Or.inr state
        · exact Or.inr state
      have status := (coherent.status_of_split split).1
      refine ⟨before, focus, after, progress, shape, turned _ _ _, ?_, ?_, ?_, turns.leaves⟩
      · rcases stopped with state | state
        · rw [status, state, if_neg]
          cases saga.row.cleanupRequested <;> decide
        · rw [status, state]
          rfl
      · have member := split.focus_mem
        rw [← coherent.relevant_phase] at member
        exact (List.mem_filter.mp member).2
      · intro other member relevance same
        have inside : other ∈ saga.effects := by
          rw [shape]
          rcases List.mem_append.mp member with early | late
          · exact List.mem_append_left _ early
          · exact List.mem_append_right _ (List.mem_cons_of_mem _ late)
        have phase : other ∈ saga.phase := by
          rw [← coherent.relevant_phase]
          exact List.mem_filter.mpr ⟨inside, relevance⟩
        have busy : ∀ one : EffectRow, one.state = focus.state →
            stage saga.row.cleanupRequested one = .busy := by
          intro one state
          rw [stage_busy, state]
          exact Or.inr stopped
        have here := coherent.worked.one_busy phase split.focus_mem (busy other same)
          (busy focus rfl)
        have distinct := shows.distinct
        rw [shape, List.map_append, List.map_cons] at distinct
        obtain ⟨-, later, disjoint⟩ := List.nodup_append'.mp distinct
        rw [here] at member
        rcases List.mem_append.mp member with early | late
        · exact disjoint (List.mem_map_of_mem early) List.mem_cons_self
        · exact (List.nodup_cons.mp later).1 (List.mem_map_of_mem late)
  · exact edges_retry (step.edge coherent)

/-! ### The guarantee -/

/-- The store a call leaves: a rollback leaves the one it found. -/
def left {α : Type} (program : Transaction α) (store : Store) : Store :=
  match alone program store with
  | .ok (_, final) => final
  | .error _ => store

/-- **How a store answers a retry** of a saga with this row. -/
structure Answers (now : Timestamp) (activityId : Uuid) (input : RetryInput) (row : SagaRow)
    (store : Store) : Prop where
  /-- It is accepted exactly when it is legitimate. -/
  accepts : (∃ response final, alone (retry now activityId input) store =
    .ok (response, final)) ↔ Legitimate input row (store.effectsOf input.provisioningId)
  /-- Accepted, it changes one effect of its saga, and no effect of another. -/
  resolves : ∀ response final, alone (retry now activityId input) store = .ok (response, final) →
    ∃ row', final.saga input.provisioningId = some row' ∧
      Resolved input row row' (store.effectsOf input.provisioningId)
        (final.effectsOf input.provisioningId) ∧
      ∀ other, other ≠ input.provisioningId → final.effectsOf other = store.effectsOf other
  /-- Not accepted, it ends in one of two failures and changes nothing. -/
  declines : ∀ error, alone (retry now activityId input) store = .error error →
    (error = .domain .manualResolutionRequired ∨ error = .domain .invalidTransition) ∧
      left (retry now activityId input) store = store

/-- **Retry accepts exactly the legitimate resolutions**, in every reachable store, of the saga's own
actor with an unused key and the current revision. -/
theorem retry_accepts {history : List Committed} {store : Store} (run : Run history store)
    {now : Timestamp} {activityId : Uuid} {input : RetryInput} {row : SagaRow}
    (present : store.saga input.provisioningId = some row)
    (owner : row.requestedBy = input.actor)
    (unused : store.mutation input.caller input.idempotencyKey = none)
    (current : row.revision = input.expectedRevision)
    (fresh : store.activity.find activityId = none) (clock : now.Formats)
    (dated : Dated row (store.effectsOf input.provisioningId)) :
    Answers now activityId input row store := by
  obtain ⟨saga, rfl, shows, coherent⟩ := run.shows present
  have retries : Retries store input saga :=
    ⟨shows, coherent, run.holds.checked, owner, unused, current⟩
  have certain : Certain (retry now activityId input) := Certain.retry
  rw [shows.effects] at dated
  have accepted : Legitimate input saga.row saga.effects → ∃ response final,
      postgres.Commits (retry now activityId input) store response final := by
    intro legitimate
    obtain ⟨effect, member, decides⟩ := legitimate.decides coherent
    refine retry_commits retries ?_ fresh member decides fun saga' step => ?_
    · exact run.revision_room (Store.saga_found.mp present).1
    · exact (step.dated clock dated).renders
  have declined : ¬ Legitimate input saga.row saga.effects →
      ∀ effect ∈ saga.effects, ¬ Decides input saga.row effect :=
    fun illegitimate effect member decides => illegitimate (decides.legitimate member)
  refine ⟨?_, fun response final ran => ?_, fun error ran => ⟨?_, ?_⟩⟩
  · rw [shows.effects]
    constructor
    · rintro ⟨response, final, ran⟩
      by_contra illegitimate
      exact (retry_declines retries (declined illegitimate)).1 response final
        (certain.commits_iff.mpr ran)
    · intro legitimate
      obtain ⟨response, final, committed⟩ := accepted legitimate
      exact ⟨response, final, certain.commits_iff.mp committed⟩
  · rcases retry_moves run.holds.coherent (certain.commits_iff.mpr ran) with
      ⟨-, row, taken, -⟩ | ⟨effect, before, after, moves, -, -, -, -, -, -⟩
    · rw [unused] at taken
      cases taken
    · obtain rfl := moves.shown.unique moves.coherent shows coherent
      refine ⟨after.row, moves.shows.row, ?_, moves.elsewhere.effects⟩
      rw [shows.effects, moves.shows.effects]
      exact moves.step.resolved shows coherent
  · by_cases legitimate : Legitimate input saga.row saga.effects
    · obtain ⟨response, final, committed⟩ := accepted legitimate
      rw [certain.commits_iff.mp committed] at ran
      cases ran
    · exact (retry_declines retries (declined legitimate)).2 error (certain.aborts_iff.mpr ran)
  · unfold left
    rw [ran]

namespace Rehearsal

/-- The rehearsal up to its failed grant. -/
def failedScript : List Instruction := script.take 5

theorem failed_run : Run (played failedScript).1 (played failedScript).2 :=
  run_of_played (by decide +kernel)

/-- The failed saga. -/
theorem failed_saga : ∃ row, (played failedScript).2.saga 1 = some row ∧
    row.requestedBy = "operator" ∧ row.revision = 5 ∧ row.status = .failed ∧
    Dated row ((played failedScript).2.effectsOf 1) := by
  have columns : ((played failedScript).2.saga 1).any (fun row =>
      decide (row.requestedBy = "operator" ∧ row.revision = 5 ∧ row.status = .failed ∧
        row.createdAt = 0 ∧ row.updatedAt = 4 ∧ row.completedAt = none ∧
        row.cleanupCompletedAt = none)) = true := by decide +kernel
  obtain ⟨row, present, holds⟩ := (Option.any_eq_true ..).mp columns
  obtain ⟨owner, revision, status, created, updated, completed, cleanup⟩ := of_decide_eq_true holds
  refine ⟨row, present, owner, revision, status, ?_, ?_, ?_, ?_, by decide +kernel⟩
  · rw [created]
    decide
  · rw [updated]
    decide
  · rw [completed]
    exact fun _ impossible => by cases impossible
  · rw [cleanup]
    exact fun _ impossible => by cases impossible

end Rehearsal

/-- The failed grant of the rehearsal is tried again; a confirmation of it is declined. -/
theorem retry_accepts_rehearsed :
    (∃ response final, alone (retry 5 25 (Rehearsal.retry "again" 5 .retryFailed))
      (played Rehearsal.failedScript).2 = .ok (response, final)) ∧
    ¬ ∃ response final, alone (retry 5 25 (Rehearsal.retry "again" 5 .confirmNotApplied))
      (played Rehearsal.failedScript).2 = .ok (response, final) := by
  obtain ⟨row, present, owner, revision, status, dated⟩ := Rehearsal.failed_saga
  constructor
  · exact (retry_accepts Rehearsal.failed_run present owner (by decide +kernel) revision
      (by decide +kernel) (by decide) dated).accepts.mpr (Or.inl ⟨Or.inl status, rfl, rfl⟩)
  · rw [(retry_accepts Rehearsal.failed_run present owner (by decide +kernel) revision
      (by decide +kernel) (by decide) dated).accepts]
    rintro (⟨-, impossible, -⟩ | ⟨review, -⟩ | ⟨-, impossible, -⟩)
    · cases impossible
    · rw [status] at review
      cases review
    · cases impossible

/-- **In the year 10000** a legitimate retry of the failed grant is given up: the driver panics over the instant
it has written. -/
theorem retry_undated : ¬ ∀ (history : List Committed) (store : Store), Run history store →
    ∀ (now : Timestamp) (row : SagaRow), store.saga 1 = some row → row.requestedBy = "operator" →
      store.mutation "console" "again" = none → row.revision = 5 →
        ((∃ response final, alone (retry now 25 (Rehearsal.retry "again" 5 .retryFailed)) store =
          .ok (response, final)) ↔
            Legitimate (Rehearsal.retry "again" 5 .retryFailed) row (store.effectsOf 1)) := by
  intro agrees
  obtain ⟨row, present, owner, revision, status, -⟩ := Rehearsal.failed_saga
  obtain ⟨response, final, ran⟩ := (agrees _ _ Rehearsal.failed_run 253402300800000000 row present
    owner (by decide +kernel) revision).mpr (Or.inl ⟨Or.inl status, rfl, rfl⟩)
  have fails : (alone (retry 253402300800000000 25 (Rehearsal.retry "again" 5 .retryFailed))
      (played Rehearsal.failedScript).2).toOption.isNone = true := by decide +kernel
  rw [ran] at fails
  cases fails

end OrganizationProvisioning
