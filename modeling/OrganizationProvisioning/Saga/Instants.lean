/-
**The instants of a saga.**

* `Dated` — every instant a view shows has a text.
* `Dated.renders`, `dated_of_renders` — then, and only then, the view can be rendered.
* `Begins.dated`, `Step.dated` — a first state and a step at an instant with a text keep it so.
-/
import OrganizationProvisioning.Saga.Lifecycle

namespace OrganizationProvisioning

open Worklist

/-- The instant has an RFC 3339 text: its year has four digits. -/
def Timestamp.Formats (value : Timestamp) : Prop := (formatTime value).isSome = true

instance (value : Timestamp) : Decidable value.Formats :=
  inferInstanceAs (Decidable ((formatTime value).isSome = true))

/-- **Every instant a view shows has a text.** -/
structure Dated (row : SagaRow) (effects : List EffectRow) : Prop where
  created : row.createdAt.Formats
  updated : row.updatedAt.Formats
  completed : ∀ value, row.completedAt = some value → value.Formats
  cleanupCompleted : ∀ value, row.cleanupCompletedAt = some value → value.Formats
  steps : ∀ effect ∈ effects, effect.updatedAt.Formats

theorem formats_optional {value : Option Timestamp}
    (formats : ∀ instant, value = some instant → instant.Formats) :
    ∃ text, formatOptionalTime value = some text := by
  cases value with
  | none => exact ⟨none, rfl⟩
  | some instant =>
    obtain ⟨text, same⟩ := Option.isSome_iff_exists.mp (formats instant rfl)
    refine ⟨some text, ?_⟩
    rw [formatOptionalTime, same]
    rfl

theorem formats_steps {effects : List EffectRow}
    (formats : ∀ effect ∈ effects, effect.updatedAt.Formats) :
    ∃ steps, effects.mapM stepFromRow = some steps := by
  induction effects with
  | nil => exact ⟨[], rfl⟩
  | cons effect effects ih =>
    obtain ⟨steps, rest⟩ := ih fun other member => formats other (List.mem_cons_of_mem _ member)
    obtain ⟨text, same⟩ := Option.isSome_iff_exists.mp (formats effect List.mem_cons_self)
    have here : ∃ step, stepFromRow effect = some step := by
      unfold stepFromRow
      rw [same]
      exact ⟨_, rfl⟩
    obtain ⟨step, here⟩ := here
    refine ⟨step :: steps, ?_⟩
    rw [List.mapM_cons, here, rest]
    rfl

/-- **A view with these instants can be rendered.** -/
theorem Dated.renders {row : SagaRow} {effects : List EffectRow} (dated : Dated row effects) :
    ∃ view, renderView row effects = some view := by
  obtain ⟨steps, rendered⟩ := formats_steps dated.steps
  obtain ⟨created, createdText⟩ := Option.isSome_iff_exists.mp dated.created
  obtain ⟨updated, updatedText⟩ := Option.isSome_iff_exists.mp dated.updated
  obtain ⟨completed, completedText⟩ := formats_optional dated.completed
  obtain ⟨cleanup, cleanupText⟩ := formats_optional dated.cleanupCompleted
  unfold renderView viewFromRow
  rw [rendered, Option.bind_some, createdText, updatedText, completedText, cleanupText]
  exact ⟨_, rfl⟩

theorem formats_of_optional {value : Option Timestamp} {text : Option String}
    (formatted : formatOptionalTime value = some text) :
    ∀ instant, value = some instant → instant.Formats := by
  rintro instant rfl
  obtain ⟨own, same, -⟩ := Option.map_eq_some_iff.mp formatted
  exact Option.isSome_iff_exists.mpr ⟨own, same⟩

theorem formats_of_steps {effects : List EffectRow} {steps : List StepView}
    (rendered : effects.mapM stepFromRow = some steps) :
    ∀ effect ∈ effects, effect.updatedAt.Formats := by
  induction effects generalizing steps with
  | nil => exact fun _ impossible => by cases impossible
  | cons effect effects ih =>
    rw [List.mapM_cons] at rendered
    obtain ⟨step, here, rest⟩ := Option.bind_eq_some_iff.mp rendered
    obtain ⟨others, there, -⟩ := Option.bind_eq_some_iff.mp rest
    intro other member
    rcases List.mem_cons.mp member with rfl | late
    · obtain ⟨text, same, -⟩ := Option.bind_eq_some_iff.mp here
      exact Option.isSome_iff_exists.mpr ⟨text, same⟩
    · exact ih there other late

/-- **A view that was rendered has no other instants.** -/
theorem dated_of_renders {row : SagaRow} {effects : List EffectRow} {view : ProvisioningView}
    (rendered : renderView row effects = some view) : Dated row effects := by
  obtain ⟨steps, listed, viewed⟩ := Option.bind_eq_some_iff.mp rendered
  obtain ⟨created, createdText, viewed⟩ := Option.bind_eq_some_iff.mp viewed
  obtain ⟨updated, updatedText, viewed⟩ := Option.bind_eq_some_iff.mp viewed
  obtain ⟨completed, completedText, viewed⟩ := Option.bind_eq_some_iff.mp viewed
  obtain ⟨cleanup, cleanupText, -⟩ := Option.bind_eq_some_iff.mp viewed
  exact ⟨Option.isSome_iff_exists.mpr ⟨_, createdText⟩,
    Option.isSome_iff_exists.mpr ⟨_, updatedText⟩, formats_of_optional completedText,
    formats_of_optional cleanupText, formats_of_steps listed⟩

/-- Every turn writes its instant. -/
theorem Turn.instant {now : Timestamp} {transition : Transition} {effect : EffectRow}
    {progress : EffectProgress} {organization : Option (String × String)}
    (turn : Turn now effect transition progress organization) : progress.updatedAt = now := by
  cases turn with
  | finalize fence outcome leased token fits => cases outcome <;> rfl
  | confirmApplied outcome doubted fits succeeds => cases outcome <;> rfl
  | _ => rfl

namespace Saga

variable {now : Timestamp} {saga saga' : Saga} {transition : Transition}

theorem Begins.dated {ids : StartIds} {input : StartInput} (begins : Begins now ids input saga)
    (clock : now.Formats) : Dated saga.row saga.effects := by
  rw [Saga.effects, begins.row_eq, begins.mains_eq, begins.revokes_eq, List.append_nil]
  refine ⟨clock, clock, ?_, ?_, ?_⟩
  · intro value impossible
    cases impossible
  · intro value impossible
    cases impossible
  · intro effect member
    rcases List.mem_cons.mp member with rfl | grant
    · exact clock
    · obtain ⟨ordinal, small, rfl⟩ := List.mem_mapIdx.mp grant
      exact clock

/-- The columns a status refresh dates. -/
theorem advanced_dated {old : SagaProgress} {effects : List EffectRow} (clock : now.Formats)
    (completed : ∀ value, old.completedAt = some value → value.Formats)
    (cleanupCompleted : ∀ value, old.cleanupCompletedAt = some value → value.Formats) :
    (old.advanced now effects).updatedAt.Formats ∧
      (∀ value, (old.advanced now effects).completedAt = some value → value.Formats) ∧
      ∀ value, (old.advanced now effects).cleanupCompletedAt = some value → value.Formats := by
  have filled : ∀ {before : Option Timestamp} (status : Prop) [Decidable status],
      (∀ value, before = some value → value.Formats) →
        ∀ value, (if status then before.or (some now) else before) = some value →
          value.Formats := by
    intro before status _ formats value same
    split at same
    · cases before with
      | none =>
        cases same
        exact clock
      | some instant => exact formats value same
    · exact formats value same
  exact ⟨clock, filled _ completed, filled _ cleanupCompleted⟩

/-- **A step keeps the instants of its saga in texts.** -/
theorem Step.dated (step : Step now saga transition saga') (clock : now.Formats)
    (dated : Dated saga.row saga.effects) : Dated saga'.row saga'.effects := by
  cases step with
  | @turn transition past rest focus progress organization note split turns records =>
    have same : (saga.row.toSagaProgress.recordedIf organization).completedAt =
        saga.row.completedAt ∧ (saga.row.toSagaProgress.recordedIf organization).cleanupCompletedAt =
          saga.row.cleanupCompletedAt := by
      unfold SagaProgress.recordedIf
      split <;> exact ⟨rfl, rfl⟩
    obtain ⟨updated, completed, cleanupCompleted⟩ := @advanced_dated now
      (saga.row.toSagaProgress.recordedIf organization)
      (past ++ (focus.set fun _ => progress) :: rest) clock (by rw [same.1]; exact dated.completed)
      (by rw [same.2]; exact dated.cleanupCompleted)
    refine ⟨dated.created, updated, completed, cleanupCompleted, fun effect member => ?_⟩
    rcases mem_turned split.jobs_eq member with rfl | kept
    · show progress.updatedAt.Formats
      rw [turns.instant]
      exact clock
    · exact dated.steps effect kept
  | @cleanup revokes note unrequested stopped compensated records =>
    obtain ⟨updated, completed, cleanupCompleted⟩ := @advanced_dated now
      saga.row.toSagaProgress.cleanupMarked revokes clock dated.completed dated.cleanupCompleted
    refine ⟨dated.created, updated, completed, cleanupCompleted, fun effect member => ?_⟩
    rcases List.mem_append.mp member with main | revoke
    · obtain ⟨old, inside, rfl⟩ := List.mem_map.mp main
      unfold skipUnfinished
      split
      · exact clock
      · exact dated.steps old (List.mem_append_left _ inside)
    · obtain ⟨source, -, made⟩ := exists_partner compensated revoke
      obtain ⟨effectId, subjectKind, feature, grantId, -, -, -, rfl⟩ := made
      exact clock

end Saga

end OrganizationProvisioning
