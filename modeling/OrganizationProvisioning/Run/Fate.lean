/-
**What a committed call did to one saga.**

* `Untouched` — the rows of a saga are as before.
* `Cause` — the call that made a transition, with what it was asked and answered.
* `Fate` — a saga stands still, begins, or takes one step of the machine, for a cause.
* `Did.fate`, `Run.fate` — every committed call leaves every saga to one of these fates.
-/
import OrganizationProvisioning.Run.Invariant
import OrganizationProvisioning.Saga.Lifecycle

namespace OrganizationProvisioning

open Relational Transactional Worklist

/-- The rows of a saga are as before. -/
structure Untouched (id : Uuid) (before after : Store) : Prop where
  saga : after.saga id = before.saga id
  effects : after.effectsOf id = before.effectsOf id
  activity : after.activityOf id = before.activityOf id

namespace Untouched

variable {id other : Uuid} {before middle after : Store}

theorem of_eq (same : after = before) : Untouched id before after := by
  subst same
  exact ⟨rfl, rfl, rfl⟩

theorem trans (one : Untouched id before middle) (two : Untouched id middle after) :
    Untouched id before after :=
  ⟨two.saga.trans one.saga, two.effects.trans one.effects, two.activity.trans one.activity⟩

theorem of_elsewhere (elsewhere : Elsewhere other before after) (differs : id ≠ other) :
    Untouched id before after :=
  ⟨elsewhere.saga id differs, elsewhere.effects id differs, elsewhere.activity id differs⟩

theorem shows (untouched : Untouched id before after) {saga : Saga} (shown : Shows before id saga) :
    Shows after id saga :=
  ⟨untouched.saga.trans shown.row, untouched.effects.trans shown.effects,
    untouched.activity.trans shown.activity⟩

/-- A saga shown after a call that left it alone was shown before. -/
theorem shown (untouched : Untouched id before after) {saga : Saga} (shows : Shows after id saga) :
    Shows before id saga :=
  ⟨untouched.saga.symm.trans shows.row, untouched.effects.symm.trans shows.effects,
    untouched.activity.symm.trans shows.activity⟩

end Untouched

/-! ### Causes -/

/-- **The call that makes a saga take a transition**, with what it was asked and answered. -/
inductive Cause (entry : Committed) (id : Uuid) (now : Timestamp) (saga saga' : Saga) :
    Transition → Prop
  | claim {utcNow : Timestamp} {actor : String} {fence activityId : Uuid} {leaseSeconds : Int}
      {effect : EffectRow}
      (called : entry.event = .claimNext now utcNow actor fence activityId leaseSeconds)
      (answered : entry.reply = .claimed (some (effectRecord effect fence saga.row)))
      (member : effect ∈ saga.phase) : Cause entry id now saga saga' (.claim effect.effectId fence)
  | finalize {activityId : Uuid} {record : EffectRecord} {actor : String} {outcome : EffectOutcome}
      {effect : EffectRow}
      (called : entry.event = .finalizeEffect now activityId record actor outcome)
      (answered : entry.reply = .finalized outcome.result) (owner : record.provisioningId = id)
      (held : (entry.before.effect record.effectId).filter (fenced record.leaseToken) = some effect)
      (member : effect ∈ saga.phase) :
      Cause entry id now saga saga' (.finalize record.effectId record.leaseToken outcome)
  | quarantine {actor : String} {activityId : Nat → Uuid} {limit : Int} {count : Nat}
      {effect : EffectRow} (called : entry.event = .quarantineExpired now actor activityId limit)
      (answered : entry.reply = .quarantined count) (member : effect ∈ saga.phase) :
      Cause entry id now saga saga' (.quarantine effect.effectId)
  | retry {activityId : Uuid} {input : RetryInput} {effect : EffectRow}
      {response : ProvisioningView} (called : entry.event = .retry now activityId input)
      (answered : entry.reply = .view response) (names : input.provisioningId = id)
      (member : effect ∈ saga.phase) (owner : saga.row.requestedBy = input.actor)
      (current : saga.row.revision = input.expectedRevision)
      (resolvable : Resolvable input saga.row effect)
      (rendered : renderView saga'.row saga'.effects = some response)
      (reserves : Reserves input.caller input.idempotencyKey .retry input.actor input.requestHash
        response entry.before entry.after) :
      Cause entry id now saga saga' (.retry effect.effectId input.resolution)
  | cleanup {effectId : Nat → Uuid} {activityId : Uuid} {input : CleanupInput}
      {response : ProvisioningView}
      (called : entry.event = .requestCleanup now effectId activityId input)
      (answered : entry.reply = .view response) (names : input.provisioningId = id)
      (owner : saga.row.requestedBy = input.actor)
      (current : saga.row.revision = input.expectedRevision)
      (rendered : renderView saga'.row saga'.effects = some response)
      (reserves : Reserves input.caller input.idempotencyKey .requestCleanup input.actor
        input.requestHash response entry.before entry.after) :
      Cause entry id now saga saga' .cleanup

/-- **What a committed call did to one saga.** -/
inductive Fate (entry : Committed) (id : Uuid) : Prop
  | still (untouched : Untouched id entry.before entry.after)
  | began {now : Timestamp} {ids : StartIds} {input : StartInput} {response : ProvisioningView}
      {saga : Saga} (called : entry.event = .start now ids input)
      (answered : entry.reply = .view response) (names : input.provisioningId = id)
      (absent : entry.before.saga id = none) (begins : Saga.Begins now ids input saga)
      (shows : Shows entry.after id saga)
      (rendered : renderView saga.row saga.effects = some response)
      (reserves : Reserves input.caller input.idempotencyKey .start input.actor input.requestHash
        response entry.before entry.after)
  | moved {now : Timestamp} {transition : Transition} {saga saga' : Saga}
      (shown : Shows entry.before id saga) (coherent : Coherent saga)
      (step : Saga.Step now saga transition saga') (shows : Shows entry.after id saga')
      (cause : Cause entry id now saga saga' transition)

/-! ### Quarantines -/

section Quarantine

variable {now : Timestamp} {count : Nat} {before after : Store} {id : Uuid}

/-- A quarantine leaves a saga under review. -/
theorem Saga.Step.review {saga saga' : Saga} {effectId : Uuid} (coherent : Coherent saga)
    (step : Saga.Step now saga (.quarantine effectId) saga') :
    saga'.row.status = .manualReview := by
  have edge := step.edge coherent
  cases status : saga.row.status <;> rw [status] at edge <;>
    simp only [edges, List.mem_singleton, List.not_mem_nil] at edge <;> exact edge

/-- A saga under review is passed over. -/
theorem Quarantines.skips (chain : Quarantines now count before after) {row : SagaRow}
    (found : before.saga id = some row) (review : row.status = .manualReview) :
    Untouched id before after := by
  induction chain with
  | done store => exact .of_eq rfl
  | @next count other before middle after saga saga' effect moves _ running _ _ ih =>
    have differs : id ≠ other := by
      rintro rfl
      rw [moves.shown.row, Option.some.injEq] at found
      rw [← found] at review
      rw [review] at running
      simp at running
    have untouched := Untouched.of_elsewhere moves.elsewhere differs
    exact untouched.trans (ih (untouched.saga.trans found))

/-- **A chain of quarantines moves each saga at most once.** -/
theorem Quarantines.fate (chain : Quarantines now count before after) (id : Uuid) :
    Untouched id before after ∨ ∃ effect saga saga', effect ∈ Saga.phase saga ∧
      Shows before id saga ∧ Coherent saga ∧
      Saga.Step now saga (.quarantine effect.effectId) saga' ∧ Shows after id saga' := by
  induction chain with
  | done store => exact Or.inl (.of_eq rfl)
  | @next count other before middle after saga saga' effect moves member running _ others ih =>
    by_cases same : id = other
    · subst same
      have untouched := others.skips moves.shows.row (moves.step.review moves.coherent)
      exact Or.inr ⟨effect, saga, saga', member, moves.shown, moves.coherent, moves.step,
        untouched.shows moves.shows⟩
    · have untouched := Untouched.of_elsewhere moves.elsewhere same
      rcases ih with rest | ⟨effect, saga, saga', member, shown, coherent, step, shows⟩
      · exact Or.inl (untouched.trans rest)
      · exact Or.inr ⟨effect, saga, saga', member, untouched.shown shown, coherent, step, shows⟩

end Quarantine

/-! ### The fate of a saga -/

/-- A saga whose move is the only one of a call stands still or takes it. -/
theorem Moves.fate {entry : Committed} {now : Timestamp} {transition : Transition} {moved : Uuid}
    {saga saga' : Saga} (moves : Moves now transition moved entry.before entry.after saga saga')
    (cause : Cause entry moved now saga saga' transition) (id : Uuid) : Fate entry id := by
  by_cases same : id = moved
  · subst same
    exact .moved moves.shown moves.coherent moves.step moves.shows cause
  · exact .still (.of_elsewhere moves.elsewhere same)

/-- **A committed call leaves every saga to one of the fates.** -/
theorem Did.fate {entry : Committed} (did : Did entry) (id : Uuid) : Fate entry id := by
  cases did with
  | replayed _ _ replays => exact .still (.of_eq replays.1)
  | idle _ _ kept => exact .still (.of_eq kept)
  | superseded _ _ _ kept => exact .still (.of_eq kept)
  | @began now ids input response saga called answered absent begins shows elsewhere rendered
      reserves =>
    by_cases same : id = input.provisioningId
    · subst same
      exact .began called answered rfl absent begins shows rendered reserves
    · exact .still (.of_elsewhere elsewhere same)
  | retried called answered moves member owner current resolvable rendered reserves =>
    exact moves.fate (.retry called answered rfl member owner current resolvable rendered
      reserves) id
  | cleaned called answered moves owner current rendered reserves =>
    exact moves.fate (.cleanup called answered rfl owner current rendered reserves) id
  | claimed called answered moves member _ => exact moves.fate (.claim called answered member) id
  | finalized called answered held moves member _ =>
    exact moves.fate (.finalize called answered rfl held member) id
  | quarantined called answered chain =>
    rcases chain.fate id with untouched | ⟨effect, saga, saga', member, shown, coherent, step,
      shows⟩
    · exact .still untouched
    · exact .moved shown coherent step shows (.quarantine called answered member)

namespace Run

variable {history past rest : List Committed} {store : Store} {entry : Committed} {id : Uuid}

theorem fate (run : Run (past ++ entry :: rest) store) (id : Uuid) : Fate entry id :=
  run.did.2.fate id

/-- A saga of the store is shown coherent. -/
theorem shows (run : Run history store) {row : SagaRow} (found : store.saga id = some row) :
    ∃ saga, saga.row = row ∧ Shows store id saga ∧ Coherent saga := by
  obtain ⟨saga, shown, coherent⟩ := run.holds.coherent id row found
  exact ⟨saga, Option.some.inj (shown.row.symm.trans found), shown, coherent⟩

/-- A saga once stored is shown coherent ever after, related to what it was by whatever relation
every step of the machine respects. -/
theorem follows (Rel : Saga → Saga → Prop) (refl : ∀ saga, Rel saga saga)
    (trans : ∀ {first second third : Saga}, Rel first second → Rel second third → Rel first third)
    (step : ∀ {now : Timestamp} {transition : Transition} {saga saga' : Saga}, Coherent saga →
      Saga.Step now saga transition saga' → Rel saga saga')
    {middle : Store} {saga : Saga} (upTo : Run past middle) (shown : Shows middle id saga)
    (coherent : Coherent saga) (run : Run (past ++ rest) store) :
    ∃ saga', Shows store id saga' ∧ Coherent saga' ∧ Rel saga saga' := by
  refine upTo.later (fun _ _ last => ∃ saga', Shows last id saga' ∧ Coherent saga' ∧
    Rel saga saga') ⟨saga, shown, coherent, refl saga⟩ ?_ run
  rintro calls entry earlier ⟨saga', shows, holds, sofar⟩ legal committed
  have run' : Run ((past ++ calls) ++ entry :: []) entry.after := .commit earlier legal committed
  cases run'.fate id with
  | still untouched => exact ⟨saga', untouched.shows shows, holds, sofar⟩
  | began _ _ _ absent _ _ _ _ =>
    rw [shows.row] at absent
    cases absent
  | moved shown' coherent' steps shows' _ =>
    have same := shows.unique holds shown' coherent'
    subst same
    exact ⟨_, shows', steps.coherent coherent', trans sofar (step coherent' steps)⟩

end Run

end OrganizationProvisioning
