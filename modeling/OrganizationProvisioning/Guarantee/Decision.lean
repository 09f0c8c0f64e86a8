/-
**What the store decides on a public mutation.**

A start reserves its key. A retry and a cleanup request lock their saga, reserve their key, compare the
revision and only then look at what they are for. On a reachable store nothing else turns them down.

* `Approved`, `Denied` — the table of the decisions, in the order of the checks.
* `aborts_missing`, `aborts_unused`, `matches_of_commits` — the shared checks.
* `Decided` — a program ends as its table says; `decided_of` — from what it does past the shared checks.
* `Retries.refused`, `cleanup_refused` — how each operation declines what it is not for.
* `start_commits` — a start with an unused key is accepted.
* `mutations_decided` — **in every run all three are decided by their tables**, and fail in no other way.
-/
import OrganizationProvisioning.Guarantee.Idempotency
import OrganizationProvisioning.Guarantee.Resolution
import OrganizationProvisioning.Library.Admission

namespace OrganizationProvisioning

open Relational Transactional Worklist

/-! ### The table -/

/-- A reserved key is held by the same request. -/
def KeyedRequest.Matches (asked : KeyedRequest) (reserved : MutationRow) : Prop :=
  reserved.operation = asked.operation ∧ reserved.actorSubject = asked.actor ∧
    reserved.requestHash = asked.requestHash

section Table

variable (store : Store) (asked : KeyedRequest) (id : Uuid) (expected : Int)

/-- **What is approved**: the same request again, or a new one at the revision of a saga it fits. -/
inductive Approved (fits : SagaRow → Prop) : Prop
  | replayed {row : SagaRow} {reserved : MutationRow} (present : store.saga id = some row)
      (owner : row.requestedBy = asked.actor) (taken : store.mutation asked.caller asked.key = some reserved)
      (same : asked.Matches reserved)
  | executed {row : SagaRow} (present : store.saga id = some row) (owner : row.requestedBy = asked.actor)
      (unused : store.mutation asked.caller asked.key = none) (current : row.revision = expected)
      (fit : fits row)

/-- **What is denied**, and why: a saga that is not there or another actor's, a key another request holds, a
stale revision, and last what the operation itself declines. -/
inductive Denied (declines : SagaRow → Abort → Prop) : Abort → Prop
  | missing (absent : ∀ row, store.saga id = some row → row.requestedBy ≠ asked.actor) :
      Denied declines (.domain .provisioningNotFound)
  | conflict {row : SagaRow} {reserved : MutationRow} (present : store.saga id = some row)
      (owner : row.requestedBy = asked.actor) (taken : store.mutation asked.caller asked.key = some reserved)
      (differs : ¬ asked.Matches reserved) : Denied declines (.domain .idempotencyConflict)
  | stale {row : SagaRow} (present : store.saga id = some row) (owner : row.requestedBy = asked.actor)
      (unused : store.mutation asked.caller asked.key = none) (stale : row.revision ≠ expected) :
      Denied declines (.domain .revisionConflict)
  | declined {row : SagaRow} {error : Abort} (present : store.saga id = some row)
      (owner : row.requestedBy = asked.actor) (unused : store.mutation asked.caller asked.key = none)
      (current : row.revision = expected) (declined : declines row error) : Denied declines error

end Table

/-- **A program is decided**: it ends, in one way, and as the table says. -/
structure Decided (program : Transaction ProvisioningView) (store : Store) (approved : Prop)
    (denied : Abort → Prop) : Prop where
  ends : approved ∨ ∃ error, denied error
  commits : (∃ response final, postgres.Commits program store response final) ↔ approved
  aborts : ∀ error, postgres.Aborts program store error ↔ denied error
  apart : ∀ error, denied error → ¬ approved ∧ ∀ other, denied other → other = error

/-! ### The shared checks -/

section Shared

variable {store final : Store} {now : Timestamp} {asked : KeyedRequest} {id : Uuid} {expected : Int}
  {rest : SagaRow → MutationReplay → Transaction ProvisioningView} {row : SagaRow}
  {response : ProvisioningView}

/-- A mutation of a saga: what follows its shared checks is the `rest`. -/
abbrev keyedMutation (now : Timestamp) (asked : KeyedRequest) (id : Uuid)
    (rest : SagaRow → MutationReplay → Transaction ProvisioningView) : Transaction ProvisioningView :=
  (lockSaga id asked.actor).bind fun locked =>
    (expect (.domain .provisioningNotFound) locked).bind fun saga =>
      (beginMutation now asked.caller asked.key asked.operation asked.actor asked.requestHash (some id)).bind
        (rest saga)

/-- A saga that is not there, or another actor's. -/
theorem aborts_missing (absent : ∀ row, store.saga id = some row → row.requestedBy ≠ asked.actor) :
    postgres.Aborts (keyedMutation now asked id rest) store (.domain .provisioningNotFound) := by
  refine postgres.aborts_bind.mpr (Or.inr ⟨_, _, commits_lockSaga.mpr ⟨rfl, rfl⟩, ?_⟩)
  refine postgres.aborts_bind.mpr (Or.inl (aborts_expect.mpr ⟨?_, rfl⟩))
  rw [Option.filter_eq_none_iff]
  intro row present owner
  exact absent row present (of_decide_eq_true owner)

/-- What a mutation of the actor's saga with an unused key reaches. -/
theorem aborts_unused {error : Abort} (present : store.saga id = some row)
    (owner : row.requestedBy = asked.actor) (unused : store.mutation asked.caller asked.key = none)
    (aborts : postgres.Aborts (rest row .execute) (store.addMutation (reservation now asked.caller asked.key
      asked.operation asked.actor asked.requestHash (some id))) error) :
    postgres.Aborts (keyedMutation now asked id rest) store error := by
  have refers : Refers store (some id) := by
    intro named same
    cases same
    rw [present]
    rfl
  refine postgres.aborts_bind.mpr (Or.inr ⟨_, _, commits_lockSaga.mpr ⟨rfl, rfl⟩, ?_⟩)
  refine postgres.aborts_bind.mpr (Or.inr ⟨row, store, commits_expect.mpr ⟨?_, rfl⟩, ?_⟩)
  · rw [present, Option.filter_some, if_pos (decide_eq_true owner)]
  · refine postgres.aborts_bind.mpr (Or.inr ⟨_, _, ?_, aborts⟩)
    exact commits_beginMutation_execute.mpr ⟨unused, refers, rfl⟩

/-- What begins with a reserved key asked for the same. -/
theorem matches_of_begun {provisioningId : Option Uuid} {replay : MutationReplay} {reserved : MutationRow}
    (taken : store.mutation asked.caller asked.key = some reserved)
    (begun : postgres.Commits (beginMutation now asked.caller asked.key asked.operation asked.actor
      asked.requestHash provisioningId) store replay final) : asked.Matches reserved := by
  cases replay with
  | execute =>
    obtain ⟨unused, -⟩ := commits_beginMutation_execute.mp begun
    rw [taken] at unused
    cases unused
  | replay response =>
    obtain ⟨-, held, found, answered⟩ := commits_beginMutation_replay.mp begun
    rw [taken] at found
    cases found
    exact ⟨answered.operation_eq, answered.actor_eq, answered.hash_eq⟩

/-- A committed mutation of a saga with a reserved key asked for the same. -/
theorem matches_of_commits {reserved : MutationRow}
    (taken : store.mutation asked.caller asked.key = some reserved)
    (commits : postgres.Commits (keyedMutation now asked id rest) store response final) :
    asked.Matches reserved := by
  obtain ⟨found, middle, locking, later⟩ := postgres.commits_bind.mp commits
  obtain ⟨rfl, rfl⟩ := commits_lockSaga.mp locking
  obtain ⟨saga, last, present, begun⟩ := postgres.commits_bind.mp later
  obtain ⟨-, rfl⟩ := commits_expect.mp present
  obtain ⟨replay, after, reserving, -⟩ := postgres.commits_bind.mp begun
  exact matches_of_begun taken reserving

end Shared

section Decide

variable {store : Store} {now : Timestamp} {asked : KeyedRequest} {id : Uuid} {expected : Int}
  {rest : SagaRow → MutationReplay → Transaction ProvisioningView} {fits : SagaRow → Prop}
  {declines : SagaRow → Abort → Prop} {row : SagaRow}

/-- A program without a scan that ends as a table says is decided by it. -/
theorem Decided.of_certain {program : Transaction ProvisioningView} {approved : Prop} {denied : Abort → Prop}
    (certain : Certain program)
    (commits : (∃ response final, postgres.Commits program store response final) ↔ approved)
    (aborts : ∀ error, postgres.Aborts program store error ↔ denied error) :
    Decided program store approved denied := by
  refine ⟨?_, commits, aborts, fun error named => ⟨fun same => ?_, fun other too => ?_⟩⟩
  · rcases Engine.commits_or_aborts (fun statement store => ⟨_, computed_answers statement store⟩) program
      store with committed | ⟨error, failed⟩
    · exact Or.inl (commits.mp committed)
    · exact Or.inr ⟨error, (aborts error).mp failed⟩
  · obtain ⟨response, final, committed⟩ := commits.mpr same
    exact certain.not_aborts committed error ((aborts error).mpr named)
  · have one := certain.aborts_iff.mp ((aborts error).mpr named)
    have two := certain.aborts_iff.mp ((aborts other).mpr too)
    rw [one] at two
    exact (Except.error.inj two).symm

/-- A program without a scan that fails in one way is decided by this failure. -/
theorem ends_of_aborts {program : Transaction ProvisioningView} (certain : Certain program) {failure : Abort}
    (failed : postgres.Aborts program store failure) :
    (¬ ∃ response final, postgres.Commits program store response final) ∧
      ∀ error, postgres.Aborts program store error ↔ error = failure := by
  constructor
  · rintro ⟨response, final, committed⟩
    exact certain.not_aborts committed failure failed
  · intro error
    constructor
    · intro other
      rw [certain.aborts_iff] at failed other
      rw [failed] at other
      exact (Except.error.inj other).symm
    · rintro rfl
      exact failed

/-- **A mutation is decided by its table** when it is past the shared checks. -/
theorem decided_of (certain : Certain (keyedMutation now asked id rest))
    (replays : ∀ saga response middle error, ¬ postgres.Aborts (rest saga (.replay response)) middle error)
    (stale : ∀ saga middle, saga.revision ≠ expected →
      postgres.Aborts (rest saga .execute) middle (.domain .revisionConflict))
    (readable : ∀ reserved, store.mutation asked.caller asked.key = some reserved → Readable reserved)
    (past : ∀ row, store.saga id = some row → row.requestedBy = asked.actor →
      store.mutation asked.caller asked.key = none → row.revision = expected →
        ((∃ response final, postgres.Commits (keyedMutation now asked id rest) store response final) ↔
          fits row) ∧
        ∀ error, postgres.Aborts (keyedMutation now asked id rest) store error ↔ declines row error) :
    Decided (keyedMutation now asked id rest) store (Approved store asked id expected fits)
      (Denied store asked id expected declines) := by
  have ends := Engine.commits_or_aborts (fun statement store => ⟨_, computed_answers statement store⟩)
    (keyedMutation now asked id rest) store
  by_cases owned : ∃ row, store.saga id = some row ∧ row.requestedBy = asked.actor
  · obtain ⟨row, present, owner⟩ := owned
    cases taken : store.mutation asked.caller asked.key with
    | some reserved =>
      have conflicts : ∀ error, postgres.Aborts (keyedMutation now asked id rest) store error →
          error = .domain .idempotencyConflict ∧ ¬ asked.Matches reserved := by
        intro error failed
        refine (fails_locking (fun saga response middle => replays saga response middle error) taken
          (readable reserved taken) failed).resolve_left fun missing => ?_
        exact missing.2 row present owner
      refine .of_certain certain ⟨?_, fun approved => ?_⟩ fun error => ⟨fun failed => ?_, fun denied => ?_⟩
      · rintro ⟨response, final, commits⟩
        exact .replayed present owner taken (matches_of_commits taken commits)
      · cases approved with
        | replayed _ _ found same =>
          rw [taken] at found
          cases found
          exact ends.resolve_right fun ⟨error, failed⟩ => (conflicts error failed).2 same
        | executed _ _ unused =>
          rw [taken] at unused
          cases unused
      · obtain ⟨rfl, differs⟩ := conflicts error failed
        exact .conflict present owner taken differs
      · cases denied with
        | missing absent => exact absurd owner (absent row present)
        | conflict _ _ found differs =>
          rw [taken] at found
          cases found
          rcases ends with ⟨response, final, commits⟩ | ⟨error, failed⟩
          · exact absurd (matches_of_commits taken commits) differs
          · rw [← (conflicts error failed).1]
            exact failed
        | stale _ _ unused | declined _ _ unused =>
          rw [taken] at unused
          cases unused
    | none =>
      by_cases current : row.revision = expected
      · obtain ⟨commits, aborts⟩ := past row present owner taken current
        refine .of_certain certain (commits.trans ⟨fun fit => .executed present owner taken current fit,
          fun approved => ?_⟩) fun error => (aborts error).trans
            ⟨fun declined => .declined present owner taken current declined, fun denied => ?_⟩
        · cases approved with
          | replayed _ _ found =>
            rw [taken] at found
            cases found
          | executed there _ _ _ fit =>
            rw [present] at there
            cases there
            exact fit
        · cases denied with
          | missing absent => exact absurd owner (absent row present)
          | conflict _ _ found =>
            rw [taken] at found
            cases found
          | stale there _ _ other =>
            rw [present] at there
            cases there
            exact absurd current other
          | declined there _ _ _ declined =>
            rw [present] at there
            cases there
            exact declined
      · have failed : postgres.Aborts (keyedMutation now asked id rest) store (.domain .revisionConflict) :=
          aborts_unused present owner taken (stale row _ current)
        obtain ⟨none, only⟩ := ends_of_aborts certain failed
        refine .of_certain certain ⟨fun commits => absurd commits none, fun approved => ?_⟩ fun error =>
          (only error).trans ⟨?_, fun denied => ?_⟩
        · cases approved with
          | replayed _ _ found =>
            rw [taken] at found
            cases found
          | executed there _ _ same =>
            rw [present] at there
            cases there
            exact absurd same current
        · rintro rfl
          exact .stale present owner taken current
        · cases denied with
          | missing absent => exact absurd owner (absent row present)
          | conflict _ _ found =>
            rw [taken] at found
            cases found
          | stale => rfl
          | declined there _ _ same =>
            rw [present] at there
            cases there
            exact absurd same current
  · have absent : ∀ row, store.saga id = some row → row.requestedBy ≠ asked.actor :=
      fun row present owner => owned ⟨row, present, owner⟩
    obtain ⟨none, only⟩ := ends_of_aborts certain (aborts_missing absent)
    refine .of_certain certain ⟨fun commits => absurd commits none, fun approved => ?_⟩ fun error =>
      (only error).trans ⟨?_, fun denied => ?_⟩
    · cases approved with
      | replayed present owner | executed present owner => exact absurd owner (absent _ present)
    · rintro rfl
      exact .missing absent
    · cases denied with
      | missing => rfl
      | conflict present owner | stale present owner | declined present owner =>
        exact absurd owner (absent _ present)

end Decide

/-! ### Starts -/

/-- What a start asks under its key. -/
def StartInput.asked (input : StartInput) : KeyedRequest :=
  ⟨input.caller, input.idempotencyKey, .start, input.actor, input.requestHash⟩

section Start

variable {store : Store} {now : Timestamp} {ids : StartIds} {input : StartInput}

/-- **A start with an unused key is accepted**, when its view can be rendered. -/
theorem start_commits (keyed : Keyed store) (owned : Owned store) (fresh : ids.Fresh store input)
    (fits : input.Fits) (clock : now.Formats)
    (unused : store.mutation input.caller input.idempotencyKey = none) :
    ∃ response final, postgres.Commits (start now ids input) store response final := by
  have admits := (@insertable_planned _ now _ _ keyed owned fresh fits).admitsAll
  have here : ∀ id, some input.provisioningId = some id → ((store.opened now input).saga id).isSome := by
    intro id named
    cases named
    rw [saga_opened, if_pos rfl, Option.isSome_or]
    exact Bool.or_true _
  have noted : AdmitsActivity ((store.opened now input).addEffects (plannedEffects now ids input))
      (activityRow now ids.activityId input.provisioningId none .provisioningStarted input.actor 1
        (.obj [("bootstrap_grants", .num input.grants.length)])) := by
    have first : (0 : Int) < 1 ∧ (1 : Int) ≤ 9223372036854775807 := by decide
    refine ⟨decide_eq_true first, ?_, ?_, fun _ none => by cases none⟩
    · rw [activity_addEffects]
      exact fresh.activity
    · rw [saga_addEffects]
      exact here _ rfl
  obtain ⟨saga, begins, shows, -⟩ := filled_begins owned fresh.saga admits noted ⟨rfl, rfl, rfl⟩
  obtain ⟨view, rendered⟩ := (begins.dated clock).renders
  have owner : saga.row.requestedBy = input.actor := by
    rw [begins.row_eq]
    rfl
  have found : ∀ note, (store.filled now ids input note).mutation input.caller input.idempotencyKey = _ :=
    fun note => (mutation_filled _ _).trans (mutation_opened unused)
  have answered := @answer_commits _ _ _ _ _ (invalidData "new provisioning saga disappeared") _ _ view shows
    begins.coherent owner rendered (found _) rfl shows.refers
  rw [← grantRows_planned] at admits
  have rows : ((store.opened now input).addEffect (createEffect now ids.createEffectId
      input.provisioningId)).addEffects (grantRows now input.provisioningId ids.grantEffectId 0
        input.grants) = (store.opened now input).addEffects (plannedEffects now ids input) := by
    rw [← grantRows_planned]
    rfl
  unfold start
  refine postgres.exists_commits_bind
    (commits_beginMutation_execute.mpr ⟨unused, (fun _ none => by cases none), rfl⟩) ?_
  refine postgres.exists_commits_bind (show postgres.Commits _ _ () _ from
    commits_insertSaga.mpr ⟨⟨checked_newSaga fits, fresh.saga⟩, rfl⟩) ?_
  refine postgres.exists_commits_bind
    ((commits_updateMutation (mutation_begun unused) rfl).mpr ⟨here, rfl, rfl⟩) ?_
  refine postgres.exists_commits_bind (show postgres.Commits _ _ () _ from
    commits_insertEffect.mpr ⟨admits.1, rfl⟩) ?_
  refine postgres.exists_commits_bind (show postgres.Commits _ _ () _ from
    commits_insertGrants.mpr ⟨Or.inr ?_, admits.2, rfl⟩) ?_
  · have size := fits.size
    omega
  change ∃ response final, postgres.Commits _ (((store.opened now input).addEffect _).addEffects _)
    response final
  rw [rows]
  exact postgres.exists_commits_bind (show postgres.Commits _ _ () _ from commits_activity.mpr ⟨noted, rfl⟩)
    ⟨view, _, answered⟩

end Start

/-! ### Retries -/

/-- What a retry asks under its key. -/
def RetryInput.asked (input : RetryInput) : KeyedRequest :=
  ⟨input.caller, input.idempotencyKey, .retry, input.actor, input.requestHash⟩

/-- **How a resolution that is not legitimate is declined.** -/
def RetryInput.refusal (input : RetryInput) (saga : SagaRow) : Abort :=
  if (saga.status = .manualReview ∧ input.resolution ≠ .confirmNotApplied) ∨
      ((saga.status = .failed ∨ saga.status = .cleanupFailed) ∧ input.resolution = .retryFailed) then
    .domain .manualResolutionRequired
  else .domain .invalidTransition

section Retry

variable {store : Store} {now : Timestamp} {input : RetryInput} {activityId : Uuid} {saga : Saga}
  {row : SagaRow} {effect : EffectRow}

/-- An effect that does not show the observed ids is not confirmed. -/
theorem confirmApplied_aborts (unobserved : ¬ input.Observes effect.kind) :
    postgres.Aborts (confirmApplied now input effect) store (.domain .manualResolutionRequired) := by
  unfold confirmApplied
  unfold RetryInput.Observes at unobserved
  cases kind : effect.kind with
  | createOrganization =>
    rw [kind] at unobserved
    simp only at unobserved ⊢
    split
    · rename_i organization membership none
      refine absurd ⟨?_, ?_, none⟩ unobserved
      · rw [organization]; rfl
      · rw [membership]; rfl
    · rfl
  | putEntitlement =>
    rw [kind] at unobserved
    simp only at unobserved ⊢
    split
    · rename_i organization membership grant
      exact absurd ⟨organization, membership, by rw [grant]; rfl⟩ unobserved
    · rfl
  | revokeEntitlement =>
    rw [kind] at unobserved
    exact postgres.aborts_bind.mpr (Or.inl (aborts_require.mpr ⟨Bool.eq_false_iff.mpr unobserved, rfl⟩))

/-- **A resolution that does not fit the effect it found is declined.** -/
theorem resolveEffect_aborts (resolvable : Resolvable input row effect) (unfit : ¬ Decides input row effect) :
    postgres.Aborts (resolveEffect now input row effect) store (input.refusal row) := by
  unfold resolveEffect RetryInput.refusal
  unfold Decides at unfit
  cases resolution : input.resolution with
  | retryFailed =>
    rw [resolution] at unfit
    have stopped : (row.status = .manualReview ∧ RetryResolution.retryFailed ≠ .confirmNotApplied) ∨
        ((row.status = .failed ∨ row.status = .cleanupFailed) ∧
          RetryResolution.retryFailed = .retryFailed) := by
      rcases resolvable with ⟨review, -⟩ | ⟨failed, -, -⟩
      · exact Or.inl ⟨review, by decide⟩
      · exact Or.inr ⟨failed, rfl⟩
    rw [if_pos stopped]
    refine postgres.aborts_bind.mpr (Or.inl (aborts_require.mpr ⟨?_, rfl⟩))
    rcases resolvable with ⟨review, -⟩ | ⟨failed, -, broken⟩
    · rw [review]
      rfl
    · rw [Bool.and_eq_false_iff]
      exact Or.inr (Bool.eq_false_iff.mpr fun nothing => unfit ⟨failed, broken, nothing⟩)
  | confirmNotApplied =>
    rw [resolution] at unfit
    rcases resolvable with ⟨review, doubted⟩ | ⟨-, other, -⟩
    · rw [if_neg (by rw [review]; simp)]
      refine postgres.aborts_bind.mpr (Or.inl (aborts_require.mpr ⟨?_, rfl⟩))
      rw [Bool.and_eq_false_iff]
      exact Or.inr (Bool.eq_false_iff.mpr fun nothing => unfit ⟨review, doubted, nothing⟩)
    · rw [resolution] at other
      cases other
  | confirmApplied =>
    rw [resolution] at unfit
    rcases resolvable with ⟨review, doubted⟩ | ⟨-, other, -⟩
    · rw [if_pos (Or.inl ⟨review, by decide⟩)]
      exact confirmApplied_aborts fun observes => unfit ⟨review, doubted, observes⟩
    · rw [resolution] at other
      cases other

/-- **A resolution that is not legitimate is declined**, with this failure. -/
theorem Retries.refused (retries : Retries store input saga)
    (illegitimate : ¬ Legitimate input saga.row saga.effects) :
    postgres.Aborts (retry now activityId input) store (input.refusal saga.row) := by
  refine @aborts_unused _ _ input.asked _ _ _ _ retries.shows.row retries.owner retries.unused ?_
  refine postgres.aborts_bind.mpr (Or.inr ⟨_, _, require_commits (decide_eq_true retries.current), ?_⟩)
  have reserved : Shows (store.retrying now input) input.provisioningId saga := retries.reserved
  -- Where the saga is stopped, its effect is found and the resolution does not fit it.
  have stopped : ∀ effect ∈ saga.effects, Resolvable input saga.row effect →
      ∃ found, postgres.Commits (retriedEffect input saga.row) (store.retrying now input) found
        (store.retrying now input) ∧
        postgres.Aborts (resolveEffect now input saga.row found) (store.retrying now input)
          (input.refusal saga.row) := by
    intro effect member resolvable
    obtain ⟨found, finds⟩ := retriedEffect_commits (by rw [reserved.effects]; exact member) resolvable
    obtain ⟨-, there, too⟩ := commits_retriedEffect finds
    rw [reserved.effects] at there
    exact ⟨found, finds, resolveEffect_aborts too fun decides => illegitimate (decides.legitimate there)⟩
  have decided : ∀ effect ∈ saga.effects, Resolvable input saga.row effect →
      ∀ rest : EffectRow → Unit → Transaction ProvisioningView,
        postgres.Aborts ((retriedEffect input saga.row).bind fun found =>
          (resolveEffect now input saga.row found).bind (rest found)) (store.retrying now input)
            (input.refusal saga.row) := by
    intro effect member resolvable rest
    obtain ⟨found, finds, declined⟩ := stopped effect member resolvable
    exact postgres.aborts_bind.mpr (Or.inr ⟨_, _, finds, postgres.aborts_bind.mpr (Or.inl declined)⟩)
  by_cases review : saga.row.status = .manualReview
  · obtain ⟨effect, member, doubted⟩ := retries.coherent.stopped_effect
      (show saga.row.status = statusOf saga.row.cleanupRequested .unknown from review) (Or.inr (Or.inr rfl))
    exact decided effect member (Or.inl ⟨review, doubted⟩) _
  · by_cases failed : saga.row.status = .failed ∨ saga.row.status = .cleanupFailed
    · by_cases again : input.resolution = .retryFailed
      · obtain ⟨effect, member, broken⟩ := retries.coherent.stopped_effect
          (retries.coherent.failed_status failed) (Or.inr (Or.inl rfl))
        exact decided effect member (Or.inr ⟨failed, again, broken⟩) _
      · refine postgres.aborts_bind.mpr (Or.inl ?_)
        unfold retriedEffect RetryInput.refusal
        rw [if_neg review, if_pos failed, if_neg (by simp [review, again])]
        exact postgres.aborts_bind.mpr (Or.inl (aborts_require.mpr ⟨decide_eq_false again, rfl⟩))
    · refine postgres.aborts_bind.mpr (Or.inl ?_)
      unfold retriedEffect RetryInput.refusal
      rw [if_neg review, if_neg failed, if_neg (by simp [review, failed])]
      rfl

/-- A retry is a mutation of its saga. -/
theorem retry_shape : ∃ rest, retry now activityId input =
      keyedMutation now input.asked input.provisioningId rest ∧
    (∀ saga response middle error, ¬ postgres.Aborts (rest saga (.replay response)) middle error) ∧
    ∀ saga middle, saga.revision ≠ input.expectedRevision →
      postgres.Aborts (rest saga .execute) middle (.domain .revisionConflict) := by
  refine ⟨_, rfl, fun _ _ _ _ impossible => impossible, fun saga middle stale => ?_⟩
  exact postgres.aborts_bind.mpr (Or.inl (aborts_require.mpr ⟨decide_eq_false stale, rfl⟩))

end Retry

/-! ### Cleanup requests -/

/-- What a cleanup request asks under its key. -/
def CleanupInput.asked (input : CleanupInput) : KeyedRequest :=
  ⟨input.caller, input.idempotencyKey, .requestCleanup, input.actor, input.requestHash⟩

/-- A saga can be cleaned up once, when it is completed or has failed. -/
def Cleanable (row : SagaRow) : Prop :=
  row.cleanupRequested = false ∧ (row.status = .completed ∨ row.status = .failed)

/-- **How a cleanup of another saga is declined.** -/
def cleanupRefusal (row : SagaRow) : Abort :=
  if row.cleanupRequested = false ∧ row.status = .manualReview then .domain .manualResolutionRequired
  else .domain .invalidTransition

section Cleanup

variable {store : Store} {now : Timestamp} {input : CleanupInput} {effectId : Nat → Uuid} {activityId : Uuid}
  {row : SagaRow}

/-- **A saga that cannot be cleaned up is declined**, with this failure. -/
theorem cleanup_refused (present : store.saga input.provisioningId = some row)
    (owner : row.requestedBy = input.actor)
    (unused : store.mutation input.caller input.idempotencyKey = none)
    (current : row.revision = input.expectedRevision) (unfit : ¬ Cleanable row) :
    postgres.Aborts (requestCleanup now effectId activityId input) store (cleanupRefusal row) := by
  refine @aborts_unused _ _ input.asked _ _ _ _ present owner unused ?_
  refine postgres.aborts_bind.mpr (Or.inr ⟨_, _, require_commits (decide_eq_true current), ?_⟩)
  unfold cleanupRefusal
  cases requested : row.cleanupRequested with
  | true =>
    rw [if_neg (by simp)]
    exact postgres.aborts_bind.mpr (Or.inl (aborts_require.mpr ⟨rfl, rfl⟩))
  | false =>
    refine postgres.aborts_bind.mpr (Or.inr ⟨_, _, require_commits rfl, ?_⟩)
    by_cases review : row.status = .manualReview
    · rw [if_pos ⟨rfl, review⟩]
      refine postgres.aborts_bind.mpr (Or.inl (aborts_require.mpr ⟨?_, rfl⟩))
      exact decide_eq_false fun differs => differs review
    · rw [if_neg fun both => review both.2]
      refine postgres.aborts_bind.mpr (Or.inr ⟨_, _, require_commits (decide_eq_true review), ?_⟩)
      refine postgres.aborts_bind.mpr (Or.inl (aborts_require.mpr ⟨?_, rfl⟩))
      exact decide_eq_false fun stopped => unfit ⟨requested, stopped⟩

/-- A cleanup request is a mutation of its saga. -/
theorem requestCleanup_shape : ∃ rest, requestCleanup now effectId activityId input =
      keyedMutation now input.asked input.provisioningId rest ∧
    (∀ saga response middle error, ¬ postgres.Aborts (rest saga (.replay response)) middle error) ∧
    ∀ saga middle, saga.revision ≠ input.expectedRevision →
      postgres.Aborts (rest saga .execute) middle (.domain .revisionConflict) := by
  refine ⟨_, rfl, fun _ _ _ _ impossible => impossible, fun saga middle stale => ?_⟩
  exact postgres.aborts_bind.mpr (Or.inl (aborts_require.mpr ⟨decide_eq_false stale, rfl⟩))

end Cleanup

/-! ### Every run -/

section Runs

variable {history : List Committed} {store : Store} {now : Timestamp} {activityId : Uuid}

/-- **A start is decided by its key alone.** -/
theorem Run.start_decided (run : Run history store) {ids : StartIds} {input : StartInput}
    (fresh : ids.Fresh store input) (fits : input.Fits) (clock : now.Formats) :
    Decided (start now ids input) store
      (∀ reserved, store.mutation input.caller input.idempotencyKey = some reserved →
        input.asked.Matches reserved)
      (fun error => error = .domain .idempotencyConflict ∧
        ∃ reserved, store.mutation input.caller input.idempotencyKey = some reserved ∧
          ¬ input.asked.Matches reserved) := by
  have certain : Certain (start now ids input) := Certain.start
  cases taken : store.mutation input.caller input.idempotencyKey with
  | none =>
    have accepted := start_commits (fun effect member => run.keyed member) run.holds.owned fresh fits clock
      taken
    refine .of_certain certain (iff_of_true accepted fun _ impossible => by cases impossible) fun error =>
      iff_of_false ?_ ?_
    · obtain ⟨response, final, committed⟩ := accepted
      exact certain.not_aborts committed error
    · rintro ⟨-, reserved, impossible, -⟩
      cases impossible
  | some reserved =>
    have conflicts : ∀ error, postgres.Aborts (start now ids input) store error →
        error = .domain .idempotencyConflict ∧ ¬ input.asked.Matches reserved := by
      intro error failed
      refine @fails_reserving store input.asked reserved error now none _ ?_ taken (run.readable taken) failed
      exact fun _ _ impossible => impossible
    have matching : (∃ response final, postgres.Commits (start now ids input) store response final) →
        input.asked.Matches reserved := by
      rintro ⟨response, final, committed⟩
      obtain ⟨replay, middle, begun, -⟩ := postgres.commits_bind.mp committed
      exact @matches_of_begun store _ now input.asked none _ _ taken begun
    have ends := Engine.commits_or_aborts (fun statement store => ⟨_, computed_answers statement store⟩)
      (start now ids input) store
    refine .of_certain certain ⟨fun commits other same => ?_, fun approved => ?_⟩ fun error =>
      ⟨fun failed => ?_, ?_⟩
    · cases same
      exact matching commits
    · exact ends.resolve_right fun ⟨error, failed⟩ => (conflicts error failed).2 (approved reserved rfl)
    · obtain ⟨conflict, differs⟩ := conflicts error failed
      exact ⟨conflict, reserved, rfl, differs⟩
    · rintro ⟨rfl, other, same, differs⟩
      cases same
      obtain ⟨error, failed⟩ := ends.resolve_left fun commits => differs (matching commits)
      rw [← (conflicts error failed).1]
      exact failed

/-- **A retry is decided by its table.** -/
theorem Run.retry_decided (run : Run history store) {input : RetryInput}
    (fresh : store.activity.find activityId = none) (clock : now.Formats)
    (dated : ∀ row, store.saga input.provisioningId = some row →
      Dated row (store.effectsOf input.provisioningId)) :
    Decided (retry now activityId input) store
      (Approved store input.asked input.provisioningId input.expectedRevision fun row =>
        Legitimate input row (store.effectsOf input.provisioningId))
      (Denied store input.asked input.provisioningId input.expectedRevision fun row error =>
        ¬ Legitimate input row (store.effectsOf input.provisioningId) ∧ error = input.refusal row) := by
  have certain : Certain (retry now activityId input) := Certain.retry
  obtain ⟨rest, shape, replays, stale⟩ := @retry_shape now input activityId
  have past : ∀ row, store.saga input.provisioningId = some row → row.requestedBy = input.actor →
      store.mutation input.caller input.idempotencyKey = none → row.revision = input.expectedRevision →
        ((∃ response final, postgres.Commits (retry now activityId input) store response final) ↔
          Legitimate input row (store.effectsOf input.provisioningId)) ∧
        ∀ error, postgres.Aborts (retry now activityId input) store error ↔
          ¬ Legitimate input row (store.effectsOf input.provisioningId) ∧ error = input.refusal row := by
    intro row present owner unused current
    have answers := (retry_accepts run present owner unused current fresh clock (dated row present)).accepts
    simp only [← certain.commits_iff] at answers
    refine ⟨answers, fun error => ⟨fun failed => ?_, fun ⟨illegitimate, same⟩ => ?_⟩⟩
    all_goals obtain ⟨saga, rfl, shows, coherent⟩ := run.shows present
    all_goals have retries : Retries store input saga :=
      ⟨shows, coherent, run.holds.checked, owner, unused, current⟩
    · have illegitimate : ¬ Legitimate input saga.row (store.effectsOf input.provisioningId) := by
        intro legitimate
        obtain ⟨response, final, committed⟩ := answers.mpr legitimate
        exact certain.not_aborts committed error failed
      refine ⟨illegitimate, ?_⟩
      rw [shows.effects] at illegitimate
      exact ((ends_of_aborts certain (retries.refused illegitimate)).2 error).mp failed
    · rw [shows.effects] at illegitimate
      rw [same]
      exact retries.refused illegitimate
  rw [shape] at certain past ⊢
  exact decided_of certain replays stale (fun reserved taken => run.readable taken) past

/-- **A cleanup request is decided by its table.** -/
theorem Run.cleanup_decided (run : Run history store) {input : CleanupInput} {effectId : Nat → Uuid}
    (ids : FreshRevokes store input.provisioningId effectId) (fresh : store.activity.find activityId = none)
    (clock : now.Formats)
    (dated : ∀ row, store.saga input.provisioningId = some row →
      Dated row (store.effectsOf input.provisioningId)) :
    Decided (requestCleanup now effectId activityId input) store
      (Approved store input.asked input.provisioningId input.expectedRevision Cleanable)
      (Denied store input.asked input.provisioningId input.expectedRevision fun row error =>
        ¬ Cleanable row ∧ error = cleanupRefusal row) := by
  have certain : Certain (requestCleanup now effectId activityId input) := Certain.requestCleanup
  obtain ⟨rest, shape, replays, stale⟩ := @requestCleanup_shape now input effectId activityId
  have past : ∀ row, store.saga input.provisioningId = some row → row.requestedBy = input.actor →
      store.mutation input.caller input.idempotencyKey = none → row.revision = input.expectedRevision →
        ((∃ response final, postgres.Commits (requestCleanup now effectId activityId input) store response
          final) ↔ Cleanable row) ∧
        ∀ error, postgres.Aborts (requestCleanup now effectId activityId input) store error ↔
          ¬ Cleanable row ∧ error = cleanupRefusal row := by
    intro row present owner unused current
    by_cases fit : Cleanable row
    · obtain ⟨saga, rfl, shows, coherent⟩ := run.shows present
      have cleans : Cleans store input saga :=
        ⟨shows, coherent, run.holds.checked, fun _ => run.keyed, owner, unused, current, fit.1, fit.2⟩
      have instants := dated saga.row present
      rw [shows.effects] at instants
      have accepted := requestCleanup_commits cleans
        (run.revision_room (Store.saga_found.mp present).1) ids fresh
        fun saga' step => (step.dated clock instants).renders
      refine ⟨iff_of_true accepted fit, fun error => ⟨fun failed => ?_, fun ⟨unfit, _⟩ => absurd fit unfit⟩⟩
      obtain ⟨response, final, committed⟩ := accepted
      exact absurd failed (certain.not_aborts committed error)
    · obtain ⟨none, only⟩ := ends_of_aborts certain (cleanup_refused present owner unused current fit)
      exact ⟨iff_of_false none fit, fun error => (only error).trans (and_iff_right fit).symm⟩
  rw [shape] at certain past ⊢
  exact decided_of certain replays stale (fun reserved taken => run.readable taken) past

variable (store) in
/-- **A store decides by the tables** on calls with new ids, at instants that can be written. -/
structure DecidedByTables : Prop where
  starts : ∀ (now : Timestamp) (ids : StartIds) (input : StartInput), ids.Fresh store input → input.Fits →
    now.Formats → Decided (start now ids input) store
      (∀ reserved, store.mutation input.caller input.idempotencyKey = some reserved →
        input.asked.Matches reserved)
      (fun error => error = .domain .idempotencyConflict ∧
        ∃ reserved, store.mutation input.caller input.idempotencyKey = some reserved ∧
          ¬ input.asked.Matches reserved)
  retries : ∀ (now : Timestamp) (activityId : Uuid) (input : RetryInput),
    store.activity.find activityId = none → now.Formats →
    (∀ row, store.saga input.provisioningId = some row → Dated row (store.effectsOf input.provisioningId)) →
      Decided (retry now activityId input) store
        (Approved store input.asked input.provisioningId input.expectedRevision fun row =>
          Legitimate input row (store.effectsOf input.provisioningId))
        (Denied store input.asked input.provisioningId input.expectedRevision fun row error =>
          ¬ Legitimate input row (store.effectsOf input.provisioningId) ∧ error = input.refusal row)
  cleanups : ∀ (now : Timestamp) (effectId : Nat → Uuid) (activityId : Uuid) (input : CleanupInput),
    FreshRevokes store input.provisioningId effectId → store.activity.find activityId = none → now.Formats →
    (∀ row, store.saga input.provisioningId = some row → Dated row (store.effectsOf input.provisioningId)) →
      Decided (requestCleanup now effectId activityId input) store
        (Approved store input.asked input.provisioningId input.expectedRevision Cleanable)
        (Denied store input.asked input.provisioningId input.expectedRevision fun row error =>
          ¬ Cleanable row ∧ error = cleanupRefusal row)

/-- **The public mutations are decided by their tables**, in every run. -/
theorem mutations_decided (run : Run history store) : DecidedByTables store where
  starts _ _ _ fresh fits clock := run.start_decided fresh fits clock
  retries _ _ _ fresh clock dated := run.retry_decided fresh clock dated
  cleanups _ _ _ _ ids fresh clock dated := run.cleanup_decided ids fresh clock dated

end Runs

/-- After the failed grant of the rehearsal: its retry commits, one that expects an older revision is stale, and
another start under the key of the first conflicts with it. -/
theorem mutations_decided_rehearsed :
    (∃ response final, postgres.Commits (retry 5 25 (Rehearsal.retry "again" 5 .retryFailed))
      (played Rehearsal.failedScript).2 response final) ∧
    postgres.Aborts (retry 5 25 (Rehearsal.retry "again" 4 .retryFailed)) (played Rehearsal.failedScript).2
      (.domain .revisionConflict) ∧
    postgres.Aborts (start 5 Rehearsal.rivalIds Rehearsal.rival) (played Rehearsal.failedScript).2
      (.domain .idempotencyConflict) := by
  have decided := mutations_decided Rehearsal.failed_run
  obtain ⟨row, present, owner, revision, status, dated⟩ := Rehearsal.failed_saga
  have instants : ∀ other, (played Rehearsal.failedScript).2.saga 1 = some other →
      Dated other ((played Rehearsal.failedScript).2.effectsOf 1) := by
    intro other found
    rw [present] at found
    cases found
    exact dated
  have unused : (played Rehearsal.failedScript).2.mutation "console" "again" = none := by decide +kernel
  have fresh : (played Rehearsal.failedScript).2.activity.find 25 = none := by decide +kernel
  refine ⟨?_, ?_, ?_⟩
  · exact (decided.retries 5 25 (Rehearsal.retry "again" 5 .retryFailed) fresh (by decide) instants).commits.mpr
      (.executed present owner unused revision (Or.inl ⟨Or.inl status, rfl, rfl⟩))
  · exact ((decided.retries 5 25 (Rehearsal.retry "again" 4 .retryFailed) fresh (by decide) instants).aborts
      _).mpr (.stale present owner unused (by rw [revision]; decide))
  · have held : ((played Rehearsal.failedScript).2.mutation "console" "start").any (fun reserved =>
        decide (reserved.requestHash ≠ [9])) = true := by decide +kernel
    obtain ⟨reserved, taken, differs⟩ := (Option.any_eq_true ..).mp held
    refine ((decided.starts 5 Rehearsal.rivalIds Rehearsal.rival ?_ ?_ (by decide)).aborts _).mpr
      ⟨rfl, reserved, taken, fun matches' => of_decide_eq_true differs matches'.2.2⟩
    · refine ⟨by decide +kernel, by decide +kernel, by decide +kernel, by decide +kernel, ?_, by decide +kernel⟩
      intro first second less small
      have two : Rehearsal.rival.grants.length = 2 := rfl
      obtain ⟨rfl, rfl⟩ : first = 0 ∧ second = 1 := by omega
      decide
    · refine ⟨by decide, by decide, by decide, by decide, fun grant member => ?_⟩
      have only : grant = ⟨"organization", "seats", some 5⟩ ∨ grant = ⟨"owner", "reports", none⟩ := by
        simpa [Rehearsal.rival, Rehearsal.input] using member
      rcases only with rfl | rfl
      · exact ⟨Or.inl rfl, fun limit same => by cases same; decide⟩
      · exact ⟨Or.inr rfl, fun limit same => by cases same⟩

end OrganizationProvisioning
