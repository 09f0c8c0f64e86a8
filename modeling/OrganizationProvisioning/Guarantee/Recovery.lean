/-
**No saga is wedged.**

* `Continues` — a continuation by the offered operations, all at one instant.
* `Stands`, `Stands.served`, `Stands.resolves`, `Stands.cleans` — the situation of a saga, and the parts
  of a continuation that keep it.
* `saga_recovers` — from every reachable store, while instants, attempts and ids last, a saga can be
  taken to its end, and to the end of a cleanup.
* `saga_wedged` — a saga with an instant that has no text can be beyond recovery.
-/
import OrganizationProvisioning.Guarantee.Draining
import OrganizationProvisioning.Guarantee.Fencing
import OrganizationProvisioning.Guarantee.Resolution
import OrganizationProvisioning.Run.Keys
import OrganizationProvisioning.Run.Service

namespace OrganizationProvisioning

open Relational Transactional Worklist

/-! ### The offered operations -/

/-- A retry of a saga by its actor, at its revision, with an unused key and a legitimate
resolution. -/
structure RetryInput.Offered (id : Uuid) (store : Store) (input : RetryInput) : Prop where
  names : input.provisioningId = id
  unused : store.mutation input.caller input.idempotencyKey = none
  resolves : ∃ row, store.saga id = some row ∧ row.requestedBy = input.actor ∧
    row.revision = input.expectedRevision ∧ Legitimate input row (store.effectsOf id)

/-- **The operations offered at an instant**: claims, finalizations that succeed, quarantines of
expired leases and retries of the saga. -/
def Event.Offered (now : Timestamp) (id : Uuid) (store : Store) : Event → Prop
  | .retry began _ input => began = now ∧ input.Offered id store
  | event => event.Serves now

/-- **A continuation by the offered operations**, each of which commits its computed run. -/
structure Continues (now : Timestamp) (id : Uuid) (history later : List Committed) (final : Store) :
    Prop where
  run : Run (history ++ later) final
  offered : ∀ entry ∈ later, CommitsAlone entry ∧ entry.event.Offered now id entry.before

section Continues

variable {now : Timestamp} {id : Uuid} {history later more : List Committed} {store final : Store}

theorem Event.Serves.offered {event : Event} (serves : event.Serves now) :
    event.Offered now id store := by
  cases event with
  | retry => exact serves.elim
  | _ => exact serves

/-- A service uses no key. -/
theorem Event.Serves.silent {event : Event} (serves : event.Serves now) : event.keyed = none := by
  cases event with
  | start | retry | requestCleanup => exact serves.elim
  | _ => rfl

theorem Continues.nil (run : Run history store) : Continues now id history [] store :=
  ⟨by rwa [List.append_nil], fun _ impossible => by cases impossible⟩

theorem Continues.append (one : Continues now id history later store)
    (two : Continues now id (history ++ later) more final) :
    Continues now id history (later ++ more) final := by
  refine ⟨by rw [← List.append_assoc]; exact two.run, fun entry member => ?_⟩
  rcases List.mem_append.mp member with early | late
  · exact one.offered entry early
  · exact two.offered entry late

end Continues

/-! ### The situation of a saga -/

/-- **An effect in nobody's way** at an instant: its attempts fit their column when it is pending or
may become so, and its lease has expired when it is the saga's. -/
structure EffectRow.Ready (now : Timestamp) (id : Uuid) (effect : EffectRow) : Prop where
  tries : effect.state = .pending ∨ (effect.state = .failed ∧ effect.provisioningId = id) →
    effect.attempts < 2147483647
  free : effect.state = .inFlight → effect.provisioningId = id → expired now effect = true

/-- An effect in doubt or finished is in nobody's way. -/
theorem ready_of_settled {now : Timestamp} {id : Uuid} {effect : EffectRow}
    (settled : effect.state = .unknown ∨ effect.state = .applied ∨ effect.state = .compensated) :
    effect.Ready now id := by
  constructor
  · rintro (pending | ⟨failed, -⟩)
    · rw [pending] at settled
      simp at settled
    · rw [failed] at settled
      simp at settled
  · intro flying
    rw [flying] at settled
    simp at settled

/-- What a continuation relies on, and keeps. -/
structure Stands (now : Timestamp) (id : Uuid) (cleanup : Bool) (owner : String)
    (history : List Committed) (store : Store) (ids : List Uuid) : Prop where
  run : Run history store
  ready : ∀ effect ∈ store.effects.rows, effect.Ready now id
  saga : ∃ saga, Shows store id saga ∧ Coherent saga ∧ saga.row.cleanupRequested = cleanup ∧
    saga.row.requestedBy = owner ∧ Dated saga.row saga.effects
  supply : Supply store ids

section Stands

variable {now : Timestamp} {id : Uuid} {cleanup : Bool} {owner : String}
  {history later : List Committed} {store final : Store} {ids rest : List Uuid}

/-- A service keeps the phase, the owner and the texts of a saga. -/
theorem Serves.kept (serves : Serves now store final) (clock : now.Formats)
    (stands : ∃ saga, Shows store id saga ∧ Coherent saga ∧ saga.row.cleanupRequested = cleanup ∧
      saga.row.requestedBy = owner ∧ Dated saga.row saga.effects) :
    ∃ saga, Shows final id saga ∧ Coherent saga ∧ saga.row.cleanupRequested = cleanup ∧
      saga.row.requestedBy = owner ∧ Dated saga.row saga.effects := by
  refine serves.saga ?_ stands
  rintro transition saga saga' turns coherent step ⟨requested, requestedBy, dated⟩
  refine ⟨?_, (congrArg SagaIntent.requestedBy step.intent).trans requestedBy,
    step.dated clock dated⟩
  rw [step.cleanup_eq, requested]
  cases transition with
  | cleanup => exact absurd rfl turns
  | _ => simp

/-- **A service leaves the saga as it stands.** -/
theorem Stands.serves (stands : Stands now id cleanup owner history store ids)
    (clock : now.Formats) (run : Run (history ++ later) final) (serves : Serves now store final)
    (supply : Supply final rest) : Stands now id cleanup owner (history ++ later) final rest :=
  ⟨run, serves.rows (fun _ => ready_of_settled) stands.ready, serves.kept clock stands.saga, supply⟩

/-- **Served**, a saga that stands waits for nobody. -/
theorem Stands.served (stands : Stands now id cleanup owner history store (ids ++ rest))
    (clock : now.Formats) (lease : (leaseEnd now 5).isSome)
    (enough : 3 * (store.effects.rows.length + 1) ≤ ids.length) (actor : String)
    {downstream : Downstream} (accepts : downstream.Accepts) :
    ∃ later last final, Continues now id history later final ∧
      Stands now id cleanup owner (history ++ later) final rest ∧ hasMore now final = false ∧
      Serves now store final ∧ final.mutations = store.mutations ∧
      drain actor (serviceCalls now downstream ids) store = .ok (later, last, final) := by
  have spare : Spare store := fun effect member pending =>
    (stands.ready effect member).tries (Or.inl pending)
  have runs : ∃ later last final, Run (history ++ later) final ∧ Serves now store final ∧
      (∀ entry ∈ later, CommitsAlone entry ∧ entry.event.Serves now) ∧
      hasMore now final = false ∧ Supply final rest ∧
      drain actor (serviceCalls now downstream ids) store = .ok (later, last, final) :=
    OrganizationProvisioning.served stands.run spare lease accepts stands.supply enough
  obtain ⟨later, last, final, run, serves, entries, idle, supply, ran⟩ := runs
  refine ⟨later, last, final, ⟨run, fun entry member => ?_⟩,
    stands.serves clock run serves supply, idle, serves, ?_, ran⟩
  · exact ⟨(entries entry member).1, (entries entry member).2.offered⟩
  · exact stands.run.mutations_kept run fun entry member => (entries entry member).2.silent

end Stands

/-! ### A lease that has not expired -/

section Freed

variable {now : Timestamp} {id : Uuid} {history : List Committed} {store : Store} {saga : Saga}

/-- An effect in flight makes its saga running. -/
theorem Coherent.flying_status (coherent : Coherent saga) {effect : EffectRow}
    (member : effect ∈ saga.effects) (flying : effect.state = .inFlight) :
    saga.row.status = statusOf saga.row.cleanupRequested .inFlight := by
  obtain ⟨past, rest, split⟩ := coherent.split_of_state member (Or.inl flying)
  rw [(coherent.status_of_split split).1, flying]

/-- A saga whose effects wait is not running. -/
theorem restStatus_ne (cleanup : Bool) (rest : List EffectRow) :
    restStatus cleanup rest ≠ statusOf cleanup .inFlight := by
  unfold restStatus
  cases cleanup <;> split <;> decide

/-- **The worker that holds a lease finalizes its effect**, with success. -/
theorem exists_finalized (run : Run history store) (shows : Shows store id saga)
    (coherent : Coherent saga) {effect : EffectRow} (member : effect ∈ saga.effects)
    (flying : effect.state = .inFlight) {activityId : Uuid}
    (fresh : store.activity.find activityId = none) (actor : String) {downstream : Downstream}
    (accepts : downstream.Accepts) :
    ∃ entry, entry.before = store ∧ CommitsAlone entry ∧ entry.event.Serves now ∧
      Run (history ++ [entry]) entry.after ∧ Serves now store entry.after ∧
      (∀ noted, entry.event.Notes noted → noted = activityId) ∧
      ∃ saga', Shows entry.after id saga' ∧ Coherent saga' ∧
        saga'.row.status = restStatus saga'.row.cleanupRequested saga'.waiting := by
  have stored := shows.stored member
  have checked := (Bool.and_eq_true_iff.mp
    (run.holds.checked.effects effect (Store.effect_found.mp stored).1)).2
  unfold EffectProgress.checked at checked
  rw [decide_eq_true_eq] at checked
  obtain ⟨-, ⟨-, token, -⟩ | ⟨landed, -⟩⟩ := checked
  swap
  · exact absurd flying landed
  obtain ⟨fence, token⟩ := Option.isSome_iff_exists.mp token
  have leased : store.holds effect.effectId fence = true :=
    holds_iff.mpr ⟨effect, stored, flying, token⟩
  obtain ⟨claim, given, record, gave, same, under⟩ := run.granted leased
  obtain ⟨named, found, owner, -⟩ := run.holds.named claim given record gave
  rw [same, stored] at found
  cases found
  have here : effect.provisioningId = id := (Store.mem_effectsOf.mp (shows.effects ▸ member)).2
  rw [here] at owner
  have held : (store.effect record.effectId).filter (fenced record.leaseToken) = some effect := by
    rw [same, stored, under, Option.filter_some, if_pos]
    exact decide_eq_true ⟨flying, token⟩
  have succeeds : (executeEffect downstream record).succeeds = true := by
    obtain ⟨past, rest, rfl⟩ := List.append_of_mem given
    exact succeeds_of_accepts run gave accepts
  have known : store.saga record.provisioningId = some saga.row := by
    rw [← owner]
    exact shows.row
  have commits : ∃ final, postgres.Commits (finalizeEffect now activityId record actor
      (executeEffect downstream record)) store (executeEffect downstream record).result final :=
    finalizeEffect_commits run.holds.checked known held (executeEffect_fits _ _) fresh
      (run.revision_room (Store.saga_found.mp shows.row).1) actor
  obtain ⟨final, committed⟩ := commits
  generalize entry_eq : (⟨.finalizeEffect now activityId record actor
    (executeEffect downstream record), store,
      .finalized (executeEffect downstream record).result, final⟩ : Committed) = entry
  have called : entry.event = .finalizeEffect now activityId record actor
    (executeEffect downstream record) := by rw [← entry_eq]
  have before : entry.before = store := by rw [← entry_eq]
  have alone' : CommitsAlone entry := by
    rw [← entry_eq]
    exact alone_reply (Certain.finalizeEffect.commits_iff.mp committed) .finalized
  have run' : Run (history ++ [entry]) entry.after := by
    refine .commit (before ▸ run) ?_ alone'.commit
    rw [called]
    exact ⟨⟨claim, given, gave⟩, downstream, rfl⟩
  obtain ⟨-, saga₁, saga', moves⟩ := run'.did.2.finalizes called (by rw [before]; exact held)
  rw [before, ← owner] at moves
  obtain rfl := moves.shown.unique moves.coherent shows coherent
  obtain ⟨-, requested, status⟩ := moves.step.settle_waiting coherent
  refine ⟨entry, before, alone', ?_, run', .settle moves succeeds (.done _), fun noted notes => ?_,
    saga', moves.shows, moves.step.coherent coherent, ?_⟩
  · rw [called]
    exact ⟨rfl, succeeds⟩
  · rw [called] at notes
    exact notes
  · rw [requested]
    exact status succeeds

/-- **A saga stands** as soon as its lease is given back. -/
theorem exists_stands (run : Run history store) (shows : Shows store id saga)
    (coherent : Coherent saga) (clock : now.Formats) (dated : Dated saga.row saga.effects)
    (tries : ∀ effect ∈ store.effects.rows, effect.state = .pending ∨ (effect.state = .failed ∧
      effect.provisioningId = id) → effect.attempts < 2147483647)
    {activityId : Uuid} {ids : List Uuid} (supply : Supply store (activityId :: ids))
    (actor : String) {downstream : Downstream} (accepts : downstream.Accepts) :
    ∃ later final, Continues now id history later final ∧
      Stands now id saga.row.cleanupRequested saga.row.requestedBy (history ++ later) final ids ∧
      Serves now store final ∧ final.mutations = store.mutations := by
  by_cases free : ∀ effect ∈ store.effects.rows, effect.state = .inFlight →
      effect.provisioningId = id → expired now effect = true
  · refine ⟨[], store, .nil run, ⟨by rwa [List.append_nil], fun effect member =>
      ⟨tries effect member, free effect member⟩, ⟨saga, shows, coherent, rfl, rfl, dated⟩,
        supply.sublist (List.sublist_cons_self _ _)⟩, .done _, rfl⟩
  · push Not at free
    obtain ⟨effect, member, flying, here, -⟩ := free
    have inside : effect ∈ saga.effects := by
      rw [← shows.effects]
      exact Store.mem_effectsOf.mpr ⟨Table.find_of_mem member, here⟩
    obtain ⟨entry, rfl, alone', serving, run', serves, notes, saga', shows', coherent', status⟩ :=
      @exists_finalized now _ _ _ _ run shows coherent _ inside flying _
        (supply.activity _ List.mem_cons_self) actor _ accepts
    have supply' := supply.rest alone' notes
    refine ⟨[entry], entry.after, ⟨run', fun other one => ?_⟩, ⟨run', fun other there =>
      ⟨?_, fun flying' here' => ?_⟩, ?_, supply'⟩, serves, ?_⟩
    · rw [List.mem_singleton.mp one]
      exact ⟨alone', serving.offered⟩
    · refine serves.rows (P := fun effect => effect.state = .pending ∨ (effect.state = .failed ∧
        effect.provisioningId = id) → effect.attempts < 2147483647)
        (fun effect settled => ?_) tries other there
      exact (@ready_of_settled now id _ settled).tries
    · have inside' : other ∈ saga'.effects := by
        rw [← shows'.effects]
        exact Store.mem_effectsOf.mpr ⟨Table.find_of_mem there, here'⟩
      exact absurd (coherent'.flying_status inside' flying') (status ▸ restStatus_ne _ _)
    · exact serves.kept clock ⟨saga, shows, coherent, rfl, rfl, dated⟩
    · exact run.mutations_kept run' fun other one => by
        rw [List.mem_singleton.mp one]
        exact serving.silent

end Freed

/-! ### A saga that needs its actor -/

/-- What an operator brings to a request: an unused key, evidence, and the ids to observe. -/
structure Operator where
  caller : String
  idempotencyKey : String
  requestHash : List UInt8
  evidence : String
  organizationId : String
  ownerMembershipId : String
  grantId : String

/-- **The resolution an effect calls for**: a failed one is tried again, one in doubt is confirmed with
the ids of its kind. -/
def Operator.resolution (operator : Operator) (row : SagaRow) (effect : EffectRow) : RetryInput where
  caller := operator.caller
  actor := row.requestedBy
  idempotencyKey := operator.idempotencyKey
  requestHash := operator.requestHash
  provisioningId := row.provisioningId
  expectedRevision := row.revision
  resolution := if effect.state = .unknown then .confirmApplied else .retryFailed
  observedOrganizationId := if effect.state = .unknown ∧ effect.kind = .createOrganization then
    some operator.organizationId else none
  observedOwnerMembershipId := if effect.state = .unknown ∧ effect.kind = .createOrganization then
    some operator.ownerMembershipId else none
  observedGrantId := if effect.state = .unknown ∧ effect.kind = .putEntitlement then
    some operator.grantId else none
  evidence := operator.evidence

section Resolves

variable {now : Timestamp} {id : Uuid} {cleanup : Bool} {owner : String}
  {history : List Committed} {store : Store} {saga : Saga} {operator : Operator} {effect : EffectRow}

theorem Operator.decides_unknown (review : saga.row.status = .manualReview)
    (doubted : effect.state = .unknown) :
    Decides (operator.resolution saga.row effect) saga.row effect := by
  unfold Decides Operator.resolution
  simp only [doubted, true_and, if_true]
  refine ⟨review, ?_⟩
  cases kind : effect.kind <;> simp [RetryInput.Observes, RetryInput.observesNothing]

theorem Operator.decides_failed
    (failed : saga.row.status = .failed ∨ saga.row.status = .cleanupFailed)
    (broken : effect.state = .failed) :
    Decides (operator.resolution saga.row effect) saga.row effect := by
  unfold Decides Operator.resolution
  simp [broken, failed, RetryInput.observesNothing]

/-- **A stopped saga has an effect its actor can resolve.** -/
theorem exists_decides (coherent : Coherent saga) (operator : Operator)
    (stopped : saga.row.status = .failed ∨ saga.row.status = .cleanupFailed ∨
      saga.row.status = .manualReview) :
    ∃ effect ∈ saga.effects, (effect.state = .failed ∨ effect.state = .unknown) ∧
      Decides (operator.resolution saga.row effect) saga.row effect := by
  have broken : saga.row.status = .failed ∨ saga.row.status = .cleanupFailed →
      ∃ effect ∈ saga.effects, (effect.state = .failed ∨ effect.state = .unknown) ∧
        Decides (operator.resolution saga.row effect) saga.row effect := by
    intro failed
    obtain ⟨effect, member, state⟩ :=
      coherent.stopped_effect (coherent.failed_status failed) (Or.inr (Or.inl rfl))
    exact ⟨effect, member, Or.inl state, Operator.decides_failed failed state⟩
  rcases stopped with failed | failed | review
  · exact broken (Or.inl failed)
  · exact broken (Or.inr failed)
  · obtain ⟨effect, member, state⟩ := @Coherent.stopped_effect _ coherent .unknown
      (by rw [review]; rfl) (Or.inr (Or.inr rfl))
    exact ⟨effect, member, Or.inr state, Operator.decides_unknown review state⟩

theorem statusOf_rests {state : EffectState}
    (pending : statusOf cleanup state ≠ .pending ∧ statusOf cleanup state ≠ .cleanupPending)
    (running : statusOf cleanup state ≠ statusOf cleanup .inFlight) :
    statusOf cleanup state = (if cleanup then .cleanupCompleted else .completed) ∨
      statusOf cleanup state = .failed ∨ statusOf cleanup state = .cleanupFailed ∨
        statusOf cleanup state = .manualReview := by
  cases state with
  | pending => cases cleanup <;> simp [statusOf] at pending
  | inFlight => exact absurd rfl running
  | failed | unknown | applied | compensated | skipped => cases cleanup <;> simp [statusOf]

/-- A served saga rests or needs its actor. -/
theorem Stands.rests {ids : List Uuid} (stands : Stands now id cleanup owner history store ids)
    (idle : hasMore now store = false) (shows : Shows store id saga) (coherent : Coherent saga) :
    saga.row.status = (if saga.row.cleanupRequested then .cleanupCompleted else .completed) ∨
      saga.row.status = .failed ∨ saga.row.status = .cleanupFailed ∨
        saga.row.status = .manualReview := by
  rw [← Bool.not_eq_true, hasMore_iff stands.run.holds.coherent, not_or, not_ne_iff,
    not_ne_iff] at idle
  have member := (Store.saga_found.mp shows.row).1
  have pending := (first_claimable stands.run.holds.coherent).mp idle.1 saga.row member
  have expires := Store.first_none.mp idle.2 saga.row member
  have running : saga.row.status ≠ statusOf saga.row.cleanupRequested .inFlight := by
    intro status
    obtain ⟨effect, inside, flying⟩ := coherent.stopped_effect status (Or.inl rfl)
    have stored := Store.effect_found.mp (shows.stored inside)
    have here : effect.provisioningId = id := (Store.mem_effectsOf.mp (shows.effects ▸ inside)).2
    have expired' : hasExpired now saga.row saga.effects = true := by
      unfold hasExpired
      rw [Bool.and_eq_true, decide_eq_true_eq, List.any_eq_true]
      refine ⟨?_, effect, inside, (stands.ready effect stored.1).free flying here⟩
      rw [status]
      cases saga.row.cleanupRequested
      · exact Or.inl rfl
      · exact Or.inr rfl
    rw [shows.id_eq, shows.effects, expired'] at expires
    cases expires
  rcases coherent.worked with done | ⟨past, focus, rest, split⟩
  · exact Or.inl (coherent.status_of_finished done).1
  · have status := (coherent.status_of_split split).1
    rw [status] at pending running ⊢
    exact statusOf_rests pending running

/-- A resolution lets the saga wait or rest. -/
theorem edges_resolve {effectId : Uuid} {resolution : RetryResolution} {status reached : SagaStatus}
    (edge : reached ∈ edges cleanup (.retry effectId resolution) status) :
    reached = .pending ∨ reached = .cleanupPending ∨
      reached = (if cleanup then .cleanupCompleted else .completed) := by
  cases resolution <;> cases status <;> cases cleanup <;> simp [edges] at edge ⊢ <;> tauto

/-- **Its actor sets a stopped saga going again.** -/
theorem Stands.resolves {activityId : Uuid} {ids : List Uuid}
    (stands : Stands now id cleanup owner history store (activityId :: ids)) (clock : now.Formats)
    (shows : Shows store id saga) (coherent : Coherent saga)
    (stopped : saga.row.status = .failed ∨ saga.row.status = .cleanupFailed ∨
      saga.row.status = .manualReview) (operator : Operator)
    (unused : store.mutation operator.caller operator.idempotencyKey = none) :
    ∃ entry final saga', Continues now id history [entry] final ∧
      Stands now id cleanup owner (history ++ [entry]) final ids ∧
      Shows final id saga' ∧ Coherent saga' ∧
      (saga'.row.status = .pending ∨ saga'.row.status = .cleanupPending ∨
        saga'.row.status = (if cleanup then .cleanupCompleted else .completed)) ∧
      (final.effects.rows.map fun effect => effect.effectId).Perm
        (store.effects.rows.map fun effect => effect.effectId) ∧
      ∀ caller key, ¬ (caller = operator.caller ∧ key = operator.idempotencyKey) →
        final.mutation caller key = store.mutation caller key := by
  obtain ⟨effect, member, state, decides⟩ := exists_decides coherent operator stopped
  generalize asked : operator.resolution saga.row effect = input at decides
  have names : input.provisioningId = id := by
    rw [← asked]
    exact shows.id_eq
  have unused' : store.mutation input.caller input.idempotencyKey = none := by
    rw [← asked]
    exact unused
  have retries : Retries store input saga :=
    ⟨names ▸ shows, coherent, stands.run.holds.checked, by rw [← asked]; rfl, unused',
      by rw [← asked]; rfl⟩
  have kept : ∃ saga, Shows store id saga ∧ Coherent saga ∧
      saga.row.cleanupRequested = cleanup ∧ saga.row.requestedBy = owner ∧
        Dated saga.row saga.effects := stands.saga
  obtain ⟨_, shows', coherent', requested, requestedBy, dated⟩ := kept
  obtain rfl := shows.unique coherent shows' coherent'
  have accepted : ∃ response final, postgres.Commits (retry now activityId input) store response
      final :=
    retry_commits retries (stands.run.revision_room (Store.saga_found.mp shows.row).1)
      (stands.supply.activity _ List.mem_cons_self) member decides
      fun saga' step => (step.dated clock dated).renders
  obtain ⟨response, final, committed⟩ := accepted
  generalize entry_eq : (⟨.retry now activityId input, store, .view response, final⟩ : Committed) =
    entry
  have called : entry.event = .retry now activityId input := by rw [← entry_eq]
  have before : entry.before = store := by rw [← entry_eq]
  have after : entry.after = final := by rw [← entry_eq]
  have alone' : CommitsAlone entry := by
    rw [← entry_eq]
    exact alone_reply ((Certain.retry).commits_iff.mp committed) .view
  have run' : Run (history ++ [entry]) entry.after := by
    refine .commit (before ▸ stands.run) ?_ alone'.commit
    rw [called]
    trivial
  rcases retry_moves stands.run.holds.coherent committed with
    ⟨-, row, taken, -⟩ | ⟨found, saga₁, saga', moves, inside, -, -, resolvable, -, reserves⟩
  · rw [unused'] at taken
    cases taken
  rw [names] at moves
  obtain rfl := shows.unique coherent moves.shown moves.coherent
  obtain rfl := decides.resolvable.unique coherent member (Coherent.phase_mem inside) resolvable
  have turns : Transition.retry found.effectId input.resolution ≠ .cleanup :=
    fun same => by cases same
  have ids' := Serves.moves_ids moves turns
  have status := edges_resolve (moves.step.edge coherent)
  rw [requested] at status
  refine ⟨entry, final, saga', ⟨after ▸ run', ?_⟩, ⟨after ▸ run', ?_, ?_, ?_⟩, moves.shows,
    moves.step.coherent coherent, status, ids', ?_⟩
  · intro other one
    rw [List.mem_singleton.mp one]
    refine ⟨alone', ?_⟩
    rw [called, before]
    refine ⟨rfl, names, unused', saga.row, shows.row, retries.owner, retries.current, ?_⟩
    rw [shows.effects]
    exact decides.legitimate member
  · refine moves.rows turns (fun focus there progress organization turn ready => ?_) stands.ready
    obtain ⟨same, ⟨-, broken, rfl⟩ | ⟨confirmed, -⟩ | ⟨-, -, outcome, fits, succeeds, rfl, -⟩⟩ :=
      turn.of_retry
    · have here : focus.provisioningId = id := by
        have found' := shows.stored member
        rw [← same, show store.effect focus.effectId = some focus from Table.find_of_mem there]
          at found'
        cases found'
        exact (Store.mem_effectsOf.mp (shows.effects ▸ member)).2
      exact ⟨fun _ => ready.tries (Or.inr ⟨broken, here⟩), fun flying => by cases flying⟩
    · rw [← asked] at confirmed
      unfold Operator.resolution at confirmed
      simp only at confirmed
      split at confirmed <;> cases confirmed
    · refine ready_of_settled (Or.inr ?_)
      show (outcome.write now focus.toEffectProgress).state = _ ∨
        (outcome.write now focus.toEffectProgress).state = _
      rw [EffectOutcome.state_succeeds fits succeeds]
      cases focus.kind.isMain
      · exact Or.inr rfl
      · exact Or.inl rfl
  · refine ⟨saga', moves.shows, moves.step.coherent coherent, ?_,
      (congrArg SagaIntent.requestedBy moves.step.intent).trans requestedBy,
      moves.step.dated clock dated⟩
    rw [moves.step.cleanup_eq, requested]
    exact Bool.or_false _
  · rw [← after]
    refine Supply.rest (before ▸ stands.supply) alone' fun noted notes => ?_
    rw [called] at notes
    exact notes
  · intro caller key differs
    refine reserves.others caller key ?_
    rw [← asked]
    exact differs

end Resolves

/-! ### The continuation -/

section Completes

variable {now : Timestamp} {id : Uuid} {cleanup : Bool} {owner : String}
  {history : List Committed} {store : Store} {ids rest : List Uuid}

/-- **A pending saga is served to its end.** -/
theorem Stands.drains (stands : Stands now id cleanup owner history store (ids ++ rest))
    (clock : now.Formats) (lease : (leaseEnd now 5).isSome)
    (enough : 3 * (store.effects.rows.length + 1) ≤ ids.length) (worker : String)
    {downstream : Downstream} (accepts : downstream.Accepts) {saga : Saga}
    (shows : Shows store id saga)
    (pending : saga.row.status = .pending ∨ saga.row.status = .cleanupPending) :
    ∃ later final saga', Continues now id history later final ∧
      Stands now id cleanup owner (history ++ later) final rest ∧ Serves now store final ∧
      final.mutations = store.mutations ∧ Shows final id saga' ∧ Coherent saga' ∧
      saga'.row.status = if cleanup then .cleanupCompleted else .completed := by
  obtain ⟨later, last, final, continues, stands', idle, serves, same, ran⟩ :=
    stands.served clock lease enough worker accepts
  have accepting : ∀ call ∈ serviceCalls now downstream ids, ∀ index,
      (WorkerCall.turn call index).downstream.Accepts := by
    intro call member index
    rw [((mem_serviceCalls member).2.2.2 index).2.2.2]
    exact accepts
  have tracks := tracks_of_pending stands.run.holds.coherent (Store.saga_found.mp shows.row).1
    pending
  rw [shows.id_eq] at tracks
  obtain ⟨saga', shows', coherent', tracked⟩ := drain_tracks stands.run accepting tracks ran
  obtain ⟨_, shown, coherent'', requested, -, -⟩ := stands'.saga
  obtain rfl := shows'.unique coherent' shown coherent''
  rw [← Bool.not_eq_true, hasMore_iff stands'.run.holds.coherent, not_or, not_ne_iff] at idle
  obtain ⟨-, status⟩ := tracked.rests
    ((first_claimable stands'.run.holds.coherent).mp idle.1 _ (Store.saga_found.mp shows'.row).1)
  refine ⟨later, final, saga', continues, stands', serves, same, shows', coherent', ?_⟩
  rw [status, ← tracked.requested, requested]

/-- Fewer ids suffice. -/
theorem Stands.fewer {fewer : List Uuid} (stands : Stands now id cleanup owner history store ids)
    (less : fewer.Sublist ids) : Stands now id cleanup owner history store fewer :=
  ⟨stands.run, stands.ready, stands.saga, stands.supply.sublist less⟩

/-- **Served, resolved by its actor if need be and served again, a saga ends its phase.** -/
theorem Stands.completes {first second : List Uuid} {activityId : Uuid}
    (stands : Stands now id cleanup owner history store (first ++ activityId :: (second ++ rest)))
    (clock : now.Formats) (lease : (leaseEnd now 5).isSome)
    (enough : 3 * (store.effects.rows.length + 1) ≤ first.length)
    (again : 3 * (store.effects.rows.length + 1) ≤ second.length) (worker : String)
    {downstream : Downstream} (accepts : downstream.Accepts) (operator : Operator)
    (unused : store.mutation operator.caller operator.idempotencyKey = none) :
    ∃ later final saga', Continues now id history later final ∧
      Stands now id cleanup owner (history ++ later) final rest ∧
      Shows final id saga' ∧ Coherent saga' ∧
      saga'.row.status = (if cleanup then .cleanupCompleted else .completed) ∧
      (final.effects.rows.map fun effect => effect.effectId).Perm
        (store.effects.rows.map fun effect => effect.effectId) ∧
      ∀ caller key, ¬ (caller = operator.caller ∧ key = operator.idempotencyKey) →
        final.mutation caller key = store.mutation caller key := by
  obtain ⟨later, last, served, continues, stands₁, idle, serves, same, -⟩ :=
    stands.served clock lease enough worker accepts
  obtain ⟨saga, shows, coherent, requested, requestedBy, dated⟩ := stands₁.saga
  have ended := stands₁.rests idle shows coherent
  rw [requested] at ended
  rcases ended with status | stopped
  · have part : rest.Sublist (activityId :: (second ++ rest)) :=
      .cons _ (List.sublist_append_right _ _)
    exact ⟨later, served, saga, continues, stands₁.fewer part, shows, coherent, status, serves.ids,
      fun caller key _ => mutation_of_eq same caller key⟩
  · obtain ⟨entry, resolved, saga', resolves, stands₂, shows', coherent', status, ids₂, others⟩ :=
      stands₁.resolves clock shows coherent stopped operator
        ((mutation_of_eq same _ _).trans unused)
    have size : resolved.effects.rows.length = store.effects.rows.length := by
      have counted := (ids₂.trans serves.ids).length_eq
      rwa [List.length_map, List.length_map] at counted
    have kept : ∀ caller key, ¬ (caller = operator.caller ∧ key = operator.idempotencyKey) →
        resolved.mutation caller key = store.mutation caller key := fun caller key differs =>
      (others caller key differs).trans (mutation_of_eq same caller key)
    rw [← or_assoc] at status
    rcases status with pending | status
    · obtain ⟨more, final, saga'', continues', stands₃, serves', same', shows'', coherent'',
        status⟩ := stands₂.drains clock lease (by rw [size]; exact again) worker accepts shows'
          pending
      refine ⟨later ++ ([entry] ++ more), final, saga'', ?_, ?_, shows'', coherent'', status,
        serves'.ids.trans (ids₂.trans serves.ids), fun caller key differs =>
          (mutation_of_eq same' caller key).trans (kept caller key differs)⟩
      · exact continues.append (resolves.append continues')
      · rw [← List.append_assoc, ← List.append_assoc]
        exact stands₃
    · refine ⟨later ++ [entry], resolved, saga', continues.append resolves, ?_, shows', coherent',
        status, ids₂.trans serves.ids, kept⟩
      rw [← List.append_assoc]
      exact stands₂.fewer (List.sublist_append_right _ _)

end Completes

/-! ### A cleanup request -/

/-- **The cleanup request of an operator** for a saga. -/
def Operator.cleanup (operator : Operator) (row : SagaRow) : CleanupInput where
  caller := operator.caller
  actor := row.requestedBy
  idempotencyKey := operator.idempotencyKey
  requestHash := operator.requestHash
  provisioningId := row.provisioningId
  expectedRevision := row.revision
  evidence := operator.evidence

section Cleanup

variable {now : Timestamp} {id : Uuid} {owner : String} {history : List Committed}
  {before after store : Store} {saga saga' : Saga} {ids revokeIds : List Uuid}

/-- What a cleanup request makes of the effects: some are skipped, and pending ones are added, at most
as many as there were. -/
theorem Moves.cleans (moves : Moves now .cleanup id before after saga saga') :
    ∃ revokes others, before.effects.rows.Perm (saga.mains ++ others) ∧
      after.effects.rows.Perm ((saga.mains.map (skipUnfinished now) ++ revokes) ++ others) ∧
      revokes.length ≤ saga.mains.length ∧ ∀ revoke ∈ revokes, revoke.attempts = 0 ∧
        revoke.state = .pending := by
  have shown := moves.shown
  have shows := moves.shows
  have others := moves.elsewhere.others
  have step := moves.step
  generalize asked : Transition.cleanup = transition at step
  cases step with
  | turn _ turn _ =>
    subst asked
    exact absurd turn Turn.not_cleanup
  | @cleanup revokes note unrequested stopped compensated records =>
    refine ⟨revokes, before.effects.rows.filter fun row => !decide (row.provisioningId = id), ?_,
      ?_, ?_, fun revoke member => ?_⟩
    · have rows := shown.perm
      rwa [Saga.effects, moves.coherent.unrequested unrequested, List.append_nil] at rows
    · exact shows.perm.trans (List.Perm.append_left _ others)
    · rw [← compensated.length_eq]
      exact List.length_filter_le _ _
    · obtain ⟨source, -, effectId, subjectKind, feature, grantId, -, -, -, rfl⟩ :=
        exists_partner compensated member
      exact ⟨rfl, rfl⟩

/-- **A completed saga accepts a cleanup request** of its actor. -/
theorem Stands.cleans {activityId : Uuid}
    (stands : Stands now id false owner history store (activityId :: ids)) (clock : now.Formats)
    (shows : Shows store id saga) (coherent : Coherent saga)
    (completed : saga.row.status = .completed) (operator : Operator)
    (unused : store.mutation operator.caller operator.idempotencyKey = none)
    (fresh : ∀ id ∈ revokeIds, store.effect id = none) (distinct : revokeIds.Nodup)
    (enough : store.effects.rows.length ≤ revokeIds.length) :
    ∃ entry saga', entry.before = store ∧ CommitsAlone entry ∧
      entry.event = .requestCleanup now (fun index => revokeIds.getD index 0) activityId
        (operator.cleanup saga.row) ∧
      (∃ response, entry.reply = .view response) ∧
      Stands now id true owner (history ++ [entry]) entry.after ids ∧
      Shows entry.after id saga' ∧ Coherent saga' ∧
      (saga'.row.status = .cleanupPending ∨ saga'.row.status = .cleanupCompleted) ∧
      entry.after.effects.rows.length ≤ 2 * store.effects.rows.length := by
  generalize asked : operator.cleanup saga.row = input
  have names : input.provisioningId = id := by
    rw [← asked]
    exact shows.id_eq
  have unused' : store.mutation input.caller input.idempotencyKey = none := by
    rw [← asked]
    exact unused
  have kept : ∃ saga, Shows store id saga ∧ Coherent saga ∧
      saga.row.cleanupRequested = false ∧ saga.row.requestedBy = owner ∧
        Dated saga.row saga.effects := stands.saga
  obtain ⟨_, shows', coherent', unrequested, requestedBy, dated⟩ := kept
  obtain rfl := shows.unique coherent shows' coherent'
  have cleans : Cleans store input saga :=
    ⟨names ▸ shows, coherent, stands.run.holds.checked,
      fun _ => stands.run.keyed, by rw [← asked]; rfl, unused', by rw [← asked]; rfl, unrequested,
      Or.inl completed⟩
  have few : ((store.effectsOf input.provisioningId).filter granted).length ≤ revokeIds.length :=
    ((List.length_filter_le _ _).trans (List.length_filter_le _ _)).trans enough
  have ids' : FreshRevokes store input.provisioningId fun index => revokeIds.getD index 0 := by
    refine ⟨fun index small => ?_, fun first second less small same => ?_⟩
    · rw [List.getD_eq_getElem?_getD, List.getElem?_eq_getElem (small.trans_le few)]
      exact fresh _ (List.getElem_mem _)
    · have position := (List.getD_inj (by omega) (by omega) distinct).mp same
      omega
  have accepted : ∃ response final, postgres.Commits (requestCleanup now
      (fun index => revokeIds.getD index 0) activityId input) store response final :=
    requestCleanup_commits cleans
      (stands.run.revision_room (Store.saga_found.mp shows.row).1) ids'
      (stands.supply.activity _ List.mem_cons_self) fun saga' step =>
        (step.dated clock dated).renders
  obtain ⟨response, final, committed⟩ := accepted
  generalize entry_eq : (⟨.requestCleanup now (fun index => revokeIds.getD index 0) activityId
    input, store, .view response, final⟩ : Committed) = entry
  have called : entry.event = .requestCleanup now (fun index => revokeIds.getD index 0) activityId
    input := by rw [← entry_eq]
  have before : entry.before = store := by rw [← entry_eq]
  have after : entry.after = final := by rw [← entry_eq]
  have alone' : CommitsAlone entry := by
    rw [← entry_eq]
    exact alone_reply ((Certain.requestCleanup).commits_iff.mp committed) .view
  have run' : Run (history ++ [entry]) entry.after := by
    refine .commit (before ▸ stands.run) ?_ alone'.commit
    rw [called]
    trivial
  rcases requestCleanup_moves stands.run.holds.coherent committed with
    ⟨-, row, taken, -⟩ | ⟨saga₁, saga', moves, -, -, -, -⟩
  · rw [unused'] at taken
    cases taken
  rw [names, ← after] at moves
  obtain rfl := shows.unique coherent moves.shown moves.coherent
  obtain ⟨revokes, others, was, becomes, fewer, pending⟩ := moves.cleans
  refine ⟨entry, saga', before, alone', called, ⟨response, by rw [← entry_eq]⟩,
    ⟨run', fun effect member => ?_, ⟨saga', moves.shows, moves.step.coherent coherent, ?_, ?_,
      moves.step.dated clock dated⟩, ?_⟩, moves.shows, moves.step.coherent coherent, ?_, ?_⟩
  · rcases List.mem_append.mp (becomes.mem_iff.mp member) with own | other
    · rcases List.mem_append.mp own with main | revoke
      · obtain ⟨old, inside, rfl⟩ := List.mem_map.mp main
        have ready := stands.ready old (was.mem_iff.mpr (List.mem_append_left _ inside))
        unfold skipUnfinished
        split
        · exact ⟨fun waits => by simp [EffectRow.set, EffectProgress.skipped] at waits,
            fun flying => by simp [EffectRow.set, EffectProgress.skipped] at flying⟩
        · exact ready
      · obtain ⟨none, state⟩ := pending effect revoke
        exact ⟨fun _ => by rw [none]; decide, fun flying => by rw [state] at flying; cases flying⟩
    · exact stands.ready effect (was.mem_iff.mpr (List.mem_append_right _ other))
  · rw [moves.step.cleanup_eq, unrequested]
    rfl
  · exact (congrArg SagaIntent.requestedBy moves.step.intent).trans requestedBy
  · refine Supply.rest (before ▸ stands.supply) alone' fun noted notes => ?_
    rw [called] at notes
    exact notes
  · have edge := moves.step.edge coherent
    rw [completed] at edge
    simpa [edges] using edge
  · have one := was.length_eq
    have two := becomes.length_eq
    simp only [List.length_append, List.length_map] at one two
    omega

end Cleanup

/-! ### The guarantee -/

/-- **What recovery takes for granted** of a store, an instant and a saga: instants with a text, a
lease that can be given, attempts to spare, and new UUIDs. -/
structure Recoverable (now : Timestamp) (id : Uuid) (row : SagaRow) (store : Store) : Prop where
  clock : now.Formats
  lease : (leaseEnd now 5).isSome
  dated : Dated row (store.effectsOf id)
  tries : ∀ effect ∈ store.effects.rows, effect.state = .pending ∨ (effect.state = .failed ∧
    effect.provisioningId = id) → effect.attempts < 2147483647
  ids : store.HasIds (13 * store.effects.rows.length + 12)

/-- New UUIDs for a continuation: two calls and three services, and the revocations of a cleanup. -/
theorem exists_supplies {store : Store} (room : store.HasIds (13 * store.effects.rows.length + 12)) :
    ∃ activity₀ first activity₁ second activity₂ third revokeIds,
      3 * (store.effects.rows.length + 1) ≤ List.length first ∧
      3 * (store.effects.rows.length + 1) ≤ List.length second ∧
      3 * (2 * store.effects.rows.length + 1) ≤ List.length third ∧
      store.effects.rows.length ≤ List.length revokeIds ∧
      Supply store
        (activity₀ :: (first ++ activity₁ :: (second ++ activity₂ :: (third ++ revokeIds)))) ∧
      ∀ id ∈ revokeIds, store.effect id = none := by
  obtain ⟨ids, size, supply, fresh⟩ := exists_supply room
  generalize store.effects.rows.length = count at size ⊢
  have cut : ∀ (ids : List Uuid) (small large : Nat), ids.length = small + large →
      ∃ first rest, ids = first ++ rest ∧ first.length = small ∧ rest.length = large := by
    intro ids small large size
    refine ⟨ids.take small, ids.drop small, (List.take_append_drop _ _).symm, ?_, ?_⟩
    · rw [List.length_take]
      omega
    · rw [List.length_drop]
      omega
  obtain ⟨activity₀, ids, rfl⟩ := List.exists_cons_of_length_eq_add_one size
  obtain ⟨first, ids, rfl, few, size⟩ := cut ids (3 * (count + 1)) (10 * count + 8)
    (by simp only [List.length_cons] at size; omega)
  obtain ⟨activity₁, ids, rfl⟩ := List.exists_cons_of_length_eq_add_one size
  obtain ⟨second, ids, rfl, few', size⟩ := cut ids (3 * (count + 1)) (7 * count + 4)
    (by simp only [List.length_cons] at size; omega)
  obtain ⟨activity₂, ids, rfl⟩ := List.exists_cons_of_length_eq_add_one size
  obtain ⟨third, revokeIds, rfl, few'', many⟩ := cut ids (3 * (2 * count + 1)) count
    (by simp only [List.length_cons] at size; omega)
  refine ⟨activity₀, first, activity₁, second, activity₂, third, revokeIds, few.ge, few'.ge,
    few''.ge, many.ge, supply, fun id member => fresh id ?_⟩
  simp [member]

/-- **A continuation that ends a cleanup**: offered operations, a cleanup request that is accepted, and
offered operations. -/
structure CleansUp (now : Timestamp) (id : Uuid) (cleaner : Operator) (history : List Committed)
    (first : List Committed) (entry : Committed) (second : List Committed) (final : Store) : Prop where
  before : Continues now id history first entry.before
  commits : CommitsAlone entry
  asked : ∃ effectId activityId row, entry.before.saga id = some row ∧
    entry.event = .requestCleanup now effectId activityId (cleaner.cleanup row)
  unused : entry.before.mutation cleaner.caller cleaner.idempotencyKey = none
  accepted : ∃ response, entry.reply = .view response
  after : Continues now id (history ++ first ++ [entry]) second final

/-- **No saga is wedged**: from every reachable store it can be taken to its end, and to the end of a
cleanup that was not requested yet. -/
theorem saga_recovers {history : List Committed} {store : Store} (run : Run history store)
    {id : Uuid} {row : SagaRow} (present : store.saga id = some row) {now : Timestamp}
    (recoverable : Recoverable now id row store) (worker : String) {downstream : Downstream}
    (accepts : downstream.Accepts) (operator cleaner : Operator)
    (unused : store.mutation operator.caller operator.idempotencyKey = none)
    (unused' : store.mutation cleaner.caller cleaner.idempotencyKey = none)
    (differs : ¬ (cleaner.caller = operator.caller ∧
      cleaner.idempotencyKey = operator.idempotencyKey)) :
    (∃ later final row', Continues now id history later final ∧ final.saga id = some row' ∧
      row'.status = if row.cleanupRequested then .cleanupCompleted else .completed) ∧
    (row.cleanupRequested = false → ∃ first entry second final row',
      CleansUp now id cleaner history first entry second final ∧ final.saga id = some row' ∧
        row'.status = .cleanupCompleted) := by
  obtain ⟨saga, rfl, shows, coherent⟩ := run.shows present
  obtain ⟨clock, lease, dated, tries, room⟩ := recoverable
  rw [shows.effects] at dated
  obtain ⟨activity₀, first, activity₁, second, activity₂, third, revokeIds, few, few', few'', many,
    supply, fresh⟩ := exists_supplies room
  obtain ⟨early, stood, continues, stands, serves, same⟩ :=
    exists_stands run shows coherent clock dated tries supply worker accepts
  have size : stood.effects.rows.length = store.effects.rows.length := by
    have counted := serves.ids.length_eq
    rwa [List.length_map, List.length_map] at counted
  obtain ⟨later, final, saga', continues', stands', shows', coherent', status, ids, others⟩ :=
    stands.completes clock lease (by rwa [size]) (by rwa [size]) worker accepts operator
      ((mutation_of_eq same _ _).trans unused)
  have whole := continues.append continues'
  refine ⟨⟨early ++ later, final, saga'.row, whole, shows'.row, status⟩, fun requested => ?_⟩
  rw [requested] at stands' status
  have kept := ids.trans serves.ids
  have size' : final.effects.rows.length = store.effects.rows.length := by
    have counted := kept.length_eq
    rwa [List.length_map, List.length_map] at counted
  have unused'' : final.mutation cleaner.caller cleaner.idempotencyKey = none := by
    rw [others _ _ differs, mutation_of_eq same]
    exact unused'
  have distinct : revokeIds.Nodup :=
    (List.nodup_append'.mp (List.nodup_cons.mp stands'.supply.distinct).2).2.1
  obtain ⟨entry, saga'', rfl, commits, called, accepted, stands'', shows'', coherent'', status', more⟩ :=
    stands'.cleans clock shows' coherent' status cleaner unused''
      (fun id member => effect_absent kept (fresh id member)) distinct (by omega)
  rcases status' with pending | ended
  · obtain ⟨last, final, saga₃, continues'', -, -, -, shows₃, -, status₃⟩ := stands''.drains clock
      lease (by omega) worker accepts shows'' (Or.inr pending)
    refine ⟨early ++ later, entry, last, final, saga₃.row, ⟨whole, commits,
      ⟨_, _, saga'.row, shows'.row, called⟩, unused'', accepted, ?_⟩, shows₃.row, status₃⟩
    rw [← List.append_assoc]
    exact continues''
  · refine ⟨early ++ later, entry, [], entry.after, saga''.row, ⟨whole, commits,
      ⟨_, _, saga'.row, shows'.row, called⟩, unused'', accepted, .nil ?_⟩, shows''.row, ended⟩
    rw [← List.append_assoc]
    exact stands''.run

/-! ### Rehearsals -/

namespace Rehearsal

theorem accepting_accepts : accepting.Accepts :=
  ⟨fun _ => ⟨_, rfl⟩, fun _ => ⟨_, rfl⟩, fun _ => ⟨_, rfl⟩⟩

/-- An operator with a key. -/
def operator (key : String) : Operator :=
  ⟨"console", key, [4], "checked", "organization-1", "membership-1", "grant-1"⟩

end Rehearsal

/-- The failed saga of the rehearsal can be taken to its end, and to the end of a cleanup. -/
theorem saga_recovers_rehearsed :
    (∃ later final row, Continues 5 1 (played Rehearsal.failedScript).1 later final ∧
      final.saga 1 = some row ∧ row.status = .completed) ∧
    ∃ first entry second final row,
      CleansUp 5 1 (Rehearsal.operator "cleanup") (played Rehearsal.failedScript).1 first entry
        second final ∧ final.saga 1 = some row ∧ row.status = .cleanupCompleted := by
  obtain ⟨row, present, -, -, status, dated⟩ := Rehearsal.failed_saga
  have unrequested : row.cleanupRequested = false := by
    have columns : ((played Rehearsal.failedScript).2.saga 1).all (fun row =>
      !row.cleanupRequested) = true := by decide +kernel
    rw [present] at columns
    simpa using columns
  have recoverable : Recoverable 5 1 row (played Rehearsal.failedScript).2 :=
    ⟨by decide, by decide, dated, by decide +kernel, by unfold Store.HasIds; decide +kernel⟩
  have recovers := saga_recovers Rehearsal.failed_run present recoverable "worker"
    Rehearsal.accepting_accepts (Rehearsal.operator "again") (Rehearsal.operator "cleanup")
    (by decide +kernel) (by decide +kernel) (by decide)
  rw [unrequested] at recovers
  exact ⟨recovers.1, recovers.2 rfl⟩

/-! ### Beyond the years that have a text -/

/-- **A failed saga with an applied effect of an instant without a text stays failed**, whatever is
called. -/
theorem Run.stuck {past later : List Committed} {middle final : Store} {id : Uuid} {saga : Saga}
    (upTo : Run past middle) (shows : Shows middle id saga) (coherent : Coherent saga)
    (failed : saga.row.status = .failed) {create : EffectRow} (member : create ∈ saga.effects)
    (kind : create.kind = .createOrganization) (applied : create.state = .applied)
    (undated : ¬ create.updatedAt.Formats) (run : Run (past ++ later) final) :
    Shows final id saga := by
  refine upTo.later (fun _ _ last => Shows last id saga) shows ?_ run
  intro between entry earlier still legal committed
  have run' : Run ((past ++ between) ++ entry :: []) entry.after := .commit earlier legal committed
  have undatable : ∀ {saga' : Saga} {response : ProvisioningView}, create ∈ saga'.effects →
      renderView saga'.row saga'.effects ≠ some response :=
    fun inside rendered => undated ((dated_of_renders rendered).steps create inside)
  cases run'.fate id with
  | still untouched => exact untouched.shows still
  | began _ _ _ absent _ _ _ _ =>
    rw [still.row] at absent
    cases absent
  | @moved now transition saga₁ saga' shown coherent₁ step _ cause =>
    exfalso
    obtain rfl := still.unique coherent shown coherent₁
    have edge := step.edge coherent
    rw [failed] at edge
    cases cause with
    | claim | finalize | quarantine => simp [edges] at edge
    | @retry _ _ effect _ _ _ _ inside _ _ resolvable rendered _ =>
      refine undatable ?_ rendered
      generalize asked : Transition.retry effect.effectId _ = transition at step
      cases step with
      | cleanup => cases asked
      | @turn _ past rest focus progress organization note split turns records =>
        subst asked
        obtain ⟨before, after, shape, turned⟩ := effects_turned now split
        rw [turned]
        rw [shape] at member
        rcases List.mem_append.mp member with early | late
        · exact List.mem_append_left _ early
        · rcases List.mem_cons.mp late with rfl | other
          · obtain ⟨-, ⟨-, state, -⟩ | ⟨-, state, -⟩ | ⟨-, state, -⟩⟩ := turns.of_retry <;>
              rw [applied] at state <;> cases state
          · exact List.mem_append_right _ (List.mem_cons_of_mem _ other)
    | cleanup _ _ _ _ _ rendered _ =>
      refine undatable ?_ rendered
      generalize asked : Transition.cleanup = transition at step
      cases step with
      | turn _ turn _ =>
        subst asked
        exact absurd turn Turn.not_cleanup
      | @cleanup revokes note unrequested stopped compensated records =>
        rw [Saga.effects, coherent.unrequested unrequested, List.append_nil] at member
        refine List.mem_append_left _ (List.mem_map.mpr ⟨create, member, ?_⟩)
        unfold skipUnfinished
        rw [if_neg]
        rintro ⟨put, -⟩
        rw [kind] at put
        cases put

/-- The organization is created in the first instant of the year 10000, and the first grant fails. -/
def undatedScript : List Instruction := [
  .call (.start 0 Rehearsal.ids Rehearsal.input),
  Rehearsal.claim 1 101 21,
  .settle 253402300800000000 22 "worker" Rehearsal.accepting 1,
  .call (.claimNext 253402300800000001 2 "worker" 102 23 60),
  .settle 253402300800000002 24 "worker" Rehearsal.refusing 3]

theorem undated_run : Run (played undatedScript).1 (played undatedScript).2 :=
  run_of_played (by decide +kernel)

/-- **In the year 10000 a saga can be beyond recovery**: no continuation at all completes it, since the driver
panics over the instant of its organization whenever a response is rendered. -/
theorem saga_wedged : ¬ ∀ (history : List Committed) (store : Store), Run history store →
    ∀ (id : Uuid) (row : SagaRow), store.saga id = some row → ∃ later final row',
      Run (history ++ later) final ∧ final.saga id = some row' ∧
        row'.status = if row.cleanupRequested then .cleanupCompleted else .completed := by
  intro recovers
  have present : ((played undatedScript).2.saga 1).any (fun row =>
      decide (row.status = .failed ∧ row.cleanupRequested = false)) = true := by decide +kernel
  obtain ⟨row, found, holds⟩ := (Option.any_eq_true ..).mp present
  obtain ⟨failed, unrequested⟩ := of_decide_eq_true holds
  have created : ((played undatedScript).2.effectsOf 1).any (fun effect =>
      decide (effect.kind = .createOrganization ∧ effect.state = .applied ∧
        ¬ effect.updatedAt.Formats)) = true := by decide +kernel
  obtain ⟨create, member, holds⟩ := List.any_eq_true.mp created
  obtain ⟨kind, applied, undated⟩ := of_decide_eq_true holds
  obtain ⟨later, final, row', run, found', status⟩ := recovers _ _ undated_run 1 row found
  obtain ⟨saga, rfl, shows, coherent⟩ := undated_run.shows found
  rw [shows.effects] at member
  have stuck := undated_run.stuck shows coherent failed member kind applied undated run
  rw [stuck.row] at found'
  cases found'
  rw [unrequested, failed] at status
  cases status

end OrganizationProvisioning
