/-
**The effects of a saga are worked through one after the other.**

* `Started` — the history in which a saga was started with so many grants.
* `Run.shows_started` — its creation and its grants follow the plan of that start ever after.
* `effects_in_sequence` — the states of its effects, in order, in every reachable store.
* `summary_of_effects` — the stored summary is the one its effects stand for.
-/
import OrganizationProvisioning.Guarantee.NoReplay

namespace OrganizationProvisioning

open Relational Transactional Worklist

/-! ### The effects of a saga in order -/

/-- The creation and the grants of a saga, in order. -/
def Store.mainsOf (store : Store) (id : Uuid) : List EffectRow :=
  (store.stepsOf id).filter fun effect => effect.kind.isMain

/-- The revocations of a saga, in order. -/
def Store.revokesOf (store : Store) (id : Uuid) : List EffectRow :=
  (store.stepsOf id).filter fun effect => effect.kind = .revokeEntitlement

section Shown

variable {store : Store} {id : Uuid} {saga : Saga}

theorem Shows.stepsOf (shows : Shows store id saga) (coherent : Coherent saga) :
    store.stepsOf id = saga.effects := by
  unfold Store.stepsOf
  rw [shows.effects, coherent.orderBy_effects]

theorem Shows.mainsOf (shows : Shows store id saga) (coherent : Coherent saga) :
    store.mainsOf id = saga.mains := by
  unfold Store.mainsOf
  rw [shows.stepsOf coherent, Saga.effects, List.filter_append, List.filter_eq_self.mpr,
    List.filter_eq_nil_iff.mpr, List.append_nil]
  · intro effect member
    rw [coherent.revoke_kind member]
    decide
  · exact fun effect member => coherent.main_kind member

theorem Shows.revokesOf (shows : Shows store id saga) (coherent : Coherent saga) :
    store.revokesOf id = saga.revokes := by
  unfold Store.revokesOf
  rw [shows.stepsOf coherent, Saga.effects, List.filter_append, List.filter_eq_nil_iff.mpr,
    List.nil_append, List.filter_eq_self.mpr]
  · intro effect member
    exact decide_eq_true (coherent.revoke_kind member)
  · intro effect member
    have main := coherent.main_kind member
    cases kind : effect.kind <;> rw [kind] at main <;> first | decide | cases main

end Shown

/-! ### The start of a saga -/

/-- A committed call started a saga with so many grants. -/
def starts (id : Uuid) (count : Nat) (entry : Committed) : Bool :=
  match entry.event with
  | .start _ _ input => input.provisioningId = id ∧ input.grants.length = count ∧
      (entry.before.saga id).isNone ∧ (entry.after.saga id).isSome
  | _ => false

/-- The history started the saga with so many grants. -/
def Started (history : List Committed) (id : Uuid) (count : Nat) : Prop :=
  ∃ entry ∈ history, starts id count entry = true

/-- The columns of its creation and its grants fixed at insertion never change. -/
theorem Saga.Step.plan {now : Timestamp} {transition : Transition} {saga saga' : Saga}
    (step : Saga.Step now saga transition saga') :
    saga'.mains.map (fun effect => effect.toEffectPlan) =
      saga.mains.map fun effect => effect.toEffectPlan := by
  cases step with
  | @turn transition past rest focus progress organization note split turns records =>
    cases requested : saga.row.cleanupRequested with
    | true => rw [(Saga.turned_revokes requested).2]
    | false =>
      have shape := split.jobs_eq
      rw [Saga.phase, requested] at shape
      rw [(Saga.turned_mains requested).1, show saga.mains = _ from shape]
      simp
  | cleanup unrequested stopped compensated records =>
    show (saga.mains.map (skipUnfinished now)).map (fun effect => effect.toEffectPlan) = _
    rw [List.map_map]
    exact List.map_congr_left fun effect _ => Coherent.skipUnfinished_plan effect

namespace Run

variable {history past rest : List Committed} {store : Store} {entry : Committed} {id : Uuid}
  {count : Nat}

/-- The start of a saga shows it planned. -/
theorem begins_of_starts (run : Run (past ++ entry :: rest) store)
    (started : starts id count entry = true) : ∃ now ids input saga,
      entry.event = .start now ids input ∧ input.provisioningId = id ∧
        input.grants.length = count ∧ Saga.Begins now ids input saga ∧
        Shows entry.after id saga := by
  unfold starts at started
  split at started
  · rename_i now ids input called
    simp only [Bool.decide_and, Bool.and_eq_true, decide_eq_true_eq] at started
    obtain ⟨names, size, absent, present⟩ := started
    cases run.fate id with
    | still untouched =>
      rw [untouched.saga, Option.isNone_iff_eq_none.mp absent] at present
      cases present
    | began called' _ _ _ begins shows _ _ =>
      rw [called] at called'
      cases called'
      exact ⟨now, ids, input, _, called, names, size, begins, shows⟩
    | moved shown _ _ _ _ =>
      rw [shown.row] at absent
      cases absent
  · cases started

/-- **A started saga is shown with the plan of its start.** -/
theorem shows_started (run : Run history store) (started : Started history id count) :
    ∃ saga, Shows store id saga ∧ Coherent saga ∧
      saga.mains.map (fun effect => (effect.kind, effect.ordinal)) = planOf count := by
  obtain ⟨entry, member, starts⟩ := started
  obtain ⟨past, rest, rfl⟩ := List.append_of_mem member
  obtain ⟨now, ids, input, saga, -, -, rfl, begins, shows⟩ := run.begins_of_starts starts
  obtain ⟨-, -, -, upTo⟩ := run.commit_of_mem
  have run' : Run ((past ++ [entry]) ++ rest) store := by
    simpa using run
  obtain ⟨saga', shows', coherent, same⟩ := Run.follows
    (fun saga saga' => saga'.mains.map (fun effect => effect.toEffectPlan) =
      saga.mains.map fun effect => effect.toEffectPlan)
    (fun _ => rfl) (fun one two => two.trans one) (fun _ step => step.plan) upTo shows
    begins.coherent run'
  refine ⟨saga', shows', coherent, ?_⟩
  have plans := congrArg (List.map fun plan : EffectPlan => (plan.kind, plan.ordinal)) same
  rw [List.map_map, List.map_map] at plans
  rw [← Saga.plannedEffects_plan now ids input, ← begins.mains_eq]
  exact plans

end Run

/-! ### The shape of the states -/

/-- Effects done one after the other: all but one at most either done or pending, and that one in
flight, failed or unknown. -/
def InSequence (done : EffectState) (states : List EffectState) : Prop :=
  ∃ (finished : Nat) (current : List EffectState) (waiting : Nat),
    states = List.replicate finished done ++ current ++ List.replicate waiting .pending ∧
      current.length ≤ 1 ∧
      ∀ state ∈ current, state = .inFlight ∨ state = .failed ∨ state = .unknown

/-- States that are all the same. -/
theorem states_replicate {effects : List EffectRow} {state : EffectState}
    (same : ∀ effect ∈ effects, effect.state = state) :
    effects.map (fun effect => effect.state) = List.replicate effects.length state := by
  rw [List.eq_replicate_iff]
  refine ⟨by simp, fun other member => ?_⟩
  obtain ⟨effect, inside, rfl⟩ := List.mem_map.mp member
  exact same effect inside

/-- Effects worked through in order stand in sequence. -/
theorem inSequence_of_worked {cleanup : Bool} {effects : List EffectRow}
    (worked : Worked (stage cleanup) effects) :
    InSequence (finishedState cleanup) (effects.map fun effect => effect.state) := by
  rcases worked with done | ⟨past, focus, rest, split⟩
  · refine ⟨effects.length, [], 0, ?_, by simp, by simp⟩
    rw [states_replicate fun effect member => stage_finished.mp (done effect member)]
    simp
  · have before := states_replicate fun effect member =>
      stage_finished.mp (split.past_finished effect member)
    have after := states_replicate fun effect member =>
      stage_waiting.mp (split.rest_waiting effect member)
    rw [split.jobs_eq, List.map_append, List.map_cons, before, after]
    rcases split.focus_open with busy | waiting
    · exact ⟨past.length, [focus.state], rest.length, by simp, by simp, fun state member => by
        rw [List.mem_singleton.mp member]
        exact stage_busy.mp busy⟩
    · refine ⟨past.length, [], rest.length + 1, ?_, by simp, by simp⟩
      rw [stage_waiting.mp waiting, List.replicate_succ]
      simp

/-- **The states of the effects of a saga with so many grants, in order.** -/
structure EffectsInSequence (store : Store) (id : Uuid) (count : Nat) (row : SagaRow) : Prop where
  plan : (store.mainsOf id).map (fun effect => (effect.kind, effect.ordinal)) = planOf count
  revokes : (store.revokesOf id).Pairwise fun first second => first.ordinal < second.ordinal
  provisioning : row.cleanupRequested = false → store.revokesOf id = [] ∧
    InSequence .applied ((store.mainsOf id).map fun effect => effect.state)
  cleanup : row.cleanupRequested = true →
    ((∃ applied, 1 ≤ applied ∧ applied ≤ count + 1 ∧
        (store.mainsOf id).map (fun effect => effect.state) =
          List.replicate applied .applied ++ List.replicate (count + 1 - applied) .skipped) ∨
      (store.mainsOf id).map (fun effect => effect.state) =
        .failed :: List.replicate count .skipped) ∧
    InSequence .compensated ((store.revokesOf id).map fun effect => effect.state)
  /-- At most one effect is in flight or in doubt. -/
  single : ∀ first ∈ store.effectsOf id, ∀ second ∈ store.effectsOf id,
    (first.state = .inFlight ∨ first.state = .unknown) →
    (second.state = .inFlight ∨ second.state = .unknown) → first = second

/-- The creation and the grants of a saga under cleanup. -/
theorem Coherent.settled_states {saga : Saga} (coherent : Coherent saga) {count : Nat}
    (plan : saga.mains.map (fun effect => (effect.kind, effect.ordinal)) = planOf count)
    (requested : saga.row.cleanupRequested = true) :
    (∃ applied, 1 ≤ applied ∧ applied ≤ count + 1 ∧ saga.mains.map (fun effect => effect.state) =
        List.replicate applied .applied ++ List.replicate (count + 1 - applied) .skipped) ∨
      saga.mains.map (fun effect => effect.state) = .failed :: List.replicate count .skipped := by
  have size : saga.mains.length = count + 1 := by
    have lengths := congrArg List.length plan
    simpa [planOf] using lengths
  obtain ⟨past, rest, shape, nonempty, how, skipped⟩ := coherent.settled requested
  rw [shape, List.length_append] at size
  rw [shape, List.map_append, states_replicate skipped]
  have positive := List.length_pos_iff.mpr nonempty
  rcases how with applied | ⟨create, rfl, failed⟩
  · refine Or.inl ⟨past.length, positive, by omega, ?_⟩
    rw [states_replicate applied, show rest.length = count + 1 - past.length by omega]
  · refine Or.inr ?_
    rw [List.length_singleton] at size
    rw [List.map_singleton, failed, show rest.length = count by omega]
    rfl

/-- **In every reachable store the effects of every saga stand in sequence.** -/
theorem effects_in_sequence {history : List Committed} {store : Store} (run : Run history store)
    {id : Uuid} {count : Nat} (started : Started history id count) :
    (∃ row, store.saga id = some row ∧ EffectsInSequence store id count row) ∧
      ∀ entry ∈ history, ∀ record, GaveOut record entry → record.provisioningId = id →
        record.kind = .putEntitlement → ∀ effect,
          entry.before.effect record.effectId = some effect →
            ∀ other ∈ entry.before.mainsOf id,
              other.kind = .createOrganization ∨ other.ordinal < effect.ordinal →
                other.state = .applied := by
  constructor
  · obtain ⟨saga, shows, coherent, plan⟩ := run.shows_started started
    refine ⟨saga.row, shows.row, ?_, ?_, ?_, ?_, ?_⟩
    · rw [shows.mainsOf coherent]
      exact plan
    · rw [shows.revokesOf coherent]
      exact coherent.revokes_ordered
    · intro unrequested
      have worked := coherent.worked
      rw [Saga.phase, unrequested] at worked
      rw [shows.mainsOf coherent, shows.revokesOf coherent]
      exact ⟨coherent.unrequested unrequested, inSequence_of_worked worked⟩
    · intro requested
      have worked := coherent.worked
      rw [Saga.phase, requested] at worked
      rw [shows.mainsOf coherent, shows.revokesOf coherent]
      exact ⟨coherent.settled_states plan requested, inSequence_of_worked worked⟩
    · intro first one second two begunFirst begunSecond
      rw [shows.effects] at one two
      obtain ⟨past, rest, split⟩ := coherent.split_of_state one begunFirst
      obtain ⟨past', rest', split'⟩ := coherent.split_of_state two begunSecond
      exact Option.some.inj (split.next_eq.symm.trans split'.next_eq)
  · rintro entry member record gave rfl grant effect found other inside earlier
    obtain ⟨past, rest, rfl⟩ := List.append_of_mem member
    obtain ⟨now, leaseUntil, saga, before, after, focus, gives⟩ := run.did.2.gives gave
    rw [gives.found] at found
    cases found
    rw [gives.shown.mainsOf gives.coherent] at inside
    have kind : effect.kind = .putEntitlement := by
      rw [← grant, gives.record_eq]
      rfl
    exact gives.coherent.earlier_applied gives.split kind inside earlier

/-- The saga of the rehearsal, started with two grants. -/
theorem effects_in_sequence_rehearsed : ∃ row, Rehearsal.store.saga 1 = some row ∧
    EffectsInSequence Rehearsal.store 1 2 row :=
  (effects_in_sequence Rehearsal.run ⟨_, List.getElem_mem (by decide +kernel : 0 < _),
    by decide +kernel⟩).1

/-! ### The summary -/

/-- **The status a list of effects stands for**, as a person would read it off. -/
def statusOfEffects (cleanup : Bool) (effects : List EffectRow) : SagaStatus :=
  if effects.any fun effect => effect.state = .unknown then .manualReview
  else if effects.any fun effect => effect.state = .failed then
    if cleanup then .cleanupFailed else .failed
  else if effects.any fun effect => effect.state = .inFlight then
    if cleanup then .cleanupRunning else .running
  else if effects.any fun effect => effect.state = .pending then
    if cleanup then .cleanupPending else .pending
  else if cleanup then .cleanupCompleted else .completed

/-- The effects a saga's summary is about. -/
def Store.phaseOf (store : Store) (row : SagaRow) : List EffectRow :=
  if row.cleanupRequested then store.revokesOf row.provisioningId
  else store.mainsOf row.provisioningId

/-- Only the first unfinished effect is in flight, failed or in doubt. -/
theorem any_of_split {cleanup : Bool} {effects past rest : List EffectRow} {focus : EffectRow}
    (split : Split (stage cleanup) effects past focus rest) {state : EffectState}
    (begun : state = .inFlight ∨ state = .failed ∨ state = .unknown) :
    effects.any (fun effect => effect.state = state) = decide (focus.state = state) := by
  rw [Bool.eq_iff_iff, List.any_eq_true, decide_eq_true_eq]
  constructor
  · rintro ⟨effect, member, same⟩
    have here := of_decide_eq_true same
    have busy : stage cleanup effect = .busy := by
      rw [stage_busy, here]
      exact begun
    have unique := split.eq_focus member (by rw [busy]; decide) (by rw [busy]; decide)
    rw [← unique]
    exact here
  · intro same
    exact ⟨focus, split.focus_mem, decide_eq_true same⟩

/-- **The outlook is the status a person reads off the effects.** -/
theorem outlook_status {cleanup : Bool} {effects : List EffectRow}
    (worked : Worked (stage cleanup) effects) :
    (outlook cleanup effects).1 = statusOfEffects cleanup effects := by
  unfold statusOfEffects
  rcases worked with done | ⟨past, focus, rest, split⟩
  · have none : ∀ state, state ≠ finishedState cleanup →
        effects.any (fun effect => effect.state = state) = false := by
      intro state differs
      rw [List.any_eq_false]
      intro effect member
      rw [decide_eq_true_eq, stage_finished.mp (done effect member)]
      exact fun same => differs same.symm
    rw [outlook_finished done, none .unknown (by cases cleanup <;> decide),
      none .failed (by cases cleanup <;> decide), none .inFlight (by cases cleanup <;> decide),
      none .pending (by cases cleanup <;> decide)]
    simp
  · rw [outlook_split split, any_of_split split (Or.inr (Or.inr rfl)),
      any_of_split split (Or.inr (Or.inl rfl)), any_of_split split (Or.inl rfl)]
    have pending : focus.state = .pending →
        effects.any (fun effect => effect.state = .pending) = true := by
      intro waits
      exact List.any_eq_true.mpr ⟨focus, split.focus_mem, decide_eq_true waits⟩
    rcases stage_open.mp split.focus_open with state | state | state | state
    · rw [pending state, state]
      simp [statusOf]
    · simp [state, statusOf]
    · simp [state, statusOf]
    · simp [state, statusOf]

/-- **The summary columns say what the effects say.** -/
structure Summarizes (store : Store) (row : SagaRow) : Prop where
  status : row.status = statusOfEffects row.cleanupRequested (store.phaseOf row)
  blame : ∀ effect ∈ store.phaseOf row, effect.state = .unknown ∨ effect.state = .failed →
    row.lastError = effect.lastError ∧ effect.lastError.isSome
  quiet : row.status ≠ .manualReview → row.status ≠ .failed → row.status ≠ .cleanupFailed →
    row.lastError = none
  residue : row.organizationResidue = row.organizationId.isSome
  created : ∀ effect ∈ store.mainsOf row.provisioningId, effect.kind = .createOrganization →
    (row.organizationId.isSome ↔ effect.state = .applied) ∧
      (effect.state = .applied → row.organizationId = effect.externalId)
  creation : ∃ effect ∈ store.mainsOf row.provisioningId, effect.kind = .createOrganization

/-- **In every reachable store the stored summary of every saga is that of its effects.** -/
theorem summary_of_effects {history : List Committed} {store : Store} (run : Run history store)
    {row : SagaRow} (member : row ∈ store.sagas.rows) : Summarizes store row := by
  have found : store.saga row.provisioningId = some row := Table.find_of_mem member
  obtain ⟨saga, rfl, shows, coherent⟩ := run.shows found
  have phase : store.phaseOf saga.row = saga.phase := by
    unfold Store.phaseOf Saga.phase
    rw [shows.mainsOf coherent, shows.revokesOf coherent]
  have summary := coherent.summary
  refine ⟨?_, ?_, ?_, coherent.residue, ?_, ?_⟩
  · rw [phase, ← outlook_status coherent.worked]
    exact congrArg Prod.fst summary
  · intro effect inside stopped
    rw [phase] at inside
    have busy : stage saga.row.cleanupRequested effect = .busy := by
      rw [stage_busy]
      tauto
    obtain ⟨past, rest, split⟩ := coherent.worked.split_of_busy inside busy
    have error := (coherent.status_of_split split).2
    refine ⟨?_, coherent.blamed effect (Coherent.phase_mem inside) stopped.symm⟩
    rw [error]
    rcases stopped with state | state <;> simp [reported, state]
  · intro reviewed failed cleanupFailed
    rcases coherent.worked with done | ⟨past, focus, rest, split⟩
    · exact (coherent.status_of_finished done).2
    · obtain ⟨status, error⟩ := coherent.status_of_split split
      rw [error]
      rw [status] at reviewed failed cleanupFailed
      rcases stage_open.mp split.focus_open with state | state | state | state
      · simp [reported, state]
      · simp [reported, state]
      · rw [state] at failed cleanupFailed
        cases requested : saga.row.cleanupRequested <;> rw [requested] at failed cleanupFailed
        · exact absurd rfl failed
        · exact absurd rfl cleanupFailed
      · rw [state] at reviewed
        exact absurd rfl reviewed
  · intro effect inside create
    rw [shows.mainsOf coherent] at inside
    have created := coherent.created effect inside create
    unfold CreatedAs at created
    by_cases applied : effect.state = .applied
    · rw [if_pos applied] at created
      have receipt := coherent.receipts effect inside applied
      rw [created]
      exact ⟨⟨fun _ => applied, fun _ => receipt⟩, fun _ => rfl⟩
    · rw [if_neg applied] at created
      rw [created]
      refine ⟨⟨fun impossible => ?_, fun holds => absurd holds applied⟩,
        fun holds => absurd holds applied⟩
      cases impossible
  · rw [shows.mainsOf coherent]
    obtain ⟨create, grants, shape, kind, -⟩ := coherent.mains_shape
    exact ⟨create, by rw [shape]; exact List.mem_cons_self, kind⟩

/-- The saga of the rehearsal, cleaned up. -/
theorem summary_of_effects_rehearsed : ∃ row ∈ Rehearsal.store.sagas.rows,
    Summarizes Rehearsal.store row ∧ row.status = .cleanupCompleted := by
  have cleaned : ∃ row ∈ Rehearsal.store.sagas.rows, row.status = .cleanupCompleted := by
    decide +kernel
  obtain ⟨row, member, status⟩ := cleaned
  exact ⟨row, member, summary_of_effects Rehearsal.run member, status⟩

end OrganizationProvisioning
