/-
**The store shows sagas of the machine.**

* `Shows` — the rows of one saga in the store are the rows of a saga of the machine; `Elsewhere` —
  nothing about the other sagas changed.
* `Moves` — one saga takes one step of the machine and the others stand still.
* `effectsOf_turned`, `refreshed_turned` — the statements of a turn leave the turned saga.
-/
import OrganizationProvisioning.Proof.Programs
import OrganizationProvisioning.Saga.Selections

namespace OrganizationProvisioning

open Relational Transactional Worklist

/-- The rows of a saga in the store. -/
structure Shows (store : Store) (id : Uuid) (saga : Saga) : Prop where
  row : store.saga id = some saga.row
  effects : store.effectsOf id = saga.effects
  activity : store.activityOf id = saga.activity

/-- The rows of all other sagas are as before. -/
structure Elsewhere (id : Uuid) (before after : Store) : Prop where
  saga : ∀ other, other ≠ id → after.saga other = before.saga other
  effects : ∀ other, other ≠ id → after.effectsOf other = before.effectsOf other
  activity : ∀ other, other ≠ id → after.activityOf other = before.activityOf other

/-- **One saga takes a step of the machine, the others stand still.** -/
structure Moves (now : Timestamp) (transition : Transition) (id : Uuid) (before after : Store)
    (saga saga' : Saga) : Prop where
  shown : Shows before id saga
  coherent : Coherent saga
  step : Saga.Step now saga transition saga'
  shows : Shows after id saga'
  elsewhere : Elsewhere id before after

/-- Every saga of the store is shown coherent. -/
def AllCoherent (store : Store) : Prop :=
  ∀ id row, store.saga id = some row → ∃ saga, Shows store id saga ∧ Coherent saga

theorem Moves.allCoherent {store final : Store} {now : Timestamp} {transition : Transition} {id : Uuid}
    {saga saga' : Saga} (moves : Moves now transition id store final saga saga') (all : AllCoherent store) :
    AllCoherent final := by
  intro other row present
  by_cases same : other = id
  · subst same
    exact ⟨saga', moves.shows, moves.step.coherent moves.coherent⟩
  · rw [moves.elsewhere.saga other same] at present
    obtain ⟨there, shows, coherent⟩ := all other row present
    refine ⟨there, ⟨?_, ?_, ?_⟩, coherent⟩
    · rw [moves.elsewhere.saga other same, shows.row]
    · rw [moves.elsewhere.effects other same, shows.effects]
    · rw [moves.elsewhere.activity other same, shows.activity]

namespace Shows

variable {store : Store} {id : Uuid} {saga : Saga}

theorem id_eq (shows : Shows store id saga) : saga.row.provisioningId = id :=
  (Store.saga_found.mp shows.row).2

/-- An effect of a shown saga is stored under its id. -/
theorem stored (shows : Shows store id saga) {effect : EffectRow}
    (member : effect ∈ saga.effects) : store.effect effect.effectId = some effect := by
  rw [← shows.effects] at member
  exact (Store.mem_effectsOf.mp member).1

/-- A row may name a shown saga. -/
theorem refers (shows : Shows store id saga) : Refers store (some id) := by
  intro other named
  cases named
  rw [shows.row]
  rfl

/-- The effects of a shown saga have distinct ids. -/
theorem distinct (shows : Shows store id saga) :
    (saga.effects.map fun effect => effect.effectId).Nodup := by
  rw [← shows.effects]
  exact store.effectsOf_nodup id

/-- A coherent saga is determined by the rows that show it. -/
theorem unique (shows : Shows store id saga) (coherent : Coherent saga) {other : Saga}
    (otherShows : Shows store id other) (otherCoherent : Coherent other) : saga = other := by
  have mains : ∀ {one : Saga}, Coherent one →
      one.effects.filter (fun effect => effect.kind.isMain) = one.mains := by
    intro one holds
    have none : one.revokes.filter (fun effect => effect.kind.isMain) = [] := by
      rw [List.filter_eq_nil_iff]
      intro effect member
      rw [holds.revoke_kind member]
      decide
    rw [Saga.effects, List.filter_append, none, List.append_nil, List.filter_eq_self]
    exact fun effect member => holds.main_kind member
  have effects : saga.effects = other.effects := shows.effects.symm.trans otherShows.effects
  have sameMains : saga.mains = other.mains := by
    rw [← mains coherent, ← mains otherCoherent, effects]
  have sameRevokes : saga.revokes = other.revokes := by
    rw [Saga.effects, Saga.effects, sameMains] at effects
    exact List.append_cancel_left effects
  have rows : saga.row = other.row := by
    have same := shows.row.symm.trans otherShows.row
    exact Option.some.inj same
  have activity : saga.activity = other.activity :=
    shows.activity.symm.trans otherShows.activity
  cases saga
  cases other
  simp only at sameMains sameRevokes rows activity
  rw [rows, sameMains, sameRevokes, activity]

end Shows

namespace Elsewhere

theorem refl (id : Uuid) (store : Store) : Elsewhere id store store :=
  ⟨fun _ _ => rfl, fun _ _ => rfl, fun _ _ => rfl⟩

theorem trans {id : Uuid} {first second third : Store} (one : Elsewhere id first second)
    (two : Elsewhere id second third) : Elsewhere id first third :=
  ⟨fun other differs => (two.saga other differs).trans (one.saga other differs),
    fun other differs => (two.effects other differs).trans (one.effects other differs),
    fun other differs => (two.activity other differs).trans (one.activity other differs)⟩

variable {id : Uuid} {store : Store}

theorem setSaga (change : SagaProgress → SagaProgress) :
    Elsewhere id store (store.setSaga id change) :=
  ⟨fun other differs => by rw [saga_setSaga, if_neg differs], fun _ _ => rfl, fun _ _ => rfl⟩

/-- Writing effects of one saga leaves the effects of the others. -/
theorem setEffects {selected : EffectRow → Bool} {change : EffectProgress → EffectProgress}
    (owned : ∀ row ∈ store.effects.rows, selected row = true → row.provisioningId = id) :
    Elsewhere id store (store.setEffects selected change) := by
  refine ⟨fun _ _ => rfl, fun other differs => ?_, fun _ _ => rfl⟩
  rw [effectsOf_setEffects]
  conv_rhs => rw [← List.map_id (store.effectsOf other)]
  refine List.map_congr_left fun row member => ?_
  obtain ⟨stored, owner⟩ := Store.mem_effectsOf.mp member
  rw [if_neg]
  · rfl
  · intro chosen
    exact differs (owner.symm.trans (owned row (Store.effect_found.mp stored).1 chosen))

theorem addActivity {note : ActivityRow} (fresh : store.activity.find note.activityId = none)
    (owner : note.provisioningId = id) : Elsewhere id store (store.addActivity note) := by
  refine ⟨fun _ _ => rfl, fun _ _ => rfl, fun other differs => ?_⟩
  rw [activityOf_addActivity fresh, if_neg, List.append_nil]
  rw [owner]
  exact differs.symm

theorem addEffects {rows : List EffectRow} (admitted : AdmitsAll store rows)
    (owned : ∀ row ∈ rows, row.provisioningId = id) :
    Elsewhere id store (store.addEffects rows) := by
  refine ⟨fun _ _ => saga_addEffects _, fun other differs => ?_, fun _ _ => activityOf_addEffects _⟩
  rw [effectsOf_addEffects admitted owned, if_neg differs, List.append_nil]

theorem setMutation (caller key : String) (change : MutationOutcome → MutationOutcome) :
    Elsewhere id store (store.setMutation caller key change) :=
  ⟨fun _ _ => rfl, fun _ _ => rfl, fun _ _ => rfl⟩

theorem addMutation (row : MutationRow) : Elsewhere id store (store.addMutation row) :=
  ⟨fun _ _ => rfl, fun _ _ => rfl, fun _ _ => rfl⟩

end Elsewhere

/-! ### Turning one effect -/

/-- Rewriting the effect with one id in a list of effects with distinct ids. -/
theorem map_setIf {before after : List EffectRow} {focus : EffectRow}
    (distinct : ((before ++ focus :: after).map fun effect => effect.effectId).Nodup)
    {condition : EffectRow → Bool} (holds : condition focus = true)
    (change : EffectProgress → EffectProgress) :
    ((before ++ focus :: after).map fun row =>
      if row.effectId = focus.effectId && condition row then row.set change else row) =
        before ++ focus.set change :: after := by
  rw [List.map_append, List.map_cons] at distinct
  obtain ⟨-, later, disjoint⟩ := List.nodup_append'.mp distinct
  have others : ∀ row ∈ before ++ after, row.effectId ≠ focus.effectId := by
    intro row member same
    rcases List.mem_append.mp member with early | late
    · refine disjoint (List.mem_map_of_mem early) ?_
      rw [same]
      exact List.mem_cons_self
    · refine (List.nodup_cons.mp later).1 ?_
      rw [← same]
      exact List.mem_map_of_mem late
  have same : ∀ rows : List EffectRow, (∀ row ∈ rows, row ∈ before ++ after) →
      (rows.map fun row => if row.effectId = focus.effectId && condition row then row.set change
        else row) = rows := by
    intro rows inside
    conv_rhs => rw [← List.map_id rows]
    refine List.map_congr_left fun row member => ?_
    rw [if_neg]
    · rfl
    · simp [others row (inside row member)]
  rw [List.map_append, List.map_cons, same before fun row member => List.mem_append_left _ member,
    same after fun row member => List.mem_append_right _ member, if_pos (by simp [holds])]

section Turned

variable {store : Store} {id : Uuid} {saga : Saga} {now : Timestamp}
  {past rest : List EffectRow} {focus : EffectRow} {transition : Transition}
  {progress : EffectProgress} {organization : Option (String × String)}

/-- **Writing the first unfinished effect turns it.** -/
theorem effectsOf_turned (shows : Shows store id saga)
    (split : Split (stage saga.row.cleanupRequested) saga.phase past focus rest)
    {condition : EffectRow → Bool} (holds : condition focus = true)
    (change : EffectProgress → EffectProgress) (note : ActivityRow) :
    (store.setEffects (fun row => row.effectId = focus.effectId && condition row) change).effectsOf
      id = (saga.turned now past rest (focus.set change) organization note).effects := by
  obtain ⟨before, after, shape, turned⟩ := effects_turned now split
  rw [turned, effectsOf_setEffects, shows.effects, shape]
  have distinct := shows.distinct
  rw [shape] at distinct
  exact map_setIf distinct holds change

theorem elsewhere_turned (shows : Shows store id saga) (coherent : Coherent saga)
    (split : Split (stage saga.row.cleanupRequested) saga.phase past focus rest)
    {condition : EffectRow → Bool} (change : EffectProgress → EffectProgress) :
    Elsewhere id store
      (store.setEffects (fun row => row.effectId = focus.effectId && condition row) change) := by
  have member := Coherent.phase_mem split.focus_mem
  refine Elsewhere.setEffects fun row inside chosen => ?_
  simp only [Bool.and_eq_true, decide_eq_true_eq] at chosen
  have same : row = focus :=
    Table.eq_of_key inside (Store.effect_found.mp (shows.stored member)).1 chosen.1
  rw [same, coherent.owned focus member, shows.id_eq]

/-- The columns a claim and a quarantine write by hand are those of the turned saga. -/
theorem moved_eq (coherent : Coherent saga) {effects : List EffectRow} {status : SagaStatus}
    {error : Option String}
    (summary : outlook saga.row.cleanupRequested effects = (status, error))
    (open_ : status ≠ .completed ∧ status ≠ .cleanupCompleted) :
    saga.row.set (.moved now status error) =
      saga.row.set fun old => (old.recordedIf none).advanced now effects := by
  unfold SagaRow.set SagaProgress.recordedIf SagaProgress.advanced SagaProgress.moved
    SagaProgress.refreshed
  have residue : saga.row.toSagaProgress.organizationResidue =
      saga.row.toSagaProgress.organizationId.isSome := coherent.residue
  simp only [summary, if_neg open_.1, if_neg open_.2, residue]

/-- **The status refresh and the activity row end a turn.** -/
theorem refreshed_turned {middle refreshed final : Store} {activityId : Uuid}
    {effectId : Option Uuid} {kind : ActivityKind} {actor : String} {evidence : Json}
    {revision : Int} {value : Unit} (coherent : Coherent saga) (owner : saga.row.provisioningId = id)
    (split : Split (stage saga.row.cleanupRequested) saga.phase past focus rest)
    (turn : Turn now focus transition progress organization)
    (landed : progress.state ≠ .inFlight)
    (row : middle.saga id = some (saga.row.set (.recordedIf organization)))
    (effects : ∀ note, middle.effectsOf id =
      (saga.turned now past rest (focus.set fun _ => progress) organization note).effects)
    (activity : middle.activityOf id = saga.activity)
    (refresh : postgres.Commits (refreshSagaStatus now id true) middle revision refreshed)
    (noted : postgres.Commits (insertActivity now activityId id effectId kind actor revision
      evidence) refreshed value final) :
    ∃ note, Records now saga.row note ∧ Shows final id
        (saga.turned now past rest (focus.set fun _ => progress) organization note) ∧
      Elsewhere id middle final ∧ final.mutations = middle.mutations := by
  obtain ⟨found, present, -, rfl, rfl⟩ := commits_refreshSagaStatus.mp refresh
  rw [row] at present
  cases present
  obtain ⟨admits, rfl⟩ := commits_activity.mp noted
  have records : Records now saga.row (activityRow now activityId id effectId kind actor
      ((saga.row.set (.recordedIf organization)).revision + 1) evidence) := by
    refine ⟨owner.symm, ?_, rfl⟩
    show (saga.row.toSagaProgress.recordedIf organization).revision + 1 = _
    rw [SagaProgress.recordedIf_revision]
  have placed : (activityRow now activityId id effectId kind actor
      ((saga.row.set (.recordedIf organization)).revision + 1) evidence).provisioningId = id := rfl
  generalize activityRow now activityId id effectId kind actor
    ((saga.row.set (.recordedIf organization)).revision + 1) evidence = note
    at admits records placed ⊢
  refine ⟨note, records, ⟨?_, ?_, ?_⟩, ?_, rfl⟩
  · have turned := coherent.turned split turn records
    have noFlight : ∀ effect ∈ (saga.turned now past rest (focus.set fun _ => progress)
        organization note).phase, effect.state ≠ .inFlight := by
      intro effect member
      rw [Saga.turned_phase] at member
      rcases List.mem_append.mp member with early | late
      · rw [stage_finished.mp (split.past_finished effect early)]
        cases saga.row.cleanupRequested <;> simp [finishedState]
      · rcases List.mem_cons.mp late with rfl | after
        · exact landed
        · rw [stage_waiting.mp (split.rest_waiting effect after)]
          decide
    have summary := turned.summarize_eq noFlight
    rw [Saga.turned_cleanup, Saga.turned_phase] at summary
    have steps : middle.stepsOf id = (saga.turned now past rest (focus.set fun _ => progress)
        organization note).effects := by
      unfold Store.stepsOf
      rw [effects note, turned.orderBy_effects]
    rw [saga_addActivity, saga_setSaga, if_pos rfl, row, Option.map_some]
    congr 1
    unfold refreshChange
    rw [steps, show (saga.row.set (.recordedIf organization)).cleanupRequested =
      saga.row.cleanupRequested from SagaProgress.recordedIf_cleanup, summary]
    show _ = saga.row.set fun old =>
      (old.recordedIf organization).advanced now (past ++ focus.set (fun _ => progress) :: rest)
    unfold SagaRow.set SagaProgress.advanced
    simp only [SagaProgress.recordedIf_cleanup]
  · rw [effectsOf_addActivity, effectsOf_setSaga]
    exact effects note
  · rw [activityOf_addActivity admits.fresh, activityOf_setSaga, activity, if_pos placed]
    rfl
  · exact (Elsewhere.setSaga _).trans (Elsewhere.addActivity admits.fresh placed)

/-- **Writing the summary by hand ends a turn** that leaves an effect in flight or in doubt. -/
theorem moved_turned {change : EffectProgress → EffectProgress} {condition : EffectRow → Bool}
    {status : SagaStatus} {error : Option String} {note : ActivityRow}
    (shows : Shows store id saga) (coherent : Coherent saga)
    (split : Split (stage saga.row.cleanupRequested) saga.phase past focus rest)
    (holds : condition focus = true)
    (summary : outlook saga.row.cleanupRequested (past ++ focus.set change :: rest) =
      (status, error))
    (open_ : status ≠ .completed ∧ status ≠ .cleanupCompleted)
    (admits : AdmitsActivity ((store.setEffects (fun row =>
      row.effectId = focus.effectId && condition row) change).setSaga id
        (.moved now status error)) note)
    (records : Records now saga.row note) :
    Shows ((((store.setEffects (fun row => row.effectId = focus.effectId && condition row)
        change).setSaga id (.moved now status error)).addActivity note)) id
        (saga.turned now past rest (focus.set change) none note) ∧
      Elsewhere id store (((store.setEffects (fun row =>
        row.effectId = focus.effectId && condition row) change).setSaga id
          (.moved now status error)).addActivity note) := by
  have placed : note.provisioningId = id := records.provisioning.trans shows.id_eq
  refine ⟨⟨?_, ?_, ?_⟩, ?_⟩
  · rw [saga_addActivity, saga_setSaga, if_pos rfl, saga_setEffects, shows.row, Option.map_some,
      moved_eq coherent summary open_]
    rfl
  · rw [effectsOf_addActivity, effectsOf_setSaga]
    exact effectsOf_turned shows split holds change note
  · rw [activityOf_addActivity admits.fresh, activityOf_setSaga, activityOf_setEffects,
      shows.activity, if_pos placed]
    rfl
  · exact ((elsewhere_turned shows coherent split change).trans (Elsewhere.setSaga _)).trans
      (Elsewhere.addActivity admits.fresh placed)

end Turned

end OrganizationProvisioning
