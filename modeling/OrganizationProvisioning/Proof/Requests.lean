/-
**The statements of the public operations satisfy the constraints.**

* `StartIds.Fresh`, `FreshRevokes` — the ids an operation generates are new.
* `insertable_planned`, `insertable_revokes` — the effects of a start and the revocations of a cleanup
  request can be inserted.
* `admitted_start`, `admitted_retry`, `admitted_requestCleanup` — no statement is refused.
-/
import OrganizationProvisioning.Proof.Admission
import OrganizationProvisioning.Saga.Intent
import OrganizationProvisioning.Model.Handlers

namespace OrganizationProvisioning

open Relational Transactional Worklist

/-- Every effect has the downstream key of its saga, kind and ordinal. -/
def Keyed (store : Store) : Prop := ∀ effect ∈ store.effects.rows, effect.Keyed

/-! ### Start -/

/-- **The ids of a start are new.** -/
structure StartIds.Fresh (store : Store) (ids : StartIds) (input : StartInput) : Prop where
  saga : store.saga input.provisioningId = none
  create : store.effect ids.createEffectId = none
  grants : ∀ index < input.grants.length, store.effect (ids.grantEffectId index) = none
  created : ∀ index < input.grants.length, ids.createEffectId ≠ ids.grantEffectId index
  distinct : ∀ first second, first < second → second < input.grants.length →
    ids.grantEffectId first ≠ ids.grantEffectId second
  activity : store.activity.find ids.activityId = none

/-- **What an accepted start fits**: the columns of its saga and of its effects. -/
structure StartInput.Fits (input : StartInput) : Prop where
  name : 1 ≤ input.name.length ∧ input.name.length ≤ 200
  slug : 1 ≤ input.slug.length ∧ input.slug.length ≤ 100
  owner : 1 ≤ input.ownerSubject.length ∧ input.ownerSubject.length ≤ 256
  size : input.grants.length ≤ 64
  grants : ∀ grant ∈ input.grants, grant.Fits

section Start

variable {store : Store} {now : Timestamp} {ids : StartIds} {input : StartInput}

theorem checked_newSaga (fits : input.Fits) : (newSaga now input).checked = true := by
  unfold SagaRow.checked
  rw [decide_eq_true_eq]
  exact ⟨fits.name, fits.slug, fits.owner, by simp [newSaga], rfl, fun residue => by cases residue⟩

theorem checked_newProgress (externalId : Option String) :
    (newProgress now externalId).checked = true := by
  simp [EffectProgress.checked, newProgress]

theorem checked_createEffect (effectId id : Uuid) : (createEffect now effectId id).checked = true :=
  Bool.and_eq_true_iff.mpr ⟨by
    unfold EffectPlan.checked EffectPlan.shaped createEffect
    simp, checked_newProgress none⟩

theorem checked_grantEffect {effectId id : Uuid} {ordinal : Nat} {grant : BootstrapGrant}
    (small : ordinal ≤ 64) (fits : grant.Fits) :
    (grantEffect now effectId id ordinal grant).checked = true := by
  refine Bool.and_eq_true_iff.mpr ⟨?_, checked_newProgress none⟩
  unfold EffectPlan.checked EffectPlan.shaped
  rw [decide_eq_true_eq]
  have bounded : (ordinal : Int) ≤ 64 := by exact_mod_cast small
  refine ⟨⟨Int.natCast_nonneg ordinal, bounded⟩, ?_, ?_, by simp [grantEffect]⟩
  · rcases fits.subjectKind with named | named
    · exact Or.inr (Or.inl (congrArg some named))
    · exact Or.inr (Or.inr (congrArg some named))
  · rw [Option.all_eq_true]
    exact fun limit named => decide_eq_true (fits.limit limit named)

/-- An effect of another saga has another key. -/
theorem Keyed.key_ne {effect : EffectRow} (keyed : Keyed store) (owned : Owned store)
    (absent : store.saga effect.provisioningId = none) (named : effect.Keyed) :
    ∀ other ∈ store.effects.rows, other.downstreamKey ≠ effect.downstreamKey := by
  intro other member same
  have names := keyed other member
  unfold EffectRow.Keyed at names named
  rw [names, named] at same
  have present := owned.effects other member
  rw [(downstreamKey_eq same).1, absent] at present
  cases present

/-- Two planned effects have different ids, keys and places. -/
theorem planned_distinct (fresh : ids.Fresh store input) :
    (plannedEffects now ids input).Pairwise fun first second =>
      first.effectId ≠ second.effectId ∧ first.downstreamKey ≠ second.downstreamKey ∧
        ¬ (first.kind = second.kind ∧ first.ordinal = second.ordinal) := by
  have keys : ∀ first second : EffectRow, first.Keyed → second.Keyed →
      ¬ (first.kind = second.kind ∧ first.ordinal = second.ordinal) → first.kind = .putEntitlement ∨
        second.kind = .putEntitlement → first.downstreamKey ≠ second.downstreamKey := by
    intro first second one two places grant same
    unfold EffectRow.Keyed at one two
    rw [one, two] at same
    obtain ⟨-, kind, ordinal⟩ := downstreamKey_eq same
    refine places ⟨kind, ordinal ?_⟩
    rcases grant with here | there
    · rw [here]
      decide
    · rw [kind, there]
      decide
  unfold plannedEffects
  rw [List.pairwise_cons]
  constructor
  · intro effect member
    obtain ⟨ordinal, small, rfl⟩ := List.mem_mapIdx.mp member
    have places : ¬ (EffectKind.createOrganization = .putEntitlement ∧ (0 : Int) = ordinal) := by
      rintro ⟨impossible, -⟩
      cases impossible
    exact ⟨fresh.created ordinal small, keys _ _ rfl rfl places (Or.inr rfl), places⟩
  · rw [List.pairwise_iff_getElem]
    intro first second firstSmall secondSmall less
    rw [List.length_mapIdx] at firstSmall secondSmall
    rw [List.getElem_mapIdx, List.getElem_mapIdx]
    have places : ¬ (EffectKind.putEntitlement = .putEntitlement ∧ (first : Int) = second) := by
      rintro ⟨-, same⟩
      omega
    exact ⟨fresh.distinct first second less secondSmall, keys _ _ rfl rfl places (Or.inl rfl),
      places⟩

/-- **The effects of an accepted start can be inserted.** -/
theorem insertable_planned (keyed : Keyed store) (owned : Owned store)
    (fresh : ids.Fresh store input) (fits : input.Fits) :
    Insertable (store.opened now input) (plannedEffects now ids input) := by
  refine ⟨fun effect member => ?_, planned_distinct fresh⟩
  have owner := (Saga.mem_plannedEffects member).2
  have present : ((store.opened now input).saga effect.provisioningId).isSome := by
    rw [saga_opened, owner, if_pos rfl, fresh.saga]
    rfl
  have nothing : (store.opened now input).effectsOf effect.provisioningId = [] := by
    rw [owner]
    exact owned.effectsOf_nil fresh.saga
  have keys := keyed.key_ne owned (by rw [owner]; exact fresh.saga)
    (Saga.keyed_plannedEffects member)
  refine ⟨?_, ?_, keys, ?_, present, ?_⟩
  · rcases List.mem_cons.mp member with rfl | grant
    · exact checked_createEffect _ _
    · obtain ⟨ordinal, small, rfl⟩ := List.mem_mapIdx.mp grant
      have size := fits.size
      exact checked_grantEffect (by omega) (fits.grants _ (List.getElem_mem small))
  · show store.effect effect.effectId = none
    rcases List.mem_cons.mp member with rfl | grant
    · exact fresh.create
    · obtain ⟨ordinal, small, rfl⟩ := List.mem_mapIdx.mp grant
      exact fresh.grants ordinal small
  · rw [nothing]
    intro other impossible
    cases impossible
  · intro source named
    rcases List.mem_cons.mp member with rfl | grant
    · cases named
    · obtain ⟨ordinal, small, rfl⟩ := List.mem_mapIdx.mp grant
      cases named

theorem admitted_insertSaga {operation : String} {row : SagaRow} (checked : row.checked = true)
    (absent : store.saga row.provisioningId = none) :
    postgres.Admitted (exec operation (.insertSaga row)) store := by
  have inserted : postgres.Commits (exec operation (.insertSaga row)) store () _ :=
    commits_insertSaga.mpr ⟨⟨checked, absent⟩, rfl⟩
  exact admitted_of_commits inserted

/-- The reservation of a start beside its saga. -/
theorem mutation_begun (unused : store.mutation input.caller input.idempotencyKey = none) :
    ((store.addMutation (reservation now input.caller input.idempotencyKey .start input.actor
      input.requestHash none)).addSaga (newSaga now input)).mutation input.caller
        input.idempotencyKey = some (reservation now input.caller input.idempotencyKey .start
          input.actor input.requestHash none) :=
  mutation_addSaga.trans (mutation_reserved unused)

/-- The reservation of a start can name the saga it has just inserted. -/
theorem admitted_attach {operation : String}
    (unused : store.mutation input.caller input.idempotencyKey = none) :
    postgres.Admitted (exec operation (.updateMutation input.caller input.idempotencyKey
      (fun _ => true) fun old => { old with provisioningId := some input.provisioningId }))
      ((store.addMutation (reservation now input.caller input.idempotencyKey .start input.actor
        input.requestHash none)).addSaga (newSaga now input)) := by
  refine admitted_of_commits ((commits_updateMutation (mutation_begun unused) rfl).mpr
    ⟨?_, rfl, rfl⟩)
  intro id named
  cases named
  rw [saga_addSaga, show (newSaga now input).provisioningId = input.provisioningId from rfl,
    if_pos rfl, Option.isSome_or]
  exact Bool.or_true _

/-- **No statement of an accepted start is refused.** -/
theorem admitted_start (keyed : Keyed store) (owned : Owned store) (fresh : ids.Fresh store input)
    (fits : input.Fits) : postgres.Admitted (start now ids input) store := by
  have admits : AdmitsAll (store.opened now input) (plannedEffects now ids input) :=
    (insertable_planned keyed owned fresh fits).admitsAll
  rw [← grantRows_planned] at admits
  unfold start
  refine postgres.admitted_bind.mpr ⟨admitted_beginMutation (fun _ none => by cases none),
    fun replay middle begun => ?_⟩
  cases replay with
  | replay stored => trivial
  | execute =>
    obtain ⟨unused, -, rfl⟩ := commits_beginMutation_execute.mp begun
    refine postgres.admitted_bind.mpr ⟨?_, fun _ _ inserting => ?_⟩
    · exact admitted_insertSaga (checked_newSaga fits) fresh.saga
    obtain ⟨-, rfl⟩ := commits_insertSaga.mp inserting
    refine postgres.admitted_bind.mpr ⟨?_, fun _ _ attaching => ?_⟩
    · exact admitted_attach unused
    obtain ⟨-, -, rfl⟩ := (commits_updateMutation (mutation_begun unused) rfl).mp attaching
    change postgres.Admitted _ (store.opened now input)
    refine postgres.admitted_bind.mpr ⟨admitted_insertEffect admits.1, fun _ _ creating => ?_⟩
    obtain ⟨-, rfl⟩ := commits_insertEffect.mp creating
    refine postgres.admitted_bind.mpr ⟨admitted_insertGrants admits.2, fun _ _ granting => ?_⟩
    obtain ⟨-, -, rfl⟩ := commits_insertGrants.mp granting
    have rows : ((store.opened now input).addEffect (createEffect now ids.createEffectId
        input.provisioningId)).addEffects (grantRows now input.provisioningId ids.grantEffectId 0
          input.grants) = (store.opened now input).addEffects (plannedEffects now ids input) := by
      rw [← grantRows_planned]
      rfl
    rw [rows]
    refine postgres.admitted_bind.mpr ⟨?_, fun _ _ noting => ?_⟩
    · have first : (0 : Int) < 1 ∧ (1 : Int) ≤ 9223372036854775807 := by decide
      refine admitted_activity ⟨decide_eq_true first, ?_, ?_, fun _ none => by cases none⟩
      · rw [activity_addEffects]
        exact fresh.activity
      · rw [saga_addEffects, saga_opened, Option.isSome_or]
        simp [activityRow]
    obtain ⟨-, rfl⟩ := commits_activity.mp noting
    refine admitted_answer fun row found => ?_
    rw [mutation_addActivity, mutation_addEffects, mutation_opened unused] at found
    cases found
    intro id named
    cases named
    rw [saga_addActivity, saga_addEffects, saga_opened, if_pos rfl, Option.isSome_or]
    exact Bool.or_true _

end Start

/-! ### Retry -/

section Retry

variable {store : Store} {now : Timestamp} {input : RetryInput} {activityId : Uuid}
  {saga : SagaRow} {effect : EffectRow}

theorem admitted_retriedEffect : postgres.Admitted (retriedEffect input saga) store := by
  unfold retriedEffect
  split
  · exact postgres.admitted_bind.mpr ⟨admitted_read rfl, fun _ _ _ => admitted_expect⟩
  · split
    · exact admitted_required fun _ =>
        postgres.admitted_bind.mpr ⟨admitted_read rfl, fun _ _ _ => admitted_expect⟩
    · trivial

/-- A manual confirmation is not refused. -/
theorem admitted_confirmApplied (checked : Checked store) :
    postgres.Admitted (confirmApplied now input effect) store := by
  have written : ∀ (outcome : EffectOutcome) (row : EffectRow),
      store.effect effect.effectId = some row → decide (row.state = .unknown) = true →
        row.toEffectProgress.checked = true →
          (outcome.write now row.toEffectProgress).checked = true :=
    fun outcome _ _ _ holds => checked_write holds outcome
  unfold confirmApplied
  cases effect.kind with
  | createOrganization =>
    simp only
    split
    · rename_i organizationId ownerMembershipId _ _ _
      refine postgres.admitted_bind.mpr ⟨?_, fun _ _ committed => ?_⟩
      · exact admitted_updateEffect checked
          (written (.organizationApplied organizationId ownerMembershipId _))
      obtain ⟨-, -, rfl⟩ := commits_updateEffect.mp committed
      refine postgres.admitted_bind.mpr ⟨?_, fun _ _ _ => trivial⟩
      refine admitted_updateSaga fun row present => ?_
      exact checked_recorded (checked.sagas row (Store.saga_found.mp present).1)
        (some (organizationId, ownerMembershipId))
    · trivial
  | putEntitlement =>
    simp only
    split
    · rename_i grantId _ _ _
      refine postgres.admitted_bind.mpr ⟨?_, fun _ _ _ => trivial⟩
      exact admitted_updateEffect checked (written (.entitlementApplied grantId _))
    · trivial
  | revokeEntitlement =>
    refine admitted_required fun _ => postgres.admitted_bind.mpr ⟨?_, fun _ _ _ => trivial⟩
    exact admitted_updateEffect checked (written (.compensated _))

/-- A resolution is not refused. -/
theorem admitted_resolveEffect (checked : Checked store) :
    postgres.Admitted (resolveEffect now input saga effect) store := by
  have reset : postgres.Admitted (resetEffectToPending now effect.effectId) store := by
    unfold resetEffectToPending
    refine postgres.admitted_bind.mpr ⟨?_, fun _ _ _ => trivial⟩
    exact admitted_updateEffect checked fun _ _ _ old => checked_reset old
  unfold resolveEffect
  cases input.resolution with
  | retryFailed => exact admitted_required fun _ => reset
  | confirmNotApplied => exact admitted_required fun _ => reset
  | confirmApplied => exact admitted_confirmApplied checked

/-- **No statement of a retry is refused.** -/
theorem admitted_retry (checked : Checked store)
    (room : ∀ row ∈ store.sagas.rows, row.revision < 9223372036854775807)
    (fresh : store.activity.find activityId = none) :
    postgres.Admitted (retry now activityId input) store := by
  unfold retry
  refine postgres.admitted_bind.mpr ⟨admitted_read rfl, fun locked store locking => ?_⟩
  obtain ⟨rfl, rfl⟩ := commits_lockSaga.mp locking
  refine admitted_expected fun row found => ?_
  have present := (Option.filter_eq_some_iff.mp found).1
  have refers : Refers store (some input.provisioningId) := by
    intro id named
    cases named
    rw [present]
    rfl
  refine postgres.admitted_bind.mpr ⟨admitted_beginMutation refers, fun replay middle begun => ?_⟩
  cases replay with
  | replay stored => trivial
  | execute =>
    have begunChecked := Checked.of_commits begun checked
    obtain ⟨unused, -, rfl⟩ := commits_beginMutation_execute.mp begun
    refine admitted_required fun _ => ?_
    refine postgres.admitted_bind.mpr ⟨admitted_retriedEffect, fun effect _ retried => ?_⟩
    obtain ⟨rfl, member, resolvable⟩ := commits_retriedEffect retried
    have stored := (Store.mem_effectsOf.mp member).1
    refine postgres.admitted_bind.mpr ⟨admitted_resolveEffect begunChecked, fun _ _ resolved => ?_⟩
    have kept := Checked.of_commits resolved begunChecked
    obtain ⟨condition, change, organization, -, -, -, rfl⟩ :=
      commits_resolveEffect resolvable resolved
    have here : (store.effect effect.effectId).isSome := by
      rw [show store.effect effect.effectId = some effect from stored]
      rfl
    have ready := Recordable.turned kept present
      (room row (Store.saga_found.mp present).1) fresh here
    refine admitted_recording ready fun change note => admitted_answer fun reserved found => ?_
    rw [mutation_addActivity, mutation_setSaga, mutation_setSaga, mutation_setEffects,
      mutation_reserved unused] at found
    cases found
    intro id named
    cases named
    rw [saga_addActivity, saga_setSaga, if_pos rfl, ready.present]
    rfl

end Retry

/-! ### Cleanup -/

section Cleanup

variable {store : Store} {now : Timestamp} {input : CleanupInput} {effectId : Nat → Uuid}
  {activityId : Uuid}

/-- **The ids of a cleanup request are new**: one for each grant in force, and one for its activity. -/
structure FreshRevokes (store : Store) (id : Uuid) (effectId : Nat → Uuid) : Prop where
  absent : ∀ index < ((store.effectsOf id).filter granted).length,
    store.effect (effectId index) = none
  distinct : ∀ first second, first < second →
    second < ((store.effectsOf id).filter granted).length → effectId first ≠ effectId second

theorem Admits.addMutation {row : EffectRow} (admits : Admits store row) (mutation : MutationRow) :
    Admits (store.addMutation mutation) row :=
  ⟨admits.checked, admits.fresh, admits.key, admits.ordinal, admits.saga, admits.source⟩

/-- Updates of other effects leave a new row admitted. -/
theorem Admits.setEffects {row : EffectRow} (admits : Admits store row)
    (selected : EffectRow → Bool) (change : EffectProgress → EffectProgress) :
    Admits (store.setEffects selected change) row := by
  refine ⟨admits.checked, ?_, fun other member => ?_, fun other member => ?_, admits.saga,
    fun source named => ?_⟩
  · rw [effect_setEffects, admits.fresh]
    rfl
  · obtain ⟨old, inside, rfl⟩ := List.mem_map.mp member
    rw [EffectRow.setIf_plan]
    exact admits.key old inside
  · rw [effectsOf_setEffects] at member
    obtain ⟨old, inside, rfl⟩ := List.mem_map.mp member
    rw [EffectRow.setIf_plan]
    exact admits.ordinal old inside
  · rw [effect_setEffects, Option.isSome_map]
    exact admits.source source named

theorem revokeRows_eq (index : Nat) (sources : List EffectRow) :
    revokeRows now effectId index sources = sources.mapIdx fun position source =>
      revokeEffect now (effectId (index + position)) source (source.subjectKind.getD "")
        (source.feature.getD "") (source.externalId.getD "") := by
  induction sources generalizing index with
  | nil => rfl
  | cons source sources ih =>
    rw [revokeRows, ih, List.mapIdx_cons]
    congr 2
    funext position source
    rw [Nat.add_assoc, Nat.add_comm 1]

/-- The revocation of a stored grant satisfies the constraints of its table. -/
theorem checked_revokeEffect {id : Uuid} {source : EffectRow} (checked : source.checked = true)
    (put : source.kind = .putEntitlement) (feature grantId : String) :
    (revokeEffect now id source (source.subjectKind.getD "") feature grantId).checked = true := by
  refine Bool.and_eq_true_iff.mpr ⟨?_, checked_newProgress (some grantId)⟩
  have plan := (Bool.and_eq_true_iff.mp checked).1
  unfold EffectPlan.checked EffectPlan.shaped at plan ⊢
  rw [decide_eq_true_eq] at plan ⊢
  obtain ⟨ordinal, subject, limit, shape⟩ := plan
  rw [put] at shape
  simp only [decide_eq_true_eq] at shape
  refine ⟨ordinal, Or.inr ?_, limit, by simp [revokeEffect]⟩
  rcases subject with missing | named | named
  · rw [missing] at shape
    simp at shape
  · exact Or.inl (by simp [revokeEffect, named])
  · exact Or.inr (by simp [revokeEffect, named])

/-- **The revocations of a cleanup request can be inserted.** -/
theorem insertable_revokes (keyed : Keyed store) (checked : Checked store) {saga : Saga}
    (shows : Shows store input.provisioningId saga) (coherent : Coherent saga)
    (unrequested : saga.row.cleanupRequested = false)
    (fresh : FreshRevokes store input.provisioningId effectId) :
    Insertable store (revokeRows now effectId 0 (saga.mains.filter granted)) := by
  have counted : ((store.effectsOf input.provisioningId).filter granted) =
      saga.mains.filter granted := by
    rw [shows.effects, Saga.effects, coherent.unrequested unrequested, List.append_nil]
  have none : ∀ other ∈ store.effectsOf input.provisioningId, other.kind ≠ .revokeEntitlement := by
    intro other member
    rw [shows.effects, Saga.effects, coherent.unrequested unrequested, List.append_nil] at member
    intro revoke
    have main := coherent.main_kind member
    rw [revoke] at main
    cases main
  have ordered := List.pairwise_iff_getElem.mp coherent.granted_ordered
  obtain ⟨absent, distinct⟩ := fresh
  rw [counted] at absent distinct
  rw [revokeRows_eq]
  constructor
  · intro row member
    obtain ⟨position, small, rfl⟩ := List.mem_mapIdx.mp member
    have inside := List.mem_filter.mp (List.getElem_mem small)
    have member : (saga.mains.filter granted)[position] ∈
        store.effectsOf input.provisioningId := by
      rw [shows.effects]
      exact List.mem_append_left _ inside.1
    obtain ⟨stored, owner⟩ := Store.mem_effectsOf.mp member
    generalize (saga.mains.filter granted)[position] = source at *
    have put := (of_decide_eq_true inside.2).1
    have sourceChecked := checked.effects source (Store.effect_found.mp stored).1
    refine ⟨checked_revokeEffect sourceChecked put _ _, ?_, fun other there same => ?_,
      fun other there same => ?_, ?_, fun id same => ?_⟩
    · rw [Nat.zero_add]
      exact absent position small
    · have names := keyed other there
      unfold EffectRow.Keyed at names
      rw [names] at same
      obtain ⟨place, kind, -⟩ := @downstreamKey_eq _ .revokeEntitlement _ _ _ _ same
      refine none other (Store.mem_effectsOf.mpr ⟨Table.find_of_mem there, ?_⟩) kind
      exact place.trans owner
    · rw [show (revokeEffect now _ source _ _ _).provisioningId = source.provisioningId from rfl,
        owner] at there
      exact none other there same.1
    · show (store.saga source.provisioningId).isSome
      rw [owner, shows.row]
      rfl
    · cases same
      rw [stored]
      rfl
  · rw [List.pairwise_iff_getElem]
    intro first second firstSmall secondSmall less
    rw [List.length_mapIdx] at firstSmall secondSmall
    rw [List.getElem_mapIdx, List.getElem_mapIdx, Nat.zero_add, Nat.zero_add]
    have apart := ordered first second firstSmall secondSmall less
    refine ⟨distinct first second less secondSmall, fun same => ?_, fun same => ?_⟩
    · have key := @downstreamKey_eq .revokeEntitlement .revokeEntitlement _ _ _ _ same
      have ordinal := key.2.2 (by decide)
      omega
    · have ordinal : (saga.mains.filter granted)[first].ordinal =
          (saga.mains.filter granted)[second].ordinal := same.2
      omega

/-- **No statement of a cleanup request is refused.** -/
theorem admitted_requestCleanup (all : AllCoherent store) (keyed : Keyed store)
    (checked : Checked store)
    (room : ∀ row ∈ store.sagas.rows, row.revision < 9223372036854775807)
    (ids : FreshRevokes store input.provisioningId effectId)
    (fresh : store.activity.find activityId = none) :
    postgres.Admitted (requestCleanup now effectId activityId input) store := by
  unfold requestCleanup
  refine postgres.admitted_bind.mpr ⟨admitted_read rfl, fun locked store locking => ?_⟩
  obtain ⟨rfl, rfl⟩ := commits_lockSaga.mp locking
  refine admitted_expected fun row found => ?_
  have present := (Option.filter_eq_some_iff.mp found).1
  have refers : Refers store (some input.provisioningId) := by
    intro id named
    cases named
    rw [present]
    rfl
  refine postgres.admitted_bind.mpr ⟨admitted_beginMutation refers, fun replay middle begun => ?_⟩
  cases replay with
  | replay stored => trivial
  | execute =>
    have begunChecked := Checked.of_commits begun checked
    obtain ⟨unused, -, rfl⟩ := commits_beginMutation_execute.mp begun
    refine admitted_required fun _ => admitted_required fun unrequested =>
      admitted_required fun _ => admitted_required fun _ => ?_
    refine postgres.admitted_bind.mpr ⟨admitted_read rfl, fun grants _ selecting => ?_⟩
    obtain ⟨rfl, rfl⟩ := commits_selectEffects.mp selecting
    refine postgres.admitted_bind.mpr ⟨?_, fun _ _ skipping => ?_⟩
    · refine admitted_updateEffects begunChecked fun row chosen old => checked_skipped old ?_
      rcases (of_decide_eq_true chosen).2 with waiting | failed
      · simp [waiting]
      · simp [failed]
    have skippedChecked := Checked.of_commits skipping begunChecked
    obtain ⟨-, -, rfl⟩ := commits_updateEffects.mp skipping
    obtain ⟨saga, shows, coherent⟩ := all _ row present
    have same : saga.row = row := Option.some.inj (shows.row.symm.trans present)
    have open_ : saga.row.cleanupRequested = false := by
      rw [same]
      simpa using unrequested
    have selected : orderBy ordinalOrder ((store.effectsOf input.provisioningId).filter fun row =>
        decide (row.kind = .putEntitlement ∧ row.state = .applied)) =
          saga.mains.filter granted := by
      rw [shows.effects]
      exact coherent.grants_selected
    have insertable := @insertable_revokes store now input effectId keyed checked saga shows
      coherent open_ ids
    refine postgres.admitted_bind.mpr ⟨?_, fun _ _ revoking => ?_⟩
    · refine admitted_insertRevokes (Insertable.admitsAll ?_)
      rw [effectsOf_addMutation, selected]
      exact ⟨fun row member => ((insertable.admits row member).addMutation _).setEffects _ _,
        insertable.distinct⟩
    have revokedChecked := Checked.of_commits revoking skippedChecked
    obtain ⟨revokes, -, -, rfl⟩ := commits_insertRevokes revoking
    refine postgres.admitted_bind.mpr ⟨?_, fun _ _ marking => ?_⟩
    · refine admitted_updateSaga fun other there => checked_cleanupMarked ?_
      exact revokedChecked.sagas other (Store.saga_found.mp there).1
    have markedChecked := Checked.of_commits marking revokedChecked
    obtain ⟨-, -, rfl⟩ := commits_updateSaga.mp marking
    have ready : Recordable _ input.provisioningId activityId none (row.set .cleanupMarked) :=
      ⟨markedChecked, by rw [saga_setSaga, if_pos rfl, saga_addEffects, saga_setEffects,
        saga_addMutation, present, Option.map_some], room row
          (Store.saga_found.mp present).1, by
            show (Store.addEffects _ _).activity.find _ = _
            rw [activity_addEffects]
            exact fresh, fun _ none => by cases none⟩
    refine admitted_recording ready fun change note => admitted_answer fun reserved found => ?_
    rw [mutation_addActivity, mutation_setSaga, mutation_cleaning, mutation_reserved unused]
      at found
    cases found
    intro id named
    cases named
    rw [saga_addActivity, saga_setSaga, if_pos rfl, ready.present]
    rfl

end Cleanup

end OrganizationProvisioning
