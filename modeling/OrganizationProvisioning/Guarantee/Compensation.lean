/-
**Cleanup compensates exactly the applied grants.**

* `Step.keeps_cleanup` — once cleanup is requested the creation and the grants stand, the revocations
  keep their aims, and the organization is kept.
* `CleanedUp` — what a cleanup request does, and what later calls leave of it.
* `Run.recorded` — an applied grant was recorded with its grant id by some call.
* `cleanup_compensates` — the guarantee.
-/
import OrganizationProvisioning.Guarantee.Sequence

namespace OrganizationProvisioning

open Relational Transactional Worklist

/-! ### The cleanup phase -/

/-- What a revocation aims at: its fixed columns and the grant id it revokes. -/
def aim (effect : EffectRow) : EffectPlan × Option String := (effect.toEffectPlan, effect.externalId)

/-- The organization a saga recorded. -/
def SagaRow.organization (row : SagaRow) : Option String × Option String × Bool :=
  (row.organizationId, row.ownerMembershipId, row.organizationResidue)

/-- The cleanup phase goes on: only the progress of the revocations changes. -/
structure CleansOn (saga saga' : Saga) : Prop where
  requested : saga'.row.cleanupRequested = true
  mains : saga'.mains = saga.mains
  aims : saga'.revokes.map aim = saga.revokes.map aim
  organization : saga'.row.organization = saga.row.organization

/-- The organization a transition leaves when it records none. -/
theorem SagaProgress.advanced_organization (now : Timestamp) (effects : List EffectRow)
    {old : SagaProgress} (residue : old.organizationResidue = old.organizationId.isSome) :
    (old.advanced now effects).organizationId = old.organizationId ∧
      (old.advanced now effects).ownerMembershipId = old.ownerMembershipId ∧
      (old.advanced now effects).organizationResidue = old.organizationResidue :=
  ⟨rfl, rfl, residue.symm⟩

namespace Saga

variable {saga saga' : Saga} {now : Timestamp} {transition : Transition}

/-- **Once cleanup is requested it goes on.** -/
theorem Step.keeps_cleanup (coherent : Coherent saga) (step : Step now saga transition saga')
    (requested : saga.row.cleanupRequested = true) : CleansOn saga saga' := by
  cases step with
  | @turn transition past rest focus progress organization note split turns records =>
    have kind : focus.kind = .revokeEntitlement := by
      have member := split.focus_mem
      rw [Saga.phase, requested] at member
      exact coherent.revoke_kind member
    have nothing : organization = none := by
      refine turns.records_nothing ?_
      rw [kind]
      decide
    subst nothing
    refine ⟨by rw [turned_cleanup]; exact requested, (turned_revokes requested).2, ?_, ?_⟩
    · have shape := split.jobs_eq
      rw [Saga.phase, requested] at shape
      have same : aim (focus.set fun _ => progress) = aim focus :=
        congrArg (Prod.mk focus.toEffectPlan) (turns.grant kind)
      rw [(turned_revokes requested).1, show saga.revokes = past ++ focus :: rest from shape,
        List.map_append, List.map_append, List.map_cons, List.map_cons, same]
    · obtain ⟨organizationId, membership, residue⟩ :=
        SagaProgress.advanced_organization now (past ++ (focus.set fun _ => progress) :: rest)
          coherent.residue
      exact Prod.ext organizationId (Prod.ext membership residue)
  | cleanup unrequested stopped compensated records =>
    rw [requested] at unrequested
    cases unrequested

/-- A cleanup request keeps the organization. -/
theorem cleaned_organization (coherent : Coherent saga) (now : Timestamp) (revokes : List EffectRow)
    (note : ActivityRow) :
    (saga.cleaned now revokes note).row.organization = saga.row.organization := by
  have residue : saga.row.toSagaProgress.cleanupMarked.organizationResidue =
      saga.row.toSagaProgress.cleanupMarked.organizationId.isSome := coherent.residue
  obtain ⟨organizationId, membership, kept⟩ :=
    SagaProgress.advanced_organization now revokes residue
  exact Prod.ext organizationId (Prod.ext membership kept)

end Saga

/-- Cleanup goes on from one store of a run to a later one. -/
theorem Run.cleans_on {past rest : List Committed} {middle store : Store} {id : Uuid} {saga : Saga}
    (upTo : Run past middle) (shown : Shows middle id saga) (coherent : Coherent saga)
    (requested : saga.row.cleanupRequested = true) (run : Run (past ++ rest) store) :
    ∃ saga', Shows store id saga' ∧ Coherent saga' ∧ CleansOn saga saga' := by
  obtain ⟨saga', shows, holds, goesOn⟩ := Run.follows
    (fun saga saga' => saga.row.cleanupRequested = true → CleansOn saga saga')
    (fun _ requested => ⟨requested, rfl, rfl, rfl⟩)
    (fun one two requested =>
      have first := one requested
      have second := two first.requested
      ⟨second.requested, second.mains.trans first.mains, second.aims.trans first.aims,
        second.organization.trans first.organization⟩)
    (fun coherent step requested => step.keeps_cleanup coherent requested) upTo shown coherent run
  exact ⟨saga', shows, holds, goesOn requested⟩

/-! ### What a cleanup request does -/

/-- The grants of a saga, in order. -/
def Store.putsOf (store : Store) (id : Uuid) : List EffectRow :=
  (store.stepsOf id).filter fun effect => effect.kind = .putEntitlement

theorem Shows.putsOf {store : Store} {id : Uuid} {saga : Saga} (shows : Shows store id saga)
    (coherent : Coherent saga) :
    store.putsOf id = saga.mains.filter fun effect => effect.kind = .putEntitlement := by
  have none : saga.revokes.filter (fun effect => effect.kind = .putEntitlement) = [] := by
    rw [List.filter_eq_nil_iff]
    intro effect member
    rw [coherent.revoke_kind member]
    decide
  unfold Store.putsOf
  rw [shows.stepsOf coherent, Saga.effects, List.filter_append, none, List.append_nil]

theorem filter_put_applied (mains : List EffectRow) :
    (mains.filter fun effect => effect.kind = .putEntitlement).filter
      (fun effect => effect.state = .applied) = mains.filter granted := by
  rw [List.filter_filter]
  refine List.filter_congr fun effect _ => ?_
  simp only [granted, Bool.decide_and, Bool.and_comm]

/-- **A new revocation of an applied grant**, of its ordinal, its subject, its feature and its
limit, with the grant id it was recorded under. -/
structure Compensates (source revoke : EffectRow) : Prop where
  mirrors : Mirrors source revoke
  recorded : source.externalId.isSome
  pending : revoke.state = .pending

/-- **What a cleanup request of a saga does**, and what the calls after it leave of it. -/
structure CleanedUp (entry : Committed) (rest : List Committed) (id : Uuid) : Prop where
  /-- No grant is in flight or in doubt when it commits. -/
  quiet : ∀ put ∈ entry.before.putsOf id, put.state ≠ .inFlight ∧ put.state ≠ .unknown
  /-- It inserts one revocation for each grant then applied, and no other. -/
  unrevoked : entry.before.revokesOf id = []
  compensated : List.Forall₂ Compensates
    ((entry.before.putsOf id).filter fun put => put.state = .applied) (entry.after.revokesOf id)
  /-- It skips every other grant. -/
  skipped : ∀ put ∈ entry.before.putsOf id,
    (put.state = .applied ∧ entry.after.effect put.effectId = some put) ∨
      (put.state ≠ .applied ∧
        ∃ now, entry.after.effect put.effectId = some (put.set (.skipped now)))
  /-- No later call inserts, drops or retargets a revocation. -/
  fixed : ∀ later ∈ rest,
    (later.after.revokesOf id).map aim = (entry.after.revokesOf id).map aim
  /-- No later call claims a grant. -/
  unclaimed : ∀ later ∈ rest, ∀ put ∈ entry.before.putsOf id, claims put.effectId later = false
  /-- The organization is the same before, during and after cleanup. -/
  organization : ∃ row, entry.before.saga id = some row ∧ ∀ later ∈ entry :: rest,
    ∃ row', later.after.saga id = some row' ∧ row'.organization = row.organization

/-- **What an executed cleanup request did, and what later calls leave of it.** -/
theorem Run.cleaned_up {past rest : List Committed} {store : Store} {entry : Committed}
    (run : Run (past ++ entry :: rest) store) {now : Timestamp} {effectId : Nat → Uuid}
    {activityId : Uuid} {input : CleanupInput}
    (called : entry.event = .requestCleanup now effectId activityId input)
    (executed : executes entry = true) : CleanedUp entry rest input.provisioningId := by
  obtain ⟨-, saga, saga', -, moves, -⟩ := run.did.2.executed_cleanup called executed
  obtain ⟨shown, coherent, step, shows, -⟩ := moves
  have coherent' := step.coherent coherent
  obtain ⟨-, -, -, upTo⟩ := run.commit_of_mem
  have run' : Run ((past ++ [entry]) ++ rest) store := by
    simpa using run
  cases step with
  | turn split turns records => exact absurd turns Turn.not_cleanup
  | @cleanup revokes note unrequested stopped compensated records =>
    have puts := shown.putsOf coherent
    have requested : (saga.cleaned now revokes note).row.cleanupRequested = true := rfl
    have kept := Saga.cleaned_organization coherent now revokes note
    have inside : ∀ put ∈ entry.before.putsOf input.provisioningId,
        put ∈ saga.mains ∧ put.kind = .putEntitlement := by
      intro put member
      rw [puts, List.mem_filter, decide_eq_true_eq] at member
      exact member
    have skips : ∀ put ∈ entry.before.putsOf input.provisioningId,
        (put.state = .applied ∧ entry.after.effect put.effectId = some put) ∨
          (put.state ≠ .applied ∧
            entry.after.effect put.effectId = some (put.set (.skipped now))) := by
      intro put member
      obtain ⟨main, grant⟩ := inside put member
      have effect : put ∈ saga.effects := List.mem_append_left _ main
      have present := effect_cleaned shown coherent unrequested shows (shown.stored effect)
        ((coherent.owned put effect).trans shown.id_eq)
      by_cases applied : put.state = .applied
      · rw [Coherent.skipUnfinished_applied applied] at present
        exact Or.inl ⟨applied, present⟩
      · have unfinished := coherent.unfinished_put unrequested stopped main applied
        unfold skipUnfinished at present
        rw [if_pos ⟨grant, unfinished⟩] at present
        exact Or.inr ⟨applied, present⟩
    have goesOn : ∀ later ∈ rest, ∃ saga'', Shows later.after input.provisioningId saga'' ∧
        Coherent saga'' ∧ CleansOn (saga.cleaned now revokes note) saga'' := by
      intro later member
      obtain ⟨between, -, -, reached⟩ := run'.reaches member
      exact Run.cleans_on upTo shows coherent' requested reached
    refine ⟨?_, ?_, ?_, ?_, ?_, ?_, saga.row, shown.row, ?_⟩
    · intro put member
      exact coherent.quiet stopped (List.mem_append_left _ (inside put member).1)
    · rw [shown.revokesOf coherent]
      exact coherent.unrequested unrequested
    · rw [shows.revokesOf coherent', puts, filter_put_applied]
      refine compensated.imp fun source revoke new => ?_
      obtain ⟨mirrors, pending, -⟩ := Coherent.mirrors_of_revokes new
      obtain ⟨_, _, _, grantId, -, -, receipt, -⟩ := new
      exact ⟨mirrors, by rw [receipt]; rfl, pending⟩
    · intro put member
      refine (skips put member).imp id ?_
      rintro ⟨open_, present⟩
      exact ⟨open_, now, present⟩
    · intro later member
      obtain ⟨saga'', last, holds, cleansOn⟩ := goesOn later member
      rw [last.revokesOf holds, shows.revokesOf coherent']
      exact cleansOn.aims
    · intro later member put grant
      rcases skips put grant with ⟨applied, present⟩ | ⟨-, present⟩
      · exact (Run.settled upTo present (by rw [applied]; rfl) run').1 later member
      · exact (Run.settled upTo present rfl run').1 later member
    · intro later member
      rcases List.mem_cons.mp member with rfl | after
      · exact ⟨_, shows.row, kept⟩
      · obtain ⟨saga'', last, -, cleansOn⟩ := goesOn later after
        exact ⟨_, last.row, cleansOn.organization.trans kept⟩

/-! ### Which grants are revoked -/

/-- A committed call recorded a grant of a saga as applied, under the grant id. -/
def recordsGrant (id putId : Uuid) (grantId : String) (entry : Committed) : Bool :=
  decide (entry.before.stateOf putId ≠ some .applied) &&
    (entry.after.effect putId).any fun put => put.provisioningId = id ∧
      put.kind = .putEntitlement ∧ put.state = .applied ∧ put.externalId = some grantId

theorem recordsGrant_iff {id putId : Uuid} {grantId : String} {entry : Committed} :
    recordsGrant id putId grantId entry = true ↔
      entry.before.stateOf putId ≠ some .applied ∧ ∃ put, entry.after.effect putId = some put ∧
        put.provisioningId = id ∧ put.kind = .putEntitlement ∧ put.state = .applied ∧
        put.externalId = some grantId := by
  unfold recordsGrant
  rw [Bool.and_eq_true, decide_eq_true_eq, Option.any_eq_true]
  simp only [decide_eq_true_eq]

/-- **An applied grant was recorded with its grant id.** -/
theorem Run.recorded {history : List Committed} {store : Store} (run : Run history store)
    {put : EffectRow} {putId : Uuid} {grantId : String} (found : store.effect putId = some put)
    (kind : put.kind = .putEntitlement) (applied : put.state = .applied)
    (grant : put.externalId = some grantId) :
    ∃ entry ∈ history, recordsGrant put.provisioningId putId grantId entry = true := by
  induction run with
  | start => cases found
  | @commit history entry earlier legal committed ih =>
    by_cases before : entry.before.stateOf putId = some .applied
    · -- It was applied before the last call, which leaves what is applied as it is.
      obtain ⟨old, there, state⟩ := effect_of_stateOf before
      have settled : old.state.settled = true := by
        rw [state]
        rfl
      have kept := (Run.settled earlier there settled (.commit earlier legal committed)).2
      rw [found] at kept
      cases kept
      obtain ⟨recording, member, records⟩ := ih there
      exact ⟨recording, List.mem_append_left _ member, records⟩
    · refine ⟨entry, List.mem_append_right _ List.mem_cons_self, recordsGrant_iff.mpr ?_⟩
      exact ⟨before, put, found, rfl, kind, applied, grant⟩

/-- In lists paired off by a relation, each member of the first has its partner in the second. -/
theorem exists_image {First Second : Type} {related : First → Second → Prop}
    {firsts : List First} {seconds : List Second} (paired : List.Forall₂ related firsts seconds)
    {first : First} (member : first ∈ firsts) : ∃ second ∈ seconds, related first second := by
  induction paired with
  | nil => cases member
  | cons pair _ ih =>
    rcases List.mem_cons.mp member with rfl | later
    · exact ⟨_, List.mem_cons_self, pair⟩
    · obtain ⟨second, inside, holds⟩ := ih later
      exact ⟨second, List.mem_cons_of_mem _ inside, holds⟩

/-- In a strictly ordered list a condition met by rows of one rank only selects one row. -/
theorem filter_unique {Row : Type} {less : Row → Row → Prop} {rows : List Row}
    (ordered : rows.Pairwise less) {condition : Row → Bool} {row : Row} (member : row ∈ rows)
    (holds : condition row = true)
    (alike : ∀ first ∈ rows, ∀ second ∈ rows, condition first = true → condition second = true →
      ¬ less first second) : rows.filter condition = [row] := by
  have sorted := ordered.sublist (List.filter_sublist (p := condition))
  have inside : row ∈ rows.filter condition := List.mem_filter.mpr ⟨member, holds⟩
  have apart : ∀ first ∈ rows.filter condition, ∀ second ∈ rows.filter condition,
      ¬ less first second := by
    intro first one second two
    obtain ⟨one, first⟩ := List.mem_filter.mp one
    obtain ⟨two, second⟩ := List.mem_filter.mp two
    exact alike _ one _ two first second
  generalize rows.filter condition = selected at sorted inside apart
  match selected with
  | [] => cases inside
  | [one] => rw [List.mem_singleton.mp inside]
  | one :: two :: others =>
    have pair := (List.pairwise_cons.mp sorted).1 two List.mem_cons_self
    exact absurd pair (apart one List.mem_cons_self two (List.mem_cons_of_mem _ List.mem_cons_self))

/-- **Each grant in force has one revocation.** -/
theorem Shows.revoke_of {store : Store} {id : Uuid} {saga : Saga} (shows : Shows store id saga)
    (coherent : Coherent saga) (requested : saga.row.cleanupRequested = true) {put : EffectRow}
    (member : put ∈ saga.mains) (grant : granted put = true) : ∃ revoke ∈ saga.revokes,
      Mirrors put revoke ∧
        saga.revokes.filter (fun other => other.sourceEffectId = some put.effectId) = [revoke] := by
  have paired := coherent.mirrored requested
  obtain ⟨revoke, inside, mirrors⟩ := exists_image paired (List.mem_filter.mpr ⟨member, grant⟩)
  have ordinal : ∀ other ∈ saga.revokes,
      decide (other.sourceEffectId = some put.effectId) = true → other.ordinal = put.ordinal := by
    intro other there same
    obtain ⟨source, listed, reflects⟩ := exists_partner paired there
    have target := of_decide_eq_true same
    rw [reflects.target, Option.some.injEq] at target
    have stored := shows.stored (List.mem_append_left _ (List.mem_filter.mp listed).1)
    rw [target, shows.stored (List.mem_append_left _ member)] at stored
    cases stored
    exact reflects.ordinal
  refine ⟨revoke, inside, mirrors, filter_unique coherent.revokes_ordered inside
    (decide_eq_true mirrors.target) fun first one second two meets meets' => ?_⟩
  rw [ordinal first one meets, ordinal second two meets']
  exact lt_irrefl _

/-! ### The guarantee -/

/-- **Cleanup compensates exactly the applied grants**, in a history that left `store`. -/
structure CleanupCompensates (history : List Committed) (store : Store) : Prop where
  /-- What each executed cleanup request does. -/
  cleaned : ∀ past entry rest, history = past ++ entry :: rest →
    ∀ now effectId activityId input, entry.event = .requestCleanup now effectId activityId input →
      executes entry = true → CleanedUp entry rest input.provisioningId
  /-- Every grant id sent to be revoked was recorded as applied by the same saga. -/
  sent : ∀ past entry rest, history = past ++ entry :: rest → ∀ record, GaveOut record entry →
    record.kind = .revokeEntitlement → ∃ grantId putId, revokeRequest record = .ok ⟨grantId⟩ ∧
      ∃ earlier ∈ past, recordsGrant record.provisioningId putId grantId earlier = true
  /-- Once cleanup is completed every grant ever recorded has one revocation, compensated. -/
  completed : ∀ id row, store.saga id = some row → row.status = .cleanupCompleted →
    ∀ entry ∈ history, ∀ putId grantId, recordsGrant id putId grantId entry = true →
      ∃ revoke, (store.revokesOf id).filter (fun other => other.sourceEffectId = some putId) =
        [revoke] ∧ revoke.state = .compensated ∧ revoke.externalId = some grantId

/-- **Cleanup compensates exactly the applied grants**: in every run. -/
theorem cleanup_compensates {history : List Committed} {store : Store} (run : Run history store) :
    CleanupCompensates history store := by
  refine ⟨?_, ?_, ?_⟩
  · rintro past entry rest rfl now effectId activityId input called executed
    exact run.cleaned_up called executed
  · rintro past entry rest rfl record gave kind
    obtain ⟨now, leaseUntil, saga, before, after, effect, gives⟩ := run.did.2.gives gave
    have revokes : effect.kind = .revokeEntitlement := by
      rw [← kind, gives.record_eq]
      rfl
    have requested : saga.row.cleanupRequested = true := by
      have main := gives.coherent.phase_kind gives.split.focus_mem
      rw [revokes] at main
      simpa [EffectKind.isMain] using main.symm
    have member := gives.split.focus_mem
    rw [Saga.phase, requested] at member
    obtain ⟨put, listed, mirrors⟩ := exists_partner (gives.coherent.mirrored requested) member
    obtain ⟨main, grant⟩ := List.mem_filter.mp listed
    obtain ⟨granting, applied⟩ := of_decide_eq_true grant
    obtain ⟨grantId, receipt⟩ :=
      Option.isSome_iff_exists.mp (gives.coherent.receipts put main applied)
    obtain ⟨earlier, -, -, -⟩ := run.commit_of_mem
    have stored := gives.shown.stored (List.mem_append_left _ main)
    obtain ⟨recording, inside, records⟩ := Run.recorded earlier stored granting applied receipt
    refine ⟨grantId, put.effectId, ?_, recording, inside, ?_⟩
    · have external : record.externalId = some grantId := by
        rw [gives.record_eq]
        exact mirrors.grant.trans receipt
      unfold revokeRequest
      rw [external]
    · have owner : put.provisioningId = record.provisioningId :=
        (gives.coherent.owned put (List.mem_append_left _ main)).trans gives.shown.id_eq
      rw [← owner]
      exact records
  · intro id row found status entry member putId grantId records
    obtain ⟨saga, rfl, shows, coherent⟩ := run.shows found
    obtain ⟨requested, compensated⟩ := coherent.compensated status
    obtain ⟨-, put, recorded, owner, kind, applied, receipt⟩ := recordsGrant_iff.mp records
    obtain ⟨past, rest, rfl⟩ := List.append_of_mem member
    obtain ⟨-, -, -, upTo⟩ := run.commit_of_mem
    have run' : Run ((past ++ [entry]) ++ rest) store := by
      simpa using run
    have present := (Run.settled upTo recorded (by rw [applied]; rfl) run').2
    obtain ⟨inside, same⟩ := shows.effect_eq present owner
    have main : put ∈ saga.mains := by
      rcases List.mem_append.mp inside with main | revoke
      · exact main
      · rw [coherent.revoke_kind revoke] at kind
        cases kind
    obtain ⟨revoke, listed, mirrors, only⟩ :=
      shows.revoke_of coherent requested main (decide_eq_true ⟨kind, applied⟩)
    rw [shows.revokesOf coherent, ← same]
    exact ⟨revoke, only, compensated revoke listed, mirrors.grant.trans receipt⟩

/-- The rehearsal: of two grants one was applied, and its revocation compensated. -/
theorem cleanup_compensates_rehearsed : CleanupCompensates Rehearsal.history Rehearsal.store ∧
    Rehearsal.history.any (fun entry => executes entry && decide (entry.event.keyed.any
      fun request => request.operation = .requestCleanup)) = true ∧
    Rehearsal.history.any (recordsGrant 1 11 "grant-seats") = true :=
  ⟨cleanup_compensates Rehearsal.run, by decide +kernel, by decide +kernel⟩

end OrganizationProvisioning
