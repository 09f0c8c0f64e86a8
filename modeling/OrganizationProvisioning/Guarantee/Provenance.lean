/-
**Every row was authorized.**

* `Event.operation`, `ActivityKind.operation` — the public operation of a call, and of an activity row.
* `Vouched` — an authorized caller for a call: of the public role, or of the worker's.
* `Issued.vouched` — **the actor of a call of the service was let in**; `Issued.of_processDue` — what the worker
  commits are such calls.
* `Signed`, `Run.signed` — who signs an activity row of a saga.
* `Commissioned`, `Run.commissioned` — what a saga was requested with.
* `Sourced` — where every key, every saga and every activity row comes from; `every_row_authorized` — **this
  holds of every run of the service.**
-/
import OrganizationProvisioning.Guarantee.Audit
import OrganizationProvisioning.Guarantee.Binding
import OrganizationProvisioning.Run.Loop

namespace OrganizationProvisioning

open Relational Transactional

/-! ### Operations -/

/-- The public operation of a call; the worker's have none. -/
def Event.operation : Event → Option Operation
  | .start _ _ _ => some .start
  | .retry _ _ _ => some .retry
  | .requestCleanup _ _ _ _ => some .requestCleanup
  | _ => none

/-- The public operation an activity row is about. -/
def ActivityKind.operation : ActivityKind → Option Operation
  | .provisioningStarted => some .start
  | .provisioningRetried => some .retry
  | .cleanupRequested => some .requestCleanup
  | _ => none

section Service

variable {Ctx : Type} (host : Host Ctx)

/-- **An authorized caller**, of the public role for an operation, or of the worker's. -/
def Vouched (operation : Option Operation) (asker : Asker) : Prop :=
  match operation with
  | some operation => Permitted host operation asker
  | none => Authorized host OrganizationProvisioningConfig.workerCallers workerCapability "process_due" asker

/-- **An activity row is signed**: by an authorized actor, and by the requester of the saga where the row is about
a public operation. -/
structure Signed (row : SagaRow) (note : ActivityRow) : Prop where
  vouched : ∃ caller, Vouched host note.kind.operation ⟨caller, note.actorSubject⟩
  requester : note.kind.operation.isSome → note.actorSubject = row.requestedBy

/-- **A saga was requested**: by an authorized caller for this actor, with valid texts, and with the grants of an
accepted configuration. -/
structure Commissioned (row : SagaRow) (effects : List EffectRow) : Prop where
  permitted : ∃ caller, Permitted host .start ⟨caller, row.requestedBy⟩
  name : validOrganizationName row.name = true
  slug : validSlug row.slug = true
  owner : validOpaqueId row.ownerSubject 256 = true
  grants : ∃ config : OrganizationProvisioningConfig, ∃ snapshot, config.validate host.checks = .ok () ∧
    config.grantSnapshots = some snapshot ∧
    (effects.filter fun effect => effect.kind = .putEntitlement).map
        (fun effect => (effect.subjectKind, effect.feature, effect.limitValue)) =
      snapshot.map fun grant => (some grant.subjectKind, some grant.feature, grant.limit)

/-- **Where the rows of a store come from.** -/
structure Sourced (store : Store) : Prop where
  keys : ∀ row ∈ store.mutations.rows, Permitted host row.operation ⟨row.callerInstance, row.actorSubject⟩ ∧
    validIdempotencyKey row.idempotencyKey = true
  sagas : ∀ row ∈ store.sagas.rows, Commissioned host row (store.effectsOf row.provisioningId)
  activity : ∀ note ∈ store.activity.rows, ∃ row, store.saga note.provisioningId = some row ∧
    Signed host row note

end Service

/-! ### Calls of the service -/

section Calls

variable {Ctx : Type} {host : Host Ctx} {event : Event} {request : PublicRequest}

/-- A public request is handled by its operation, for its actor. -/
theorem Handles.vouched (handles : Handles host request event) : ∃ caller,
    Vouched host event.operation ⟨caller, event.actor⟩ := by
  obtain ⟨asker, keyed, permitted, -⟩ := handles.keyed
  cases event with
  | start | retry | requestCleanup =>
    simp only [Event.keyed, PublicRequest.asked, Option.some.injEq, KeyedRequest.mk.injEq] at keyed
    obtain ⟨-, -, operation, actor, -⟩ := keyed
    refine ⟨asker.caller, ?_⟩
    simp only [Vouched, Event.operation, Event.actor]
    rw [operation, actor]
    exact permitted
  | quarantineExpired | claimNext | finalizeEffect => cases keyed

/-- **The actor of a call of the service was let in.** -/
theorem Issued.vouched (issued : Issued host event) : ∃ caller,
    Vouched host event.operation ⟨caller, event.actor⟩ := by
  cases issued with
  | handled handles => exact handles.vouched
  | opened accepted called opens =>
    obtain ⟨asker, allows, -, -, rfl⟩ := PostgresOrganizationProvisioningPlugin.processDueCall_ok.mp called
    have authorized : Vouched host none asker := ⟨_, _, accepted, allows⟩
    cases event with
    | quarantineExpired | claimNext =>
      obtain ⟨rfl, -⟩ := opens
      exact ⟨_, authorized⟩
    | finalizeEffect =>
      cases opens
      exact ⟨_, authorized⟩
    | start | retry | requestCleanup => exact opens.elim

/-- A call with a key serves a public request. -/
theorem Issued.handles {asked : KeyedRequest} (issued : Issued host event) (keyed : event.keyed = some asked) :
    ∃ request, Handles host request event := by
  cases issued with
  | handled handles => exact ⟨_, handles⟩
  | opened _ _ opens =>
    cases event with
    | start | retry | requestCleanup => exact opens.elim
    | quarantineExpired | claimNext | finalizeEffect => cases keyed

/-- **What a start of the service is called with.** -/
theorem Issued.start {now : Timestamp} {ids : StartIds} {input : StartInput}
    (issued : Issued host (.start now ids input)) :
    validOrganizationName input.name = true ∧ validSlug input.slug = true ∧
      validOpaqueId input.ownerSubject 256 = true ∧ ∃ config : OrganizationProvisioningConfig,
        config.validate host.checks = .ok () ∧ config.grantSnapshots = some input.grants := by
  cases issued with
  | opened _ _ opens => exact opens.elim
  | @handled request handles =>
    obtain ⟨plugin, invoked, inputs, valid, called⟩ := handles.call
    cases request with
    | start request =>
      obtain ⟨asker, grants, checked, -, snapshot, -, accepted, same⟩ :=
        PostgresOrganizationProvisioningPlugin.startCall_ok.mp called
      cases same
      simp only [startInput, Option.ite_none_right_eq_some, Option.some.injEq, Bool.and_eq_true] at accepted
      obtain ⟨⟨⟨⟨name, slug⟩, owner⟩, -⟩, rfl⟩ := accepted
      exact ⟨name, slug, owner, plugin.config, valid, snapshot⟩
    | retry request =>
      obtain ⟨_, _, _, _, _, impossible⟩ := PostgresOrganizationProvisioningPlugin.retryCall_ok.mp called
      cases impossible
    | requestCleanup request =>
      obtain ⟨_, _, _, _, _, impossible⟩ :=
        PostgresOrganizationProvisioningPlugin.requestCleanupCall_ok.mp called
      cases impossible

/-- The turns of the worker's loop are its own. -/
theorem work_opens {request : ProcessDueRequest} {actor : String} {turn : Nat → TurnInputs} {fuel index : Nat}
    {counts counts' : Counts} {store final : Store} {calls : List Committed}
    (worked : work actor request.leaseSeconds turn fuel index counts store = .ok (calls, counts', final)) :
    ∀ entry ∈ calls, Opens request actor entry.event := by
  induction fuel generalizing index counts store calls with
  | zero =>
    cases worked
    simp
  | succ fuel ih =>
    unfold work at worked
    simp only [except_bind] at worked
    obtain ⟨⟨found, leased⟩, -, rest⟩ := worked
    cases found with
    | none =>
      cases rest
      intro entry member
      rw [List.mem_singleton.mp member]
      exact ⟨rfl, rfl⟩
    | some effect =>
      simp only [except_bind, except_pure] at rest
      obtain ⟨⟨result, settled⟩, -, ⟨others, after, last⟩, more, same⟩ := rest
      cases same
      intro entry member
      rcases List.mem_cons.mp member with rfl | later
      · exact ⟨rfl, rfl⟩
      · rcases List.mem_cons.mp later with rfl | other
        · rfl
        · exact ih more entry other

/-- **What a call of the worker commits is a call of the service.** -/
theorem Issued.of_processDue {plugin : PostgresOrganizationProvisioningPlugin} {invoked : Invoked Ctx}
    {actor : String} {call : WorkerCall} {store final : Store} {calls : List Committed}
    {response : ProcessDueResponse} (accepted : plugin.config.validate host.checks = .ok ())
    (called : plugin.processDueCall host invoked call.request = .ok actor)
    (done : processDue actor call store = .ok (calls, response, final)) :
    ∀ entry ∈ calls, Issued host entry.event := by
  intro entry member
  refine .opened accepted called ?_
  obtain ⟨-, -, valid, -⟩ := PostgresOrganizationProvisioningPlugin.processDueCall_ok.mp called
  unfold processDue at done
  rw [valid] at done
  simp only [Bool.not_true, Bool.false_eq_true, if_false, except_bind] at done
  obtain ⟨⟨quarantined, reviewed⟩, -, ⟨others, counts, last⟩, worked, same⟩ := done
  cases same
  rcases List.mem_cons.mp member with rfl | later
  · exact ⟨rfl, rfl⟩
  · cases loop : work actor call.request.leaseSeconds call.turn (call.request.limit - quarantined).toNat 0
        ⟨0, 0, 0, quarantined⟩ reviewed with
    | error abort =>
      rw [loop] at worked
      cases worked
    | ok done =>
      rw [loop] at worked
      cases worked
      exact work_opens loop entry later

end Calls

/-! ### Grants -/

/-- The grants of a plan are those of the input. -/
theorem grants_plannedEffects {now : Timestamp} {ids : StartIds} {input : StartInput} :
    ((plannedEffects now ids input).filter fun effect => effect.kind = .putEntitlement).map
        (fun effect => (effect.subjectKind, effect.feature, effect.limitValue)) =
      input.grants.map fun grant => (some grant.subjectKind, some grant.feature, grant.limit) := by
  have puts : (plannedEffects now ids input).filter (fun effect => effect.kind = .putEntitlement) =
      input.grants.mapIdx fun ordinal grant =>
        grantEffect now (ids.grantEffectId ordinal) input.provisioningId ordinal grant := by
    unfold plannedEffects
    rw [List.filter_cons_of_neg (by simp [createEffect]), List.filter_eq_self]
    intro effect member
    obtain ⟨ordinal, inside, rfl⟩ := List.mem_mapIdx.mp member
    rfl
  rw [puts]
  refine List.ext_getElem (by simp) fun index small small' => ?_
  simp [grantEffect]

/-- **The grants of a saga are those of its start.** -/
theorem Saga.Follows.grants {now : Timestamp} {ids : StartIds} {input : StartInput} {saga : Saga}
    (follows : saga.Follows now ids input) (coherent : Coherent saga) :
    (saga.effects.filter fun effect => effect.kind = .putEntitlement).map
        (fun effect => (effect.subjectKind, effect.feature, effect.limitValue)) =
      input.grants.map fun grant => (some grant.subjectKind, some grant.feature, grant.limit) := by
  have none : saga.revokes.filter (fun effect => effect.kind = .putEntitlement) = [] := by
    rw [List.filter_eq_nil_iff]
    intro effect member
    rw [coherent.revoke_kind member]
    decide
  -- What a grant is given for is part of the plan of an effect.
  have planned : ∀ effects : List EffectRow,
      (effects.filter fun effect => effect.kind = .putEntitlement).map
        (fun effect => (effect.subjectKind, effect.feature, effect.limitValue)) =
      ((effects.map fun effect => effect.toEffectPlan).filter fun plan => plan.kind = .putEntitlement).map
        fun plan => (plan.subjectKind, plan.feature, plan.limitValue) := by
    intro effects
    rw [List.filter_map, List.map_map]
    rfl
  rw [Saga.effects, List.filter_append, none, List.append_nil, planned, follows.plans, ← planned,
    grants_plannedEffects]

/-! ### Runs of the service -/

namespace Run

variable {Ctx : Type} {host : Host Ctx} {history : List Committed} {store : Store} {id : Uuid} {saga : Saga}

/-- The row of a step is about the operation of its call. -/
theorem tells_operation {entry : Committed} {now : Timestamp} {transition : Transition} {saga saga' : Saga}
    {note : ActivityRow} (tells : Tells note transition) (cause : Cause entry id now saga saga' transition) :
    note.kind.operation = entry.event.operation := by
  cases cause with
  | claim called =>
    rw [called]
    cases tells with
    | claim _ kind _ => rw [kind]; rfl
  | @finalize _ _ _ outcome _ called =>
    rw [called]
    cases tells with
    | finalize _ kind _ => rw [kind]; cases outcome <;> rfl
  | quarantine called =>
    rw [called]
    cases tells with
    | quarantine _ kind _ => rw [kind]; rfl
  | retry called =>
    rw [called]
    cases tells with
    | retry _ kind _ => rw [kind]; rfl
  | cleanup called =>
    rw [called]
    cases tells with
    | cleanup _ kind => rw [kind]; rfl

/-- A public step is a step of the requester. -/
theorem owner_of_cause {entry : Committed} {now : Timestamp} {transition : Transition} {saga saga' : Saga}
    (cause : Cause entry id now saga saga' transition) (public_ : entry.event.operation.isSome) :
    entry.event.actor = saga.row.requestedBy := by
  cases cause with
  | claim called | finalize called | quarantine called =>
    rw [called] at public_
    cases public_
  | retry called _ _ _ owner =>
    rw [called]
    exact owner.symm
  | cleanup called _ _ owner =>
    rw [called]
    exact owner.symm

/-- **Every activity row of a saga is signed.** -/
theorem signed (run : Run history store) (issued : ∀ entry ∈ history, Issued host entry.event)
    (shows : Shows store id saga) (coherent : Coherent saga) :
    ∀ note ∈ saga.activity, Signed host saga.row note := by
  induction run generalizing saga with
  | start => cases shows.row
  | @commit history entry earlier legal committed ih =>
    have run' : Run (history ++ entry :: []) entry.after := .commit earlier legal committed
    have before := fun call member => issued call (List.mem_append_left _ member)
    obtain ⟨caller, vouched⟩ := (issued entry (List.mem_append_right _ List.mem_cons_self)).vouched
    cases run'.fate id with
    | still untouched => exact ih before (untouched.shown shows) coherent
    | @began now ids input response began called answered names absent begins shown rendered reserves =>
      have same := shown.unique begins.coherent shows coherent
      subst same
      obtain ⟨event, first, reply, after⟩ := entry
      cases called
      obtain ⟨view, _, started, same, rfl⟩ := postgres.commits_bind.mp committed
      obtain ⟨note, adds, -, kind⟩ := start_adds reserves.fresh started
      rw [begins.first_row (Run.holds earlier).owned absent adds shows]
      intro other member
      rw [List.mem_singleton.mp member]
      refine ⟨⟨caller, ?_⟩, fun _ => ?_⟩
      · rw [kind, adds.signed]
        exact vouched
      · rw [adds.signed, begins.row_eq]
        rfl
    | @moved now transition old saga' shown coherent' step shown' cause =>
      have same := shown'.unique (step.coherent coherent') shows coherent
      subst same
      obtain ⟨note, last, tells, signed⟩ := run'.told shown coherent' step shown' cause
      have owner : old.row.requestedBy = saga'.row.requestedBy :=
        (congrArg SagaIntent.requestedBy step.intent).symm
      rw [last]
      intro other member
      rcases List.mem_append.mp member with known | new
      · have kept := ih before shown coherent' other known
        exact ⟨kept.vouched, fun public_ => (kept.requester public_).trans owner⟩
      · rw [List.mem_singleton.mp new]
        have operation := tells_operation tells cause
        refine ⟨⟨caller, ?_⟩, fun public_ => ?_⟩
        · rw [operation, signed]
          exact vouched
        · rw [operation] at public_
          rw [signed, owner_of_cause cause public_, owner]

/-- **Every saga was requested.** -/
theorem commissioned (run : Run history store) (issued : ∀ entry ∈ history, Issued host entry.event)
    (shows : Shows store id saga) (coherent : Coherent saga) : Commissioned host saga.row saga.effects := by
  obtain ⟨entry, member, now, ids, input, starts, -, follows⟩ := run.started shows coherent
  have call := issued entry member
  rw [starts.called] at call
  obtain ⟨name, slug, owner, config, valid, snapshot⟩ := call.start
  obtain ⟨caller, permitted⟩ := call.vouched
  have intent : ∀ {Field : Type} (field : SagaIntent → Field),
      field saga.row.toSagaIntent = field (newSaga now input).toSagaIntent :=
    fun field => congrArg field follows.intent
  refine ⟨⟨caller, ?_⟩, ?_, ?_, ?_, config, input.grants, valid, snapshot, follows.grants coherent⟩
  · rw [intent SagaIntent.requestedBy]
    exact permitted
  · rw [intent SagaIntent.name]
    exact name
  · rw [intent SagaIntent.slug]
    exact slug
  · rw [intent SagaIntent.ownerSubject]
    exact owner

end Run

/-- **Every row was authorized.** -/
theorem every_row_authorized {Ctx : Type} {host : Host Ctx} {history : List Committed} {store : Store}
    (run : Run history store) (issued : ∀ entry ∈ history, Issued host entry.event) : Sourced host store where
  keys row member := by
    obtain ⟨entry, listed, request, response, executed, caller, key, holds⟩ :=
      run.attributed (Store.mutation_found.mpr ⟨member, rfl, rfl⟩)
    obtain ⟨public_, handles⟩ := (issued entry listed).handles executed.asked
    obtain ⟨asker, keyed, permitted, valid⟩ := handles.keyed
    rw [executed.asked] at keyed
    cases keyed
    rw [holds.operation_eq, holds.actor_eq, ← caller, ← key]
    exact ⟨permitted, valid⟩
  sagas row member := by
    obtain ⟨saga, rfl, shows, coherent⟩ := run.shows (Store.saga_found.mpr ⟨member, rfl⟩)
    rw [shows.effects]
    exact run.commissioned issued shows coherent
  activity note member := by
    obtain ⟨row, found⟩ := Option.isSome_iff_exists.mp (run.holds.owned.activity note member)
    obtain ⟨saga, rfl, shows, coherent⟩ := run.shows found
    refine ⟨saga.row, found, run.signed issued shows coherent note ?_⟩
    rw [← shows.activity]
    exact List.mem_filter.mpr ⟨member, decide_eq_true rfl⟩

/-! ### The served run -/

/-- A script of calls of the service plays a run of the service. -/
theorem issued_of_play {Ctx : Type} {host : Host Ctx} {script : List Instruction}
    {history history' : List Committed} {store store' : Store}
    (calls : ∀ instruction ∈ script, ∀ past event, eventOf past instruction = some event → Issued host event)
    (issued : ∀ entry ∈ history, Issued host entry.event)
    (played : play script history store = some (history', store')) :
    ∀ entry ∈ history', Issued host entry.event := by
  induction script generalizing history store with
  | nil =>
    cases played
    exact issued
  | cons instruction script ih =>
    unfold play at played
    split at played
    · cases played
    · rename_i event asked
      split at played
      · cases played
      · refine ih (fun other member => calls other (List.mem_cons_of_mem _ member)) ?_ played
        intro entry member
        rcases List.mem_append.mp member with old | new
        · exact issued entry old
        · rw [List.mem_singleton.mp new]
          exact calls instruction List.mem_cons_self history event asked

namespace Rehearsal

/-- What the worker of the rehearsals opens. -/
theorem opened_worker {event : Event} (opens : Opens ⟨10, 60⟩ "worker" event) : Issued host event :=
  @Issued.opened _ host event plugin bench ⟨10, 60⟩ "worker" (by rfl) (by rfl) opens

theorem served_issued : ∀ instruction ∈ served, ∀ past event, eventOf past instruction = some event →
    Issued host event := by
  have worker : ∀ (now fence activityId : Uuid) past event,
      eventOf past (claim now.val fence activityId) = some event → Issued host event := by
    intro now fence activityId past event asked
    cases asked
    exact opened_worker ⟨rfl, rfl⟩
  have settle : ∀ now activityId downstream position past event,
      eventOf past (.settle now activityId "worker" downstream position) = some event → Issued host event := by
    intro now activityId downstream position past event asked
    obtain ⟨entry, -, rest⟩ := Option.bind_eq_some_iff.mp asked
    split at rest
    · cases rest
      exact opened_worker rfl
    · cases rest
  unfold served
  simp only [List.forall_mem_cons]
  refine ⟨?_, worker 1 101 21, settle _ _ _ _, worker 3 102 23, settle _ _ _ _, ?_, ?_, by simp⟩
  all_goals intro past event asked; cases asked
  · exact .handled (handles_start 0)
  · exact .handled handles_retry
  · exact .handled (handles_start 6)

end Rehearsal

/-- A call of the worker after the served run. -/
def Rehearsal.serviceCall : WorkerCall where
  request := ⟨10, 60⟩
  began := 10
  quarantineId index := Fin.ofNat _ (200 + index)
  turn index := {
    now := 20
    utcNow := 20
    fence := Fin.ofNat _ (300 + index)
    claimId := Fin.ofNat _ (400 + index)
    settledAt := 30
    settleId := Fin.ofNat _ (500 + index)
    downstream := accepting }
  ended := 40

/-- The rows after a call of the worker that follows the served run. -/
theorem every_row_authorized_rehearsed : ∃ calls response final,
    processDue "worker" Rehearsal.serviceCall (played Rehearsal.served).2 = .ok (calls, response, final) ∧
      response.completed = 2 ∧ Sourced Rehearsal.host final := by
  obtain ⟨⟨history, store⟩, same⟩ := Option.isSome_iff_exists.mp Rehearsal.served_plays
  have shape : played Rehearsal.served = (history, store) := by
    unfold played
    rw [same]
    rfl
  have counted : (match processDue "worker" Rehearsal.serviceCall (played Rehearsal.served).2 with
    | .ok (_, response, _) => decide (response.completed = 2)
    | .error _ => false) = true := by decide +kernel
  rw [shape] at counted ⊢
  cases ran : processDue "worker" Rehearsal.serviceCall store with
  | error failure =>
    rw [ran] at counted
    cases counted
  | ok result =>
    obtain ⟨calls, response, final⟩ := result
    rw [ran] at counted
    refine ⟨calls, response, final, rfl, of_decide_eq_true counted, ?_⟩
    have run : Run history store := run_of_play .start same
    obtain ⟨quarantine, count, others, shape', before, processes, -⟩ := processes_of_processDue ran
    have later : Run (history ++ calls) final := by
      rw [shape']
      exact processes.run (by rw [before]; exact run)
    refine every_row_authorized later fun entry member => ?_
    rcases List.mem_append.mp member with early | late
    · exact issued_of_play Rehearsal.served_issued (by simp) same entry early
    · exact @Issued.of_processDue _ Rehearsal.host Rehearsal.plugin Rehearsal.bench "worker"
        Rehearsal.serviceCall store final calls response (by rfl) (by rfl) ran entry late

end OrganizationProvisioning
