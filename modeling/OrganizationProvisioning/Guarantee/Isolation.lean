/-
**Actors are isolated.**

* `ActorCall` — the five public operations, with their actor; `SameFor` — two stores agree on the rows of the
  sagas an actor requested and on the reservations.
* `SameFor.performs` — on two reachable stores that agree for its actor, an operation answers the same and
  leaves stores that agree again.
* `unaffected` — an operation of another actor leaves the rows of the actor's sagas as they are.
* `actors_isolated` — both, with what the actor reads afterwards.
-/
import OrganizationProvisioning.Proof.Twins
import OrganizationProvisioning.Proof.Listing
import OrganizationProvisioning.Run.Loop
import OrganizationProvisioning.Run.Starts
import OrganizationProvisioning.Run.Script
import OrganizationProvisioning.Saga.Measure
import OrganizationProvisioning.Saga.Selections

namespace OrganizationProvisioning

open Relational Transactional

/-! ### The public operations -/

/-- A public operation, with the arguments its handler passes. -/
inductive ActorCall
  | start (now : Timestamp) (ids : StartIds) (input : StartInput)
  | get (provisioningId : Uuid) (actor : String)
  | list (filters : ListFilters)
  | retry (now : Timestamp) (activityId : Uuid) (input : RetryInput)
  | requestCleanup (now : Timestamp) (effectId : Nat → Uuid) (activityId : Uuid) (input : CleanupInput)

inductive ActorReply
  | view (response : ProvisioningView)
  | found (response : Option ProvisioningView)
  | listed (items : List ProvisioningListItem)

namespace ActorCall

/-- The actor who performs the operation. -/
def actor : ActorCall → String
  | start _ _ input => input.actor
  | get _ actor => actor
  | list filters => filters.actor
  | retry _ _ input => input.actor
  | requestCleanup _ _ _ input => input.actor

/-- The operation on a store: its reply and the store it leaves, or its error. -/
def perform : ActorCall → Store → Except Abort (ActorReply × Store)
  | start now ids input, store => (alone (OrganizationProvisioning.start now ids input) store).map
      fun answered => (.view answered.1, answered.2)
  | get provisioningId actor, store => (alone (OrganizationProvisioning.get provisioningId actor) store).map
      fun answered => (.found answered.1, answered.2)
  | list filters, store => (OrganizationProvisioning.list filters store).map
      fun items => (.listed items, store)
  | retry now activityId input, store =>
      (alone (OrganizationProvisioning.retry now activityId input) store).map
        fun answered => (.view answered.1, answered.2)
  | requestCleanup now effectId activityId input, store =>
      (alone (OrganizationProvisioning.requestCleanup now effectId activityId input) store).map
        fun answered => (.view answered.1, answered.2)

/-- The UUIDs the operation generates are new. -/
def Fresh (store : Store) : ActorCall → Prop
  | start _ ids input => ids.Fresh store input
  | get _ _ | list _ => True
  | retry _ activityId _ => store.activity.find activityId = none
  | requestCleanup _ effectId activityId input =>
    FreshRevokes store input.provisioningId effectId ∧ store.activity.find activityId = none

/-- The operation only reads. -/
def reads : ActorCall → Bool
  | get _ _ | list _ => true
  | _ => false

end ActorCall

/-! ### Agreement -/

/-- The actor requested the saga. -/
def Requested (actor : String) (store : Store) (id : Uuid) : Prop :=
  ∃ row, store.saga id = some row ∧ row.requestedBy = actor

/-- **Two stores agree on the rows of the sagas an actor requested and on the reservations.** -/
structure SameFor (actor : String) (one two : Store) : Prop where
  sagas : ∀ row, row.requestedBy = actor → (row ∈ one.sagas.rows ↔ row ∈ two.sagas.rows)
  effects : ∀ effect, Requested actor one effect.provisioningId →
    (effect ∈ one.effects.rows ↔ effect ∈ two.effects.rows)
  activity : ∀ note, Requested actor one note.provisioningId →
    (note ∈ one.activity.rows ↔ note ∈ two.activity.rows)
  mutations : ∀ row, row ∈ one.mutations.rows ↔ row ∈ two.mutations.rows

/-- Two stores answer an operation alike: with one reply and stores that agree, or with one error. -/
def PerformsAlike (actor : String) (call : ActorCall) (one two : Store) : Prop :=
  (∃ reply final final', call.perform one = .ok (reply, final) ∧
    call.perform two = .ok (reply, final') ∧ SameFor actor final final') ∨
  ∃ error, call.perform one = .error error ∧ call.perform two = .error error

section Agreement

variable {actor : String} {one two : Store} {id : Uuid}

theorem SameFor.requested (same : SameFor actor one two) :
    Requested actor one id ↔ Requested actor two id := by
  constructor
  · rintro ⟨row, found, owner⟩
    obtain ⟨member, rfl⟩ := Store.saga_found.mp found
    exact ⟨row, Store.saga_found.mpr ⟨(same.sagas row owner).mp member, rfl⟩, owner⟩
  · rintro ⟨row, found, owner⟩
    obtain ⟨member, rfl⟩ := Store.saga_found.mp found
    exact ⟨row, Store.saga_found.mpr ⟨(same.sagas row owner).mpr member, rfl⟩, owner⟩

theorem SameFor.mutation (same : SameFor actor one two) (caller key : String) :
    one.mutation caller key = two.mutation caller key := by
  refine Option.ext fun row => ?_
  rw [Store.mutation_found, Store.mutation_found, same.mutations]

theorem mem_effects_of {effect : EffectRow} :
    effect ∈ one.effectsOf id ↔ effect ∈ one.effects.rows ∧ effect.provisioningId = id := by
  unfold Store.effectsOf
  rw [List.mem_filter, decide_eq_true_eq]

theorem mem_activity_of {note : ActivityRow} :
    note ∈ one.activityOf id ↔ note ∈ one.activity.rows ∧ note.provisioningId = id := by
  unfold Store.activityOf
  rw [List.mem_filter, decide_eq_true_eq]

theorem SameFor.mem_effectsOf (same : SameFor actor one two) (requested : Requested actor one id)
    (effect : EffectRow) : effect ∈ one.effectsOf id ↔ effect ∈ two.effectsOf id := by
  rw [mem_effects_of, mem_effects_of]
  refine and_congr_left fun owner => same.effects effect ?_
  rw [owner]
  exact requested

theorem SameFor.mem_activityOf (same : SameFor actor one two) (requested : Requested actor one id)
    (note : ActivityRow) : note ∈ one.activityOf id ↔ note ∈ two.activityOf id := by
  rw [mem_activity_of, mem_activity_of]
  refine and_congr_left fun owner => same.activity note ?_
  rw [owner]
  exact requested

/-- Two effects each before the other have one id. -/
theorem phaseOrder_antisymm {first second : EffectRow} (before : phaseOrder first second = true)
    (after : phaseOrder second first = true) : first.effectId = second.effectId := by
  unfold phaseOrder at before after
  rw [decide_eq_true_eq] at before after
  grind

/-- **A saga the actor requested is the same in both stores.** -/
theorem SameFor.agrees {history history' : List Committed} (same : SameFor actor one two)
    (run : Run history one) (run' : Run history' two) (requested : Requested actor one id) :
    AgreesOn id one two := by
  obtain ⟨row, found, owner⟩ := requested
  have requested : Requested actor one id := ⟨row, found, owner⟩
  obtain ⟨member, rfl⟩ := Store.saga_found.mp found
  have found' : two.saga row.provisioningId = some row :=
    Store.saga_found.mpr ⟨(same.sagas row owner).mp member, rfl⟩
  obtain ⟨saga, -, shows, coherent⟩ := run.shows found
  obtain ⟨saga', -, shows', coherent'⟩ := run'.shows found'
  refine ⟨found.trans found'.symm, ?_, ?_, same.mutation⟩
  · have perm : (one.effectsOf row.provisioningId).Perm (two.effectsOf row.provisioningId) :=
      (List.perm_ext_iff_of_nodup (one.effectsOf_nodup _).of_map (two.effectsOf_nodup _).of_map).mpr
        (same.mem_effectsOf requested)
    refine List.Perm.eq_of_pairwise (fun first second inside inside' before after => ?_)
      (shows.effects ▸ coherent.effects_sorted) (shows'.effects ▸ coherent'.effects_sorted) perm
    have there := (mem_effects_of.mp inside').1
    exact Table.eq_of_key ((mem_effects_of.mp ((same.mem_effectsOf requested first).mp inside)).1) there
      (phaseOrder_antisymm before after)
  · have perm : (one.activityOf row.provisioningId).Perm (two.activityOf row.provisioningId) :=
      (List.perm_ext_iff_of_nodup (one.activity.unique.of_map.filter _)
        (two.activity.unique.of_map.filter _)).mpr (same.mem_activityOf requested)
    refine List.Perm.eq_of_pairwise (fun first second _ _ before after => ?_)
      (shows.activity ▸ coherent.activity_sorted) (shows'.activity ▸ coherent'.activity_sorted) perm
    exact absurd after (lt_asymm before)

/-- Rows that agree saga by saga agree. -/
theorem sameFor_of_agrees (agrees : ∀ id, Requested actor one id ∨ Requested actor two id → AgreesOn id one two)
    (mutations : ∀ caller key, one.mutation caller key = two.mutation caller key) :
    SameFor actor one two := by
  refine ⟨fun row owner => ?_, fun effect requested => ?_, fun note requested => ?_, fun row => ?_⟩
  · constructor
    · intro member
      have found : one.saga row.provisioningId = some row := Table.find_of_mem member
      rw [(agrees _ (Or.inl ⟨row, found, owner⟩)).saga] at found
      exact (Store.saga_found.mp found).1
    · intro member
      have found : two.saga row.provisioningId = some row := Table.find_of_mem member
      rw [← (agrees _ (Or.inr ⟨row, found, owner⟩)).saga] at found
      exact (Store.saga_found.mp found).1
  · have same := (agrees _ (Or.inl requested)).effects
    rw [← and_iff_left (a := effect ∈ one.effects.rows) (rfl : effect.provisioningId = _), ← mem_effects_of,
      same, mem_effects_of, and_iff_left rfl]
  · have same := (agrees _ (Or.inl requested)).activity
    rw [← and_iff_left (a := note ∈ one.activity.rows) (rfl : note.provisioningId = _), ← mem_activity_of,
      same, mem_activity_of, and_iff_left rfl]
  · have same := mutations row.callerInstance row.idempotencyKey
    constructor
    · intro member
      have found : one.mutation row.callerInstance row.idempotencyKey = some row :=
        Store.mutation_found.mpr ⟨member, rfl, rfl⟩
      rw [same] at found
      exact (Store.mutation_found.mp found).1
    · intro member
      have found : two.mutation row.callerInstance row.idempotencyKey = some row :=
        Store.mutation_found.mpr ⟨member, rfl, rfl⟩
      rw [← same] at found
      exact (Store.mutation_found.mp found).1

end Agreement

/-! ### What an actor reads -/

/-- The rows of every saga the actor requested, in one store or the other, are the same in both. -/
def Sees (actor : String) (one two : Store) : Prop :=
  ∀ id, Requested actor one id ∨ Requested actor two id → Untouched id one two

section Reads

variable {actor : String} {one two : Store}

theorem SameFor.sees {history history' : List Committed} (same : SameFor actor one two)
    (run : Run history one) (run' : Run history' two) : Sees actor one two := by
  intro id requested
  have agrees := same.agrees run run' (requested.elim (fun here => here) same.requested.mpr)
  exact ⟨agrees.saga.symm, agrees.effects.symm, agrees.activity.symm⟩

/-- **`get` alone** reads the row and the steps of a saga its actor requested. -/
theorem alone_get (id : Uuid) (store : Store) : alone (get id actor) store =
    match (store.saga id).filter fun row => row.requestedBy = actor with
    | none => .ok (none, store)
    | some row => match renderView row (store.stepsOf id) with
      | some view => .ok (some view, store)
      | none => .error (undatedAbort (viewInstants row (store.stepsOf id))) := by
  have select : alone (exec "read provisioning saga" (.selectSaga id fun row => row.requestedBy = actor))
      store = .ok ((store.saga id).filter fun row => row.requestedBy = actor, store) :=
    postgres.run_perform (by exact Bool.false_ne_true)
  have steps : alone (exec "read provisioning steps" (.selectEffects id (fun _ => true) phaseOrder))
      store = .ok (store.stepsOf id, store) := by
    have ran := @Engine.run_perform _ _ _ _ _ postgres _ computed
      ⟨"read provisioning steps", .selectEffects id (fun _ => true) phaseOrder⟩ store
      (by exact Bool.false_ne_true)
    rw [Store.stepsOf, ← filter_all (store.effectsOf id)]
    exact ran
  unfold alone get loadView at *
  rw [Tx.bind_eq, postgres.run_bind, select]
  dsimp only [Except.bind]
  cases (store.saga id).filter fun row => decide (row.requestedBy = actor) with
  | none => rfl
  | some row =>
    show postgres.run computed (Tx.bind _ _) store = _
    rw [postgres.run_bind, steps]
    dsimp only [Except.bind]
    cases renderView row (store.stepsOf id) with
    | none => rfl
    | some view => rfl

theorem filter_requested {id : Uuid} {store : Store} (unrequested : ¬ Requested actor store id) :
    ((store.saga id).filter fun row => decide (row.requestedBy = actor)) = none := by
  rw [Option.filter_eq_none_iff]
  intro row found owner
  exact unrequested ⟨row, found, of_decide_eq_true owner⟩

/-- The rows of a list are those of the sagas its actor requested. -/
theorem Sees.all_eq {filters : ListFilters} (sees : Sees filters.actor one two) :
    filters.all two = filters.all one := by
  have members : ∀ row, row ∈ filters.all two ↔ row ∈ filters.all one := by
    intro row
    rw [mem_all, mem_all]
    refine and_congr_left fun chosen => ?_
    have owner : row.requestedBy = filters.actor :=
      of_decide_eq_true (Bool.and_eq_true_iff.mp chosen.1).1
    constructor
    · intro member
      have found : two.saga row.provisioningId = some row := Table.find_of_mem member
      rw [(sees _ (Or.inr ⟨row, found, owner⟩)).saga] at found
      exact (Store.saga_found.mp found).1
    · intro member
      have found : one.saga row.provisioningId = some row := Table.find_of_mem member
      rw [← (sees _ (Or.inl ⟨row, found, owner⟩)).saga] at found
      exact (Store.saga_found.mp found).1
  have sorted := List.pairwise_map.mp (@all_sorted filters two)
  have sorted' := List.pairwise_map.mp (@all_sorted filters one)
  have distinct : (filters.all two).Nodup :=
    sorted.imp fun less same => absurd (congrArg SagaRow.listKey same) (ne_of_gt less)
  have distinct' : (filters.all one).Nodup :=
    sorted'.imp fun less same => absurd (congrArg SagaRow.listKey same) (ne_of_gt less)
  refine List.Perm.eq_of_pairwise (fun first second _ _ before after => ?_) sorted sorted'
    ((List.perm_ext_iff_of_nodup distinct distinct').mpr members)
  exact absurd after (lt_asymm before)

/-- **An actor who sees the same rows reads the same.** -/
theorem Sees.reads (sees : Sees actor one two) {call : ActorCall} (reads : call.reads = true)
    (owner : call.actor = actor) :
    (call.perform two).map Prod.fst = (call.perform one).map Prod.fst := by
  subst owner
  cases call with
  | get id actor =>
    simp only [ActorCall.perform, alone_get]
    by_cases requested : Requested actor one id ∨ Requested actor two id
    · have same := sees id requested
      unfold Store.stepsOf
      rw [same.saga, same.effects]
      cases (one.saga id).filter fun row => decide (row.requestedBy = actor) with
      | none => rfl
      | some row =>
        dsimp only
        cases renderView row (orderBy phaseOrder (one.effectsOf id)) with
        | none => rfl
        | some view => rfl
    · rw [filter_requested fun there => requested (Or.inr there),
        filter_requested fun here => requested (Or.inl here)]
      rfl
  | list filters =>
    have same : list filters two = list filters one := by
      unfold list
      rw [show filters.rows two = filters.rows one from congrArg (List.take _) sees.all_eq]
    simp only [ActorCall.perform, same]
    cases list filters one with
    | error error => rfl
    | ok items => rfl
  | start | retry | requestCleanup => cases reads

end Reads

/-! ### What an operation writes -/

section Writes

variable {history history' : List Committed} {one two store final final' : Store} {actor : String}
  {call : ActorCall} {reply : ActorReply}

/-- The call that commits, for an operation that writes. -/
def ActorCall.event : ActorCall → Option Event
  | .start now ids input => some (.start now ids input)
  | .retry now activityId input => some (.retry now activityId input)
  | .requestCleanup now effectId activityId input => some (.requestCleanup now effectId activityId input)
  | .get _ _ | .list _ => none

/-- The saga an operation names. -/
def ActorCall.saga : ActorCall → Option Uuid
  | .start _ _ input => some input.provisioningId
  | .retry _ _ input => some input.provisioningId
  | .requestCleanup _ _ _ input => some input.provisioningId
  | .get provisioningId _ => some provisioningId
  | .list _ => none

theorem of_mapped {ε α β : Type} {found : Except ε α} {change : α → β} {value : β}
    (mapped : found.map change = .ok value) : ∃ old, found = .ok old ∧ change old = value := by
  cases found with
  | error error => cases mapped
  | ok old =>
    cases mapped
    exact ⟨old, rfl, rfl⟩

/-- A transaction alone is a commit of the store. -/
theorem Run.performed (run : Run history store) (event : Event) {program : Transaction ProvisioningView}
    (called : event.program = program.bind fun response => .pure (.view response))
    (asked : legal history event) {response : ProvisioningView}
    (ran : alone program store = .ok (response, final)) :
    Run (history ++ [⟨event, store, .view response, final⟩]) final := by
  refine .commit (by exact run) asked ?_
  refine postgres.commits_of_run computed_answers ?_
  show postgres.run computed event.program store = _
  rw [called]
  exact alone_reply ran Reply.view

/-- **An operation that writes is one more entry of the run**; one that reads leaves the store. -/
theorem ActorCall.performed (run : Run history store) (ran : call.perform store = .ok (reply, final)) :
    (call.event = none ∧ final = store) ∨ ∃ event response, call.event = some event ∧
      Run (history ++ [⟨event, store, .view response, final⟩]) final := by
  cases call with
  | start now ids input =>
    obtain ⟨pair, answered, same⟩ := of_mapped ran
    cases same
    exact Or.inr ⟨_, pair.1, rfl, run.performed (.start now ids input) rfl trivial answered⟩
  | retry now activityId input =>
    obtain ⟨pair, answered, same⟩ := of_mapped ran
    cases same
    exact Or.inr ⟨_, pair.1, rfl, run.performed (.retry now activityId input) rfl trivial answered⟩
  | requestCleanup now effectId activityId input =>
    obtain ⟨pair, answered, same⟩ := of_mapped ran
    cases same
    exact Or.inr ⟨_, pair.1, rfl,
      run.performed (.requestCleanup now effectId activityId input) rfl trivial answered⟩
  | get id actor =>
    obtain ⟨pair, answered, same⟩ := of_mapped ran
    cases same
    rw [alone_get] at answered
    split at answered
    · cases answered
      exact Or.inl ⟨rfl, rfl⟩
    · split at answered
      · cases answered
        exact Or.inl ⟨rfl, rfl⟩
      · cases answered
  | list filters =>
    obtain ⟨items, -, same⟩ := of_mapped ran
    cases same
    exact Or.inl ⟨rfl, rfl⟩

/-- **What an operation touches, it names**, and its actor requested it. -/
theorem ActorCall.touches {entry : Committed} (run : Run (history ++ [entry]) final)
    (called : call.event = some entry.event) (id : Uuid) : Untouched id entry.before entry.after ∨
      call.saga = some id ∧ (∀ row, entry.before.saga id = some row → row.requestedBy = call.actor) ∧
        ∀ row, entry.after.saga id = some row → row.requestedBy = call.actor := by
  cases run.fate id with
  | still untouched => exact Or.inl untouched
  | @began now ids input response saga asked _ names absent begins shows _ _ =>
    rw [asked] at called
    cases call with
    | start =>
      cases called
      refine Or.inr ⟨congrArg some names, fun row found => ?_, fun row found => ?_⟩
      · rw [absent] at found
        cases found
      · rw [shows.row] at found
        cases found
        rw [begins.row_eq]
        rfl
    | get | list | retry | requestCleanup => cases called
  | @moved now transition saga saga' shown coherent step shows cause =>
    have kept : saga'.row.requestedBy = saga.row.requestedBy :=
      congrArg (fun intent => intent.requestedBy) step.intent
    have owners : saga.row.requestedBy = call.actor →
        (∀ row, entry.before.saga id = some row → row.requestedBy = call.actor) ∧
          ∀ row, entry.after.saga id = some row → row.requestedBy = call.actor := by
      intro owner
      refine ⟨fun row found => ?_, fun row found => ?_⟩
      · rw [shown.row] at found
        cases found
        exact owner
      · rw [shows.row] at found
        cases found
        exact kept.trans owner
    cases cause with
    | claim asked | finalize asked | quarantine asked =>
      rw [asked] at called
      cases call <;> cases called
    | retry asked _ names _ owner =>
      rw [asked] at called
      cases call with
      | retry =>
        cases called
        exact Or.inr ⟨congrArg some names, owners owner⟩
      | start | get | list | requestCleanup => cases called
    | cleanup asked _ names owner =>
      rw [asked] at called
      cases call with
      | requestCleanup =>
        cases called
        exact Or.inr ⟨congrArg some names, owners owner⟩
      | start | get | list | retry => cases called

/-- **An operation of another actor** leaves what the actor sees. -/
theorem ActorCall.unaffected (run : Run history store) (other : actor ≠ call.actor)
    (ran : call.perform store = .ok (reply, final)) : Sees actor store final := by
  intro id requested
  rcases ActorCall.performed run ran with ⟨-, rfl⟩ | ⟨event, response, called, run'⟩
  · exact .of_eq rfl
  · rcases ActorCall.touches run' called id with untouched | ⟨-, before, after⟩
    · exact untouched
    · rcases requested with ⟨row, found, owner⟩ | ⟨row, found, owner⟩
      · exact absurd (owner.symm.trans (before row found)) other
      · exact absurd (owner.symm.trans (after row found)) other

/-- Stores that agree for an actor agree again after an operation that leaves its saga and the reservations
alike. -/
theorem SameFor.after {entry entry' : Committed} (same : SameFor call.actor entry.before entry'.before)
    (run : Run (history ++ [entry]) final) (run' : Run (history' ++ [entry']) final')
    (called : call.event = some entry.event) (called' : call.event = some entry'.event) {id : Uuid}
    (names : call.saga = some id) (agrees : AgreesOn id entry.after entry'.after) :
    SameFor call.actor entry.after entry'.after := by
  have sees := same.sees run.last.1 run'.last.1
  refine sameFor_of_agrees (fun other requested => ?_) agrees.mutations
  by_cases here : other = id
  · rw [here]
    exact agrees
  · have kept : Untouched other entry.before entry.after := by
      rcases ActorCall.touches run called other with untouched | ⟨named, -⟩
      · exact untouched
      · exact absurd (Option.some.inj (named.symm.trans names)) here
    have kept' : Untouched other entry'.before entry'.after := by
      rcases ActorCall.touches run' called' other with untouched | ⟨named, -⟩
      · exact untouched
      · exact absurd (Option.some.inj (named.symm.trans names)) here
    have before : Requested call.actor entry.before other ∨ Requested call.actor entry'.before other := by
      unfold Requested at requested ⊢
      rwa [kept.saga, kept'.saga] at requested
    have alike := sees other before
    exact ⟨kept.saga.trans (alike.saga.symm.trans kept'.saga.symm),
      kept.effects.trans (alike.effects.symm.trans kept'.effects.symm),
      kept.activity.trans (alike.activity.symm.trans kept'.activity.symm), agrees.mutations⟩

/-- **An operation whose transaction ends alike performs alike.** -/
theorem performsAlike {program : Transaction ProvisioningView} {event : Event} {id : Uuid}
    (run : Run history one) (run' : Run history' two) (same : SameFor call.actor one two)
    (called : call.event = some event) (names : call.saga = some id)
    (performs : ∀ store, call.perform store =
      (alone program store).map fun answered => (.view answered.1, answered.2))
    (sends : event.program = program.bind fun response => .pure (.view response))
    (asked : ∀ history, legal history event)
    (alike : (∃ response final final', alone program one = .ok (response, final) ∧
        alone program two = .ok (response, final') ∧ AgreesOn id final final') ∨
      ∃ error, alone program one = .error error ∧ alone program two = .error error) :
    PerformsAlike call.actor call one two := by
  rcases alike with ⟨response, final, final', ran, ran', agrees⟩ | ⟨error, failed, failed'⟩
  · have entry := run.performed event sends (asked _) ran
    have entry' := run'.performed event sends (asked _) ran'
    refine Or.inl ⟨.view response, final, final', ?_, ?_, ?_⟩
    · rw [performs, ran]
      rfl
    · rw [performs, ran']
      rfl
    · exact SameFor.after same entry entry' called called names agrees
  · refine Or.inr ⟨error, ?_, ?_⟩
    · rw [performs, failed]
      rfl
    · rw [performs, failed']
      rfl

/-- A call on a saga its actor did not request finds none. -/
theorem alone_lockSaga {α : Type} {id : Uuid} {rest : SagaRow → Transaction α}
    (unrequested : ¬ Requested actor store id) :
    alone (Tx.bind (lockSaga id actor) fun locked =>
      Tx.bind (expect (.domain .provisioningNotFound) locked) rest) store =
        .error (.domain .provisioningNotFound) := by
  have locks : alone (lockSaga id actor) store =
      .ok ((store.saga id).filter fun row => row.requestedBy = actor, store) :=
    postgres.run_perform (by exact Bool.false_ne_true)
  unfold alone at locks ⊢
  rw [postgres.run_bind, locks, filter_requested unrequested]
  rfl

/-- Where no other saga has a row under the new ids, the stores are twins in the scope of a call. -/
theorem twins_callScope {id activityId : Uuid} {effects : Uuid → Prop} (run : Run history one)
    (run' : Run history' two) (agrees : AgreesOn id one two)
    (fresh : ∀ effectId, effects effectId → one.effect effectId = none ∧ two.effect effectId = none)
    (note : one.activity.find activityId = none) (note' : two.activity.find activityId = none) :
    Twins (callScope id effects activityId (one.effectsOf id)) one two := by
  refine ⟨agrees.saga, agrees.effects, agrees.activity, agrees.mutations, fun _ mine => mine,
    fun _ _ _ _ impossible => impossible.elim, ?_, ?_⟩
  · refine ⟨fun effect member new => ?_, fun other member new => ?_, fun effect member => run.keyed member⟩
    · exact absurd rfl (Table.find_eq_none.mp (fresh _ new).1 effect member)
    · exact absurd new (Table.find_eq_none.mp note other member)
  · refine ⟨fun effect member new => ?_, fun other member new => ?_, fun effect member => run'.keyed member⟩
    · exact absurd rfl (Table.find_eq_none.mp (fresh _ new).2 effect member)
    · exact absurd new (Table.find_eq_none.mp note' other member)

theorem startScope_apart {ids : StartIds} {input : StartInput} (run : Run history store)
    (fresh : ids.Fresh store input) : Apart (startScope ids input) store := by
  refine ⟨fun effect member new => ?_, fun note member new => ?_, fun effect member => run.keyed member⟩
  · rcases new with same | ⟨index, small, same⟩
    · exact absurd same (Table.find_eq_none.mp fresh.create effect member)
    · exact absurd same (Table.find_eq_none.mp (fresh.grants index small) effect member)
  · exact absurd new (Table.find_eq_none.mp fresh.activity note member)

/-- An operation that reads leaves the store. -/
theorem ActorCall.keeps (run : Run history store) (reads : call.event = none) :
    ∀ reply final, call.perform store = .ok (reply, final) → final = store := by
  intro reply final ran
  rcases ActorCall.performed run ran with ⟨-, kept⟩ | ⟨event, _, called, -⟩
  · exact kept
  · rw [reads] at called
    cases called

/-- Reading the same from stores that agree, and leaving them. -/
theorem PerformsAlike.of_reads (same : SameFor actor one two)
    (reads : (call.perform two).map Prod.fst = (call.perform one).map Prod.fst)
    (keeps : ∀ reply final, call.perform one = .ok (reply, final) → final = one)
    (keeps' : ∀ reply final, call.perform two = .ok (reply, final) → final = two) :
    PerformsAlike actor call one two := by
  cases here : call.perform one with
  | error error =>
    rw [here] at reads
    cases there : call.perform two with
    | error other =>
      rw [there] at reads
      cases reads
      exact Or.inr ⟨error, here, there⟩
    | ok pair =>
      rw [there] at reads
      cases reads
  | ok pair =>
    rw [here] at reads
    cases there : call.perform two with
    | error other =>
      rw [there] at reads
      cases reads
    | ok pair' =>
      rw [there] at reads
      have replies : pair'.1 = pair.1 := Except.ok.inj reads
      obtain ⟨reply, final⟩ := pair
      obtain ⟨reply', final'⟩ := pair'
      cases replies
      refine Or.inl ⟨_, final, final', here, there, ?_⟩
      rwa [keeps _ _ here, keeps' _ _ there]

/-- **An operation performs alike on stores that agree for its actor.** -/
theorem SameFor.performs (run : Run history one) (run' : Run history' two)
    (same : SameFor call.actor one two) (fresh : call.Fresh one) (fresh' : call.Fresh two) :
    PerformsAlike call.actor call one two := by
  cases call with
  | start now ids input =>
    refine @performsAlike _ _ one two _ _ (.start now ids input) _ run run' same rfl rfl (fun _ => rfl) rfl
      (fun _ => trivial) ?_
    have owned := run.holds.owned
    have owned' := run'.holds.owned
    refine alike_start one two ⟨fresh.saga.trans fresh'.saga.symm, ?_, ?_, same.mutation,
      fun _ impossible => impossible.elim, fun _ _ _ _ impossible => impossible.elim,
      startScope_apart run fresh, startScope_apart run' fresh'⟩
    · exact (owned.effectsOf_nil fresh.saga).trans (owned'.effectsOf_nil fresh'.saga).symm
    · exact (owned.activityOf_nil fresh.saga).trans (owned'.activityOf_nil fresh'.saga).symm
  | get id actor =>
    exact .of_reads same ((same.sees run run').reads rfl rfl) (ActorCall.keeps run rfl)
      (ActorCall.keeps run' rfl)
  | list filters =>
    exact .of_reads same ((same.sees run run').reads rfl rfl) (ActorCall.keeps run rfl)
      (ActorCall.keeps run' rfl)
  | retry now activityId input =>
    refine @performsAlike _ _ one two _ _ (.retry now activityId input) _ run run' same rfl rfl
      (fun _ => rfl) rfl (fun _ => trivial) ?_
    by_cases requested : Requested input.actor one input.provisioningId
    · have twins := @twins_callScope _ _ one two _ activityId (fun _ => False) run run'
        (same.agrees run run' requested) (fun _ impossible => impossible.elim) fresh fresh'
      exact alike_retry one two ⟨twins, rfl⟩
    · refine Or.inr ⟨_, alone_lockSaga requested, alone_lockSaga ?_⟩
      exact fun there => requested (same.requested.mpr there)
  | requestCleanup now effectId activityId input =>
    refine @performsAlike _ _ one two _ _ (.requestCleanup now effectId activityId input) _ run run' same
      rfl rfl (fun _ => rfl) rfl (fun _ => trivial) ?_
    by_cases requested : Requested input.actor one input.provisioningId
    · have agrees := same.agrees run run' requested
      have twins := @twins_callScope _ _ one two _ activityId (fun id => ∃ index <
          ((one.effectsOf input.provisioningId).filter granted).length, effectId index = id) run run' agrees
        ?_ fresh.2 fresh'.2
      · exact alike_requestCleanup (fun index small => ⟨index, small, rfl⟩)
          (fun effect member => (mem_effects_of.mp member).2) one two ⟨twins, rfl⟩
      · rintro _ ⟨index, small, rfl⟩
        exact ⟨fresh.1.absent index small, fresh'.1.absent index (agrees.effects ▸ small)⟩
    · refine Or.inr ⟨_, alone_lockSaga requested, alone_lockSaga ?_⟩
      exact fun there => requested (same.requested.mpr there)

end Writes

/-- **Actors are isolated.** -/
theorem actors_isolated {history : List Committed} {one : Store} (run : Run history one)
    (call : ActorCall) :
    (∀ history' two, Run history' two → SameFor call.actor one two → call.Fresh one → call.Fresh two →
      PerformsAlike call.actor call one two) ∧
    ∀ actor reply final, actor ≠ call.actor → call.perform one = .ok (reply, final) →
      (∀ id, Requested actor one id → Untouched id one final) ∧
      ∀ later : ActorCall, later.reads = true → later.actor = actor →
        (later.perform final).map Prod.fst = (later.perform one).map Prod.fst := by
  refine ⟨fun history' two run' same fresh fresh' => same.performs run run' fresh fresh', ?_⟩
  intro actor reply final other ran
  have sees := ActorCall.unaffected run other ran
  exact ⟨fun id requested => sees id (Or.inl requested), fun later reads owner => sees.reads reads owner⟩

/-! ### Two tenants -/

/-- A saga whose row a call leaves is not touched by it. -/
theorem Fate.untouched {entry : Committed} {id : Uuid} (fate : Fate entry id)
    (kept : entry.after.saga id = entry.before.saga id) : Untouched id entry.before entry.after := by
  cases fate with
  | still untouched => exact untouched
  | began _ _ _ absent _ shows _ _ =>
    rw [shows.row, absent] at kept
    cases kept
  | moved shown _ step shows _ =>
    have revised := step.revised
    rw [shows.row, shown.row, Option.some.injEq] at kept
    rw [kept] at revised
    omega

/-- A call of a worker leaves two stores that agree for an actor whose only saga it leaves. -/
theorem sameFor_worked {history : List Committed} {entry : Committed} {store : Store} {actor : String}
    {id : Uuid} (run : Run (history ++ [entry]) store) (silent : entry.event.keyed = none)
    (only : ∀ other, Requested actor entry.before other ∨ Requested actor entry.after other → other = id)
    (kept : entry.after.saga id = entry.before.saga id) : SameFor actor entry.before entry.after := by
  have mutations := run.did.2.unkeyed silent
  have same : ∀ caller key, entry.before.mutation caller key = entry.after.mutation caller key := by
    intro caller key
    unfold Store.mutation
    rw [mutations]
  refine sameFor_of_agrees (fun other requested => ?_) same
  rw [only other requested]
  have untouched := (run.fate id).untouched kept
  exact ⟨untouched.saga.symm, untouched.effects.symm, untouched.activity.symm, same⟩

/-- The request of a second tenant of the same caller. -/
def tenantInput (key : String) (id : Uuid) : StartInput :=
  { Rehearsal.input with actor := "tenant", idempotencyKey := key, provisioningId := id, grants := [] }

/-- Two tenants, the first one's saga started first. -/
def tenantScript : List Instruction := [
  .call (.start 0 Rehearsal.ids Rehearsal.input),
  .call (.start 1 ⟨40, fun _ => 41, 42⟩ (tenantInput "tenant" 2))]

theorem tenant_run : Run (played tenantScript).1 (played tenantScript).2 :=
  run_of_played (by decide +kernel)

instance (actor : String) (store : Store) (id : Uuid) : Decidable (Requested actor store id) :=
  decidable_of_iff ((store.saga id).any fun row => row.requestedBy = actor) (by
    rw [Option.any_eq_true]
    simp [Requested])

/-- The saga of the second tenant is its only one, and the ids 3, 50 and 52 are new. -/
def TenantStore (store : Store) : Prop :=
  (∀ row ∈ store.sagas.rows, row.requestedBy = "tenant" → row.provisioningId = 2) ∧
    store.saga 3 = none ∧ (store.effect 50).isNone ∧ (store.activity.find 52).isNone

instance (store : Store) : Decidable (TenantStore store) := inferInstanceAs (Decidable (_ ∧ _ ∧ _ ∧ _))

theorem TenantStore.only {store : Store} (tenant : TenantStore store) {id : Uuid}
    (requested : Requested "tenant" store id) : id = 2 := by
  obtain ⟨row, found, owner⟩ := requested
  obtain ⟨member, rfl⟩ := Store.saga_found.mp found
  exact tenant.1 row member owner

theorem TenantStore.fresh {store : Store} (tenant : TenantStore store) :
    (ActorCall.start 3 ⟨50, fun _ => 51, 52⟩ (tenantInput "again" 3)).Fresh store := by
  obtain ⟨-, saga, effect, note⟩ := tenant
  exact ⟨saga, Option.isNone_iff_eq_none.mp effect, fun _ small => absurd small (Nat.not_lt_zero _),
    fun _ small => absurd small (Nat.not_lt_zero _),
    fun _ _ _ small => absurd small (Nat.not_lt_zero _), Option.isNone_iff_eq_none.mp note⟩

/-- A start of the second tenant is the same whether or not a worker has claimed the first one's effect,
and leaves the first one's rows. -/
theorem actors_isolated_rehearsed : ∃ record worked,
    alone (claimNext 2 2 "worker" 101 21 60) (played tenantScript).2 = .ok (some record, worked) ∧
    PerformsAlike "tenant" (.start 3 ⟨50, fun _ => 51, 52⟩ (tenantInput "again" 3))
      (played tenantScript).2 worked ∧
    ∀ reply final, (ActorCall.start 3 ⟨50, fun _ => 51, 52⟩ (tenantInput "again" 3)).perform
      (played tenantScript).2 = .ok (reply, final) → Untouched 1 (played tenantScript).2 final := by
  obtain ⟨alike, spares⟩ := actors_isolated tenant_run
    (.start 3 ⟨50, fun _ => 51, 52⟩ (tenantInput "again" 3))
  have tenant : TenantStore (played tenantScript).2 := by decide +kernel
  have claims : (alone (claimNext 2 2 "worker" 101 21 60) (played tenantScript).2).toOption.any
      (fun pair => pair.1.isSome && decide (TenantStore pair.2 ∧
        pair.2.saga 2 = (played tenantScript).2.saga 2)) = true := by decide +kernel
  obtain ⟨⟨found, worked⟩, same, holds⟩ := (Option.any_eq_true ..).mp claims
  obtain ⟨gave, holds⟩ := Bool.and_eq_true_iff.mp holds
  obtain ⟨record, rfl⟩ := Option.isSome_iff_exists.mp gave
  obtain ⟨tenant', kept⟩ := of_decide_eq_true holds
  have ran : alone (claimNext 2 2 "worker" 101 21 60) (played tenantScript).2 =
      .ok (some record, worked) := ok_of_toOption same
  have run' : Run ((played tenantScript).1 ++ [⟨.claimNext 2 2 "worker" 101 21 60,
      (played tenantScript).2, .claimed (some record), worked⟩]) worked :=
    .commit tenant_run trivial
      (postgres.commits_of_run computed_answers (alone_reply ran Reply.claimed))
  refine ⟨record, worked, ran, alike _ _ run' ?_ tenant.fresh tenant'.fresh,
    fun reply final ran => (spares "operator" reply final (by decide) ran).1 1 (by decide +kernel)⟩
  refine sameFor_worked run' rfl (fun other requested => ?_) kept
  exact requested.elim tenant.only tenant'.only

end OrganizationProvisioning
