/-
**Concurrent runs are serial.**

* `readCommitted_sound` — what a statement sees beside others is an answer of PostgreSQL.
* `sees_of_meets` — nor does a scan that passes over no held saga see anything else.
* `lawful` — every event is guarded by its locks on every store of a run.
* `Concurrent` — the configurations of the clients; `Concurrent.run` — what has committed is a run;
  `Concurrent.failed` — a transaction that failed may fail on the store of a prefix.
* `leads_plays` — a client that is left alone plays a script; `reached_failing` — and rolls a call back after
  it.
-/
import OrganizationProvisioning.Proof.Guarded
import OrganizationProvisioning.Run.Invariant
import OrganizationProvisioning.Run.Script

namespace OrganizationProvisioning

open Relational Transactional

/-- What a statement sees beside others is an answer of PostgreSQL. -/
theorem readCommitted_sound {statement : Statement} {snapshot view : Store}
    {answer : statement.Answer} (seen : readCommitted.sees statement snapshot view answer) :
    postgres.answers statement view answer := by
  obtain ⟨operation, sql⟩ := statement
  cases sql with
  | scanSagas condition =>
    intro row found
    obtain ⟨-, present, again⟩ := seen row found
    exact ⟨(Store.saga_found.mp present).1, _, again⟩
  | _ => exact seen

/-- A legal event stays legal. -/
theorem legal_stays {history : List Committed} {entry : Committed} {event : Event}
    (permitted : legal history event) : legal (history ++ [entry]) event := by
  cases event with
  | finalizeEffect now activityId effect actor outcome =>
    obtain ⟨⟨earlier, member, gave⟩, called⟩ := permitted
    exact ⟨⟨earlier, List.mem_append_left _ member, gave⟩, called⟩
  | start | retry | requestCleanup | quarantineExpired | claimNext => trivial

/-- **Every event is guarded** on every store of a run. -/
theorem guarded_event {history : List Committed} {store : Store} {event : Event}
    (run : Run history store) (permitted : legal history event) :
    rowLocks.Guards event.program ∅ store fun _ _ _ => True := by
  cases event with
  | start => exact .andThen guarded_start fun _ _ _ _ _ => trivial
  | retry => exact .andThen guarded_retry fun _ _ _ _ _ => trivial
  | requestCleanup => exact .andThen guarded_requestCleanup fun _ _ _ _ _ => trivial
  | quarantineExpired => exact .andThen guarded_quarantineExpired fun _ _ _ _ _ => trivial
  | claimNext => exact .andThen guarded_claimNext fun _ _ _ _ _ => trivial
  | finalizeEffect now activityId effect actor outcome =>
    obtain ⟨⟨entry, member, gave⟩, -⟩ := permitted
    obtain ⟨row, found, owner, -⟩ := run.holds.named entry member effect gave
    have known : ∃ row ∈ store.effectsOf effect.provisioningId, row.effectId = effect.effectId := by
      have same := (Store.effect_found.mp found).2
      exact ⟨row, Store.mem_effectsOf.mpr ⟨by rw [same]; exact found, owner⟩, same⟩
    exact .andThen (guarded_finalizeEffect known) fun _ _ _ _ _ => trivial

/-- **The system is lawful.** -/
theorem lawful : @Lawful _ _ _ _ _ _ _ _ provisioning readCommitted rowLocks where
  stays := legal_stays
  guards := guarded_event
  sound _ _ _ _ _ _ seen := readCommitted_sound seen

/-! ### Concurrent runs -/

section Reached

variable {Client : Type} [DecidableEq Client] {config : Clients Client}

/-- **What clients reach**, statement by statement. -/
def Concurrent (config : Clients Client) : Prop := Reached provisioning readCommitted config

/-- **What has committed is a run.** -/
theorem Concurrent.run (concurrent : Concurrent config) : Run config.history config.store :=
  (Reached.refines concurrent lawful).serial

/-- **A transaction that failed may fail** on the store of a prefix of the run. -/
theorem Concurrent.failed (concurrent : Concurrent config)
    {failure : Failure Event Reply Store Abort} (member : failure ∈ config.failures) :
    failure.history <+: config.history ∧ ∃ store, Run failure.history store ∧
      legal failure.history failure.event ∧
      postgres.Aborts failure.event.program store failure.error :=
  (Reached.refines concurrent lawful).failures failure member

/-- A computed answer is one a statement may see. -/
theorem readCommitted_computed (statement : Statement) (store : Store) :
    readCommitted.sees statement store store (computed statement store) := by
  obtain ⟨operation, sql⟩ := statement
  cases sql with
  | scanSagas condition =>
    intro row found
    have member := List.mem_of_mem_head? (Option.mem_def.mpr found)
    rw [mem_orderBy, List.mem_filter] at member
    have present := Store.saga_found.mpr ⟨member.1, rfl⟩
    have holds := (Bool.and_eq_true_iff.mp member.2).2
    exact ⟨⟨row, present, holds⟩, present, holds⟩
  | _ => rfl

/-- What a scan meets in its queue it may see. -/
theorem sees_of_meets {statement : Statement} {snapshot view : Store} {answer : statement.Answer}
    (meets : undelayed.sees statement snapshot view answer) :
    readCommitted.sees statement snapshot view answer := by
  obtain ⟨operation, sql⟩ := statement
  cases sql with
  | scanSagas condition =>
    rintro row rfl
    have met := List.mem_of_mem_head? (Option.mem_def.mpr (show _ = some row from meets.symm))
    obtain ⟨old, queued, chosen⟩ := List.mem_filterMap.mp met
    obtain ⟨present, again⟩ := Option.filter_eq_some_iff.mp chosen
    rw [mem_orderBy, List.mem_filter] at queued
    have same := (Store.saga_found.mp present).2
    exact ⟨⟨old, Store.saga_found.mpr ⟨queued.1, same.symm⟩, by rw [same]; exact queued.2⟩,
      by rw [same]; exact present, again⟩
  | _ => exact meets

/-- A computed answer is what a statement meets. -/
theorem undelayed_computed (statement : Statement) (store : Store) :
    undelayed.sees statement store store (computed statement store) := by
  obtain ⟨operation, sql⟩ := statement
  cases sql with
  | scanSagas condition =>
    have still : ∀ queue : List SagaRow, (∀ old ∈ queue, store.saga old.provisioningId = some old ∧
        condition old (store.effectsOf old.provisioningId) = true) →
        (queue.filterMap fun old => (store.saga old.provisioningId).filter fun row =>
          condition row (store.effectsOf row.provisioningId)) = queue := by
      intro queue
      induction queue with
      | nil => exact fun _ => rfl
      | cons old queue ih =>
        intro stored
        obtain ⟨present, holds⟩ := stored old List.mem_cons_self
        rw [List.filterMap_cons, present, Option.filter_some, if_pos holds,
          ih fun other member => stored other (List.mem_cons_of_mem _ member)]
    refine congrArg List.head? (still _ fun old member => ?_).symm
    rw [mem_orderBy, List.mem_filter] at member
    exact ⟨Store.saga_found.mpr ⟨member.1, rfl⟩, member.2⟩
  | _ => rfl

instance (statement : Statement) (store : Store) :
    Decidable (provisioning.engine.refuses statement store) :=
  inferInstanceAs (Decidable (postgres.refuses statement store))

end Reached

/-! ### Clients that are left alone -/

/-- The error of a computed run. -/
def abortOf {α : Type} : Except Abort α → Option Abort
  | .ok _ => none
  | .error error => some error

theorem abortOf_some {α : Type} {result : Except Abort α} {error : Abort} :
    abortOf result = some error ↔ result = .error error := by
  cases result <;> simp [abortOf]

section Alone

variable {Client : Type} [DecidableEq Client] {config : Clients Client} {client : Client}
  {locking : Locking Statement Statement.Answer Store Lock}
  (sees : ∀ statement store, locking.sees statement store store (computed statement store))

include sees

/-- **A client that is left alone plays a script.** -/
theorem leads_plays (idle : config.sessions client = none) (others : config.Unlocked client)
    {script : List Instruction} {history' : List Committed} {store' : Store}
    (played : play script config.history config.store = some (history', store')) :
    Leads provisioning locking config { config with history := history', store := store' } := by
  induction script generalizing config with
  | nil =>
    cases played
    exact .refl
  | cons instruction script ih =>
    unfold play at played
    split at played
    · cases played
    · rename_i event asked
      split at played
      · cases played
      · rename_i reply after ran
        have first : Leads provisioning locking config { config with
            history := config.history ++ [⟨event, config.store, reply, after⟩], store := after } :=
          Leads.commits sees idle others (legal_of_eventOf asked) ran
        have rest := @ih { config with
          history := config.history ++ [⟨event, config.store, reply, after⟩], store := after }
          idle others played
        exact first.trans rest

/-- What a script makes of the empty schema, with nobody else. -/
theorem reached_of_played (client : Client) {script : List Instruction}
    (plays : (play script [] Store.initial).isSome = true) :
    Reached provisioning locking
      (⟨(played script).1, (played script).2, [], fun _ => none⟩ : Clients Client) := by
  obtain ⟨⟨history, store⟩, same⟩ := Option.isSome_iff_exists.mp plays
  have begun : Reached provisioning locking (⟨[], Store.initial, [], fun _ => none⟩ : Clients Client) :=
    .start
  have ends := begun.leads (@leads_plays Client _ _ client _ sees rfl
    (fun _ _ _ impossible => by cases impossible) script history store same)
  unfold played
  rw [same]
  exact ends

/-- The clients after a script, and one call that failed. -/
def Clients.failing (script : List Instruction) (event : Event) (error : Abort) : Clients Nat :=
  ⟨(played script).1, (played script).2, [⟨event, (played script).1, error⟩], fun _ => none⟩

/-- A call that rolls back after a script, with nobody else. -/
theorem reached_failing {script : List Instruction}
    (plays : (play script [] Store.initial).isSome = true) {event : Event}
    (permitted : legal (played script).1 event) (goes : ∀ error, event.program ≠ .abort error)
    {error : Abort} (ran : abortOf (postgres.run computed event.program (played script).2) = some error) :
    Reached provisioning locking (Clients.failing script event error) := by
  have begun : Reached provisioning locking
      (⟨(played script).1, (played script).2, [], fun _ => none⟩ : Clients Nat) :=
    reached_of_played sees 0 plays
  have nobody : (⟨(played script).1, (played script).2, [], fun _ => none⟩ : Clients Nat).Unlocked 0 :=
    fun _ _ _ impossible => by cases impossible
  have fails : Leads provisioning locking
      (⟨(played script).1, (played script).2, [], fun _ => none⟩ : Clients Nat)
      (Clients.failing script event error) :=
    Leads.fails sees rfl nobody permitted goes (abortOf_some.mp ran)
  exact begun.leads fails

end Alone

section Played

variable {Client : Type} [DecidableEq Client]

theorem concurrent_of_played {script : List Instruction}
    (plays : (play script [] Store.initial).isSome = true) (client : Client) :
    Concurrent (⟨(played script).1, (played script).2, [], fun _ => none⟩ : Clients Client) :=
  reached_of_played readCommitted_computed client plays

/-- The rehearsal, and a retry after it that expects a revision long passed. -/
theorem Rehearsal.belated : Concurrent (Clients.failing script
    (.retry 100000009 37 (retry "late" 5 .retryFailed)) (.domain .revisionConflict)) :=
  reached_failing readCommitted_computed plays (by exact trivial) (by rintro error ⟨⟩) (by decide +kernel)

end Played

end OrganizationProvisioning
