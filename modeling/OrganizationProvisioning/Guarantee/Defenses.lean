/-
**The defensive branches are unreachable.**

* `Unreachable` — what no reachable store lets happen: a local failure of a claimed effect, stored data
  that contradicts a finalization, a grant in force without its grant id, an effect of an unknown kind,
  and a reservation that is incomplete or cannot be read.
* `defenses_unreachable` — this holds in every run.
-/
import OrganizationProvisioning.Library.Admission
import OrganizationProvisioning.Run.Requests
import OrganizationProvisioning.Guarantee.Fencing

namespace OrganizationProvisioning

open Relational Transactional Worklist

/-! ### Errors a program does not end in -/

section Avoid

variable {α : Type} {store : Store} {detail : String}

/-- A program that never decides on contradicting data does not report it. -/
theorem avoids_of_leaves {detail : String} {program : Transaction α}
    (leaves : Engine.Leaves (fun error => error ≠ invalidData detail) program) :
    ¬ postgres.Aborts program store (invalidData detail) := by
  intro failed
  rcases postgres.aborts_leaves leaves failed with other | ⟨statement, same⟩
  · exact other rfl
  · cases same

theorem avoids_exec {operation : String} {sql : Sql} :
    ¬ postgres.Aborts (exec operation sql) store (invalidData detail) :=
  avoids_of_leaves (.perform _)

theorem avoids_require {condition : Bool} {otherwise : Abort}
    (other : otherwise ≠ invalidData detail) :
    ¬ postgres.Aborts (require condition otherwise) store (invalidData detail) := by
  rw [aborts_require]
  exact fun failed => other failed.2.symm

theorem avoids_expect {found : Option α} {otherwise : Abort}
    (other : otherwise ≠ invalidData detail) :
    ¬ postgres.Aborts (expect otherwise found) store (invalidData detail) := by
  rw [aborts_expect]
  exact fun failed => other failed.2.symm

theorem domain_ne {failure : DomainFailure} : Abort.domain failure ≠ invalidData detail :=
  fun impossible => by cases impossible

theorem database_ne {operation : String} :
    Abort.storage (.database operation) ≠ invalidData detail :=
  fun impossible => by cases impossible

theorem invalidData_ne {other : String} (differs : other ≠ detail) :
    invalidData other ≠ invalidData detail := by
  intro same
  cases same
  exact differs rfl

end Avoid

/-! ### Reservations -/

section Keys

variable {history : List Committed} {store : Store}

/-- A committed reservation is complete and its response decodes. -/
structure Readable (row : MutationRow) : Prop where
  status : row.status = .completed
  response : ∃ json view, row.response = some json ∧ ProvisioningView.fromJson json = some view

theorem Run.readable (run : Run history store) {caller key : String} {row : MutationRow}
    (found : store.mutation caller key = some row) : Readable row := by
  obtain ⟨entry, member, request, response, executed, -, -, holds⟩ := run.attributed found
  obtain ⟨past, rest, rfl⟩ := List.append_of_mem member
  exact ⟨holds.status_eq, _, response, holds.response_eq,
    ProvisioningView.fromJson_toJson response (run.inRange executed)⟩

/-- **Reserving a key never meets a reservation it cannot read.** -/
theorem Run.avoids_beginMutation (run : Run history store) {now : Timestamp}
    {caller key actor detail : String} {operation : Operation} {requestHash : List UInt8}
    {provisioningId : Option Uuid} :
    ¬ postgres.Aborts (beginMutation now caller key operation actor requestHash provisioningId)
      store (invalidData detail) := by
  unfold beginMutation
  refine postgres.not_aborts_bind avoids_exec fun inserted middle inserting => ?_
  cases inserted with
  | true => exact fun impossible => impossible
  | false =>
    rcases commits_insertMutation.mp inserting with ⟨impossible, -⟩ | ⟨-, -, rfl⟩
    · cases impossible
    refine postgres.not_aborts_bind avoids_exec fun found store selecting => ?_
    obtain ⟨rfl, rfl⟩ := commits_selectMutation.mp selecting
    refine postgres.not_aborts_bind (avoids_expect database_ne) fun row _ fetching => ?_
    obtain ⟨present, rfl⟩ := commits_fetchOne.mp fetching
    obtain ⟨status, json, view, response, decoded⟩ := run.readable present
    refine postgres.not_aborts_bind (avoids_require domain_ne) fun _ _ asking => ?_
    obtain ⟨-, rfl⟩ := commits_require.mp asking
    rw [status, response]
    refine postgres.not_aborts_bind ?_ fun _ _ completing => ?_
    · rw [aborts_require]
      rintro ⟨impossible, -⟩
      cases impossible
    obtain ⟨-, rfl⟩ := commits_require.mp completing
    refine postgres.not_aborts_bind ?_ fun value _ answering => ?_
    · rw [aborts_expect]
      rintro ⟨impossible, -⟩
      cases impossible
    obtain ⟨same, rfl⟩ := commits_expect.mp answering
    cases same
    refine postgres.not_aborts_bind ?_ fun _ _ _ impossible => impossible
    rw [aborts_expect, decoded]
    rintro ⟨impossible, -⟩
    cases impossible

end Keys

/-! ### Cleanup -/

section Cleanup

variable {store : Store} {now : Timestamp} {effectId : Nat → Uuid}

def missingGrant : String := "applied entitlement has no grant id"

/-- Grants with a grant id can be revoked. -/
theorem avoids_insertRevokes {index : Nat} {sources : List EffectRow} {detail : String}
    (receipts : ∀ source ∈ sources, source.externalId.isSome) :
    ¬ postgres.Aborts (insertRevokes now effectId index sources) store (invalidData detail) := by
  induction sources generalizing index store with
  | nil => exact fun impossible => impossible
  | cons source sources ih =>
    obtain ⟨grantId, receipt⟩ := Option.isSome_iff_exists.mp (receipts source List.mem_cons_self)
    unfold insertRevokes
    refine postgres.not_aborts_bind (avoids_expect database_ne) fun _ _ _ => ?_
    refine postgres.not_aborts_bind (avoids_expect database_ne) fun _ _ _ => ?_
    rw [receipt]
    refine postgres.not_aborts_bind (fun impossible => impossible) fun _ _ _ => ?_
    refine postgres.not_aborts_bind avoids_exec fun _ _ _ => ?_
    exact ih fun other member => receipts other (List.mem_cons_of_mem _ member)

/-- A rendering does not miss a grant. -/
theorem undatedAbort_ne {values : List Timestamp} : undatedAbort values ≠ invalidData missingGrant := by
  unfold undatedAbort
  split
  · rintro ⟨⟩
  · exact invalidData_ne (by decide)

/-- What a cleanup request does after its revocations reports no missing grant. -/
theorem leaves_cleanupEnd {now : Timestamp} {activityId id : Uuid} {caller key actor : String}
    {evidence : Json} :
    Engine.Leaves (fun error => error ≠ invalidData missingGrant)
      ((exec "mark provisioning cleanup requested" (.updateSaga id .cleanupMarked)).bind fun _ =>
        (refreshSagaStatus now id true).bind fun revision =>
          (insertActivity now activityId id none .cleanupRequested actor revision evidence).bind
            fun _ => (loadView id actor).bind fun loaded =>
              (expect (invalidData "cleanup provisioning saga disappeared") loaded).bind
                fun response => (completeMutation caller key response).bind
                  fun _ => .pure response) := by
  have expecting : ∀ {α : Type} {otherwise : Abort} (found : Option α),
      otherwise ≠ invalidData missingGrant →
      Engine.Leaves (fun error => error ≠ invalidData missingGrant) (expect otherwise found) := by
    intro α otherwise found differs
    cases found with
    | none => exact .abort differs
    | some value => exact .pure value
  refine .bind (.perform _) fun _ => .bind ?_ fun revision => .bind (.perform _) fun _ =>
    .bind ?_ fun loaded => .bind (expecting loaded (invalidData_ne (by decide))) fun response =>
      .bind ?_ fun _ => .pure _
  · refine (leaves_refreshSagaStatus _ _ _).mono ?_
    rintro _ ⟨operation, rfl⟩
    exact database_ne
  · refine .bind (.perform _) fun found => ?_
    cases found with
    | none => exact .pure _
    | some row =>
      exact .bind (.perform _) fun rows => .bind (expecting _ undatedAbort_ne) fun _ => .pure _
  · refine .bind (.perform _) fun affected => ?_
    unfold require
    split
    · exact .pure _
    · exact .abort (invalidData_ne (by decide))

/-- **A cleanup request finds a grant id on every grant in force.** -/
theorem Run.avoids_requestCleanup {history : List Committed} (run : Run history store)
    {activityId : Uuid} {input : CleanupInput} :
    ¬ postgres.Aborts (requestCleanup now effectId activityId input) store
      (invalidData missingGrant) := by
  unfold requestCleanup
  refine postgres.not_aborts_bind avoids_exec fun locked store locking => ?_
  obtain ⟨rfl, rfl⟩ := commits_lockSaga.mp locking
  refine postgres.not_aborts_bind (avoids_expect domain_ne) fun row _ expecting => ?_
  obtain ⟨found, rfl⟩ := commits_expect.mp expecting
  have present := (Option.filter_eq_some_iff.mp found).1
  refine postgres.not_aborts_bind run.avoids_beginMutation fun replay _ begun => ?_
  cases replay with
  | replay stored => exact fun impossible => impossible
  | execute =>
    obtain ⟨-, -, rfl⟩ := commits_beginMutation_execute.mp begun
    refine postgres.not_aborts_bind (avoids_require domain_ne) fun _ _ one => ?_
    obtain ⟨-, rfl⟩ := commits_require.mp one
    refine postgres.not_aborts_bind (avoids_require domain_ne) fun _ _ two => ?_
    obtain ⟨-, rfl⟩ := commits_require.mp two
    refine postgres.not_aborts_bind (avoids_require domain_ne) fun _ _ three => ?_
    obtain ⟨-, rfl⟩ := commits_require.mp three
    refine postgres.not_aborts_bind (avoids_require domain_ne) fun _ _ four => ?_
    obtain ⟨-, rfl⟩ := commits_require.mp four
    refine postgres.not_aborts_bind avoids_exec fun grants _ selecting => ?_
    obtain ⟨rfl, rfl⟩ := commits_selectEffects.mp selecting
    refine postgres.not_aborts_bind avoids_exec fun _ _ _ => ?_
    refine postgres.not_aborts_bind (avoids_insertRevokes fun source member => ?_) fun _ _ _ => ?_
    · obtain ⟨saga, -, shows, coherent⟩ := run.shows present
      rw [mem_orderBy, List.mem_filter, decide_eq_true_eq, effectsOf_addMutation, shows.effects]
        at member
      obtain ⟨inside, put, applied⟩ := member
      refine coherent.receipts source ?_ applied
      rcases List.mem_append.mp inside with main | revoke
      · exact main
      · rw [coherent.revoke_kind revoke] at put
        cases put
    · exact avoids_of_leaves leaves_cleanupEnd

end Cleanup

/-! ### The guarantee -/

/-- **What no reachable store lets happen.** -/
structure Unreachable (history : List Committed) (store : Store) : Prop where
  /-- A claimed effect does not fail locally. -/
  executed : ∀ entry ∈ history, ∀ record, GaveOut record entry → ∀ downstream,
    ∀ code ∈ localFailures, executeNamed downstream record.kind.name record ≠ .failed code
  /-- A finalization with its outcome, however late, finds no contradicting data. -/
  finalized : ∀ entry ∈ history, ∀ record, GaveOut record entry →
    ∀ downstream now activityId actor detail, ¬ postgres.Aborts (finalizeEffect now activityId
      record actor (executeNamed downstream record.kind.name record)) store (invalidData detail)
  /-- A cleanup request finds no grant in force without its grant id. -/
  cleaned : ∀ now effectId activityId input,
    ¬ postgres.Aborts (requestCleanup now effectId activityId input) store
      (invalidData missingGrant)
  /-- A retry finds no effect of an unknown kind: its confirmation is that of a known kind. -/
  retried : ∀ effect ∈ store.effects.rows, ∀ now input,
    confirmNamed now input effect.kind.name effect = confirmApplied now input effect ∧
      ∀ middle, ¬ postgres.Aborts (confirmNamed now input effect.kind.name effect) middle
        (invalidData unknownKind)
  /-- Every reservation is complete and readable, and reserving a key finds it so. -/
  reserved : (∀ caller key row, store.mutation caller key = some row → Readable row) ∧
    ∀ now caller key operation actor requestHash provisioningId detail,
      ¬ postgres.Aborts (beginMutation now caller key operation actor requestHash provisioningId)
        store (invalidData detail)

/-- A manual confirmation has no error but a domain failure. -/
theorem leaves_confirmApplied {now : Timestamp} {input : RetryInput} {effect : EffectRow}
    {detail : String} : Engine.Leaves (fun error => error ≠ invalidData detail)
      (confirmApplied now input effect) := by
  unfold confirmApplied
  cases effect.kind with
  | createOrganization =>
    simp only
    split
    · exact .bind (.perform _) fun _ => .bind (.perform _) fun _ => .pure _
    · exact .abort domain_ne
  | putEntitlement =>
    simp only
    split
    · exact .bind (.perform _) fun _ => .pure _
    · exact .abort domain_ne
  | revokeEntitlement =>
    refine .bind ?_ fun _ => .bind (.perform _) fun _ => .pure _
    unfold require
    split
    · exact .pure _
    · exact .abort domain_ne

/-- **The defensive branches are unreachable**: in every run. -/
theorem defenses_unreachable {history : List Committed} {store : Store} (run : Run history store) :
    Unreachable history store := by
  refine ⟨?_, ?_, fun _ _ _ _ => run.avoids_requestCleanup, ?_, fun _ _ _ => run.readable,
    fun _ _ _ _ _ _ _ _ => run.avoids_beginMutation⟩
  · intro entry member record gave downstream code listed
    obtain ⟨past, rest, rfl⟩ := List.append_of_mem member
    obtain ⟨_, _, _, _, _, _, gives⟩ := run.did.2.gives gave
    obtain ⟨request, asked⟩ := gives.request run.did.1.checked
    rw [executeNamed_name, executeEffect_eq, asked]
    exact outcome_not_local downstream request listed
  · intro entry member record gave downstream now activityId actor detail failed
    rw [executeNamed_name] at failed
    obtain ⟨operation, same⟩ := finalizeEffect_aborts (executeEffect_fits downstream record) failed
    cases same
  · intro effect _ now input
    rw [confirmNamed_name]
    exact ⟨rfl, fun middle => avoids_of_leaves leaves_confirmApplied⟩

/-- The rehearsal: records were given out, grants are in force and keys are reserved. -/
theorem defenses_unreachable_rehearsed : Unreachable Rehearsal.history Rehearsal.store ∧
    (fences Rehearsal.history).length = 6 ∧
    (Rehearsal.store.mutation "console" "cleanup").isSome = true :=
  ⟨defenses_unreachable Rehearsal.run, by decide +kernel, by decide +kernel⟩

end OrganizationProvisioning
