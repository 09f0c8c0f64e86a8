/-
**Concurrent transactions are serializable.**

The storage functions send their statements at READ COMMITTED, which is no promise of serializability.
The locks they take make it one, but for the scans of the worker: these pass over the sagas others hold,
and check a saga that changed meanwhile with the effects of their snapshot.

* `Serializable` — what has committed is a run in the order of the commits, every call in it commits as it
  does alone, what failed fails alone, and what is under way ends as it would end alone on the latest commit.
* `Undisturbed` — a step leaves the rows a transaction has locked as this transaction sees them.
* `serializable` — **every configuration the clients reach is serializable, and every step undisturbing.**
-/
import OrganizationProvisioning.Run.Concurrent
import OrganizationProvisioning.Run.Skipping

namespace OrganizationProvisioning

open Transactional

variable {Client : Type} [DecidableEq Client] {config : Clients Client}

omit [DecidableEq Client] in
/-- **A configuration is serializable**, exactly for the calls that do not scan, and for `claim_next` and
`quarantine_expired` up to the sagas their scans pass over and the quarantines that are lost. -/
structure Serializable (config : Clients Client) : Prop where
  /-- What has committed is a run whose scans pass over held sagas. -/
  committed : Skipped config.history config.store
  /-- Every call in it commits alone, on the store before it. -/
  commits : ∀ entry ∈ config.history, entry.event.CommitsOn entry.before entry.reply entry.after
  /-- A transaction that failed fails alone, on the store of the commits that were there when it failed. -/
  failed : ∀ failure ∈ config.failures, failure.history <+: config.history ∧ ∃ store,
    Skipped failure.history store ∧ legal failure.history failure.event ∧
      failure.event.FailsOn store failure.error
  /-- No row is locked by two transactions. -/
  apart : ∀ one two first second, one ≠ two → config.sessions one = some first →
    config.sessions two = some second → Disjoint first.locks second.locks
  /-- What a transaction has written it has locked. -/
  owned : ∀ client session, config.sessions client = some session →
    ∀ image ∈ session.images, image.Covered session.locks
  /-- A transaction that ends here ends alone, on the latest commit. -/
  ends : ∀ client session, config.sessions client = some session →
    (∀ reply final, postgres.Commits session.rest (session.view provisioning config.store) reply final →
      session.event.CommitsOn config.store reply final) ∧
    ∀ error, postgres.Aborts session.rest (session.view provisioning config.store) error →
      session.event.FailsOn config.store error

/-- **A transaction that has written nothing new sees its locked rows as before.** -/
def Undisturbed (config later : Clients Client) : Prop :=
  ∀ client before after, config.sessions client = some before →
    later.sessions client = some after → after.images = before.images →
      Concur before.locks (before.view provisioning config.store) (after.view provisioning later.store)

/-- **Concurrent transactions are serializable**, and no step disturbs what another has locked. -/
theorem serializable (concurrent : Concurrent config) : Serializable config ∧
    ∀ later, Step provisioning readCommitted config later → Undisturbed config later := by
  have sound := Reached.refines concurrent lawful
  have run : Run config.history config.store := sound.serial
  refine ⟨⟨run_iff_skipped.mp run, ?_, ?_, sound.apart, ?_, ?_⟩, ?_⟩
  · intro entry member
    obtain ⟨past, later, same⟩ := List.append_of_mem member
    rw [same] at run
    obtain ⟨before, -, committed, -⟩ := run.commit_of_mem
    exact Run.commits_on before committed
  · intro failure member
    obtain ⟨prefixed, store, before, permitted, aborts⟩ := sound.failures failure member
    exact ⟨prefixed, store, run_iff_skipped.mp before, permitted, Run.fails_on before aborts⟩
  · intro client session running
    obtain ⟨-, underway, -⟩ := sound.sessions client session running
    exact underway.covers
  · intro client session running
    obtain ⟨-, underway, -⟩ := sound.sessions client session running
    exact ⟨fun _ _ commits => run.commits_on (underway.commits commits),
      fun _ aborts => run.fails_on (underway.aborts aborts)⟩
  · intro later step client before after running on same
    exact (sound.undisturbed step running on same).1

/-- The rehearsal, and the retry that failed after it. -/
theorem serializable_rehearsed : Serializable (Clients.failing Rehearsal.script
    (.retry 100000009 37 (Rehearsal.retry "late" 5 .retryFailed)) (.domain .revisionConflict)) :=
  (serializable Rehearsal.belated).1

end OrganizationProvisioning
