/-
**Quarantine is exact.**

* `quarantine_alone_run` — a call that runs alone goes through, puts the first expired sagas of the queue under
  review, and is one more entry of the run.
* `quarantine_exact` — as many as the limit allows, in the order of the queue, each as `Reviewed` says, with
  everything else left as it was; and a second call with room for the rest leaves no lease run out.
-/
import OrganizationProvisioning.Proof.Quarantine
import OrganizationProvisioning.Run.Revisions
import OrganizationProvisioning.Run.Script
import OrganizationProvisioning.Guarantee.Admission

namespace OrganizationProvisioning

open Relational Transactional

section Exact

variable {history : List Committed} {store : Store} {now : Timestamp} {actor : String}
  {activityId : Nat → Uuid} {limit : Int}

/-- The entry of a quarantine. -/
def quarantineEntry (now : Timestamp) (actor : String) (activityId : Nat → Uuid) (limit : Int)
    (store : Store) (count : Nat) (final : Store) : Committed :=
  ⟨.quarantineExpired now actor activityId limit, store, .quarantined count, final⟩

/-- **A call that runs alone** puts the first expired sagas under review. -/
theorem quarantine_alone_run (run : Run history store)
    (fresh : (Event.quarantineExpired now actor activityId limit).Fresh store) :
    ∃ count final, alone (quarantineExpired now actor activityId limit) store = .ok (count, final) ∧
      count = min limit.toNat (store.expiredSagas now).length ∧
      Run (history ++ [quarantineEntry now actor activityId limit store count final]) final ∧
      Reviews now actor activityId ((store.expiredSagas now).take limit.toNat) store final ∧
      final.expiredSagas now = (store.expiredSagas now).drop limit.toNat := by
  obtain ⟨final, ran, reviews, left⟩ := @quarantineLoop_exact store now actor activityId limit.toNat 0
    run.holds.coherent run.holds.checked (fun _ member _ => run.revision_room member)
    (fun index _ small => fresh.1 index (by omega))
    (fun first second less small => fresh.2 first second less (by omega))
  have committed := postgres.commits_of_run computed_answers ran
  simp only [Nat.zero_add] at ran reviews committed
  refine ⟨_, final, ran, rfl, ?_, reviews, left⟩
  refine .commit (by exact run) trivial ?_
  exact postgres.commits_bind.mpr ⟨_, final, committed, rfl, rfl⟩

/-- An effect with a lease that has run out puts its saga on the queue. -/
theorem expired_queued (run : Run history store) (empty : store.expiredSagas now = []) :
    ∀ effect ∈ store.effects.rows, expired now effect = false := by
  intro effect member
  cases late : expired now effect with
  | false => rfl
  | true =>
    obtain ⟨row, present⟩ := Option.isSome_iff_exists.mp (run.holds.owned.effects effect member)
    obtain ⟨stored, id⟩ := Store.saga_found.mp present
    have queued : row ∈ store.expiredSagas now := by
      refine mem_expiredSagas.mpr ⟨stored, List.any_eq_true.mpr ⟨effect, ?_, late⟩⟩
      exact Store.mem_effectsOf.mpr ⟨Table.find_of_mem member, id.symm⟩
    rw [empty] at queued
    cases queued

/-- **Quarantine is exact.** -/
theorem quarantine_exact (run : Run history store)
    (fresh : (Event.quarantineExpired now actor activityId limit).Fresh store) :
    ∃ final, alone (quarantineExpired now actor activityId limit) store =
        .ok (min limit.toNat (store.sagas.rows.countP fun row =>
          (store.effectsOf row.provisioningId).any (expired now)), final) ∧
      ((store.expiredSagas now).Perm (store.sagas.rows.filter fun row =>
        (store.effectsOf row.provisioningId).any (expired now)) ∧
        (store.expiredSagas now).Pairwise fun first second => queueOrder first second = true) ∧
      Reviews now actor activityId ((store.expiredSagas now).take limit.toNat) store final ∧
      (∀ effect ∈ store.effects.rows, expired now effect = false →
        final.effect effect.effectId = some effect) ∧
      ∀ (actor' : String) (activityId' : Nat → Uuid) (limit' : Int),
        (Event.quarantineExpired now actor' activityId' limit').Fresh final →
        (store.expiredSagas now).length - min limit.toNat (store.expiredSagas now).length ≤
          limit'.toNat →
        ∃ count last, alone (quarantineExpired now actor' activityId' limit') final = .ok (count, last) ∧
          ∀ effect ∈ last.effects.rows, expired now effect = false := by
  obtain ⟨count, final, ran, rfl, run', reviews, left⟩ := quarantine_alone_run run fresh
  have queue := perm_orderBy queueOrder (store.sagas.rows.filter fun row =>
    (store.effectsOf row.provisioningId).any (expired now))
  have size : (store.expiredSagas now).length = store.sagas.rows.countP fun row =>
      (store.effectsOf row.provisioningId).any (expired now) := by
    rw [List.countP_eq_length_filter]
    exact queue.length_eq
  refine ⟨final, by rw [ran, size], ⟨queue, expiredSagas_sorted⟩, reviews, ?_, ?_⟩
  · intro effect member live
    have found : store.effect effect.effectId = some effect := Table.find_of_mem member
    rw [reviews.spares.effect effect.effectId fun other there late => ?_, found]
    rw [found] at there
    cases there
    rw [live] at late
    cases late
  · intro actor' activityId' limit' fresh' room
    obtain ⟨count, last, again, -, run'', -, none⟩ := quarantine_alone_run run' fresh'
    refine ⟨count, last, again, expired_queued run'' ?_⟩
    rw [none, left, List.drop_drop, List.drop_eq_nil_iff]
    omega

end Exact

/-! ### A rehearsal -/

/-- A claim whose worker is lost. -/
def leasedScript : List Instruction := [
  .call (.start 0 Rehearsal.ids Rehearsal.input),
  Rehearsal.claim 1 101 21]

theorem leased_run : Run (played leasedScript).1 (played leasedScript).2 :=
  run_of_played (by decide +kernel)

/-- The lost worker's effect goes under review once its lease has run out. -/
theorem quarantine_exact_rehearsed : ∃ final,
    alone (quarantineExpired 100000000 "worker" (fun _ => 29) 1) (played leasedScript).2 =
      .ok (1, final) ∧
    Reviews 100000000 "worker" (fun _ => 29)
      (((played leasedScript).2.expiredSagas 100000000).take 1) (played leasedScript).2 final := by
  obtain ⟨final, ran, -, reviews, -⟩ := @quarantine_exact _ _ 100000000 "worker" (fun _ => 29) 1 leased_run
    ⟨by decide +kernel, fun first second less small => by omega⟩
  have count : min (1 : Int).toNat ((played leasedScript).2.sagas.rows.countP fun row =>
      ((played leasedScript).2.effectsOf row.provisioningId).any (expired 100000000)) = 1 := by
    decide +kernel
  rw [count] at ran
  exact ⟨final, ran, reviews⟩

end OrganizationProvisioning
