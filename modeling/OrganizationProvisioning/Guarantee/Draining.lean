/-
**The documented worker loop terminates and drains.**

* `Drained` — what the loop leaves: at most as many claims as there were pending effects, no pending saga
  and no expired lease; and if every downstream call succeeded, every pending saga completed, each of its
  pending effects claimed once and in order.
* `worker_drains` — from every reachable store, with calls enough for the effects that are pending or in
  flight, the loop stops by itself and leaves this.
* `worker_blocked` — beyond the range of instants a claim is given up, and so is the loop.
-/
import OrganizationProvisioning.Run.Drain
import OrganizationProvisioning.Guarantee.Polling

namespace OrganizationProvisioning

open Relational Transactional

/-- **What the loop leaves**, when it stops after the call `last`. -/
structure Drained (store : Store) (calls : List WorkerCall) (committed : List Committed)
    (last : WorkerCall) (final : Store) : Prop where
  claims : (claimed committed).length ≤ store.count .pending
  pending : ∀ row ∈ final.sagas.rows, row.status ≠ .pending ∧ row.status ≠ .cleanupPending
  expired : ∀ row ∈ final.sagas.rows,
    hasExpired last.ended row (final.effectsOf row.provisioningId) = false
  completed : (∀ call ∈ calls, ∀ index, (call.turn index).downstream.Accepts) →
    ∀ row ∈ store.sagas.rows, row.status = .pending ∨ row.status = .cleanupPending →
      claimedOf row.provisioningId committed = store.pendingSteps row.provisioningId ∧
      ∃ after, final.saga row.provisioningId = some after ∧
        after.status = if row.status = .pending then .completed else .cleanupCompleted

/-- **The documented worker loop terminates and drains**, from every reachable store. -/
theorem worker_drains {history : List Committed} {store : Store} (run : Run history store)
    (actor : String) (calls : List WorkerCall)
    (valid : ∀ call ∈ calls, call.request.valid = true)
    (forward : calls.Pairwise fun first second => first.ended ≤ second.began)
    (distinct : (calls.flatMap WorkerCall.ids).Nodup)
    (unused : Unused store (calls.flatMap WorkerCall.ids))
    (enough : store.count .pending + store.count .inFlight < calls.length)
    (lease : ∀ call ∈ calls, call.LeasesEnd) (spare : Spare store) :
    ∃ committed last response final,
      drain actor calls store = .ok (committed, some (last, response), final) ∧
        Drained store calls committed last final := by
  have returns : ∃ committed last final, drain actor calls store = .ok (committed, last, final) :=
    drain_runs run spare valid lease distinct unused
  obtain ⟨committed, stopped, final, ran⟩ := returns
  have stops := drain_stops run forward enough ran
  obtain ⟨⟨last, response⟩, rfl⟩ := Option.ne_none_iff_exists'.mp stops
  obtain ⟨-, -, none⟩ := drain_last ran
  have run' := drain_run run ran
  have idle : final.first claimable = Option.none ∧ final.first (hasExpired last.ended) = Option.none := by
    rw [← Bool.not_eq_true, hasMore_iff run'.holds.coherent, not_or, not_ne_iff, not_ne_iff] at none
    exact none
  have pending := (first_claimable run'.holds.coherent).mp idle.1
  refine ⟨committed, last, response, final, ran, ?_, pending, Store.first_none.mp idle.2, ?_⟩
  · have counted := drain_claims run ran
    omega
  · intro accepts row member waits
    obtain ⟨saga, shows, coherent, tracked⟩ :=
      drain_tracks run accepts (tracks_of_pending run.holds.coherent member waits) ran
    obtain ⟨order, status⟩ := tracked.rests (pending saga.row (Store.saga_found.mp shows.row).1)
    refine ⟨order, saga.row, shows.row, ?_⟩
    rw [status]
    rcases waits with same | same <;> rw [same] <;> rfl

/-! ### Rehearsals -/

/-- A call of `process_due` at an instant, with ids of its own. -/
def rehearsedCall (now : Timestamp) (number : Nat) : WorkerCall where
  request := ⟨1, 60⟩
  began := now
  quarantineId _ := Fin.ofNat _ (100 + 3 * number)
  turn _ := ⟨now, now, 1, Fin.ofNat _ (101 + 3 * number), now, Fin.ofNat _ (102 + 3 * number),
    Rehearsal.accepting⟩
  ended := now

/-- Four calls drain the three effects of a started saga. -/
theorem worker_drains_rehearsed : ∃ committed last response final,
    drain "worker" ((List.range 4).map (rehearsedCall 1)) (played waitingScript).2 =
      .ok (committed, some (last, response), final) ∧
        Drained (played waitingScript).2 ((List.range 4).map (rehearsedCall 1)) committed last
          final :=
  worker_drains waiting_run "worker" _ (by decide) (by decide) (by decide +kernel)
    (by decide +kernel) (by decide +kernel)
    (show ∀ call ∈ _, ∀ index < _, _ from by decide +kernel)
    (show ∀ effect ∈ _, _ from by decide +kernel)

/-- **At the end of the range of instants the loop is given up** with a saga pending. -/
theorem worker_blocked : ¬ ∀ (history : List Committed) (store : Store), Run history store →
    ∀ calls : List WorkerCall, (∀ call ∈ calls, call.request.valid = true) →
      (calls.Pairwise fun first second => first.ended ≤ second.began) →
      (calls.flatMap WorkerCall.ids).Nodup → Unused store (calls.flatMap WorkerCall.ids) →
      store.count .pending + store.count .inFlight < calls.length →
      ∃ committed last response final,
        drain "worker" calls store = .ok (committed, some (last, response), final) ∧
          Drained store calls committed last final := by
  intro drains
  obtain ⟨committed, last, response, final, ran, -⟩ := drains _ _ waiting_run
    ((List.range 4).map (rehearsedCall maxInstant)) (by decide) (by decide) (by decide +kernel)
    (by decide +kernel) (by decide +kernel)
  have fails : (drain "worker" ((List.range 4).map (rehearsedCall maxInstant))
      (played waitingScript).2).toOption.isNone = true := by decide +kernel
  rw [ran] at fails
  cases fails

end OrganizationProvisioning
