/-
**`has_more` agrees with the operations it predicts.**

* `Claims`, `QuarantinesSome` — a call of `claim_next` returns an effect, one of `quarantine_expired`
  quarantines some.
* `has_more_agrees` — `has_more` is true whenever one of them does; and when it is true one of them does,
  as long as the lease ends within the range of instants and the attempts of the pending effects have room
  in their column.
* `has_more_blocked` — beyond that range a claim is given up, and `has_more` stays true.
-/
import OrganizationProvisioning.Proof.Alone
import OrganizationProvisioning.Run.Revisions
import OrganizationProvisioning.Run.Script
import OrganizationProvisioning.Guarantee.Admission

namespace OrganizationProvisioning

open Relational Transactional

/-! ### The guarantee -/

/-- `claim_next` returns an effect. -/
def Claims (store : Store) (now utcNow : Timestamp) (actor : String) (fence activityId : Uuid)
    (leaseSeconds : Int) : Prop :=
  ∃ record final, alone (claimNext now utcNow actor fence activityId leaseSeconds) store =
    .ok (some record, final)

/-- `quarantine_expired` quarantines at least one effect. -/
def QuarantinesSome (store : Store) (now : Timestamp) (actor : String) (activityId : Nat → Uuid)
    (limit : Int) : Prop :=
  ∃ count final, alone (quarantineExpired now actor activityId limit) store = .ok (count, final) ∧
    1 ≤ count

/-- **`has_more` agrees with the operations it predicts**, in every reachable store. -/
theorem has_more_agrees {history : List Committed} {store : Store} (run : Run history store)
    (now utcNow : Timestamp) (actor : String) (fence claimId : Uuid) (leaseSeconds : Int)
    (quarantineId : Nat → Uuid) (limit : Int) (positive : 1 ≤ limit)
    (fresh : (Event.claimNext now utcNow actor fence claimId leaseSeconds).Fresh store)
    (fresh' : (Event.quarantineExpired now actor quarantineId limit).Fresh store) :
    (Claims store now utcNow actor fence claimId leaseSeconds ∨
      QuarantinesSome store now actor quarantineId limit → hasMore now store = true) ∧
    (hasMore now store = true → (leaseEnd utcNow leaseSeconds).isSome → Spare store →
      Claims store now utcNow actor fence claimId leaseSeconds ∨
        QuarantinesSome store now actor quarantineId limit) := by
  have all := run.holds.coherent
  have checked := run.holds.checked
  rw [hasMore_iff all]
  constructor
  · rintro (⟨record, final, ran⟩ | ⟨count, final, ran, counted⟩)
    · left
      intro none
      have impossible := (claimNext_found ran).1.mpr none
      cases impossible
    · right
      intro none
      obtain ⟨fuel, shape⟩ : ∃ fuel, limit.toNat = fuel + 1 := ⟨limit.toNat - 1, by omega⟩
      rw [quarantineExpired, shape, quarantineLoop_alone, none] at ran
      cases ran
      omega
  · rintro (found | found) lease spare
    · left
      obtain ⟨claimed, final, ran⟩ := @claimNext_runs store now utcNow actor fence claimId
        leaseSeconds all checked spare (fun _ => run.revision_room) fresh lease
      cases claimed with
      | none => exact absurd ((claimNext_found ran).1.mp rfl) found
      | some record => exact ⟨record, final, ran⟩
    · right
      obtain ⟨count, final, ran⟩ := @quarantineLoop_runs store now actor quarantineId limit.toNat 0
        checked (fun _ member _ => run.revision_room member)
        (fun index _ small => fresh'.1 index (by omega))
        (fun first second less small => fresh'.2 first second less (by omega))
      exact ⟨count, final, ran, (quarantineLoop_stops ran).2.2 (by omega) found⟩

/-! ### Rehearsals -/

/-- A saga that waits for its first claim. -/
def waitingScript : List Instruction := [.call (.start 0 Rehearsal.ids Rehearsal.input)]

theorem waiting_run : Run (played waitingScript).1 (played waitingScript).2 :=
  run_of_played (by decide +kernel)

/-- The predicted claim of a waiting saga. -/
theorem has_more_agrees_rehearsed : Claims (played waitingScript).2 1 1 "worker" 101 21 60 ∨
    QuarantinesSome (played waitingScript).2 1 "worker" (fun index => Fin.ofNat _ (30 + index)) 1 :=
  (has_more_agrees waiting_run 1 1 "worker" 101 21 60 (fun index => Fin.ofNat _ (30 + index)) 1
    (by decide) (show _ = none by decide +kernel)
    ⟨by decide +kernel, fun first second less small => by omega⟩).2 (by decide +kernel)
      (by decide +kernel) (show ∀ effect ∈ _, _ from by decide +kernel)

/-- **At the end of the range of instants** `has_more` stays true while a claim is given up and nothing is
quarantined. -/
theorem has_more_blocked : ¬ ∀ (history : List Committed) (store : Store), Run history store →
    ∀ now, hasMore now store = true ↔ Claims store now now "worker" 101 21 60 ∨
      QuarantinesSome store now "worker" (fun _ => 30) 1 := by
  intro agrees
  have more : hasMore maxInstant (played waitingScript).2 = true := by decide +kernel
  rcases (agrees _ _ waiting_run maxInstant).mp more with ⟨record, final, ran⟩ | ⟨count, final, ran, some⟩
  · have fails : (alone (claimNext maxInstant maxInstant "worker" 101 21 60)
        (played waitingScript).2).toOption.isNone = true := by decide +kernel
    rw [ran] at fails
    cases fails
  · have idle : ((alone (quarantineExpired maxInstant "worker" (fun _ => 30) 1)
        (played waitingScript).2).toOption.all fun pair => pair.1 = 0) = true := by decide +kernel
    rw [ran] at idle
    have none : count = 0 := of_decide_eq_true idle
    omega

end OrganizationProvisioning
