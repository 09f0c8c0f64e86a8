/-
**Accepted inputs meet the constraints of the schema.**

* `Event.Accepted` — a start passed the checks of its handler and takes the snapshot of an accepted
  configuration; every other call may have any arguments.
* `Event.Fresh` — the UUIDs a call generates are new.
* `Run.admitted` — on every reachable store no statement of such a call is refused.
* `accepted_inputs_admitted` — and an accepted configuration always has its snapshot.
-/
import OrganizationProvisioning.Proof.Requests
import OrganizationProvisioning.Run.Starts
import OrganizationProvisioning.Guarantee.Contract

namespace OrganizationProvisioning

open Transactional

/-- The UUIDs a call generates are new in the tables that hold them, and distinct. -/
def Event.Fresh (store : Store) : Event → Prop
  | .start _ ids input => ids.Fresh store input
  | .retry _ activityId _ => store.activity.find activityId = none
  | .requestCleanup _ effectId activityId input =>
    FreshRevokes store input.provisioningId effectId ∧ store.activity.find activityId = none
  | .quarantineExpired _ _ activityId limit =>
    (∀ index < limit.toNat, store.activity.find (activityId index) = none) ∧
      ∀ first second, first < second → second < limit.toNat → activityId first ≠ activityId second
  | .claimNext _ _ _ _ activityId _ => store.activity.find activityId = none
  | .finalizeEffect _ activityId _ _ _ => store.activity.find activityId = none

/-- A start comes from a request its handler accepted, with these grants. -/
def Event.Accepted (grants : List BootstrapGrant) : Event → Prop
  | .start _ _ input => ∃ asker requestHash provisioningId request,
      startInput asker requestHash provisioningId grants request = some input
  | _ => True

/-- The input of an accepted start fits the columns it is written to. -/
theorem StartInput.Fits.of_startInput {asker : Asker} {requestHash : List UInt8}
    {provisioningId : Uuid} {grants : List BootstrapGrant} {request : StartRequest}
    {input : StartInput} (small : grants.length ≤ 64) (fits : ∀ grant ∈ grants, grant.Fits)
    (accepted : startInput asker requestHash provisioningId grants request = some input) :
    input.Fits := by
  obtain ⟨name, slug, owner, snapshot⟩ := bounded_startInput accepted
  refine ⟨name, slug, owner, ?_, ?_⟩
  · rw [snapshot]
    exact small
  · rw [snapshot]
    exact fits

/-- **No statement of an accepted call is refused** on a reachable store. -/
theorem Run.admitted {history : List Committed} {store : Store} (run : Run history store)
    (room : Room store) {grants : List BootstrapGrant} (small : grants.length ≤ 64)
    (fits : ∀ grant ∈ grants, grant.Fits) {event : Event} (accepted : event.Accepted grants)
    (fresh : event.Fresh store) : postgres.Admitted event.program store := by
  have keyed : Keyed store := fun effect member => run.keyed member
  have checked := run.holds.checked
  have whole : ∀ {α : Type} {program : Transaction α} {reply : α → Reply},
      postgres.Admitted program store →
        postgres.Admitted (program.bind fun value => .pure (reply value)) store :=
    fun admitted => postgres.admitted_bind.mpr ⟨admitted, fun _ _ _ => trivial⟩
  cases event with
  | start now ids input =>
    obtain ⟨_, _, _, _, asked⟩ := accepted
    exact whole (admitted_start keyed run.holds.owned fresh (.of_startInput small fits asked))
  | retry now activityId input => exact whole (admitted_retry checked room.revision fresh)
  | requestCleanup now effectId activityId input =>
    exact whole (admitted_requestCleanup run.holds.coherent keyed checked room.revision fresh.1
      fresh.2)
  | quarantineExpired now actor activityId limit =>
    exact whole (admitted_quarantineExpired checked room fresh.1 fresh.2)
  | claimNext now utcNow actor fence activityId leaseSeconds =>
    exact whole (admitted_claimNext checked room fresh)
  | finalizeEffect now activityId effect actor outcome =>
    exact whole (admitted_finalizeEffect checked room fresh)

/-- **Accepted inputs meet the constraints.** An accepted configuration has its snapshot, and on every
reachable store with room in its integer columns, no constraint refuses a statement of a call with
new UUIDs, whose start, if it is one, its handler accepted under that configuration. -/
theorem accepted_inputs_admitted {checks : ConfigChecks} {config : OrganizationProvisioningConfig}
    (configured : config.validate checks = .ok ()) {history : List Committed} {store : Store}
    (run : Run history store) (room : Room store) :
    ∃ grants, config.grantSnapshots = some grants ∧ ∀ event : Event, event.Accepted grants →
      event.Fresh store → postgres.Admitted event.program store := by
  obtain ⟨grants, snapshot, small, fits⟩ := snapshot_of_validate configured
  exact ⟨grants, snapshot, fun _ accepted fresh => run.admitted room small fits accepted fresh⟩

namespace Rehearsal

/-- A second start, while the rehearsal's saga is cleaned up. -/
def secondRequest : StartRequest where
  idempotencyKey := "second"
  name := " Beta "
  ownerSubject := "founder"
  slug := "beta"

def secondInput : StartInput where
  caller := "console"
  actor := "operator"
  idempotencyKey := "second"
  requestHash := [4]
  provisioningId := 2
  name := "Beta"
  slug := "beta"
  ownerSubject := "founder"
  grants := [⟨"organization", "seats", some 5⟩, ⟨"owner", "reports", none⟩]

def secondIds : StartIds where
  createEffectId := 50
  grantEffectId ordinal := if ordinal = 0 then 51 else 52
  activityId := 60

end Rehearsal

/-- After the rehearsal, a second start and its claim meet the constraints. -/
theorem accepted_inputs_admitted_rehearsed :
    postgres.Admitted (Event.start 200000000 Rehearsal.secondIds Rehearsal.secondInput).program
      Rehearsal.store ∧
    postgres.Admitted (Event.claimNext 200000000 200000000 "worker" 109 61 60).program
      Rehearsal.store := by
  have configured : (Rehearsal.configuration [⟨"organization", "seats", some "5"⟩,
      ⟨"owner", "reports", none⟩]).validate Rehearsal.checks = .ok () := by rfl
  have room : Room Rehearsal.store := ⟨by decide +kernel, by decide +kernel⟩
  obtain ⟨grants, snapshot, admitted⟩ := accepted_inputs_admitted configured Rehearsal.run room
  have same : grants = Rehearsal.secondInput.grants := by
    have computed : (Rehearsal.configuration [⟨"organization", "seats", some "5"⟩,
      ⟨"owner", "reports", none⟩]).grantSnapshots = some Rehearsal.secondInput.grants := by rfl
    exact Option.some.inj (snapshot.symm.trans computed)
  subst same
  refine ⟨admitted _ ⟨⟨"console", "operator"⟩, [4], 2, Rehearsal.secondRequest, ?_⟩ ?_,
    admitted _ trivial ?_⟩
  · rfl
  · refine ⟨by decide +kernel, by decide +kernel, by decide +kernel, by decide +kernel, ?_,
      by decide +kernel⟩
    intro first second less small
    have zero : first = 0 := by
      have size : Rehearsal.secondInput.grants.length = 2 := rfl
      omega
    have one : second ≠ 0 := by omega
    subst zero
    simp [Rehearsal.secondIds, one]
  · show Rehearsal.store.activity.find 61 = none
    decide +kernel

end OrganizationProvisioning
