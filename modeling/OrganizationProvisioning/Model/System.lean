/-
**Runs of the store.**

An event is one call of a storage function with the arguments its caller passes, the clock readings
and the UUIDs it generates. The public operations and the worker are the callers.

* `Event.program` — the transaction of an event.
* `legal` — a worker finalizes only an effect some earlier claim gave out, with an outcome a
  downstream call can produce. It may do so late, more than once or never.
* `Run` — the histories of committed transactions from the empty schema.
* `computed` — the answers of a call that runs alone.
-/
import OrganizationProvisioning.Library.History
import OrganizationProvisioning.Model.Plugin

namespace OrganizationProvisioning

open Transactional

inductive Event
  | start (now : Timestamp) (ids : StartIds) (input : StartInput)
  | retry (now : Timestamp) (activityId : Uuid) (input : RetryInput)
  | requestCleanup (now : Timestamp) (effectId : Nat → Uuid) (activityId : Uuid)
      (input : CleanupInput)
  | quarantineExpired (now : Timestamp) (actor : String) (activityId : Nat → Uuid) (limit : Int)
  | claimNext (now utcNow : Timestamp) (actor : String) (fence activityId : Uuid)
      (leaseSeconds : Int)
  | finalizeEffect (now : Timestamp) (activityId : Uuid) (effect : EffectRecord) (actor : String)
      (outcome : EffectOutcome)

/-- What a committed call returns. -/
inductive Reply
  | view (response : ProvisioningView)
  | quarantined (count : Nat)
  | claimed (record : Option EffectRecord)
  | finalized (result : FinalizeResult)

def Event.program : Event → Transaction Reply
  | .start now ids input => do return .view (← OrganizationProvisioning.start now ids input)
  | .retry now activityId input => do
    return .view (← OrganizationProvisioning.retry now activityId input)
  | .requestCleanup now effectId activityId input => do
    return .view (← OrganizationProvisioning.requestCleanup now effectId activityId input)
  | .quarantineExpired now actor activityId limit => do
    return .quarantined (← OrganizationProvisioning.quarantineExpired now actor activityId limit)
  | .claimNext now utcNow actor fence activityId leaseSeconds => do
    return .claimed (← OrganizationProvisioning.claimNext now utcNow actor fence activityId
      leaseSeconds)
  | .finalizeEffect now activityId effect actor outcome => do
    return .finalized (← OrganizationProvisioning.finalizeEffect now activityId effect actor
      outcome)

abbrev Committed := Entry Event Reply Store

/-- A claim that gave out a record. -/
def GaveOut (record : EffectRecord) (entry : Committed) : Prop :=
  entry.reply = .claimed (some record)

/-- What a caller may ask after a history. -/
def legal (history : List Committed) : Event → Prop
  | .finalizeEffect _ _ effect _ outcome => (∃ entry ∈ history, GaveOut effect entry) ∧
      ∃ downstream, outcome = executeEffect downstream effect
  | _ => True

/-- The store under its callers. -/
def provisioning : System Statement Statement.Answer Abort Store Image Event Reply where
  engine := postgres
  program := Event.program
  legal := legal
  initial := Store.initial

/-- The histories of the store, with the store each leaves. -/
abbrev Run := Serial provisioning

/-! ### Calls that run alone -/

/-- The answer of PostgreSQL when no other transaction holds a lock. -/
def computed (statement : Statement) (store : Store) : statement.Answer :=
  statement.sql.answer (fun _ => false) store

/-- A computed answer is one that may be given. -/
theorem computed_answers (statement : Statement) (store : Store) :
    postgres.answers statement store (computed statement store) := by
  obtain ⟨operation, sql⟩ := statement
  cases sql with
  | scanSagas condition =>
    intro row found
    have member := List.mem_of_mem_head? (Option.mem_def.mpr found)
    rw [Relational.mem_orderBy, List.mem_filter] at member
    exact ⟨member.1, _, (Bool.and_eq_true_iff.mp member.2).2⟩
  | _ => rfl

end OrganizationProvisioning
