/-
**The worker's loop.**

* `hasMore` — the query behind `has_more`.
* `work` — the loop of `process_due`: a claim, the downstream call and its finalization, turn after turn.
* `processDue` — one call: the quarantine, the loop within the rest of the limit, and `has_more`.
* `drain` — calls that follow one another while `has_more` is true.

Nothing else runs beside the worker, so every transaction gets its computed answers. Beside its answer
each function returns the transactions it committed, oldest first.
-/
import OrganizationProvisioning.Model.System

namespace OrganizationProvisioning

open Transactional

/-- A transaction that runs alone. -/
abbrev alone {α : Type} (program : Transaction α) (store : Store) : Except Abort (α × Store) :=
  postgres.run computed program store

/-- `has_more`: a pending effect of a pending saga, or an expired effect of a running one. -/
def hasMore (now : Timestamp) (store : Store) : Bool :=
  store.effects.rows.any fun effect => (store.saga effect.provisioningId).any fun saga =>
    (effect.state = .pending && (saga.status = .pending ∨ saga.status = .cleanupPending)) ||
      (expired now effect && (saga.status = .running ∨ saga.status = .cleanupRunning))

/-! ### Inputs -/

/-- What the clock, the UUIDs and the services give one turn of the loop. -/
structure TurnInputs where
  now : Timestamp
  utcNow : Timestamp
  fence : Uuid
  claimId : Uuid
  settledAt : Timestamp
  settleId : Uuid
  downstream : Downstream

/-- The claim of a turn. -/
def TurnInputs.claim (turn : TurnInputs) (actor : String) (leaseSeconds : Int) : Event :=
  .claimNext turn.now turn.utcNow actor turn.fence turn.claimId leaseSeconds

/-- The finalization of a turn, with the outcome of the downstream call. -/
def TurnInputs.settle (turn : TurnInputs) (actor : String) (effect : EffectRecord) : Event :=
  .finalizeEffect turn.settledAt turn.settleId effect actor (executeEffect turn.downstream effect)

structure ProcessDueRequest where
  limit : Int
  leaseSeconds : Int

/-- The checks of the handler. -/
def ProcessDueRequest.valid (request : ProcessDueRequest) : Bool :=
  (1 ≤ request.limit ∧ request.limit ≤ 100) ∧ (5 ≤ request.leaseSeconds ∧ request.leaseSeconds ≤ 300)

/-- One call of `process_due` and what its environment gives it: its first transaction starts at `began`
and its last query at `ended`. -/
structure WorkerCall where
  request : ProcessDueRequest
  began : Timestamp
  quarantineId : Nat → Uuid
  turn : Nat → TurnInputs
  ended : Timestamp

/-! ### Counts -/

/-- What a call counts. -/
structure Counts where
  claimed : Int
  completed : Int
  failed : Int
  manualReview : Int
deriving DecidableEq

/-- A claim and its result, counted. -/
def Counts.add (counts : Counts) : FinalizeResult → Counts
  | .applied => { counts with
      claimed := counts.claimed + 1
      completed := counts.completed + 1 }
  | .failed => { counts with
      claimed := counts.claimed + 1
      failed := counts.failed + 1 }
  | .manualReview => { counts with
      claimed := counts.claimed + 1
      manualReview := counts.manualReview + 1 }
  | .superseded => { counts with claimed := counts.claimed + 1 }

structure ProcessDueResponse where
  claimed : Int
  completed : Int
  failed : Int
  manualReview : Int
  quarantined : Int
  hasMore : Bool
deriving DecidableEq

/-- How a call fails. -/
inductive ProcessDueFailure
  | invalidRequest
  | runtime (abort : Abort)

/-! ### The loop -/

/-- **The loop of `process_due`**, with so many turns left. -/
def work (actor : String) (leaseSeconds : Int) (turn : Nat → TurnInputs) :
    Nat → Nat → Counts → Store → Except Abort (List Committed × Counts × Store)
  | 0, _, counts, store => .ok ([], counts, store)
  | fuel + 1, index, counts, store => do
    let inputs := turn index
    let (found, leased) ← alone (claimNext inputs.now inputs.utcNow actor inputs.fence
      inputs.claimId leaseSeconds) store
    let claim : Committed := ⟨inputs.claim actor leaseSeconds, store, .claimed found, leased⟩
    match found with
    | none => return ([claim], counts, leased)
    | some effect => do
      let (result, settled) ← alone (finalizeEffect inputs.settledAt inputs.settleId effect actor
        (executeEffect inputs.downstream effect)) leased
      let settle : Committed := ⟨inputs.settle actor effect, leased, .finalized result, settled⟩
      let (calls, counts, final) ← work actor leaseSeconds turn fuel (index + 1)
        (counts.add result) settled
      return (claim :: settle :: calls, counts, final)

/-- **One call of `process_due`.** -/
def processDue (actor : String) (call : WorkerCall) (store : Store) :
    Except ProcessDueFailure (List Committed × ProcessDueResponse × Store) := do
  if !call.request.valid then throw .invalidRequest
  let (quarantined, reviewed) ← (alone (quarantineExpired call.began actor call.quarantineId
    call.request.limit) store).mapError .runtime
  let quarantine : Committed := ⟨.quarantineExpired call.began actor call.quarantineId
    call.request.limit, store, .quarantined quarantined, reviewed⟩
  let remaining := (call.request.limit - quarantined).toNat
  let (calls, counts, final) ← (work actor call.request.leaseSeconds call.turn remaining 0
    ⟨0, 0, 0, quarantined⟩ reviewed).mapError .runtime
  return (quarantine :: calls, ⟨counts.claimed, counts.completed, counts.failed,
    counts.manualReview, quarantined, hasMore call.ended final⟩, final)

/-- **Calls while `has_more` is true**, one after the other: what they committed, the response to the
last one if the loop stopped by itself, and the store. -/
def drain (actor : String) : List WorkerCall → Store →
    Except ProcessDueFailure (List Committed × Option (WorkerCall × ProcessDueResponse) × Store)
  | [], store => .ok ([], none, store)
  | call :: calls, store => do
    let (committed, response, after) ← processDue actor call store
    if response.hasMore then do
      let (others, last, final) ← drain actor calls after
      return (committed ++ others, last, final)
    else return (committed, some (call, response), after)

end OrganizationProvisioning
