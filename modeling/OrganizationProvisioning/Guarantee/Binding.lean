/-
**A key is bound to one request.**

The store compares digests; the handlers take them of the text of a request. Both together bind a key to the
request itself, field by field, up to a collision of SHA-256 between two texts that were really hashed.

* `Collide` — two different texts with one digest.
* `Handles.rebound` — a request under the key and with the digest of another one is that request.
* `Bound` — what a key is bound to, in a run and on its store; `keys_bind_requests` — **this holds of every
  run.**
-/
import OrganizationProvisioning.Guarantee.Contract
import OrganizationProvisioning.Guarantee.Idempotency
import OrganizationProvisioning.Proof.Handlers
import OrganizationProvisioning.Proof.Listing

namespace OrganizationProvisioning

open Relational Transactional

/-- **A collision**: two different texts with one digest. -/
def Collide (sha256 : Digest) (one two : List Char) : Prop :=
  one ≠ two ∧ requestHash sha256 one = requestHash sha256 two

section Binding

variable {Ctx : Type} {host : Host Ctx} {history past rest between : List Committed} {store : Store}
  {one two : Committed} {first second : PublicRequest} {event : Event} {asked asked' : KeyedRequest}

/-- The key, the operation and the digest of a request. -/
theorem Handles.told (handles : Handles host first event) (keyed : event.keyed = some asked) :
    asked.key = first.idempotencyKey ∧ asked.operation = first.operation ∧
      asked.requestHash = requestHash host.sha256 first.wire := by
  obtain ⟨asker, same, -⟩ := handles.keyed
  rw [keyed] at same
  cases same
  exact ⟨rfl, rfl, rfl⟩

/-- **A request with the operation and the digest of another one is this request**, or their texts collide. -/
theorem Handles.rebound {event' : Event} (handles : Handles host first event)
    (handles' : Handles host second event') (keyed : event.keyed = some asked)
    (keyed' : event'.keyed = some asked) : second = first ∨ Collide host.sha256 first.wire second.wire := by
  obtain ⟨-, operation, hash⟩ := handles.told keyed
  obtain ⟨-, operation', hash'⟩ := handles'.told keyed'
  by_cases text : first.wire = second.wire
  · exact Or.inl (PublicRequest.same_of_wire (operation'.symm.trans operation) text.symm)
  · exact Or.inr ⟨text, hash.symm.trans hash'⟩

variable (host) in
/-- **What a key is bound to**, in a run and on the store it leaves. -/
structure Bound (history : List Committed) (store : Store) : Prop where
  /-- Of two calls that committed under a key the later one asked for the same, for the same actor, got the same
  response and changed nothing. -/
  committed : ∀ past one between two rest first second asked asked',
    history = past ++ one :: (between ++ two :: rest) →
    Handles host first one.event → Handles host second two.event →
    one.event.keyed = some asked → two.event.keyed = some asked' →
    asked'.caller = asked.caller → second.idempotencyKey = first.idempotencyKey →
      (second = first ∨ Collide host.sha256 first.wire second.wire) ∧ asked'.actor = asked.actor ∧
        two.reply = one.reply ∧ two.after = two.before
  /-- Another request under a key a call committed with is refused. -/
  refused : ∀ one ∈ history, ∀ event first second asked asked',
    Handles host first one.event → Handles host second event →
    one.event.keyed = some asked → event.keyed = some asked' →
    asked'.caller = asked.caller → second.idempotencyKey = first.idempotencyKey →
    second ≠ first → ¬ Collide host.sha256 first.wire second.wire →
      (∀ reply final, ¬ postgres.Commits event.program store reply final) ∧
        ∀ error, postgres.Aborts event.program store error → error = .domain .idempotencyConflict ∨
          (error = .domain .provisioningNotFound ∧ event.Misnames store)

/-- **Of two calls that committed under a key the later one asked for the same.** -/
theorem Run.rebound (run : Run (past ++ one :: (between ++ two :: rest)) store)
    (handles : Handles host first one.event) (handles' : Handles host second two.event)
    (keyed : one.event.keyed = some asked) (keyed' : two.event.keyed = some asked')
    (caller : asked'.caller = asked.caller) (key : second.idempotencyKey = first.idempotencyKey) :
    (second = first ∨ Collide host.sha256 first.wire second.wire) ∧ asked'.actor = asked.actor ∧
      two.reply = one.reply ∧ two.after = two.before := by
  obtain ⟨response, answered⟩ := run.view_of_keyed keyed
  have keys : asked'.key = asked.key := by
    rw [(handles.told keyed).1, (handles'.told keyed').1, key]
  obtain ⟨same, again, kept⟩ := run.replays_same keyed answered keyed' caller keys
  subst same
  exact ⟨handles.rebound handles' keyed keyed', rfl, again.trans answered.symm, kept⟩

/-- **Another request under the key is refused.** -/
theorem Run.refuses_other (run : Run history store) (member : one ∈ history)
    (handles : Handles host first one.event) (handles' : Handles host second event)
    (keyed : one.event.keyed = some asked) (keyed' : event.keyed = some asked')
    (caller : asked'.caller = asked.caller) (key : second.idempotencyKey = first.idempotencyKey)
    (differs : second ≠ first) (apart : ¬ Collide host.sha256 first.wire second.wire) :
    (∀ reply final, ¬ postgres.Commits event.program store reply final) ∧
      ∀ error, postgres.Aborts event.program store error → error = .domain .idempotencyConflict ∨
        (error = .domain .provisioningNotFound ∧ event.Misnames store) := by
  obtain ⟨past, rest, rfl⟩ := List.append_of_mem member
  constructor
  · intro reply final committed
    have later : Run ((past ++ one :: rest) ++ [(⟨event, store, reply, final⟩ : Committed)]) final := by
      exact Serial.commit run (handles'.legal _) committed
    rw [List.append_assoc, List.cons_append] at later
    rcases (later.rebound handles handles' keyed keyed' caller key).1 with same | collision
    · exact differs same
    · exact apart collision
  · intro error failed
    obtain ⟨response, answered⟩ := run.view_of_keyed keyed
    obtain ⟨-, row, found, -⟩ := run.reserved keyed answered
    have keys : asked'.key = asked.key := by
      rw [(handles.told keyed).1, (handles'.told keyed').1, key]
    rw [← caller, ← keys] at found
    rcases fails_taken keyed' found (run.readable found) failed with missing | ⟨conflict, -⟩
    · exact Or.inr missing
    · exact Or.inl conflict

/-- **A key is bound to one request.** -/
theorem keys_bind_requests (run : Run history store) : Bound host history store where
  committed past one between two rest first second asked asked' shape handles handles' keyed keyed' caller
      key := by
    rw [shape] at run
    exact run.rebound handles handles' keyed keyed' caller key
  refused one member event first second asked asked' handles handles' keyed keyed' caller key differs apart :=
    run.refuses_other member handles handles' keyed keyed' caller key differs apart

end Binding

/-! ### A served run -/

namespace Rehearsal

/-- A host that takes the caller and the actor from the context; its digest is the text itself. -/
def host : Host Asker where
  checks := checks
  callerInstance asker := some asker.caller
  assertion issuer key asker _ _ _ :=
    if issuer = "auth" ∧ key = "key" then some ⟨"user", asker.actor⟩ else none
  sha256 := id
  readers := utcReaders

def plugin : PostgresOrganizationProvisioningPlugin where
  config := configuration [⟨"organization", "seats", some "5"⟩, ⟨"owner", "reports", none⟩]
  prepared := true

/-- The operator at the console, and the worker. -/
def console : Invoked Asker := ⟨⟨"console", "operator"⟩, 0⟩

def bench : Invoked Asker := ⟨⟨"worker", "worker"⟩, 0⟩

def startRequest : StartRequest where
  idempotencyKey := "start"
  name := " Acme "
  ownerSubject := "founder"
  slug := "acme"

def retryRequest : RetryRequest where
  evidence := "checked"
  expectedRevision := "5"
  idempotencyKey := "again"
  observedGrantId := none
  observedOrganizationId := none
  observedOwnerMembershipId := none
  provisioningId := "00000000-0000-0000-0000-000000000001"
  resolution := .retryFailed

def inputs (now : Timestamp) (activityId : Uuid) : CallInputs where
  now := now
  provisioningId := 1
  createEffectId := ids.createEffectId
  effectId := ids.grantEffectId
  activityId := activityId

/-- The transactions of the two requests. -/
def startEvent (now : Timestamp) : Event :=
  .start now { ids with activityId := 20 } { input with requestHash := requestHash host.sha256 startRequest.wire }

def retryEvent : Event :=
  .retry 5 25 { retry "again" 5 .retryFailed with requestHash := requestHash host.sha256 retryRequest.wire }

theorem handles_start (now : Timestamp) : Handles host (.start startRequest) (startEvent now) :=
  ⟨plugin, console, inputs now 20, by rfl, by rfl⟩

theorem handles_retry : Handles host (.retry retryRequest) retryEvent :=
  ⟨plugin, console, inputs 5 25, by rfl, by rfl⟩

/-- A start, a refused grant tried again, and the start once more. -/
def served : List Instruction := [
  .call (startEvent 0),
  claim 1 101 21,
  .settle 2 22 "worker" accepting 1,
  claim 3 102 23,
  .settle 4 24 "worker" refusing 3,
  .call retryEvent,
  .call (startEvent 6)]

set_option maxRecDepth 20000 in
theorem served_plays : (play served [] Store.initial).isSome = true := by decide +kernel

end Rehearsal

/-- The keys of the served run. -/
theorem keys_bind_requests_rehearsed :
    Bound Rehearsal.host (played Rehearsal.served).1 (played Rehearsal.served).2 :=
  keys_bind_requests (run_of_played Rehearsal.served_plays)

end OrganizationProvisioning
