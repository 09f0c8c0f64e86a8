/-
**Scripted runs.**

A script is a list of calls; a settlement finalizes the record an earlier call gave out, with the
outcome of a downstream call. `play` computes the answers of PostgreSQL and the history they make.

* `run_of_play` — a script that plays to its end makes a run; `made_of_play` — one entry for each instruction.
* `rehearsal` — one saga with two grants: a failed grant tried again, an abandoned lease put under
  review, a late result, a cleanup request and its revocation.
-/
import OrganizationProvisioning.Model.System

namespace OrganizationProvisioning

open Transactional

inductive Instruction
  | call (event : Event)
  | settle (now : Timestamp) (activityId : Uuid) (actor : String) (downstream : Downstream)
      (position : Nat)

/-- The event of an instruction; a finalization is no call of its own. -/
def eventOf (history : List Committed) : Instruction → Option Event
  | .call (.finalizeEffect _ _ _ _ _) => none
  | .call event => some event
  | .settle now activityId actor downstream position =>
    (history[position]?).bind fun entry =>
      match entry.reply with
      | .claimed (some record) =>
        some (.finalizeEffect now activityId record actor (executeEffect downstream record))
      | _ => none

/-- Play a script after a history. -/
def play : List Instruction → List Committed → Store → Option (List Committed × Store)
  | [], history, store => some (history, store)
  | instruction :: script, history, store =>
    match eventOf history instruction with
    | none => none
    | some event =>
      match postgres.run computed event.program store with
      | .error _ => none
      | .ok (reply, after) => play script (history ++ [⟨event, store, reply, after⟩]) after

/-- The event of an instruction is legal. -/
theorem legal_of_eventOf {history : List Committed} {instruction : Instruction} {event : Event}
    (asked : eventOf history instruction = some event) : legal history event := by
  cases instruction with
  | call called =>
    cases called with
    | finalizeEffect => cases asked
    | start | retry | requestCleanup | quarantineExpired | claimNext =>
      cases asked
      exact trivial
  | settle now activityId actor downstream position =>
    obtain ⟨entry, listed, rest⟩ := Option.bind_eq_some_iff.mp asked
    split at rest
    · rename_i record answered
      cases rest
      exact ⟨⟨entry, List.mem_of_getElem? listed, answered⟩, downstream, rfl⟩
    · cases rest

/-- **A script that plays to its end makes a run.** -/
theorem run_of_play {script : List Instruction} {history history' : List Committed}
    {store store' : Store} (run : Run history store)
    (played : play script history store = some (history', store')) : Run history' store' := by
  induction script generalizing history store with
  | nil =>
    cases played
    exact run
  | cons instruction script ih =>
    unfold play at played
    split at played
    · cases played
    · rename_i event asked
      split at played
      · cases played
      · rename_i reply after ran
        have next : Run (history ++ [⟨event, store, reply, after⟩]) after :=
          .commit run (legal_of_eventOf asked) (postgres.commits_of_run computed_answers ran)
        exact ih next played

/-- An entry is what an instruction asked for, after a history. -/
def Instruction.Made (history : List Committed) (entry : Committed) : Instruction → Prop
  | .call event => entry.event = event
  | .settle now activityId actor downstream position => ∃ earlier record,
      history[position]? = some earlier ∧ earlier.reply = .claimed (some record) ∧
        entry.event = .finalizeEffect now activityId record actor (executeEffect downstream record)

/-- **A script plays one entry for each instruction.** -/
theorem made_of_play {script : List Instruction} {history history' : List Committed}
    {store store' : Store} (played : play script history store = some (history', store')) :
    ∃ entries, history' = history ++ entries ∧
      List.Forall₂ (fun instruction entry => Instruction.Made history' entry instruction) script entries := by
  induction script generalizing history store with
  | nil =>
    cases played
    exact ⟨[], (List.append_nil _).symm, .nil⟩
  | cons instruction script ih =>
    unfold play at played
    split at played
    · cases played
    · rename_i event asked
      split at played
      · cases played
      · rename_i reply after ran
        obtain ⟨entries, rfl, made⟩ := ih played
        refine ⟨⟨event, store, reply, after⟩ :: entries, by simp, .cons ?_ made⟩
        cases instruction with
        | call called =>
          cases called with
          | finalizeEffect => cases asked
          | start | retry | requestCleanup | quarantineExpired | claimNext =>
            cases asked
            rfl
        | settle now activityId actor downstream position =>
          obtain ⟨earlier, listed, rest⟩ := Option.bind_eq_some_iff.mp asked
          split at rest
          · rename_i record answered
            cases rest
            refine ⟨earlier, record, ?_, answered, rfl⟩
            rw [List.append_assoc]
            exact (List.getElem?_append_left (List.getElem?_eq_some_iff.mp listed).1).trans listed
          · cases rest

/-- What a script makes of the empty schema. -/
def played (script : List Instruction) : List Committed × Store :=
  (play script [] Store.initial).getD ([], Store.initial)

theorem run_of_played {script : List Instruction}
    (plays : (play script [] Store.initial).isSome = true) :
    Run (played script).1 (played script).2 := by
  obtain ⟨⟨history, store⟩, same⟩ := Option.isSome_iff_exists.mp plays
  have run : Run history store := run_of_play .start same
  unfold played
  rw [same]
  exact run

/-! ### The rehearsal -/

namespace Rehearsal

/-- Administration services that accept every request. -/
def accepting : Downstream where
  createOrganization _ := .ok ⟨true, "organization-1", "membership-1"⟩
  putGrant request := .ok ⟨"grant-" ++ request.feature, true, .null⟩
  revokeGrant _ := .ok ⟨true, .null⟩

/-- Administration services that refuse every request. -/
def refusing : Downstream where
  createOrganization _ := .domain .forbidden
  putGrant _ := .domain .forbidden
  revokeGrant _ := .domain .forbidden

def input : StartInput where
  caller := "console"
  actor := "operator"
  idempotencyKey := "start"
  requestHash := [1]
  provisioningId := 1
  name := "Acme"
  slug := "acme"
  ownerSubject := "founder"
  grants := [⟨"organization", "seats", some 5⟩, ⟨"owner", "reports", none⟩]

def ids : StartIds where
  createEffectId := 10
  grantEffectId ordinal := if ordinal = 0 then 11 else 12
  activityId := 20

def retry (key : String) (revision : Int) (resolution : RetryResolution) : RetryInput where
  caller := "console"
  actor := "operator"
  idempotencyKey := key
  requestHash := [2]
  provisioningId := 1
  expectedRevision := revision
  resolution := resolution
  observedOrganizationId := none
  observedOwnerMembershipId := none
  observedGrantId := none
  evidence := "checked"

def cleanup (revision : Int) : CleanupInput where
  caller := "console"
  actor := "operator"
  idempotencyKey := "cleanup"
  requestHash := [3]
  provisioningId := 1
  expectedRevision := revision
  evidence := "ended"

def claim (now : Timestamp) (fence activityId : Uuid) : Instruction :=
  .call (.claimNext now now "worker" fence activityId 60)

def script : List Instruction := [
  .call (.start 0 ids input),
  claim 1 101 21,
  .settle 2 22 "worker" accepting 1,
  claim 3 102 23,
  .settle 4 24 "worker" refusing 3,
  .call (.retry 5 25 (retry "again" 5 .retryFailed)),
  claim 6 103 26,
  .settle 7 27 "worker" accepting 6,
  claim 8 104 28,
  .call (.quarantineExpired 100000000 "worker" (fun _ => 29) 10),
  .settle 100000001 30 "worker" accepting 8,
  .call (.retry 100000002 31 (retry "absent" 10 .confirmNotApplied)),
  claim 100000003 105 32,
  .settle 100000004 33 "worker" refusing 12,
  .call (.requestCleanup 100000005 (fun _ => 13) 34 (cleanup 13)),
  claim 100000006 106 35,
  .settle 100000007 36 "worker" accepting 15,
  .call (.start 100000008 ids input)]

def history : List Committed := (played script).1

def store : Store := (played script).2

set_option maxRecDepth 20000 in
theorem plays : (play script [] Store.initial).isSome = true := by decide +kernel

/-- **The rehearsal is a run.** -/
theorem run : Run history store := run_of_played plays

end Rehearsal

end OrganizationProvisioning
