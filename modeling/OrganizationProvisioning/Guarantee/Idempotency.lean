/-
**Idempotency keys under concurrent clients.**

* `aborts_taken` — on a reserved key a request is either replayed or a conflict.
* `Event.Misnames` — a retry or a cleanup request names a saga that is not there or not the actor's.
* `Run.reserved` — a key keeps the response of the first call that committed with it;
  `Run.replays_same` — every later one with that key asks the same and gets this response.
* `fails_taken` — a call with a reserved key that fails misnames its saga or asks something else;
  `Run.ends_reserved` — how a call with a reserved key ends.
* `idempotent` — **a key executes at most once, and its response stands**, in every concurrent run.
* `IdempotencyContract` — how any call with a key ends after such a run; `idempotency_contract` — **a request sent
  again gets the response it got, another one under its key is rejected, and what fails reserves nothing.**
-/
import OrganizationProvisioning.Guarantee.Defenses
import OrganizationProvisioning.Run.Concurrent
import OrganizationProvisioning.Run.Skipping
import OrganizationProvisioning.Run.Starts

namespace OrganizationProvisioning

open Relational Transactional Worklist

/-! ### Reserved keys -/

section Taken

variable {store : Store} {now : Timestamp} {caller key actor : String} {operation : Operation}
  {requestHash : List UInt8} {provisioningId : Option Uuid} {row : MutationRow} {error : Abort}

/-- **On a reserved key only a different request fails**, with a conflict. -/
theorem aborts_taken (found : store.mutation caller key = some row) (readable : Readable row)
    (failed : postgres.Aborts (beginMutation now caller key operation actor requestHash provisioningId)
      store error) : error = .domain .idempotencyConflict ∧
        ¬ (row.operation = operation ∧ row.actorSubject = actor ∧ row.requestHash = requestHash) := by
  obtain ⟨status, json, view, response, decoded⟩ := readable
  unfold beginMutation at failed
  replace failed := postgres.aborts_bind.mp failed
  rcases failed with refused | ⟨inserted, middle, inserting, failed⟩
  · obtain ⟨refused, -⟩ := aborts_exec.mp refused
    simp only [Sql.refuses, found, Option.isNone_some, Bool.false_and] at refused
    cases refused
  rcases commits_insertMutation.mp inserting with ⟨-, fresh, -⟩ | ⟨rfl, -, rfl⟩
  · rw [found] at fresh
    cases fresh
  replace failed := postgres.aborts_bind.mp failed
  rcases failed with refused | ⟨selected, store, selecting, failed⟩
  · obtain ⟨impossible, -⟩ := aborts_exec.mp refused
    cases impossible
  obtain ⟨rfl, rfl⟩ := commits_selectMutation.mp selecting
  rw [found] at failed
  replace failed := postgres.aborts_bind.mp failed
  rcases failed with impossible | ⟨_, _, fetching, failed⟩
  · cases impossible
  obtain ⟨same, rfl⟩ := commits_fetchOne.mp fetching
  cases same
  replace failed := postgres.aborts_bind.mp failed
  rcases failed with differs | ⟨_, _, asking, failed⟩
  · obtain ⟨unequal, rfl⟩ := aborts_require.mp differs
    exact ⟨rfl, of_decide_eq_false unequal⟩
  obtain ⟨-, rfl⟩ := commits_require.mp asking
  refine absurd failed ?_
  rw [status, response]
  refine postgres.not_aborts_bind ?_ fun _ _ completing => ?_
  · rw [aborts_require]
    rintro ⟨impossible, -⟩
    cases impossible
  obtain ⟨-, rfl⟩ := commits_require.mp completing
  refine postgres.not_aborts_bind (fun impossible => impossible) fun value _ answering => ?_
  obtain ⟨same, rfl⟩ := commits_expect.mp answering
  cases same
  refine postgres.not_aborts_bind ?_ fun _ _ _ impossible => impossible
  rw [aborts_expect, decoded]
  rintro ⟨impossible, -⟩
  cases impossible

end Taken

/-! ### Named sagas -/

/-- The saga a retry or a cleanup request names, with its actor. -/
def Event.names : Event → Option (Uuid × String)
  | .retry _ _ input => some (input.provisioningId, input.actor)
  | .requestCleanup _ _ _ input => some (input.provisioningId, input.actor)
  | _ => none

/-- **A call names a saga that is not there**, or that another actor requested. -/
def Event.Misnames (event : Event) (store : Store) : Prop :=
  ∃ id actor, event.names = some (id, actor) ∧
    ∀ row, store.saga id = some row → row.requestedBy ≠ actor

/-! ### Calls with a key -/

section Calls

variable {store final : Store} {event : Event} {request : KeyedRequest} {row : MutationRow}
  {error : Abort}

/-- A request that reserves its key fails, on a reserved key, with a conflict only. -/
theorem fails_reserving {now : Timestamp} {provisioningId : Option Uuid}
    {rest : MutationReplay → Transaction ProvisioningView}
    (replays : ∀ response middle, ¬ postgres.Aborts (rest (.replay response)) middle error)
    (found : store.mutation request.caller request.key = some row) (readable : Readable row)
    (failed : postgres.Aborts ((beginMutation now request.caller request.key request.operation
      request.actor request.requestHash provisioningId).bind rest) store error) :
    error = .domain .idempotencyConflict ∧ ¬ (row.operation = request.operation ∧
      row.actorSubject = request.actor ∧ row.requestHash = request.requestHash) := by
  rcases postgres.aborts_bind.mp failed with refused | ⟨replay, middle, begun, later⟩
  · exact aborts_taken found readable refused
  · cases replay with
    | replay response => exact absurd later (replays response middle)
    | execute =>
      obtain ⟨fresh, -⟩ := commits_beginMutation_execute.mp begun
      rw [found] at fresh
      cases fresh

/-- A request that locks its saga first fails also when it misnames the saga. -/
theorem fails_locking {now : Timestamp} {id : Uuid} {provisioningId : Option Uuid}
    {rest : SagaRow → MutationReplay → Transaction ProvisioningView}
    (replays : ∀ saga response middle, ¬ postgres.Aborts (rest saga (.replay response)) middle error)
    (found : store.mutation request.caller request.key = some row) (readable : Readable row)
    (failed : postgres.Aborts ((lockSaga id request.actor).bind fun locked =>
      (expect (.domain .provisioningNotFound) locked).bind fun saga =>
        (beginMutation now request.caller request.key request.operation request.actor
          request.requestHash provisioningId).bind (rest saga)) store error) :
    (error = .domain .provisioningNotFound ∧
        ∀ saga, store.saga id = some saga → saga.requestedBy ≠ request.actor) ∨
      (error = .domain .idempotencyConflict ∧ ¬ (row.operation = request.operation ∧
        row.actorSubject = request.actor ∧ row.requestHash = request.requestHash)) := by
  rcases postgres.aborts_bind.mp failed with refused | ⟨locked, middle, locking, later⟩
  · obtain ⟨impossible, -⟩ := aborts_exec.mp refused
    cases impossible
  obtain ⟨rfl, rfl⟩ := commits_lockSaga.mp locking
  rcases postgres.aborts_bind.mp later with absent | ⟨saga, last, present, begun⟩
  · obtain ⟨absent, rfl⟩ := aborts_expect.mp absent
    refine Or.inl ⟨rfl, fun saga here same => ?_⟩
    rw [here, Option.filter_some, if_pos (decide_eq_true same)] at absent
    cases absent
  · obtain ⟨-, rfl⟩ := commits_expect.mp present
    exact Or.inr (fails_reserving (replays saga) found readable begun)

/-- **A call with a reserved key that fails** misnames its saga or asks something else. -/
theorem fails_taken (asked : event.keyed = some request)
    (found : store.mutation request.caller request.key = some row) (readable : Readable row)
    (failed : postgres.Aborts event.program store error) :
    (error = .domain .provisioningNotFound ∧ event.Misnames store) ∨
      (error = .domain .idempotencyConflict ∧ ¬ (row.operation = request.operation ∧
        row.actorSubject = request.actor ∧ row.requestHash = request.requestHash)) := by
  cases event with
  | start now ids input =>
    cases asked
    refine Or.inr (fails_reserving ?_ found readable (postgres.aborts_map.mp failed))
    exact fun _ _ impossible => impossible
  | retry now activityId input =>
    cases asked
    refine (fails_locking ?_ found readable (postgres.aborts_map.mp failed)).imp_left
      fun missing => ⟨missing.1, _, _, rfl, missing.2⟩
    exact fun _ _ _ impossible => impossible
  | requestCleanup now effectId activityId input =>
    cases asked
    refine (fails_locking ?_ found readable (postgres.aborts_map.mp failed)).imp_left
      fun missing => ⟨missing.1, _, _, rfl, missing.2⟩
    exact fun _ _ _ impossible => impossible
  | quarantineExpired | claimNext | finalizeEffect => cases asked

/-- A call that commits names a saga of its actor. -/
theorem names_of_commits {reply : Reply} {id : Uuid} {actor : String}
    (named : event.names = some (id, actor))
    (committed : postgres.Commits event.program store reply final) :
    ∃ saga, store.saga id = some saga ∧ saga.requestedBy = actor := by
  have locked : ∀ {rest : SagaRow → Transaction ProvisioningView} {view : ProvisioningView}
      {last : Store}, postgres.Commits ((lockSaga id actor).bind fun locked =>
        (expect (.domain .provisioningNotFound) locked).bind rest) store view last →
      ∃ saga, store.saga id = some saga ∧ saga.requestedBy = actor := by
    intro rest view last goes
    obtain ⟨found, middle, locking, later⟩ := postgres.commits_bind.mp goes
    obtain ⟨rfl, rfl⟩ := commits_lockSaga.mp locking
    obtain ⟨saga, last, present, -⟩ := postgres.commits_bind.mp later
    obtain ⟨found, owner⟩ := Option.filter_eq_some_iff.mp (commits_expect.mp present).1
    exact ⟨saga, found, of_decide_eq_true owner⟩
  cases event with
  | retry now activityId input =>
    cases named
    obtain ⟨view, middle, first, -⟩ := postgres.commits_bind.mp committed
    exact locked first
  | requestCleanup now effectId activityId input =>
    cases named
    obtain ⟨view, middle, first, -⟩ := postgres.commits_bind.mp committed
    exact locked first
  | start | quarantineExpired | claimNext | finalizeEffect => cases named

end Calls

/-! ### Runs -/

namespace Run

variable {past rest between history : List Committed} {middle store : Store} {one two entry : Committed}
  {request request' : KeyedRequest} {response : ProvisioningView}

/-- A reserved key stays as it is. -/
theorem key_kept (upTo : Run past middle) (run : Run (past ++ rest) store) {caller key : String}
    {row : MutationRow} (found : middle.mutation caller key = some row) :
    store.mutation caller key = some row := by
  refine upTo.later (fun _ _ last => last.mutation caller key = some row) found ?_ run
  intro calls entry earlier sofar legal committed
  have run' : Run ((past ++ calls) ++ entry :: []) entry.after := .commit earlier legal committed
  exact run'.did.2.keeps_key sofar

/-- **A key keeps the response of a call that committed with it.** -/
theorem reserved (run : Run (past ++ one :: rest) store) (asked : one.event.keyed = some request)
    (answered : one.reply = .view response) :
    response.InRange ∧ ∃ row, store.mutation request.caller request.key = some row ∧
      Holds row request.operation request.actor request.requestHash response := by
  have executed : ∃ executing ∈ past ++ [one], Executed executing request response := by
    obtain ⟨view, ⟨same, replays⟩ | executed⟩ := run.did.2.keyed asked
    · rw [answered] at same
      cases same
      obtain ⟨earlier, member, executed⟩ := run.replayed replays
      exact ⟨earlier, List.mem_append_left _ member, executed⟩
    · have same := executed.answered
      rw [answered] at same
      cases same
      exact ⟨one, List.mem_append_right _ List.mem_cons_self, executed⟩
  obtain ⟨executing, member, executed⟩ := executed
  obtain ⟨before, after, same⟩ := List.append_of_mem member
  have whole : past ++ one :: rest = before ++ executing :: (after ++ rest) := by
    rw [← List.singleton_append, ← List.append_assoc, same, List.append_assoc, List.cons_append]
  rw [whole] at run
  obtain ⟨-, -, -, upTo⟩ := run.commit_of_mem
  obtain ⟨row, found, holds⟩ := executed.reserves.holds
  have later : Run ((before ++ [executing]) ++ (after ++ rest)) store := by
    rwa [List.append_assoc, List.singleton_append]
  exact ⟨inRange run executed, row, key_kept upTo later found, holds⟩

/-- **A later call with the key asks the same and gets this response**, and changes nothing. -/
theorem replays_same (run : Run (past ++ one :: (between ++ two :: rest)) store)
    (asked : one.event.keyed = some request) (answered : one.reply = .view response)
    (again : two.event.keyed = some request') (caller : request'.caller = request.caller)
    (key : request'.key = request.key) :
    request' = request ∧ two.reply = .view response ∧ two.after = two.before := by
  have shape : past ++ one :: (between ++ two :: rest) = (past ++ one :: between) ++ two :: rest := by
    simp
  rw [shape] at run
  obtain ⟨upTo, -, -, -⟩ := run.commit_of_mem
  obtain ⟨ranged, row, found, holds⟩ := reserved upTo asked answered
  rw [← caller, ← key] at found
  obtain ⟨view, ⟨same, kept, row', found', answers⟩ | executed⟩ := run.did.2.keyed again
  · rw [found, Option.some.injEq] at found'
    subst found'
    have decoded := answers.response_eq
    rw [holds.response_eq, Option.bind_some, ProvisioningView.fromJson_toJson response ranged,
      Option.some.injEq] at decoded
    subst decoded
    have operation := answers.operation_eq.symm.trans holds.operation_eq
    have actor := answers.actor_eq.symm.trans holds.actor_eq
    have hash := answers.hash_eq.symm.trans holds.hash_eq
    refine ⟨?_, same, kept⟩
    cases request
    cases request'
    simp only at caller key operation actor hash
    rw [caller, key, operation, actor, hash]
  · have fresh := executed.reserves.fresh
    rw [found] at fresh
    cases fresh

/-- A call with a key answers with a view. -/
theorem view_of_keyed (run : Run (past ++ one :: rest) store) (asked : one.event.keyed = some request) :
    ∃ response, one.reply = .view response := by
  obtain ⟨response, ⟨answered, -⟩ | executed⟩ := run.did.2.keyed asked
  · exact ⟨response, answered⟩
  · exact ⟨response, executed.answered⟩

/-- A call with a reserved key does not execute. -/
theorem not_executes_taken (run : Run (past ++ one :: (between ++ two :: rest)) store)
    (asked : one.event.keyed = some request) (again : two.event.keyed = some request')
    (caller : request'.caller = request.caller) (key : request'.key = request.key) :
    executes two = false := by
  obtain ⟨response, answered⟩ := run.view_of_keyed asked
  have shape : past ++ one :: (between ++ two :: rest) = (past ++ one :: between) ++ two :: rest := by
    simp
  rw [shape] at run
  obtain ⟨upTo, -, -, -⟩ := run.commit_of_mem
  obtain ⟨-, row, found, -⟩ := reserved upTo asked answered
  unfold executes
  rw [again]
  simp only [caller, key, found, Option.isNone_some]

/-- **A call that fails on a reserved key** misnames its saga or asks something else. -/
theorem fails_reserved (run : Run history store) (member : one ∈ history)
    (asked : one.event.keyed = some request) {event : Event} (again : event.keyed = some request')
    (caller : request'.caller = request.caller) (key : request'.key = request.key) {error : Abort}
    (failed : postgres.Aborts event.program store error) :
    (error = .domain .provisioningNotFound ∧ event.Misnames store) ∨
      (error = .domain .idempotencyConflict ∧ request' ≠ request) := by
  obtain ⟨past, rest, rfl⟩ := List.append_of_mem member
  obtain ⟨response, answered⟩ := run.view_of_keyed asked
  obtain ⟨-, row, found, holds⟩ := run.reserved asked answered
  rw [← caller, ← key] at found
  refine (fails_taken again found (run.readable found) failed).imp_right fun conflict =>
    ⟨conflict.1, fun same => conflict.2 ?_⟩
  rw [same]
  exact ⟨holds.operation_eq, holds.actor_eq, holds.hash_eq⟩

/-- **How a call ends on a reserved key**: it gets the response of the key when it asks the same and names its
saga, and changes nothing. -/
theorem ends_reserved (run : Run history store) (member : one ∈ history)
    (asked : one.event.keyed = some request) (answered : one.reply = .view response) {event : Event}
    (again : event.keyed = some request') (caller : request'.caller = request.caller)
    (key : request'.key = request.key) :
    (alone event.program store = .ok (.view response, store) ∧ request' = request) ∨
      (alone event.program store = .error (.domain .provisioningNotFound) ∧ event.Misnames store) ∨
      (alone event.program store = .error (.domain .idempotencyConflict) ∧ request' ≠ request) := by
  have certain := Event.certain_of_keyed again
  have permitted : legal history event := by
    cases event with
    | start | retry | requestCleanup | quarantineExpired | claimNext => trivial
    | finalizeEffect => cases again
  cases ends : alone event.program store with
  | error error =>
    rcases run.fails_reserved member asked again caller key (certain.aborts_iff.mpr ends) with
      ⟨rfl, misnames⟩ | ⟨rfl, differs⟩
    · exact Or.inr (Or.inl ⟨rfl, misnames⟩)
    · exact Or.inr (Or.inr ⟨rfl, differs⟩)
  | ok result =>
    obtain ⟨reply, final⟩ := result
    have later : Run (history ++ [(⟨event, store, reply, final⟩ : Committed)]) final :=
      .commit run permitted (certain.commits_iff.mpr ends)
    obtain ⟨past, rest, rfl⟩ := List.append_of_mem member
    rw [List.append_assoc, List.cons_append] at later
    obtain ⟨same, replied, kept⟩ := later.replays_same asked answered again caller key
    cases replied
    cases kept
    exact Or.inl ⟨rfl, same⟩

/-- A key no call committed with is not reserved. -/
theorem free_key (run : Run history store) {caller key : String}
    (unused : ∀ entry ∈ history, ∀ request, entry.event.keyed = some request →
      ¬ (request.caller = caller ∧ request.key = key)) : store.mutation caller key = none := by
  cases found : store.mutation caller key with
  | none => rfl
  | some row =>
    obtain ⟨entry, member, request, response, executed, same, same', -⟩ := run.attributed found
    exact absurd ⟨same, same'⟩ (unused entry member request executed.asked)

/-- **A call with a key no call committed with executes.** -/
theorem executes_new (run : Run (past ++ entry :: rest) store)
    (asked : entry.event.keyed = some request)
    (new : ∀ other ∈ past, ∀ request', other.event.keyed = some request' →
      ¬ (request'.caller = request.caller ∧ request'.key = request.key)) :
    executes entry = true := by
  refine executes_of_fresh asked ?_
  obtain ⟨upTo, -, -, -⟩ := run.commit_of_mem
  exact free_key upTo new

/-- A saga a committed call named is there later, with its actor. -/
theorem names_kept (run : Run (past ++ one :: rest) store) {id : Uuid} {actor : String}
    (named : one.event.names = some (id, actor)) :
    ∃ saga, store.saga id = some saga ∧ saga.requestedBy = actor := by
  obtain ⟨upTo, -, committed, -⟩ := run.commit_of_mem
  obtain ⟨saga, found, owner⟩ := names_of_commits named committed
  obtain ⟨saga', found', intent⟩ := (persists upTo run).sagas id saga found
  refine ⟨saga', found', ?_⟩
  rw [show saga'.requestedBy = saga.requestedBy from congrArg SagaIntent.requestedBy intent]
  exact owner

/-- Every saga began with a start that executed. -/
theorem begun (run : Run history store) {id : Uuid} {row : SagaRow}
    (found : store.saga id = some row) : ∃ entry ∈ history, ∃ now ids input,
      entry.event = .start now ids input ∧ input.provisioningId = id ∧ executes entry = true := by
  obtain ⟨saga, -, shows, coherent⟩ := run.shows found
  obtain ⟨entry, member, now, ids, input, starts, names, -⟩ := run.started shows coherent
  exact ⟨entry, member, now, ids, input, starts.called, names, starts.executed⟩

/-- **Two calls with one key that both executed are one call.** -/
theorem executes_once (run : Run history store) (first : one ∈ history) (second : two ∈ history)
    (asked : one.event.keyed = some request) (again : two.event.keyed = some request')
    (caller : request'.caller = request.caller) (key : request'.key = request.key)
    (executed : executes one = true) (executed' : executes two = true) : one = two := by
  obtain ⟨past, rest, rfl⟩ := List.append_of_mem first
  rcases List.mem_append.mp second with early | late
  · obtain ⟨before, between, rfl⟩ := List.append_of_mem early
    have shape : (before ++ two :: between) ++ one :: rest = before ++ two :: (between ++ one :: rest) :=
      by simp
    rw [shape] at run
    rw [run.not_executes_taken again asked caller.symm key.symm] at executed
    cases executed
  · rcases List.mem_cons.mp late with same | later
    · exact same.symm
    · obtain ⟨between, after, rfl⟩ := List.append_of_mem later
      rw [run.not_executes_taken asked again caller key] at executed'
      cases executed'

end Run

/-! ### Concurrent runs -/

section Concurrent

variable {Client : Type} [DecidableEq Client] {config : Clients Client}

/-- **What a key stands for.** -/
structure Idempotent (config : Clients Client) : Prop where
  /-- A later commit with the key asks the same, gets the same response and changes nothing. -/
  replays : ∀ past one between two rest request request' response,
    config.history = past ++ one :: (between ++ two :: rest) → one.event.keyed = some request →
    one.reply = .view response → two.event.keyed = some request' →
    request'.caller = request.caller → request'.key = request.key →
    request' = request ∧ two.reply = .view response ∧ two.after = two.before
  /-- A later failure with the key is a conflict, or misnames its saga. -/
  refuses : ∀ failure ∈ config.failures, ∀ one ∈ failure.history, ∀ request request',
    one.event.keyed = some request → failure.event.keyed = some request' →
    request'.caller = request.caller → request'.key = request.key →
    (failure.error = .domain .provisioningNotFound ∧
        ∃ store, Run failure.history store ∧ failure.event.Misnames store) ∨
      (failure.error = .domain .idempotencyConflict ∧ request' ≠ request)
  /-- The same request, sent again, does not fail. -/
  redelivers : ∀ failure ∈ config.failures, ∀ one ∈ failure.history, ∀ request,
    one.event.keyed = some request → failure.event.keyed = some request →
    failure.event.names ≠ one.event.names
  /-- A call with a key no call committed with is new. -/
  executes_new : ∀ past entry rest request, config.history = past ++ entry :: rest →
    entry.event.keyed = some request →
    (∀ other ∈ past, ∀ request', other.event.keyed = some request' →
      ¬ (request'.caller = request.caller ∧ request'.key = request.key)) → executes entry = true
  /-- Of the calls with a key at most one executes. -/
  executes_once : ∀ one ∈ config.history, ∀ two ∈ config.history, ∀ request request',
    one.event.keyed = some request → two.event.keyed = some request' →
    request'.caller = request.caller → request'.key = request.key → executes one = true →
    executes two = true → one = two
  /-- Every saga began with a start that executed. -/
  begun : ∀ id row, config.store.saga id = some row → ∃ entry ∈ config.history, ∃ now ids input,
    entry.event = .start now ids input ∧ input.provisioningId = id ∧ executes entry = true

/-- A key executes at most once and its response stands. -/
theorem Concurrent.keys_stand (concurrent : Concurrent config) : Idempotent config := by
  have run := concurrent.run
  refine
    { replays := fun past one between two rest request request' response same => ?_
      refuses := fun failure member one earlier request request' asked again caller key => ?_
      redelivers := fun failure member one earlier request asked again named => ?_
      executes_new := fun past entry rest request same => ?_
      executes_once := fun one first two second request request' => run.executes_once first second
      begun := fun id row found => run.begun found }
  · rw [same] at run
    exact run.replays_same
  · obtain ⟨-, store, before, -, failed⟩ := concurrent.failed member
    exact (before.fails_reserved earlier asked again caller key failed).imp_left
      fun missing => ⟨missing.1, store, before, missing.2⟩
  · obtain ⟨-, store, before, -, failed⟩ := concurrent.failed member
    rcases before.fails_reserved earlier asked again rfl rfl failed with
      ⟨-, id, actor, names, absent⟩ | ⟨-, differs⟩
    · obtain ⟨past, rest, split⟩ := List.append_of_mem earlier
      rw [split] at before
      obtain ⟨saga, present, owner⟩ := before.names_kept (named.symm.trans names)
      exact absent saga present owner
    · exact differs rfl
  · rw [same] at run
    exact run.executes_new

/-- **A key executes at most once and its response stands**, in every concurrent run. -/
theorem idempotent (concurrent : Concurrent config) : Idempotent config :=
  concurrent.keys_stand

/-- Another start under the key of the first. -/
def Rehearsal.rival : StartInput := { input with provisioningId := 2, requestHash := [9] }

def Rehearsal.rivalIds : StartIds where
  createEffectId := 40
  grantEffectId ordinal := if ordinal = 0 then 41 else 42
  activityId := 43

/-- The rehearsal, whose last call sends its first request again, and another start under its key after it. -/
theorem Rehearsal.contested : Concurrent (Clients.failing script (.start 100000009 rivalIds rival)
    (.domain .idempotencyConflict)) :=
  reached_failing readCommitted_computed plays (by exact trivial) (by rintro error ⟨⟩) (by decide +kernel)

/-- The first request stands, and a second one under its key was refused. -/
theorem idempotent_rehearsed : Idempotent (Clients.failing Rehearsal.script
    (.start 100000009 Rehearsal.rivalIds Rehearsal.rival) (.domain .idempotencyConflict)) :=
  idempotent Rehearsal.contested

/-- **The contract of a key**: what it stands for, and how any call with it ends, alone, on the committed rows. -/
structure IdempotencyContract (config : Clients Client) : Prop extends Idempotent config where
  /-- A request sent again gets the response it got, and changes nothing; under the same hash another saga may be
  named, and be missing. -/
  again : ∀ one ∈ config.history, ∀ (event : Event) request response, one.event.keyed = some request →
    one.reply = .view response → event.keyed = some request →
      alone event.program config.store = .ok (.view response, config.store) ∨
        (alone event.program config.store = .error (.domain .provisioningNotFound) ∧
          event.Misnames config.store ∧ event.names ≠ one.event.names)
  /-- Any other request with its key is rejected. -/
  rejects : ∀ one ∈ config.history, ∀ (event : Event) request request', one.event.keyed = some request →
    event.keyed = some request' → request'.caller = request.caller → request'.key = request.key →
    request' ≠ request →
      alone event.program config.store = .error (.domain .idempotencyConflict) ∨
        (alone event.program config.store = .error (.domain .provisioningNotFound) ∧
          event.Misnames config.store)
  /-- A key no call committed with is not reserved. -/
  free : ∀ caller key, (∀ entry ∈ config.history, ∀ request, entry.event.keyed = some request →
    ¬ (request.caller = caller ∧ request.key = key)) → config.store.mutation caller key = none
  /-- Two sagas did not begin under one key. -/
  sole : ∀ one ∈ config.history, ∀ two ∈ config.history, ∀ now ids input now' ids' input',
    one.event = .start now ids input → two.event = .start now' ids' input' → executes one = true →
    executes two = true → input'.caller = input.caller → input'.idempotencyKey = input.idempotencyKey →
    input'.provisioningId = input.provisioningId

/-- **The idempotency contract holds in every concurrent run**, and a transaction that fails leaves the committed
rows as they are. -/
theorem idempotency_contract (concurrent : Concurrent config) : IdempotencyContract config ∧
    ∀ later, Step provisioning readCommitted config later → later.failures ≠ config.failures →
      later.history = config.history ∧ later.store = config.store := by
  have run := concurrent.run
  refine ⟨?_, fun later step failed => step.failed failed⟩
  refine
    { concurrent.keys_stand with
      again := fun one member event request response asked answered same => ?_
      rejects := fun one member event request request' asked same caller key differs => ?_
      free := fun caller key unused => run.free_key unused
      sole := fun one first two second now ids input now' ids' input' starts starts' executed executed'
        caller key => ?_ }
  · rcases run.ends_reserved member asked answered same rfl rfl with
      ⟨replayed, -⟩ | ⟨missing, misnames⟩ | ⟨-, differs⟩
    · exact Or.inl replayed
    · refine Or.inr ⟨missing, misnames, fun named => ?_⟩
      obtain ⟨id, actor, names, absent⟩ := misnames
      obtain ⟨past, rest, split⟩ := List.append_of_mem member
      rw [split] at run
      obtain ⟨saga, present, owner⟩ := run.names_kept (named.symm.trans names)
      exact absent saga present owner
    · exact absurd rfl differs
  · obtain ⟨past, rest, split⟩ := List.append_of_mem member
    obtain ⟨response, answered⟩ := Run.view_of_keyed (by rw [← split]; exact run) asked
    rcases run.ends_reserved member asked answered same caller key with
      ⟨-, same⟩ | missing | ⟨conflict, -⟩
    · exact absurd same differs
    · exact Or.inr missing
    · exact Or.inl conflict
  · have asked : one.event.keyed = some ⟨input.caller, input.idempotencyKey, .start, input.actor,
        input.requestHash⟩ := by
      rw [starts]
      rfl
    have asked' : two.event.keyed = some ⟨input'.caller, input'.idempotencyKey, .start, input'.actor,
        input'.requestHash⟩ := by
      rw [starts']
      rfl
    obtain rfl := run.executes_once first second asked asked' caller key executed executed'
    rw [starts] at starts'
    cases starts'
    rfl

/-- A start that is sent under the reserved key again and asks something else is rejected. -/
theorem idempotency_contract_rehearsed :
    IdempotencyContract (Clients.failing Rehearsal.script
      (.start 100000009 Rehearsal.rivalIds Rehearsal.rival) (.domain .idempotencyConflict)) ∧
    alone (Event.start 100000009 Rehearsal.rivalIds Rehearsal.rival).program Rehearsal.store =
      .error (.domain .idempotencyConflict) := by
  have contract := (idempotency_contract Rehearsal.contested).1
  obtain ⟨one, member, asked⟩ : ∃ one ∈ Rehearsal.history, one.event.keyed =
      some ⟨"console", "start", .start, "operator", [1]⟩ := by decide +kernel
  refine ⟨contract, ?_⟩
  rcases contract.rejects one member (.start 100000009 Rehearsal.rivalIds Rehearsal.rival) _ _ asked rfl
    rfl rfl (by decide) with conflict | ⟨-, id, actor, impossible, -⟩
  · exact conflict
  · cases impossible

end Concurrent

end OrganizationProvisioning
