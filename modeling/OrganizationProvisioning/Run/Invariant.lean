/-
**What a committed call did, and the invariant of every run.**

* `Did` — the cases of a committed call: a replay, a start, a resolution, a cleanup request, a
  chain of quarantines, a claim or none, a finalization or a superseded one.
* `Invariant` — the store shows coherent sagas, its rows have owners and satisfy the constraints,
  and the records given out name effects.
* `Run.holds` — the invariant holds after every history; `Run.did` — every entry is one of the
  cases.
-/
import OrganizationProvisioning.Run.Persist
import OrganizationProvisioning.Model.System

namespace OrganizationProvisioning

open Relational Transactional Worklist

/-! ### The cases of a call -/

/-- What a call reserves its key for. -/
structure KeyedRequest where
  caller : String
  key : String
  operation : Operation
  actor : String
  requestHash : List UInt8
  deriving DecidableEq

/-- The key an event asks for, and what for. -/
def Event.keyed : Event → Option KeyedRequest
  | .start _ _ input =>
    some ⟨input.caller, input.idempotencyKey, .start, input.actor, input.requestHash⟩
  | .retry _ _ input =>
    some ⟨input.caller, input.idempotencyKey, .retry, input.actor, input.requestHash⟩
  | .requestCleanup _ _ _ input =>
    some ⟨input.caller, input.idempotencyKey, .requestCleanup, input.actor, input.requestHash⟩
  | _ => none

/-- The call was no replay: the key it asks for was free. -/
def executes (entry : Committed) : Bool :=
  match entry.event.keyed with
  | some request => (entry.before.mutation request.caller request.key).isNone
  | none => false

/-- **What a committed call did.** -/
inductive Did (entry : Committed) : Prop
  | replayed {request : KeyedRequest} {response : ProvisioningView}
      (asked : entry.event.keyed = some request) (answered : entry.reply = .view response)
      (replays : Replays request.caller request.key request.operation request.actor request.requestHash
        response entry.before entry.after)
  | began {now : Timestamp} {ids : StartIds} {input : StartInput} {response : ProvisioningView}
      {saga : Saga} (called : entry.event = .start now ids input)
      (answered : entry.reply = .view response)
      (absent : entry.before.saga input.provisioningId = none)
      (begins : Saga.Begins now ids input saga) (shows : Shows entry.after input.provisioningId saga)
      (elsewhere : Elsewhere input.provisioningId entry.before entry.after)
      (rendered : renderView saga.row saga.effects = some response)
      (reserves : Reserves input.caller input.idempotencyKey .start input.actor input.requestHash
        response entry.before entry.after)
  | retried {now : Timestamp} {activityId : Uuid} {input : RetryInput} {effect : EffectRow}
      {response : ProvisioningView} {saga saga' : Saga}
      (called : entry.event = .retry now activityId input)
      (answered : entry.reply = .view response)
      (moves : Moves now (.retry effect.effectId input.resolution) input.provisioningId
        entry.before entry.after saga saga')
      (member : effect ∈ saga.phase) (owner : saga.row.requestedBy = input.actor)
      (current : saga.row.revision = input.expectedRevision)
      (resolvable : Resolvable input saga.row effect)
      (rendered : renderView saga'.row saga'.effects = some response)
      (reserves : Reserves input.caller input.idempotencyKey .retry input.actor input.requestHash
        response entry.before entry.after)
  | cleaned {now : Timestamp} {effectId : Nat → Uuid} {activityId : Uuid} {input : CleanupInput}
      {response : ProvisioningView} {saga saga' : Saga}
      (called : entry.event = .requestCleanup now effectId activityId input)
      (answered : entry.reply = .view response)
      (moves : Moves now .cleanup input.provisioningId entry.before entry.after saga saga')
      (owner : saga.row.requestedBy = input.actor)
      (current : saga.row.revision = input.expectedRevision)
      (rendered : renderView saga'.row saga'.effects = some response)
      (reserves : Reserves input.caller input.idempotencyKey .requestCleanup input.actor
        input.requestHash response entry.before entry.after)
  | quarantined {now : Timestamp} {actor : String} {activityId : Nat → Uuid} {limit : Int}
      {count : Nat} (called : entry.event = .quarantineExpired now actor activityId limit)
      (answered : entry.reply = .quarantined count)
      (chain : Quarantines now count entry.before entry.after)
  | idle {now utcNow : Timestamp} {actor : String} {fence activityId : Uuid} {leaseSeconds : Int}
      (called : entry.event = .claimNext now utcNow actor fence activityId leaseSeconds)
      (answered : entry.reply = .claimed none) (kept : entry.after = entry.before)
  | claimed {now utcNow : Timestamp} {actor : String} {fence activityId : Uuid}
      {leaseSeconds : Int} {id : Uuid} {effect : EffectRow} {saga saga' : Saga}
      (called : entry.event = .claimNext now utcNow actor fence activityId leaseSeconds)
      (answered : entry.reply = .claimed (some (effectRecord effect fence saga.row)))
      (moves : Moves now (.claim effect.effectId fence) id entry.before entry.after saga saga')
      (member : effect ∈ saga.phase) (kept : entry.after.mutations = entry.before.mutations)
  | superseded {now : Timestamp} {activityId : Uuid} {record : EffectRecord} {actor : String}
      {outcome : EffectOutcome}
      (called : entry.event = .finalizeEffect now activityId record actor outcome)
      (answered : entry.reply = .finalized .superseded)
      (absent : (entry.before.effect record.effectId).filter (fenced record.leaseToken) = none)
      (kept : entry.after = entry.before)
  | finalized {now : Timestamp} {activityId : Uuid} {record : EffectRecord} {actor : String}
      {outcome : EffectOutcome} {effect : EffectRow} {saga saga' : Saga}
      (called : entry.event = .finalizeEffect now activityId record actor outcome)
      (answered : entry.reply = .finalized outcome.result)
      (held : (entry.before.effect record.effectId).filter (fenced record.leaseToken) = some effect)
      (moves : Moves now (.finalize record.effectId record.leaseToken outcome)
        record.provisioningId entry.before entry.after saga saga')
      (member : effect ∈ saga.phase) (kept : entry.after.mutations = entry.before.mutations)

/-- A call that executes is no replay. -/
theorem not_replays {entry : Committed} {request : KeyedRequest} {operation : Operation}
    {actor : String} {requestHash : List UInt8} {response : ProvisioningView}
    (asked : entry.event.keyed = some request) (executed : executes entry = true) :
    ¬ Replays request.caller request.key operation actor requestHash response entry.before
      entry.after := by
  rintro ⟨-, row, found, -⟩
  unfold executes at executed
  rw [asked] at executed
  simp only [found] at executed
  cases executed

/-- **A cleanup request that executes** takes the cleanup step of its saga. -/
theorem Did.executed_cleanup {entry : Committed} (did : Did entry) {now : Timestamp}
    {effectId : Nat → Uuid} {activityId : Uuid} {input : CleanupInput}
    (called : entry.event = .requestCleanup now effectId activityId input)
    (executed : executes entry = true) : ∃ response saga saga', entry.reply = .view response ∧
      Moves now .cleanup input.provisioningId entry.before entry.after saga saga' ∧
        renderView saga'.row saga'.effects = some response := by
  cases did with
  | replayed asked _ replays => exact absurd replays (not_replays asked executed)
  | cleaned called' answered moves _ _ rendered _ =>
    rw [called] at called'
    cases called'
    exact ⟨_, _, _, answered, moves, rendered⟩
  | began called' | retried called' | quarantined called' | idle called' | claimed called'
  | superseded called' | finalized called' =>
    rw [called] at called'
    cases called'

/-- A finalization names an effect of the store. -/
def Event.Named (store : Store) : Event → Prop
  | .finalizeEffect _ _ record _ _ => Names store record
  | _ => True

/-- **A committed call is one of the cases.** -/
theorem did_of_commit {entry : Committed} (all : AllCoherent entry.before)
    (owned : Owned entry.before) (named : entry.event.Named entry.before)
    (committed : provisioning.Commit entry) : Did entry := by
  obtain ⟨event, store, reply, final⟩ := entry
  cases event with
  | start now ids input =>
    obtain ⟨response, _, called, rfl, rfl⟩ := postgres.commits_bind.mp committed
    rcases start_begins owned called with replays |
      ⟨saga, absent, begins, shows, elsewhere, rendered, reserves⟩
    · exact .replayed rfl rfl replays
    · exact .began rfl rfl absent begins shows elsewhere rendered reserves
  | retry now activityId input =>
    obtain ⟨response, _, called, rfl, rfl⟩ := postgres.commits_bind.mp committed
    rcases retry_moves all called with replays |
      ⟨effect, saga, saga', moves, member, owner, current, resolvable, rendered, reserves⟩
    · exact .replayed rfl rfl replays
    · exact .retried rfl rfl moves member owner current resolvable rendered reserves
  | requestCleanup now effectId activityId input =>
    obtain ⟨response, _, called, rfl, rfl⟩ := postgres.commits_bind.mp committed
    rcases requestCleanup_moves all called with replays |
      ⟨saga, saga', moves, owner, current, rendered, reserves⟩
    · exact .replayed rfl rfl replays
    · exact .cleaned rfl rfl moves owner current rendered reserves
  | quarantineExpired now actor activityId limit =>
    obtain ⟨count, _, called, rfl, rfl⟩ := postgres.commits_bind.mp committed
    exact .quarantined rfl rfl (quarantineExpired_moves all called)
  | claimNext now utcNow actor fence activityId leaseSeconds =>
    obtain ⟨found, _, called, rfl, rfl⟩ := postgres.commits_bind.mp committed
    rcases claimNext_moves all called with ⟨rfl, kept⟩ |
      ⟨id, saga, effect, saga', moves, member, rfl, kept⟩
    · exact .idle rfl rfl kept
    · exact .claimed rfl rfl moves member kept
  | finalizeEffect now activityId record actor outcome =>
    obtain ⟨result, _, called, rfl, rfl⟩ := postgres.commits_bind.mp committed
    rcases finalizeEffect_moves all named called with ⟨absent, rfl, kept⟩ |
      ⟨effect, saga, saga', held, member, rfl, moves, kept⟩
    · exact .superseded rfl rfl absent kept
    · exact .finalized rfl rfl held moves member kept

/-! ### The invariant of a run -/

/-- **What holds after every history.** -/
structure Invariant (history : List Committed) (store : Store) : Prop where
  coherent : AllCoherent store
  owned : Owned store
  checked : Checked store
  named : ∀ entry ∈ history, ∀ record, GaveOut record entry → Names store record

/-- The empty schema. -/
theorem Invariant.initial : Invariant [] Store.initial := by
  refine ⟨fun id row found => ?_, ⟨?_, ?_⟩, ⟨?_, ?_, ?_⟩, ?_⟩
  · cases found
  all_goals
    intro row member
    cases member

/-- A legal call is one of the cases. -/
theorem Invariant.did {history : List Committed} {entry : Committed}
    (holds : Invariant history entry.before) (legal : provisioning.legal history entry.event)
    (committed : provisioning.Commit entry) : Did entry := by
  refine did_of_commit holds.coherent holds.owned ?_ committed
  cases called : entry.event with
  | finalizeEffect now activityId record actor outcome =>
    rw [called] at legal
    obtain ⟨⟨earlier, member, gave⟩, -⟩ := legal
    exact holds.named earlier member record gave
  | _ => trivial

section Step

variable {store final : Store} {entry : Committed}

/-- Sagas are coherent again once one of them begins and the others stand still. -/
theorem AllCoherent.begun {now : Timestamp} {ids : StartIds} {input : StartInput} {saga : Saga}
    (all : AllCoherent store) (begins : Saga.Begins now ids input saga)
    (shows : Shows final input.provisioningId saga)
    (elsewhere : Elsewhere input.provisioningId store final) : AllCoherent final := by
  intro id row found
  by_cases same : id = input.provisioningId
  · subst same
    exact ⟨saga, shows, begins.coherent⟩
  · rw [elsewhere.saga id same] at found
    obtain ⟨other, shown, coherent⟩ := all id row found
    exact ⟨other, ⟨(elsewhere.saga id same).trans shown.row,
      (elsewhere.effects id same).trans shown.effects,
      (elsewhere.activity id same).trans shown.activity⟩, coherent⟩

theorem Quarantines.allCoherent {now : Timestamp} {count : Nat}
    (chain : Quarantines now count store final) (all : AllCoherent store) : AllCoherent final := by
  induction chain with
  | done store => exact all
  | next moves _ _ _ _ ih => exact ih (moves.allCoherent all)

/-- **A committed call keeps every saga coherent.** -/
theorem Did.allCoherent (did : Did entry) (all : AllCoherent entry.before) :
    AllCoherent entry.after := by
  cases did with
  | replayed _ _ replays =>
    rw [replays.1]
    exact all
  | began _ _ _ begins shows elsewhere _ _ => exact all.begun begins shows elsewhere
  | retried _ _ moves _ _ _ _ _ _ => exact moves.allCoherent all
  | cleaned _ _ moves _ _ _ _ => exact moves.allCoherent all
  | quarantined _ _ chain => exact chain.allCoherent all
  | idle _ _ kept =>
    rw [kept]
    exact all
  | claimed _ _ moves _ _ => exact moves.allCoherent all
  | superseded _ _ _ kept =>
    rw [kept]
    exact all
  | finalized _ _ _ moves _ _ => exact moves.allCoherent all

/-- A record given out names the effect that was claimed. -/
theorem Moves.names {now : Timestamp} {transition : Transition} {id : Uuid} {saga saga' : Saga}
    (moves : Moves now transition id store final saga saga') {effect : EffectRow}
    (member : effect ∈ saga.phase) (fence : Uuid) :
    Names store (effectRecord effect fence saga.row) := by
  have inside := Coherent.phase_mem member
  have stored : effect ∈ store.effectsOf id := by
    rw [moves.shown.effects]
    exact inside
  exact ⟨effect, (Store.mem_effectsOf.mp stored).1, moves.coherent.owned effect inside, rfl⟩

/-- A call that gives out a record is a claim, and the record names the claimed effect. -/
theorem Did.names (did : Did entry) {record : EffectRecord} (gave : GaveOut record entry) :
    Names entry.before record := by
  unfold GaveOut at gave
  cases did with
  | claimed _ answered moves member _ =>
    rw [answered] at gave
    cases gave
    exact moves.names member _
  | replayed _ answered _ | began _ answered _ _ _ _ _ _ | retried _ answered _ _ _ _ _ _ _
  | cleaned _ answered _ _ _ _ _ | quarantined _ answered _ | idle _ answered _
  | superseded _ answered _ _ | finalized _ answered _ _ _ _ =>
    rw [answered] at gave
    cases gave

end Step

namespace Run

variable {history past rest : List Committed} {store : Store} {entry : Committed}

/-- **The invariant of every run.** -/
theorem holds (run : Run history store) : Invariant history store := by
  refine run.invariant Invariant.initial fun history entry _ holds legal committed => ?_
  have did := holds.did legal committed
  have stays := Persist.of_commits committed
  refine ⟨did.allCoherent holds.coherent, Owned.of_commits committed holds.owned,
    Checked.of_commits committed holds.checked, fun earlier member record gave => ?_⟩
  rcases List.mem_append.mp member with before | here
  · exact stays.names (holds.named earlier before record gave)
  · rw [List.mem_singleton.mp here] at gave
    exact stays.names (did.names gave)

/-- **Every entry of a run is one of the cases**, on a store that satisfies the invariant. -/
theorem did (run : Run (past ++ entry :: rest) store) :
    Invariant past entry.before ∧ Did entry := by
  obtain ⟨earlier, legal, committed, -⟩ := run.commit_of_mem
  have invariant := Run.holds earlier
  exact ⟨invariant, invariant.did legal committed⟩

end Run

end OrganizationProvisioning
