/-
**Responses and their published schema.**

The schema allows 65 steps: a creation and 64 grants. A cleanup request adds a revocation for every
grant in force and keeps the grants, so it can leave more.

* `Run.bounded` — while every cleanup request has room, no saga has more than 65 effects.
* `honours_schema_iff` — the responses of a run honour the schema exactly when every cleanup request
  of it has room.
* `schema_broken` — a configuration with 33 grants and a run in which a response has 67 steps.
-/
import OrganizationProvisioning.Guarantee.Compensation
import OrganizationProvisioning.Model.Schema
import OrganizationProvisioning.Proof.Accepted
import OrganizationProvisioning.Run.Reads
import OrganizationProvisioning.Run.Rounds

namespace OrganizationProvisioning

open Relational Transactional Worklist

/-! ### What may be started -/

/-- A start snapshots the grants of the configuration, which is accepted. -/
def Event.configuredBy (checks : ConfigChecks) (config : OrganizationProvisioningConfig) :
    Event → Bool
  | .start _ _ input => (config.validate checks matches .ok ()) &&
      decide (config.grantSnapshots = some input.grants)
  | _ => true

/-- A call an instance with some accepted configuration makes. -/
def Event.Configured (event : Event) : Prop :=
  ∃ checks config, event.configuredBy checks config = true

/-- A call without a key starts nothing. -/
theorem configured_of_silent {checks : ConfigChecks} {config : OrganizationProvisioningConfig}
    {event : Event} (silent : event.keyed = none) : event.configuredBy checks config = true := by
  cases event with
  | start => cases silent
  | retry | requestCleanup | quarantineExpired | claimNext | finalizeEffect => rfl

/-- A cleanup request that executes leaves no more steps than the schema allows: the effects there
are and a revocation for each grant in force. -/
def hasRoom (entry : Committed) : Bool :=
  match entry.event with
  | .requestCleanup _ _ _ input => !executes entry ||
      decide ((entry.before.stepsOf input.provisioningId).length +
        ((entry.before.putsOf input.provisioningId).filter fun put =>
          put.state = .applied).length ≤ 65)
  | _ => true

theorem hasRoom_iff {entry : Committed} : hasRoom entry = true ↔
    ∀ now effectId activityId input, entry.event = .requestCleanup now effectId activityId input →
      executes entry = true → (entry.before.stepsOf input.provisioningId).length +
        ((entry.before.putsOf input.provisioningId).filter fun put =>
          put.state = .applied).length ≤ 65 := by
  unfold hasRoom
  constructor
  · intro room now effectId activityId input called executed
    rw [called] at room
    simpa [executed] using room
  · intro room
    split
    · rename_i now effectId activityId input called
      cases executed : executes entry with
      | false => rfl
      | true =>
        rw [Bool.not_true, Bool.false_or]
        exact decide_eq_true (room _ _ _ _ called executed)
    · rfl

/-! ### Views -/

section View

variable {row : SagaRow} {rows : List EffectRow} {view : ProvisioningView}

theorem SagaStatus.name_mem (status : SagaStatus) : status.name ∈ statusNames := by
  cases status <;> decide

theorem EffectKind.name_mem (kind : EffectKind) : kind.name ∈ kindNames := by
  cases kind <;> decide

theorem EffectState.name_mem (state : EffectState) : state.name ∈ stepStatusNames := by
  cases state <;> decide

/-- **A rendered view conforms** exactly when it has no more than 65 steps. -/
theorem Renders.conforms_iff (renders : Renders row rows view) (checked : row.checked = true)
    (effects : ∀ effect ∈ rows, effect.checked = true) : view.Conforms ↔ rows.length ≤ 65 := by
  have size : view.steps.length = rows.length := renders.steps.length_eq.symm
  constructor
  · intro conforms
    rw [← size]
    exact conforms.size
  · intro small
    refine ⟨?_, ?_, by rw [size]; exact small, fun step member => ?_⟩
    · rw [renders.status]
      exact row.status.name_mem
    · rw [renders.revision]
      unfold SagaRow.checked at checked
      rw [decide_eq_true_eq] at checked
      exact Numeral.positiveDecimal_toString checked.2.2.2.1.1
    · obtain ⟨effect, inside, shown⟩ := exists_partner renders.steps member
      obtain ⟨kind, ordinal, status, attempt⟩ := step_of_effect shown
      have holds := effects effect inside
      unfold EffectRow.checked EffectPlan.checked EffectProgress.checked at holds
      simp only [Bool.and_eq_true, decide_eq_true_eq] at holds
      obtain ⟨⟨bounds, -⟩, ⟨least, -⟩, -⟩ := holds
      refine ⟨?_, by rw [ordinal]; exact bounds, ?_, by rw [attempt]; exact least⟩
      · rw [kind]
        exact effect.kind.name_mem
      · rw [status]
        exact effect.state.name_mem

/-- A view of rows that satisfy the constraints is accepted when it has no more than 65 steps. -/
theorem accepts_iff (rendered : renderView row rows = some view) (checked : row.checked = true)
    (effects : ∀ effect ∈ rows, effect.checked = true) :
    responseSchema view.toJson = true ↔ rows.length ≤ 65 := by
  rw [responseSchema_toJson, (renders_of_render rendered).conforms_iff checked effects]

end View

/-! ### How many effects a saga has -/

/-- A turn keeps the number of effects. -/
theorem Saga.turned_length {saga : Saga} {past rest : List EffectRow} {focus : EffectRow}
    (split : Split (stage saga.row.cleanupRequested) saga.phase past focus rest)
    (now : Timestamp) (progress : EffectProgress) (organization : Option (String × String))
    (note : ActivityRow) :
    (saga.turned now past rest (focus.set fun _ => progress) organization note).effects.length =
      saga.effects.length := by
  obtain ⟨early, late, shape, turned⟩ := effects_turned now split
  rw [turned, shape, List.length_append, List.length_append, List.length_cons, List.length_cons]

/-- A cleanup request adds a revocation for each grant in force. -/
theorem Saga.cleaned_length {saga : Saga} {now : Timestamp} {revokes : List EffectRow}
    {note : ActivityRow} (coherent : Coherent saga)
    (unrequested : saga.row.cleanupRequested = false)
    (compensated : List.Forall₂ (Revokes now) (saga.mains.filter granted) revokes) :
    (saga.cleaned now revokes note).effects.length =
      saga.effects.length + (saga.mains.filter granted).length := by
  show (saga.mains.map (skipUnfinished now) ++ revokes).length = _
  rw [Saga.effects, coherent.unrequested unrequested, List.append_nil, List.length_append,
    List.length_map, compensated.length_eq]

namespace Run

variable {history past rest : List Committed} {store : Store} {entry : Committed}

/-- An accepted configuration starts a saga with no more than 65 effects. -/
theorem planned_length {now : Timestamp} {ids : StartIds} {input : StartInput}
    (configured : (Event.start now ids input).Configured) :
    (plannedEffects now ids input).length ≤ 65 := by
  obtain ⟨checks, config, same⟩ := configured
  unfold Event.configuredBy at same
  rw [Bool.and_eq_true, decide_eq_true_eq] at same
  obtain ⟨accepted, snapshot⟩ := same
  have bounded : config.bootstrapGrants.length ≤ 64 := by
    split at accepted
    · rename_i valid
      exact bounded_of_validate valid
    · cases accepted
  rw [← length_grantSnapshots snapshot] at bounded
  unfold plannedEffects
  rw [List.length_cons, List.length_mapIdx]
  omega

/-- **While every cleanup request has room, no saga has more than 65 effects.** -/
theorem bounded (run : Run history store)
    (configured : ∀ entry ∈ history, entry.event.Configured)
    (roomy : ∀ entry ∈ history, hasRoom entry = true) (id : Uuid) :
    (store.effectsOf id).length ≤ 65 := by
  induction run with
  | start => exact Nat.zero_le _
  | @commit history entry earlier legal committed ih =>
    have run : Run (history ++ entry :: []) entry.after := .commit earlier legal committed
    have sofar := ih (fun call member => configured call (List.mem_append_left _ member))
      fun call member => roomy call (List.mem_append_left _ member)
    have here := configured entry (List.mem_append_right _ List.mem_cons_self)
    have room := roomy entry (List.mem_append_right _ List.mem_cons_self)
    cases run.fate id with
    | still untouched =>
      rw [untouched.effects]
      exact sofar
    | began called _ _ _ begins shows _ _ =>
      rw [called] at here
      rw [shows.effects, Saga.effects, begins.mains_eq, begins.revokes_eq, List.append_nil]
      exact planned_length here
    | @moved now transition saga saga' shown coherent step shows cause =>
      rw [shown.effects] at sofar
      rw [shows.effects]
      cases step with
      | turn split turns records =>
        rw [Saga.turned_length split]
        exact sofar
      | cleanup unrequested stopped compensated records =>
        cases cause with
        | cleanup called answered names owner current rendered reserves =>
          have executed : executes entry = true :=
            executes_of_fresh (by rw [called]; rfl) reserves.fresh
          have room := hasRoom_iff.mp room _ _ _ _ called executed
          rw [names, shown.stepsOf coherent, shown.putsOf coherent, filter_put_applied] at room
          rw [Saga.cleaned_length coherent unrequested compensated]
          exact room

end Run

/-! ### The responses of a run -/

/-- **Every response honours the schema**: those of the calls, executed or replayed, and those of any
`get` beside the history. -/
structure Honoured (history : List Committed) : Prop where
  replies : ∀ entry ∈ history, ∀ view, entry.reply = .view view →
    responseSchema view.toJson = true
  gets : ∀ past last rest id actor view, history = last ++ rest →
    Observes provisioning (get id actor) past (some view) last →
      responseSchema view.toJson = true

/-- Rows of a run satisfy the constraints. -/
theorem Shows.checked {history : List Committed} {store : Store} {id : Uuid} {saga : Saga}
    (shows : Shows store id saga) (run : Run history store) :
    saga.row.checked = true ∧ ∀ effect ∈ saga.effects, effect.checked = true := by
  have checked := run.holds.checked
  exact ⟨checked.sagas _ (Store.saga_found.mp shows.row).1,
    fun effect member => checked.effects effect (Store.effect_found.mp (shows.stored member)).1⟩

/-- The response of an executed call is accepted when its saga has no more than 65 effects. -/
theorem Run.executed_accepts {past rest : List Committed} {store : Store} {entry : Committed}
    (run : Run (past ++ entry :: rest) store) {request : KeyedRequest} {view : ProvisioningView}
    (executed : Executed entry request view) (small : ∀ id, (entry.after.effectsOf id).length ≤ 65) :
    responseSchema view.toJson = true := by
  obtain ⟨id, saga, -, shows, rendered⟩ := executed.rendered
  obtain ⟨-, -, -, upTo⟩ := run.commit_of_mem
  obtain ⟨row, effects⟩ := shows.checked upTo
  rw [accepts_iff rendered row effects, ← shows.effects]
  exact small id

/-- **The responses of a run honour the schema exactly when every cleanup request has room.** -/
theorem honours_schema_iff {history : List Committed} {store : Store} (run : Run history store)
    (configured : ∀ entry ∈ history, entry.event.Configured) :
    Honoured history ↔ ∀ entry ∈ history, hasRoom entry = true := by
  constructor
  · intro honoured entry member
    refine hasRoom_iff.mpr fun now effectId activityId input called executed => ?_
    obtain ⟨past, rest, rfl⟩ := List.append_of_mem member
    obtain ⟨response, saga, saga', answered, moves, rendered⟩ :=
      run.did.2.executed_cleanup called executed
    obtain ⟨-, -, -, upTo⟩ := run.commit_of_mem
    obtain ⟨row, effects⟩ := moves.shows.checked upTo
    have small := (accepts_iff rendered row effects).mp (honoured.replies entry member _ answered)
    rw [moves.shown.stepsOf moves.coherent, moves.shown.putsOf moves.coherent, filter_put_applied]
    cases moves.step with
    | turn split turns records => exact absurd turns Turn.not_cleanup
    | cleanup unrequested stopped compensated records =>
      rw [Saga.cleaned_length moves.coherent unrequested compensated] at small
      exact small
  · intro roomy
    constructor
    · intro entry member view answered
      obtain ⟨past, rest, rfl⟩ := List.append_of_mem member
      obtain ⟨executing, inside, request, -, executed⟩ := run.view_executed answered
      have listed : executing ∈ past ++ entry :: rest := by
        rw [← List.singleton_append, ← List.append_assoc]
        exact List.mem_append_left _ inside
      obtain ⟨before, after, shape⟩ := List.append_of_mem listed
      rw [shape, ← List.singleton_append, ← List.append_assoc] at configured roomy
      rw [shape] at run
      obtain ⟨-, -, -, upTo⟩ := run.commit_of_mem
      exact run.executed_accepts executed (Run.bounded upTo
        (fun call known => configured call (List.mem_append_left _ known))
        fun call known => roomy call (List.mem_append_left _ known))
    · rintro past last rest id actor view rfl observed
      obtain ⟨between, later, first, second, rfl, reached, reached', row, present, -, rendered⟩ :=
        observes_get.mp observed
      have bounded := Run.bounded reached'
        (fun call listed => configured call (List.mem_append_left _ listed))
        (fun call listed => roomy call (List.mem_append_left _ listed)) id
      have checked := (Run.holds reached).checked.sagas row (Store.saga_found.mp present).1
      refine (accepts_iff rendered checked fun effect member => ?_).mpr ?_
      · rw [Store.stepsOf, mem_orderBy] at member
        exact (Run.holds reached').checked.effects effect (List.mem_filter.mp member).1
      · rw [Store.stepsOf, (perm_orderBy _ _).length_eq]
        exact bounded

namespace Rehearsal

/-- Libraries that accept one schema name and one key. -/
def checks : ConfigChecks where
  schemaPlan schema := schema = "organization_provisioning"
  publicKey issuer key := issuer = "auth" ∧ key = "key"

/-- A configuration with these grants. -/
def configuration (grants : List BootstrapGrantConfig) : OrganizationProvisioningConfig where
  schema := "organization_provisioning"
  databaseUrlSecret := "database/url"
  authIssuer := "auth"
  authAssertionPublicKey := "key"
  managementCallers := ["console"]
  workerCallers := ["worker"]
  bootstrapGrants := grants

end Rehearsal

/-- The responses of the rehearsal honour the schema: its cleanup request leaves five steps. -/
theorem honours_schema_rehearsed : Honoured Rehearsal.history := by
  have configured : ∀ entry ∈ Rehearsal.history, entry.event.configuredBy Rehearsal.checks
      (Rehearsal.configuration [⟨"organization", "seats", some "5"⟩,
        ⟨"owner", "reports", none⟩]) = true := by decide +kernel
  have roomy : ∀ entry ∈ Rehearsal.history, hasRoom entry = true := by decide +kernel
  exact (honours_schema_iff Rehearsal.run fun entry member =>
    ⟨_, _, configured entry member⟩).mpr roomy

namespace Rehearsal

/-- Features of one letter each. -/
def features : List String :=
  ["a", "b", "c", "d", "e", "f", "g", "h", "i", "j", "k", "l", "m", "n", "o", "p", "q", "r", "s",
    "t", "u", "v", "w", "x", "y", "z", "A", "B", "C", "D", "E", "F", "G"]

def longInput : StartInput :=
  { input with grants := features.map fun feature => ⟨"owner", feature, none⟩ }

def uuid (value : Nat) : Uuid := Fin.ofNat _ value

def longIds : StartIds where
  createEffectId := 1000
  grantEffectId ordinal := uuid (1001 + ordinal)
  activityId := 2000

/-- A saga with 33 grants, all applied, then cleaned up. -/
def longScript : List Instruction :=
  .call (.start 0 longIds longInput) ::
  (List.range 34).flatMap (fun index => [
    claim 1 (uuid (3000 + index)) (uuid (4000 + index)),
    .settle 2 (uuid (5000 + index)) "worker" accepting (2 * index + 1)]) ++
  [.call (.requestCleanup 3 (fun index => uuid (6000 + index)) 7000 (cleanup 69))]

/-- A response with so many steps, which the schema does not accept. -/
def refuses (size : Nat) (entry : Committed) : Bool :=
  match entry.reply with
  | .view view => decide (view.steps.length = size) && !responseSchema view.toJson
  | _ => false

/-- The configuration of the 33 grants is accepted, and the cleanup response has 67 steps. -/
def breaks (history : List Committed) : Bool :=
  (history.all fun entry => entry.event.configuredBy checks
    (configuration (features.map fun feature => ⟨"owner", feature, none⟩))) &&
  history.any (refuses 67)

/-- The turns of the script. -/
def longTurn (index : Nat) : TurnInputs where
  now := 1
  utcNow := 1
  fence := uuid (3000 + index)
  claimId := uuid (4000 + index)
  settledAt := 2
  settleId := uuid (5000 + index)
  downstream := accepting

theorem longScript_eq : longScript = .call (.start 0 longIds longInput) ::
    ((List.range' 0 34).flatMap (fun index => (longTurn index).script "worker" 60 (2 * index + 1)) ++
      [.call (.requestCleanup 3 (fun index => uuid (6000 + index)) 7000 (cleanup 69))]) := rfl

theorem uuid_val {value : Nat} (small : value < 10000) : (uuid value).val = value :=
  Nat.mod_eq_of_lt (small.trans (by decide))

/-- The turns have ids of their own. -/
theorem longTurn_ids : (turnIds longTurn 0 34).Nodup ∧
    ∀ id ∈ turnIds longTurn 0 34, id.val < 6000 := by
  have ids : ∀ index ∈ List.range' 0 34, (longTurn index).claimId.val = 4000 + index ∧
      (longTurn index).settleId.val = 5000 + index ∧ index < 34 := by
    intro index member
    have small := (List.mem_range'_1.mp member).2
    exact ⟨uuid_val (by omega), uuid_val (by omega), by omega⟩
  refine ⟨List.nodup_flatMap.mpr ⟨fun index member => ?_, ?_⟩, fun id member => ?_⟩
  · obtain ⟨claim, settle, small⟩ := ids index member
    refine List.nodup_cons.mpr ⟨fun same => ?_, List.nodup_singleton _⟩
    have equal := congrArg Fin.val (List.mem_singleton.mp same)
    omega
  · refine List.Pairwise.imp_of_mem ?_ List.nodup_range'
    intro first second one two differs id inside outside
    obtain ⟨claim, settle, small⟩ := ids first one
    obtain ⟨claim', settle', small'⟩ := ids second two
    simp only [List.mem_cons, List.not_mem_nil, or_false, Fin.ext_iff] at inside outside
    omega
  · obtain ⟨index, listed, inside⟩ := List.mem_flatMap.mp member
    obtain ⟨claim, settle, small⟩ := ids index listed
    simp only [List.mem_cons, List.not_mem_nil, or_false, Fin.ext_iff] at inside
    omega

/-- The start leaves 34 effects to work off, with ids of their own. -/
def opened (store : Store) : Bool :=
  decide (store.count .pending = 34) && (store.mutation "console" "cleanup").isNone &&
    decide (Unused store (7000 :: turnIds longTurn 0 34)) &&
    store.effects.rows.all fun effect => decide (effect.attempts = 0 ∧ effect.effectId.val < 6000)

set_option maxRecDepth 20000 in
theorem long_opens : (alone (Event.start 0 longIds longInput).program Store.initial).toOption.any
    (fun result => opened result.2) = true := by
  decide +kernel

/-- **The start of the script**, and what it leaves. -/
theorem long_started : ∃ entry : Committed, entry.event = .start 0 longIds longInput ∧
    entry.before = Store.initial ∧ CommitsAlone entry ∧ opened entry.after = true := by
  obtain ⟨⟨reply, store⟩, same, opens⟩ := (Option.any_eq_true ..).mp long_opens
  exact ⟨⟨.start 0 longIds longInput, Store.initial, reply, store⟩, rfl, rfl, ok_of_toOption same,
    opens⟩

/-- The start of the script is executed. -/
theorem long_begins {entry : Committed} (called : entry.event = .start 0 longIds longInput)
    (initial : entry.before = Store.initial) (run : Run ([] ++ [entry]) entry.after) :
    ∃ saga, saga.Begins 0 longIds longInput ∧ Shows entry.after 1 saga := by
  cases run.did.2 with
  | replayed asked _ replays =>
    obtain ⟨-, row, found, -⟩ := replays
    rw [initial] at found
    cases found
  | began called' answered absent begins shows elsewhere rendered reserves =>
    rw [called] at called'
    cases called'
    exact ⟨_, begins, shows⟩
  | retried called' | cleaned called' | quarantined called' | idle called' | claimed called'
  | superseded called' | finalized called' =>
    rw [called] at called'
    cases called'

theorem lease : (leaseEnd 1 60).isSome := by decide +kernel

theorem formats (index : Nat) (small : index ≤ 3) : Timestamp.Formats index := by
  have all : ∀ index ∈ List.range 4, Timestamp.Formats (index : Nat) := by decide +kernel
  exact all index (List.mem_range.mpr (by omega))

/-- **The turns of the script work off the saga.** -/
theorem long_worked {entry : Committed} (run : Run ([] ++ [entry]) entry.after)
    (opens : opened entry.after = true) {saga : Saga} (begins : saga.Begins 0 longIds longInput)
    (shows : Shows entry.after 1 saga) :
    ∃ calls final, Works "worker" 60 longTurn 34 0 entry.after calls final ∧
      (claimed calls).length = 34 ∧ final.mutation "console" "cleanup" = none ∧
      final.activity.find 7000 = none ∧ (∀ effect ∈ final.effects.rows, effect.effectId.val < 6000) ∧
      ∃ saga, Shows final 1 saga ∧ Coherent saga ∧ saga.Follows 0 longIds longInput ∧
        Dated saga.row saga.effects ∧ saga.row.cleanupRequested = false ∧
        saga.row.status = .completed ∧ saga.row.revision = 69 := by
  unfold opened at opens
  simp only [Bool.and_eq_true, decide_eq_true_eq, List.all_eq_true, Option.isNone_iff_eq_none]
    at opens
  obtain ⟨⟨⟨pending, unkeyed⟩, unused⟩, effects⟩ := opens
  have spare : Spare entry.after := fun effect member _ => by
    rw [(effects effect member).1]
    decide
  have ran : ∃ calls counts final, work "worker" 60 longTurn 34 0 ⟨0, 0, 0, 0⟩ entry.after =
      .ok (calls, counts, final) :=
    work_runs run spare (fun _ _ _ => lease) longTurn_ids.1 (unused.mono (List.subset_cons_self _ _))
  obtain ⟨calls, counts, final, ran⟩ := ran
  have works := works_of_work ran
  have run' := works.run run
  have accepts : accepting.Accepts := ⟨fun _ => ⟨_, rfl⟩, fun _ => ⟨_, rfl⟩, fun _ => ⟨_, rfl⟩⟩
  have planned : ((plannedEffects 0 longIds longInput).map fun effect => effect.effectId).length = 34 :=
    rfl
  have all := works.all_taken run (fun _ => accepts)
    ⟨saga, shows, begins.coherent, begins.tracked⟩ planned.ge
  have advanced : Advances 0 longIds longInput
      ((plannedEffects 0 longIds longInput).map fun effect => effect.effectId) final :=
    works.each run (fun run gave round advances => round.advances
      (succeeds_of_accepts run gave accepts) (formats 1 (by decide)) (formats 2 (by decide))
      advances) (begins.advances shows (formats 0 (by decide)))
  have idle : final.count .pending = 0 := by
    have counted := (works.count run).1
    omega
  refine ⟨calls, final, works, all, ?_, ?_, ?_, advanced.completed idle⟩
  · unfold Store.mutation
    rw [run.mutations_kept run' works.silent]
    exact unkeyed
  · have apart : ∀ id ∈ turnIds longTurn 0 34, id ∉ [7000] := by
      intro id member same
      have small := longTurn_ids.2 id member
      rw [List.mem_singleton.mp same] at small
      exact absurd small (by decide)
    have unused' : Unused entry.after [7000] := unused.mono (by simp)
    exact (works.keeps run spare unused' apart).2 7000 List.mem_cons_self
  · have kept : ∀ effect ∈ final.effects.rows, effect.effectId.val < 6000 := by
      refine @Works.each _ _ _ _ _ _ _ _ _ works run
        (fun store => ∀ effect ∈ store.effects.rows, effect.effectId.val < 6000) ?_
        fun effect member => (effects effect member).2
      intro past claim settle record index saga middle last run gave round holds
      exact round.rows (fun effect change small => small) holds
    exact kept

/-- A completed saga of 33 grants has them all in force. -/
theorem long_granted {saga : Saga} (coherent : Coherent saga)
    (follows : saga.Follows 0 longIds longInput) (unrequested : saga.row.cleanupRequested = false)
    (completed : saga.row.status = .completed) :
    saga.effects.length = 34 ∧ (saga.mains.filter granted).length = 33 := by
  have planned : saga.mains.length = 34 := by
    have lengths := congrArg List.length follows.plans
    rw [List.length_map, List.length_map] at lengths
    exact lengths
  have others := coherent.granted_of_completed completed
  rw [Saga.effects, coherent.unrequested unrequested, List.append_nil]
  omega

/-- **The cleanup request of the script leaves 67 effects.** -/
theorem long_cleaned {history : List Committed} {store : Store} {saga : Saga}
    (run : Run history store) (unkeyed : store.mutation "console" "cleanup" = none)
    (unused : store.activity.find 7000 = none)
    (small : ∀ effect ∈ store.effects.rows, effect.effectId.val < 6000) (shows : Shows store 1 saga)
    (coherent : Coherent saga) (follows : saga.Follows 0 longIds longInput)
    (dated : Dated saga.row saga.effects) (unrequested : saga.row.cleanupRequested = false)
    (completed : saga.row.status = .completed) (revision : saga.row.revision = 69) :
    ∃ entry : Committed, entry.event = .requestCleanup 3 (fun index => uuid (6000 + index)) 7000
      (cleanup 69) ∧ entry.before = store ∧ CommitsAlone entry ∧ refuses 67 entry = true := by
  obtain ⟨sized, counted⟩ := long_granted coherent follows unrequested completed
  have cleans : Cleans store (cleanup 69) saga :=
    ⟨shows, coherent, run.holds.checked, fun _ => run.keyed,
      congrArg SagaIntent.requestedBy follows.intent, unkeyed, revision, unrequested, Or.inl completed⟩
  have grants : ((store.effectsOf 1).filter granted).length = 33 := by
    rw [shows.effects, Saga.effects, coherent.unrequested unrequested, List.append_nil, counted]
  have ids : FreshRevokes store 1 fun index => uuid (6000 + index) := by
    refine ⟨fun index few => ?_, fun first second less few same => ?_⟩
    · refine Option.eq_none_iff_forall_ne_some.mpr fun effect found => ?_
      obtain ⟨member, named⟩ := Store.effect_found.mp found
      have less := small effect member
      rw [named, uuid_val (by omega)] at less
      omega
    · have equal := congrArg Fin.val same
      rw [uuid_val (by omega), uuid_val (by omega)] at equal
      omega
  have accepted : ∃ response final, postgres.Commits (requestCleanup 3
      (fun index => uuid (6000 + index)) 7000 (cleanup 69)) store response final :=
    requestCleanup_commits cleans (run.revision_room (Store.saga_found.mp shows.row).1) ids unused
      fun saga' step => (step.dated (formats 3 (by decide)) dated).renders
  obtain ⟨response, final, committed⟩ := accepted
  generalize entry_eq : (⟨.requestCleanup 3 (fun index => uuid (6000 + index)) 7000 (cleanup 69),
    store, .view response, final⟩ : Committed) = entry
  have called : entry.event = .requestCleanup 3 (fun index => uuid (6000 + index)) 7000
    (cleanup 69) := by rw [← entry_eq]
  have alone : CommitsAlone entry := by
    rw [← entry_eq]
    exact alone_reply ((Certain.requestCleanup).commits_iff.mp committed) .view
  have before : entry.before = store := by rw [← entry_eq]
  refine ⟨entry, called, before, alone, ?_⟩
  have run' : Run (history ++ [entry]) entry.after := by
    refine .commit (before ▸ run) ?_ alone.commit
    rw [called]
    trivial
  have executed : executes entry = true := by
    refine executes_of_fresh (by rw [called]; rfl) ?_
    rw [before]
    exact unkeyed
  obtain ⟨view, saga', saga'', answered, moves, rendered⟩ :=
    run'.did.2.executed_cleanup called executed
  have same : saga' = saga := by
    have shown := moves.shown
    rw [before] at shown
    exact shown.unique moves.coherent shows coherent
  subst same
  have many : saga''.effects.length = 67 := by
    have step := moves.step
    cases step with
    | turn split turns records => exact absurd turns Turn.not_cleanup
    | cleanup _ stopped compensated records =>
      rw [Saga.cleaned_length coherent unrequested compensated, sized, counted]
  obtain ⟨row, effects⟩ := moves.shows.checked run'
  have refused : responseSchema view.toJson = false := by
    rw [← Bool.not_eq_true, accepts_iff rendered row effects, many]
    decide
  have steps : view.steps.length = 67 :=
    (renders_of_render rendered).steps.length_eq.symm.trans many
  unfold refuses
  rw [answered]
  simp only [steps, refused]
  rfl

set_option maxRecDepth 20000 in
theorem long_configured : (Event.start 0 longIds longInput).configuredBy checks
    (configuration (features.map fun feature => ⟨"owner", feature, none⟩)) = true := by
  decide +kernel

/-- **The script plays to its end**, which the schema does not accept. -/
theorem long_breaks :
    (play longScript [] Store.initial).any (fun result => breaks result.1) = true := by
  obtain ⟨entry, called, initial, alone, opens⟩ := long_started
  have run : Run ([] ++ [entry]) entry.after := by
    refine .commit (initial ▸ .start) ?_ alone.commit
    rw [called]
    trivial
  obtain ⟨first, begins, began⟩ := long_begins called initial run
  obtain ⟨calls, final, works, all, unkeyed, unused, small, saga, shows, coherent, follows, dated,
    unrequested, completed, revision⟩ := long_worked run opens begins began
  obtain ⟨last, called', before, alone', refused⟩ := long_cleaned (works.run run) unkeyed unused
    small shows coherent follows dated unrequested completed revision
  have starts : eventOf [] (.call (.start 0 longIds longInput)) = some entry.event := by
    rw [called]
    rfl
  have ends : eventOf ([entry] ++ calls) (.call (.requestCleanup 3
      (fun index => uuid (6000 + index)) 7000 (cleanup 69))) = some last.event := by
    rw [called']
    rfl
  have plays : play longScript [] Store.initial =
      some (([entry] ++ calls) ++ [last], last.after) := by
    rw [longScript_eq, ← initial, alone.played starts]
    rw [works.played all (by rfl), List.nil_append, ← before, alone'.played ends]
    rfl
  have configured : ∀ call ∈ ([entry] ++ calls) ++ [last], call.event.configuredBy checks
      (configuration (features.map fun feature => ⟨"owner", feature, none⟩)) = true := by
    intro call member
    rcases List.mem_append.mp member with early | late
    · rcases List.mem_append.mp early with start | worked
      · rw [List.mem_singleton.mp start, called]
        exact long_configured
      · exact configured_of_silent (works.silent call worked)
    · rw [List.mem_singleton.mp late, called']
      rfl
  rw [plays, Option.any_some, breaks, Bool.and_eq_true, List.all_eq_true, List.any_eq_true]
  exact ⟨configured, last, List.mem_append_right _ List.mem_cons_self, refused⟩

end Rehearsal

/-- **A run with an accepted configuration of 33 grants and a response of 67 steps.** -/
theorem schema_broken : Run (played Rehearsal.longScript).1 (played Rehearsal.longScript).2 ∧
    (∀ entry ∈ (played Rehearsal.longScript).1, entry.event.Configured) ∧
    (∃ entry ∈ (played Rehearsal.longScript).1, ∃ view, entry.reply = .view view ∧
      view.steps.length = 67) ∧ ¬ Honoured (played Rehearsal.longScript).1 := by
  obtain ⟨⟨history, store⟩, same, breaks⟩ := (Option.any_eq_true ..).mp Rehearsal.long_breaks
  have run : Run history store := run_of_play .start same
  have shape : played Rehearsal.longScript = (history, store) := by
    unfold played
    rw [same]
    rfl
  rw [shape]
  unfold Rehearsal.breaks at breaks
  rw [Bool.and_eq_true, List.all_eq_true, List.any_eq_true] at breaks
  obtain ⟨configured, entry, member, refuses⟩ := breaks
  unfold Rehearsal.refuses at refuses
  split at refuses
  · rename_i view answered
    rw [Bool.and_eq_true, decide_eq_true_eq, Bool.not_eq_true'] at refuses
    refine ⟨run, fun call listed => ⟨_, _, configured call listed⟩,
      ⟨entry, member, view, answered, refuses.1⟩, fun honoured => ?_⟩
    rw [honoured.replies entry member view answered] at refuses
    cases refuses.2
  · cases refuses

end OrganizationProvisioning
