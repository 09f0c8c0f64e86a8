/-
**Responses and the keys they are kept under.**

* `View` facts — what a rendered response shows of the rows it was rendered from.
* `Did.keyed` — a committed call with a key replayed the response kept under it, or executed and
  reserved it; `Did.keeps_key` — no call rewrites a key once reserved.
* `Run.attributed` — a key is kept with the response of the call that reserved it.
* `Run.replayed` — a replay returns the response of that call.
-/
import OrganizationProvisioning.Run.Fate

namespace OrganizationProvisioning

open Relational Transactional Worklist

/-! ### Responses -/

section View

variable {row : SagaRow} {rows : List EffectRow} {view : ProvisioningView}

/-- The steps of a response show the effects, one by one. -/
theorem steps_of_mapM {steps : List StepView} (shown : rows.mapM stepFromRow = some steps) :
    List.Forall₂ (fun effect step => stepFromRow effect = some step) rows steps := by
  induction rows generalizing steps with
  | nil =>
    cases shown
    exact .nil
  | cons effect rows ih =>
    rw [List.mapM_cons] at shown
    simp only [Option.bind_eq_bind, Option.bind_eq_some_iff, Option.pure_def,
      Option.some.injEq] at shown
    obtain ⟨step, first, steps, others, rfl⟩ := shown
    exact .cons first (ih others)

/-- **What a response shows of its rows.** -/
structure Renders (row : SagaRow) (rows : List EffectRow) (view : ProvisioningView) : Prop where
  status : view.status = row.status.name
  revision : view.revision = row.revision
  lastError : view.lastError = row.lastError
  steps : List.Forall₂ (fun effect step => stepFromRow effect = some step) rows view.steps

theorem renders_of_render (rendered : renderView row rows = some view) : Renders row rows view := by
  unfold renderView at rendered
  obtain ⟨steps, shown, rest⟩ := Option.bind_eq_some_iff.mp rendered
  unfold viewFromRow at rest
  simp only [Option.bind_eq_bind, Option.bind_eq_some_iff, Option.pure_def,
    Option.some.injEq] at rest
  obtain ⟨createdAt, -, updatedAt, -, completedAt, -, cleanupCompletedAt, -, rfl⟩ := rest
  exact ⟨rfl, rfl, rfl, steps_of_mapM shown⟩

/-- What a step shows of its effect. -/
theorem step_of_effect {effect : EffectRow} {step : StepView}
    (shown : stepFromRow effect = some step) : step.kind = effect.kind.name ∧
      step.ordinal = effect.ordinal ∧ step.status = effect.state.name ∧
      step.attempt = effect.attempts := by
  unfold stepFromRow at shown
  simp only [Option.bind_eq_bind, Option.bind_eq_some_iff, Option.pure_def,
    Option.some.injEq] at shown
  obtain ⟨updatedAt, -, rfl⟩ := shown
  exact ⟨rfl, rfl, rfl, rfl⟩

theorem step_lastError {effect : EffectRow} {step : StepView}
    (shown : stepFromRow effect = some step) : step.lastError = effect.lastError := by
  unfold stepFromRow at shown
  simp only [Option.bind_eq_bind, Option.bind_eq_some_iff, Option.pure_def,
    Option.some.injEq] at shown
  obtain ⟨updatedAt, -, rfl⟩ := shown
  rfl

/-- The integers of a response are in the ranges of their columns. -/
theorem Renders.inRange (renders : Renders row rows view) (checked : row.checked = true)
    (effects : ∀ effect ∈ rows, effect.checked = true) : view.InRange := by
  unfold SagaRow.checked at checked
  rw [decide_eq_true_eq] at checked
  obtain ⟨-, -, -, ⟨positive, bounded⟩, -, -⟩ := checked
  constructor
  · rw [renders.revision]
    exact ⟨by omega, bounded⟩
  · intro step member
    obtain ⟨effect, inside, shown⟩ := exists_partner renders.steps member
    obtain ⟨-, ordinal, -, attempt⟩ := step_of_effect shown
    have holds := effects effect inside
    unfold EffectRow.checked EffectPlan.checked EffectProgress.checked at holds
    simp only [Bool.and_eq_true, decide_eq_true_eq] at holds
    obtain ⟨⟨⟨low, high⟩, -⟩, ⟨least, most⟩, -⟩ := holds
    unfold StepView.InRange i32Range
    rw [ordinal, attempt]
    omega

end View

/-! ### Keys -/

section Keyed

variable {entry : Committed} {request : KeyedRequest}

theorem not_executes_of_replays {response : ProvisioningView}
    (asked : entry.event.keyed = some request)
    (replays : Replays request.caller request.key request.operation request.actor
      request.requestHash response entry.before entry.after) : executes entry = false := by
  rw [← Bool.not_eq_true]
  exact fun executed => not_replays asked executed replays

theorem executes_of_fresh (asked : entry.event.keyed = some request)
    (fresh : entry.before.mutation request.caller request.key = none) : executes entry = true := by
  unfold executes
  rw [asked]
  simp only [fresh, Option.isNone_none]

/-- The saga a public mutation starts or names. -/
def Event.sagaId : Event → Option Uuid
  | .start _ _ input => some input.provisioningId
  | .retry _ _ input => some input.provisioningId
  | .requestCleanup _ _ _ input => some input.provisioningId
  | _ => none

/-- **A call that executed**: it reserved its key with the response it rendered of its saga. -/
structure Executed (entry : Committed) (request : KeyedRequest) (response : ProvisioningView) :
    Prop where
  asked : entry.event.keyed = some request
  answered : entry.reply = .view response
  executed : executes entry = true
  reserves : Reserves request.caller request.key request.operation request.actor
    request.requestHash response entry.before entry.after
  rendered : ∃ id saga, entry.event.sagaId = some id ∧ Shows entry.after id saga ∧
    renderView saga.row saga.effects = some response

/-- **A call with a key replayed or executed.** -/
theorem Did.keyed (did : Did entry) (asked : entry.event.keyed = some request) : ∃ response,
    (entry.reply = .view response ∧ Replays request.caller request.key request.operation
      request.actor request.requestHash response entry.before entry.after) ∨
    Executed entry request response := by
  cases did with
  | replayed asked' answered replays =>
    rw [asked] at asked'
    cases asked'
    exact ⟨_, Or.inl ⟨answered, replays⟩⟩
  | began called answered absent begins shows elsewhere rendered reserves =>
    have same := asked
    rw [called] at same
    cases same
    exact ⟨_, Or.inr ⟨asked, answered, executes_of_fresh asked reserves.fresh, reserves, _, _,
      by rw [called]; rfl, shows, rendered⟩⟩
  | retried called answered moves member owner current resolvable rendered reserves =>
    have same := asked
    rw [called] at same
    cases same
    exact ⟨_, Or.inr ⟨asked, answered, executes_of_fresh asked reserves.fresh, reserves, _, _,
      by rw [called]; rfl, moves.shows, rendered⟩⟩
  | cleaned called answered moves owner current rendered reserves =>
    have same := asked
    rw [called] at same
    cases same
    exact ⟨_, Or.inr ⟨asked, answered, executes_of_fresh asked reserves.fresh, reserves, _, _,
      by rw [called]; rfl, moves.shows, rendered⟩⟩
  | quarantined called | idle called | claimed called | superseded called | finalized called =>
    rw [called] at asked
    cases asked

/-- Only calls with a key answer with a view. -/
theorem Did.keyed_of_view (did : Did entry) {view : ProvisioningView}
    (answered : entry.reply = .view view) : ∃ request, entry.event.keyed = some request := by
  cases did with
  | replayed asked _ _ => exact ⟨_, asked⟩
  | began called | retried called | cleaned called =>
    rw [called]
    exact ⟨_, rfl⟩
  | quarantined _ other | idle _ other | claimed _ other | superseded _ other
  | finalized _ other =>
    rw [answered] at other
    cases other

theorem Quarantines.mutations {now : Timestamp} {count : Nat} {before after : Store}
    (chain : Quarantines now count before after) : after.mutations = before.mutations := by
  induction chain with
  | done store => rfl
  | next _ _ _ kept _ ih => exact ih.trans kept

/-- A call without a key leaves the keys alone. -/
theorem Did.unkeyed (did : Did entry) (silent : entry.event.keyed = none) :
    entry.after.mutations = entry.before.mutations := by
  cases did with
  | replayed asked _ _ =>
    rw [silent] at asked
    cases asked
  | began called | retried called | cleaned called =>
    rw [called] at silent
    cases silent
  | quarantined _ _ chain => exact chain.mutations
  | idle _ _ kept | superseded _ _ _ kept => rw [kept]
  | claimed _ _ _ _ kept | finalized _ _ _ _ _ kept => exact kept

/-- **A committed call leaves every key as it was, or reserves it.** -/
theorem Did.mutation (did : Did entry) (caller key : String) :
    entry.after.mutation caller key = entry.before.mutation caller key ∨
      ∃ request response row, Executed entry request response ∧ request.caller = caller ∧
        request.key = key ∧ entry.after.mutation caller key = some row ∧
        Holds row request.operation request.actor request.requestHash response := by
  cases asked : entry.event.keyed with
  | none =>
    refine Or.inl ?_
    unfold Store.mutation
    rw [did.unkeyed asked]
  | some request =>
    obtain ⟨response, ⟨-, same, -⟩ | executed⟩ := did.keyed asked
    · exact Or.inl (by rw [same])
    · by_cases here : caller = request.caller ∧ key = request.key
      · obtain ⟨rfl, rfl⟩ := here
        obtain ⟨row, present, holds⟩ := executed.reserves.holds
        exact Or.inr ⟨request, response, row, executed, rfl, rfl, present, holds⟩
      · exact Or.inl (executed.reserves.others caller key here)

/-- **No call rewrites a key once reserved.** -/
theorem Did.keeps_key (did : Did entry) {caller key : String} {row : MutationRow}
    (found : entry.before.mutation caller key = some row) :
    entry.after.mutation caller key = some row := by
  rcases did.mutation caller key with same | ⟨request, response, row, executed, rfl, rfl, -⟩
  · exact same.trans found
  · rw [executed.reserves.fresh] at found
    cases found

end Keyed

/-! ### Keys of a run -/

namespace Run

variable {history past rest : List Committed} {store : Store} {entry : Committed}

/-- The response of an executed call is in range. -/
theorem inRange (run : Run (past ++ entry :: rest) store) {request : KeyedRequest}
    {response : ProvisioningView} (executed : Executed entry request response) :
    response.InRange := by
  obtain ⟨id, saga, -, shows, rendered⟩ := executed.rendered
  obtain ⟨-, -, -, upTo⟩ := run.commit_of_mem
  have checked := (Run.holds upTo).checked
  refine (renders_of_render rendered).inRange (checked.sagas _ (Store.saga_found.mp shows.row).1)
    fun effect member => ?_
  exact checked.effects effect (Store.effect_found.mp (shows.stored member)).1

/-- **A key is kept with the response of the call that reserved it.** -/
theorem attributed (run : Run history store) {caller key : String} {row : MutationRow}
    (found : store.mutation caller key = some row) :
    ∃ entry ∈ history, ∃ request response, Executed entry request response ∧
      request.caller = caller ∧ request.key = key ∧
      Holds row request.operation request.actor request.requestHash response := by
  induction run with
  | start => cases found
  | @commit history entry earlier legal committed ih =>
    have run : Run (history ++ entry :: []) entry.after := .commit earlier legal committed
    rcases run.did.2.mutation caller key with same | ⟨request, response, written, executed, rfl,
      rfl, present, holds⟩
    · rw [same] at found
      obtain ⟨recording, member, rest⟩ := ih found
      exact ⟨recording, List.mem_append_left _ member, rest⟩
    · rw [found] at present
      cases present
      exact ⟨entry, List.mem_append_right _ List.mem_cons_self, request, response, executed, rfl,
        rfl, holds⟩

/-- **A replay returns the response of the call that reserved its key.** -/
theorem replayed (run : Run (past ++ entry :: rest) store) {request : KeyedRequest}
    {response : ProvisioningView} (replays : Replays request.caller request.key request.operation
      request.actor request.requestHash response entry.before entry.after) :
    ∃ earlier ∈ past, Executed earlier request response := by
  obtain ⟨-, row, found, answered⟩ := replays
  obtain ⟨upTo, -, -, -⟩ := run.commit_of_mem
  obtain ⟨earlier, member, first, kept, executed, caller, key, holds⟩ := attributed upTo found
  obtain ⟨before, after, rfl⟩ := List.append_of_mem member
  have ranged := inRange upTo executed
  have same : response = kept := by
    have decoded := answered.response_eq
    rw [holds.response_eq, Option.bind_some, ProvisioningView.fromJson_toJson kept ranged] at decoded
    exact (Option.some.inj decoded).symm
  have asked : first = request := by
    cases first
    cases request
    have operation := holds.operation_eq.symm.trans answered.operation_eq
    have actor := holds.actor_eq.symm.trans answered.actor_eq
    have hash := holds.hash_eq.symm.trans answered.hash_eq
    simp only at caller key operation actor hash
    rw [caller, key, operation, actor, hash]
  subst asked same
  exact ⟨earlier, member, executed⟩

/-- **Calls without keys leave the keys.** -/
theorem mutations_kept {later : List Committed} {final : Store} (run : Run history store)
    (run' : Run (history ++ later) final)
    (silent : ∀ entry ∈ later, entry.event.keyed = none) : final.mutations = store.mutations := by
  refine run.later (fun calls _ last => (∀ entry ∈ calls, entry.event.keyed = none) →
    last.mutations = store.mutations) (fun _ => rfl) ?_ run' silent
  intro between entry earlier kept legal committed silent
  have run'' : Run ((history ++ between) ++ entry :: []) entry.after :=
    .commit earlier legal committed
  rw [run''.did.2.unkeyed (silent entry (List.mem_append_right _ List.mem_cons_self))]
  exact kept fun other member => silent other (List.mem_append_left _ member)

/-- **Every view is the response of a call that executed** the same request, the call itself or an earlier one. -/
theorem view_executed (run : Run (past ++ entry :: rest) store) {view : ProvisioningView}
    (answered : entry.reply = .view view) :
    ∃ executing ∈ past ++ [entry], ∃ request, entry.event.keyed = some request ∧
      Executed executing request view := by
  obtain ⟨request, asked⟩ := run.did.2.keyed_of_view answered
  obtain ⟨response, ⟨same, replays⟩ | executed⟩ := run.did.2.keyed asked
  · rw [answered] at same
    cases same
    obtain ⟨earlier, member, executed⟩ := run.replayed replays
    exact ⟨earlier, List.mem_append_left _ member, request, asked, executed⟩
  · have same := executed.answered
    rw [answered] at same
    cases same
    exact ⟨entry, List.mem_append_right _ List.mem_cons_self, request, asked, executed⟩

end Run

end OrganizationProvisioning
