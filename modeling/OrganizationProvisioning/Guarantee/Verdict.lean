/-
**What a handler answers.**

A handler lets its caller in, checks the request, asks for its pool, runs one transaction and casts what this
returned.

* `Gate.Refuses` — what stops a call before its transaction, and what the caller is told.
* `Gated` — what stops each handler; `gates_decide` — **with an accepted configuration this is its gate.**
* `Handles.domain` — a public mutation with new ids, at instants that can be written, fails with a domain
  failure only.
* `Concludes` — a public mutation in whole, on a store; a call whose transaction panics has no answer.
* `Verdict` — every other call is answered; a response is that of a committed call; any other answer leaves
  the store as it was, and tells why; `public_calls_answered` — **this holds of every run.**
-/
import OrganizationProvisioning.Guarantee.Admission
import OrganizationProvisioning.Guarantee.Binding
import OrganizationProvisioning.Guarantee.Decision
import OrganizationProvisioning.Guarantee.Exchange
import OrganizationProvisioning.Run.Skipping

namespace OrganizationProvisioning

open Relational Transactional

/-! ### Valid requests -/

/-- The texts `parse_mutation` accepts. -/
structure ValidMutation (parseUuid : String → Option Uuid) (id revision key evidence : String) : Prop where
  key : validIdempotencyKey key = true
  evidence : validText evidence 4000 = true
  id : ∃ provisioningId, parseUuid id = some provisioningId
  revision : ∃ expected, parseI64 revision = some expected ∧ 0 < expected

/-- **A valid request**, of each public mutation. -/
def PublicRequest.Valid (parseUuid : String → Option Uuid) : PublicRequest → Prop
  | .start request => validOrganizationName (trim request.name) = true ∧ validSlug request.slug = true ∧
      validOpaqueId request.ownerSubject 256 = true ∧ validIdempotencyKey request.idempotencyKey = true
  | .retry request => ValidMutation parseUuid request.provisioningId request.expectedRevision
      request.idempotencyKey request.evidence ∧
      ∀ value ∈ [request.observedOrganizationId, request.observedOwnerMembershipId, request.observedGrantId],
        ∀ id, value = some id → validOpaqueId id 512 = true
  | .requestCleanup request => ValidMutation parseUuid request.provisioningId request.expectedRevision
      request.idempotencyKey request.evidence

theorem startInput_isSome {asker : Asker} {hash : List UInt8} {provisioningId : Uuid}
    {grants : List BootstrapGrant} {request : StartRequest} {parseUuid : String → Option Uuid} :
    (startInput asker hash provisioningId grants request).isSome ↔
      (PublicRequest.start request).Valid parseUuid := by
  unfold startInput PublicRequest.Valid
  simp only [Option.isSome_ite, Bool.and_eq_true, and_assoc]

theorem parseMutation_isSome {parseUuid : String → Option Uuid} {id revision key evidence : String} :
    (parseMutation parseUuid id revision key evidence).isSome ↔
      ValidMutation parseUuid id revision key evidence := by
  constructor
  · intro accepted
    obtain ⟨parsed, found⟩ := Option.isSome_iff_exists.mp accepted
    obtain ⟨valid, text, uuid, read, positive⟩ := valid_parseMutation found
    exact ⟨valid, text, ⟨_, uuid⟩, ⟨_, read, positive⟩⟩
  · intro valid
    obtain ⟨provisioningId, uuid⟩ := valid.id
    obtain ⟨expected, read, positive⟩ := valid.revision
    have kept : (parseI64 revision).filter (fun value => 0 < value) = some expected :=
      Option.filter_eq_some_iff.mpr ⟨read, decide_eq_true positive⟩
    simp [parseMutation, valid.key, valid.evidence, uuid, kept]

theorem retryInput_isSome {parseUuid : String → Option Uuid} {asker : Asker} {hash : List UInt8}
    {request : RetryRequest} : (retryInput parseUuid asker hash request).isSome ↔
      (PublicRequest.retry request).Valid parseUuid := by
  simp only [retryInput, PublicRequest.Valid]
  rw [← parseMutation_isSome]
  cases parseMutation parseUuid request.provisioningId request.expectedRevision request.idempotencyKey
      request.evidence with
  | none => simp
  | some parsed =>
    simp only [Option.bind_eq_bind, Option.bind_some, Option.isSome_some, true_and]
    split
    · rename_i invalid
      obtain ⟨value, listed, wrong⟩ := List.any_eq_true.mp invalid
      simp only [Option.isSome_none, Bool.false_eq_true, false_iff]
      intro valid
      cases value with
      | none => cases wrong
      | some id =>
        rw [Option.any_some, valid _ listed id rfl] at wrong
        cases wrong
    · rename_i valid
      simp only [Option.pure_def, Option.isSome_some, true_iff]
      intro value listed id same
      by_contra wrong
      refine valid (List.any_eq_true.mpr ⟨value, listed, ?_⟩)
      rw [same]
      simpa using wrong

theorem cleanupInput_isSome {parseUuid : String → Option Uuid} {asker : Asker} {hash : List UInt8}
    {request : RequestCleanupRequest} : (cleanupInput parseUuid asker hash request).isSome ↔
      (PublicRequest.requestCleanup request).Valid parseUuid := by
  simp only [cleanupInput, PublicRequest.Valid]
  rw [← parseMutation_isSome]
  cases parseMutation parseUuid request.provisioningId request.expectedRevision request.idempotencyKey
      request.evidence with
  | none => simp
  | some parsed => simp

/-! ### Gates -/

/-- The gate of a handler: its errors, its callers, and what an assertion must be for. -/
structure Gate (Code : Type) where
  forbidden : Code
  unauthenticated : Code
  invalidRequest : Code
  callers : List String
  capability : String
  operation : String

def publicGate (config : OrganizationProvisioningConfig) (operation : String) : Gate PublicCode :=
  ⟨.forbidden, .unauthenticated, .invalidRequest, config.managementCallers, publicCapability, operation⟩

def workerGate (config : OrganizationProvisioningConfig) : Gate WorkerCode :=
  ⟨.forbidden, .unauthenticated, .invalidRequest, config.workerCallers, workerCapability, "process_due"⟩

section Gates

variable {Ctx Code : Type} (host : Host Ctx) (plugin : PostgresOrganizationProvisioningPlugin)
  (invoked : Invoked Ctx)

/-- Who passes a gate. -/
abbrev Gate.Passes (gate : Gate Code) (asker : Asker) : Prop :=
  Allows host plugin.config gate.callers gate.capability gate.operation invoked asker

/-- **What stops a call**, and what its caller is told: in this order, a stranger, a caller without an
assertion, an invalid request, and a plugin without its pool. -/
inductive Gate.Refuses (gate : Gate Code) (valid : Prop) : PluginError Code → Prop
  | forbidden (stranger : ∀ caller ∈ gate.callers, host.callerInstance invoked.context ≠ some caller) :
      Refuses gate valid (.domain (.known gate.forbidden))
  | unauthenticated {caller : String} (calls : host.callerInstance invoked.context = some caller)
      (listed : caller ∈ gate.callers)
      (unproved : ∀ actor, ¬ gate.Passes host plugin invoked ⟨caller, actor⟩) :
      Refuses gate valid (.domain (.known gate.unauthenticated))
  | invalidRequest {asker : Asker} (admitted : gate.Passes host plugin invoked asker) (invalid : ¬ valid) :
      Refuses gate valid (.domain (.known gate.invalidRequest))
  | unprepared {asker : Asker} (admitted : gate.Passes host plugin invoked asker) (accepted : valid)
      (closed : plugin.prepared = false) :
      Refuses gate valid (.runtime (.pluginFailure "Organization Provisioning Plugin is not prepared"))

variable {host plugin invoked}

theorem okOr_refuses {Error Value : Type} {error other : Error} {found : Option Value} :
    okOr error found = .error other ↔ found = none ∧ error = other := by
  cases found <;> simp [okOr]

theorem check_refuses {Error : Type} {condition : Bool} {error other : Error} :
    check condition error = .error other ↔ condition = false ∧ error = other := by
  cases condition <;> simp [check]

theorem bind_refuses {Error Value Result : Type} {first : Except Error Value}
    {rest : Value → Except Error Result} {error : Error} : (first >>= rest) = .error error ↔
      first = .error error ∨ ∃ value, first = .ok value ∧ rest value = .error error := by
  cases first <;> simp [bind, Except.bind]

/-- **Who is not let in**, and what he is told. -/
theorem authorize_refuses {gate : Gate Code} {error : PluginError Code} :
    plugin.authorize host invoked gate.forbidden gate.unauthenticated gate.callers gate.capability
        gate.operation = .error error ↔
      ((∀ caller ∈ gate.callers, host.callerInstance invoked.context ≠ some caller) ∧
        error = .domain (.known gate.forbidden)) ∨
      ∃ caller, host.callerInstance invoked.context = some caller ∧ caller ∈ gate.callers ∧
        (∀ actor, ¬ gate.Passes host plugin invoked ⟨caller, actor⟩) ∧
        error = .domain (.known gate.unauthenticated) := by
  unfold PostgresOrganizationProvisioningPlugin.authorize
  cases allowed : allowedCaller host invoked.context gate.callers with
  | none =>
    have stranger : ∀ caller ∈ gate.callers, host.callerInstance invoked.context ≠ some caller := by
      intro caller listed calls
      rw [(allowedCaller_eq host).mpr ⟨calls, listed⟩] at allowed
      cases allowed
    constructor
    · intro same
      cases same
      exact Or.inl ⟨stranger, rfl⟩
    · rintro (⟨-, rfl⟩ | ⟨caller, calls, listed, -⟩)
      · rfl
      · exact absurd calls (stranger caller listed)
  | some caller =>
    obtain ⟨calls, listed⟩ := (allowedCaller_eq host).mp allowed
    cases authenticated : plugin.authenticatedSubject host invoked gate.capability gate.operation with
    | none =>
      have unproved : ∀ actor, ¬ gate.Passes host plugin invoked ⟨caller, actor⟩ := by
        intro actor allows
        rw [PostgresOrganizationProvisioningPlugin.authenticatedSubject_eq.mpr
          ⟨allows.verifier, allows.asserted, allows.subject⟩] at authenticated
        cases authenticated
      constructor
      · intro same
        cases same
        exact Or.inr ⟨caller, calls, listed, unproved, rfl⟩
      · rintro (⟨stranger, -⟩ | ⟨-, -, -, -, rfl⟩)
        · exact absurd calls (stranger caller listed)
        · rfl
    | some actor =>
      obtain ⟨verifier, asserted, subject⟩ :=
        PostgresOrganizationProvisioningPlugin.authenticatedSubject_eq.mp authenticated
      constructor
      · intro impossible
        cases impossible
      · rintro (⟨stranger, -⟩ | ⟨other, calls', -, unproved, -⟩)
        · exact absurd calls (stranger caller listed)
        · rw [calls] at calls'
          cases calls'
          exact absurd ⟨calls, listed, verifier, asserted, subject⟩ (unproved actor)

/-- **A handler with these checks is stopped by its gate**, and by nothing else. -/
theorem gate_refuses {Input Result : Type} (gate : Gate Code) {valid : Prop} {checked : Asker → Option Input}
    {build : Asker → Input → Result} {error : PluginError Code}
    (accepts : ∀ asker, (checked asker).isSome ↔ valid) :
    (do
      let asker ← plugin.authorize host invoked gate.forbidden gate.unauthenticated gate.callers
        gate.capability gate.operation
      let input ← okOr (.domain (.known gate.invalidRequest)) (checked asker)
      plugin.requirePrepared
      return build asker input) = .error error ↔ gate.Refuses host plugin invoked valid error := by
  unfold PostgresOrganizationProvisioningPlugin.requirePrepared
  simp only [bind_refuses, authorize_refuses, okOr_refuses, check_refuses,
    PostgresOrganizationProvisioningPlugin.authorize_ok, okOr_eq, check_eq]
  constructor
  · rintro ((⟨stranger, rfl⟩ | ⟨caller, calls, listed, unproved, rfl⟩) |
      ⟨asker, admitted, ⟨invalid, rfl⟩ | ⟨input, found, ⟨closed, rfl⟩ | ⟨-, -, impossible⟩⟩⟩)
    · exact .forbidden stranger
    · exact .unauthenticated calls listed unproved
    · refine .invalidRequest admitted fun accepted => ?_
      have some := (accepts asker).mpr accepted
      rw [invalid] at some
      cases some
    · exact .unprepared admitted ((accepts asker).mp (by rw [found]; rfl)) closed
    · cases impossible
  · intro refused
    cases refused with
    | forbidden stranger => exact Or.inl (Or.inl ⟨stranger, rfl⟩)
    | unauthenticated calls listed unproved => exact Or.inl (Or.inr ⟨_, calls, listed, unproved, rfl⟩)
    | invalidRequest admitted invalid =>
      refine Or.inr ⟨_, admitted, Or.inl ⟨?_, rfl⟩⟩
      exact Option.not_isSome_iff_eq_none.mp fun some => invalid ((accepts _).mp some)
    | unprepared admitted accepted closed =>
      obtain ⟨input, found⟩ := Option.isSome_iff_exists.mp ((accepts _).mpr accepted)
      exact Or.inr ⟨_, admitted, Or.inr ⟨input, found, Or.inl ⟨closed, rfl⟩⟩⟩

/-- **What stops a public mutation.** -/
theorem publicCall_refuses (accepted : plugin.config.validate host.checks = .ok ()) {inputs : CallInputs}
    {request : PublicRequest} {error : PluginError PublicCode} :
    plugin.publicCall host invoked inputs request = .error error ↔
      (publicGate plugin.config request.operation.wireName).Refuses host plugin invoked
        (request.Valid host.readers.parseUuid) error := by
  cases request with
  | start request =>
    obtain ⟨grants, snapshot, -⟩ := snapshot_of_validate accepted
    unfold PostgresOrganizationProvisioningPlugin.publicCall PostgresOrganizationProvisioningPlugin.startCall
    rw [snapshot]
    exact gate_refuses (publicGate plugin.config _) fun asker => startInput_isSome
  | retry request => exact gate_refuses (publicGate plugin.config _) fun asker => retryInput_isSome
  | requestCleanup request => exact gate_refuses (publicGate plugin.config _) fun asker => cleanupInput_isSome

/-- **What stops a `get`.** -/
theorem getCall_refuses {provisioningId : String} {error : PluginError PublicCode} :
    plugin.getCall host invoked provisioningId = .error error ↔
      (publicGate plugin.config "get").Refuses host plugin invoked
        (∃ id, host.readers.parseUuid provisioningId = some id) error :=
  gate_refuses (publicGate plugin.config "get") fun _ => Option.isSome_iff_exists

/-- **What stops a `process_due`.** -/
theorem processDueCall_refuses {request : ProcessDueRequest} {error : PluginError WorkerCode} :
    plugin.processDueCall host invoked request = .error error ↔
      (workerGate plugin.config).Refuses host plugin invoked (request.valid = true) error := by
  have checks : check request.valid (PluginError.domain (.known WorkerCode.invalidRequest)) =
      okOr (.domain (.known .invalidRequest)) (if request.valid then some () else none) := by
    cases request.valid <;> rfl
  unfold PostgresOrganizationProvisioningPlugin.processDueCall
  rw [checks]
  exact gate_refuses (workerGate plugin.config) fun _ => by simp

variable (host plugin invoked) in
/-- **The gates of the handlers**: what stops each of them. -/
structure Gated : Prop where
  mutations : ∀ inputs request error, plugin.publicCall host invoked inputs request = .error error ↔
    (publicGate plugin.config request.operation.wireName).Refuses host plugin invoked
      (request.Valid host.readers.parseUuid) error
  gets : ∀ provisioningId error, plugin.getCall host invoked provisioningId = .error error ↔
    (publicGate plugin.config "get").Refuses host plugin invoked
      (∃ id, host.readers.parseUuid provisioningId = some id) error
  dues : ∀ request error, plugin.processDueCall host invoked request = .error error ↔
    (workerGate plugin.config).Refuses host plugin invoked (request.valid = true) error

/-- **A handler of an accepted configuration is stopped by its gate**, and by nothing else. -/
theorem gates_decide (accepted : plugin.config.validate host.checks = .ok ()) (invoked : Invoked Ctx) :
    Gated host plugin invoked where
  mutations _ _ _ := publicCall_refuses accepted
  gets _ _ := getCall_refuses
  dues _ _ := processDueCall_refuses

end Gates

/-- The gates at the console. -/
theorem gates_decide_rehearsed : Gated Rehearsal.host Rehearsal.plugin Rehearsal.console :=
  gates_decide (by rfl) Rehearsal.console

/-! ### Domain failures -/

section Domain

variable {store : Store}

/-- The instants of a public mutation, and those of its saga, can be written. -/
def Event.Writable (store : Store) : Event → Prop
  | .start now _ _ => now.Formats
  | .retry now _ input => now.Formats ∧
      ∀ row, store.saga input.provisioningId = some row → Dated row (store.effectsOf input.provisioningId)
  | .requestCleanup now _ _ input => now.Formats ∧
      ∀ row, store.saga input.provisioningId = some row → Dated row (store.effectsOf input.provisioningId)
  | _ => True

/-- What a table denies it denies with a domain failure, if the operation does. -/
theorem Denied.domain {asked : KeyedRequest} {id : Uuid} {expected : Int} {declines : SagaRow → Abort → Prop}
    {error : Abort} (denied : Denied store asked id expected declines error)
    (named : ∀ row error, declines row error → ∃ failure, error = .domain failure) :
    ∃ failure, error = .domain failure := by
  cases denied with
  | missing | conflict | stale => exact ⟨_, rfl⟩
  | declined _ _ _ _ declined => exact named _ _ declined

/-- **A public mutation with new ids, at instants that can be written, fails with a domain failure only.** -/
theorem Handles.domain {Ctx : Type} {host : Host Ctx} {request : PublicRequest} {event : Event}
    {history : List Committed} (run : Run history store) (handles : Handles host request event)
    (fresh : event.Fresh store) (writable : event.Writable store) {abort : Abort}
    (aborts : postgres.Aborts event.program store abort) : ∃ failure, abort = .domain failure := by
  obtain ⟨plugin, invoked, inputs, accepted, called⟩ := handles.call
  cases request with
  | start request =>
    obtain ⟨asker, grants, input, -, snapshot, -, asked, rfl⟩ :=
      PostgresOrganizationProvisioningPlugin.startCall_ok.mp called
    obtain ⟨grants', snapshot', small, fits⟩ := snapshot_of_validate accepted
    rw [snapshot] at snapshot'
    cases snapshot'
    obtain ⟨conflict, -⟩ := ((run.start_decided fresh (.of_startInput small fits asked) writable).aborts
      abort).mp (postgres.aborts_map.mp aborts)
    exact ⟨_, conflict⟩
  | retry request =>
    obtain ⟨asker, input, -, -, -, rfl⟩ := PostgresOrganizationProvisioningPlugin.retryCall_ok.mp called
    obtain ⟨clock, dated⟩ := writable
    have denied := ((run.retry_decided fresh clock dated).aborts abort).mp (postgres.aborts_map.mp aborts)
    refine denied.domain ?_
    rintro row error ⟨-, rfl⟩
    unfold RetryInput.refusal
    split
    · exact ⟨_, rfl⟩
    · exact ⟨_, rfl⟩
  | requestCleanup request =>
    obtain ⟨asker, input, -, -, -, rfl⟩ :=
      PostgresOrganizationProvisioningPlugin.requestCleanupCall_ok.mp called
    obtain ⟨clock, dated⟩ := writable
    have denied := ((run.cleanup_decided fresh.1 fresh.2 clock dated).aborts abort).mp (postgres.aborts_map.mp aborts)
    refine denied.domain ?_
    rintro row error ⟨-, rfl⟩
    unfold cleanupRefusal
    split
    · exact ⟨_, rfl⟩
    · exact ⟨_, rfl⟩

end Domain

/-! ### Verdicts -/

section Verdicts

variable {Ctx Time : Type} (host : Host Ctx) (format : TimeFormat Time)
  (plugin : PostgresOrganizationProvisioningPlugin) (invoked : Invoked Ctx) (inputs : CallInputs)
  (request : PublicRequest) (history : List Committed) (store : Store)

/-- **A public mutation in whole**, on a store: what its caller gets, and the store after. -/
inductive Concludes : Except (PluginError PublicCode) (Response Time) → Store → Prop
  | stopped {error : PluginError PublicCode}
      (called : plugin.publicCall host invoked inputs request = .error error) : Concludes (.error error) store
  | aborted {event : Event} {abort : Abort} {error : PluginError PublicCode}
      (called : plugin.publicCall host invoked inputs request = .ok event)
      (aborts : postgres.Aborts event.program store abort) (tells : abortError abort = some error) :
      Concludes (.error error) store
  | committed {event : Event} {view : ProvisioningView} {final : Store}
      (called : plugin.publicCall host invoked inputs request = .ok event)
      (commits : postgres.Commits event.program store (.view view) final) :
      Concludes (okOr serializationRuntime (wireCast format view)) final

/-- **What a public mutation answers** after a history. -/
structure Verdict : Prop where
  /-- It is answered, unless the driver panics on a row. -/
  ends : (∃ result final, Concludes host format plugin invoked inputs request store result final) ↔
    ¬ ∃ event, plugin.publicCall host invoked inputs request = .ok event ∧
      postgres.Aborts event.program store .panicked
  /-- With new ids, at instants that can be written, it is answered. -/
  answered : ∀ event, plugin.publicCall host invoked inputs request = .ok event → event.Fresh store →
    event.Writable store →
      ∃ result final, Concludes host format plugin invoked inputs request store result final
  /-- A response is that of a committed call with the request's key, for its caller and actor, and shows the saga of
  the call it is from, as this call left it. -/
  response : ∀ response final,
    Concludes host format plugin invoked inputs request store (.ok response) final →
      ∃ entry : Committed, plugin.publicCall host invoked inputs request = .ok entry.event ∧
        entry.before = store ∧ entry.after = final ∧ Run (history ++ [entry]) final ∧
        (∃ asker, entry.event.keyed = some (request.asked host asker) ∧
          (publicGate plugin.config request.operation.wireName).Passes host plugin invoked asker) ∧
        ∃ executing ∈ history ++ [entry], ∃ saga, Origin executing entry saga ∧
          response.Shows format saga.row saga.effects
  /-- Any other answer leaves the store as it was. -/
  kept : ∀ error final, Concludes host format plugin invoked inputs request store (.error error) final →
    final = store
  /-- It is that of the gate, or of the transaction; the cast never fails. -/
  told : ∀ error, (∃ final, Concludes host format plugin invoked inputs request store (.error error) final) ↔
    (publicGate plugin.config request.operation.wireName).Refuses host plugin invoked
        (request.Valid host.readers.parseUuid) error ∨
      ∃ event abort, Handles host request event ∧ plugin.publicCall host invoked inputs request = .ok event ∧
        postgres.Aborts event.program store abort ∧ abortError abort = some error
  /-- A call its gate stops gets no other answer. -/
  stops : ∀ error, (publicGate plugin.config request.operation.wireName).Refuses host plugin invoked
      (request.Valid host.readers.parseUuid) error →
    ∀ result final, Concludes host format plugin invoked inputs request store result final →
      result = .error error
  /-- With new ids, at instants that can be written, it fails as the contract says. -/
  domain : ∀ event, plugin.publicCall host invoked inputs request = .ok event → event.Fresh store →
    event.Writable store → ∀ error final,
      Concludes host format plugin invoked inputs request store (.error error) final →
        ∃ code, error = .domain (.known code)
  /-- A domain error has a code of the contract. -/
  listed : ∀ error final,
    Concludes host format plugin invoked inputs request store (.error (.domain error)) final →
      ∃ code, error = .known code

variable {host format plugin invoked inputs request history store}

/-- The reply of a committed public mutation is a view. -/
theorem Handles.view {event : Event} {reply : Reply} {final : Store} (run : Run history store)
    (handles : Handles host request event) (commits : postgres.Commits event.program store reply final) :
    ∃ view, reply = .view view ∧ Run (history ++ [(⟨event, store, reply, final⟩ : Committed)]) final := by
  have later : Run (history ++ [(⟨event, store, reply, final⟩ : Committed)]) final := by
    exact Serial.commit run (handles.legal _) commits
  obtain ⟨asker, keyed, -⟩ := handles.keyed
  obtain ⟨view, answered⟩ := Run.view_of_keyed later keyed
  exact ⟨view, answered, later⟩

/-- **The view of a committed public mutation is cast.** -/
theorem Handles.cast {event : Event} {view : ProvisioningView} {final : Store} (run : Run history store)
    (documented : format.Documented) (handles : Handles host request event)
    (commits : postgres.Commits event.program store (.view view) final) :
    ∃ entry : Committed, entry.event = event ∧ entry.before = store ∧ entry.after = final ∧
      Run (history ++ [entry]) final ∧ ∃ executing ∈ history ++ [entry], ∃ saga,
        Origin executing entry saga ∧ CastOf format view saga.row saga.effects := by
  obtain ⟨-, -, later⟩ := handles.view run commits
  exact ⟨_, rfl, rfl, rfl, later, later.reply_cast documented rfl⟩

/-- What a public mutation fails with. -/
theorem Concludes.error (run : Run history store) (documented : format.Documented)
    (accepted : plugin.config.validate host.checks = .ok ()) {error : PluginError PublicCode} {final : Store}
    (concludes : Concludes host format plugin invoked inputs request store (.error error) final) :
    final = store ∧ (plugin.publicCall host invoked inputs request = .error error ∨
      ∃ event abort, plugin.publicCall host invoked inputs request = .ok event ∧
        postgres.Aborts event.program store abort ∧ abortError abort = some error) := by
  generalize shape : (.error error : Except (PluginError PublicCode) (Response Time)) = result at concludes
  cases concludes with
  | stopped called =>
    cases shape
    exact ⟨rfl, Or.inl called⟩
  | aborted called aborts tells =>
    cases shape
    exact ⟨rfl, Or.inr ⟨_, _, called, aborts, tells⟩⟩
  | committed called commits =>
    obtain ⟨-, -, -, -, -, -, -, -, -, response, cast, -⟩ :=
      Handles.cast run documented ⟨plugin, invoked, inputs, accepted, called⟩ commits
    rw [cast] at shape
    cases shape

/-- **Every public mutation is answered** that does not panic. -/
theorem exists_concludes (run : Run history store) (accepted : plugin.config.validate host.checks = .ok ())
    (calm : ∀ event, plugin.publicCall host invoked inputs request = .ok event →
      ¬ postgres.Aborts event.program store .panicked) :
    ∃ result final, Concludes host format plugin invoked inputs request store result final := by
  cases called : plugin.publicCall host invoked inputs request with
  | error error => exact ⟨_, _, .stopped called⟩
  | ok event =>
    rcases Engine.commits_or_aborts (fun statement store => ⟨_, computed_answers statement store⟩)
        event.program store with ⟨reply, final, commits⟩ | ⟨abort, aborts⟩
    · obtain ⟨view, rfl, -⟩ := Handles.view run ⟨plugin, invoked, inputs, accepted, called⟩ commits
      exact ⟨_, _, .committed called commits⟩
    · cases abort with
      | domain failure => exact ⟨_, _, .aborted called aborts rfl⟩
      | storage error => exact ⟨_, _, .aborted called aborts rfl⟩
      | panicked => exact absurd aborts (calm event called)

/-- A call that is answered does not panic. -/
theorem Concludes.calm (accepted : plugin.config.validate host.checks = .ok ())
    {result : Except (PluginError PublicCode) (Response Time)} {final : Store}
    (concludes : Concludes host format plugin invoked inputs request store result final) {event : Event}
    (called : plugin.publicCall host invoked inputs request = .ok event) :
    ¬ postgres.Aborts event.program store .panicked := by
  obtain ⟨asker, keyed, -⟩ := Handles.keyed ⟨plugin, invoked, inputs, accepted, called⟩
  have certain := Event.certain_of_keyed keyed
  intro panics
  cases concludes with
  | stopped called' =>
    rw [called] at called'
    cases called'
  | aborted called' aborts tells =>
    rw [called] at called'
    cases called'
    have same := certain.aborts_iff.mp aborts
    rw [certain.aborts_iff.mp panics, Except.error.injEq] at same
    rw [← same] at tells
    cases tells
  | committed called' commits =>
    rw [called] at called'
    cases called'
    exact certain.not_aborts commits _ panics

/-- What a public mutation responds. -/
theorem Concludes.ok (run : Run history store) (documented : format.Documented)
    (accepted : plugin.config.validate host.checks = .ok ()) {response : Response Time} {final : Store}
    (concludes : Concludes host format plugin invoked inputs request store (.ok response) final) :
    ∃ entry : Committed, plugin.publicCall host invoked inputs request = .ok entry.event ∧
      entry.before = store ∧ entry.after = final ∧ Run (history ++ [entry]) final ∧
      ∃ executing ∈ history ++ [entry], ∃ saga, Origin executing entry saga ∧
        response.Shows format saga.row saga.effects := by
  generalize shape : (.ok response : Except (PluginError PublicCode) (Response Time)) = result at concludes
  cases concludes with
  | stopped | aborted => cases shape
  | committed called commits =>
    have handles : Handles host request _ := ⟨plugin, invoked, inputs, accepted, called⟩
    obtain ⟨entry, rfl, before, after, later, executing, inside, saga, origin, other, cast, same⟩ :=
      handles.cast run documented commits
    rw [cast] at shape
    cases shape
    exact ⟨entry, called, before, after, later, executing, inside, saga, origin, same⟩

/-- **Every public mutation of an accepted configuration that does not panic is answered**, and its answer says what
was done. -/
theorem public_calls_answered (run : Run history store) (documented : format.Documented)
    (accepted : plugin.config.validate host.checks = .ok ()) (invoked : Invoked Ctx) (inputs : CallInputs)
    (request : PublicRequest) : Verdict host format plugin invoked inputs request history store where
  ends := by
    constructor
    · rintro ⟨result, final, concludes⟩ ⟨event, called, panics⟩
      exact concludes.calm accepted called panics
    · intro calm
      exact exists_concludes run accepted fun event called panics => calm ⟨event, called, panics⟩
  answered event called fresh writable := by
    refine exists_concludes run accepted fun other called' panics => ?_
    rw [called] at called'
    cases called'
    obtain ⟨failure, impossible⟩ :=
      Handles.domain run ⟨plugin, invoked, inputs, accepted, called⟩ fresh writable panics
    cases impossible
  response response final concludes := by
    obtain ⟨entry, called, before, after, later, source⟩ := concludes.ok run documented accepted
    obtain ⟨asker, keyed, passes, -⟩ := publicCall_keyed called
    exact ⟨entry, called, before, after, later, ⟨asker, keyed, passes⟩, source⟩
  kept error final concludes := (concludes.error run documented accepted).1
  told error := by
    rw [← publicCall_refuses accepted]
    constructor
    · rintro ⟨final, concludes⟩
      rcases (concludes.error run documented accepted).2 with stopped | ⟨event, abort, called, aborts, same⟩
      · exact Or.inl stopped
      · exact Or.inr ⟨event, abort, ⟨plugin, invoked, inputs, accepted, called⟩, called, aborts, same⟩
    · rintro (stopped | ⟨event, abort, -, called, aborts, tells⟩)
      · exact ⟨store, .stopped stopped⟩
      · exact ⟨store, .aborted called aborts tells⟩
  stops error refused result final concludes := by
    have stopped : plugin.publicCall host invoked inputs request = .error error :=
      (publicCall_refuses accepted).mpr refused
    cases concludes with
    | stopped called =>
      rw [stopped] at called
      cases called
      rfl
    | aborted called | committed called =>
      rw [stopped] at called
      cases called
  domain event called fresh writable error final concludes := by
    rcases (concludes.error run documented accepted).2 with stopped | ⟨event', abort, called', aborts, same⟩
    · rw [called] at stopped
      cases stopped
    · rw [called] at called'
      cases called'
      obtain ⟨failure, rfl⟩ :=
        Handles.domain run ⟨plugin, invoked, inputs, accepted, called⟩ fresh writable aborts
      cases same
      exact ⟨_, rfl⟩
  listed error final concludes := by
    rcases (concludes.error run documented accepted).2 with stopped | ⟨event, abort, -, -, same⟩
    · cases (publicCall_refuses accepted).mp stopped with
      | forbidden | unauthenticated | invalidRequest => exact ⟨_, rfl⟩
    · cases abort with
      | domain failure =>
        cases same
        exact ⟨_, rfl⟩
      | storage error => cases same
      | panicked => cases same

end Verdicts

/-- The first start once more, after the served run. -/
theorem public_calls_answered_rehearsed :
    Verdict Rehearsal.host Rehearsal.texts Rehearsal.plugin Rehearsal.console (Rehearsal.inputs 7 27)
      (.start Rehearsal.startRequest) (played Rehearsal.served).1 (played Rehearsal.served).2 :=
  public_calls_answered (run_of_played Rehearsal.served_plays) Rehearsal.texts_documented (by rfl)
    Rehearsal.console (Rehearsal.inputs 7 27) (.start Rehearsal.startRequest)

end OrganizationProvisioning
