/-
**What the handlers ask of the store.**

* `Authorized` — some accepted configuration lets this instance call for this actor.
* `Handles.keyed` — the transaction of a public request carries its authorized caller and actor, its key and the
  digest of its text.
* `PublicRequest.same_of_wire` — the text of a request, with its operation, tells the request.
-/
import OrganizationProvisioning.Model.Service
import OrganizationProvisioning.Run.Invariant

namespace OrganizationProvisioning

section Authorization

variable {Ctx : Type} (host : Host Ctx)

/-- **Some accepted configuration lets the instance call for the actor.** -/
def Authorized (callers : OrganizationProvisioningConfig → List String) (capability operation : String)
    (asker : Asker) : Prop :=
  ∃ config invoked, config.validate host.checks = .ok () ∧
    Allows host config (callers config) capability operation invoked asker

/-- A public operation of an authorized caller. -/
abbrev Permitted (operation : Operation) (asker : Asker) : Prop :=
  Authorized host OrganizationProvisioningConfig.managementCallers publicCapability operation.wireName asker

end Authorization

/-! ### The texts of requests -/

/-- **The text of a request tells the request**, among those of its operation. -/
theorem PublicRequest.same_of_wire {one two : PublicRequest} (operation : one.operation = two.operation)
    (text : one.wire = two.wire) : one = two := by
  cases one with
  | start request =>
    cases two with
    | start other => exact congrArg PublicRequest.start (StartRequest.wire_injective text)
    | retry | requestCleanup => cases operation
  | retry request =>
    cases two with
    | retry other => exact congrArg PublicRequest.retry (RetryRequest.wire_injective text)
    | start | requestCleanup => cases operation
  | requestCleanup request =>
    cases two with
    | requestCleanup other =>
      exact congrArg PublicRequest.requestCleanup (RequestCleanupRequest.wire_injective text)
    | start | retry => cases operation

/-! ### The transaction of a request -/

section Handled

variable {Ctx : Type} {host : Host Ctx} {request : PublicRequest} {event : Event}

/-- What a start is called with. -/
theorem keyed_startInput {asker : Asker} {hash : List UInt8} {provisioningId : Uuid}
    {grants : List BootstrapGrant} {request : StartRequest} {input : StartInput}
    (accepted : startInput asker hash provisioningId grants request = some input) :
    input.caller = asker.caller ∧ input.actor = asker.actor ∧ input.idempotencyKey = request.idempotencyKey ∧
      input.requestHash = hash ∧ validIdempotencyKey request.idempotencyKey = true := by
  simp only [startInput, Option.ite_none_right_eq_some, Option.some.injEq, Bool.and_eq_true] at accepted
  obtain ⟨⟨-, key⟩, rfl⟩ := accepted
  exact ⟨rfl, rfl, rfl, rfl, key⟩

theorem valid_parseMutation {parseUuid : String → Option Uuid} {id revision key evidence : String}
    {parsed : Uuid × Int} (accepted : parseMutation parseUuid id revision key evidence = some parsed) :
    validIdempotencyKey key = true ∧ validText evidence 4000 = true ∧ parseUuid id = some parsed.1 ∧
      parseI64 revision = some parsed.2 ∧ 0 < parsed.2 := by
  unfold parseMutation at accepted
  rw [Option.ite_none_right_eq_some, Bool.and_eq_true] at accepted
  obtain ⟨⟨valid, text⟩, parsing⟩ := accepted
  simp only [Option.bind_eq_bind, Option.bind_eq_some_iff, Option.pure_def, Option.some.injEq,
    Option.filter_eq_some_iff, decide_eq_true_eq] at parsing
  obtain ⟨_, found, _, ⟨read, positive⟩, rfl⟩ := parsing
  exact ⟨valid, text, found, read, positive⟩

/-- What a retry is called with. -/
theorem keyed_retryInput {parseUuid : String → Option Uuid} {asker : Asker} {hash : List UInt8}
    {request : RetryRequest} {input : RetryInput}
    (accepted : retryInput parseUuid asker hash request = some input) :
    input.caller = asker.caller ∧ input.actor = asker.actor ∧ input.idempotencyKey = request.idempotencyKey ∧
      input.requestHash = hash ∧ validIdempotencyKey request.idempotencyKey = true := by
  simp only [retryInput, Option.bind_eq_bind, Option.bind_eq_some_iff] at accepted
  obtain ⟨_, parsed, rest⟩ := accepted
  split at rest
  · cases rest
  · cases rest
    exact ⟨rfl, rfl, rfl, rfl, (valid_parseMutation parsed).1⟩

/-- What a cleanup request is called with. -/
theorem keyed_cleanupInput {parseUuid : String → Option Uuid} {asker : Asker} {hash : List UInt8}
    {request : RequestCleanupRequest} {input : CleanupInput}
    (accepted : cleanupInput parseUuid asker hash request = some input) :
    input.caller = asker.caller ∧ input.actor = asker.actor ∧ input.idempotencyKey = request.idempotencyKey ∧
      input.requestHash = hash ∧ validIdempotencyKey request.idempotencyKey = true := by
  simp only [cleanupInput, Option.bind_eq_bind, Option.bind_eq_some_iff] at accepted
  obtain ⟨_, parsed, rest⟩ := accepted
  cases rest
  exact ⟨rfl, rfl, rfl, rfl, (valid_parseMutation parsed).1⟩

/-- What a request is to the store, asked by someone. -/
def PublicRequest.asked (host : Host Ctx) (request : PublicRequest) (asker : Asker) : KeyedRequest :=
  ⟨asker.caller, request.idempotencyKey, request.operation, asker.actor, requestHash host.sha256 request.wire⟩

/-- **The transaction of a public call** carries who asks, and what is asked. -/
theorem publicCall_keyed {plugin : PostgresOrganizationProvisioningPlugin} {invoked : Invoked Ctx}
    {inputs : CallInputs} (called : plugin.publicCall host invoked inputs request = .ok event) :
    ∃ asker : Asker, event.keyed = some (request.asked host asker) ∧
      Allows host plugin.config plugin.config.managementCallers publicCapability request.operation.wireName
        invoked asker ∧ validIdempotencyKey request.idempotencyKey = true := by
  cases request with
  | start request =>
    obtain ⟨asker, grants, input, allows, -, -, accepted, rfl⟩ :=
      PostgresOrganizationProvisioningPlugin.startCall_ok.mp called
    obtain ⟨caller, actor, key, hash, checked⟩ := keyed_startInput accepted
    refine ⟨asker, ?_, allows, checked⟩
    rw [Event.keyed, caller, actor, key, hash]
    rfl
  | retry request =>
    obtain ⟨asker, input, allows, -, accepted, rfl⟩ :=
      PostgresOrganizationProvisioningPlugin.retryCall_ok.mp called
    obtain ⟨caller, actor, key, hash, checked⟩ := keyed_retryInput accepted
    refine ⟨asker, ?_, allows, checked⟩
    rw [Event.keyed, caller, actor, key, hash]
    rfl
  | requestCleanup request =>
    obtain ⟨asker, input, allows, -, accepted, rfl⟩ :=
      PostgresOrganizationProvisioningPlugin.requestCleanupCall_ok.mp called
    obtain ⟨caller, actor, key, hash, checked⟩ := keyed_cleanupInput accepted
    refine ⟨asker, ?_, allows, checked⟩
    rw [Event.keyed, caller, actor, key, hash]
    rfl

/-- **The transaction of a public request** is of an authorized caller. -/
theorem Handles.keyed (handles : Handles host request event) : ∃ asker : Asker,
    event.keyed = some (request.asked host asker) ∧ Permitted host request.operation asker ∧
      validIdempotencyKey request.idempotencyKey = true := by
  obtain ⟨plugin, invoked, inputs, valid, called⟩ := handles.call
  obtain ⟨asker, keyed, allows, checked⟩ := publicCall_keyed called
  exact ⟨asker, keyed, ⟨_, _, valid, allows⟩, checked⟩

/-- Such a transaction is legal. -/
theorem Handles.legal (handles : Handles host request event) (history : List Committed) :
    legal history event := by
  obtain ⟨asker, keyed, -⟩ := handles.keyed
  cases event with
  | finalizeEffect => cases keyed
  | start | retry | requestCleanup | quarantineExpired | claimNext => trivial

end Handled

end OrganizationProvisioning
