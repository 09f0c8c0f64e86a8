/-
**What a claimed effect asks of its service.**

* `Gives.request` — the record of a claim has its request: no input is missing.
* `Run.organization_kept` — an organization once recorded stays.
* `Run.asks_later` — a later claim of an effect asks what an earlier one asked.
-/
import OrganizationProvisioning.Model.Dispatch
import OrganizationProvisioning.Run.Effects
import OrganizationProvisioning.Run.Starts

namespace OrganizationProvisioning

open Relational Transactional Worklist

/-! ### The request of a record -/

section Record

variable {effect : EffectRow} {fence : Uuid} {row : SagaRow}

theorem asks_create (kind : effect.kind = .createOrganization) :
    downstreamRequest (effectRecord effect fence row) = .ok (.createOrganization {
      idempotencyKey := effect.downstreamKey
      name := row.name
      ownerSubject := row.ownerSubject
      slug := row.slug }) := by
  unfold downstreamRequest
  rw [show (effectRecord effect fence row).kind = .createOrganization from kind]
  rfl

/-- The subject a grant names. -/
def grantSubject (subjectKind organizationId ownerSubject : String) : String :=
  if subjectKind = "organization" then organizationId else ownerSubject

theorem asks_put {organizationId subjectKind feature : String} (kind : effect.kind = .putEntitlement)
    (organization : row.organizationId = some organizationId)
    (subject : effect.subjectKind = some subjectKind)
    (known : subjectKind = "organization" ∨ subjectKind = "owner")
    (named : effect.feature = some feature) :
    downstreamRequest (effectRecord effect fence row) = .ok (.putGrant {
      scopeKind := "organization"
      scopeId := organizationId
      subject := grantSubject subjectKind organizationId row.ownerSubject
      feature := feature
      limit := effect.limitValue.map toString
      expiresAt := none }) := by
  have request : putRequest (effectRecord effect fence row) = .ok {
      scopeKind := "organization"
      scopeId := organizationId
      subject := grantSubject subjectKind organizationId row.ownerSubject
      feature := feature
      limit := effect.limitValue.map toString
      expiresAt := none } := by
    unfold putRequest effectRecord
    simp only [organization, subject, named]
    rcases known with rfl | rfl <;> rfl
  unfold downstreamRequest
  rw [show (effectRecord effect fence row).kind = .putEntitlement from kind]
  simp only [request]
  rfl

theorem asks_revoke {grantId : String} (kind : effect.kind = .revokeEntitlement)
    (grant : effect.externalId = some grantId) :
    downstreamRequest (effectRecord effect fence row) = .ok (.revokeGrant ⟨grantId⟩) := by
  unfold downstreamRequest revokeRequest
  rw [show (effectRecord effect fence row).kind = .revokeEntitlement from kind,
    show (effectRecord effect fence row).externalId = some grantId from grant]
  rfl

/-- The columns of a grant or a revocation that satisfies the constraints. -/
theorem columns_of_checked (checked : effect.checked = true)
    (kind : effect.kind ≠ .createOrganization) : ∃ subjectKind feature,
      effect.subjectKind = some subjectKind ∧
      (subjectKind = "organization" ∨ subjectKind = "owner") ∧ effect.feature = some feature := by
  have plan := (Bool.and_eq_true_iff.mp checked).1
  unfold EffectPlan.checked EffectPlan.shaped at plan
  rw [decide_eq_true_eq] at plan
  obtain ⟨-, subject, -, shape⟩ := plan
  have shaped : effect.subjectKind.isSome ∧ effect.feature.isSome := by
    cases named : effect.kind with
    | createOrganization => exact absurd named kind
    | putEntitlement | revokeEntitlement =>
      rw [named] at shape
      simp only [decide_eq_true_eq] at shape
      exact ⟨shape.1, shape.2.1⟩
  obtain ⟨subjectKind, named⟩ := Option.isSome_iff_exists.mp shaped.1
  obtain ⟨feature, featured⟩ := Option.isSome_iff_exists.mp shaped.2
  refine ⟨subjectKind, feature, named, ?_, featured⟩
  rw [named] at subject
  simpa using subject

end Record

/-! ### The request of a claim -/

section Claim

variable {entry : Committed} {record : EffectRecord} {now leaseUntil : Timestamp} {saga : Saga}
  {past rest : List EffectRow} {effect : EffectRow}

/-- A creation or a grant is claimed in the first phase. -/
theorem Gives.main (gives : Gives entry record now leaseUntil saga past rest effect)
    (main : effect.kind.isMain = true) :
    saga.row.cleanupRequested = false ∧ effect ∈ saga.mains := by
  have kind := gives.coherent.phase_kind gives.split.focus_mem
  rw [main] at kind
  have unrequested : saga.row.cleanupRequested = false := by simpa using kind.symm
  have member := gives.split.focus_mem
  rw [Saga.phase, unrequested] at member
  exact ⟨unrequested, member⟩

/-- **A grant is claimed after the organization is recorded.** -/
theorem Gives.organization (gives : Gives entry record now leaseUntil saga past rest effect)
    (grant : effect.kind = .putEntitlement) :
    ∃ organizationId, saga.row.organizationId = some organizationId := by
  obtain ⟨create, grants, shape, creates, -⟩ := gives.coherent.mains_shape
  have member : create ∈ saga.mains := by
    rw [shape]
    exact List.mem_cons_self
  have applied := gives.coherent.earlier_applied gives.split grant member (Or.inl creates)
  have created := gives.coherent.created create member creates
  rw [CreatedAs, if_pos applied] at created
  rw [created]
  exact Option.isSome_iff_exists.mp (gives.coherent.receipts create member applied)

/-- **A revocation is claimed with the grant id its source recorded.** -/
theorem Gives.source (gives : Gives entry record now leaseUntil saga past rest effect)
    (revokes : effect.kind = .revokeEntitlement) : ∃ source grantId,
      source ∈ saga.mains ∧ source.kind = .putEntitlement ∧ source.state = .applied ∧
        source.externalId = some grantId ∧ Mirrors source effect := by
  have requested : saga.row.cleanupRequested = true := by
    have kind := gives.coherent.phase_kind gives.split.focus_mem
    rw [revokes] at kind
    simpa [EffectKind.isMain] using kind.symm
  have member := gives.split.focus_mem
  rw [Saga.phase, requested] at member
  obtain ⟨source, listed, mirrors⟩ := exists_partner (gives.coherent.mirrored requested) member
  obtain ⟨main, grant⟩ := List.mem_filter.mp listed
  obtain ⟨put, applied⟩ := of_decide_eq_true grant
  obtain ⟨grantId, receipt⟩ :=
    Option.isSome_iff_exists.mp (gives.coherent.receipts source main applied)
  exact ⟨source, grantId, main, put, applied, receipt, mirrors⟩

/-- **The record of a claim has its request.** -/
theorem Gives.request (gives : Gives entry record now leaseUntil saga past rest effect)
    (checked : Checked entry.before) : ∃ request, downstreamRequest record = .ok request := by
  have stored := checked.effects effect (Store.effect_found.mp gives.found).1
  rw [gives.record_eq]
  cases kind : effect.kind with
  | createOrganization => exact ⟨_, asks_create kind⟩
  | putEntitlement =>
    obtain ⟨organizationId, organization⟩ := gives.organization kind
    obtain ⟨subjectKind, feature, subject, known, named⟩ :=
      columns_of_checked stored (by rw [kind]; decide)
    exact ⟨_, asks_put kind organization subject known named⟩
  | revokeEntitlement =>
    obtain ⟨source, grantId, -, -, -, receipt, mirrors⟩ := gives.source kind
    exact ⟨_, asks_revoke kind (mirrors.grant.trans receipt)⟩

end Claim

/-! ### Requests along a run -/

namespace Run

variable {history past rest : List Committed} {middle store : Store} {id : Uuid}

/-- **An organization once recorded stays**, with its owner's membership. -/
theorem organization_kept {saga : Saga} (upTo : Run past middle) (shown : Shows middle id saga)
    (coherent : Coherent saga) (recorded : saga.row.organizationId.isSome)
    (run : Run (past ++ rest) store) : ∃ row, store.saga id = some row ∧
      row.organizationId = saga.row.organizationId ∧
      row.ownerMembershipId = saga.row.ownerMembershipId := by
  obtain ⟨saga', shows, -, kept⟩ := Run.follows
    (fun saga saga' : Saga => saga.row.organizationId.isSome →
      saga'.row.organizationId = saga.row.organizationId ∧
        saga'.row.ownerMembershipId = saga.row.ownerMembershipId)
    (fun _ _ => ⟨rfl, rfl⟩)
    (fun one two recorded => by
      have first := one recorded
      have second := two (by rw [first.1]; exact recorded)
      exact ⟨second.1.trans first.1, second.2.trans first.2⟩)
    (fun coherent step recorded => by
      rcases step.organization coherent with kept | ⟨none, -⟩
      · exact kept
      · rw [none] at recorded
        cases recorded) upTo shown coherent run
  exact ⟨saga'.row, shows.row, kept recorded⟩

/-- What is stored stays stored, with the columns fixed at insertion. -/
theorem persists (upTo : Run past middle) (run : Run (past ++ rest) store) :
    Persist middle store :=
  upTo.later (fun _ before after => Persist before after) (Persist.refl middle)
    (fun _ _ _ sofar _ committed => sofar.trans (Persist.of_commits committed)) run

/-- **A later claim of an effect asks what an earlier one asked.** -/
theorem asks_later {first second : Committed} (upTo : Run past first.before)
    (run : Run (past ++ rest) second.before) {one two : EffectRecord}
    {now now' leaseUntil leaseUntil' : Timestamp} {saga saga' : Saga}
    {before before' after after' : List EffectRow} {effect effect' : EffectRow}
    (gives : Gives first one now leaseUntil saga before after effect)
    (gives' : Gives second two now' leaseUntil' saga' before' after' effect')
    (same : one.effectId = two.effectId) : downstreamRequest two = downstreamRequest one := by
  have persist := persists upTo run
  obtain ⟨stored, found, plan⟩ := persist.effects _ _ gives.found
  rw [same, gives'.found, Option.some.injEq] at found
  subst found
  have owner : two.provisioningId = one.provisioningId := by
    rw [← gives'.shown.id_eq, ← gives.shown.id_eq,
      ← gives'.coherent.owned _ (Coherent.phase_mem gives'.split.focus_mem),
      ← gives.coherent.owned _ (Coherent.phase_mem gives.split.focus_mem), plan]
  have shown' := gives'.shown
  rw [owner] at shown'
  obtain ⟨row, present, intent⟩ := persist.sagas _ _ gives.shown.row
  rw [shown'.row, Option.some.injEq] at present
  subst present
  rw [gives.record_eq, gives'.record_eq]
  cases kind : effect.kind with
  | createOrganization =>
    rw [asks_create kind, asks_create (by rw [plan]; exact kind), plan, intent]
  | putEntitlement =>
    obtain ⟨organizationId, organization⟩ := gives.organization kind
    obtain ⟨row, present, kept, -⟩ := organization_kept upTo gives.shown gives.coherent
      (by rw [organization]; rfl) run
    rw [shown'.row, Option.some.injEq] at present
    subst present
    obtain ⟨subjectKind, feature, subject, known, named⟩ := columns_of_checked
      (upTo.holds.checked.effects effect (Store.effect_found.mp gives.found).1)
      (by rw [kind]; decide)
    rw [asks_put kind organization subject known named,
      asks_put (by rw [plan]; exact kind) (kept.trans organization) (by rw [plan]; exact subject)
        known (by rw [plan]; exact named), plan, intent]
  | revokeEntitlement =>
    obtain ⟨source, grantId, main, -, applied, receipt, mirrors⟩ := gives.source kind
    obtain ⟨source', grantId', main', -, -, receipt', mirrors'⟩ :=
      gives'.source (by rw [plan]; exact kind)
    have target : source'.effectId = source.effectId := by
      have equal := mirrors'.target
      rw [plan, mirrors.target] at equal
      exact (Option.some.inj equal).symm
    have there := gives.shown.stored (List.mem_append_left _ main)
    have there' := gives'.shown.stored (List.mem_append_left _ main')
    have kept := (Run.settled upTo there (by rw [applied]; rfl) run).2
    rw [target, kept, Option.some.injEq] at there'
    subst there'
    rw [asks_revoke kind (mirrors.grant.trans receipt),
      asks_revoke (by rw [plan]; exact kind) (mirrors'.grant.trans receipt)]

end Run

end OrganizationProvisioning
