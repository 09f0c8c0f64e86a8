/-
**Downstream requests are stable and faithful to their start.**

* `Asks` — the request of a claim, by the start of its saga: the creation sends the names of the start,
  a grant its own feature, limit and subject, a revocation the grant id its source recorded.
* `StableRequests` — every two claims of one effect ask the same, each asks what the start determines,
  and the organization of a saga is written once, when its creation becomes applied.
* `stable_requests` — this holds in every run.
-/
import OrganizationProvisioning.Run.Requests
import OrganizationProvisioning.Guarantee.Compensation

namespace OrganizationProvisioning

open Relational Transactional Worklist

/-- **What a claim asks**, on the store before it and after the calls of `past`, for a saga that a
start began. -/
inductive Asks (past : List Committed) (before : Store) (ids : StartIds) (input : StartInput)
    (record : EffectRecord) : Prop
  | create (names : record.effectId = ids.createEffectId)
      (asked : downstreamRequest record = .ok (.createOrganization {
        idempotencyKey := createKey input.provisioningId
        name := input.name
        ownerSubject := input.ownerSubject
        slug := input.slug }))
  | put {ordinal : Nat} {grant : BootstrapGrant} {row : SagaRow} {organizationId : String}
      (names : record.effectId = ids.grantEffectId ordinal)
      (listed : input.grants[ordinal]? = some grant)
      (known : grant.subjectKind = "organization" ∨ grant.subjectKind = "owner")
      (found : before.saga input.provisioningId = some row)
      (organization : row.organizationId = some organizationId)
      (asked : downstreamRequest record = .ok (.putGrant {
        scopeKind := "organization"
        scopeId := organizationId
        subject := grantSubject grant.subjectKind organizationId input.ownerSubject
        feature := grant.feature
        limit := grant.limit.map toString
        expiresAt := none }))
  | revoke {revoke : EffectRow} {sourceId : Uuid} {grantId : String}
      (found : before.effect record.effectId = some revoke)
      (target : revoke.sourceEffectId = some sourceId)
      (recorded : ∃ recording ∈ past,
        recordsGrant input.provisioningId sourceId grantId recording = true)
      (asked : downstreamRequest record = .ok (.revokeGrant ⟨grantId⟩))

/-- A call by which a worker or an operator confirms an effect. -/
def confirms (entry : Committed) : Bool :=
  match entry.event with
  | .finalizeEffect _ _ _ _ outcome => outcome.succeeds
  | .retry _ _ input => input.resolution = .confirmApplied
  | _ => false

/-- **The organization of a saga over one call**: its columns stay, or both are written where neither
was. -/
inductive OrganizationStep (entry : Committed) (row row' : SagaRow) : Prop
  | kept (organization : row'.organizationId = row.organizationId)
      (membership : row'.ownerMembershipId = row.ownerMembershipId)
  | written (blank : row.organizationId = none ∧ row.ownerMembershipId = none)
      (full : row'.organizationId.isSome ∧ row'.ownerMembershipId.isSome)
      (confirmed : confirms entry = true)

/-- **Stable requests.** -/
structure StableRequests (history : List Committed) : Prop where
  /-- A claim has one request, and the response to it decides the outcome. -/
  sent : ∀ entry ∈ history, ∀ record, GaveOut record entry →
    ∃ request, downstreamRequest record = .ok request ∧
      ∀ downstream, executeEffect downstream record = downstream.outcome request
  /-- Every two claims of one effect ask the same. -/
  same : ∀ first ∈ history, ∀ second ∈ history, ∀ one two, GaveOut one first →
    GaveOut two second → one.effectId = two.effectId →
      downstreamRequest one = downstreamRequest two
  /-- The start of the saga determines what a claim asks. -/
  asked : ∀ past entry rest, history = past ++ entry :: rest → ∀ record, GaveOut record entry →
    ∃ starting ∈ past, ∃ now ids input, Starts starting now ids input ∧
      input.provisioningId = record.provisioningId ∧ Asks past entry.before ids input record
  /-- A saga starts without an organization. -/
  blank : ∀ entry ∈ history, ∀ id row, entry.before.saga id = none →
    entry.after.saga id = some row → row.organizationId = none ∧ row.ownerMembershipId = none
  /-- The organization and the membership are written together, and once. -/
  written : ∀ entry ∈ history, ∀ id row, entry.before.saga id = some row →
    ∃ row', entry.after.saga id = some row' ∧ OrganizationStep entry row row'
  /-- They are written exactly when the creation becomes applied. -/
  applied : ∀ entry ∈ history, ∀ id row row' create create', entry.before.saga id = some row →
    entry.after.saga id = some row' → create.kind = .createOrganization →
    create.provisioningId = id → entry.before.effect create.effectId = some create →
    entry.after.effect create.effectId = some create' →
      ((create.state ≠ .applied ∧ create'.state = .applied) ↔
        (row.organizationId = none ∧ row'.organizationId.isSome)) ∧
      (create'.state = .applied → row'.organizationId = create'.externalId)

namespace Run

variable {history past rest : List Committed} {store : Store} {entry : Committed}

/-- **The start of its saga determines what a claim asks.** -/
theorem asks (run : Run (past ++ entry :: rest) store) {record : EffectRecord}
    (gave : GaveOut record entry) : ∃ starting ∈ past, ∃ now ids input,
      Starts starting now ids input ∧ input.provisioningId = record.provisioningId ∧
        Asks past entry.before ids input record := by
  obtain ⟨now, leaseUntil, saga, before, after, effect, gives⟩ := run.did.2.gives gave
  obtain ⟨earlier, -, -, -⟩ := run.commit_of_mem
  obtain ⟨starting, member, begun, ids, input, starts, names, follows⟩ :=
    Run.started earlier gives.shown gives.coherent
  refine ⟨starting, member, begun, ids, input, starts, names, ?_⟩
  have name : saga.row.name = input.name :=
    congrArg (fun intent : SagaIntent => intent.name) follows.intent
  have slug : saga.row.slug = input.slug :=
    congrArg (fun intent : SagaIntent => intent.slug) follows.intent
  have owner : saga.row.ownerSubject = input.ownerSubject :=
    congrArg (fun intent : SagaIntent => intent.ownerSubject) follows.intent
  have identity : record.effectId = effect.effectId := by
    rw [gives.record_eq]
    rfl
  have rendered := gives.record_eq
  cases kind : effect.kind with
  | createOrganization =>
    obtain ⟨-, main⟩ := gives.main (by rw [kind]; rfl)
    obtain ⟨planned, listed, plan⟩ := follows.planned main
    rcases List.mem_cons.mp listed with rfl | grant
    · refine .create (by rw [identity, plan]; rfl) ?_
      rw [rendered, asks_create kind, plan, name, slug, owner]
      rfl
    · obtain ⟨ordinal, small, rfl⟩ := List.mem_mapIdx.mp grant
      rw [plan] at kind
      cases kind
  | putEntitlement =>
    obtain ⟨-, main⟩ := gives.main (by rw [kind]; rfl)
    obtain ⟨planned, listed, plan⟩ := follows.planned main
    rcases List.mem_cons.mp listed with rfl | grant
    · rw [plan] at kind
      cases kind
    · obtain ⟨ordinal, small, rfl⟩ := List.mem_mapIdx.mp grant
      obtain ⟨organizationId, organization⟩ := gives.organization kind
      obtain ⟨subjectKind, feature, subject, known, named⟩ := columns_of_checked
        (run.did.1.checked.effects effect (Store.effect_found.mp gives.found).1)
        (by rw [kind]; decide)
      have subject_eq : subjectKind = input.grants[ordinal].subjectKind := by
        rw [plan] at subject
        exact (Option.some.inj subject).symm
      have feature_eq : feature = input.grants[ordinal].feature := by
        rw [plan] at named
        exact (Option.some.inj named).symm
      subst subject_eq feature_eq
      refine @Asks.put past entry.before ids input record ordinal input.grants[ordinal] saga.row
        organizationId (by rw [identity, plan]; rfl) (List.getElem?_eq_getElem small) known ?_
          organization ?_
      · rw [names]
        exact gives.shown.row
      · rw [rendered, asks_put kind organization subject known named, owner, plan]
        rfl
  | revokeEntitlement =>
    obtain ⟨source, grantId, main, put, applied, receipt, mirrors⟩ := gives.source kind
    have stored := gives.shown.stored (List.mem_append_left _ main)
    obtain ⟨recording, inside, records⟩ := Run.recorded earlier stored put applied receipt
    have place : source.provisioningId = input.provisioningId := by
      rw [names, gives.coherent.owned source (List.mem_append_left _ main), gives.shown.id_eq]
    rw [place] at records
    refine .revoke gives.found mirrors.target ⟨recording, inside, records⟩ ?_
    rw [rendered, asks_revoke kind (mirrors.grant.trans receipt)]

/-- The columns of the organization over one call. -/
theorem organizationStep (run : Run (past ++ entry :: rest) store) {id : Uuid} {row : SagaRow}
    (found : entry.before.saga id = some row) :
    ∃ row', entry.after.saga id = some row' ∧ OrganizationStep entry row row' := by
  cases run.fate id with
  | still untouched => exact ⟨row, untouched.saga.trans found, .kept rfl rfl⟩
  | began _ _ _ absent _ _ _ _ =>
    rw [found] at absent
    cases absent
  | @moved now transition saga saga' shown coherent step shows cause =>
    rw [shown.row, Option.some.injEq] at found
    subst found
    refine ⟨saga'.row, shows.row, ?_⟩
    rcases step.organization coherent with ⟨organization, membership⟩ |
      ⟨noOrganization, noMembership, organization, membership, confirmed⟩
    · exact .kept organization membership
    · refine .written ⟨noOrganization, noMembership⟩ ⟨organization, membership⟩ ?_
      unfold confirms
      cases cause with
      | claim | quarantine | cleanup => cases confirmed
      | finalize called | retry called =>
        rw [called]
        exact confirmed

/-- The creation of a stored saga is applied exactly when the saga has its organization. -/
theorem created (run : Run history store) {id : Uuid} {row : SagaRow} {create : EffectRow}
    {effectId : Uuid} (found : store.saga id = some row)
    (stored : store.effect effectId = some create) (kind : create.kind = .createOrganization)
    (owner : create.provisioningId = id) :
    (create.state = .applied ↔ row.organizationId.isSome) ∧
      (create.state = .applied → row.organizationId = create.externalId) := by
  obtain ⟨saga, rfl, shows, coherent⟩ := run.shows found
  obtain ⟨member, -⟩ := shows.effect_eq stored owner
  have main : create ∈ saga.mains := by
    rcases List.mem_append.mp member with main | revoke
    · exact main
    · rw [coherent.revoke_kind revoke] at kind
      cases kind
  have created := coherent.created create main kind
  unfold CreatedAs at created
  split at created
  · rename_i applied
    refine ⟨⟨fun _ => ?_, fun _ => applied⟩, fun _ => created⟩
    rw [created]
    exact coherent.receipts create main applied
  · rename_i open_
    refine ⟨⟨fun applied => absurd applied open_, fun some => ?_⟩,
      fun applied => absurd applied open_⟩
    rw [created] at some
    cases some

end Run

/-- **Downstream requests are stable**: in every run. -/
theorem stable_requests {history : List Committed} {store : Store} (run : Run history store) :
    StableRequests history := by
  refine ⟨?_, ?_, ?_, ?_, ?_, ?_⟩
  · intro entry member record gave
    obtain ⟨past, rest, rfl⟩ := List.append_of_mem member
    obtain ⟨_, _, _, _, _, _, gives⟩ := run.did.2.gives gave
    obtain ⟨request, asked⟩ := gives.request run.did.1.checked
    exact ⟨request, asked, fun downstream => by rw [executeEffect_eq, asked]⟩
  · intro first here second there one two gave gave' same
    have didFirst : Did first := by
      obtain ⟨past, rest, rfl⟩ := List.append_of_mem here
      exact run.did.2
    have didSecond : Did second := by
      obtain ⟨past, rest, rfl⟩ := List.append_of_mem there
      exact run.did.2
    obtain ⟨_, _, _, _, _, _, gives⟩ := didFirst.gives gave
    obtain ⟨_, _, _, _, _, _, gives'⟩ := didSecond.gives gave'
    rcases run.compare here there with rfl | ⟨past, rest, upTo, later⟩ | ⟨past, rest, upTo, later⟩
    · unfold GaveOut at gave gave'
      rw [gave] at gave'
      cases gave'
      rfl
    · exact (Run.asks_later upTo later gives gives' same).symm
    · exact Run.asks_later upTo later gives' gives same.symm
  · rintro past entry rest rfl record gave
    exact run.asks gave
  · intro entry member id row absent present
    obtain ⟨past, rest, rfl⟩ := List.append_of_mem member
    cases run.fate id with
    | still untouched =>
      rw [untouched.saga, absent] at present
      cases present
    | began _ _ _ _ begins shows _ _ =>
      rw [shows.row, begins.row_eq, Option.some.injEq] at present
      subst present
      exact ⟨rfl, rfl⟩
    | moved shown =>
      rw [shown.row] at absent
      cases absent
  · intro entry member id row found
    obtain ⟨past, rest, rfl⟩ := List.append_of_mem member
    exact run.organizationStep found
  · intro entry member id row row' create create' found present kind owner stored stored'
    obtain ⟨past, rest, rfl⟩ := List.append_of_mem member
    obtain ⟨upTo, -, committed, after⟩ := run.commit_of_mem
    obtain ⟨_, there, plan⟩ := (Persist.of_commits committed).effects _ _ stored
    rw [stored', Option.some.injEq] at there
    subst there
    have before := Run.created upTo found stored kind owner
    have later := Run.created after present stored' (by rw [plan]; exact kind)
      (by rw [plan]; exact owner)
    refine ⟨?_, later.2⟩
    rw [later.1, ne_eq, before.1, Option.not_isSome_iff_eq_none]

/-- The rehearsal: its first grant was claimed twice, and asked the same. -/
theorem stable_requests_rehearsed : StableRequests Rehearsal.history ∧
    (Rehearsal.history.filter (claims 11)).length = 2 :=
  ⟨stable_requests Rehearsal.run, by decide +kernel⟩

end OrganizationProvisioning
