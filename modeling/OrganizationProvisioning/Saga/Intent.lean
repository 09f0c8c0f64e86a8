/-
**What a saga keeps of its start.**

* `EffectKind.downstreamKey` — the idempotency key of an effect, by the id of its saga, its kind and
  its ordinal; `downstreamKey_eq` — two effects with one key agree in all three.
* `Saga.Follows` — the columns fixed at insertion are those the start wrote.
* `Begins.follows`, `Step.follows` — the first state follows the start, and so does every later one.
* `Step.organization` — the organization and its owner's membership are written together, once.
-/
import OrganizationProvisioning.Saga.Steps

namespace OrganizationProvisioning

open Worklist

/-! ### Downstream keys -/

/-- The downstream key of an effect. -/
def EffectKind.downstreamKey (kind : EffectKind) (provisioningId : Uuid) (ordinal : Int) : String :=
  match kind with
  | .createOrganization => createKey provisioningId
  | .putEntitlement => entitlementKey provisioningId ordinal
  | .revokeEntitlement => cleanupKey provisioningId ordinal

theorem length_hexDigits (width value : Nat) :
    (Numeral.hexDigits width value).length = width := by
  induction width with
  | zero => rfl
  | succ width ih => rw [Numeral.hexDigits, List.length_cons, ih]

/-- The text of every UUID is equally long. -/
theorem Uuid.length_text (id : Uuid) : id.text.toList.length = 36 := by
  unfold Uuid.text Uuid.groups
  rw [String.toList_ofList]
  simp [Numeral.hyphenated, length_hexDigits]

theorem Uuid.text_injective {first second : Uuid} (same : first.text = second.text) :
    first = second := by
  have read := Uuid.parse_text first
  rw [same, Uuid.parse_text second] at read
  exact (Option.some.inj read).symm

theorem toString_injective {first second : Int} (same : toString first = toString second) :
    first = second := by
  have read := Numeral.parseInt_toString first
  rw [same, Numeral.parseInt_toString second] at read
  exact (Option.some.inj read).symm

/-- What follows the id in a key. -/
def keySuffix (kind : EffectKind) (ordinal : Int) : String :=
  match kind with
  | .createOrganization => ":create:v1"
  | .putEntitlement => ":entitlement:" ++ toString ordinal ++ ":v1"
  | .revokeEntitlement => ":cleanup:" ++ toString ordinal ++ ":v1"

theorem downstreamKey_suffix (kind : EffectKind) (id : Uuid) (ordinal : Int) :
    kind.downstreamKey id ordinal =
      "organization-provisioning:" ++ (id.text ++ keySuffix kind ordinal) := by
  have numbered : ∀ first second third fourth fifth : String,
      first ++ second ++ third ++ fourth ++ fifth = first ++ (second ++ (third ++ fourth ++ fifth)) := by
    intro first second third fourth fifth
    simp only [String.append_assoc]
  cases kind with
  | createOrganization => exact String.append_assoc ..
  | putEntitlement | revokeEntitlement => exact numbered _ _ _ _ _

/-- The suffix names the kind, and the ordinal of a grant or a revocation. -/
theorem keySuffix_eq {kind kind' : EffectKind} {ordinal ordinal' : Int}
    (same : keySuffix kind ordinal = keySuffix kind' ordinal') :
    kind = kind' ∧ (kind ≠ .createOrganization → ordinal = ordinal') := by
  have chars := congrArg String.toList same
  have numbered : ∀ before : String, before ++ toString ordinal ++ ":v1" =
      before ++ toString ordinal' ++ ":v1" → ordinal = ordinal' := by
    intro before equal
    have lists := congrArg String.toList equal
    simp only [String.toList_append, List.append_assoc, List.append_cancel_left_eq,
      List.append_cancel_right_eq] at lists
    exact toString_injective (String.toList_injective lists)
  cases kind <;> cases kind' <;> simp only [keySuffix] at same chars
  case createOrganization.createOrganization => exact ⟨rfl, fun other => absurd rfl other⟩
  case putEntitlement.putEntitlement => exact ⟨rfl, fun _ => numbered _ same⟩
  case revokeEntitlement.revokeEntitlement => exact ⟨rfl, fun _ => numbered _ same⟩
  all_goals simp [String.toList_append] at chars

/-- **A downstream key names the saga, the kind and the ordinal.** -/
theorem downstreamKey_eq {kind kind' : EffectKind} {id id' : Uuid} {ordinal ordinal' : Int}
    (same : kind.downstreamKey id ordinal = kind'.downstreamKey id' ordinal') :
    id = id' ∧ kind = kind' ∧ (kind ≠ .createOrganization → ordinal = ordinal') := by
  rw [downstreamKey_suffix, downstreamKey_suffix] at same
  have chars := congrArg String.toList same
  simp only [String.toList_append, List.append_cancel_left_eq] at chars
  obtain ⟨texts, suffixes⟩ := List.append_inj chars (by rw [Uuid.length_text, Uuid.length_text])
  exact ⟨Uuid.text_injective (String.toList_injective texts),
    keySuffix_eq (String.toList_injective suffixes)⟩

/-- An effect has the downstream key of its saga, kind and ordinal. -/
def EffectRow.Keyed (effect : EffectRow) : Prop :=
  effect.downstreamKey = effect.kind.downstreamKey effect.provisioningId effect.ordinal

/-- The key of an effect is fixed with its plan. -/
theorem EffectRow.Keyed.of_plan {effect other : EffectRow} (keyed : effect.Keyed)
    (same : other.toEffectPlan = effect.toEffectPlan) : other.Keyed := by
  unfold EffectRow.Keyed at keyed ⊢
  rw [same]
  exact keyed

/-! ### The start of a saga -/

namespace Saga

variable {now : Timestamp} {saga saga' : Saga} {transition : Transition}

/-- **What a saga keeps of its start**: the columns the start wrote and no update writes. -/
structure Follows (now : Timestamp) (ids : StartIds) (input : StartInput) (saga : Saga) :
    Prop where
  intent : saga.row.toSagaIntent = (newSaga now input).toSagaIntent
  plans : saga.mains.map (fun effect => effect.toEffectPlan) =
    (plannedEffects now ids input).map fun effect => effect.toEffectPlan
  keyed : ∀ effect ∈ saga.effects, effect.Keyed

theorem keyed_plannedEffects {ids : StartIds} {input : StartInput} {effect : EffectRow}
    (member : effect ∈ plannedEffects now ids input) : effect.Keyed := by
  rcases List.mem_cons.mp member with rfl | grant
  · rfl
  · obtain ⟨ordinal, _, rfl⟩ := List.mem_mapIdx.mp grant
    rfl

/-- **A saga begins as its start wrote it.** -/
theorem Begins.follows {ids : StartIds} {input : StartInput} (begins : Begins now ids input saga) :
    Follows now ids input saga := by
  refine ⟨congrArg _ begins.row_eq, congrArg _ begins.mains_eq, fun effect member => ?_⟩
  rw [effects, begins.mains_eq, begins.revokes_eq, List.append_nil] at member
  exact keyed_plannedEffects member

/-- The columns of a saga fixed at insertion never change. -/
theorem Step.intent (step : Step now saga transition saga') :
    saga'.row.toSagaIntent = saga.row.toSagaIntent := by
  cases step <;> rfl

/-- The columns of its creation and its grants fixed at insertion never change. -/
theorem Step.plans (step : Step now saga transition saga') :
    saga'.mains.map (fun effect => effect.toEffectPlan) =
      saga.mains.map fun effect => effect.toEffectPlan := by
  cases step with
  | @turn transition past rest focus progress organization note split turns records =>
    cases requested : saga.row.cleanupRequested with
    | true => rw [(turned_revokes requested).2]
    | false =>
      have shape := split.jobs_eq
      rw [phase, requested] at shape
      rw [(turned_mains requested).1, show saga.mains = _ from shape]
      simp
  | cleanup unrequested stopped compensated records =>
    show (saga.mains.map (skipUnfinished _)).map (fun effect => effect.toEffectPlan) = _
    rw [List.map_map]
    exact List.map_congr_left fun effect _ => Coherent.skipUnfinished_plan effect

/-- **The effects of a later state** have the plan of an effect before, or are the revocations a
cleanup request inserts. -/
theorem Step.planned (step : Step now saga transition saga') {effect : EffectRow}
    (member : effect ∈ saga'.effects) :
    (∃ old ∈ saga.effects, effect.toEffectPlan = old.toEffectPlan) ∨
      ∃ source ∈ saga.mains, Revokes now source effect := by
  cases step with
  | @turn transition past rest focus progress organization note split turns records =>
    obtain ⟨early, late, before, after⟩ := effects_turned now split
    rw [after] at member
    refine Or.inl ?_
    rw [before]
    rcases List.mem_append.mp member with inside | inside
    · exact ⟨effect, List.mem_append_left _ inside, rfl⟩
    · rcases List.mem_cons.mp inside with rfl | inside
      · exact ⟨focus, by simp, rfl⟩
      · exact ⟨effect, by simp [inside], rfl⟩
  | cleanup unrequested stopped compensated records =>
    rcases List.mem_append.mp member with main | revoke
    · obtain ⟨old, inside, rfl⟩ := List.mem_map.mp main
      exact Or.inl ⟨old, List.mem_append_left _ inside, Coherent.skipUnfinished_plan old⟩
    · obtain ⟨source, inside, revokes⟩ := exists_partner compensated revoke
      exact Or.inr ⟨source, (List.mem_filter.mp inside).1, revokes⟩

/-- **A saga follows its start ever after.** -/
theorem Step.follows {begun : Timestamp} {ids : StartIds} {input : StartInput}
    (follows : Follows begun ids input saga) (step : Step now saga transition saga') :
    Follows begun ids input saga' := by
  refine ⟨step.intent.trans follows.intent, step.plans.trans follows.plans, ?_⟩
  intro effect member
  rcases step.planned member with ⟨old, inside, same⟩ | ⟨source, -, revokes⟩
  · exact (follows.keyed old inside).of_plan same
  · obtain ⟨effectId, subjectKind, feature, grantId, -, -, -, rfl⟩ := revokes
    rfl

/-- An effect of the plan has the columns the start wrote. -/
theorem Follows.planned {ids : StartIds} {input : StartInput} (follows : Follows now ids input saga)
    {effect : EffectRow} (member : effect ∈ saga.mains) :
    ∃ planned ∈ plannedEffects now ids input, effect.toEffectPlan = planned.toEffectPlan := by
  have listed := List.mem_map_of_mem (f := fun effect => effect.toEffectPlan) member
  rw [follows.plans] at listed
  obtain ⟨planned, inside, same⟩ := List.mem_map.mp listed
  exact ⟨planned, inside, same.symm⟩

end Saga

/-! ### The organization -/

/-- A worker or an operator confirms that an effect took place. -/
def Transition.confirms : Transition → Bool
  | .finalize _ _ outcome => outcome.succeeds
  | .retry _ resolution => resolution = .confirmApplied
  | _ => false

/-- An organization is recorded by a confirmation. -/
theorem Turn.confirms {now : Timestamp} {effect : EffectRow} {transition : Transition}
    {progress : EffectProgress} {pair : String × String}
    (turn : Turn now effect transition progress (some pair)) : transition.confirms = true := by
  generalize recorded : some pair = organization at turn
  cases turn with
  | finalize fence outcome leased token fits =>
    cases outcome with
    | failed | unknown => cases recorded
    | organizationApplied | entitlementApplied | compensated => rfl
  | confirmApplied => rfl
  | claim | quarantine | retryFailed | confirmNotApplied => cases recorded

namespace Saga

variable {now : Timestamp} {saga saga' : Saga} {transition : Transition}

/-- **The organization is recorded once**: a transition leaves its columns as they are, or writes both
where neither was written, by a confirmation. -/
theorem Step.organization (coherent : Coherent saga) (step : Step now saga transition saga') :
    (saga'.row.organizationId = saga.row.organizationId ∧
      saga'.row.ownerMembershipId = saga.row.ownerMembershipId) ∨
    (saga.row.organizationId = none ∧ saga.row.ownerMembershipId = none ∧
      saga'.row.organizationId.isSome ∧ saga'.row.ownerMembershipId.isSome ∧
      transition.confirms = true) := by
  cases step with
  | cleanup => exact Or.inl ⟨rfl, rfl⟩
  | @turn transition past rest focus progress organization note split turns records =>
    cases organization with
    | none => exact Or.inl ⟨rfl, rfl⟩
    | some pair =>
      have create : focus.kind = .createOrganization := by
        by_contra other
        have nothing := turns.records_nothing other
        cases nothing
      have main : focus ∈ saga.mains := by
        rcases List.mem_append.mp (Coherent.phase_mem split.focus_mem) with main | revoke
        · exact main
        · rw [coherent.revoke_kind revoke] at create
          cases create
      have unapplied : focus.state ≠ .applied := by
        intro applied
        have opened := stage_open.mp split.focus_open
        rw [applied] at opened
        simp at opened
      have created := coherent.created focus main create
      rw [CreatedAs, if_neg unapplied] at created
      have alone := coherent.membership
      rw [created, Option.isSome_none, Option.isSome_eq_false_iff, Option.isNone_iff_eq_none]
        at alone
      exact Or.inr ⟨created, alone, rfl, rfl, turns.confirms⟩

end Saga

end OrganizationProvisioning
