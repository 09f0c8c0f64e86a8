/-
**The invariant of the saga machine.**

* `Coherent` — the effects follow the plan of the start, the effects of the phase are worked through
  in order, the summary columns say what those effects say, the revocations mirror the grants in
  force, and the activity is numbered like the revisions.
* `Begins.coherent`, `Step.coherent` — the first state is coherent and every transition keeps it so.
* `Coherent.split_of_state` — an effect in flight or in doubt is the first unfinished one of the
  phase; `Coherent.split_of_status` — a saga at rest in no final status has such an effect.
-/
import OrganizationProvisioning.Saga.Machine
import Mathlib.Data.List.Pairwise

namespace OrganizationProvisioning

open Worklist

/-! ### Outlook -/

theorem stage_open {cleanup : Bool} {effect : EffectRow} :
    stage cleanup effect = .busy ∨ stage cleanup effect = .waiting ↔
      effect.state = .pending ∨ effect.state = .inFlight ∨ effect.state = .failed ∨
        effect.state = .unknown := by
  unfold stage
  cases effect.state <;> cases cleanup <;> simp

theorem stage_waiting {cleanup : Bool} {effect : EffectRow} :
    stage cleanup effect = .waiting ↔ effect.state = .pending := by
  unfold stage
  cases effect.state <;> cases cleanup <;> simp

theorem stage_busy {cleanup : Bool} {effect : EffectRow} :
    stage cleanup effect = .busy ↔
      effect.state = .inFlight ∨ effect.state = .failed ∨ effect.state = .unknown := by
  unfold stage
  cases effect.state <;> cases cleanup <;> simp

/-- The state of a finished effect of a phase. -/
def finishedState (cleanup : Bool) : EffectState := if cleanup then .compensated else .applied

theorem stage_finished {cleanup : Bool} {effect : EffectRow} :
    stage cleanup effect = .finished ↔ effect.state = finishedState cleanup := by
  unfold stage finishedState
  cases effect.state <;> cases cleanup <;> simp

theorem outlook_split {cleanup : Bool} {effects past rest : List EffectRow} {focus : EffectRow}
    (split : Split (stage cleanup) effects past focus rest) :
    outlook cleanup effects = (statusOf cleanup focus.state, reported focus) := by
  unfold outlook
  rw [split.next_eq]

theorem outlook_finished {cleanup : Bool} {effects : List EffectRow}
    (done : ∀ effect ∈ effects, stage cleanup effect = .finished) :
    outlook cleanup effects = (if cleanup then .cleanupCompleted else .completed, none) := by
  unfold outlook
  rw [next_finished done]

/-! ### The invariant -/

/-- The kinds and the ordinals of the creation and of `count` grants. -/
def planOf (count : Nat) : List (EffectKind × Int) :=
  (.createOrganization, 0) ::
    (List.range count).map fun ordinal : Nat => (.putEntitlement, (ordinal : Int))

/-- A revocation and the grant it undoes. -/
structure Mirrors (source revoke : EffectRow) : Prop where
  kind : revoke.kind = .revokeEntitlement
  ordinal : revoke.ordinal = source.ordinal
  subjectKind : revoke.subjectKind = source.subjectKind
  feature : revoke.feature = source.feature
  limitValue : revoke.limitValue = source.limitValue
  target : revoke.sourceEffectId = some source.effectId
  grant : revoke.externalId = source.externalId

/-- The creation and the grants once cleanup is requested: some applied and the others skipped, or
a failed creation and all grants skipped. -/
def Settled (mains : List EffectRow) : Prop :=
  ∃ past rest, mains = past ++ rest ∧ past ≠ [] ∧
    ((∀ effect ∈ past, effect.state = .applied) ∨
      ∃ create, past = [create] ∧ create.state = .failed) ∧
    ∀ effect ∈ rest, effect.state = .skipped

/-- The creation is applied exactly when the saga has an organization, the one it recorded. -/
def CreatedAs (effect : EffectRow) (organizationId : Option String) : Prop :=
  if effect.state = .applied then organizationId = effect.externalId else organizationId = none

/-- **The invariant of a saga.** -/
structure Coherent (saga : Saga) : Prop where
  plan : ∃ count, saga.mains.map (fun effect => (effect.kind, effect.ordinal)) = planOf count
  owned : ∀ effect ∈ saga.effects, effect.provisioningId = saga.row.provisioningId
  worked : Worked (stage saga.row.cleanupRequested) saga.phase
  unrequested : saga.row.cleanupRequested = false → saga.revokes = []
  settled : saga.row.cleanupRequested = true → Settled saga.mains
  mirrored : saga.row.cleanupRequested = true →
    List.Forall₂ Mirrors (saga.mains.filter granted) saga.revokes
  summary : (saga.row.status, saga.row.lastError) = outlook saga.row.cleanupRequested saga.phase
  blamed : ∀ effect ∈ saga.effects, effect.state = .failed ∨ effect.state = .unknown →
    effect.lastError.isSome
  receipts : ∀ effect ∈ saga.mains, effect.state = .applied → effect.externalId.isSome
  created : ∀ effect ∈ saga.mains, effect.kind = .createOrganization →
    CreatedAs effect saga.row.organizationId
  residue : saga.row.organizationResidue = saga.row.organizationId.isSome
  membership : saga.row.ownerMembershipId.isSome = saga.row.organizationId.isSome
  numbered : saga.activity.map (fun note => note.provisioningRevision) =
    (List.range saga.activity.length).map fun index : Nat => (index : Int) + 1
  revision : saga.row.revision = saga.activity.length
  noted : ∀ note ∈ saga.activity, note.provisioningId = saga.row.provisioningId
  completed : saga.row.status = .completed → saga.row.completedAt.isSome
  cleanupCompleted : saga.row.status = .cleanupCompleted ↔ saga.row.cleanupCompletedAt.isSome

/-! ### Plans -/

/-- The order of the effects of a phase: the creation first, then by ordinal. -/
def Precedes (first second : EffectKind × Int) : Prop :=
  (first.1 = .createOrganization ∧ second.1 = .putEntitlement) ∨
    (first.1 = second.1 ∧ first.2 < second.2)

theorem planOf_pairwise (count : Nat) : (planOf count).Pairwise Precedes := by
  unfold planOf
  rw [List.pairwise_cons]
  constructor
  · intro entry member
    obtain ⟨ordinal, -, rfl⟩ := List.mem_map.mp member
    exact Or.inl ⟨rfl, rfl⟩
  · rw [List.pairwise_map]
    refine List.pairwise_lt_range.imp ?_
    intro first second less
    exact Or.inr ⟨rfl, by simpa using less⟩

theorem isMain_of_planOf {count : Nat} {entry : EffectKind × Int} (member : entry ∈ planOf count) :
    entry.1.isMain = true := by
  rcases List.mem_cons.mp member with rfl | later
  · rfl
  · obtain ⟨ordinal, -, rfl⟩ := List.mem_map.mp later
    rfl

/-- The creation of a plan has ordinal zero. -/
theorem ordinal_of_planOf {count : Nat} {entry : EffectKind × Int} (member : entry ∈ planOf count)
    (create : entry.1 = .createOrganization) : entry = (.createOrganization, 0) := by
  rcases List.mem_cons.mp member with rfl | later
  · rfl
  · obtain ⟨ordinal, -, rfl⟩ := List.mem_map.mp later
    cases create

/-- In lists paired off by a relation, each member of the second has its partner in the first. -/
theorem exists_partner {First Second : Type} {related : First → Second → Prop}
    {firsts : List First} {seconds : List Second} (paired : List.Forall₂ related firsts seconds)
    {second : Second} (member : second ∈ seconds) : ∃ first ∈ firsts, related first second := by
  induction paired with
  | nil => cases member
  | cons pair _ ih =>
    rcases List.mem_cons.mp member with rfl | later
    · exact ⟨_, List.mem_cons_self, pair⟩
    · obtain ⟨first, inside, holds⟩ := ih later
      exact ⟨first, List.mem_cons_of_mem _ inside, holds⟩

/-- Lists stay paired off when one member of the second changes and keeps its partners. -/
theorem paired_replaced {First Second : Type} {related : First → Second → Prop}
    {firsts : List First} {past rest : List Second} {focus changed : Second}
    (paired : List.Forall₂ related firsts (past ++ focus :: rest))
    (keeps : ∀ first, related first focus → related first changed) :
    List.Forall₂ related firsts (past ++ changed :: rest) := by
  induction past generalizing firsts with
  | nil =>
    cases paired with
    | cons pair others => exact .cons (keeps _ pair) others
  | cons second past ih =>
    cases paired with
    | cons pair others => exact .cons pair (ih others)

namespace Coherent

variable {saga : Saga} {effect : EffectRow}

theorem main_kind (coherent : Coherent saga) (member : effect ∈ saga.mains) :
    effect.kind.isMain = true := by
  obtain ⟨count, plan⟩ := coherent.plan
  have entry := List.mem_map_of_mem (f := fun effect => (effect.kind, effect.ordinal)) member
  rw [plan] at entry
  exact isMain_of_planOf entry

/-- **The effects of the plan: the creation, then the grants.** -/
theorem mains_shape (coherent : Coherent saga) : ∃ create grants, saga.mains = create :: grants ∧
    create.kind = .createOrganization ∧ ∀ grant ∈ grants, grant.kind = .putEntitlement := by
  obtain ⟨count, plan⟩ := coherent.plan
  cases shape : saga.mains with
  | nil =>
    rw [shape] at plan
    cases plan
  | cons create grants =>
    rw [shape, planOf, List.map_cons, List.cons.injEq] at plan
    refine ⟨create, grants, rfl, congrArg Prod.fst plan.1, ?_⟩
    intro grant member
    have entry := List.mem_map_of_mem (f := fun effect => (effect.kind, effect.ordinal)) member
    rw [plan.2] at entry
    obtain ⟨ordinal, -, same⟩ := List.mem_map.mp entry
    exact (congrArg Prod.fst same).symm

/-- The effects of the plan stand in its order. -/
theorem mains_ordered (coherent : Coherent saga) :
    saga.mains.Pairwise fun first second =>
      Precedes (first.kind, first.ordinal) (second.kind, second.ordinal) := by
  obtain ⟨count, plan⟩ := coherent.plan
  have ordered := planOf_pairwise count
  rw [← plan, List.pairwise_map] at ordered
  exact ordered

/-- A saga has one creation. -/
theorem create_unique (coherent : Coherent saga) {past rest : List EffectRow}
    (shape : saga.mains = past ++ effect :: rest) (create : effect.kind = .createOrganization)
    {other : EffectRow} (member : other ∈ past ++ rest) : other.kind ≠ .createOrganization := by
  intro otherCreate
  have ordered := coherent.mains_ordered
  rw [shape, List.pairwise_append, List.pairwise_cons] at ordered
  obtain ⟨-, ⟨after, -⟩, between⟩ := ordered
  have zero : ∀ candidate ∈ saga.mains, candidate.kind = .createOrganization →
      candidate.ordinal = 0 := by
    intro candidate inside same
    obtain ⟨count, plan⟩ := coherent.plan
    have entry := List.mem_map_of_mem (f := fun effect => (effect.kind, effect.ordinal)) inside
    rw [plan] at entry
    have ordinal := ordinal_of_planOf entry same
    exact congrArg Prod.snd ordinal
  have here := zero effect (by rw [shape]; simp) create
  rcases List.mem_append.mp member with early | late
  · have there := zero other (by rw [shape]; simp [early]) otherCreate
    rcases between other early effect List.mem_cons_self with ⟨-, grant⟩ | ⟨-, less⟩
    · rw [create] at grant
      cases grant
    · rw [here, there] at less
      exact absurd less (lt_irrefl _)
  · have there := zero other (by rw [shape]; simp [late]) otherCreate
    rcases after other late with ⟨-, grant⟩ | ⟨-, less⟩
    · rw [otherCreate] at grant
      cases grant
    · rw [here, there] at less
      exact absurd less (lt_irrefl _)

theorem revoke_kind (coherent : Coherent saga) (member : effect ∈ saga.revokes) :
    effect.kind = .revokeEntitlement := by
  cases requested : saga.row.cleanupRequested with
  | false =>
    rw [coherent.unrequested requested] at member
    cases member
  | true =>
    obtain ⟨source, -, mirrors⟩ := exists_partner (coherent.mirrored requested) member
    exact mirrors.kind

/-- The effects of the phase are of its kinds. -/
theorem phase_kind (coherent : Coherent saga) (member : effect ∈ saga.phase) :
    effect.kind.isMain = !saga.row.cleanupRequested := by
  unfold Saga.phase at member
  cases requested : saga.row.cleanupRequested with
  | false =>
    rw [requested] at member
    exact coherent.main_kind member
  | true =>
    rw [requested] at member
    rw [coherent.revoke_kind member]
    rfl

theorem phase_mem (member : effect ∈ saga.phase) : effect ∈ saga.effects := by
  unfold Saga.phase at member
  unfold Saga.effects
  split at member
  · exact List.mem_append_right _ member
  · exact List.mem_append_left _ member

/-- After a cleanup request no creation and no grant is in flight or in doubt. -/
theorem settled_state (coherent : Coherent saga) (requested : saga.row.cleanupRequested = true)
    (member : effect ∈ saga.mains) :
    effect.state = .applied ∨ effect.state = .skipped ∨ effect.state = .failed := by
  obtain ⟨past, rest, shape, -, applied | ⟨create, rfl, failed⟩, skipped⟩ :=
    coherent.settled requested
  · rw [shape] at member
    rcases List.mem_append.mp member with early | late
    · exact Or.inl (applied effect early)
    · exact Or.inr (Or.inl (skipped effect late))
  · rw [shape] at member
    rcases List.mem_append.mp member with early | late
    · rw [List.mem_singleton.mp early]
      exact Or.inr (Or.inr failed)
    · exact Or.inr (Or.inl (skipped effect late))

/-- **An effect in flight or in doubt is the first unfinished one of the phase.** -/
theorem split_of_state (coherent : Coherent saga) (member : effect ∈ saga.effects)
    (begun : effect.state = .inFlight ∨ effect.state = .unknown) :
    ∃ past rest, Split (stage saga.row.cleanupRequested) saga.phase past effect rest := by
  have busy : stage saga.row.cleanupRequested effect = .busy := by
    rw [stage_busy]
    tauto
  refine coherent.worked.split_of_busy ?_ busy
  unfold Saga.phase
  cases requested : saga.row.cleanupRequested with
  | false =>
    rw [Saga.effects, coherent.unrequested requested, List.append_nil] at member
    exact member
  | true =>
    rcases List.mem_append.mp member with main | revoke
    · exfalso
      rcases coherent.settled_state requested main with state | state | state <;>
        rw [state] at begun <;> simp at begun
    · exact revoke

/-- **The status of a saga is that of the first unfinished effect.** -/
theorem status_of_split (coherent : Coherent saga) {past rest : List EffectRow}
    (split : Split (stage saga.row.cleanupRequested) saga.phase past effect rest) :
    saga.row.status = statusOf saga.row.cleanupRequested effect.state ∧
      saga.row.lastError = reported effect := by
  have summary := coherent.summary
  rw [outlook_split split] at summary
  exact ⟨congrArg Prod.fst summary, congrArg Prod.snd summary⟩

/-- Without an unfinished effect the phase is completed. -/
theorem status_of_finished (coherent : Coherent saga)
    (done : ∀ effect ∈ saga.phase, stage saga.row.cleanupRequested effect = .finished) :
    saga.row.status = (if saga.row.cleanupRequested then .cleanupCompleted else .completed) ∧
      saga.row.lastError = none := by
  have summary := coherent.summary
  rw [outlook_finished done] at summary
  exact ⟨congrArg Prod.fst summary, congrArg Prod.snd summary⟩

/-- **A saga that is not completed has a first unfinished effect.** -/
theorem split_of_status (coherent : Coherent saga) (open_ : saga.row.status ≠ .completed)
    (cleanupOpen : saga.row.status ≠ .cleanupCompleted) :
    ∃ past focus rest, Split (stage saga.row.cleanupRequested) saga.phase past focus rest := by
  rcases coherent.worked with done | split
  · exfalso
    have status := (coherent.status_of_finished done).1
    cases requested : saga.row.cleanupRequested <;> rw [requested] at status
    · exact open_ status
    · exact cleanupOpen status
  · exact split

/-- **A saga that ended its phase has finished all effects of it.** -/
theorem finished_of_status (coherent : Coherent saga)
    (ended : saga.row.status = .completed ∨ saga.row.status = .cleanupCompleted) :
    (saga.row.cleanupRequested = true ↔ saga.row.status = .cleanupCompleted) ∧
      ∀ effect ∈ saga.phase, effect.state = finishedState saga.row.cleanupRequested := by
  rcases coherent.worked with done | ⟨past, focus, rest, split⟩
  · refine ⟨?_, fun effect member => stage_finished.mp (done effect member)⟩
    rw [(coherent.status_of_finished done).1]
    cases saga.row.cleanupRequested <;> simp
  · have here := (coherent.status_of_split split).1
    rcases stage_open.mp split.focus_open with state | state | state | state <;>
      cases requested : saga.row.cleanupRequested <;> rw [state, requested] at here <;>
        rcases ended with status | status <;> rw [status] at here <;> cases here

/-- The effects of a completed saga are applied. -/
theorem applied_of_completed (coherent : Coherent saga) (status : saga.row.status = .completed)
    (member : effect ∈ saga.effects) : effect.state = .applied := by
  obtain ⟨phase, done⟩ := coherent.finished_of_status (Or.inl status)
  have unrequested : saga.row.cleanupRequested = false := by
    rw [← Bool.not_eq_true, phase, status]
    simp
  rw [Saga.effects, coherent.unrequested unrequested, List.append_nil] at member
  rw [Saga.phase, unrequested] at done
  exact done effect member

/-- A completed saga has granted all but its creation. -/
theorem granted_of_completed (coherent : Coherent saga) (status : saga.row.status = .completed) :
    saga.mains.length = (saga.mains.filter granted).length + 1 := by
  obtain ⟨create, grants, mains, kind, puts⟩ := coherent.mains_shape
  have applied : ∀ effect ∈ saga.mains, effect.state = .applied := fun effect member =>
    coherent.applied_of_completed status (List.mem_append_left _ member)
  rw [mains] at applied ⊢
  rw [List.filter_cons_of_neg (by simp [granted, kind]), List.length_cons,
    List.filter_eq_self.mpr fun put member => ?_]
  exact decide_eq_true ⟨puts put member, applied put (List.mem_cons_of_mem _ member)⟩

/-- A saga whose cleanup is completed has compensated all its revocations. -/
theorem compensated (coherent : Coherent saga) (status : saga.row.status = .cleanupCompleted) :
    saga.row.cleanupRequested = true ∧ ∀ revoke ∈ saga.revokes, revoke.state = .compensated := by
  obtain ⟨phase, done⟩ := coherent.finished_of_status (Or.inr status)
  have requested := phase.mpr status
  rw [Saga.phase, requested] at done
  exact ⟨requested, done⟩

/-- A saga that may be cleaned up has no effect in flight or in doubt. -/
theorem quiet (coherent : Coherent saga)
    (stopped : saga.row.status = .completed ∨ saga.row.status = .failed)
    (member : effect ∈ saga.effects) : effect.state ≠ .inFlight ∧ effect.state ≠ .unknown := by
  constructor
  · intro flying
    obtain ⟨past, rest, split⟩ := coherent.split_of_state member (Or.inl flying)
    have status := (coherent.status_of_split split).1
    rw [flying] at status
    cases requested : saga.row.cleanupRequested <;> rw [requested] at status <;>
      rcases stopped with other | other <;> rw [status] at other <;> cases other
  · intro doubted
    obtain ⟨past, rest, split⟩ := coherent.split_of_state member (Or.inr doubted)
    have status := (coherent.status_of_split split).1
    rw [doubted] at status
    rcases stopped with other | other <;> rw [status] at other <;> cases other

/-- A grant of a saga that may be cleaned up is applied, pending or failed. -/
theorem unfinished_put (coherent : Coherent saga)
    (unrequested : saga.row.cleanupRequested = false)
    (stopped : saga.row.status = .completed ∨ saga.row.status = .failed)
    {put : EffectRow} (member : put ∈ saga.mains) (open_ : put.state ≠ .applied) :
    put.state = .pending ∨ put.state = .failed := by
  obtain ⟨flying, doubted⟩ := coherent.quiet stopped (List.mem_append_left _ member)
  have worked := coherent.worked
  rw [Saga.phase, unrequested] at worked
  have undropped := worked.undropped (show put ∈ saga.mains from member)
  unfold stage at undropped
  cases state : put.state with
  | pending => exact Or.inl rfl
  | failed => exact Or.inr rfl
  | inFlight => exact absurd state flying
  | unknown => exact absurd state doubted
  | applied => exact absurd state open_
  | compensated | skipped =>
    rw [state] at undropped
    exact absurd rfl undropped

/-- Before the first unfinished grant the creation and every lower ordinal are applied. -/
theorem earlier_applied (coherent : Coherent saga) {past rest : List EffectRow}
    {focus other : EffectRow}
    (split : Split (stage saga.row.cleanupRequested) saga.phase past focus rest)
    (grant : focus.kind = .putEntitlement) (member : other ∈ saga.mains)
    (earlier : other.kind = .createOrganization ∨ other.ordinal < focus.ordinal) :
    other.state = .applied := by
  have unrequested : saga.row.cleanupRequested = false := by
    have kind := coherent.phase_kind split.focus_mem
    rw [grant] at kind
    simpa [EffectKind.isMain] using kind.symm
  have shape := split.jobs_eq
  rw [Saga.phase, unrequested] at shape
  have mains : saga.mains = past ++ focus :: rest := shape
  have ordered := coherent.mains_ordered
  rw [mains] at member ordered
  rcases List.mem_append.mp member with before | late
  · have done := stage_finished.mp (split.past_finished other before)
    rw [unrequested] at done
    exact done
  · exfalso
    rcases List.mem_cons.mp late with rfl | after
    · rcases earlier with create | less
      · rw [grant] at create
        cases create
      · exact absurd less (lt_irrefl _)
    · have follows := (List.pairwise_cons.mp (List.pairwise_append.mp ordered).2.1).1 other after
      rcases follows with ⟨create, -⟩ | ⟨same, less⟩
      · rw [show focus.kind = _ from create] at grant
        cases grant
      · rcases earlier with create | before
        · rw [show focus.kind = other.kind from same, create] at grant
          cases grant
        · exact absurd (show focus.ordinal < other.ordinal from less) (not_lt.mpr before.le)

end Coherent

end OrganizationProvisioning
