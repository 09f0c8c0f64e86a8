/-
**What the selections of the store functions find on a coherent saga.**

* `Coherent.effects_sorted` — the effects stand in the order every query asks for.
* `Coherent.summarize_eq` — the loop of `refresh_saga_status` computes the outlook.
* `Coherent.due`, `Coherent.split_of_failed` — the effect a claim takes and the one a retry resolves
  is the first unfinished one of the phase.
* `Coherent.grants_selected` — the grants a cleanup request compensates are those in force.
-/
import OrganizationProvisioning.Saga.Steps
import OrganizationProvisioning.Model.Storage

namespace OrganizationProvisioning

open Worklist Relational

/-! ### Orders -/

/-- Lists paired off with an ordered list by a relation that carries the order are ordered. -/
theorem pairwise_of_paired {First Second : Type} {related : First → Second → Prop}
    {before : First → First → Prop} {after : Second → Second → Prop}
    {firsts : List First} {seconds : List Second} (paired : List.Forall₂ related firsts seconds)
    (ordered : firsts.Pairwise before)
    (carries : ∀ {one two : First} {one' two' : Second}, before one two → related one one' →
      related two two' → after one' two') : seconds.Pairwise after := by
  induction paired with
  | nil => exact List.Pairwise.nil
  | cons pair others ih =>
    rw [List.pairwise_cons] at ordered ⊢
    refine ⟨fun second member => ?_, ih ordered.2⟩
    obtain ⟨first, inside, holds⟩ := exists_partner others member
    exact carries (ordered.1 first inside) pair holds

/-- The effects `refresh_saga_status` looks at. -/
def relevant (cleanup : Bool) (effect : EffectRow) : Bool :=
  if cleanup then effect.kind = .revokeEntitlement else effect.kind.isMain

/-- The loop on an effect of the phase. -/
theorem Tally.add_relevant {cleanup : Bool} {tally : Tally} {effect : EffectRow}
    (counts : relevant cleanup effect = true) : tally.add cleanup effect =
      match effect.state with
      | .unknown => { tally with unknown := tally.unknown.or effect.lastError }
      | .failed => { tally with failed := tally.failed.or effect.lastError }
      | .pending | .inFlight => { tally with pending := true }
      | _ => tally := by
  unfold Tally.add
  exact if_pos (by simpa [relevant] using counts)

namespace Coherent

variable {saga : Saga} {effect : EffectRow}

/-- The grants in force stand in the order of their ordinals. -/
theorem granted_ordered (coherent : Coherent saga) :
    (saga.mains.filter granted).Pairwise fun first second => first.ordinal < second.ordinal := by
  have ordered := coherent.mains_ordered.sublist
    (List.filter_sublist (p := fun effect => granted effect))
  refine ordered.imp_of_mem ?_
  intro first second one _ precedes
  have grant := (List.mem_filter.mp one).2
  simp only [granted, Bool.decide_and, Bool.and_eq_true, decide_eq_true_eq] at grant
  rcases precedes with ⟨create, -⟩ | ⟨-, less⟩
  · rw [show first.kind = _ from create] at grant
    cases grant.1
  · exact less

/-- The revocations stand in the order of their ordinals. -/
theorem revokes_ordered (coherent : Coherent saga) :
    saga.revokes.Pairwise fun first second => first.ordinal < second.ordinal := by
  cases requested : saga.row.cleanupRequested with
  | false =>
    rw [coherent.unrequested requested]
    exact List.Pairwise.nil
  | true =>
    refine pairwise_of_paired (coherent.mirrored requested) coherent.granted_ordered ?_
    intro one two one' two' less first second
    rw [first.ordinal, second.ordinal]
    exact less

/-- **The effects of a saga stand in the order of the views.** -/
theorem effects_sorted (coherent : Coherent saga) :
    saga.effects.Pairwise fun first second => phaseOrder first second = true := by
  unfold Saga.effects
  rw [List.pairwise_append]
  refine ⟨?_, ?_, ?_⟩
  · refine coherent.mains_ordered.imp ?_
    intro first second precedes
    unfold phaseOrder
    rcases precedes with ⟨create, put⟩ | ⟨same, less⟩
    · rw [show first.kind = _ from create, show second.kind = _ from put]
      simp [EffectKind.rank]
    · rw [show first.kind = second.kind from same]
      simp only [lt_self_iff_false, false_or, true_and, decide_eq_true_eq]
      exact Or.inl less
  · refine coherent.revokes_ordered.imp_of_mem ?_
    intro first second one two less
    unfold phaseOrder
    rw [coherent.revoke_kind one, coherent.revoke_kind two]
    simp [less]
  · intro first one second two
    unfold phaseOrder
    have main := coherent.main_kind one
    rw [coherent.revoke_kind two]
    cases kind : first.kind <;> rw [kind] at main <;> simp [EffectKind.rank, EffectKind.isMain]
      at main ⊢

/-- The activity of a saga stands in the order of its revisions. -/
theorem activity_sorted (coherent : Coherent saga) :
    saga.activity.Pairwise fun first second =>
      first.provisioningRevision < second.provisioningRevision := by
  have numbers : (saga.activity.map fun note => note.provisioningRevision).Pairwise
      fun first second => first < second := by
    rw [coherent.numbered, List.pairwise_map]
    refine List.pairwise_lt_range.imp ?_
    intro first second less
    omega
  exact List.pairwise_map.mp numbers

theorem orderBy_effects (coherent : Coherent saga) :
    orderBy phaseOrder saga.effects = saga.effects :=
  orderBy_sorted phaseOrder coherent.effects_sorted

/-- **The effects of the phase stand in the order of the claims.** -/
theorem phase_sorted (coherent : Coherent saga) : saga.phase.Pairwise fun first second =>
    if saga.row.cleanupRequested then ordinalOrder first second = true
    else claimOrder first second = true := by
  unfold Saga.phase
  cases requested : saga.row.cleanupRequested with
  | true =>
    refine coherent.revokes_ordered.imp ?_
    intro first second less
    simp [ordinalOrder, less]
  | false =>
    refine coherent.mains_ordered.imp ?_
    intro first second precedes
    rcases precedes with ⟨create, put⟩ | ⟨same, less⟩
    · have isCreate : first.kind = .createOrganization := create
      have isGrant : second.kind = .putEntitlement := put
      simp [claimOrder, isCreate, isGrant]
    · have alike : first.kind = second.kind := same
      have earlier : first.ordinal < second.ordinal := less
      simp [claimOrder, ordinalOrder, alike, earlier]

/-! ### The summary -/

theorem relevant_phase (coherent : Coherent saga) :
    saga.effects.filter (relevant saga.row.cleanupRequested) = saga.phase := by
  unfold Saga.effects Saga.phase
  rw [List.filter_append]
  cases requested : saga.row.cleanupRequested with
  | true =>
    rw [List.filter_eq_nil_iff.mpr, List.nil_append, List.filter_eq_self.mpr]
    · rfl
    · intro effect member
      simp [relevant, coherent.revoke_kind member]
    · intro effect member
      have main := coherent.main_kind member
      cases kind : effect.kind <;> simp [relevant, kind, EffectKind.isMain] at main ⊢
  | false =>
    rw [coherent.unrequested requested, List.filter_nil, List.append_nil, List.filter_eq_self.mpr]
    · rfl
    · intro effect member
      simp [relevant, coherent.main_kind member]

/-- The loop skips the effects of the other phase. -/
theorem foldl_tally (cleanup : Bool) (effects : List EffectRow) (tally : Tally) :
    effects.foldl (Tally.add cleanup) tally =
      (effects.filter (relevant cleanup)).foldl (Tally.add cleanup) tally := by
  induction effects generalizing tally with
  | nil => rfl
  | cons effect effects ih =>
    rw [List.foldl_cons, List.filter_cons]
    by_cases counts : relevant cleanup effect = true
    · rw [if_pos counts, List.foldl_cons, ih]
    · rw [if_neg counts, ← ih]
      congr 1
      unfold Tally.add
      rw [if_neg]
      simpa [relevant] using counts

/-- Finished effects leave the tally alone. -/
theorem foldl_finished {cleanup : Bool} {effects : List EffectRow} (tally : Tally)
    (done : ∀ effect ∈ effects, stage cleanup effect = .finished) :
    effects.foldl (Tally.add cleanup) tally = tally := by
  induction effects with
  | nil => rfl
  | cons effect effects ih =>
    have state := stage_finished.mp (done effect List.mem_cons_self)
    have kept : Tally.add cleanup tally effect = tally := by
      unfold Tally.add
      rw [state]
      cases cleanup <;> simp [finishedState]
    rw [List.foldl_cons, kept]
    exact ih fun other member => done other (List.mem_cons_of_mem _ member)

/-- Waiting effects only mark the tally as pending. -/
theorem foldl_waiting {cleanup : Bool} {effects : List EffectRow} (tally : Tally)
    (waits : ∀ effect ∈ effects, stage cleanup effect = .waiting ∧
      relevant cleanup effect = true) :
    effects.foldl (Tally.add cleanup) tally =
      { tally with pending := tally.pending || !effects.isEmpty } := by
  induction effects generalizing tally with
  | nil => simp
  | cons effect effects ih =>
    obtain ⟨waiting, counts⟩ := waits effect List.mem_cons_self
    have marked : Tally.add cleanup tally effect = { tally with pending := true } := by
      rw [Tally.add_relevant counts, stage_waiting.mp waiting]
    rw [List.foldl_cons, marked, ih _ fun other member => waits other
      (List.mem_cons_of_mem _ member)]
    simp

/-- **The stored summary is the outlook**, when no effect of the phase is in flight. -/
theorem summarize_eq (coherent : Coherent saga)
    (landed : ∀ effect ∈ saga.phase, effect.state ≠ .inFlight) :
    summarize saga.row.cleanupRequested saga.effects =
      outlook saga.row.cleanupRequested saga.phase := by
  have counts : ∀ effect ∈ saga.phase, relevant saga.row.cleanupRequested effect = true := by
    intro effect member
    rw [← coherent.relevant_phase] at member
    exact (List.mem_filter.mp member).2
  unfold summarize
  rw [foldl_tally, coherent.relevant_phase]
  rcases coherent.worked with done | ⟨past, focus, rest, split⟩
  · rw [foldl_finished _ done, outlook_finished done]
  · have member := split.focus_mem
    have focusCounts := counts focus member
    have restWaits : ∀ effect ∈ rest, stage saga.row.cleanupRequested effect = .waiting ∧
        relevant saga.row.cleanupRequested effect = true := by
      intro effect inside
      refine ⟨split.rest_waiting effect inside, counts effect ?_⟩
      rw [split.jobs_eq]
      simp [inside]
    have blamed := coherent.blamed focus (phase_mem member)
    rw [outlook_split split]
    rw [split.jobs_eq, List.foldl_append, foldl_finished _ split.past_finished, List.foldl_cons,
      foldl_waiting _ restWaits]
    rw [Tally.add_relevant focusCounts]
    unfold reported
    rcases stage_open.mp split.focus_open with state | state | state | state
    · rw [state]
      rfl
    · exact absurd state (landed focus member)
    · obtain ⟨error, present⟩ := Option.isSome_iff_exists.mp (blamed (Or.inl state))
      rw [state, present]
      rfl
    · obtain ⟨error, present⟩ := Option.isSome_iff_exists.mp (blamed (Or.inr state))
      rw [state, present]
      rfl

/-! ### The effect to claim, to resolve and to compensate -/

/-- **The pending effects of a pending saga** are its first unfinished effect and those after it. -/
theorem waiting (coherent : Coherent saga)
    (pending : saga.row.status = .pending ∨ saga.row.status = .cleanupPending) :
    ∃ past focus rest, Split (stage saga.row.cleanupRequested) saga.phase past focus rest ∧
      focus.state = .pending ∧
      (saga.phase.filter fun effect => decide (effect.state = .pending)) = focus :: rest := by
  obtain ⟨past, focus, rest, split⟩ := coherent.split_of_status
    (by rcases pending with status | status <;> rw [status] <;> decide)
    (by rcases pending with status | status <;> rw [status] <;> decide)
  have waits : focus.state = .pending := by
    have status := (coherent.status_of_split split).1
    rcases stage_open.mp split.focus_open with state | state | state | state
    · exact state
    all_goals
      rw [state] at status
      rw [status] at pending
      cases requested : saga.row.cleanupRequested <;> rw [requested] at pending <;>
        simp [statusOf] at pending
  refine ⟨past, focus, rest, split, waits, ?_⟩
  rw [split.jobs_eq, List.filter_append, List.filter_eq_nil_iff.mpr, List.nil_append,
    List.filter_cons_of_pos (by simpa using waits), List.filter_eq_self.mpr]
  · intro effect member
    simpa using stage_waiting.mp (split.rest_waiting effect member)
  · intro effect member
    have state := stage_finished.mp (split.past_finished effect member)
    rw [state]
    cases saga.row.cleanupRequested <;> simp [finishedState]

/-- A claim selects the pending effects of the phase. -/
theorem selected_waiting (coherent : Coherent saga) (condition : EffectRow → Bool)
    (selects : ∀ effect, condition effect =
      (relevant saga.row.cleanupRequested effect && decide (effect.state = .pending))) :
    saga.effects.filter condition =
      saga.phase.filter fun effect => decide (effect.state = .pending) := by
  rw [← coherent.relevant_phase, List.filter_filter]
  refine List.filter_congr fun effect _ => ?_
  rw [selects, Bool.and_comm]

/-- **A claim takes the first unfinished effect of the phase.** -/
theorem due (coherent : Coherent saga) {order : EffectRow → EffectRow → Bool}
    (sorted : saga.phase.Pairwise fun first second => order first second = true)
    (pending : saga.row.status = .pending ∨ saga.row.status = .cleanupPending)
    (condition : EffectRow → Bool)
    (selects : ∀ effect, condition effect =
      (relevant saga.row.cleanupRequested effect && decide (effect.state = .pending)))
    (found : (orderBy order (saga.effects.filter condition)).head? = some effect) :
    effect.state = .pending ∧ ∃ past rest,
      Split (stage saga.row.cleanupRequested) saga.phase past effect rest := by
  obtain ⟨past, focus, rest, split, waits, first⟩ := coherent.waiting pending
  rw [coherent.selected_waiting condition selects,
    orderBy_sorted _ (sorted.sublist List.filter_sublist), first] at found
  cases found
  exact ⟨waits, past, rest, split⟩

/-- **A claim finds an effect** of a pending saga. -/
theorem finds_due (coherent : Coherent saga) {order : EffectRow → EffectRow → Bool}
    (pending : saga.row.status = .pending ∨ saga.row.status = .cleanupPending)
    (condition : EffectRow → Bool)
    (selects : ∀ effect, condition effect =
      (relevant saga.row.cleanupRequested effect && decide (effect.state = .pending))) :
    (orderBy order (saga.effects.filter condition)).head? ≠ none := by
  obtain ⟨past, focus, rest, -, -, first⟩ := coherent.waiting pending
  rw [coherent.selected_waiting condition selects, first, ne_eq, List.head?_eq_none_iff]
  intro empty
  have member : focus ∈ orderBy order (focus :: rest) := by
    rw [mem_orderBy]
    exact List.mem_cons_self
  rw [empty] at member
  cases member

/-- **The failed effect of a failed saga is the first unfinished one of the phase.** -/
theorem split_of_failed (coherent : Coherent saga)
    (failed : saga.row.status = .failed ∨ saga.row.status = .cleanupFailed)
    (member : effect ∈ saga.effects) (state : effect.state = .failed) :
    ∃ past rest, Split (stage saga.row.cleanupRequested) saga.phase past effect rest := by
  have inPhase : effect ∈ saga.phase := by
    obtain ⟨past, focus, rest, split⟩ := coherent.split_of_status
      (by rcases failed with status | status <;> rw [status] <;> decide)
      (by rcases failed with status | status <;> rw [status] <;> decide)
    have unfinished := split.focus_mem
    unfold Saga.phase at unfinished ⊢
    cases requested : saga.row.cleanupRequested with
    | false =>
      rw [Saga.effects, coherent.unrequested requested, List.append_nil] at member
      exact member
    | true =>
      rw [requested] at unfinished
      rcases List.mem_append.mp member with main | revoke
      · -- A failed creation leaves no grant in force, hence nothing to revoke.
        exfalso
        obtain ⟨source, inside, -⟩ := exists_partner (coherent.mirrored requested) unfinished
        obtain ⟨grant, applied⟩ := List.mem_filter.mp inside
        have inForce : source.state = .applied := by
          simp only [granted, Bool.decide_and, Bool.and_eq_true, decide_eq_true_eq] at applied
          exact applied.2
        obtain ⟨before, after, shape, -, done | ⟨create, rfl, broken⟩, skipped⟩ :=
          coherent.settled requested
        · rw [shape] at main
          rcases List.mem_append.mp main with early | late
          · rw [done effect early] at state
            cases state
          · rw [skipped effect late] at state
            cases state
        · rw [shape] at grant
          rcases List.mem_append.mp grant with early | late
          · rw [List.mem_singleton.mp early, broken] at inForce
            cases inForce
          · rw [skipped source late] at inForce
            cases inForce
      · exact revoke
  refine coherent.worked.split_of_busy inPhase ?_
  rw [stage_busy]
  exact Or.inr (Or.inl state)

/-- **A cleanup request compensates the grants in force.** -/
theorem grants_selected (coherent : Coherent saga) :
    orderBy ordinalOrder (saga.effects.filter granted) = saga.mains.filter granted := by
  have selected : saga.effects.filter granted = saga.mains.filter granted := by
    have none : saga.revokes.filter granted = [] := by
      rw [List.filter_eq_nil_iff]
      intro effect member
      simp [granted, coherent.revoke_kind member]
    rw [Saga.effects, List.filter_append, none, List.append_nil]
  rw [selected]
  refine orderBy_sorted _ (coherent.granted_ordered.imp ?_)
  intro first second less
  simp [ordinalOrder, less]

end Coherent

end OrganizationProvisioning
