/-
**What a committed call did to one effect.**

* `Writes` — what a transition writes on an effect: the turn of the effect it names, or the skip of a
  grant by a cleanup request.
* `EffectFate` — an effect stands still, is inserted, or is written by the transition of its saga.
* `Run.effectFate` — every committed call leaves every effect to one of these fates.
* `Run.settled` — an effect that reached a final state keeps it.
-/
import OrganizationProvisioning.Run.Fate

namespace OrganizationProvisioning

open Relational Transactional Worklist

/-- **What a transition writes on an effect.** -/
inductive Writes (now : Timestamp) (effect : EffectRow) : Transition → EffectProgress → Prop
  | turn {transition : Transition} {progress : EffectProgress}
      {organization : Option (String × String)}
      (turns : Turn now effect transition progress organization) :
      Writes now effect transition progress
  | skip (grant : effect.kind = .putEntitlement)
      (unfinished : effect.state = .pending ∨ effect.state = .failed) :
      Writes now effect .cleanup (effect.toEffectProgress.skipped now)

/-- **What a committed call did to one effect.** -/
inductive EffectFate (entry : Committed) (effectId : Uuid) : Prop
  | still (same : entry.after.effect effectId = entry.before.effect effectId)
  | inserted {effect : EffectRow} {now : Timestamp} {externalId : Option String}
      (absent : entry.before.effect effectId = none)
      (present : entry.after.effect effectId = some effect)
      (fresh : effect.toEffectProgress = newProgress now externalId)
      (unretried : ∀ now activityId input, entry.event ≠ .retry now activityId input)
  | written {now : Timestamp} {effect : EffectRow} {transition : Transition}
      {progress : EffectProgress} {saga saga' : Saga}
      (found : entry.before.effect effectId = some effect)
      (writes : Writes now effect transition progress)
      (present : entry.after.effect effectId = some (effect.set fun _ => progress))
      (shown : Shows entry.before effect.provisioningId saga) (coherent : Coherent saga)
      (step : Saga.Step now saga transition saga')
      (shows : Shows entry.after effect.provisioningId saga')
      (cause : Cause entry effect.provisioningId now saga saga' transition)

/-! ### Effects of a shown saga -/

section Shown

variable {store : Store} {id : Uuid} {saga : Saga} {effect : EffectRow}

/-- The effects of a shown saga are the stored ones that belong to it. -/
theorem Shows.effect_mem (shows : Shows store id saga) :
    effect ∈ saga.effects ↔
      store.effect effect.effectId = some effect ∧ effect.provisioningId = id := by
  rw [← shows.effects, Store.mem_effectsOf]

/-- An effect of a shown saga, by its id. -/
theorem Shows.effect_eq (shows : Shows store id saga) {effectId : Uuid}
    (found : store.effect effectId = some effect) (owner : effect.provisioningId = id) :
    effect ∈ saga.effects ∧ effect.effectId = effectId := by
  have same := (Store.effect_found.mp found).2
  exact ⟨shows.effect_mem.mpr ⟨by rw [same]; exact found, owner⟩, same⟩

end Shown

/-! ### The fate of an effect -/

section Fate

variable {before after : Store} {id : Uuid} {saga : Saga} {now : Timestamp}
  {past rest : List EffectRow} {focus effect : EffectRow} {progress : EffectProgress}
  {organization : Option (String × String)} {note : ActivityRow} {effectId : Uuid}

/-- A turn writes the effect it names. -/
theorem effect_focus (split : Split (stage saga.row.cleanupRequested) saga.phase past focus rest)
    (shows : Shows after id
      (saga.turned now past rest (focus.set fun _ => progress) organization note)) :
    after.effect focus.effectId = some (focus.set fun _ => progress) := by
  obtain ⟨early, late, -, turned⟩ := effects_turned now split
  have written : (focus.set fun _ => progress) ∈
      (saga.turned now past rest (focus.set fun _ => progress) organization note).effects := by
    rw [turned]
    simp
  exact (shows.effect_mem.mp written).1

/-- A turn writes the effect it names and leaves the others. -/
theorem effect_turned (shown : Shows before id saga)
    (split : Split (stage saga.row.cleanupRequested) saga.phase past focus rest)
    (shows : Shows after id
      (saga.turned now past rest (focus.set fun _ => progress) organization note))
    (found : before.effect effectId = some effect) (owner : effect.provisioningId = id) :
    (effect = focus ∧ after.effect effectId = some (focus.set fun _ => progress)) ∨
      after.effect effectId = before.effect effectId := by
  obtain ⟨early, late, shape, turned⟩ := effects_turned now split
  have shape' := turned (focus.set fun _ => progress) organization note
  obtain ⟨member, same⟩ := shown.effect_eq found owner
  rw [shape] at member
  have stays : ∀ row ∈ early ++ (focus.set fun _ => progress) :: late,
      after.effect row.effectId = some row := by
    intro row inside
    rw [← shape'] at inside
    exact (shows.effect_mem.mp inside).1
  rcases List.mem_append.mp member with inside | inside
  · refine Or.inr ?_
    rw [found, ← same]
    exact stays effect (List.mem_append_left _ inside)
  · rcases List.mem_cons.mp inside with rfl | inside
    · refine Or.inl ⟨rfl, ?_⟩
      rw [← same]
      exact effect_focus split shows
    · refine Or.inr ?_
      rw [found, ← same]
      exact stays effect (List.mem_append_right _ (List.mem_cons_of_mem _ inside))

/-- A turn inserts no effect. -/
theorem effect_turned_absent (shown : Shows before id saga)
    (split : Split (stage saga.row.cleanupRequested) saga.phase past focus rest)
    (shows : Shows after id
      (saga.turned now past rest (focus.set fun _ => progress) organization note))
    (absent : before.effect effectId = none) (found : after.effect effectId = some effect) :
    effect.provisioningId ≠ id := by
  rintro owner
  obtain ⟨early, late, shape, turned⟩ := effects_turned now split
  have shape' := turned (focus.set fun _ => progress) organization note
  obtain ⟨member, same⟩ := shows.effect_eq found owner
  rw [shape'] at member
  have known : ∀ row ∈ early ++ focus :: late, row.effectId ≠ effectId := by
    intro row inside taken
    rw [← shape] at inside
    have present := (shown.effect_mem.mp inside).1
    rw [taken, absent] at present
    cases present
  rcases List.mem_append.mp member with inside | inside
  · exact known effect (List.mem_append_left _ inside) same
  · rcases List.mem_cons.mp inside with rfl | inside
    · exact known focus (List.mem_append_right _ List.mem_cons_self) same
    · exact known effect (List.mem_append_right _ (List.mem_cons_of_mem _ inside)) same

/-- A cleanup request skips a grant that was not applied and leaves the other effects. -/
theorem effect_cleaned (shown : Shows before id saga) (coherent : Coherent saga)
    (unrequested : saga.row.cleanupRequested = false) {revokes : List EffectRow}
    (shows : Shows after id (saga.cleaned now revokes note))
    (found : before.effect effectId = some effect) (owner : effect.provisioningId = id) :
    after.effect effectId = some (skipUnfinished now effect) := by
  obtain ⟨member, same⟩ := shown.effect_eq found owner
  rw [Saga.effects, coherent.unrequested unrequested, List.append_nil] at member
  have inside : skipUnfinished now effect ∈ (saga.cleaned now revokes note).effects :=
    List.mem_append_left _ (List.mem_map_of_mem member)
  have kept : (skipUnfinished now effect).effectId = effect.effectId :=
    congrArg _ (Coherent.skipUnfinished_plan effect)
  rw [← same, ← kept]
  exact (shows.effect_mem.mp inside).1

/-- The effects a cleanup request inserts are its revocations. -/
theorem effect_cleaned_absent (shown : Shows before id saga) {revokes : List EffectRow}
    (shows : Shows after id (saga.cleaned now revokes note))
    (absent : before.effect effectId = none) (found : after.effect effectId = some effect)
    (owner : effect.provisioningId = id) : effect ∈ revokes := by
  obtain ⟨member, same⟩ := shows.effect_eq found owner
  rcases List.mem_append.mp member with main | revoke
  · obtain ⟨old, inside, rfl⟩ := List.mem_map.mp main
    have present := (shown.effect_mem.mp (List.mem_append_left _ inside : old ∈ saga.effects)).1
    have kept : (skipUnfinished now old).effectId = old.effectId :=
      congrArg _ (Coherent.skipUnfinished_plan old)
    rw [← kept, same, absent] at present
    cases present
  · exact revoke

end Fate

/-- **A committed call leaves every effect to one of the fates.** -/
theorem Did.effectFate {entry : Committed} (did : Did entry) (owned : Owned entry.before)
    (effectId : Uuid) : EffectFate entry effectId := by
  cases found : entry.before.effect effectId with
  | some effect =>
    cases did.fate effect.provisioningId with
    | still untouched =>
      refine .still ?_
      have same := (Store.effect_found.mp found).2
      have member : effect ∈ entry.after.effectsOf effect.provisioningId := by
        rw [untouched.effects, Store.mem_effectsOf, same]
        exact ⟨found, rfl⟩
      rw [found, ← same]
      exact (Store.mem_effectsOf.mp member).1
    | began _ _ _ absent _ _ _ _ =>
      have present := owned.effects effect (Store.effect_found.mp found).1
      rw [absent] at present
      cases present
    | moved shown coherent step shows cause =>
      have whole := step
      cases step with
      | turn split turns records =>
        rcases effect_turned shown split shows found rfl with ⟨rfl, present⟩ | same
        · exact .written found (.turn turns) present shown coherent whole shows cause
        · exact .still same
      | cleanup unrequested stopped compensated records =>
        have present := effect_cleaned shown coherent unrequested shows found rfl
        unfold skipUnfinished at present
        split at present
        · rename_i unfinished
          exact .written found (.skip unfinished.1 unfinished.2) present shown coherent whole shows
            cause
        · exact .still (present.trans found.symm)
  | none =>
    cases present : entry.after.effect effectId with
    | none => exact .still (present.trans found.symm)
    | some effect =>
      cases did.fate effect.provisioningId with
      | still untouched =>
        have same := (Store.effect_found.mp present).2
        have member : effect ∈ entry.before.effectsOf effect.provisioningId := by
          rw [← untouched.effects, Store.mem_effectsOf, same]
          exact ⟨present, rfl⟩
        have known := (Store.mem_effectsOf.mp member).1
        rw [same, found] at known
        cases known
      | @began now ids input response saga called answered names absent begins shows rendered
          reserves =>
        obtain ⟨member, -⟩ := shows.effect_eq present rfl
        rw [Saga.effects, begins.mains_eq, begins.revokes_eq, List.append_nil] at member
        refine .inserted found present (Saga.mem_plannedEffects member).1 ?_
        intro _ _ _ other
        rw [called] at other
        cases other
      | moved shown coherent step shows cause =>
        cases step with
        | turn split turns records =>
          exact absurd rfl (effect_turned_absent shown split shows found present)
        | cleanup unrequested stopped compensated records =>
          have member := effect_cleaned_absent shown shows found present rfl
          obtain ⟨source, -, _, _, _, grantId, -, -, -, rfl⟩ := exists_partner compensated member
          refine .inserted found present rfl ?_
          intro _ _ _ other
          cases cause with
          | cleanup called =>
            rw [called] at other
            cases other

theorem Run.effectFate {past rest : List Committed} {store : Store} {entry : Committed}
    (run : Run (past ++ entry :: rest) store) (effectId : Uuid) : EffectFate entry effectId :=
  run.did.2.effectFate run.did.1.owned effectId

/-! ### What a claim wrote -/

/-- A committed call gave out a claim of an effect. -/
def claims (effectId : Uuid) (entry : Committed) : Bool :=
  match entry.reply with
  | .claimed (some record) => record.effectId = effectId
  | _ => false

theorem claims_iff {effectId : Uuid} {entry : Committed} :
    claims effectId entry = true ↔ ∃ record, GaveOut record entry ∧ record.effectId = effectId := by
  unfold claims GaveOut
  constructor
  · intro holds
    split at holds
    · rename_i record answered
      exact ⟨record, answered, of_decide_eq_true holds⟩
    · cases holds
  · rintro ⟨record, answered, same⟩
    rw [answered]
    exact decide_eq_true same

/-- **What a claim gave out**: the record of the first unfinished effect of a saga, which was
pending and is leased under the fence of the record. -/
structure Gives (entry : Committed) (record : EffectRecord) (now leaseUntil : Timestamp)
    (saga : Saga) (past rest : List EffectRow) (effect : EffectRow) : Prop where
  shown : Shows entry.before record.provisioningId saga
  coherent : Coherent saga
  split : Split (stage saga.row.cleanupRequested) saga.phase past effect rest
  due : effect.state = .pending
  record_eq : record = effectRecord effect record.leaseToken saga.row
  found : entry.before.effect record.effectId = some effect
  leased : entry.after.effect record.effectId =
    some (effect.set (.leased now record.leaseToken leaseUntil))

theorem Did.gives {entry : Committed} (did : Did entry) {record : EffectRecord}
    (gave : GaveOut record entry) :
    ∃ now leaseUntil saga past rest effect, Gives entry record now leaseUntil saga past rest
      effect := by
  unfold GaveOut at gave
  cases did with
  | @claimed now utcNow actor fence activityId leaseSeconds id effect saga saga' called answered
      moves member _ =>
    rw [answered] at gave
    cases gave
    have shows := moves.shows
    cases moves.step with
    | @turn _ past rest focus progress organization note split turns records =>
      obtain ⟨same, due, leaseUntil, rfl⟩ := turns.of_claim
      have foundFocus := (moves.shown.effect_mem.mp (Coherent.phase_mem split.focus_mem)).1
      have found := (moves.shown.effect_mem.mp (Coherent.phase_mem member)).1
      rw [same, found] at foundFocus
      cases foundFocus
      have owner : saga.row.provisioningId = id := moves.shown.id_eq
      refine ⟨now, leaseUntil, saga, past, rest, effect, ?_, moves.coherent, split, due, rfl, found,
        effect_focus split shows⟩
      show Shows entry.before saga.row.provisioningId saga
      rw [owner]
      exact moves.shown
  | replayed _ answered _ | began _ answered _ _ _ _ _ _ | retried _ answered _ _ _ _ _ _ _
  | cleaned _ answered _ _ _ _ _ | quarantined _ answered _ | idle _ answered _
  | superseded _ answered _ _ | finalized _ answered _ _ _ _ =>
    rw [answered] at gave
    cases gave

/-- **A claim leases a pending effect.** -/
theorem Did.claims {entry : Committed} (did : Did entry) {effectId : Uuid}
    (claimed : claims effectId entry = true) :
    ∃ now fence leaseUntil effect, entry.before.effect effectId = some effect ∧
      effect.state = .pending ∧
      entry.after.effect effectId = some (effect.set (.leased now fence leaseUntil)) := by
  obtain ⟨record, gave, rfl⟩ := claims_iff.mp claimed
  obtain ⟨now, leaseUntil, saga, past, rest, effect, gives⟩ := did.gives gave
  exact ⟨now, record.leaseToken, leaseUntil, effect, gives.found, gives.due, gives.leased⟩

/-! ### Final states -/

/-- The states an effect never leaves. -/
def EffectState.settled : EffectState → Bool
  | .applied | .compensated | .skipped => true
  | _ => false

/-- No transition writes on an effect in a final state. -/
theorem Writes.unsettled {now : Timestamp} {effect : EffectRow} {transition : Transition}
    {progress : EffectProgress} (writes : Writes now effect transition progress) :
    effect.state.settled = false := by
  cases writes with
  | turn turns =>
    rcases turns.open_state with state | state | state | state <;> rw [state] <;> rfl
  | skip grant unfinished => rcases unfinished with state | state <;> rw [state] <;> rfl

/-- **An effect in a final state stays as it is.** -/
theorem Run.settled {past rest : List Committed} {middle store : Store} {effectId : Uuid}
    {effect : EffectRow} (upTo : Run past middle) (found : middle.effect effectId = some effect)
    (final : effect.state.settled = true) (run : Run (past ++ rest) store) :
    (∀ entry ∈ rest, claims effectId entry = false) ∧ store.effect effectId = some effect := by
  refine upTo.later (fun calls _ last => (∀ entry ∈ calls, claims effectId entry = false) ∧
    last.effect effectId = some effect) ?_ ?_ run
  · exact ⟨fun _ member => (List.not_mem_nil member).elim, found⟩
  · rintro calls entry earlier ⟨unclaimed, present⟩ legal committed
    have run' : Run ((past ++ calls) ++ entry :: []) entry.after := .commit earlier legal committed
    have none : claims effectId entry = false := by
      rw [← Bool.not_eq_true]
      intro claimed
      obtain ⟨_, _, _, other, there, pending, -⟩ := run'.did.2.claims claimed
      rw [present] at there
      cases there
      rw [pending] at final
      cases final
    refine ⟨fun call member => ?_, ?_⟩
    · rcases List.mem_append.mp member with early | here
      · exact unclaimed call early
      · rw [List.mem_singleton.mp here]
        exact none
    · cases run'.effectFate effectId with
      | still same => exact same.trans present
      | inserted absent _ _ _ =>
        rw [present] at absent
        cases absent
      | written there writes _ _ _ _ _ _ =>
        rw [present] at there
        cases there
        rw [writes.unsettled] at final
        cases final

end OrganizationProvisioning
