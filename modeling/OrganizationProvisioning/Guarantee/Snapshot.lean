/-
**What `get` returns, and the commits between its two statements.**

The view takes the saga from one commit and the steps from a later one. A transition of the saga in
between always shows in the steps: an attempt never comes back to a state it was in.

* `Consistent` — the view is that of the saga in one committed state.
* `snapshot_iff` — it is exactly when no transition of the saga commits in between, but for the
  cleanup request of a saga without grants; then its status agrees with its steps.
* `snapshot_torn` — a view under review that shows no step in doubt.
-/
import OrganizationProvisioning.Guarantee.Compensation
import OrganizationProvisioning.Run.Reads
import OrganizationProvisioning.Saga.Measure

namespace OrganizationProvisioning

open Relational Transactional Worklist

/-! ### Views of one state -/

/-- The view is that of the saga in one committed state of the history. -/
def Consistent (history : List Committed) (id : Uuid) (actor : String) (view : ProvisioningView) :
    Prop :=
  ∃ past rest store row, history = past ++ rest ∧ Run past store ∧ store.saga id = some row ∧
    row.requestedBy = actor ∧ renderView row (store.stepsOf id) = some view

/-- The entry leaves the saga alone, or requests the cleanup of a saga without grants. -/
def spares (id : Uuid) (entry : Committed) : Bool :=
  decide (entry.after.saga id = entry.before.saga id) ||
    ((entry.event matches .requestCleanup _ _ _ _) && (entry.before.putsOf id).isEmpty)

/-- **The status of a view agrees with its steps.** -/
structure Agrees (view : ProvisioningView) : Prop where
  review : view.status = "manual_review" →
    view.steps.countP (fun step => step.status = "unknown") = 1
  running : view.status = "running" →
    view.steps.countP (fun step => step.status = "in_flight") = 1
  completed : view.status = "completed" → ∀ step ∈ view.steps, step.status = "applied"
  blame : ∀ error, view.lastError = some error → ∃ step ∈ view.steps,
    (step.status = "failed" ∨ step.status = "unknown") ∧ step.lastError = some error

section Steps

variable {rows : List EffectRow} {steps : List StepView}

theorem EffectState.name_injective {first second : EffectState}
    (same : first.name = second.name) : first = second := by
  cases first <;> cases second <;> first | rfl | exact absurd same (by decide)

theorem SagaStatus.name_injective {first second : SagaStatus}
    (same : first.name = second.name) : first = second := by
  cases first <;> cases second <;> first | rfl | exact absurd same (by decide)

/-- Steps show how heavy their effects are. -/
theorem weight_of_steps {others : List EffectRow}
    (shown : List.Forall₂ (fun effect step => stepFromRow effect = some step) rows steps)
    (again : List.Forall₂ (fun effect step => stepFromRow effect = some step) others steps) :
    weight rows = weight others := by
  induction shown generalizing others with
  | nil =>
    cases again
    rfl
  | cons first _ ih =>
    cases again with
    | cons second rest =>
      obtain ⟨-, -, status, attempts⟩ := step_of_effect first
      obtain ⟨-, -, status', attempts'⟩ := step_of_effect second
      rw [weight_cons, weight_cons, ih rest]
      unfold EffectRow.weight
      rw [← attempts, ← attempts', EffectState.name_injective (status.symm.trans status')]

/-- Steps show how many effects are in a state. -/
theorem countP_of_steps (state : EffectState)
    (shown : List.Forall₂ (fun effect step => stepFromRow effect = some step) rows steps) :
    steps.countP (fun step => step.status = state.name) =
      rows.countP fun effect => effect.state = state := by
  induction shown with
  | nil => rfl
  | @cons effect step rows steps first _ ih =>
    obtain ⟨-, -, status, -⟩ := step_of_effect first
    have same : decide (step.status = state.name) = decide (effect.state = state) := by
      rw [status]
      exact decide_eq_decide.mpr ⟨EffectState.name_injective, congrArg EffectState.name⟩
    rw [List.countP_cons, List.countP_cons, ih, same]

end Steps

/-! ### One saga -/

namespace Coherent

variable {saga : Saga} {id : Uuid} {store : Store}

/-- The one effect in flight or in doubt is counted once. -/
theorem countP_begun (coherent : Coherent saga) (shows : Shows store id saga) {focus : EffectRow}
    {state : EffectState} (begun : state = .inFlight ∨ state = .unknown)
    (member : focus ∈ saga.effects) (here : focus.state = state) :
    saga.effects.countP (fun effect => effect.state = state) = 1 := by
  have distinct : saga.effects.Pairwise fun first second => first ≠ second :=
    shows.distinct.of_map
  have alone : ∀ effect ∈ saga.effects, effect.state = state → effect = focus := by
    intro effect inside same
    rw [← same] at begun
    obtain ⟨past, rest, split⟩ := coherent.split_of_state inside begun
    rw [same, ← here] at begun
    obtain ⟨past', rest', split'⟩ := coherent.split_of_state member begun
    exact Option.some.inj (split.next_eq.symm.trans split'.next_eq)
  rw [List.countP_eq_length_filter, filter_unique distinct member (decide_eq_true here)]
  · rfl
  · intro first one second two meets meets' differs
    rw [alone first one (of_decide_eq_true meets), alone second two (of_decide_eq_true meets')]
      at differs
    exact differs rfl

/-- **A view of one committed state agrees with itself.** -/
theorem agrees (coherent : Coherent saga) (shows : Shows store id saga) {view : ProvisioningView}
    (renders : Renders saga.row saga.effects view) : Agrees view := by
  have begins : ∀ state, state = .inFlight ∨ state = .unknown →
      (∀ cleanup other, statusOf cleanup other = saga.row.status → other = state) →
      saga.row.status ≠ .completed → saga.row.status ≠ .cleanupCompleted →
      view.steps.countP (fun step => step.status = state.name) = 1 := by
    intro state begun only open_ cleanupOpen
    obtain ⟨past, focus, rest, split⟩ := coherent.split_of_status open_ cleanupOpen
    have here := only _ _ (coherent.status_of_split split).1.symm
    rw [countP_of_steps state renders.steps]
    exact coherent.countP_begun shows begun (phase_mem split.focus_mem) here
  refine ⟨fun status => ?_, fun status => ?_, fun status step member => ?_, fun error blamed => ?_⟩
  · have review : saga.row.status = .manualReview :=
      SagaStatus.name_injective (renders.status.symm.trans status)
    refine begins .unknown (Or.inr rfl) ?_ (by rw [review]; decide) (by rw [review]; decide)
    intro cleanup other same
    rw [review] at same
    cases cleanup <;> cases other <;> first | rfl | cases same
  · have running : saga.row.status = .running :=
      SagaStatus.name_injective (renders.status.symm.trans status)
    refine begins .inFlight (Or.inl rfl) ?_ (by rw [running]; decide) (by rw [running]; decide)
    intro cleanup other same
    rw [running] at same
    cases cleanup <;> cases other <;> first | rfl | cases same
  · have completed : saga.row.status = .completed :=
      SagaStatus.name_injective (renders.status.symm.trans status)
    obtain ⟨effect, inside, shown⟩ := exists_partner renders.steps member
    rw [(step_of_effect shown).2.2.1, coherent.applied_of_completed completed inside]
    rfl
  · rw [renders.lastError] at blamed
    rcases coherent.worked with done | ⟨past, focus, rest, split⟩
    · rw [(coherent.status_of_finished done).2] at blamed
      cases blamed
    · rw [(coherent.status_of_split split).2] at blamed
      obtain ⟨step, inside, shown⟩ := exists_image renders.steps (phase_mem split.focus_mem)
      have status := (step_of_effect shown).2.2.1
      unfold reported at blamed
      split at blamed
      · rename_i failed
        rw [failed] at status
        exact ⟨step, inside, Or.inl status, (step_lastError shown).trans blamed⟩
      · rename_i doubted
        rw [doubted] at status
        exact ⟨step, inside, Or.inr status, (step_lastError shown).trans blamed⟩
      · cases blamed

end Coherent

/-! ### Between two statements -/

namespace Run

variable {history past later rest : List Committed} {first second store middle : Store}
  {entry : Committed} {id : Uuid} {saga saga' : Saga}

/-- A saga once shown is shown ever after. -/
theorem still_shows (upTo : Run past middle) (shown : Shows middle id saga)
    (coherent : Coherent saga) (run : Run (past ++ rest) store) :
    ∃ saga', Shows store id saga' ∧ Coherent saga' := by
  obtain ⟨saga', shows, holds, -⟩ := Run.follows (fun _ _ => True) (fun _ => trivial)
    (fun _ _ => trivial) (fun _ _ => trivial) upTo shown coherent run
  exact ⟨saga', shows, holds⟩

/-- **A revision belongs to one state of a saga.** -/
theorem same_revision (upTo : Run past middle) (shown : Shows middle id saga)
    (coherent : Coherent saga) (run : Run (past ++ rest) store) (shows : Shows store id saga')
    (coherent' : Coherent saga') (same : saga'.row.revision = saga.row.revision) :
    saga' = saga := by
  obtain ⟨last, shows', holds, related⟩ := Run.follows
    (fun saga saga' => saga' = saga ∨ saga.row.revision < saga'.row.revision)
    (fun _ => Or.inl rfl)
    (fun {one two three} first second => by
      rcases first with rfl | less
      · exact second
      · rcases second with rfl | more
        · exact Or.inr less
        · exact Or.inr (less.trans more))
    (fun _ step => Or.inr (by rw [step.revised]; omega)) upTo shown coherent run
  have unique := shows'.unique holds shows coherent'
  subst unique
  rcases related with equal | less
  · exact equal
  · rw [same] at less
    exact absurd less (lt_irrefl _)

/-- Effects grow heavier along a run. -/
theorem weight_le (upTo : Run past middle) (shown : Shows middle id saga)
    (coherent : Coherent saga) (run : Run (past ++ rest) store) (shows : Shows store id saga')
    (coherent' : Coherent saga') : weight saga.effects ≤ weight saga'.effects := by
  obtain ⟨last, shows', holds, related⟩ := Run.follows
    (fun saga saga' => weight saga.effects ≤ weight saga'.effects) (fun _ => le_refl _)
    (fun one two => one.trans two) (fun coherent step => step.weight_le coherent) upTo shown
    coherent run
  have unique := shows'.unique holds shows coherent'
  subst unique
  exact related

/-- A spared saga keeps its effects. -/
theorem spared (run : Run (past ++ entry :: rest) store) (spared : spares id entry = true) :
    entry.after.effectsOf id = entry.before.effectsOf id := by
  unfold spares at spared
  rw [Bool.or_eq_true, decide_eq_true_eq, Bool.and_eq_true] at spared
  cases run.fate id with
  | still untouched => exact untouched.effects
  | began called _ _ absent _ shows _ _ =>
    rcases spared with same | ⟨cleanup, -⟩
    · rw [shows.row, absent] at same
      cases same
    · rw [called] at cleanup
      cases cleanup
  | @moved now transition saga saga' shown coherent step shows cause =>
    rcases spared with same | ⟨cleanup, none⟩
    · rw [shows.row, shown.row, Option.some.injEq] at same
      have revised := step.revised
      rw [same] at revised
      omega
    · rw [shown.effects, shows.effects]
      have ungranted : ∀ effect ∈ saga.mains, effect.kind ≠ .putEntitlement := by
        rw [shown.putsOf coherent, List.isEmpty_iff, List.filter_eq_nil_iff] at none
        intro effect member grant
        exact none effect member (decide_eq_true grant)
      cases cause with
      | cleanup => exact step.idle coherent ungranted
      | claim called | finalize called | quarantine called | retry called =>
        rw [called] at cleanup
        cases cleanup

/-- A saga that is not spared grows heavier. -/
theorem unspared (run : Run (past ++ entry :: rest) store) (unspared : spares id entry = false)
    (shown : Shows entry.before id saga) (coherent : Coherent saga)
    (shows : Shows entry.after id saga') (coherent' : Coherent saga') :
    weight saga.effects < weight saga'.effects := by
  unfold spares at unspared
  rw [Bool.or_eq_false_iff, decide_eq_false_iff_not, Bool.and_eq_false_iff] at unspared
  obtain ⟨differs, busy⟩ := unspared
  cases run.fate id with
  | still untouched => exact absurd untouched.saga differs
  | began _ _ _ absent _ _ _ _ =>
    rw [shown.row] at absent
    cases absent
  | @moved now transition before after shown' holds step shows' cause =>
    have one := shown.unique coherent shown' holds
    have two := shows.unique coherent' shows' (step.coherent holds)
    subst one two
    refine step.heavier coherent ?_
    cases cause with
    | cleanup called =>
      refine Or.inr ?_
      rcases busy with other | some
      · rw [called] at other
        cases other
      · rw [shown.putsOf coherent, List.isEmpty_eq_false_iff_exists_mem] at some
        obtain ⟨put, member⟩ := some
        obtain ⟨inside, grant⟩ := List.mem_filter.mp member
        exact ⟨put, inside, of_decide_eq_true grant⟩
    | claim | finalize | quarantine | retry => exact Or.inl (by exact fun other => by cases other)

end Run

/-! ### The guarantee -/

namespace Got

variable {past later more : List Committed} {first second final : Store} {id : Uuid}
  {actor : String} {view : ProvisioningView}

/-- When every commit in between spares the saga, the view is that of its first statement. -/
theorem of_spared (got : Got past later first second id actor view)
    (spared : ∀ entry ∈ later, spares id entry = true) : ∃ row, first.saga id = some row ∧
      row.requestedBy = actor ∧ renderView row (first.stepsOf id) = some view := by
  have kept : second.effectsOf id = first.effectsOf id := by
    have along := got.read.later
      (fun calls _ last => (∀ entry ∈ calls, spares id entry = true) →
        last.effectsOf id = first.effectsOf id) (fun _ => rfl) ?_ got.reread
    · exact along spared
    · intro calls entry earlier holds legal committed spared
      have run : Run ((past ++ calls) ++ entry :: []) entry.after := .commit earlier legal committed
      rw [run.spared (spared entry (List.mem_append_right _ List.mem_cons_self))]
      exact holds fun call member => spared call (List.mem_append_left _ member)
  obtain ⟨row, present, owner, rendered⟩ := got.rendered
  refine ⟨row, present, owner, ?_⟩
  rw [Store.stepsOf, ← kept]
  exact rendered

/-- **A transition in between shows in the steps**, and the view is that of no committed state. -/
theorem torn (got : Got past later first second id actor view)
    (run : Run (past ++ later ++ more) final) {entry : Committed} (member : entry ∈ later)
    (unspared : spares id entry = false) : ¬ Consistent (past ++ later ++ more) id actor view := by
  rintro ⟨before, rest, store, row, shape, reached, present, -, rendered⟩
  obtain ⟨firstRow, firstPresent, -, torn⟩ := got.rendered
  obtain ⟨saga, rfl, shown, coherent⟩ := got.read.shows firstPresent
  obtain ⟨there, rfl, shows, holds⟩ := reached.shows present
  -- The revision of the view names the state of its first statement.
  have revision : there.row.revision = saga.row.revision :=
    (renders_of_render rendered).revision.symm.trans (renders_of_render torn).revision
  have same : there = saga := by
    have one : before <+: past ++ later ++ more := ⟨rest, shape.symm⟩
    have two : past <+: past ++ later ++ more := ⟨later ++ more, by simp⟩
    rcases List.prefix_or_prefix_of_prefix one two with ⟨between, rfl⟩ | ⟨between, rfl⟩
    · exact (Run.same_revision reached shows holds got.read shown coherent revision.symm).symm
    · exact Run.same_revision got.read shown coherent reached shows holds revision
  subst same
  -- The steps are those of the second statement, and heavier.
  obtain ⟨calls, rest', rfl⟩ := List.append_of_mem member
  have whole : Run ((past ++ calls) ++ entry :: rest') second := by
    simpa using got.reread
  obtain ⟨upTo, -, -, after⟩ := whole.commit_of_mem
  obtain ⟨one, shownOne, coherentOne⟩ := Run.still_shows got.read shown coherent upTo
  obtain ⟨two, shownTwo, coherentTwo⟩ := Run.still_shows upTo shownOne coherentOne after
  have further : Run ((past ++ calls ++ [entry]) ++ rest') second := by
    simpa using got.reread
  obtain ⟨last, shownLast, coherentLast⟩ := Run.still_shows after shownTwo coherentTwo further
  have early := Run.weight_le got.read shown coherent upTo shownOne coherentOne
  have strict := whole.unspared unspared shownOne coherentOne shownTwo coherentTwo
  have late := Run.weight_le after shownTwo coherentTwo further shownLast coherentLast
  rw [shows.stepsOf holds] at rendered
  rw [shownLast.stepsOf coherentLast] at torn
  have equal := weight_of_steps (renders_of_render rendered).steps (renders_of_render torn).steps
  omega

end Got

/-- **A view is that of one committed state exactly when the commits between the two statements
spare its saga**; then its status agrees with its steps. -/
theorem snapshot_iff {past later more : List Committed} {first second final : Store} {id : Uuid}
    {actor : String} {view : ProvisioningView} (got : Got past later first second id actor view)
    (run : Run (past ++ later ++ more) final) :
    (Consistent (past ++ later ++ more) id actor view ↔
      ∀ entry ∈ later, spares id entry = true) ∧
    ((∀ entry ∈ later, spares id entry = true) → Agrees view) := by
  refine ⟨⟨fun consistent entry member => ?_, fun spared => ?_⟩, fun spared => ?_⟩
  · rw [← Bool.not_eq_false]
    exact fun unspared => got.torn run member unspared consistent
  · obtain ⟨row, present, owner, rendered⟩ := got.of_spared spared
    exact ⟨past, later ++ more, first, row, by simp, got.read, present, owner, rendered⟩
  · obtain ⟨row, present, -, rendered⟩ := got.of_spared spared
    obtain ⟨saga, rfl, shown, coherent⟩ := got.read.shows present
    rw [shown.stepsOf coherent] at rendered
    exact coherent.agrees shown (renders_of_render rendered)

namespace Rehearsal

/-- What `get` returns when the call at a position commits between its two statements. -/
def seen (position : Nat) : Option (Committed × ProvisioningView) := do
  let entry ← history[position]?
  let row ← (entry.before.saga 1).filter fun row => row.requestedBy = "operator"
  let view ← renderView row (entry.after.stepsOf 1)
  return (entry, view)

theorem got_of_seen {position : Nat} {entry : Committed} {view : ProvisioningView}
    (same : seen position = some (entry, view)) : ∃ past more,
      Got past [entry] entry.before entry.after 1 "operator" view ∧
        Run (past ++ [entry] ++ more) store := by
  unfold seen at same
  simp only [Option.bind_eq_bind, Option.bind_eq_some_iff, Option.pure_def,
    Option.some.injEq, Prod.mk.injEq] at same
  obtain ⟨_, listed, row, present, _, rendered, rfl, rfl⟩ := same
  obtain ⟨found, owner⟩ := Option.filter_eq_some_iff.mp present
  obtain ⟨past, more, shape⟩ := List.append_of_mem (List.mem_of_getElem? listed)
  have whole := run
  rw [shape] at whole
  obtain ⟨reached, -, -, after⟩ := whole.commit_of_mem
  exact ⟨past, more, ⟨reached, after, row, found, of_decide_eq_true owner, rendered⟩,
    by simpa using whole⟩

end Rehearsal

/-- A late result superseded between the two statements: the view of the review is consistent. -/
theorem snapshot_rehearsed : ∃ history view, Consistent history 1 "operator" view ∧ Agrees view ∧
    view.status = "manual_review" := by
  have quiet : (Rehearsal.seen 10).any (fun result =>
      spares 1 result.1 && decide (result.2.status = "manual_review")) = true := by decide +kernel
  obtain ⟨⟨entry, view⟩, same, holds⟩ := (Option.any_eq_true ..).mp quiet
  rw [Bool.and_eq_true, decide_eq_true_eq] at holds
  obtain ⟨past, more, got, run⟩ := Rehearsal.got_of_seen same
  have spared : ∀ call ∈ [entry], spares 1 call = true := by
    intro call member
    rw [List.mem_singleton.mp member]
    exact holds.1
  exact ⟨_, view, (snapshot_iff got run).1.mpr spared, (snapshot_iff got run).2 spared, holds.2⟩

/-- **A view under review without a step in doubt**: an operator's denial commits between the two
statements. -/
theorem snapshot_torn : ∃ past later more first second view,
    Got past later first second 1 "operator" view ∧ Run (past ++ later ++ more) Rehearsal.store ∧
      view.status = "manual_review" ∧ (∀ step ∈ view.steps, step.status ≠ "unknown") ∧
      ¬ Consistent (past ++ later ++ more) 1 "operator" view := by
  have denied : (Rehearsal.seen 11).any (fun result => !spares 1 result.1 &&
      decide (result.2.status = "manual_review" ∧
        ∀ step ∈ result.2.steps, step.status ≠ "unknown")) = true := by decide +kernel
  obtain ⟨⟨entry, view⟩, same, holds⟩ := (Option.any_eq_true ..).mp denied
  rw [Bool.and_eq_true, decide_eq_true_eq, Bool.not_eq_true'] at holds
  obtain ⟨unspared, status, sure⟩ := holds
  obtain ⟨past, more, got, run⟩ := Rehearsal.got_of_seen same
  exact ⟨past, [entry], more, entry.before, entry.after, view, got, run, status, sure,
    got.torn run List.mem_cons_self unspared⟩

end OrganizationProvisioning
