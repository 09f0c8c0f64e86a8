/-
**Every saga has a start.**

* `Starts` — the call that started a saga.
* `Run.started` — every saga of a run was started by a call of the run and follows it.
* `Run.keyed` — every effect has the downstream key of its saga, kind and ordinal.
-/
import OrganizationProvisioning.Run.Keys
import OrganizationProvisioning.Saga.Intent

namespace OrganizationProvisioning

open Transactional

/-- A committed call started a saga. -/
structure Starts (entry : Committed) (now : Timestamp) (ids : StartIds) (input : StartInput) :
    Prop where
  called : entry.event = .start now ids input
  executed : executes entry = true
  absent : entry.before.saga input.provisioningId = none

namespace Run

variable {history : List Committed} {store : Store} {id : Uuid} {saga : Saga}

/-- **Every saga was started by a call of the run, and follows it.** -/
theorem started (run : Run history store) (shows : Shows store id saga)
    (coherent : Coherent saga) : ∃ entry ∈ history, ∃ now ids input,
      Starts entry now ids input ∧ input.provisioningId = id ∧ saga.Follows now ids input := by
  induction run generalizing saga with
  | start => cases shows.row
  | @commit history entry earlier legal committed ih =>
    have run' : Run (history ++ entry :: []) entry.after := .commit earlier legal committed
    cases run'.fate id with
    | still untouched =>
      obtain ⟨starting, member, rest⟩ := ih (untouched.shown shows) coherent
      exact ⟨starting, List.mem_append_left _ member, rest⟩
    | @began now ids input response begun called answered names absent begins shown rendered
        reserves =>
      have executed : executes entry = true :=
        executes_of_fresh (by rw [called]; rfl) reserves.fresh
      have same := shown.unique begins.coherent shows coherent
      subst same
      refine ⟨entry, List.mem_append_right _ List.mem_cons_self, now, ids, input,
        ⟨called, executed, ?_⟩, names, begins.follows⟩
      rw [names]
      exact absent
    | moved shown coherent' step shown' cause =>
      have same := shown'.unique (step.coherent coherent') shows coherent
      subst same
      obtain ⟨starting, member, now, ids, input, starts, names, follows⟩ := ih shown coherent'
      exact ⟨starting, List.mem_append_left _ member, now, ids, input, starts, names,
        step.follows follows⟩

/-- An effect of the store belongs to a saga that is shown. -/
theorem owner (run : Run history store) {effect : EffectRow}
    (member : effect ∈ store.effects.rows) :
    ∃ saga, Shows store effect.provisioningId saga ∧ Coherent saga ∧ effect ∈ saga.effects := by
  obtain ⟨row, found⟩ := Option.isSome_iff_exists.mp (run.holds.owned.effects effect member)
  obtain ⟨saga, -, shows, coherent⟩ := run.shows found
  refine ⟨saga, shows, coherent, ?_⟩
  rw [← shows.effects, Store.mem_effectsOf]
  exact ⟨Store.effect_found.mpr ⟨member, rfl⟩, rfl⟩

/-- **Every effect has the downstream key of its saga, kind and ordinal.** -/
theorem keyed (run : Run history store) {effect : EffectRow}
    (member : effect ∈ store.effects.rows) : effect.Keyed := by
  obtain ⟨saga, shows, coherent, inside⟩ := run.owner member
  obtain ⟨_, -, _, _, _, -, -, planned⟩ := run.started shows coherent
  exact planned.keyed effect inside

end Run

end OrganizationProvisioning
