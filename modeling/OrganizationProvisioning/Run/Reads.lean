/-
**What `get` can see.**

`get` reads the saga and its effects by two statements and takes no lock, so other transactions may
commit before, between and after them.

* `observes_get` — the view is rendered from the saga of one commit and the effects of a later one.
-/
import OrganizationProvisioning.Run.Keys

namespace OrganizationProvisioning

open Relational Transactional Worklist

/-- **A call of `get`** whose first statement sees the commits of `past`, and its second those of
`later` too. -/
structure Got (past later : List Committed) (first second : Store) (id : Uuid) (actor : String)
    (view : ProvisioningView) : Prop where
  read : Run past first
  reread : Run (past ++ later) second
  rendered : ∃ row, first.saga id = some row ∧ row.requestedBy = actor ∧
    renderView row (second.stepsOf id) = some view

section Get

variable {history last : List Committed} {id : Uuid} {actor : String} {view : ProvisioningView}

/-- **The two statements of `get`.** -/
theorem observes_get : Observes provisioning (get id actor) history (some view) last ↔
    ∃ between later first second, last = history ++ between ++ later ∧
      Got (history ++ between) later first second id actor view := by
  unfold get loadView exec
  simp only [Tx.bind_eq, Tx.pure_eq, Observes.bind_iff, Observes.perform_iff]
  constructor
  · rintro ⟨found, middle, ⟨between, first, rfl, reached, answered⟩, rest⟩
    have found_eq : found = (first.saga id).filter fun row => row.requestedBy = actor := answered
    cases shown : (first.saga id).filter fun row => decide (row.requestedBy = actor) with
    | none =>
      rw [found_eq, shown] at rest
      exact absurd (Observes.pure_iff.mp rest).1 (by simp)
    | some row =>
      rw [found_eq, shown] at rest
      simp only [Observes.bind_iff, Observes.perform_iff] at rest
      obtain ⟨rows, _, ⟨later, second, rfl, reached', rows_eq⟩, loaded, _, expected, done⟩ := rest
      obtain ⟨same, rfl⟩ := Observes.pure_iff.mp done
      cases rendered : renderView row rows with
      | none =>
        rw [rendered] at expected
        exact (Observes.not_abort expected).elim
      | some rendering =>
        rw [rendered] at expected
        obtain ⟨rfl, rfl⟩ := Observes.pure_iff.mp expected
        cases same
        obtain ⟨present, owner⟩ := Option.filter_eq_some_iff.mp shown
        refine ⟨between, later, first, second, rfl, reached, reached', row, present,
          of_decide_eq_true owner, ?_⟩
        have selected : rows = orderBy phaseOrder ((second.effectsOf id).filter fun _ => true) :=
          rows_eq
        rw [filter_all] at selected
        rw [Store.stepsOf, ← selected]
        exact rendered
  · rintro ⟨between, later, first, second, rfl, reached, reached', row, present, owner, rendered⟩
    refine ⟨some row, _, ⟨between, first, rfl, reached, ?_⟩, ?_⟩
    · show some row = (first.saga id).filter fun row => row.requestedBy = actor
      rw [present, Option.filter_some, if_pos (decide_eq_true owner)]
    · simp only [Observes.bind_iff, Observes.perform_iff]
      refine ⟨second.stepsOf id, _, ⟨later, second, rfl, reached', ?_⟩, view, _, ?_, .done _ _⟩
      · show second.stepsOf id = orderBy phaseOrder ((second.effectsOf id).filter fun _ => true)
        rw [filter_all, Store.stepsOf]
      · rw [rendered]
        exact .done _ _

end Get

end OrganizationProvisioning
