/-
**Programs whose statements no constraint refuses.**

* `Admitted program store` — run alone from `store`, the program never sends a statement that is
  refused, whatever the answers.
* `admitted_bind` — a sequence is admitted where both parts are.
* `aborts_admitted` — an admitted program rolls back by its own decision only; `not_aborts_bind` — how a
  sequence avoids an error.
* `commits_or_aborts` — a program that always gets an answer ends.
-/
import OrganizationProvisioning.Library.Transaction

namespace Transactional.Engine

variable {Op : Type} {Answer : Op → Type} {ε Store Image α β : Type}
  (engine : Engine Op Answer ε Store Image)

/-- **No statement is refused**, wherever the program leads. -/
def Admitted : Tx Op Answer ε α → Store → Prop
  | .pure _, _ => True
  | .abort _, _ => True
  | .query op next, store => ¬ engine.refuses op store ∧
      ∀ answer, engine.answers op store answer →
        Admitted (next answer) (engine.after op store answer)

@[simp] theorem admitted_pure (value : α) (store : Store) :
    engine.Admitted (.pure value : Tx Op Answer ε α) store := trivial

@[simp] theorem admitted_abort (error : ε) (store : Store) :
    engine.Admitted (.abort error : Tx Op Answer ε α) store := trivial

theorem admitted_query {op : Op} {next : Answer op → Tx Op Answer ε α} {store : Store} :
    engine.Admitted (.query op next) store ↔ ¬ engine.refuses op store ∧
      ∀ answer, engine.answers op store answer →
        engine.Admitted (next answer) (engine.after op store answer) := Iff.rfl

theorem admitted_perform {op : Op} {store : Store} :
    engine.Admitted (Tx.perform op : Tx Op Answer ε (Answer op)) store ↔
      ¬ engine.refuses op store := by
  unfold Tx.perform
  rw [admitted_query]
  exact and_iff_left fun answer _ => trivial

/-- **A sequence is admitted where both parts are.** -/
theorem admitted_bind {program : Tx Op Answer ε α} {rest : α → Tx Op Answer ε β} {store : Store} :
    engine.Admitted (program.bind rest) store ↔ engine.Admitted program store ∧
      ∀ value middle, engine.Commits program store value middle →
        engine.Admitted (rest value) middle := by
  induction program generalizing store with
  | pure value =>
    constructor
    · intro admitted
      refine ⟨trivial, ?_⟩
      rintro _ _ ⟨rfl, rfl⟩
      exact admitted
    · rintro ⟨-, others⟩
      exact others value store ⟨rfl, rfl⟩
  | abort error =>
    constructor
    · intro _
      exact ⟨trivial, fun _ _ impossible => impossible.elim⟩
    · intro _
      trivial
  | query op next ih =>
    rw [Tx.query_bind, admitted_query, admitted_query]
    simp only [ih, commits_query]
    constructor
    · rintro ⟨accepted, both⟩
      refine ⟨⟨accepted, fun answer answered => (both answer answered).1⟩, ?_⟩
      rintro value middle ⟨-, answer, answered, first⟩
      exact (both answer answered).2 value middle first
    · rintro ⟨⟨accepted, firsts⟩, others⟩
      refine ⟨accepted, fun answer answered => ⟨firsts answer answered, ?_⟩⟩
      intro value middle first
      exact others value middle ⟨accepted, answer, answered, first⟩

/-- **An admitted program rolls back by its own decision only.** -/
theorem aborts_admitted {P : ε → Prop} {program : Tx Op Answer ε α} (leaves : Leaves P program)
    {store : Store} (admitted : engine.Admitted program store) {error : ε}
    (failed : engine.Aborts program store error) : P error := by
  induction leaves generalizing store with
  | pure value => exact failed.elim
  | abort holds =>
    rw [show error = _ from failed]
    exact holds
  | query _ ih =>
    obtain ⟨accepted, others⟩ := admitted
    rcases failed with ⟨refused, -⟩ | ⟨-, answer, answered, rest⟩
    · exact absurd refused accepted
    · exact ih answer (others answer answered) rest

/-- A weaker bound on the errors of a program. -/
theorem Leaves.mono {P Q : ε → Prop} {program : Tx Op Answer ε α} (leaves : Leaves P program)
    (weaker : ∀ error, P error → Q error) : Leaves Q program := by
  induction leaves with
  | pure value => exact .pure value
  | abort holds => exact .abort (weaker _ holds)
  | query _ ih => exact .query ih

/-- **A sequence avoids an error where both parts do.** -/
theorem not_aborts_bind {program : Tx Op Answer ε α} {rest : α → Tx Op Answer ε β} {store : Store}
    {error : ε} (first : ¬ engine.Aborts program store error)
    (second : ∀ value middle, engine.Commits program store value middle →
      ¬ engine.Aborts (rest value) middle error) :
    ¬ engine.Aborts (program.bind rest) store error := by
  rw [engine.aborts_bind]
  rintro (failed | ⟨value, middle, committed, failed⟩)
  · exact first failed
  · exact second value middle committed failed

/-! ### Programs end -/

section Ends

variable {engine}

/-- **A program that always gets an answer ends.** -/
theorem commits_or_aborts (answered : ∀ op store, ∃ answer, engine.answers op store answer)
    (program : Tx Op Answer ε α) (store : Store) :
    (∃ result final, engine.Commits program store result final) ∨
      ∃ error, engine.Aborts program store error := by
  induction program generalizing store with
  | pure value => exact Or.inl ⟨value, store, rfl, rfl⟩
  | abort error => exact Or.inr ⟨error, rfl⟩
  | query op next ih =>
    by_cases refused : engine.refuses op store
    · exact Or.inr ⟨engine.failure op, Or.inl ⟨refused, rfl⟩⟩
    · obtain ⟨answer, here⟩ := answered op store
      rcases ih answer (engine.after op store answer) with ⟨result, final, rest⟩ | ⟨error, rest⟩
      · exact Or.inl ⟨result, final, refused, answer, here, rest⟩
      · exact Or.inr ⟨error, Or.inr ⟨refused, answer, here, rest⟩⟩

end Ends

end Transactional.Engine
