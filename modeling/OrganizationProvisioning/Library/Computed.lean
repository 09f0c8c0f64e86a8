/-
**Programs whose answers are computed.**

* `run_commits` — the computed run of a program that cannot roll back commits.
* `run_bind`, `run_perform` — how computed runs compose.
* `Asks` — every statement of a program satisfies a predicate; `asks_keeps` — what every statement keeps, the
  commit keeps.
* `commits_iff_run`, `aborts_iff_run` — where every statement has one answer, committing is running, and
  rolling back is failing.
-/
import OrganizationProvisioning.Library.Transaction

namespace Transactional

variable {Op : Type} {Answer : Op → Type} {ε Store Image α β : Type}

/-- Every statement of the program satisfies `P`, whatever the answers. -/
inductive Asks (P : Op → Prop) {α : Type} : Tx Op Answer ε α → Prop
  | pure (value : α) : Asks P (.pure value)
  | abort (error : ε) : Asks P (.abort error)
  | query {op : Op} {next : Answer op → Tx Op Answer ε α} (holds : P op)
      (rest : ∀ answer, Asks P (next answer)) : Asks P (.query op next)

namespace Asks

variable {P : Op → Prop}

theorem perform {op : Op} (holds : P op) :
    Asks P (Tx.perform op : Tx Op Answer ε (Answer op)) :=
  .query holds fun answer => .pure answer

theorem bind {program : Tx Op Answer ε α} {rest : α → Tx Op Answer ε β}
    (first : Asks P program) (second : ∀ value, Asks P (rest value)) :
    Asks P (program.bind rest) := by
  induction first with
  | pure value => exact second value
  | abort error => exact .abort error
  | query holds _ ih => exact .query holds ih

end Asks

namespace Engine

variable (engine : Engine Op Answer ε Store Image)

section Run

variable [∀ op store, Decidable (engine.refuses op store)] {answer : (op : Op) → Store → Answer op}

/-- The computed run of a program that cannot roll back commits. -/
theorem run_commits (sound : ∀ op store, engine.answers op store (answer op store))
    {program : Tx Op Answer ε α} {store : Store}
    (safe : ∀ error, ¬ engine.Aborts program store error) :
    ∃ result final, engine.run answer program store = .ok (result, final) := by
  cases ran : engine.run answer program store with
  | ok pair => exact ⟨pair.1, pair.2, rfl⟩
  | error error => exact absurd (aborts_of_run engine sound ran) (safe error)

/-- **A sequence runs one part after the other.** -/
theorem run_bind (program : Tx Op Answer ε α)
    (rest : α → Tx Op Answer ε β) (store : Store) :
    engine.run answer (program.bind rest) store =
      (engine.run answer program store).bind fun pair => engine.run answer (rest pair.1) pair.2 := by
  induction program generalizing store with
  | pure value => rfl
  | abort error => rfl
  | query op next ih =>
    rw [Tx.query_bind, run, run]
    split
    · rfl
    · exact ih _ _

/-- One statement that is not refused gives the computed answer. -/
theorem run_perform {op : Op} {store : Store}
    (accepted : ¬ engine.refuses op store) :
    engine.run answer (Tx.perform op : Tx Op Answer ε (Answer op)) store =
      .ok (answer op store, engine.after op store (answer op store)) := by
  unfold Tx.perform
  rw [run, if_neg accepted]
  rfl

/-- **Committing is running**, where every statement has one answer. -/
theorem commits_iff_run {P : Op → Prop}
    (one : ∀ op, P op → ∀ store result, engine.answers op store result ↔ result = answer op store)
    {program : Tx Op Answer ε α} (asks : Asks P program) {store final : Store} {result : α} :
    engine.Commits program store result final ↔
      engine.run answer program store = .ok (result, final) := by
  induction asks generalizing store with
  | pure value =>
    rw [commits_pure, run, Except.ok.injEq, Prod.mk.injEq, eq_comm, @eq_comm _ final]
  | abort error =>
    rw [commits_abort, run]
    exact ⟨fun impossible => impossible.elim, fun impossible => by cases impossible⟩
  | @query op next holds _ ih =>
    rw [commits_query, run]
    by_cases refused : engine.refuses op store
    · rw [if_pos refused]
      exact ⟨fun accepted => absurd refused accepted.1, fun impossible => by cases impossible⟩
    · rw [if_neg refused, ← ih]
      constructor
      · rintro ⟨-, found, given, rest⟩
        rw [(one op holds store found).mp given] at rest
        exact rest
      · exact fun rest => ⟨refused, _, (one op holds store _).mpr rfl, rest⟩

/-- **Rolling back is failing**, where every statement has one answer. -/
theorem aborts_iff_run {P : Op → Prop}
    (one : ∀ op, P op → ∀ store result, engine.answers op store result ↔ result = answer op store)
    {program : Tx Op Answer ε α} (asks : Asks P program) {store : Store} {error : ε} :
    engine.Aborts program store error ↔ engine.run answer program store = .error error := by
  induction asks generalizing store with
  | pure value =>
    rw [aborts_pure, run]
    exact ⟨fun impossible => impossible.elim, fun impossible => by cases impossible⟩
  | abort other => rw [aborts_abort, run, Except.error.injEq, eq_comm]
  | @query op next holds _ ih =>
    rw [aborts_query, run]
    by_cases refused : engine.refuses op store
    · rw [if_pos refused, Except.error.injEq, eq_comm]
      exact ⟨fun failed => failed.elim And.right fun other => absurd refused other.1,
        fun same => Or.inl ⟨refused, same⟩⟩
    · rw [if_neg refused, ← ih]
      constructor
      · rintro (⟨impossible, -⟩ | ⟨-, found, given, rest⟩)
        · exact absurd impossible refused
        · rw [(one op holds store found).mp given] at rest
          exact rest
      · exact fun rest => Or.inr ⟨refused, _, (one op holds store _).mpr rfl, rest⟩

end Run

/-- **What every statement of a program keeps, its commit keeps.** -/
theorem asks_keeps {P : Op → Prop} (Inv : Store → Prop)
    (statement : ∀ op, P op → ∀ store result, Inv store → Inv (engine.after op store result))
    {program : Tx Op Answer ε α} (asks : Asks P program) {store final : Store} {result : α}
    (committed : engine.Commits program store result final) (holds : Inv store) : Inv final := by
  induction asks generalizing store with
  | pure value =>
    rw [committed.2]
    exact holds
  | abort error => exact committed.elim
  | query allowed _ ih =>
    obtain ⟨-, answer, -, rest⟩ := committed
    exact ih answer rest (statement _ allowed store answer holds)

end Engine

end Transactional
