/-
**Transaction programs and their atomic meaning.**

A `Tx` is a program that asks a database statements one at a time and ends by committing a value
or by rolling back with an error. An `Engine` says what a statement answers on a store, which row
versions it writes and when a constraint refuses it.

* `Commits program store value store'` — run alone from `store`, the program can commit `value`
  and leave `store'`. `Aborts program store error` — it can roll back with `error`; a rollback
  leaves the store as it was, so no store is named.
* `commits_bind`, `aborts_bind` — how the two meanings compose.
* `commits_respects`, `commits_keeps` — a relation or an invariant that every statement keeps, every
  commit keeps.
* `Leaves` — the errors a program can end in; `aborts_leaves` — a rollback is one of them, or a
  refused statement. `Avoids` — an error neither the program nor a refused statement ends in.
* `run` — the same for an engine whose answers are computed; `commits_of_run`, `aborts_of_run`
  carry a computed run to the two relations.
-/
import Mathlib.Logic.Basic

namespace Transactional

/-- A transaction: statements asked one at a time, then a commit or a rollback. -/
inductive Tx (Op : Type) (Answer : Op → Type) (ε α : Type) : Type
  | pure (value : α)
  | abort (error : ε)
  | query (op : Op) (next : Answer op → Tx Op Answer ε α)

namespace Tx

variable {Op : Type} {Answer : Op → Type} {ε α β : Type}

/-- Run one program, then the program its value selects. -/
def bind : Tx Op Answer ε α → (α → Tx Op Answer ε β) → Tx Op Answer ε β
  | .pure value, rest => rest value
  | .abort error, _ => .abort error
  | .query op next, rest => .query op fun answer => (next answer).bind rest

instance : Monad (Tx Op Answer ε) where
  pure := .pure
  bind := bind

/-- Ask one statement. -/
def perform (op : Op) : Tx Op Answer ε (Answer op) := .query op .pure

@[simp] theorem pure_eq (value : α) : (Pure.pure value : Tx Op Answer ε α) = .pure value := rfl

@[simp] theorem bind_eq (program : Tx Op Answer ε α) (rest : α → Tx Op Answer ε β) :
    program >>= rest = program.bind rest := rfl

@[simp] theorem pure_bind (value : α) (rest : α → Tx Op Answer ε β) :
    (Tx.pure value).bind rest = rest value := rfl

@[simp] theorem abort_bind (error : ε) (rest : α → Tx Op Answer ε β) :
    (Tx.abort error).bind rest = .abort error := rfl

@[simp] theorem query_bind (op : Op) (next : Answer op → Tx Op Answer ε α)
    (rest : α → Tx Op Answer ε β) :
    (Tx.query op next).bind rest = .query op fun answer => (next answer).bind rest := rfl

end Tx

/-- What statements mean on a store. -/
structure Engine (Op : Type) (Answer : Op → Type) (ε Store Image : Type) where
  /-- The answers a statement may give. -/
  answers : (op : Op) → Store → Answer op → Prop
  /-- The row versions it writes. -/
  images : (op : Op) → Store → Answer op → List Image
  /-- Install one row version. -/
  apply : Image → Store → Store
  /-- A constraint of the schema rejects what the statement would write. -/
  refuses : Op → Store → Prop
  /-- The error of a rejected statement. -/
  failure : Op → ε

namespace Engine

variable {Op : Type} {Answer : Op → Type} {ε Store Image α β : Type}
  (engine : Engine Op Answer ε Store Image)

/-- Install row versions in order. -/
def install (images : List Image) (store : Store) : Store :=
  images.foldl (fun store image => engine.apply image store) store

/-- The store after one statement. -/
def after (op : Op) (store : Store) (answer : Answer op) : Store :=
  engine.install (engine.images op store answer) store

@[simp] theorem install_nil (store : Store) : engine.install [] store = store := rfl

@[simp] theorem install_cons (image : Image) (images : List Image) (store : Store) :
    engine.install (image :: images) store = engine.install images (engine.apply image store) := rfl

theorem install_append (first second : List Image) (store : Store) :
    engine.install (first ++ second) store = engine.install second (engine.install first store) :=
  List.foldl_append

/-- **Committing.** Alone on `store`, the program can commit a value and leave a store. -/
def Commits : Tx Op Answer ε α → Store → α → Store → Prop
  | .pure value, store, result, final => result = value ∧ final = store
  | .abort _, _, _, _ => False
  | .query op next, store, result, final => ¬ engine.refuses op store ∧
      ∃ answer, engine.answers op store answer ∧
        Commits (next answer) (engine.after op store answer) result final

/-- **Rolling back.** Alone on `store`, the program can end in an error. -/
def Aborts : Tx Op Answer ε α → Store → ε → Prop
  | .pure _, _, _ => False
  | .abort error, _, result => result = error
  | .query op next, store, result =>
      (engine.refuses op store ∧ result = engine.failure op) ∨
        (¬ engine.refuses op store ∧ ∃ answer, engine.answers op store answer ∧
          Aborts (next answer) (engine.after op store answer) result)

@[simp] theorem commits_pure {value result : α} {store final : Store} :
    engine.Commits (.pure value : Tx Op Answer ε α) store result final ↔
      result = value ∧ final = store := Iff.rfl

@[simp] theorem commits_abort {error : ε} {result : α} {store final : Store} :
    engine.Commits (.abort error : Tx Op Answer ε α) store result final ↔ False := Iff.rfl

@[simp] theorem aborts_pure {value : α} {error : ε} {store : Store} :
    engine.Aborts (.pure value : Tx Op Answer ε α) store error ↔ False := Iff.rfl

@[simp] theorem aborts_abort {error result : ε} {store : Store} :
    engine.Aborts (.abort error : Tx Op Answer ε α) store result ↔ result = error := Iff.rfl

theorem commits_query {op : Op} {next : Answer op → Tx Op Answer ε α} {store final : Store}
    {result : α} : engine.Commits (.query op next) store result final ↔
      ¬ engine.refuses op store ∧ ∃ answer, engine.answers op store answer ∧
        engine.Commits (next answer) (engine.after op store answer) result final := Iff.rfl

theorem aborts_query {op : Op} {next : Answer op → Tx Op Answer ε α} {store : Store}
    {error : ε} : engine.Aborts (.query op next) store error ↔
      (engine.refuses op store ∧ error = engine.failure op) ∨
        (¬ engine.refuses op store ∧ ∃ answer, engine.answers op store answer ∧
          engine.Aborts (next answer) (engine.after op store answer) error) := Iff.rfl

theorem commits_perform {op : Op} {store final : Store} {result : Answer op} :
    engine.Commits (Tx.perform op) store result final ↔
      ¬ engine.refuses op store ∧ engine.answers op store result ∧
        final = engine.after op store result := by
  unfold Tx.perform
  rw [commits_query]
  constructor
  · rintro ⟨admitted, answer, answered, rfl, rfl⟩
    exact ⟨admitted, answered, rfl⟩
  · rintro ⟨admitted, answered, rfl⟩
    exact ⟨admitted, result, answered, rfl, rfl⟩

/-- **A sequence commits by committing both parts.** -/
theorem commits_bind {program : Tx Op Answer ε α} {rest : α → Tx Op Answer ε β}
    {store final : Store} {result : β} :
    engine.Commits (program.bind rest) store result final ↔
      ∃ value middle, engine.Commits program store value middle ∧
        engine.Commits (rest value) middle result final := by
  induction program generalizing store with
  | pure value =>
    constructor
    · exact fun done => ⟨value, store, ⟨rfl, rfl⟩, done⟩
    · rintro ⟨_, _, ⟨rfl, rfl⟩, done⟩
      exact done
  | abort error =>
    constructor
    · exact fun impossible => impossible.elim
    · rintro ⟨_, _, impossible, _⟩
      exact impossible
  | query op next ih =>
    rw [Tx.query_bind, commits_query]
    simp only [ih, commits_query]
    constructor
    · rintro ⟨admitted, answer, answered, value, middle, first, second⟩
      exact ⟨value, middle, ⟨admitted, answer, answered, first⟩, second⟩
    · rintro ⟨value, middle, ⟨admitted, answer, answered, first⟩, second⟩
      exact ⟨admitted, answer, answered, value, middle, first, second⟩

/-- A sequence can commit after its first part did. -/
theorem exists_commits_bind {program : Tx Op Answer ε α} {rest : α → Tx Op Answer ε β}
    {store middle : Store} {value : α} (first : engine.Commits program store value middle)
    (second : ∃ result final, engine.Commits (rest value) middle result final) :
    ∃ result final, engine.Commits (program.bind rest) store result final := by
  obtain ⟨result, final, committed⟩ := second
  exact ⟨result, final, engine.commits_bind.mpr ⟨value, middle, first, committed⟩⟩

/-- **A sequence rolls back in one of its parts.** -/
theorem aborts_bind {program : Tx Op Answer ε α} {rest : α → Tx Op Answer ε β}
    {store : Store} {error : ε} :
    engine.Aborts (program.bind rest) store error ↔ engine.Aborts program store error ∨
      ∃ value middle, engine.Commits program store value middle ∧
        engine.Aborts (rest value) middle error := by
  induction program generalizing store with
  | pure value =>
    constructor
    · exact fun failed => Or.inr ⟨value, store, ⟨rfl, rfl⟩, failed⟩
    · rintro (impossible | ⟨_, _, ⟨rfl, rfl⟩, failed⟩)
      · exact impossible.elim
      · exact failed
  | abort first =>
    constructor
    · exact Or.inl
    · rintro (failed | ⟨_, _, impossible, _⟩)
      · exact failed
      · exact impossible.elim
  | query op next ih =>
    rw [Tx.query_bind, aborts_query]
    simp only [ih, commits_query, aborts_query]
    constructor
    · rintro (refused | ⟨admitted, answer, answered, failed | ⟨value, middle, first, failed⟩⟩)
      · exact Or.inl (Or.inl refused)
      · exact Or.inl (Or.inr ⟨admitted, answer, answered, failed⟩)
      · exact Or.inr ⟨value, middle, ⟨admitted, answer, answered, first⟩, failed⟩
    · rintro ((refused | ⟨admitted, answer, answered, failed⟩) |
        ⟨value, middle, ⟨admitted, answer, answered, first⟩, failed⟩)
      · exact Or.inl refused
      · exact Or.inr ⟨admitted, answer, answered, Or.inl failed⟩
      · exact Or.inr ⟨admitted, answer, answered, Or.inr ⟨value, middle, first, failed⟩⟩

/-- A program whose result is only renamed fails as it does. -/
theorem aborts_map {program : Tx Op Answer ε α} {rename : α → β} {store : Store} {error : ε} :
    engine.Aborts (program.bind fun value => .pure (rename value)) store error ↔
      engine.Aborts program store error :=
  engine.aborts_bind.trans (or_iff_left fun ⟨_, _, _, impossible⟩ => impossible)

/-- **What every statement respects, every commit respects.** -/
theorem commits_respects (Rel : Store → Store → Prop) (same : ∀ store, Rel store store)
    (trans : ∀ {first second third : Store}, Rel first second → Rel second third → Rel first third)
    (statement : ∀ op store answer, ¬ engine.refuses op store → engine.answers op store answer →
      Rel store (engine.after op store answer))
    {program : Tx Op Answer ε α} {store final : Store} {result : α}
    (committed : engine.Commits program store result final) : Rel store final := by
  induction program generalizing store with
  | pure value =>
    rw [committed.2]
    exact same store
  | abort error => exact committed.elim
  | query op next ih =>
    obtain ⟨admitted, answer, answered, rest⟩ := committed
    exact trans (statement op store answer admitted answered) (ih answer rest)

/-- **What every statement keeps, every commit keeps.** -/
theorem commits_keeps (Inv : Store → Prop)
    (statement : ∀ op store answer, ¬ engine.refuses op store → engine.answers op store answer →
      Inv store → Inv (engine.after op store answer))
    {program : Tx Op Answer ε α} {store final : Store} {result : α}
    (committed : engine.Commits program store result final) (holds : Inv store) : Inv final :=
  engine.commits_respects (fun before after => Inv before → Inv after) (fun _ => id)
    (fun first second => second ∘ first) statement committed holds

/-- What every row version keeps where it is admitted, a list of admitted versions keeps. -/
theorem install_admitted (Good : Image → Store → Prop) (Inv : Store → Prop)
    (lasts : ∀ image other store, Good image store → Good image (engine.apply other store))
    (keeps : ∀ image store, Good image store → Inv store → Inv (engine.apply image store))
    {images : List Image} {store : Store} (good : ∀ image ∈ images, Good image store)
    (holds : Inv store) : Inv (engine.install images store) := by
  induction images generalizing store with
  | nil => exact holds
  | cons first images ih =>
    refine ih (fun image member => ?_) (keeps first store (good first List.mem_cons_self) holds)
    exact lasts image first store (good image (List.mem_cons_of_mem _ member))

/-- **What every admitted row version keeps, every commit keeps**, where admission is not lost by
installing other row versions. -/
theorem commits_admitted (Good : Image → Store → Prop) (Inv : Store → Prop)
    (admitted : ∀ op store answer, ¬ engine.refuses op store → engine.answers op store answer →
      ∀ image ∈ engine.images op store answer, Good image store)
    (lasts : ∀ image other store, Good image store → Good image (engine.apply other store))
    (keeps : ∀ image store, Good image store → Inv store → Inv (engine.apply image store))
    {program : Tx Op Answer ε α} {store final : Store} {result : α}
    (committed : engine.Commits program store result final) (holds : Inv store) : Inv final :=
  engine.commits_keeps Inv (fun op store answer accepted answered =>
    engine.install_admitted Good Inv lasts keeps (admitted op store answer accepted answered))
    committed holds

/-- **What every row version respects, every commit respects.** -/
theorem commits_images (Rel : Store → Store → Prop) (same : ∀ store, Rel store store)
    (trans : ∀ {first second third : Store}, Rel first second → Rel second third → Rel first third)
    (image : ∀ image store, Rel store (engine.apply image store))
    {program : Tx Op Answer ε α} {store final : Store} {result : α}
    (committed : engine.Commits program store result final) : Rel store final :=
  engine.commits_admitted (fun _ _ => True) (Rel store)
    (fun _ _ _ _ _ _ _ => trivial) (fun _ _ _ _ => trivial)
    (fun version middle _ sofar => trans sofar (image version middle)) committed (same store)

/-! ### How programs end -/

/-- Every error a program can end in by its own decision satisfies `P`. -/
inductive Leaves (P : ε → Prop) {α : Type} : Tx Op Answer ε α → Prop
  | pure (value : α) : Leaves P (.pure value)
  | abort {error : ε} (holds : P error) : Leaves P (.abort error)
  | query {op : Op} {next : Answer op → Tx Op Answer ε α}
      (rest : ∀ answer, Leaves P (next answer)) : Leaves P (.query op next)

namespace Leaves

variable {P : ε → Prop}

theorem perform (op : Op) : Leaves P (Tx.perform op : Tx Op Answer ε (Answer op)) :=
  .query fun answer => .pure answer

theorem bind {program : Tx Op Answer ε α} {rest : α → Tx Op Answer ε β}
    (first : Leaves P program) (second : ∀ value, Leaves P (rest value)) :
    Leaves P (program.bind rest) := by
  induction first with
  | pure value => exact second value
  | abort holds => exact .abort holds
  | query _ ih => exact .query ih

end Leaves

/-- **A rollback is an error of the program or a refused statement.** -/
theorem aborts_leaves {P : ε → Prop} {program : Tx Op Answer ε α} (leaves : Leaves P program)
    {store : Store} {error : ε} (failed : engine.Aborts program store error) :
    P error ∨ ∃ op, error = engine.failure op := by
  induction leaves generalizing store with
  | pure value => exact failed.elim
  | abort holds =>
    rw [show error = _ from failed]
    exact Or.inl holds
  | @query op next _ ih =>
    rcases failed with ⟨-, same⟩ | ⟨-, answer, -, rest⟩
    · exact Or.inr ⟨op, same⟩
    · exact ih answer rest

/-- Neither the program nor a refused statement of it ends in the error. -/
inductive Avoids (error : ε) {α : Type} : Tx Op Answer ε α → Prop
  | pure (value : α) : Avoids error (.pure value)
  | abort {other : ε} (differs : other ≠ error) : Avoids error (.abort other)
  | query {op : Op} {next : Answer op → Tx Op Answer ε α} (differs : engine.failure op ≠ error)
      (rest : ∀ answer, Avoids error (next answer)) : Avoids error (.query op next)

namespace Avoids

variable {engine} {error : ε}

theorem perform {op : Op} (differs : engine.failure op ≠ error) :
    engine.Avoids error (Tx.perform op : Tx Op Answer ε (Answer op)) :=
  .query differs fun answer => .pure answer

theorem bind {program : Tx Op Answer ε α} {rest : α → Tx Op Answer ε β}
    (first : engine.Avoids error program) (second : ∀ value, engine.Avoids error (rest value)) :
    engine.Avoids error (program.bind rest) := by
  induction first with
  | pure value => exact second value
  | abort differs => exact .abort differs
  | query differs _ ih => exact .query differs ih

/-- **Such a program does not roll back with the error.** -/
theorem not_aborts {program : Tx Op Answer ε α} (avoids : engine.Avoids error program)
    {store : Store} : ¬ engine.Aborts program store error := by
  induction avoids generalizing store with
  | pure value => exact fun impossible => impossible
  | abort differs => exact fun same => differs same.symm
  | query differs _ ih =>
    rintro (⟨-, same⟩ | ⟨-, answer, -, failed⟩)
    · exact differs same.symm
    · exact ih answer failed

end Avoids

/-! ### Computed runs -/

section Run

variable [∀ op store, Decidable (engine.refuses op store)]
  (answer : (op : Op) → Store → Answer op)

/-- The run whose answers are computed by `answer`. -/
def run : Tx Op Answer ε α → Store → Except ε (α × Store)
  | .pure value, store => .ok (value, store)
  | .abort error, _ => .error error
  | .query op next, store =>
      if engine.refuses op store then .error (engine.failure op)
      else run (next (answer op store)) (engine.after op store (answer op store))

variable {answer}

theorem commits_of_run (sound : ∀ op store, engine.answers op store (answer op store))
    {program : Tx Op Answer ε α} {store final : Store} {result : α}
    (ran : engine.run answer program store = .ok (result, final)) :
    engine.Commits program store result final := by
  induction program generalizing store with
  | pure value =>
    cases ran
    exact ⟨rfl, rfl⟩
  | abort error => cases ran
  | query op next ih =>
    rw [run] at ran
    split at ran
    · cases ran
    · exact ⟨‹_›, answer op store, sound op store, ih _ ran⟩

theorem aborts_of_run (sound : ∀ op store, engine.answers op store (answer op store))
    {program : Tx Op Answer ε α} {store : Store} {error : ε}
    (ran : engine.run answer program store = .error error) :
    engine.Aborts program store error := by
  induction program generalizing store with
  | pure value => cases ran
  | abort other =>
    cases ran
    exact rfl
  | query op next ih =>
    rw [run] at ran
    split at ran
    · cases ran
      exact Or.inl ⟨‹_›, rfl⟩
    · exact Or.inr ⟨‹_›, answer op store, sound op store, ih _ ran⟩

end Run

end Engine

end Transactional
