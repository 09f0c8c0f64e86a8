/-
**Serial histories of committed transactions.**

A history lists what committed, oldest first: the event that asked for a transaction, the store it
ran on, its reply and the store it left. An event may depend on the history before it (`legal`).

* `Serial.commit_of_mem` — every entry of a history is a legal commit on the store its prefix leads to.
* `Serial.reaches` — the store after an entry is that of a prefix; `Serial.compare` — of two entries one
  runs on a store the other's leads to.
* `Serial.invariant` — what the first store satisfies and every entry keeps holds in every store.
* `Serial.later` — what every entry keeps, from one store of the history to a later one.
* `Observes` — what a program that only reads can see, beside a history, when each of its statements
  sees the latest commit.
-/
import OrganizationProvisioning.Library.Transaction
import Mathlib.Data.List.Induction

namespace Transactional

/-- One committed transaction. -/
structure Entry (Event Reply Store : Type) where
  event : Event
  before : Store
  reply : Reply
  after : Store

section Serial

variable {Op : Type} {Answer : Op → Type} {ε Store Image Event Reply : Type}

/-- A system: what events run, when they are legal, and the first store. -/
structure System (Op : Type) (Answer : Op → Type) (ε Store Image Event Reply : Type) where
  engine : Engine Op Answer ε Store Image
  program : Event → Tx Op Answer ε Reply
  legal : List (Entry Event Reply Store) → Event → Prop
  initial : Store

variable (system : System Op Answer ε Store Image Event Reply)

/-- An entry commits on its own store. -/
def System.Commit (entry : Entry Event Reply Store) : Prop :=
  system.engine.Commits (system.program entry.event) entry.before entry.reply entry.after

/-- The histories of a system, with the store each leaves. -/
inductive Serial : List (Entry Event Reply Store) → Store → Prop
  | start : Serial [] system.initial
  | commit {history : List (Entry Event Reply Store)} {entry : Entry Event Reply Store}
      (earlier : Serial history entry.before) (legal : system.legal history entry.event)
      (committed : system.Commit entry) : Serial (history ++ [entry]) entry.after

variable {system} {history past rest : List (Entry Event Reply Store)} {store : Store}
  {entry : Entry Event Reply Store}

namespace Serial

/-- A history without entries leaves the first store. -/
theorem nil_store (run : Serial system [] store) : store = system.initial := by
  generalize shape : ([] : List (Entry Event Reply Store)) = history at run
  cases run with
  | start => rfl
  | commit => simp at shape

/-- The last entry of a history. -/
theorem last (run : Serial system (history ++ [entry]) store) :
    Serial system history entry.before ∧ system.legal history entry.event ∧
      system.Commit entry ∧ store = entry.after := by
  generalize shape : history ++ [entry] = whole at run
  cases run with
  | start => simp at shape
  | commit earlier legal committed =>
    obtain ⟨rfl, same⟩ := List.append_inj' shape rfl
    cases same
    exact ⟨earlier, legal, committed, rfl⟩

/-- A history leaves one store. -/
theorem unique {other : Store} (run : Serial system history store)
    (again : Serial system history other) : store = other := by
  induction history using List.reverseRecOn with
  | nil => rw [run.nil_store, again.nil_store]
  | append_singleton history entry _ => rw [run.last.2.2.2, again.last.2.2.2]

/-- A prefix of a history is a history. -/
theorem split (run : Serial system (past ++ rest) store) : ∃ middle, Serial system past middle := by
  induction rest using List.reverseRecOn generalizing store with
  | nil => exact ⟨store, by simpa using run⟩
  | append_singleton rest entry ih =>
    rw [← List.append_assoc] at run
    exact ih run.last.1

/-- **Every entry is a legal commit on the store its prefix leads to.** -/
theorem commit_of_mem (run : Serial system (past ++ entry :: rest) store) :
    Serial system past entry.before ∧ system.legal past entry.event ∧ system.Commit entry ∧
      Serial system (past ++ [entry]) entry.after := by
  have shape : past ++ entry :: rest = (past ++ [entry]) ++ rest := by simp
  rw [shape] at run
  obtain ⟨middle, upTo⟩ := run.split
  obtain ⟨earlier, legal, committed, rfl⟩ := upTo.last
  exact ⟨earlier, legal, committed, upTo⟩

/-- The store after an entry is reached by the history up to it. -/
theorem reaches (run : Serial system (past ++ rest) store) (member : entry ∈ rest) :
    ∃ between later, rest = between ++ entry :: later ∧
      Serial system (past ++ (between ++ [entry])) entry.after := by
  obtain ⟨between, later, rfl⟩ := List.append_of_mem member
  rw [← List.append_assoc] at run
  obtain ⟨-, -, -, upTo⟩ := run.commit_of_mem
  exact ⟨between, later, rfl, by rwa [List.append_assoc] at upTo⟩

/-- **Two entries of a history are one, or one runs on a store the other's leads to.** -/
theorem compare (run : Serial system history store) {first second : Entry Event Reply Store}
    (one : first ∈ history) (two : second ∈ history) : first = second ∨
      (∃ past rest, Serial system past first.before ∧
        Serial system (past ++ rest) second.before) ∨
      ∃ past rest, Serial system past second.before ∧ Serial system (past ++ rest) first.before := by
  obtain ⟨past, rest, rfl⟩ := List.append_of_mem one
  have reached := run.commit_of_mem.1
  rcases List.mem_append.mp two with early | late
  · obtain ⟨before, between, rfl⟩ := List.append_of_mem early
    exact Or.inr (Or.inr ⟨before, second :: between, reached.commit_of_mem.1, reached⟩)
  · rcases List.mem_cons.mp late with same | after
    · exact Or.inl same.symm
    · obtain ⟨between, later, rfl⟩ := List.append_of_mem after
      have shape : past ++ first :: (between ++ second :: later) =
        (past ++ first :: between) ++ second :: later := by simp
      rw [shape] at run
      exact Or.inr (Or.inl ⟨past, first :: between, reached, run.commit_of_mem.1⟩)

/-- **An invariant holds in every store of every history.** -/
theorem invariant {Inv : List (Entry Event Reply Store) → Store → Prop}
    (initially : Inv [] system.initial)
    (keeps : ∀ history entry, Serial system history entry.before → Inv history entry.before →
      system.legal history entry.event → system.Commit entry →
        Inv (history ++ [entry]) entry.after)
    (run : Serial system history store) : Inv history store := by
  induction run with
  | start => exact initially
  | commit earlier legal committed ih => exact keeps _ _ earlier ih legal committed

/-- **From one store of a history to a later one**, along a relation that every entry of the part
between respects. -/
theorem later (Rel : List (Entry Event Reply Store) → Store → Store → Prop) {middle : Store}
    (upTo : Serial system past middle) (same : Rel [] middle middle)
    (keeps : ∀ between entry, Serial system (past ++ between) entry.before →
      Rel between middle entry.before → system.legal (past ++ between) entry.event →
        system.Commit entry → Rel (between ++ [entry]) middle entry.after)
    (run : Serial system (past ++ rest) store) : Rel rest middle store := by
  induction rest using List.reverseRecOn generalizing store with
  | nil =>
    rw [List.append_nil] at run
    rw [run.unique upTo]
    exact same
  | append_singleton rest entry ih =>
    rw [← List.append_assoc] at run
    obtain ⟨earlier, legal, committed, rfl⟩ := run.last
    exact keeps rest entry earlier (ih earlier) legal committed

end Serial

/-! ### Reading beside a history -/

variable (system) in
/-- **A program that only reads, beside the history.** Each statement sees the latest commit before
it, and other transactions may commit between the statements. -/
inductive Observes {α : Type} : Tx Op Answer ε α → List (Entry Event Reply Store) → α →
    List (Entry Event Reply Store) → Prop
  | done (value : α) (history : List (Entry Event Reply Store)) :
      Observes (.pure value) history value history
  | read {op : Op} {next : Answer op → Tx Op Answer ε α}
      {history between last : List (Entry Event Reply Store)} {store : Store} {answer : Answer op}
      {result : α} (reached : Serial system (history ++ between) store)
      (answered : system.engine.answers op store answer)
      (rest : Observes (next answer) (history ++ between) result last) :
      Observes (.query op next) history result last

namespace Observes

variable {α β : Type} {last : List (Entry Event Reply Store)}

theorem pure_iff {value result : α} :
    Observes system (.pure value) history result last ↔ result = value ∧ last = history := by
  constructor
  · intro observed
    cases observed with
    | done => exact ⟨rfl, rfl⟩
  · rintro ⟨rfl, rfl⟩
    exact .done _ _

theorem not_abort {error : ε} {result : α} :
    ¬ Observes system (.abort error) history result last := by
  intro observed
  cases observed

theorem perform_iff {op : Op} {result : Answer op} :
    Observes system (Tx.perform op) history result last ↔ ∃ between store,
      last = history ++ between ∧ Serial system last store ∧
        system.engine.answers op store result := by
  constructor
  · intro observed
    cases observed with
    | read reached answered rest =>
      obtain ⟨rfl, rfl⟩ := pure_iff.mp rest
      exact ⟨_, _, rfl, reached, answered⟩
  · rintro ⟨between, store, rfl, reached, answered⟩
    exact .read reached answered (.done _ _)

/-- **A sequence observes what its parts observe**, one after the other. -/
theorem bind_iff {program : Tx Op Answer ε α} {rest : α → Tx Op Answer ε β} {result : β} :
    Observes system (program.bind rest) history result last ↔ ∃ value middle,
      Observes system program history value middle ∧
        Observes system (rest value) middle result last := by
  constructor
  · intro observed
    induction program generalizing history with
    | pure value => exact ⟨value, history, .done _ _, observed⟩
    | abort error => exact (not_abort observed).elim
    | query op next ih =>
      cases observed with
      | read reached answered others =>
        obtain ⟨value, middle, first, second⟩ := ih _ others
        exact ⟨value, middle, .read reached answered first, second⟩
  · rintro ⟨value, middle, first, second⟩
    induction first with
    | done value history => exact second
    | read reached answered _ ih => exact .read reached answered (ih second)

end Observes

end Serial

end Transactional
