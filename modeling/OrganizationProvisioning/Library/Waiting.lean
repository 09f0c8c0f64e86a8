/-
**Who waits for whom.**

A statement waits while another transaction holds a lock it needs, whatever it would answer. Every lock
has a rank, and a transaction waits only for locks that rank above all it holds.

* `Obeys` — the statements of a program satisfy a rule about the locks held so far.
* `Configuration.Runnable`, `Configuration.Waits` — a transaction can go on; it waits for another.
* `Configuration.Runnable.step` — a transaction that can go on has a step.
* `Ranked` — **waiting respects the ranks**; `Ranked.acyclic` — then nobody waits for himself, through
  whatever others, and `Ranked.progress` — who waits, waits for somebody who can go on.
-/
import OrganizationProvisioning.Library.Locking
import Mathlib.Logic.Relation

namespace Transactional

variable {Op : Type} {Answer : Op → Type} {ε Store Image Event Reply Client Lock α β : Type}

/-! ### Rules along a program -/

section Obeys

variable (engine : Engine Op Answer ε Store Image) (takes : (op : Op) → Store → Answer op → Set Lock)
  (rule : Set Lock → (op : Op) → Store → Answer op → Prop)

/-- **Every statement of the program satisfies the rule**, with the locks held by then and the store it
meets. -/
def Obeys : Tx Op Answer ε α → Set Lock → Store → (α → Set Lock → Store → Prop) → Prop
  | .pure value, locks, store, post => post value locks store
  | .abort _, _, _, _ => True
  | .query op next, locks, store, post => ¬ engine.refuses op store → ∀ answer,
      engine.answers op store answer → rule locks op store answer ∧
        Obeys (next answer) (locks ∪ takes op store answer) (engine.after op store answer) post

variable {engine takes rule} {program : Tx Op Answer ε α} {locks : Set Lock} {store : Store}
  {post post' : α → Set Lock → Store → Prop}

namespace Obeys

theorem mono (obeys : Obeys engine takes rule program locks store post)
    (weaker : ∀ value more final, locks ⊆ more → post value more final → post' value more final) :
    Obeys engine takes rule program locks store post' := by
  induction program generalizing locks store with
  | pure value => exact weaker value locks store Set.Subset.rfl obeys
  | abort error => trivial
  | query op next ih =>
    intro accepted answer answered
    obtain ⟨ruled, rest⟩ := obeys accepted answer answered
    exact ⟨ruled, ih answer rest fun value more final larger =>
      weaker value more final (Set.subset_union_left.trans larger)⟩

/-- **A sequence obeys when its parts do.** -/
theorem bind {rest : α → Tx Op Answer ε β} {last : β → Set Lock → Store → Prop}
    (first : Obeys engine takes rule program locks store fun value more middle =>
      Obeys engine takes rule (rest value) more middle last) :
    Obeys engine takes rule (program.bind rest) locks store last := by
  induction program generalizing locks store with
  | pure value => exact first
  | abort error => trivial
  | query op next ih =>
    intro accepted answer answered
    obtain ⟨ruled, others⟩ := first accepted answer answered
    exact ⟨ruled, ih answer others⟩

/-- A sequence whose second part obeys wherever the first ends. -/
theorem andThen {rest : α → Tx Op Answer ε β} {last : β → Set Lock → Store → Prop}
    (first : Obeys engine takes rule program locks store post)
    (second : ∀ value more middle, locks ⊆ more → post value more middle →
      Obeys engine takes rule (rest value) more middle last) :
    Obeys engine takes rule (program.bind rest) locks store last :=
  .bind (first.mono second)

/-- **What every statement keeps holds at the end.** -/
theorem keeps {Inv : Set Lock → Store → Prop}
    (statement : ∀ {locks more store op answer}, Inv locks store → locks ⊆ more →
      Inv more (engine.after op store answer))
    (obeys : Obeys engine takes rule program locks store post) (holds : Inv locks store) :
    Obeys engine takes rule program locks store fun value more final =>
      post value more final ∧ Inv more final := by
  induction program generalizing locks store with
  | pure value => exact ⟨obeys, holds⟩
  | abort error => trivial
  | query op next ih =>
    intro accepted answer answered
    obtain ⟨ruled, rest⟩ := obeys accepted answer answered
    exact ⟨ruled, ih answer rest (statement holds Set.subset_union_left)⟩

end Obeys

/-- What is left of a program that obeys, obeys. -/
theorem Discipline.Underway.obeys {discipline : Discipline engine takes} {rest : Tx Op Answer ε α}
    {images : List Image} (underway : discipline.Underway program store rest images locks)
    (obeys : Obeys engine takes rule program ∅ store post) :
    Obeys engine takes rule rest locks (engine.install images store) post := by
  induction underway with
  | begins => exact obeys
  | answers sofar accepted answered safe ih =>
    rw [engine.install_append]
    exact (ih accepted _ answered).2

/-- **What a rule keeps of the locks and the store holds of every transaction under way.** -/
theorem Discipline.Underway.keeps {discipline : Discipline engine takes} {rest : Tx Op Answer ε α}
    {images : List Image} {Inv : Set Lock → Store → Prop} (begins : Inv ∅ store)
    (statement : ∀ {locks op store answer}, ¬ engine.refuses op store →
      engine.answers op store answer → rule locks op store answer → Inv locks store →
      Inv (locks ∪ takes op store answer) (engine.after op store answer))
    (underway : discipline.Underway program store rest images locks)
    (obeys : Obeys engine takes rule program ∅ store post) :
    Inv locks (engine.install images store) := by
  induction underway with
  | begins => exact begins
  | answers sofar accepted answered safe ih =>
    rw [engine.install_append]
    exact statement accepted answered (sofar.obeys obeys accepted _ answered).1 ih

end Obeys

/-! ### Waiting -/

section Waiting

variable (system : System Op Answer ε Store Image Event Reply) (locking : Locking Op Answer Store Lock)
  (needs : (op : Op) → Store → Answer op → Set Lock)

namespace Configuration

variable (config : Configuration Op Answer ε Store Image Event Reply Client Lock)

/-- The answers the next statement of a transaction may give. -/
def Sees (session : Session Op Answer ε Store Image Event Reply Lock) (op : Op) (answer : Answer op) :
    Prop :=
  locking.sees op (session.snapshot.getD (session.view system config.store))
    (session.view system config.store) answer

/-- **A transaction can go on**: it commits, a constraint rejects its statement, or nobody else holds a
lock its statement needs with some answer. -/
def Runnable (client : Client) : Prop :=
  ∃ session, config.sessions client = some session ∧ ((∃ reply, session.rest = .pure reply) ∨
    ∃ op next, session.rest = .query op next ∧
      (system.engine.refuses op (session.view system config.store) ∨
        ∃ answer, config.Sees system locking session op answer ∧
          config.Free client (needs op (session.view system config.store) answer)))

/-- **A transaction waits for another**: it cannot go on, and the other holds a lock it needs. -/
def Waits (client other : Client) : Prop :=
  other ≠ client ∧ ¬ config.Runnable system locking needs client ∧
    ∃ session op next answer holder lock, config.sessions client = some session ∧
      session.rest = .query op next ∧ config.Sees system locking session op answer ∧
      config.sessions other = some holder ∧ lock ∈ holder.locks ∧
      lock ∈ needs op (session.view system config.store) answer

/-- **The transaction of a client goes on**: it ends, or its statement does. -/
def Forward (later : Configuration Op Answer ε Store Image Event Reply Client Lock) (client : Client) :
    Prop :=
  later.sessions client = none ∨ ∃ session op next answer after, config.sessions client = some session ∧
    session.rest = .query op next ∧ later.sessions client = some after ∧ after.rest = next answer

end Configuration

variable {system locking needs}
  {config : Configuration Op Answer ε Store Image Event Reply Client Lock} {client : Client}

/-- **A transaction that can go on has a step.** -/
theorem Configuration.Runnable.step [DecidableEq Client]
    (runnable : config.Runnable system locking needs client)
    (enough : ∀ op store answer, locking.takes op store answer ⊆ needs op store answer) :
    ∃ later, Step system locking config later ∧ config.Forward later client := by
  obtain ⟨session, running, ⟨reply, ends⟩ | ⟨op, next, asks, refusal | ⟨answer, seen, free⟩⟩⟩ :=
    runnable
  · refine ⟨_, .commits running ends, Or.inl ?_⟩
    exact (Configuration.set_sessions ..).trans (if_pos rfl)
  · refine ⟨_, .refused running asks refusal, Or.inl ?_⟩
    exact (Configuration.set_sessions ..).trans (if_pos rfl)
  · by_cases refusal : system.engine.refuses op (session.view system config.store)
    · refine ⟨_, .refused running asks refusal, Or.inl ?_⟩
      exact (Configuration.set_sessions ..).trans (if_pos rfl)
    by_cases gives_up : ∃ error, next answer = .abort error
    · obtain ⟨error, gives_up⟩ := gives_up
      refine ⟨_, .fails running asks refusal seen gives_up, Or.inl ?_⟩
      exact (Configuration.set_sessions ..).trans (if_pos rfl)
    · have unlocked : config.Free client
          (locking.takes op (session.view system config.store) answer) :=
        fun other holder differs present => Set.disjoint_of_subset_left (enough op _ answer)
          (free other holder differs present)
      have goes : ∀ error, next answer ≠ .abort error := fun error same => gives_up ⟨error, same⟩
      exact ⟨_, .answers running asks refusal seen unlocked goes, Or.inr ⟨session, op, next, answer,
        _, running, asks, (Configuration.set_sessions ..).trans (if_pos rfl), rfl⟩⟩

/-- A transaction that cannot go on waits for another, when its statement has an answer. -/
theorem Configuration.waits_of_not_runnable
    (total : ∀ session op, ∃ answer, config.Sees system locking session op answer)
    {session : Session Op Answer ε Store Image Event Reply Lock}
    (running : config.sessions client = some session) (goes : ∀ error, session.rest ≠ .abort error)
    (stuck : ¬ config.Runnable system locking needs client) :
    ∃ other, config.Waits system locking needs client other := by
  cases asks : session.rest with
  | pure reply => exact absurd ⟨session, running, Or.inl ⟨reply, asks⟩⟩ stuck
  | abort error => exact absurd asks (goes error)
  | query op next =>
    obtain ⟨answer, seen⟩ := total session op
    have busy : ¬ config.Free client (needs op (session.view system config.store) answer) :=
      fun free => stuck ⟨session, running, Or.inr ⟨op, next, asks, Or.inr ⟨answer, seen, free⟩⟩⟩
    unfold Configuration.Free at busy
    push Not at busy
    obtain ⟨other, holder, differs, present, meets⟩ := busy
    obtain ⟨lock, needed, held⟩ := Set.not_disjoint_iff.mp meets
    exact ⟨other, differs, stuck, session, op, next, answer, holder, lock, running, asks, seen,
      present, held, needed⟩

/-- **Waiting respects the ranks**: what a transaction waits for ranks above all it holds. -/
def Ranked (rank : Lock → Nat) (system : System Op Answer ε Store Image Event Reply)
    (locking : Locking Op Answer Store Lock) (needs : (op : Op) → Store → Answer op → Set Lock)
    (config : Configuration Op Answer ε Store Image Event Reply Client Lock) : Prop :=
  ∀ client other session op next answer holder lock, other ≠ client →
    ¬ config.Runnable system locking needs client → config.sessions client = some session →
    session.rest = .query op next → config.Sees system locking session op answer →
    config.sessions other = some holder → lock ∈ holder.locks →
    lock ∈ needs op (session.view system config.store) answer →
    ∀ held ∈ session.locks, rank held < rank lock

section Ranks

variable {rank : Lock → Nat} (ranked : Ranked rank system locking needs config)

include ranked

/-- Along a chain of waiting, the last holds a lock that ranks above all the first holds. -/
theorem Ranked.chain {first last : Client}
    (chain : Relation.TransGen (config.Waits system locking needs) first last) :
    ∃ holder lock, config.sessions last = some holder ∧ lock ∈ holder.locks ∧
      ∀ session, config.sessions first = some session → ∀ held ∈ session.locks,
        rank held < rank lock := by
  induction chain with
  | single waits =>
    obtain ⟨differs, stuck, session, op, next, answer, holder, lock, running, asks, seen, present,
      held, needed⟩ := waits
    refine ⟨holder, lock, present, held, fun other same => ?_⟩
    rw [running] at same
    cases same
    exact ranked _ _ session op next answer holder lock differs stuck running asks seen present held
      needed
  | tail _ waits ih =>
    obtain ⟨middle, between, there, inside, below⟩ := ih
    obtain ⟨differs, stuck, session, op, next, answer, holder, lock, running, asks, seen, present,
      held, needed⟩ := waits
    rw [there] at running
    cases running
    have above := ranked _ _ _ op next answer holder lock differs stuck there asks seen present held
      needed between inside
    exact ⟨holder, lock, present, held, fun other same own ours =>
      (below other same own ours).trans above⟩

/-- **No deadlock**: nobody waits for himself, through whatever others. -/
theorem Ranked.acyclic (client : Client) :
    ¬ Relation.TransGen (config.Waits system locking needs) client client := by
  intro cycle
  obtain ⟨holder, lock, present, held, below⟩ := ranked.chain cycle
  exact lt_irrefl _ (below holder present lock held)

/-- **Who waits, waits for somebody who can go on**, through whatever others, when the ranks are
bounded. -/
theorem Ranked.progress {bound : Nat} (bounded : ∀ lock, rank lock ≤ bound)
    (total : ∀ session op, ∃ answer, config.Sees system locking session op answer)
    (goes : ∀ client session, config.sessions client = some session →
      ∀ error, session.rest ≠ .abort error)
    {session : Session Op Answer ε Store Image Event Reply Lock}
    (running : config.sessions client = some session) :
    ∃ other, Relation.ReflTransGen (config.Waits system locking needs) client other ∧
      config.Runnable system locking needs other := by
  -- the ranks of what is held rise along the chain, so it ends
  have ends : ∀ room client holder lock, config.sessions client = some holder →
      lock ∈ holder.locks → bound - rank lock ≤ room →
      ∃ other, Relation.ReflTransGen (config.Waits system locking needs) client other ∧
        config.Runnable system locking needs other := by
    intro room
    induction room with
    | zero =>
      intro client holder lock present held full
      by_cases runnable : config.Runnable system locking needs client
      · exact ⟨client, .refl, runnable⟩
      obtain ⟨other, waits⟩ :=
        Configuration.waits_of_not_runnable total present (goes client holder present) runnable
      obtain ⟨_, above, _, _, below⟩ := ranked.chain (.single waits)
      have higher := below holder present lock held
      have top := bounded above
      omega
    | succ room ih =>
      intro client holder lock present held small
      by_cases runnable : config.Runnable system locking needs client
      · exact ⟨client, .refl, runnable⟩
      obtain ⟨other, waits⟩ :=
        Configuration.waits_of_not_runnable total present (goes client holder present) runnable
      obtain ⟨next, above, there, inside, below⟩ := ranked.chain (.single waits)
      have higher := below holder present lock held
      obtain ⟨last, chain, runs⟩ := ih other next above there inside (by omega)
      exact ⟨last, .head waits chain, runs⟩
  by_cases runnable : config.Runnable system locking needs client
  · exact ⟨client, .refl, runnable⟩
  obtain ⟨other, waits⟩ :=
    Configuration.waits_of_not_runnable total running (goes client session running) runnable
  obtain ⟨holder, lock, present, held, -⟩ := ranked.chain (.single waits)
  obtain ⟨last, chain, runs⟩ := ends _ other holder lock present held le_rfl
  exact ⟨last, .head waits chain, runs⟩

end Ranks

/-- A transaction under way has not given up. -/
theorem Reached.goes [DecidableEq Client] (reached : Reached system locking config)
    (begins : ∀ event error, system.program event ≠ .abort error)
    {session : Session Op Answer ε Store Image Event Reply Lock}
    (running : config.sessions client = some session) (error : ε) : session.rest ≠ .abort error := by
  induction reached generalizing client session with
  | start => cases running
  | @step config later _ step ih =>
    cases step with
    | @begins other event idle legal =>
      rw [Configuration.set_sessions] at running
      split at running
      · cases running
        exact begins event error
      · exact ih running
    | @looks other looking runs =>
      rw [Configuration.set_sessions] at running
      split at running
      · cases running
        have before := ih runs
        exact before
      · exact ih running
    | @answers other asking op next answer runs asks accepted seen free on =>
      rw [Configuration.set_sessions] at running
      split at running
      · cases running
        exact on error
      · exact ih running
    | fails | refused | commits | drops =>
      have there := (Configuration.set_sessions ..).symm.trans running
      split at there
      · cases there
      · exact ih there

end Waiting

end Transactional
