/-
**Concurrent transactions, statement by statement.**

The transactions of several clients run at once. A statement sees the latest commit and the row versions
of its own transaction, and may have taken its snapshot earlier. The locks it takes are held until its
transaction ends.

* `Locking` — what a statement sees and locks; `Reached` — the configurations of the clients.
* `Discipline` — what the locks of a transaction protect from the others, and what the others leave.
* `Underway` — the statements of a transaction so far, as if they all ran on one store;
  `Underway.agrees` — a store that agrees under the locks will do.
* `Guards` — a program whose every answer its locks protect.
* `Reached.refines` — **what commits is a serial history**, in the order of the commits, and every failure
  is one of a transaction alone on a store of it.
-/
import OrganizationProvisioning.Library.Computed
import OrganizationProvisioning.Library.History
import Mathlib.Data.Set.Lattice
import Mathlib.Logic.Function.Basic
import Mathlib.Logic.Relation
import Mathlib.Order.CompletePartialOrder

namespace Transactional

variable {Op : Type} {Answer : Op → Type} {ε Store Image Event Reply Client Lock α β : Type}

/-! ### Clients and their statements -/

/-- What the statements of concurrent transactions see and lock. -/
structure Locking (Op : Type) (Answer : Op → Type) (Store Lock : Type) where
  /-- The answers of a statement, from the store at its snapshot and the store at its end, each with
  the row versions of its own transaction. -/
  sees : (op : Op) → Store → Store → Answer op → Prop
  /-- The locks it takes with an answer. -/
  takes : (op : Op) → Store → Answer op → Set Lock

/-- A transaction that has not ended. -/
structure Session (Op : Type) (Answer : Op → Type) (ε Store Image Event Reply Lock : Type) where
  event : Event
  rest : Tx Op Answer ε Reply
  images : List Image
  locks : Set Lock
  snapshot : Option Store

/-- A transaction that was rolled back: its event, what had committed when its error was decided, and
the error. -/
structure Failure (Event Reply Store ε : Type) where
  event : Event
  history : List (Entry Event Reply Store)
  error : ε

/-- The commits so far, the store they leave, the failures so far, and the transactions under way. -/
structure Configuration (Op : Type) (Answer : Op → Type)
    (ε Store Image Event Reply Client Lock : Type) where
  history : List (Entry Event Reply Store)
  store : Store
  failures : List (Failure Event Reply Store ε)
  sessions : Client → Option (Session Op Answer ε Store Image Event Reply Lock)

section Steps

variable (system : System Op Answer ε Store Image Event Reply)
  (locking : Locking Op Answer Store Lock) [DecidableEq Client]

/-- What a transaction sees of a store. -/
def Session.view (session : Session Op Answer ε Store Image Event Reply Lock) (store : Store) :
    Store :=
  system.engine.install session.images store

/-- Replace the transaction of a client. -/
def Configuration.set (config : Configuration Op Answer ε Store Image Event Reply Client Lock)
    (client : Client) (session : Option (Session Op Answer ε Store Image Event Reply Lock)) :
    Configuration Op Answer ε Store Image Event Reply Client Lock :=
  { config with sessions := Function.update config.sessions client session }

omit locking system in
theorem Configuration.set_sessions
    (config : Configuration Op Answer ε Store Image Event Reply Client Lock) (client other : Client)
    (session : Option (Session Op Answer ε Store Image Event Reply Lock)) :
    (config.set client session).sessions other =
      if other = client then session else config.sessions other :=
  Function.update_apply _ _ _ _

omit locking system in
theorem Configuration.set_set
    (config : Configuration Op Answer ε Store Image Event Reply Client Lock) (client : Client)
    (first second : Option (Session Op Answer ε Store Image Event Reply Lock)) :
    (config.set client first).set client second = config.set client second := by
  unfold Configuration.set
  simp only [Function.update_idem]

/-- Roll a transaction back with an error. -/
def Configuration.fail (config : Configuration Op Answer ε Store Image Event Reply Client Lock)
    (client : Client) (event : Event) (error : ε) :
    Configuration Op Answer ε Store Image Event Reply Client Lock :=
  { config.set client none with
    failures := config.failures ++ [⟨event, config.history, error⟩] }

/-- Nobody else holds one of the locks. -/
def Configuration.Free (config : Configuration Op Answer ε Store Image Event Reply Client Lock)
    (client : Client) (locks : Set Lock) : Prop :=
  ∀ other session, other ≠ client → config.sessions other = some session →
    Disjoint locks session.locks

/-- **One step of one client.** -/
inductive Step : Configuration Op Answer ε Store Image Event Reply Client Lock →
    Configuration Op Answer ε Store Image Event Reply Client Lock → Prop
  /-- A transaction begins. -/
  | begins {config : Configuration Op Answer ε Store Image Event Reply Client Lock} {client : Client}
      {event : Event} (idle : config.sessions client = none)
      (legal : system.legal config.history event) :
      Step config (config.set client (some ⟨event, system.program event, [], ∅, none⟩))
  /-- A statement takes its snapshot. -/
  | looks {config : Configuration Op Answer ε Store Image Event Reply Client Lock} {client : Client}
      {session : Session Op Answer ε Store Image Event Reply Lock}
      (running : config.sessions client = some session) :
      Step config (config.set client
        (some { session with snapshot := some (session.view system config.store) }))
  /-- A statement ends; the transaction goes on. -/
  | answers {config : Configuration Op Answer ε Store Image Event Reply Client Lock}
      {client : Client} {session : Session Op Answer ε Store Image Event Reply Lock} {op : Op}
      {next : Answer op → Tx Op Answer ε Reply} {answer : Answer op}
      (running : config.sessions client = some session) (asks : session.rest = .query op next)
      (accepted : ¬ system.engine.refuses op (session.view system config.store))
      (seen : locking.sees op (session.snapshot.getD (session.view system config.store))
        (session.view system config.store) answer)
      (free : config.Free client (locking.takes op (session.view system config.store) answer))
      (goes : ∀ error, next answer ≠ .abort error) :
      Step config (config.set client (some
        { event := session.event
          rest := next answer
          images := session.images ++
            system.engine.images op (session.view system config.store) answer
          locks := session.locks ∪ locking.takes op (session.view system config.store) answer
          snapshot := none }))
  /-- A statement ends, and the program gives up with its answer. -/
  | fails {config : Configuration Op Answer ε Store Image Event Reply Client Lock}
      {client : Client} {session : Session Op Answer ε Store Image Event Reply Lock} {op : Op}
      {next : Answer op → Tx Op Answer ε Reply} {answer : Answer op} {error : ε}
      (running : config.sessions client = some session) (asks : session.rest = .query op next)
      (accepted : ¬ system.engine.refuses op (session.view system config.store))
      (seen : locking.sees op (session.snapshot.getD (session.view system config.store))
        (session.view system config.store) answer)
      (gives_up : next answer = .abort error) :
      Step config (config.fail client session.event error)
  /-- A constraint rejects a statement. -/
  | refused {config : Configuration Op Answer ε Store Image Event Reply Client Lock}
      {client : Client} {session : Session Op Answer ε Store Image Event Reply Lock} {op : Op}
      {next : Answer op → Tx Op Answer ε Reply}
      (running : config.sessions client = some session) (asks : session.rest = .query op next)
      (refusal : system.engine.refuses op (session.view system config.store)) :
      Step config (config.fail client session.event (system.engine.failure op))
  /-- A transaction commits. -/
  | commits {config : Configuration Op Answer ε Store Image Event Reply Client Lock}
      {client : Client} {session : Session Op Answer ε Store Image Event Reply Lock} {reply : Reply}
      (running : config.sessions client = some session) (ends : session.rest = .pure reply) :
      Step config
        { config.set client none with
          history := config.history ++
            [⟨session.event, config.store, reply, session.view system config.store⟩]
          store := session.view system config.store }
  /-- A client is gone, or the database gives its transaction up. -/
  | drops {config : Configuration Op Answer ε Store Image Event Reply Client Lock}
      {client : Client} : Step config (config.set client none)

/-- **The configurations the clients reach.** -/
inductive Reached : Configuration Op Answer ε Store Image Event Reply Client Lock → Prop
  | start : Reached ⟨[], system.initial, [], fun _ => none⟩
  | step {config later : Configuration Op Answer ε Store Image Event Reply Client Lock}
      (reached : Reached config) (step : Step system locking config later) : Reached later

end Steps

section History

variable {system : System Op Answer ε Store Image Event Reply} {locking : Locking Op Answer Store Lock}
  [DecidableEq Client] {config later : Configuration Op Answer ε Store Image Event Reply Client Lock}

/-- **A step leaves what has committed or adds one commit to it.** -/
theorem Step.history (step : Step system locking config later) :
    (later.history = config.history ∧ later.store = config.store) ∨
      ∃ entry, later.history = config.history ++ [entry] ∧ entry.before = config.store ∧
        later.store = entry.after := by
  cases step with
  | commits running ends => exact Or.inr ⟨_, rfl, rfl, rfl⟩
  | begins | looks | answers | fails | refused | drops => exact Or.inl ⟨rfl, rfl⟩

/-- **A step that fails a transaction leaves what has committed.** -/
theorem Step.failed (step : Step system locking config later) (failed : later.failures ≠ config.failures) :
    later.history = config.history ∧ later.store = config.store := by
  cases step with
  | commits => exact absurd rfl failed
  | begins | looks | answers | fails | refused | drops => exact ⟨rfl, rfl⟩

end History

/-! ### What locks protect -/

/-- **What the locks of a transaction protect**: the answers it was given, from the row versions the
others commit. -/
structure Discipline (engine : Engine Op Answer ε Store Image)
    (takes : (op : Op) → Store → Answer op → Set Lock) where
  /-- Two stores that agree on what is locked, and of which the second has all the first has. -/
  agrees : Set Lock → Store → Store → Prop
  /-- A row version of a locked row. -/
  covers : Set Lock → Image → Prop
  /-- The store has none of the rows that are locked because they are new. -/
  fresh : Set Lock → Store → Prop
  /-- The locks, with those the statement takes, protect its answer. -/
  protects : Set Lock → (op : Op) → Store → Answer op → Prop
  agrees_refl : ∀ locks store, agrees locks store store
  agrees_trans : ∀ {locks one two three}, agrees locks one two → agrees locks two three →
    agrees locks one three
  agrees_mono : ∀ {fewer locks one two}, fewer ⊆ locks → agrees locks one two → agrees fewer one two
  covers_mono : ∀ {fewer locks image}, fewer ⊆ locks → covers fewer image → covers locks image
  fresh_empty : ∀ store, fresh ∅ store
  /-- A protected answer holds in a store that agrees. -/
  stable : ∀ {locks op one two answer}, ¬ engine.refuses op one → engine.answers op one answer →
    protects locks op one answer → agrees (locks ∪ takes op one answer) one two →
    ¬ engine.refuses op two ∧ engine.answers op two answer ∧
      engine.images op two answer = engine.images op one answer ∧
      takes op two answer = takes op one answer ∧ protects locks op two answer
  /-- Its row versions are locked. -/
  written : ∀ {locks op store answer}, engine.answers op store answer →
    protects locks op store answer → ∀ image ∈ engine.images op store answer,
      covers (locks ∪ takes op store answer) image
  /-- What it locks as new is new. -/
  news : ∀ {locks op store images answer}, (∀ image ∈ images, covers locks image) →
    fresh locks store → ¬ engine.refuses op (engine.install images store) →
    engine.answers op (engine.install images store) answer →
    protects locks op (engine.install images store) answer →
    fresh (locks ∪ takes op (engine.install images store) answer) store
  /-- Locked row versions leave stores that agree in agreement. -/
  own : ∀ {locks images one two}, (∀ image ∈ images, covers locks image) → agrees locks one two →
    agrees locks (engine.install images one) (engine.install images two)
  /-- They leave what others have locked. -/
  frame : ∀ {locks others images store}, (∀ image ∈ images, covers locks image) →
    fresh locks store → Disjoint others locks → agrees others store (engine.install images store)

namespace Discipline

variable {engine : Engine Op Answer ε Store Image} {takes : (op : Op) → Store → Answer op → Set Lock}
  (discipline : Discipline engine takes)

/-- **The statements of a transaction so far**, as if they all ran on one store: what is left of the
program, the row versions written and the locks taken. -/
inductive Underway (program : Tx Op Answer ε α) (store : Store) :
    Tx Op Answer ε α → List Image → Set Lock → Prop
  | begins : Underway program store program [] ∅
  | answers {op : Op} {next : Answer op → Tx Op Answer ε α} {images : List Image} {locks : Set Lock}
      {answer : Answer op} (sofar : Underway program store (.query op next) images locks)
      (accepted : ¬ engine.refuses op (engine.install images store))
      (answered : engine.answers op (engine.install images store) answer)
      (safe : discipline.protects locks op (engine.install images store) answer) :
      Underway program store (next answer)
        (images ++ engine.images op (engine.install images store) answer)
        (locks ∪ takes op (engine.install images store) answer)

namespace Underway

variable {discipline} {program rest : Tx Op Answer ε α} {store other : Store} {images : List Image}
  {locks : Set Lock}

theorem covers (underway : discipline.Underway program store rest images locks) :
    ∀ image ∈ images, discipline.covers locks image := by
  induction underway with
  | begins => exact fun _ impossible => by cases impossible
  | answers sofar accepted answered safe ih =>
    intro image member
    rcases List.mem_append.mp member with early | here
    · exact discipline.covers_mono Set.subset_union_left (ih image early)
    · exact discipline.written answered safe image here

theorem fresh (underway : discipline.Underway program store rest images locks) :
    discipline.fresh locks store := by
  induction underway with
  | begins => exact discipline.fresh_empty store
  | answers sofar accepted answered safe ih =>
    exact discipline.news sofar.covers ih accepted answered safe

/-- **A store that agrees under the locks will do.** -/
theorem agrees (underway : discipline.Underway program store rest images locks)
    (agree : discipline.agrees locks store other) :
    discipline.Underway program other rest images locks := by
  induction underway with
  | begins => exact .begins
  | answers sofar accepted answered safe ih =>
    have before := ih (discipline.agrees_mono Set.subset_union_left agree)
    have views := discipline.own (fun image member =>
      discipline.covers_mono Set.subset_union_left (sofar.covers image member)) agree
    obtain ⟨accepted', answered', images', takes', safe'⟩ :=
      discipline.stable accepted answered safe views
    rw [← images', ← takes']
    exact .answers before accepted' answered' safe'

/-- How the rest ends, the program ends. -/
theorem commits (underway : discipline.Underway program store rest images locks) {value : α}
    {final : Store} (ends : engine.Commits rest (engine.install images store) value final) :
    engine.Commits program store value final := by
  induction underway with
  | begins => exact ends
  | answers sofar accepted answered safe ih =>
    rw [engine.install_append] at ends
    exact ih ⟨accepted, _, answered, ends⟩

theorem aborts (underway : discipline.Underway program store rest images locks) {error : ε}
    (ends : engine.Aborts rest (engine.install images store) error) :
    engine.Aborts program store error := by
  induction underway with
  | begins => exact ends
  | answers sofar accepted answered safe ih =>
    rw [engine.install_append] at ends
    exact ih (Or.inr ⟨accepted, _, answered, ends⟩)

end Underway

/-! ### Guarded programs -/

/-- **A program whose every answer is safe**, from some locks and a store; or it gives up with the
answer at once. -/
def Guards : Tx Op Answer ε α → Set Lock → Store → (α → Set Lock → Store → Prop) → Prop
  | .pure value, locks, store, post => post value locks store
  | .abort _, _, _, _ => True
  | .query op next, locks, store, post => ¬ engine.refuses op store → ∀ answer,
      engine.answers op store answer →
        ((∃ error, next answer = .abort error) ∨ discipline.protects locks op store answer) ∧
          Guards (next answer) (locks ∪ takes op store answer) (engine.after op store answer)
            post

section Guards

variable {discipline} {program : Tx Op Answer ε α} {locks : Set Lock} {store : Store}
  {post post' : α → Set Lock → Store → Prop}

theorem Guards.mono (guards : discipline.Guards program locks store post)
    (weaker : ∀ value more final, locks ⊆ more → post value more final → post' value more final) :
    discipline.Guards program locks store post' := by
  induction program generalizing locks store with
  | pure value => exact weaker value locks store Set.Subset.rfl guards
  | abort error => trivial
  | query op next ih =>
    intro accepted answer answered
    obtain ⟨safe, rest⟩ := guards accepted answer answered
    exact ⟨safe, ih answer rest fun value more final larger =>
      weaker value more final (Set.subset_union_left.trans larger)⟩

/-- **A sequence is guarded when its parts are.** -/
theorem Guards.bind {rest : α → Tx Op Answer ε β} {last : β → Set Lock → Store → Prop}
    (first : discipline.Guards program locks store fun value more middle =>
      discipline.Guards (rest value) more middle last) :
    discipline.Guards (program.bind rest) locks store last := by
  induction program generalizing locks store with
  | pure value => exact first
  | abort error => trivial
  | query op next ih =>
    intro accepted answer answered
    obtain ⟨safe, others⟩ := first accepted answer answered
    refine ⟨safe.imp_left ?_, ih answer others⟩
    rintro ⟨error, gives_up⟩
    refine ⟨error, ?_⟩
    show (next answer).bind rest = _
    rw [gives_up, Tx.abort_bind]

/-- A sequence whose second part is guarded wherever the first ends. -/
theorem Guards.andThen {rest : α → Tx Op Answer ε β} {last : β → Set Lock → Store → Prop}
    (first : discipline.Guards program locks store post)
    (second : ∀ value more middle, locks ⊆ more → post value more middle →
      discipline.Guards (rest value) more middle last) :
    discipline.Guards (program.bind rest) locks store last :=
  .bind (first.mono second)

/-- One statement. -/
theorem Guards.perform {op : Op} {post : Answer op → Set Lock → Store → Prop}
    (safe : ∀ answer, ¬ engine.refuses op store → engine.answers op store answer →
      discipline.protects locks op store answer ∧
        post answer (locks ∪ takes op store answer) (engine.after op store answer)) :
    discipline.Guards (Tx.perform op : Tx Op Answer ε (Answer op)) locks store post :=
  fun accepted answer answered =>
    ⟨Or.inr (safe answer accepted answered).1, (safe answer accepted answered).2⟩

/-- What is left of a guarded program is guarded. -/
theorem Underway.guards {rest : Tx Op Answer ε α} {images : List Image}
    (underway : discipline.Underway program store rest images locks)
    (guards : discipline.Guards program ∅ store post) :
    discipline.Guards rest locks (engine.install images store) post := by
  induction underway with
  | begins => exact guards
  | answers sofar accepted answered safe ih =>
    rw [engine.install_append]
    exact (ih accepted _ answered).2

end Guards

end Discipline

/-! ### Refinement -/

section Refines

variable (system : System Op Answer ε Store Image Event Reply)
  {locking : Locking Op Answer Store Lock} (discipline : Discipline system.engine locking.takes)

/-- **What a system needs of its programs**: an event stays legal, its program is guarded, and what a
statement sees is an answer of the engine. -/
structure Lawful : Prop where
  stays : ∀ {history entry event}, system.legal history event →
    system.legal (history ++ [entry]) event
  guards : ∀ {history store event}, Serial system history store → system.legal history event →
    discipline.Guards (system.program event) ∅ store fun _ _ _ => True
  sound : ∀ {past later store store' event op next images locks answer},
    Serial system past store → Serial system (past ++ later) store' →
    system.legal (past ++ later) event →
    discipline.Underway (system.program event) store (.query op next) images locks →
    discipline.Underway (system.program event) store' (.query op next) images locks →
    discipline.agrees locks store store' →
    locking.sees op (system.engine.install images store) (system.engine.install images store')
      answer → system.engine.answers op (system.engine.install images store') answer

/-- A failure is one of a transaction alone, on a store of the history. -/
def Failure.Sound (history : List (Entry Event Reply Store)) (failure : Failure Event Reply Store ε) :
    Prop :=
  failure.history <+: history ∧ ∃ store, Serial system failure.history store ∧
    system.legal failure.history failure.event ∧
    system.engine.Aborts (system.program failure.event) store failure.error

/-- A transaction is under way on the latest commit, and its snapshot was of an earlier one. -/
structure Session.Sound (history : List (Entry Event Reply Store)) (store : Store)
    (session : Session Op Answer ε Store Image Event Reply Lock) : Prop where
  legal : system.legal history session.event
  underway : discipline.Underway (system.program session.event) store session.rest session.images
    session.locks
  snapshot : ∀ seen, session.snapshot = some seen → ∃ past later earlier,
    history = past ++ later ∧ Serial system past earlier ∧
    seen = system.engine.install session.images earlier ∧
    discipline.Underway (system.program session.event) earlier session.rest session.images
      session.locks ∧ discipline.agrees session.locks earlier store

/-- **What holds of a configuration.** -/
structure Configuration.Sound
    (config : Configuration Op Answer ε Store Image Event Reply Client Lock) : Prop where
  serial : Serial system config.history config.store
  failures : ∀ failure ∈ config.failures, failure.Sound system config.history
  sessions : ∀ client session, config.sessions client = some session →
    session.Sound system discipline config.history config.store
  apart : ∀ one two session session', one ≠ two → config.sessions one = some session →
    config.sessions two = some session' → Disjoint session.locks session'.locks

variable {system discipline} [DecidableEq Client]
  {config later : Configuration Op Answer ε Store Image Event Reply Client Lock} {client : Client}
  {session : Session Op Answer ε Store Image Event Reply Lock}

theorem Failure.Sound.more {history : List (Entry Event Reply Store)}
    {failure : Failure Event Reply Store ε} (sound : failure.Sound system history)
    (entry : Entry Event Reply Store) : failure.Sound system (history ++ [entry]) :=
  ⟨sound.1.trans (List.prefix_append _ _), sound.2⟩

namespace Configuration.Sound

/-- Replace the transaction of a client by a sound one. -/
theorem set (sound : config.Sound system discipline)
    (here : session.Sound system discipline config.history config.store)
    (free : config.Free client session.locks) :
    (config.set client (some session)).Sound system discipline := by
  refine ⟨sound.serial, sound.failures, fun other found present => ?_,
    fun one two first second differs present present' => ?_⟩
  · rw [set_sessions] at present
    split at present
    · cases present
      exact here
    · exact sound.sessions other found present
  · rw [set_sessions] at present present'
    split at present
    · rename_i same
      cases present
      rw [if_neg (fun other => differs (same.trans other.symm))] at present'
      exact free two second (fun other => differs (same.trans other.symm)) present'
    · split at present'
      · rename_i other same
        cases present'
        exact (free one first other present).symm
      · exact sound.apart one two first second differs present present'

/-- Remove the transaction of a client. -/
theorem remove (sound : config.Sound system discipline) (client : Client) :
    (config.set client none).Sound system discipline := by
  have kept : ∀ other found, (config.set client none).sessions other = some found →
      config.sessions other = some found := by
    intro other found present
    rw [set_sessions] at present
    split at present
    · cases present
    · exact present
  exact ⟨sound.serial, sound.failures,
    fun other found present => sound.sessions other found (kept other found present),
    fun one two first second differs present present' =>
      sound.apart one two first second differs (kept one first present) (kept two second present')⟩

/-- A failure of a transaction alone on the latest commit is sound. -/
theorem fail (sound : config.Sound system discipline) {event : Event} {error : ε}
    (legal : system.legal config.history event)
    (aborts : system.engine.Aborts (system.program event) config.store error) :
    (config.fail client event error).Sound system discipline := by
  have removed := sound.remove client
  refine ⟨removed.serial, fun failure member => ?_, removed.sessions, removed.apart⟩
  rcases List.mem_append.mp member with early | here
  · exact removed.failures failure early
  · rw [List.mem_singleton.mp here]
    exact ⟨List.prefix_rfl, config.store, sound.serial, legal, aborts⟩

omit [DecidableEq Client] in
/-- What the statement of a session sees is an answer of the engine. -/
theorem answered (sound : config.Sound system discipline) (lawful : Lawful system discipline)
    (running : config.sessions client = some session) {op : Op}
    {next : Answer op → Tx Op Answer ε Reply} {answer : Answer op}
    (asks : session.rest = .query op next)
    (seen : locking.sees op (session.snapshot.getD (session.view system config.store))
      (session.view system config.store) answer) :
    system.engine.answers op (session.view system config.store) answer := by
  obtain ⟨legal, underway, snapshot⟩ := sound.sessions client session running
  rw [asks] at underway snapshot
  cases took : session.snapshot with
  | none =>
    rw [took] at seen
    exact @lawful.sound config.history [] config.store config.store session.event op next _ _ _
      sound.serial (by rw [List.append_nil]; exact sound.serial) (by rwa [List.append_nil]) underway
      underway (discipline.agrees_refl _ _) seen
  | some earlier =>
    rw [took] at seen
    obtain ⟨past, more, store, split, serial, rfl, before, agree⟩ := snapshot earlier took
    have now := sound.serial
    rw [split] at now legal
    exact lawful.sound serial now legal before underway agree seen

/-- **A commit leaves the others under way.** -/
theorem commits (sound : config.Sound system discipline) (lawful : Lawful system discipline)
    (running : config.sessions client = some session) {reply : Reply}
    (ends : session.rest = .pure reply) :
    Configuration.Sound system discipline { config.set client none with
      history := config.history ++
        [⟨session.event, config.store, reply, session.view system config.store⟩]
      store := session.view system config.store } := by
  obtain ⟨legal, underway, -⟩ := sound.sessions client session running
  have committed : system.engine.Commits (system.program session.event) config.store reply
      (session.view system config.store) := by
    refine underway.commits ?_
    rw [ends]
    exact ⟨rfl, rfl⟩
  refine ⟨.commit sound.serial legal committed, fun failure member =>
    (sound.failures failure member).more _, fun other found present => ?_, (sound.remove client).apart⟩
  have differs : other ≠ client := by
    rintro rfl
    have gone : (config.set other none).sessions other = some found := present
    rw [set_sessions, if_pos rfl] at gone
    cases gone
  have kept : config.sessions other = some found := by
    have there : (config.set client none).sessions other = some found := present
    rwa [set_sessions, if_neg differs] at there
  obtain ⟨legal', underway', snapshot⟩ := sound.sessions other found kept
  have agrees : discipline.agrees found.locks config.store (session.view system config.store) :=
    discipline.frame underway.covers underway.fresh
      (sound.apart other client found session differs kept running)
  refine ⟨lawful.stays legal', underway'.agrees agrees, fun seen took => ?_⟩
  obtain ⟨past, more, earlier, split, serial, same, before, sofar⟩ := snapshot seen took
  exact ⟨past, more ++ [_], earlier, by rw [split, List.append_assoc], serial, same, before,
    discipline.agrees_trans sofar agrees⟩

/-- **A step keeps what holds of a configuration.** -/
theorem step (sound : config.Sound system discipline) (lawful : Lawful system discipline)
    (step : Step system locking config later) : later.Sound system discipline := by
  cases step with
  | begins idle legal =>
    exact sound.set ⟨legal, .begins, fun _ impossible => by cases impossible⟩
      fun _ _ _ _ => Set.empty_disjoint _
  | @looks client session running =>
    obtain ⟨legal, underway, -⟩ := sound.sessions client session running
    refine sound.set ⟨legal, underway, fun seen took => ?_⟩
      fun other found differs present => sound.apart client other session found differs.symm running
        present
    cases took
    exact ⟨config.history, [], config.store, (List.append_nil _).symm, sound.serial, rfl, underway,
      discipline.agrees_refl _ _⟩
  | @answers client session op next answer running asks accepted seen free goes =>
    have answered := sound.answered lawful running asks seen
    obtain ⟨legal, underway, -⟩ := sound.sessions client session running
    rw [asks] at underway
    have guards := underway.guards (lawful.guards sound.serial legal)
    have safe := (guards accepted answer answered).1.resolve_left fun ⟨error, gives_up⟩ =>
      goes error gives_up
    refine sound.set ⟨legal, underway.answers accepted answered safe,
      fun _ impossible => by cases impossible⟩ fun other found differs present => ?_
    exact Set.disjoint_union_left.mpr
      ⟨sound.apart client other session found differs.symm running present,
        free other found differs present⟩
  | @fails client session op next answer error running asks accepted seen gives_up =>
    have answered := sound.answered lawful running asks seen
    obtain ⟨legal, underway, -⟩ := sound.sessions client session running
    refine sound.fail legal (underway.aborts ?_)
    rw [asks]
    refine Or.inr ⟨accepted, answer, answered, ?_⟩
    rw [gives_up]
    exact rfl
  | @refused client session op next running asks refusal =>
    obtain ⟨legal, underway, -⟩ := sound.sessions client session running
    refine sound.fail legal (underway.aborts ?_)
    rw [asks]
    exact Or.inl ⟨refusal, rfl⟩
  | commits running ends => exact sound.commits lawful running ends
  | drops => exact sound.remove _

/-- **What a transaction has locked does not change under it**: a step leaves, to every transaction that
goes on with the row versions it has, a view that agrees with the one before. -/
theorem undisturbed (sound : config.Sound system discipline)
    (step : Step system locking config later)
    {after : Session Op Answer ε Store Image Event Reply Lock}
    (running : config.sessions client = some session) (on : later.sessions client = some after)
    (same : after.images = session.images) :
    discipline.agrees session.locks (session.view system config.store)
      (after.view system later.store) := by
  obtain ⟨-, underway, -⟩ := sound.sessions client session running
  unfold Session.view
  rw [same]
  refine discipline.own underway.covers ?_
  cases step with
  | @commits other committing reply runs ends =>
    have differs : client ≠ other := by
      rintro rfl
      have gone : (config.set client none).sessions client = some after := on
      rw [set_sessions, if_pos rfl] at gone
      cases gone
    obtain ⟨-, others, -⟩ := sound.sessions other committing runs
    exact discipline.frame others.covers others.fresh
      (sound.apart client other session committing differs running runs)
  | begins | looks | answers | fails | refused | drops => exact discipline.agrees_refl _ _

end Configuration.Sound

/-- **What the clients reach refines a serial history.** -/
theorem Reached.refines (reached : Reached system locking config)
    (lawful : Lawful system discipline) : config.Sound system discipline := by
  induction reached with
  | start =>
    refine ⟨.start, ?_, ?_, ?_⟩
    · exact fun _ impossible => by cases impossible
    · exact fun _ _ impossible => by cases impossible
    · exact fun _ _ _ _ _ impossible => by cases impossible
  | step _ step ih => exact ih.step lawful step

end Refines

/-! ### Fewer answers -/

section Narrow

/-- An engine whose statements have fewer answers. -/
def Engine.narrow (engine : Engine Op Answer ε Store Image)
    (answers : (op : Op) → Store → Answer op → Prop) : Engine Op Answer ε Store Image :=
  { engine with answers := answers }

/-- A system on such an engine. -/
def System.narrow (system : System Op Answer ε Store Image Event Reply)
    (answers : (op : Op) → Store → Answer op → Prop) : System Op Answer ε Store Image Event Reply :=
  { system with engine := system.engine.narrow answers }

variable {engine : Engine Op Answer ε Store Image} {system : System Op Answer ε Store Image Event Reply}
  {answers : (op : Op) → Store → Answer op → Prop}
  {takes : (op : Op) → Store → Answer op → Set Lock} {locking : Locking Op Answer Store Lock}

theorem Engine.commits_narrow (weaker : ∀ {op store answer}, answers op store answer →
      engine.answers op store answer) {program : Tx Op Answer ε α} {store final : Store} {result : α}
    (committed : (engine.narrow answers).Commits program store result final) :
    engine.Commits program store result final := by
  induction program generalizing store with
  | pure value => exact committed
  | abort error => exact committed
  | query op next ih =>
    obtain ⟨accepted, answer, answered, rest⟩ := committed
    exact ⟨accepted, answer, weaker answered, ih answer rest⟩

/-- **A program whose statements keep their answers commits as before**, and rolls back as before. -/
theorem Engine.commits_narrow_iff {P : Op → Prop}
    (same : ∀ op, P op → ∀ store answer, answers op store answer ↔ engine.answers op store answer)
    {program : Tx Op Answer ε α} (asks : Asks P program) {store final : Store} {result : α} :
    (engine.narrow answers).Commits program store result final ↔
      engine.Commits program store result final := by
  induction asks generalizing store with
  | pure value => exact Iff.rfl
  | abort error => exact Iff.rfl
  | query holds _ ih =>
    refine and_congr_right fun _ => exists_congr fun answer => and_congr (same _ holds store answer) ?_
    exact ih answer

theorem Engine.aborts_narrow_iff {P : Op → Prop}
    (same : ∀ op, P op → ∀ store answer, answers op store answer ↔ engine.answers op store answer)
    {program : Tx Op Answer ε α} (asks : Asks P program) {store : Store} {error : ε} :
    (engine.narrow answers).Aborts program store error ↔ engine.Aborts program store error := by
  induction asks generalizing store with
  | pure value => exact Iff.rfl
  | abort error => exact Iff.rfl
  | query holds _ ih =>
    refine or_congr_right (and_congr_right fun _ => exists_congr fun answer =>
      and_congr (same _ holds store answer) ?_)
    exact ih answer

theorem Engine.Avoids.narrow {error : ε} {program : Tx Op Answer ε α}
    (avoids : engine.Avoids error program) : (engine.narrow answers).Avoids error program := by
  induction avoids with
  | pure value => exact .pure value
  | abort differs => exact .abort differs
  | query differs _ ih => exact .query differs ih

/-- A history with fewer answers is a history. -/
theorem Serial.widen (weaker : ∀ {op store answer}, answers op store answer →
      system.engine.answers op store answer) {history : List (Entry Event Reply Store)} {store : Store}
    (run : Serial (system.narrow answers) history store) : Serial system history store := by
  induction run with
  | start => exact .start
  | commit _ legal committed ih => exact .commit ih legal (Engine.commits_narrow weaker committed)

/-- The locks protect fewer answers too. -/
def Discipline.narrow (discipline : Discipline engine takes)
    (weaker : ∀ {op store answer}, answers op store answer → engine.answers op store answer)
    (keeps : ∀ {locks op one two answer}, ¬ engine.refuses op one → answers op one answer →
      discipline.protects locks op one answer →
      discipline.agrees (locks ∪ takes op one answer) one two → answers op two answer) :
    Discipline (engine.narrow answers) takes where
  agrees := discipline.agrees
  covers := discipline.covers
  fresh := discipline.fresh
  protects := discipline.protects
  agrees_refl := discipline.agrees_refl
  agrees_trans := discipline.agrees_trans
  agrees_mono := discipline.agrees_mono
  covers_mono := discipline.covers_mono
  fresh_empty := discipline.fresh_empty
  stable accepted answered safe agree := by
    obtain ⟨accepted', -, rest⟩ := discipline.stable accepted (weaker answered) safe agree
    exact ⟨accepted', keeps accepted answered safe agree, rest⟩
  written answered := discipline.written (weaker answered)
  news covered fresh accepted answered := discipline.news covered fresh accepted (weaker answered)
  own := discipline.own
  frame := discipline.frame

theorem Discipline.Guards.narrow {discipline : Discipline engine takes} {program : Tx Op Answer ε α}
    {locks : Set Lock} {store : Store} {post : α → Set Lock → Store → Prop}
    (guards : discipline.Guards program locks store post)
    (weaker : ∀ {op store answer}, answers op store answer → engine.answers op store answer)
    (keeps : ∀ {locks op one two answer}, ¬ engine.refuses op one → answers op one answer →
      discipline.protects locks op one answer →
      discipline.agrees (locks ∪ takes op one answer) one two → answers op two answer) :
    (discipline.narrow weaker keeps).Guards program locks store post := by
  induction program generalizing locks store with
  | pure value => exact guards
  | abort error => trivial
  | query op next ih =>
    intro accepted answer answered
    obtain ⟨safe, rest⟩ := guards accepted answer (weaker answered)
    exact ⟨safe, ih answer rest⟩

/-- **What the clients reach does not depend on the answers of the engine**: they see what the locking
lets them see. -/
theorem Reached.narrow [DecidableEq Client]
    {config : Configuration Op Answer ε Store Image Event Reply Client Lock}
    (reached : Reached system locking config) : Reached (system.narrow answers) locking config := by
  induction reached with
  | start => exact .start
  | step _ step ih =>
    refine .step ih ?_
    cases step with
    | begins idle legal => exact .begins idle legal
    | looks running => exact .looks running
    | answers running asks accepted seen free goes => exact .answers running asks accepted seen free goes
    | fails running asks accepted seen gives_up => exact .fails running asks accepted seen gives_up
    | refused running asks refusal => exact .refused running asks refusal
    | commits running ends => exact .commits running ends
    | drops => exact .drops

end Narrow

/-! ### Transactions that run alone -/

section Alone

variable {system : System Op Answer ε Store Image Event Reply} {locking : Locking Op Answer Store Lock}
  [∀ op store, Decidable (system.engine.refuses op store)] {answer : (op : Op) → Store → Answer op}
  [DecidableEq Client]
  {config later : Configuration Op Answer ε Store Image Event Reply Client Lock} {client : Client}

/-- The others hold no locks. -/
def Configuration.Unlocked
    (config : Configuration Op Answer ε Store Image Event Reply Client Lock) (client : Client) : Prop :=
  ∀ other session, other ≠ client → config.sessions other = some session → session.locks = ∅

/-- A step of one client, while the others hold no locks. -/
def LoneStep (system : System Op Answer ε Store Image Event Reply) (locking : Locking Op Answer Store Lock)
    (config later : Configuration Op Answer ε Store Image Event Reply Client Lock) : Prop :=
  Step system locking config later ∧ ∃ client, config.Unlocked client ∧
    ∀ other, other ≠ client → later.sessions other = config.sessions other

/-- Such steps lead from one configuration to another. -/
abbrev Leads (system : System Op Answer ε Store Image Event Reply) (locking : Locking Op Answer Store Lock) :
    Configuration Op Answer ε Store Image Event Reply Client Lock →
      Configuration Op Answer ε Store Image Event Reply Client Lock → Prop :=
  Relation.ReflTransGen (LoneStep system locking)

omit [∀ op store, Decidable (system.engine.refuses op store)] in
/-- What reached configurations lead to is reached. -/
theorem Reached.leads (reached : Reached system locking config) (leads : Leads system locking config later) :
    Reached system locking later := by
  induction leads with
  | refl => exact reached
  | tail _ step ih => exact ih.step step.1

omit [∀ op store, Decidable (system.engine.refuses op store)] in
/-- A step that leaves the others as they are and holding no locks is one. -/
theorem Configuration.Unlocked.lone (others : config.Unlocked client)
    (step : Step system locking config later)
    (same : ∀ other, other ≠ client → later.sessions other = config.sessions other) :
    LoneStep system locking config later :=
  ⟨step, client, others, same⟩

omit [DecidableEq Client] in
/-- Locks nobody else holds are free. -/
theorem Configuration.Unlocked.free (others : config.Unlocked client) (locks : Set Lock) :
    config.Free client locks := by
  intro other found differs present
  rw [others other found differs present]
  exact Set.disjoint_empty _

/-- The others hold no locks, whatever becomes of the transaction of the client. -/
theorem Configuration.Unlocked.set (others : config.Unlocked client)
    (session : Option (Session Op Answer ε Store Image Event Reply Lock)) :
    (config.set client session).Unlocked client := by
  intro other found differs present
  rw [Configuration.set_sessions, if_neg differs] at present
  exact others other found differs present

/-- A transaction that has written and locked nothing. -/
def Session.opened (event : Event) (rest : Tx Op Answer ε Reply) (snapshot : Option Store) :
    Session Op Answer ε Store Image Event Reply Lock :=
  ⟨event, rest, [], ∅, snapshot⟩

/-- It holds no locks. -/
theorem Configuration.Unlocked.opened {other : Client} (others : config.Unlocked other) (event : Event)
    (rest : Tx Op Answer ε Reply) (snapshot : Option Store) :
    (config.set client (some (Session.opened event rest snapshot))).Unlocked other := by
  intro third found differs present
  rw [Configuration.set_sessions] at present
  split at present
  · cases present
    rfl
  · exact others third found differs present

omit [∀ op store, Decidable (system.engine.refuses op store)] in
/-- A transaction begins, and its first statement takes its snapshot. -/
theorem Leads.looks (idle : config.sessions client = none) (others : config.Unlocked client) {event : Event}
    (legal : system.legal config.history event) {program : Tx Op Answer ε Reply}
    (same : system.program event = program) :
    Leads system locking config
      (config.set client (some (.opened event program (some config.store)))) := by
  cases same
  have begins : LoneStep system locking config
      (config.set client (some (.opened event (system.program event) none))) :=
    others.lone (.begins idle legal) fun _ differs => Function.update_of_ne differs _ _
  have running : (config.set client (some (.opened event (system.program event) none))).sessions client =
      some (.opened event (system.program event) none) := Function.update_self ..
  have looks : Step system locking _ _ := .looks running
  have lone := (others.set _).lone looks fun _ differs => Function.update_of_ne differs _ _
  rw [Configuration.set_set] at lone
  exact .tail (.single begins) lone

/-- A transaction after one more answer. -/
def Session.advanced (session : Session Op Answer ε Store Image Event Reply Lock)
    (system : System Op Answer ε Store Image Event Reply) (locking : Locking Op Answer Store Lock)
    (store : Store) (op : Op) (next : Answer op → Tx Op Answer ε Reply) (answer : Answer op) :
    Session Op Answer ε Store Image Event Reply Lock where
  event := session.event
  rest := next answer
  images := session.images ++ system.engine.images op (session.view system store) answer
  locks := session.locks ∪ locking.takes op (session.view system store) answer
  snapshot := none

omit [∀ op store, Decidable (system.engine.refuses op store)] in
/-- A statement ends, and the transaction goes on. -/
theorem LoneStep.answers {session : Session Op Answer ε Store Image Event Reply Lock}
    (running : config.sessions client = some session) (others : config.Unlocked client) {op : Op}
    {next : Answer op → Tx Op Answer ε Reply} (asks : session.rest = .query op next)
    (accepted : ¬ system.engine.refuses op (session.view system config.store)) {given : Answer op}
    (seen : locking.sees op (session.snapshot.getD (session.view system config.store))
      (session.view system config.store) given)
    (goes : ∀ error, next given ≠ .abort error) :
    LoneStep system locking config
      (config.set client (some (session.advanced system locking config.store op next given))) :=
  others.lone (.answers running asks accepted seen (others.free _) goes)
    fun _ differs => Function.update_of_ne differs _ _

omit [∀ op store, Decidable (system.engine.refuses op store)] in
/-- A statement ends, and the transaction is rolled back with its answer. -/
theorem LoneStep.fails {session : Session Op Answer ε Store Image Event Reply Lock}
    (running : config.sessions client = some session) (others : config.Unlocked client) {op : Op}
    {next : Answer op → Tx Op Answer ε Reply} (asks : session.rest = .query op next)
    (accepted : ¬ system.engine.refuses op (session.view system config.store)) {given : Answer op}
    (seen : locking.sees op (session.snapshot.getD (session.view system config.store))
      (session.view system config.store) given)
    {error : ε} (gives_up : next given = .abort error) :
    LoneStep system locking config (config.fail client session.event error) :=
  others.lone (.fails running asks accepted seen gives_up) fun _ differs => Function.update_of_ne differs _ _

/-- **A transaction that is left alone commits what it computes.** -/
theorem Leads.runs (sees : ∀ op store, locking.sees op store store (answer op store))
    {session : Session Op Answer ε Store Image Event Reply Lock}
    (running : config.sessions client = some session) (unseen : session.snapshot = none)
    (others : config.Unlocked client) {reply : Reply} {final : Store}
    (ran : system.engine.run answer session.rest (session.view system config.store) =
      .ok (reply, final)) :
    Leads system locking config { config.set client none with
      history := config.history ++ [⟨session.event, config.store, reply, final⟩]
      store := final } := by
  generalize asked : session.rest = rest at ran
  induction rest generalizing config session with
  | pure value =>
    cases ran
    exact .single (others.lone (.commits running asked) fun _ differs => Function.update_of_ne differs _ _)
  | abort error => cases ran
  | query op next ih =>
    rw [Engine.run] at ran
    split at ran
    · cases ran
    · rename_i accepted
      have goes : ∀ error, next (answer op (session.view system config.store)) ≠ .abort error := by
        intro error gives_up
        rw [gives_up] at ran
        cases ran
      have seen := sees op (session.view system config.store)
      have first := LoneStep.answers running others asked accepted (by rwa [unseen]) goes
      have ran' : system.engine.run answer (next (answer op (session.view system config.store)))
          ((session.advanced system locking config.store op next
            (answer op (session.view system config.store))).view system config.store) = .ok (reply, final) := by
        unfold Session.view Session.advanced at *
        rw [Engine.install_append]
        exact ran
      have rest := ih _ (by rw [Configuration.set_sessions, if_pos rfl]) rfl (others.set _) rfl ran'
      rw [Configuration.set_set] at rest
      exact .head first rest

omit [∀ op store, Decidable (system.engine.refuses op store)] in
/-- An idle client has no transaction to remove. -/
theorem Configuration.set_idle (idle : config.sessions client = none) : config.set client none = config := by
  unfold Configuration.set
  rw [← idle, Function.update_eq_self]

/-- **An event that is left alone commits what it computes.** -/
theorem Leads.commits (sees : ∀ op store, locking.sees op store store (answer op store))
    (idle : config.sessions client = none)
    (others : config.Unlocked client) {event : Event} (legal : system.legal config.history event)
    {reply : Reply} {final : Store}
    (ran : system.engine.run answer (system.program event) config.store = .ok (reply, final)) :
    Leads system locking config { config with
      history := config.history ++ [⟨event, config.store, reply, final⟩]
      store := final } := by
  have ends := Leads.runs sees (by rw [Configuration.set_sessions, if_pos rfl]) rfl (others.set
    (some ⟨event, system.program event, [], ∅, none⟩)) ran
  rw [Configuration.set_set, Configuration.set_idle idle] at ends
  exact .head (others.lone (.begins idle legal) fun _ differs => Function.update_of_ne differs _ _) ends

/-- **A transaction that is left alone fails as it computes.** -/
theorem Leads.breaks (sees : ∀ op store, locking.sees op store store (answer op store))
    {session : Session Op Answer ε Store Image Event Reply Lock}
    (running : config.sessions client = some session) (unseen : session.snapshot = none)
    (others : config.Unlocked client) (goes : ∀ error, session.rest ≠ .abort error) {error : ε}
    (ran : system.engine.run answer session.rest (session.view system config.store) = .error error) :
    Leads system locking config (config.fail client session.event error) := by
  generalize asked : session.rest = rest at ran goes
  induction rest generalizing config session with
  | pure value => cases ran
  | abort given => exact absurd rfl (goes given)
  | query op next ih =>
    have seen := sees op (session.view system config.store)
    rw [Engine.run] at ran
    split at ran
    · rename_i refusal
      cases ran
      exact .single (others.lone (.refused running asked refusal) fun _ differs =>
        Function.update_of_ne differs _ _)
    · rename_i accepted
      by_cases gives_up : ∃ given, next (answer op (session.view system config.store)) = .abort given
      · obtain ⟨given, gives_up⟩ := gives_up
        rw [gives_up] at ran
        cases ran
        exact .single (.fails running others asked accepted (by rwa [unseen]) gives_up)
      · have on := fun error same => gives_up ⟨error, same⟩
        have first := LoneStep.answers running others asked accepted (by rwa [unseen]) on
        have ran' : system.engine.run answer (next (answer op (session.view system config.store)))
            ((session.advanced system locking config.store op next
              (answer op (session.view system config.store))).view system config.store) = .error error := by
          unfold Session.view Session.advanced at *
          rw [Engine.install_append]
          exact ran
        have rest := ih _ (by rw [Configuration.set_sessions, if_pos rfl]) rfl (others.set _) rfl ran' on
        unfold Configuration.fail at rest ⊢
        rw [Configuration.set_set] at rest
        exact .head first rest

/-- **An event that is left alone fails as it computes.** -/
theorem Leads.fails (sees : ∀ op store, locking.sees op store store (answer op store))
    (idle : config.sessions client = none)
    (others : config.Unlocked client) {event : Event} (legal : system.legal config.history event)
    (goes : ∀ error, system.program event ≠ .abort error) {error : ε}
    (ran : system.engine.run answer (system.program event) config.store = .error error) :
    Leads system locking config { config with
      failures := config.failures ++ [⟨event, config.history, error⟩] } := by
  have ends := Leads.breaks sees (by rw [Configuration.set_sessions, if_pos rfl]) rfl (others.set
    (some ⟨event, system.program event, [], ∅, none⟩)) goes ran
  unfold Configuration.fail at ends
  rw [Configuration.set_set, Configuration.set_idle idle] at ends
  exact .head (others.lone (.begins idle legal) fun _ differs => Function.update_of_ne differs _ _) ends

omit [∀ op store, Decidable (system.engine.refuses op store)] in
/-- **Clients that see less lead no further.** -/
theorem Step.widen {locking' : Locking Op Answer Store Lock}
    (sees : ∀ {op snapshot view answer}, locking.sees op snapshot view answer →
      locking'.sees op snapshot view answer)
    (takes : locking'.takes = locking.takes) (step : Step system locking config later) :
    Step system locking' config later := by
  obtain ⟨sees', _⟩ := locking'
  cases takes
  cases step with
  | begins idle legal => exact .begins idle legal
  | looks running => exact .looks running
  | answers running asks accepted seen free goes =>
    exact .answers running asks accepted (sees seen) free goes
  | fails running asks accepted seen gives_up => exact .fails running asks accepted (sees seen) gives_up
  | refused running asks refusal => exact .refused running asks refusal
  | commits running ends => exact .commits running ends
  | drops => exact .drops

omit [∀ op store, Decidable (system.engine.refuses op store)] in
/-- What clients that see less reach, clients reach. -/
theorem Reached.widen {locking' : Locking Op Answer Store Lock}
    (sees : ∀ {op snapshot view answer}, locking.sees op snapshot view answer →
      locking'.sees op snapshot view answer)
    (takes : locking'.takes = locking.takes) (reached : Reached system locking config) :
    Reached system locking' config := by
  induction reached with
  | start => exact .start
  | step _ step ih => exact ih.step (step.widen sees takes)

omit [∀ op store, Decidable (system.engine.refuses op store)] in
theorem Leads.widen {locking' : Locking Op Answer Store Lock}
    (sees : ∀ {op snapshot view answer}, locking.sees op snapshot view answer →
      locking'.sees op snapshot view answer)
    (takes : locking'.takes = locking.takes) (leads : Leads system locking config later) :
    Leads system locking' config later :=
  Relation.ReflTransGen.mono (fun _ _ step => ⟨step.1.widen sees takes, step.2⟩) _ _ leads

end Alone

end Transactional
