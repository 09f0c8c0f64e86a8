/-
**Concurrent transactions do not deadlock.**

A transaction waits for the saga it locks first, or for its idempotency key when it has locked at most one
saga. Whatever else it needs it has locked, drew, or shares with nobody, since it belongs to its saga.

* `Rooted` — the effects a transaction has locked belong to sagas it has locked.
* `Sql.Needs` — why a statement needs a lock; `Sql.Arranged.needs` — there is no other reason.
* `no_deadlock` — **nobody waits for himself**, through whatever others, and who waits, waits for somebody
  who can go on.
-/
import OrganizationProvisioning.Run.Arranged
import OrganizationProvisioning.Run.Concurrent

namespace OrganizationProvisioning

open Relational Transactional

/-! ### What is locked belongs to a locked saga -/

/-- **The effects a transaction has locked belong to sagas it has locked**, and so do the downstream keys. -/
structure Rooted (locks : Set Lock) (view : Store) : Prop where
  effects : ∀ id, .effect id ∈ locks → view.Held locks id
  keys : ∀ key, .downstream key ∈ locks → ∃ id kind ordinal, .saga id ∈ locks ∧
    key = EffectKind.downstreamKey kind id ordinal

section Rooted

variable {draws locks : Set Lock} {store : Store} {statement : Statement} {answer : statement.Answer}
  {id : Uuid}

/-- An effect that is taken is held. -/
theorem Sql.Arranged.held (fits : statement.sql.Arranged draws locks store)
    (accepted : statement.sql.refuses store = false) (answered : statement.sql.Answers store answer)
    (taken : .effect id ∈ statement.sql.takes store answer) :
    (postgres.after statement store answer).Held (locks ∪ statement.sql.takes store answer) id := by
  obtain ⟨operation, sql⟩ := statement
  have before : store.Held locks id →
      (postgres.after ⟨operation, sql⟩ store answer).Held (locks ∪ sql.takes store answer) id :=
    fun own => own.later Set.subset_union_left Persist.after
  rcases taken with chosen | ⟨image, member, inside⟩
  · cases sql with
    | lockEffect other condition =>
      cases answer with
      | none => cases chosen
      | some row =>
        have found : (store.effect other).filter condition = some row := answered.symm
        obtain ⟨-, same⟩ := Store.effect_found.mp (Option.filter_eq_some_iff.mp found).1
        cases chosen
        rw [← same] at fits
        exact before fits
    | lockSaga | scanSagas => cases answer <;> cases chosen
    | _ => cases chosen
  · cases sql with
    | insertEffect row =>
      rw [List.mem_singleton.mp member] at inside
      rcases inside with same | impossible
      · cases same
        exact held_insertEffect accepted (Or.inl fits.1)
      · cases impossible
    | updateEffect other condition change =>
      obtain ⟨row, found, rfl⟩ := Option.map_eq_some_iff.mp (Option.mem_toList.mp member)
      obtain ⟨-, same⟩ := Store.effect_found.mp (Option.filter_eq_some_iff.mp found).1
      cases inside
      rw [← same] at fits
      exact before fits
    | updateEffects owner condition change =>
      obtain ⟨row, found, rfl⟩ := List.mem_map.mp member
      cases inside
      exact before ⟨owner, fits, row, (List.mem_filter.mp found).1, rfl⟩
    | insertSaga row | insertActivity row =>
      rw [List.mem_singleton.mp member] at inside
      cases inside
    | updateSaga | updateMutation =>
      obtain ⟨row, -, rfl⟩ := Option.map_eq_some_iff.mp (Option.mem_toList.mp member)
      cases inside
    | insertMutation row =>
      dsimp only [Sql.images] at member
      split at member
      · rw [List.mem_singleton.mp member] at inside
        cases inside
      · cases member
    | selectSaga | lockSaga | scanSagas | selectEffects | lockEffect | selectMutation => cases member

/-- A downstream key that is taken is one of a locked saga. -/
theorem Sql.Arranged.key {key : String} (fits : statement.sql.Arranged draws locks store)
    (taken : .downstream key ∈ statement.sql.takes store answer) : ∃ id kind ordinal,
      .saga id ∈ locks ∧ key = EffectKind.downstreamKey kind id ordinal := by
  obtain ⟨operation, sql⟩ := statement
  rcases taken with chosen | ⟨image, member, inside⟩
  · cases sql with
    | lockSaga | scanSagas | lockEffect => cases answer <;> cases chosen
    | _ => cases chosen
  · cases sql with
    | insertEffect row =>
      rw [List.mem_singleton.mp member] at inside
      rcases inside with impossible | same
      · cases impossible
      · cases same
        exact ⟨_, _, _, fits.1, fits.2.2.1⟩
    | updateEffects owner condition change =>
      obtain ⟨row, -, rfl⟩ := List.mem_map.mp member
      cases inside
    | insertSaga row | insertActivity row =>
      rw [List.mem_singleton.mp member] at inside
      cases inside
    | updateSaga | updateEffect | updateMutation =>
      obtain ⟨row, -, rfl⟩ := Option.map_eq_some_iff.mp (Option.mem_toList.mp member)
      cases inside
    | insertMutation row =>
      dsimp only [Sql.images] at member
      split at member
      · rw [List.mem_singleton.mp member] at inside
        cases inside
      · cases member
    | selectSaga | lockSaga | scanSagas | selectEffects | lockEffect | selectMutation => cases member

/-- **A statement leaves what is locked rooted.** -/
theorem Rooted.after (rooted : Rooted locks store) (accepted : ¬ postgres.refuses statement store)
    (answered : postgres.answers statement store answer)
    (fits : statement.sql.Arranged draws locks store) :
    Rooted (locks ∪ readCommitted.takes statement store answer) (postgres.after statement store answer) := by
  refine ⟨fun id inside => ?_, fun key inside => ?_⟩
  · rcases inside with held | taken
    · exact (rooted.effects id held).later Set.subset_union_left Persist.after
    · exact fits.held (Bool.eq_false_of_not_eq_true accepted) answered taken
  · rcases inside with held | taken
    · obtain ⟨id, kind, ordinal, locked, same⟩ := rooted.keys key held
      exact ⟨id, kind, ordinal, Or.inl locked, same⟩
    · obtain ⟨id, kind, ordinal, locked, same⟩ := fits.key taken
      exact ⟨id, kind, ordinal, Or.inl locked, same⟩

end Rooted

/-! ### Why a statement needs a lock -/

/-- **Why a statement needs a lock.** -/
inductive Sql.Needs (draws locks : Set Lock) (store : Store) : Lock → Prop
  /-- Its transaction holds it. -/
  | owns {lock : Lock} (held : lock ∈ locks) : Needs draws locks store lock
  /-- It is of a new row. -/
  | draws {lock : Lock} (drawn : lock ∈ draws) : Needs draws locks store lock
  /-- It is an effect of a locked saga. -/
  | effect {id : Uuid} (held : store.Held locks id) : Needs draws locks store (.effect id)
  /-- It is the downstream key of an effect of a locked saga. -/
  | downstream {id : Uuid} {kind : EffectKind} {ordinal : Int} (held : .saga id ∈ locks) :
      Needs draws locks store (.downstream (kind.downstreamKey id ordinal))
  /-- It is the key of the call, and at most one saga is locked. -/
  | key {caller key : String} (one : ∃ id, ∀ lock ∈ locks, lock = .saga id) :
      Needs draws locks store (.mutation caller key)
  /-- It is the first saga. -/
  | first {id : Uuid} (nothing : locks = ∅) : Needs draws locks store (.saga id)

section Needs

variable {draws locks : Set Lock} {store : Store} {sql : Sql} {answer : sql.Answer} {lock : Lock}

/-- **There is no other reason**, but for the scan. -/
theorem Sql.Arranged.needs (fits : sql.Arranged draws locks store) (answered : sql.Answers store answer)
    (waits : ∀ condition, sql ≠ .scanSagas condition) (needed : lock ∈ sql.needs store answer) :
    Sql.Needs draws locks store lock := by
  rcases needed with (chosen | ⟨image, member, inside⟩) | referred
  · cases sql with
    | lockSaga id condition =>
      cases answer with
      | none => cases chosen
      | some row =>
        have found : (store.saga id).filter condition = some row := answered.symm
        obtain ⟨-, same⟩ := Store.saga_found.mp (Option.filter_eq_some_iff.mp found).1
        cases chosen
        rw [← same] at fits
        exact fits.elim .owns .first
    | lockEffect id condition =>
      cases answer with
      | none => cases chosen
      | some row =>
        have found : (store.effect id).filter condition = some row := answered.symm
        obtain ⟨-, same⟩ := Store.effect_found.mp (Option.filter_eq_some_iff.mp found).1
        cases chosen
        rw [← same] at fits
        exact .effect fits
    | scanSagas condition => exact absurd rfl (waits condition)
    | _ => cases chosen
  · cases sql with
    | insertSaga row =>
      rw [List.mem_singleton.mp member] at inside
      cases inside
      exact .draws fits
    | updateSaga id change =>
      obtain ⟨row, found, rfl⟩ := Option.map_eq_some_iff.mp (Option.mem_toList.mp member)
      obtain ⟨-, same⟩ := Store.saga_found.mp found
      cases inside
      rw [← same] at fits
      exact .owns fits
    | insertEffect row =>
      rw [List.mem_singleton.mp member] at inside
      obtain ⟨held, drawn, keyed, -⟩ := fits
      rcases inside with same | same
      · cases same
        exact .draws drawn
      · cases same
        rw [keyed]
        exact .downstream held
    | updateEffect id condition change =>
      obtain ⟨row, found, rfl⟩ := Option.map_eq_some_iff.mp (Option.mem_toList.mp member)
      obtain ⟨-, same⟩ := Store.effect_found.mp (Option.filter_eq_some_iff.mp found).1
      cases inside
      rw [← same] at fits
      exact .effect fits
    | updateEffects id condition change =>
      obtain ⟨row, found, rfl⟩ := List.mem_map.mp member
      cases inside
      exact .effect ⟨id, fits, row, (List.mem_filter.mp found).1, rfl⟩
    | insertMutation row =>
      dsimp only [Sql.images] at member
      split at member
      · rw [List.mem_singleton.mp member] at inside
        cases inside
        exact .key fits.1
      · cases member
    | updateMutation caller key condition change =>
      obtain ⟨row, found, rfl⟩ := Option.map_eq_some_iff.mp (Option.mem_toList.mp member)
      obtain ⟨-, rfl, rfl⟩ := Store.mutation_found.mp (Option.filter_eq_some_iff.mp found).1
      cases inside
      exact .owns fits.1
    | insertActivity row =>
      rw [List.mem_singleton.mp member] at inside
      cases inside
      exact .draws fits.2.1
    | selectSaga | lockSaga | scanSagas | selectEffects | lockEffect | selectMutation => cases member
  · cases sql with
    | insertEffect row =>
      obtain ⟨held, -, -, own⟩ := fits
      rcases referred with same | ⟨source, same, rfl⟩
      · cases same
        exact .owns held
      · exact .effect (own source same)
    | selectEffects id condition order =>
      obtain ⟨row, member, rfl⟩ := referred
      have found : answer = orderBy order ((store.effectsOf id).filter condition) := answered
      rw [found, mem_orderBy] at member
      exact .effect ⟨id, fits, row, (List.mem_filter.mp member).1, rfl⟩
    | insertMutation row =>
      obtain ⟨id, same, rfl⟩ := referred
      exact .owns (fits.2 id same)
    | updateMutation caller key condition change =>
      obtain ⟨row, id, found, same, other, rfl⟩ := referred
      exact .owns (fits.2 row id (Option.filter_eq_some_iff.mp found).1 same other)
    | insertActivity row =>
      obtain ⟨held, -, own⟩ := fits
      rcases referred with same | ⟨id, same, rfl⟩
      · cases same
        exact .owns held
      · exact .effect (own id same)
    | _ => cases referred

end Needs

/-! ### Sessions -/

section Sessions

variable {Client : Type} [DecidableEq Client] {config : Clients Client} {client other : Client}
  {session holder : Session Statement Statement.Answer Abort Store Image Event Reply Lock}

/-- **Every event arranges its locks** on every store of a run. -/
theorem arranged_event {history : List Committed} {store : Store} {event : Event}
    (run : Run history store) (permitted : legal history event) :
    Arranges event.draws event.program ∅ store fun _ _ _ => True := by
  cases event with
  | start => exact .andThen arranged_start fun _ _ _ _ _ _ => trivial
  | retry => exact .andThen arranged_retry fun _ _ _ _ _ _ => trivial
  | requestCleanup => exact .andThen arranged_requestCleanup fun _ _ _ _ _ _ => trivial
  | quarantineExpired => exact .andThen arranged_quarantineExpired fun _ _ _ _ _ _ => trivial
  | claimNext => exact .andThen arranged_claimNext fun _ _ _ _ _ _ => trivial
  | finalizeEffect now activityId effect actor outcome =>
    obtain ⟨⟨entry, member, gave⟩, -⟩ := permitted
    obtain ⟨row, found, owner, -⟩ := run.holds.named entry member effect gave
    have known : ∃ row ∈ store.effectsOf effect.provisioningId, row.effectId = effect.effectId := by
      have same := (Store.effect_found.mp found).2
      exact ⟨row, Store.mem_effectsOf.mpr ⟨by rw [same]; exact found, owner⟩, same⟩
    exact .andThen (arranged_finalizeEffect known) fun _ _ _ _ _ _ => trivial

/-- What is left of a transaction arranges its locks. -/
theorem Concurrent.arranges (concurrent : Concurrent config)
    (running : config.sessions client = some session) :
    Arranges session.event.draws session.rest session.locks (session.view provisioning config.store)
      fun _ _ _ => True := by
  obtain ⟨permitted, underway, -⟩ := (Reached.refines concurrent lawful).sessions client session running
  exact underway.obeys (arranged_event concurrent.run permitted)

/-- What a transaction has locked is rooted. -/
theorem Concurrent.rooted (concurrent : Concurrent config)
    (running : config.sessions client = some session) :
    Rooted session.locks (session.view provisioning config.store) := by
  obtain ⟨permitted, underway, -⟩ := (Reached.refines concurrent lawful).sessions client session running
  refine underway.keeps ⟨fun _ impossible => impossible.elim, fun _ impossible => impossible.elim⟩ ?_
    (arranged_event concurrent.run permitted)
  exact fun accepted answered fits rooted => rooted.after accepted answered fits

/-- **No two transactions share an effect of a saga.** -/
theorem Concurrent.effects_apart (concurrent : Concurrent config) (differs : client ≠ other)
    (running : config.sessions client = some session) (present : config.sessions other = some holder)
    {id : Uuid} (own : (session.view provisioning config.store).Held session.locks id) :
    .effect id ∉ holder.locks := by
  intro taken
  have sound := Reached.refines concurrent lawful
  have apart := sound.apart client other session holder differs running present
  obtain ⟨owner, mine, effect, member, rfl⟩ := own
  obtain ⟨owner', theirs, effect', member', same⟩ := (concurrent.rooted present).effects _ taken
  obtain ⟨found, named⟩ := Store.mem_effectsOf.mp member
  obtain ⟨found', named'⟩ := Store.mem_effectsOf.mp member'
  -- this transaction has not inserted the effect, or it would be locked twice
  have free : .effect effect.effectId ∈ (session.locks)ᶜ :=
    fun locked => Set.disjoint_left.mp apart locked taken
  obtain ⟨-, underway, -⟩ := sound.sessions client session running
  have before : config.store.effect effect.effectId = some effect :=
    ((concur_install underway.covers).effect _ free).trans found
  have stays : Persist config.store (holder.view provisioning config.store) := Persist.install
  obtain ⟨kept, there, plan⟩ := stays.effects _ effect before
  rw [← same] at there
  rw [found'] at there
  cases there
  have owners : effect'.provisioningId = effect.provisioningId :=
    congrArg (fun plan => plan.provisioningId) plan
  refine Set.disjoint_left.mp apart mine ?_
  rw [← named, ← owners, named']
  exact theirs

end Sessions

/-! ### No deadlock -/

/-- The UUIDs a call drew are of rows nobody else has locked. -/
def Drawn {Client : Type} (config : Clients Client) : Prop :=
  ∀ one two first second, one ≠ two → config.sessions one = some first →
    config.sessions two = some second → Disjoint first.event.draws second.locks

theorem drawn_of {Client : Type} {config : Clients Client} (draws : Set Lock)
    (each : ∀ client session, config.sessions client = some session →
      session.event.draws ⊆ draws ∧ Disjoint draws session.locks) : Drawn config :=
  fun one two first second _ running present =>
    Set.disjoint_of_subset_left (each one first running).1 (each two second present).2

/-- A saga first, then the key of the call, then the rest. -/
def Lock.rank : Lock → Nat
  | .saga _ => 0
  | .mutation _ _ => 1
  | .effect _ | .downstream _ | .activity _ => 2

section Deadlock

variable {Client : Type} [DecidableEq Client] {config : Clients Client} {client other : Client}
  {session holder : Session Statement Statement.Answer Abort Store Image Event Reply Lock}

/-- **What a transaction waits for**: a saga before it has locked anything, or its key when it has locked
at most one saga. -/
theorem Concurrent.waits_for (concurrent : Concurrent config) (drawn : Drawn config)
    (differs : other ≠ client) (stuck : ¬ config.Runnable provisioning readCommitted Statement.needs client)
    (running : config.sessions client = some session) {statement : Statement}
    {next : statement.Answer → Transaction Reply} (asks : session.rest = .query statement next)
    {answer : statement.Answer}
    (seen : config.Sees provisioning readCommitted session statement answer)
    (present : config.sessions other = some holder) {lock : Lock} (held : lock ∈ holder.locks)
    (needed : lock ∈ statement.needs (session.view provisioning config.store) answer) :
    (session.locks = ∅ ∧ ∃ id, lock = .saga id) ∨
      ((∃ id, ∀ own ∈ session.locks, own = .saga id) ∧ ∃ caller key, lock = .mutation caller key) := by
  have sound := Reached.refines concurrent lawful
  have apart := sound.apart client other session holder differs.symm running present
  have accepted : ¬ postgres.refuses statement (session.view provisioning config.store) :=
    fun refusal => stuck ⟨session, running, Or.inr ⟨statement, next, asks, Or.inl refusal⟩⟩
  have answered := sound.answered lawful running asks seen
  have arranges := concurrent.arranges running
  rw [asks] at arranges
  have fits := (arranges accepted answer answered).1
  -- the scan passes over what is locked
  have waits : ∀ condition, statement.sql ≠ .scanSagas condition := by
    intro condition same
    obtain ⟨operation, sql⟩ := statement
    cases same
    have nothing : config.Free client (Statement.needs ⟨operation, .scanSagas condition⟩
        (session.view provisioning config.store) none) := by
      intro _ _ _ _
      refine Set.disjoint_left.mpr fun lock inside _ => ?_
      rcases inside with (chosen | ⟨image, member, -⟩) | referred
      · cases chosen
      · cases member
      · cases referred
    exact stuck ⟨session, running, Or.inr ⟨_, next, asks, Or.inr ⟨none,
      fun _ impossible => (by cases impossible), nothing⟩⟩⟩
  cases fits.needs answered waits needed with
  | owns own => exact absurd held (Set.disjoint_left.mp apart own)
  | draws new => exact absurd held (Set.disjoint_left.mp
      (drawn client other session holder differs.symm running present) new)
  | effect own => exact absurd held (concurrent.effects_apart differs.symm running present own)
  | downstream mine =>
    obtain ⟨owner, _, _, theirs, same⟩ := (concurrent.rooted present).keys _ held
    rw [← (downstreamKey_eq same).1] at theirs
    exact absurd theirs (Set.disjoint_left.mp apart mine)
  | key one => exact Or.inr ⟨one, _, _, rfl⟩
  | first nothing => exact Or.inl ⟨nothing, _, rfl⟩

/-- **Waiting respects the ranks.** -/
theorem Concurrent.ranked (concurrent : Concurrent config) (drawn : Drawn config) :
    Ranked Lock.rank provisioning readCommitted Statement.needs config := by
  intro client other session statement next answer holder lock differs stuck running asks seen present
    held needed own inside
  rcases concurrent.waits_for drawn differs stuck running asks seen present held needed with
    ⟨nothing, -⟩ | ⟨⟨id, one⟩, caller, key, rfl⟩
  · rw [nothing] at inside
    exact inside.elim
  · rw [one own inside]
    exact Nat.zero_lt_one

omit [DecidableEq Client] in
/-- Every statement has an answer. -/
theorem Clients.sees (config : Clients Client)
    (session : Session Statement Statement.Answer Abort Store Image Event Reply Lock)
    (statement : Statement) : ∃ answer, config.Sees provisioning readCommitted session statement answer := by
  obtain ⟨operation, sql⟩ := statement
  cases sql with
  | scanSagas condition => exact ⟨none, fun _ impossible => by cases impossible⟩
  | _ => exact ⟨_, rfl⟩

/-- No call gives up before its first statement. -/
theorem Event.begins (event : Event) (error : Abort) : event.program ≠ .abort error := by
  cases event with
  | quarantineExpired now actor activityId limit =>
    show ((OrganizationProvisioning.quarantineExpired now actor activityId limit).bind _) ≠ _
    unfold OrganizationProvisioning.quarantineExpired
    cases limit.toNat <;> rintro ⟨⟩
  | start | retry | requestCleanup | claimNext | finalizeEffect => rintro ⟨⟩

/-- **No transaction blocks another for good.** -/
structure DeadlockFree (config : Clients Client) : Prop where
  /-- Nobody waits for himself, through whatever others. -/
  acyclic : ∀ client, ¬ Relation.TransGen
    (config.Waits provisioning readCommitted Statement.needs) client client
  /-- Who waits has locked nothing and waits for a saga, or has locked at most one saga and waits for an
  idempotency key. -/
  waiting : ∀ client other session, config.Waits provisioning readCommitted Statement.needs client other →
    config.sessions client = some session → ∃ holder, config.sessions other = some holder ∧
      ((session.locks = ∅ ∧ ∃ id, .saga id ∈ holder.locks) ∨
        ((∃ id, ∀ lock ∈ session.locks, lock = .saga id) ∧
          ∃ caller key, .mutation caller key ∈ holder.locks))
  /-- The effects and the downstream keys a transaction has locked are of sagas it has locked. -/
  rooted : ∀ client session, config.sessions client = some session →
    Rooted session.locks (session.view provisioning config.store)
  /-- Who waits, waits for somebody who can go on, and this one has a step. -/
  progress : ∀ client session, config.sessions client = some session →
    ∃ other, Relation.ReflTransGen (config.Waits provisioning readCommitted Statement.needs)
        client other ∧
      ∃ later, Step provisioning readCommitted config later ∧ config.Forward later other

/-- **Concurrent transactions do not deadlock**, when the UUIDs they draw are new. -/
theorem no_deadlock (concurrent : Concurrent config) (drawn : Drawn config) : DeadlockFree config := by
  have ranked := concurrent.ranked drawn
  refine ⟨ranked.acyclic, ?_, fun client session running => concurrent.rooted running,
    fun client session running => ?_⟩
  · rintro client other session ⟨differs, stuck, session', statement, next, answer, holder, lock,
      running', asks, seen, present, held, needed⟩ running
    rw [running'] at running
    cases running
    refine ⟨holder, present, ?_⟩
    rcases concurrent.waits_for drawn differs stuck running' asks seen present held needed with
      ⟨nothing, id, rfl⟩ | ⟨one, caller, key, rfl⟩
    · exact Or.inl ⟨nothing, id, held⟩
    · exact Or.inr ⟨one, caller, key, held⟩
  · have bounded : ∀ lock, Lock.rank lock ≤ 2 := fun lock => by cases lock <;> simp [Lock.rank]
    obtain ⟨other, chain, runs⟩ := ranked.progress bounded (fun session statement => config.sees session
      statement) (fun client session present => Reached.goes concurrent Event.begins present) running
    exact ⟨other, chain, runs.step fun _ _ _ => Set.subset_union_left⟩

end Deadlock

/-! ### A queue -/

namespace Rehearsal

/-- A retry after the rehearsal. -/
def waiting (key : String) : Event := .retry 100000009 37 (retry key 14 .retryFailed)

/-- A session that has sent nothing. -/
def begun (event : Event) : Session Statement Statement.Answer Abort Store Image Event Reply Lock :=
  ⟨event, event.program, [], ∅, none⟩

/-- It locks the saga first. -/
theorem begun_locks (key : String) : ∃ next, (begun (waiting key)).rest =
    .query ⟨"lock provisioning saga", .lockSaga 1 fun row => row.requestedBy = "operator"⟩ next ∧
      ∀ row error, next (some row) ≠ .abort error := by
  refine ⟨_, rfl, ?_⟩
  rintro row error ⟨⟩

theorem saga_found : ∃ row, (Store.saga store 1).filter (fun row => row.requestedBy = "operator") =
    some row :=
  Option.isSome_iff_exists.mp (by decide +kernel)

/-- **The first of two retries has locked the saga**, and the second waits for it. -/
theorem queued : ∃ config : Clients Nat, Concurrent config ∧ Drawn config ∧
    config.Waits provisioning readCommitted Statement.needs 1 0 := by
  obtain ⟨row, found⟩ := saga_found
  obtain ⟨next, asks, goes⟩ := begun_locks "one"
  obtain ⟨next', asks', -⟩ := begun_locks "two"
  have first : Concurrent (Configuration.set _ (0 : Nat) (some (begun (waiting "one")))) :=
    Reached.step (concurrent_of_played plays (0 : Nat)) (.begins rfl trivial)
  have alone : ∀ locks, Configuration.Free (Configuration.set (⟨(played script).1, (played script).2, [],
      fun _ => none⟩ : Clients Nat) 0 (some (begun (waiting "one")))) 0 locks := by
    intro locks other session differs present
    rw [Configuration.set_sessions, if_neg differs] at present
    cases present
  have locked := Reached.step first (.answers rfl asks (by exact Bool.false_ne_true)
    (show some row = _ from found.symm) (alone _) (goes row))
  have second := Reached.step locked (@Step.begins _ _ _ _ _ _ _ _ _ _ _ _ _ (1 : Nat)
    (waiting "two") rfl trivial)
  have owner : row.provisioningId = 1 :=
    (Store.saga_found.mp (Option.filter_eq_some_iff.mp found).1).2
  have taken : Sql.takes (.lockSaga 1 fun row => row.requestedBy = "operator") store (some row) =
      {.saga 1} := by
    rw [← owner]
    refine Set.Subset.antisymm ?_ Set.subset_union_left
    rintro lock (chosen | ⟨image, member, -⟩)
    · exact chosen
    · cases member
  refine ⟨_, second, drawn_of {.activity 37} fun client session running => ?_, ?_⟩
  · rw [Configuration.set_sessions] at running
    split at running
    · cases running
      exact ⟨Set.Subset.rfl, Set.disjoint_empty _⟩
    rw [Configuration.set_sessions] at running
    split at running
    · cases running
      refine ⟨Set.Subset.rfl, Set.disjoint_singleton_left.mpr ?_⟩
      rintro (impossible | inside)
      · exact impossible.elim
      · have impossible := taken.subset inside
        cases impossible
    · rw [Configuration.set_sessions, if_neg ‹_›] at running
      cases running
  · have held := taken.superset rfl
    refine ⟨by decide, ?_, _, _, next', some row, _, .saga 1, rfl, asks', found.symm, rfl, Or.inr held,
      Or.inl held⟩
    rintro ⟨session, running, ⟨reply, ends⟩ | ⟨op, next, asks, refusal | ⟨answer, seen, free⟩⟩⟩
    · cases running
      cases ends
    · cases running
      cases asks'.symm.trans asks
      cases refusal
    · cases running
      cases asks'.symm.trans asks
      have same : answer = some row := Eq.trans seen found
      rw [same] at free
      exact Set.disjoint_left.mp (free 0 _ (by decide) rfl) (Or.inl held) (Or.inr held)

end Rehearsal

/-- **Two retries of one saga**: the second waits for the first, and neither for himself. -/
theorem no_deadlock_rehearsed : ∃ config : Clients Nat,
    config.Waits provisioning readCommitted Statement.needs 1 0 ∧ DeadlockFree config := by
  obtain ⟨config, concurrent, drawn, waits⟩ := Rehearsal.queued
  exact ⟨config, waits, no_deadlock concurrent drawn⟩

end OrganizationProvisioning
