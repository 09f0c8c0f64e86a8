/-
**The two-step selections under concurrency.**

`claim_next` and `quarantine_expired` choose and lock a saga by one statement and select its effect by
the next. The first checks a saga that changed meanwhile with its new columns but with the effects of
its snapshot.

* `claims_find` — **`claim_next` always finds its effect**: a pending saga has one, whatever the
  snapshot was.
* `steadyLeases` — no lease on the chosen saga is newer than the snapshot, unless it has run out.
* `quarantines_find` — **then `quarantine_expired` always finds an expired effect**; `selections_find` — both.
* `quarantine_overtaken` — a newer lease on the saga that comes first in its queue makes it fail, and its whole
  batch roll back; `selections_overtaken` — so its selection may come up empty.
-/
import OrganizationProvisioning.Run.Concurrent
import OrganizationProvisioning.Run.Fate
import OrganizationProvisioning.Run.Skipping
import OrganizationProvisioning.Proof.Alone
import OrganizationProvisioning.Proof.Quarantine

namespace OrganizationProvisioning

open Relational Transactional Worklist

/-! ### Claims -/

/-- The errors of a claim that finds no effect to lease. -/
def MissingEffect (error : Abort) : Prop :=
  error = .storage (.database "lock provisioning effect") ∨
    error = .storage (.database "lock entitlement cleanup effect")

section Claims

variable {α : Type} {error otherwise : Abort}

theorem avoids_statement {operation : String} {sql : Sql}
    (differs : Abort.storage (.database operation) ≠ error) :
    postgres.Avoids error (exec operation sql) :=
  .perform differs

theorem avoids_expected {found : Option α} (differs : otherwise ≠ error) :
    postgres.Avoids error (expect otherwise found) := by
  cases found with
  | none => exact .abort differs
  | some value => exact .pure value

theorem MissingEffect.differs (missing : MissingEffect error) {other : Abort}
    (first : other ≠ .storage (.database "lock provisioning effect"))
    (second : other ≠ .storage (.database "lock entitlement cleanup effect")) : other ≠ error := by
  rintro rfl
  exact missing.elim first second

variable {store : Store} {now utcNow : Timestamp} {actor : String} {fence activityId : Uuid}
  {leaseSeconds : Int}

/-- A claim of a pending saga finds its effect. -/
theorem claimSaga_finds (missing : MissingEffect error) {id : Uuid} {saga : Saga}
    (shows : Shows store id saga) (coherent : Coherent saga)
    (pending : saga.row.status = .pending ∨ saga.row.status = .cleanupPending) :
    ¬ postgres.Aborts (claimSaga now utcNow actor fence activityId leaseSeconds saga.row) store
      error := by
  have other : ∀ operation, operation ∈ ["lease provisioning effect",
      "mark provisioning effect running", "insert provisioning activity",
      "read claimed provisioning inputs"] → Abort.storage (.database operation) ≠ error := by
    intro operation member
    simp only [List.mem_cons, List.not_mem_nil, or_false] at member
    rcases member with rfl | rfl | rfl | rfl <;> exact missing.differs (by decide) (by decide)
  have overflow : invalidData "effect lease overflow" ≠ error :=
    missing.differs (by decide) (by decide)
  refine postgres.not_aborts_bind (safe_dueEffect shows coherent pending) fun effect _ _ => ?_
  refine Engine.Avoids.not_aborts ?_
  refine .bind (avoids_expected overflow) fun leaseUntil => ?_
  refine .bind (avoids_statement (other _ (by simp))) fun leased => ?_
  refine .bind (avoids_expected (other _ (by simp))) fun leased => ?_
  refine .bind (avoids_statement (other _ (by simp))) fun updated => ?_
  refine .bind (avoids_expected (other _ (by simp))) fun updated => ?_
  refine .bind (avoids_statement (other _ (by simp))) fun _ => ?_
  refine .bind (avoids_statement (other _ (by simp))) fun inputs => ?_
  exact .bind (avoids_expected (other _ (by simp))) fun inputs => .pure _

/-- **A claim never misses its effect** on a store of a run. -/
theorem claimNext_finds {history : List Committed} (run : Run history store)
    (missing : MissingEffect error) :
    ¬ postgres.Aborts (claimNext now utcNow actor fence activityId leaseSeconds) store error := by
  refine postgres.not_aborts_bind
    (avoids_statement (missing.differs (by decide) (by decide))).not_aborts ?_
  intro found middle scanning
  obtain ⟨picked, rfl⟩ := commits_scanSagas.mp scanning
  cases found with
  | none => exact fun impossible => impossible
  | some row =>
    obtain ⟨present, stale, holds⟩ := picked row rfl
    obtain ⟨saga, rfl, shows, coherent⟩ := Run.shows run present
    refine postgres.not_aborts_bind (claimSaga_finds missing shows coherent ?_)
      fun _ _ _ impossible => impossible
    unfold claimable at holds
    simp only [Bool.or_eq_true, Bool.and_eq_true, decide_eq_true_eq] at holds
    exact holds.imp And.left And.left

end Claims

/-! ### Quarantines -/

/-- **No lease on the chosen saga is newer than the snapshot**, unless it has run out already. -/
def Sql.Steady : (sql : Sql) → Store → Store → sql.Answer → Prop
  | .scanSagas condition, snapshot, view, found => ∀ now row, condition = hasExpired now →
      found = some row → ∀ effect ∈ view.effectsOf row.provisioningId, effect.state = .inFlight →
        expired now effect = false → effect ∈ snapshot.effectsOf row.provisioningId
  | _, _, _, _ => True

/-- READ COMMITTED where no scan for expired leases meets a newer one. -/
def steadyLeases : Locking Statement Statement.Answer Store Lock where
  sees statement snapshot view answer :=
    readCommitted.sees statement snapshot view answer ∧ statement.sql.Steady snapshot view answer
  takes := readCommitted.takes

/-- The answers of a scan that looks for expired leases are sagas that have one. -/
def Sql.Current : (sql : Sql) → Store → sql.Answer → Prop
  | .scanSagas condition, store, found => Sql.Answers (.scanSagas condition) store found ∧
      ∀ now row, condition = hasExpired now → found = some row →
        hasExpired now row (store.effectsOf row.provisioningId) = true
  | sql, store, answer => sql.Answers store answer

/-- Such answers are answers. -/
theorem Sql.Current.answers {sql : Sql} {store : Store} {answer : sql.Answer}
    (current : sql.Current store answer) : sql.Answers store answer := by
  cases sql with
  | scanSagas condition => exact current.1
  | _ => exact current

/-- They are protected too. -/
theorem Sql.Current.stable {locks : Set Lock} {statement : Statement} {one two : Store}
    {answer : statement.Answer} (accepted : ¬ postgres.refuses statement one)
    (current : statement.sql.Current one answer) (safe : rowLocks.protects locks statement one answer)
    (agree : rowLocks.agrees (locks ∪ readCommitted.takes statement one answer) one two) :
    statement.sql.Current two answer := by
  have answered := (rowLocks.stable accepted current.answers safe agree).2.1
  have same := agree.1.effects
  obtain ⟨operation, sql⟩ := statement
  cases sql with
  | scanSagas condition =>
    refine ⟨answered, fun now row looks found => ?_⟩
    subst found
    rw [← same row.provisioningId (Or.inr (Or.inl rfl))]
    exact current.2 now row looks rfl
  | _ => exact answered

/-- The locks that protect the answers protect these. -/
def steadyLocks : Discipline (postgres.narrow fun statement store answer =>
    statement.sql.Current store answer) steadyLeases.takes :=
  rowLocks.narrow Sql.Current.answers Sql.Current.stable

section Steady

variable {history history' : List Committed} {store store' : Store} {now : Timestamp}

/-- **A running saga without a newer lease has an expired effect** when it had one. -/
theorem hasExpired_of_steady (run : Run history store) (run' : Run history' store')
    {row old : SagaRow} (found : store'.saga row.provisioningId = some row)
    (before : store.saga row.provisioningId = some old)
    (late : hasExpired now old (store.effectsOf row.provisioningId) = true)
    (again : hasExpired now row (store.effectsOf row.provisioningId) = true)
    (steady : ∀ effect ∈ store'.effectsOf row.provisioningId, effect.state = .inFlight →
      expired now effect = false → effect ∈ store.effectsOf row.provisioningId) :
    hasExpired now row (store'.effectsOf row.provisioningId) = true := by
  unfold hasExpired at late again ⊢
  rw [Bool.and_eq_true, decide_eq_true_eq] at late again ⊢
  refine ⟨again.1, ?_⟩
  obtain ⟨saga, rfl, shows, coherent⟩ := run'.shows found
  obtain ⟨past, focus, rest, split⟩ := coherent.split_of_status
    (by intro status; rw [status] at again; simp at again)
    (by intro status; rw [status] at again; simp at again)
  have member : focus ∈ store'.effectsOf saga.row.provisioningId := by
    rw [shows.effects]
    exact Coherent.phase_mem (split.jobs_eq ▸ by simp)
  have status := (coherent.status_of_split split).1
  have flying : focus.state = .inFlight := by
    rcases stage_open.mp split.focus_open with state | state | state | state <;>
      rw [state] at status
    all_goals
      first
      | exact state
      | exfalso
        cases requested : saga.row.cleanupRequested <;> rw [requested] at status <;>
          rcases again.1 with other | other <;> rw [status] at other <;> cases other
  by_contra fresh
  have unexpired : expired now focus = false := by
    rw [← Bool.not_eq_true]
    exact fun expires => fresh (List.any_eq_true.mpr ⟨focus, member, expires⟩)
  have there := steady focus member flying unexpired
  -- the expired effect of the snapshot is the only one in flight there, so it is the focus
  obtain ⟨effect, inside, expires⟩ := List.any_eq_true.mp late.2
  have flew := of_decide_eq_true (Bool.and_eq_true_iff.mp expires).1
  have owner : old.provisioningId = saga.row.provisioningId := (Store.saga_found.mp before).2
  rw [← owner] at before inside there
  have same := (inFlight_unique run.holds.coherent before inside flew).2 focus there flying
  rw [same, expires] at unexpired
  cases unexpired

/-- **The narrower system is lawful**: a scan meets an expired effect, on a saga it holds because the
snapshot shows the same effects, on any other because the lease is not newer. -/
theorem lawful_steady : @Lawful _ _ _ _ _ _ _ _
    (provisioning.narrow fun statement store answer => statement.sql.Current store answer)
    steadyLeases steadyLocks where
  stays := legal_stays
  guards run permitted :=
    (guarded_event (run.widen Sql.Current.answers) permitted).narrow Sql.Current.answers
      Sql.Current.stable
  sound := by
    intro past later store store' event statement next images locks answer before now' _ underway _
      agree seen
    have run : Run past store := before.widen Sql.Current.answers
    have run' : Run (past ++ later) store' := now'.widen Sql.Current.answers
    have covered : ∀ image ∈ images, image.Covered locks := underway.covers
    replace seen : steadyLeases.sees statement (postgres.install images store)
      (postgres.install images store') answer := seen
    obtain ⟨operation, sql⟩ := statement
    have answered := readCommitted_sound seen.1
    cases sql with
    | scanSagas condition =>
      refine ⟨answered, fun now row looks found => ?_⟩
      subst looks found
      obtain ⟨⟨old, stored, late⟩, present, again⟩ := seen.1 row rfl
      have steady := seen.2 now row rfl rfl
      show hasExpired now row ((postgres.install images store').effectsOf row.provisioningId) = true
      by_cases held : .saga row.provisioningId ∈ locks
      · rw [← (agree.1.install covered).effects _ held]
        exact again
      · have first := @concur_install store locks images covered
        have second := @concur_install store' locks images covered
        have saga := first.saga _ held
        have effects := first.effects _ held
        have saga' := second.saga _ held
        have effects' := second.effects _ held
        rw [← effects'] at steady ⊢
        rw [← effects] at late again steady
        exact hasExpired_of_steady run run' (saga'.trans present) (saga.trans stored) late again
          steady
    | _ => exact answered

/-- PostgreSQL where a scan for expired leases only meets sagas that have one. -/
def current : Engine Statement Statement.Answer Abort Store Image :=
  postgres.narrow fun statement store answer => statement.sql.Current store answer

/-- The quarantine of a saga with an expired effect finds it. -/
theorem quarantineSaga_finds {actor : String} {activityId : Uuid} {row : SagaRow}
    (late : hasExpired now row (store.effectsOf row.provisioningId) = true) :
    ¬ current.Aborts (quarantineSaga now actor activityId row) store lostEffect := by
  have other : ∀ operation, Abort.storage (.database operation) ≠ lostEffect := by
    rintro operation ⟨⟩
  unfold quarantineSaga
  refine current.not_aborts_bind (avoids_statement (other _)).narrow.not_aborts ?_
  intro rows middle selecting
  obtain ⟨-, selected, -⟩ := current.commits_perform.mp selecting
  have same : rows = orderBy updatedOrder
      ((store.effectsOf row.provisioningId).filter (expired now)) := selected
  obtain ⟨effect, inside, expires⟩ := List.any_eq_true.mp (Bool.and_eq_true_iff.mp late).2
  have some_row : rows ≠ [] := by
    rw [same]
    exact List.ne_nil_of_mem (by
      rw [mem_orderBy]
      exact List.mem_filter.mpr ⟨inside, expires⟩)
  obtain ⟨first, rest, rfl⟩ := List.exists_cons_of_ne_nil some_row
  refine Engine.Avoids.not_aborts (Engine.Avoids.narrow ?_)
  refine .bind (.pure first) fun effect => ?_
  refine .bind (avoids_expected (other _)) fun fence => ?_
  refine .bind (avoids_statement (other _)) fun _ => ?_
  refine .bind (avoids_statement (other _)) fun updated => ?_
  refine .bind (avoids_expected (other _)) fun updated => ?_
  exact .bind (avoids_statement (other _)) fun _ => .pure _

/-- **No iteration of such a quarantine misses its effect.** -/
theorem quarantineLoop_finds {actor : String} {activityId : Nat → Uuid} {fuel quarantined : Nat} :
    ¬ current.Aborts (quarantineLoop now actor activityId fuel quarantined) store lostEffect := by
  induction fuel generalizing store quarantined with
  | zero => exact fun impossible => impossible
  | succ fuel ih =>
    refine current.not_aborts_bind (avoids_statement (by rintro ⟨⟩)).narrow.not_aborts ?_
    intro found middle scanning
    obtain ⟨-, answered, rfl⟩ := current.commits_perform.mp scanning
    cases found with
    | none => exact fun impossible => impossible
    | some row =>
      have late := answered.2 now row rfl rfl
      exact current.not_aborts_bind (quarantineSaga_finds late) fun _ _ _ => ih

end Steady

/-- A quarantine scans for a saga, selects its expired effects, and gives up when there are none. -/
theorem quarantineExpired_asks (now : Timestamp) (actor : String) (activityId : Nat → Uuid) {limit : Int}
    (positive : 0 < limit) :
    ∃ next, (Event.quarantineExpired now actor activityId limit).program =
        .query ⟨"claim saga with expired effect", .scanSagas (hasExpired now)⟩ next ∧
      ∀ row : SagaRow, ∃ rest, next (some row) = .query ⟨"lock expired provisioning effect",
          .selectEffects row.provisioningId (expired now) updatedOrder⟩ rest ∧
        rest [] = .abort lostEffect := by
  obtain ⟨fuel, some_fuel⟩ : ∃ fuel, limit.toNat = fuel + 1 := ⟨limit.toNat - 1, by omega⟩
  have same : (Event.quarantineExpired now actor activityId limit).program =
      (quarantineLoop now actor activityId (fuel + 1) 0).bind fun count =>
        .pure (Reply.quarantined count) := by
    rw [← some_fuel]
    rfl
  rw [same]
  exact ⟨_, rfl, fun row => ⟨_, rfl, rfl⟩⟩

/-- A computed answer is one a statement may see. -/
theorem steadyLeases_computed (statement : Statement) (store : Store) :
    steadyLeases.sees statement store store (computed statement store) := by
  refine ⟨readCommitted_computed statement store, ?_⟩
  obtain ⟨operation, sql⟩ := statement
  cases sql with
  | scanSagas condition => exact fun _ _ _ _ _ member _ _ => member
  | _ => trivial

/-! ### Concurrent runs -/

/-- A saga that waits for a worker. -/
def unclaimedScript : List Instruction := [.call (.start 0 Rehearsal.ids Rehearsal.input)]

/-- A saga whose creation is leased. -/
def claimedScript : List Instruction := unclaimedScript ++ [Rehearsal.claim 1 101 21]

theorem claimedScript_plays : (play claimedScript [] Store.initial).isSome = true := by decide +kernel

/-- Its result arrives after the end of the lease, and the next effect is leased. -/
def renewal : List Instruction := [
  .settle 100000001 22 "worker" Rehearsal.accepting 1,
  Rehearsal.claim 100000002 102 23]

section Concurrent

variable {Client : Type} [DecidableEq Client] {config : Clients Client}

/-- No `claim_next` that failed failed for want of an effect. -/
def FindsClaimed (config : Clients Client) : Prop :=
  ∀ failure ∈ config.failures, ∀ now utcNow actor fence activityId leaseSeconds,
    failure.event = .claimNext now utcNow actor fence activityId leaseSeconds → ¬ MissingEffect failure.error

/-- No `quarantine_expired` that failed failed for want of an expired effect. -/
def FindsExpired (config : Clients Client) : Prop :=
  ∀ failure ∈ config.failures, ∀ now actor activityId limit,
    failure.event = .quarantineExpired now actor activityId limit → failure.error ≠ lostEffect

/-- A run whose scans meet no newer lease is a concurrent run. -/
theorem concurrent_of_steady (reached : Reached provisioning steadyLeases config) : Concurrent config := by
  have sees : ∀ {statement snapshot view answer}, steadyLeases.sees statement snapshot view answer →
      readCommitted.sees statement snapshot view answer := fun seen => seen.1
  exact reached.widen sees rfl

/-- A claim always finds its effect. -/
theorem Concurrent.finds_claimed (concurrent : Concurrent config) : FindsClaimed config := by
  intro failure member now utcNow actor fence activityId leaseSeconds called missing
  obtain ⟨-, store, run, -, failed⟩ := concurrent.failed member
  rw [called] at failed
  exact claimNext_finds run missing (postgres.aborts_map.mp failed)

/-- A quarantine that meets no newer lease finds an expired effect. -/
theorem finds_expired (reached : Reached provisioning steadyLeases config) : FindsExpired config := by
  intro failure member now actor activityId limit called lost
  obtain ⟨-, store, -, -, failed⟩ := (reached.narrow.refines lawful_steady).failures failure member
  rw [called, lost] at failed
  exact quarantineLoop_finds (current.aborts_map.mp failed)

/-- **`claim_next` always finds its effect**, in every concurrent run. -/
theorem claims_find (concurrent : Concurrent config) {failure : Failure Event Reply Store Abort}
    (member : failure ∈ config.failures) {now utcNow : Timestamp} {actor : String}
    {fence activityId : Uuid} {leaseSeconds : Int}
    (called : failure.event = .claimNext now utcNow actor fence activityId leaseSeconds) :
    ¬ MissingEffect failure.error :=
  concurrent.finds_claimed failure member now utcNow actor fence activityId leaseSeconds called

/-- A claim whose lease would end after the last timestamp fails, and not for want of an effect. -/
theorem claims_find_rehearsed :
    Concurrent (Clients.failing unclaimedScript
      (.claimNext 1 1 "worker" 101 21 9223372036854775807) (invalidData "effect lease overflow")) ∧
    ¬ MissingEffect (invalidData "effect lease overflow") := by
  have concurrent : Concurrent (Clients.failing unclaimedScript
      (.claimNext 1 1 "worker" 101 21 9223372036854775807) (invalidData "effect lease overflow")) :=
    reached_failing readCommitted_computed (by decide +kernel) (by exact trivial)
      (by rintro error ⟨⟩) (by decide +kernel)
  exact ⟨concurrent, claims_find concurrent List.mem_cons_self rfl⟩

/-- **`quarantine_expired` finds an expired effect** in every concurrent run without newer leases. -/
theorem quarantines_find (reached : Reached provisioning steadyLeases config)
    {failure : Failure Event Reply Store Abort} (member : failure ∈ config.failures)
    {now : Timestamp} {actor : String} {activityId : Nat → Uuid} {limit : Int}
    (called : failure.event = .quarantineExpired now actor activityId limit) :
    failure.error ≠ lostEffect :=
  finds_expired reached failure member now actor activityId limit called

/-- A quarantine whose activity id is taken. -/
theorem taken_reached : Reached provisioning steadyLeases (Clients.failing claimedScript
    (.quarantineExpired 100000000 "worker" (fun _ => 21) 10)
    (.storage (.database "insert provisioning activity"))) :=
  reached_failing steadyLeases_computed claimedScript_plays (by exact trivial) (by rintro error ⟨⟩)
    (by decide +kernel)

/-- It fails, and not for want of an effect. -/
theorem quarantines_find_rehearsed :
    Reached provisioning steadyLeases (Clients.failing claimedScript
      (.quarantineExpired 100000000 "worker" (fun _ => 21) 10)
      (.storage (.database "insert provisioning activity"))) ∧
    .storage (.database "insert provisioning activity") ≠ lostEffect :=
  ⟨taken_reached, quarantines_find taken_reached List.mem_cons_self rfl⟩

/-- The first saga of the queue is what a scan meets, if it still satisfies the condition. -/
theorem meets_of_first {condition : SagaRow → List EffectRow → Bool} {snapshot view : Store}
    {old row : SagaRow} (first : snapshot.first condition = some old)
    (found : view.saga old.provisioningId = some row)
    (again : condition row (snapshot.effectsOf row.provisioningId) = true) :
    (Sql.scanSagas condition).meets snapshot view (some row) := by
  obtain ⟨queue, same⟩ : ∃ queue, orderBy queueOrder (snapshot.sagas.rows.filter fun old =>
      condition old (snapshot.effectsOf old.provisioningId)) = old :: queue :=
    List.head?_eq_some_iff.mp first
  show some row = (List.filterMap _ (orderBy _ _)).head?
  rw [same, List.filterMap_cons, found, Option.filter_some, if_pos again]
  rfl

/-- **A script overtakes a quarantine**: the saga that comes first of those with an expired effect runs on a newer
lease after it. -/
structure Overtakes (now : Timestamp) (script : List Instruction) (past : List Committed) (before : Store)
    (history : List Committed) (after : Store) : Prop where
  played : play script past before = some (history, after)
  renewed : ∃ old row, before.first (hasExpired now) = some old ∧
    after.saga old.provisioningId = some row ∧ (row.status = .running ∨ row.status = .cleanupRunning) ∧
    (after.effectsOf old.provisioningId).any (expired now) = false

/-- The result of an effect arrives after the end of its lease, and the next effect is leased. -/
theorem renewal_overtakes : ∃ history store, Overtakes 100000000 renewal (played claimedScript).1
    (played claimedScript).2 history store := by
  have before : ((played claimedScript).2.first (hasExpired 100000000)).any (fun old =>
      decide (old.provisioningId = 1)) = true := by decide +kernel
  have after : (play renewal (played claimedScript).1 (played claimedScript).2).any (fun result =>
    (result.2.saga 1).any fun row => decide (row.status = .running) &&
      !((result.2.effectsOf 1).any (expired 100000000))) = true := by decide +kernel
  obtain ⟨old, first, named⟩ := (Option.any_eq_true ..).mp before
  have named := of_decide_eq_true named
  obtain ⟨⟨history, store⟩, played, after⟩ := (Option.any_eq_true ..).mp after
  obtain ⟨row, found, after⟩ := (Option.any_eq_true ..).mp after
  obtain ⟨running, renewed⟩ := Bool.and_eq_true_iff.mp after
  rw [Bool.not_eq_true'] at renewed
  exact ⟨history, store, played, old, row, first, by rw [named]; exact found,
    Or.inl (of_decide_eq_true running), by rw [named]; exact renewed⟩

section Overtaken

variable {client other : Client} {now : Timestamp} {script : List Instruction} {history : List Committed}
  {store : Store} {limit : Int}

/-- The steps of a quarantine that is overtaken, and of the client that overtakes it. -/
theorem leads_lost (differs : other ≠ client) (idle : config.sessions client = none)
    (idle' : config.sessions other = none) (unlocked : config.Unlocked other)
    (overtakes : Overtakes now script config.history config.store history store) (actor : String)
    (activityId : Nat → Uuid) (positive : 0 < limit) :
    ∃ config' : Clients Client, Leads provisioning undelayed config config' ∧ config'.history = history ∧
      config'.failures = config.failures ++
        [⟨.quarantineExpired now actor activityId limit, history, lostEffect⟩] := by
  obtain ⟨played, old, row, first, found, running, renewed⟩ := overtakes
  obtain ⟨stored, late⟩ := Store.first_some first
  have named : row.provisioningId = old.provisioningId := (Store.saga_found.mp found).2
  obtain ⟨next, scans, selects⟩ := quarantineExpired_asks now actor activityId positive
  obtain ⟨rest, selecting, gives_up⟩ := selects row
  have others : config.Unlocked client := by
    intro third present apart here
    by_cases same : third = other
    · rw [same, idle'] at here
      cases here
    · exact unlocked third present same here
  let overtaken : Clients Client := { config with history := history, store := store }
  have alone : overtaken.Unlocked client := others
  let seeking : Session Statement Statement.Answer Abort Store Image Event Reply Lock :=
    .opened (.quarantineExpired now actor activityId limit) (.query _ next) (some config.store)
  -- the transaction begins, and its scan takes the snapshot
  have looked : Leads provisioning undelayed config (config.set client (some seeking)) :=
    Leads.looks idle others (by trivial) scans
  -- the other client renews the lease
  have renewing : Leads provisioning undelayed (config.set client (some seeking))
      (overtaken.set client (some seeking)) :=
    leads_plays undelayed_computed (by rw [Configuration.set_sessions, if_neg differs, idle'])
      (unlocked.opened _ _ _) played
  -- the scan ends with the saga
  have again : hasExpired now row (config.store.effectsOf row.provisioningId) = true := by
    rw [named]
    exact Bool.and_eq_true_iff.mpr ⟨decide_eq_true running, (Bool.and_eq_true_iff.mp late).2⟩
  have met : undelayed.sees ⟨"claim saga with expired effect", .scanSagas (hasExpired now)⟩ config.store
      store (some row) := meets_of_first first found again
  have scanned : LoneStep provisioning undelayed (overtaken.set client (some seeking)) _ :=
    .answers (Function.update_self _ _ _) (alone.set _) rfl (by rintro ⟨⟩) met
      (by rw [selecting]; rintro error ⟨⟩)
  rw [Configuration.set_set] at scanned
  -- the next statement finds no effect of it
  have nothing : undelayed.sees ⟨"lock expired provisioning effect",
      .selectEffects row.provisioningId (expired now) updatedOrder⟩ store store
        ([] : List EffectRow) := by
    rw [← named, List.any_eq_false] at renewed
    show [] = orderBy updatedOrder ((store.effectsOf row.provisioningId).filter (expired now))
    rw [List.filter_eq_nil_iff.mpr renewed]
    rfl
  have failed : LoneStep provisioning undelayed (overtaken.set client (some (seeking.advanced provisioning
      undelayed store _ next (some row)))) _ :=
    .fails (Function.update_self _ _ _) (alone.set _) selecting (by rintro ⟨⟩) nothing gives_up
  exact ⟨_, ((looked.trans renewing).tail scanned).tail failed, rfl, rfl⟩

/-- **A renewed lease makes `quarantine_expired` fail.** Nobody holds a lock, and the saga that comes first of those
with an expired effect takes a newer lease before the quarantine comes to it: its scan returns that saga, and its
next statement finds no expired effect. -/
theorem quarantine_overtaken (concurrent : Concurrent config) (differs : other ≠ client)
    (idle : config.sessions client = none) (idle' : config.sessions other = none)
    (unlocked : config.Unlocked other)
    (overtakes : Overtakes now script config.history config.store history store) (actor : String)
    (activityId : Nat → Uuid) (positive : 0 < limit) :
    ∃ config' : Clients Client, Leads provisioning undelayed config config' ∧ Concurrent config' ∧
      config'.history = history ∧ config'.failures = config.failures ++
        [⟨.quarantineExpired now actor activityId limit, history, lostEffect⟩] := by
  obtain ⟨config', leads, same, failures⟩ :=
    leads_lost differs idle idle' unlocked overtakes actor activityId positive
  exact ⟨config', leads, concurrent.leads (Leads.widen sees_of_meets rfl leads), same, failures⟩

end Overtaken

/-- A quarantine looks for expired leases meanwhile, and fails. -/
theorem quarantine_overtaken_rehearsed : ∃ config : Clients Nat, Concurrent config ∧
    ∃ failure ∈ config.failures, failure.event =
      .quarantineExpired 100000000 "worker" (fun _ => 29) 10 ∧ failure.error = lostEffect := by
  obtain ⟨history, store, overtakes⟩ := renewal_overtakes
  obtain ⟨config, -, concurrent, -, failures⟩ := @quarantine_overtaken Nat _ _ 0 1 _ _ _ _ 10
    (concurrent_of_played claimedScript_plays 0) (by decide) rfl rfl
    (fun _ _ _ impossible => by cases impossible) overtakes "worker" (fun _ => 29) (by decide)
  exact ⟨config, concurrent, _, by rw [failures]; exact List.mem_cons_self, rfl, rfl⟩

/-- **The two-step selections find their effects**: a claim in every concurrent run, a quarantine in every one whose
scans for expired leases meet no newer one. -/
theorem selections_find (concurrent : Concurrent config) : FindsClaimed config ∧
    (Reached provisioning steadyLeases config → FindsExpired config) :=
  ⟨concurrent.finds_claimed, finds_expired⟩

/-- Both are found beside the quarantine that failed. -/
theorem selections_find_rehearsed :
    FindsClaimed (Clients.failing claimedScript (.quarantineExpired 100000000 "worker" (fun _ => 21) 10)
      (.storage (.database "insert provisioning activity"))) ∧
    FindsExpired (Clients.failing claimedScript (.quarantineExpired 100000000 "worker" (fun _ => 21) 10)
      (.storage (.database "insert provisioning activity"))) := by
  have finds := selections_find (concurrent_of_steady taken_reached)
  exact ⟨finds.1, finds.2 taken_reached⟩

/-- **The second selection may come up empty**: the quarantine that is overtaken finds no expired effect. -/
theorem selections_overtaken :
    ¬ ∀ config : Clients Nat, Concurrent config → FindsClaimed config ∧ FindsExpired config := by
  intro find
  obtain ⟨history, store, overtakes⟩ := renewal_overtakes
  let begun : Clients Nat := ⟨(played claimedScript).1, (played claimedScript).2, [], fun _ => none⟩
  obtain ⟨config, leads, -, failures⟩ := @leads_lost Nat _ begun 0 1 _ _ _ _ 10 (by decide) rfl rfl
    (fun _ _ _ impossible => by cases impossible) overtakes "worker" (fun _ => 29) (by decide)
  have concurrent : Concurrent config :=
    (concurrent_of_played claimedScript_plays 0).leads (Leads.widen sees_of_meets rfl leads)
  exact (find config concurrent).2 _ (by rw [failures]; exact List.mem_cons_self) _ _ _ _ rfl rfl

end Concurrent

end OrganizationProvisioning
