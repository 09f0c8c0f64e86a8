/-
**Runs whose scans pass over held sagas.**

Alone on a store, a scan `FOR UPDATE SKIP LOCKED` returns the first saga of its queue that satisfies its
condition. Beside others it passes over the sagas they hold, and a saga that changed since its snapshot it
checks with the effects of the snapshot.

* `Sql.Skips` — what a statement returns on one store when others hold some sagas; `skipping` — the engine with
  these answers; `Skipped` — its runs.
* `Event.CommitsOn`, `Event.FailsOn` — how a call ends on one store, exactly where it does not scan.
* `Run.commits_on`, `Run.fails_on` — **a call that ends on a store of a run ends so**; a quarantine also
  fails when its scan went by effects that have changed.
* `run_iff_skipped` — **the runs are those whose scans pass over held sagas.**
-/
import OrganizationProvisioning.Library.Locking
import OrganizationProvisioning.Proof.Alone
import OrganizationProvisioning.Proof.Sends
import OrganizationProvisioning.Run.Fate

namespace OrganizationProvisioning

open Relational Transactional

/-! ### Statements -/

section Statements

variable {store : Store}

/-- What a statement returns on one store when others hold some sagas. -/
def Sql.Skips (sql : Sql) (store : Store) (answer : sql.Answer) : Prop :=
  ∃ held : Uuid → Bool, answer = sql.answer held store

/-- A scan returns a saga that satisfies its condition, or none: the others may hold any of them. -/
theorem skips_scan {condition : SagaRow → List EffectRow → Bool} {found : Option SagaRow} :
    (Sql.scanSagas condition).Skips store found ↔ ∀ row, found = some row →
      store.saga row.provisioningId = some row ∧
        condition row (store.effectsOf row.provisioningId) = true := by
  constructor
  · rintro ⟨held, rfl⟩ row first
    have member := List.mem_of_mem_head? (Option.mem_def.mpr first)
    rw [mem_orderBy, List.mem_filter] at member
    exact ⟨Store.saga_found.mpr ⟨member.1, rfl⟩, (Bool.and_eq_true_iff.mp member.2).2⟩
  · intro satisfies
    cases found with
    | none =>
      refine ⟨fun _ => true, ?_⟩
      show none = (orderBy queueOrder (store.sagas.rows.filter fun _ => false)).head?
      rw [List.filter_false]
      rfl
    | some row =>
      obtain ⟨present, holds⟩ := satisfies row rfl
      -- the others hold every saga but this one
      refine ⟨fun id => decide (id ≠ row.provisioningId), ?_⟩
      have chosen : ∀ other, other ∈ orderBy queueOrder (store.sagas.rows.filter fun row' =>
          !decide (row'.provisioningId ≠ row.provisioningId) &&
            condition row' (store.effectsOf row'.provisioningId)) ↔ other = row := by
        intro other
        rw [mem_orderBy, List.mem_filter, Bool.and_eq_true, Bool.not_eq_true', decide_eq_false_iff_not,
          not_not]
        constructor
        · rintro ⟨member, same, -⟩
          exact Table.eq_of_key member (Store.saga_found.mp present).1 same
        · rintro rfl
          exact ⟨(Store.saga_found.mp present).1, rfl, holds⟩
      obtain ⟨first, queue, same⟩ := List.exists_cons_of_ne_nil (List.ne_nil_of_mem ((chosen row).mpr rfl))
      show some row = (orderBy queueOrder (store.sagas.rows.filter _)).head?
      rw [same, List.head?_cons, (chosen first).mp (by rw [same]; exact List.mem_cons_self)]

/-- A statement that does not scan returns what it returns alone. -/
theorem skips_iff (statement : Statement) (certain : statement.sql.scans = false) (store : Store)
    (answer : statement.Answer) :
    statement.sql.Skips store answer ↔ postgres.answers statement store answer := by
  obtain ⟨operation, sql⟩ := statement
  cases sql with
  | scanSagas condition => cases certain
  | _ => exact ⟨fun ⟨_, same⟩ => same, fun same => ⟨fun _ => false, same⟩⟩

/-- Such answers are answers. -/
theorem skips_answers {statement : Statement} {answer : statement.Answer}
    (skips : statement.sql.Skips store answer) : postgres.answers statement store answer := by
  obtain ⟨operation, sql⟩ := statement
  cases sql with
  | scanSagas condition =>
    intro row found
    obtain ⟨present, holds⟩ := skips_scan.mp skips row found
    exact ⟨(Store.saga_found.mp present).1, _, holds⟩
  | _ => exact (skips_iff _ rfl store answer).mp skips

end Statements

/-- PostgreSQL, one transaction at a time, where others hold some sagas. -/
def skipping : Engine Statement Statement.Answer Abort Store Image :=
  postgres.narrow fun statement store answer => statement.sql.Skips store answer

/-- The runs whose scans pass over held sagas. -/
abbrev Skipped :=
  Serial (provisioning.narrow fun statement store answer => statement.sql.Skips store answer)

section Programs

variable {α : Type} {store final : Store} {program : Transaction α} {result : α} {error : Abort}
  {operation : String} {condition : SagaRow → List EffectRow → Bool}

/-- A program without a scan ends as before. -/
theorem Certain.skipping_commits (certain : Certain program) :
    skipping.Commits program store result final ↔ postgres.Commits program store result final :=
  Engine.commits_narrow_iff skips_iff certain

theorem Certain.skipping_aborts (certain : Certain program) :
    skipping.Aborts program store error ↔ postgres.Aborts program store error :=
  Engine.aborts_narrow_iff skips_iff certain

/-- A scan that passes over held sagas. -/
theorem skipping_scan {found : Option SagaRow}
    (satisfies : ∀ row, found = some row → store.saga row.provisioningId = some row ∧
      condition row (store.effectsOf row.provisioningId) = true) :
    skipping.Commits (exec operation (.scanSagas condition)) store found store :=
  skipping.commits_perform.mpr ⟨by rintro ⟨⟩, skips_scan.mpr satisfies, rfl⟩

/-- A scan does not fail. -/
theorem not_aborts_scan : ¬ postgres.Aborts (exec operation (.scanSagas condition)) store error := by
  rw [aborts_exec]
  rintro ⟨⟨⟩, -⟩

end Programs

/-! ### Claims -/

section Claims

variable {history : List Committed} {store final : Store} {now utcNow : Timestamp} {actor : String}
  {fence activityId : Uuid} {leaseSeconds : Int} {error : Abort}

theorem certain_claimSaga {saga : SagaRow} :
    Certain (claimSaga now utcNow actor fence activityId leaseSeconds saga) :=
  asks_claimSaga Certain.plain fun _ _ => rfl

/-- The saga a claim returns is claimable now, whatever it was checked with: it is pending. -/
theorem claims_claimable (run : Run history store) {found : Option SagaRow}
    (picked : ∀ row, found = some row → store.saga row.provisioningId = some row ∧
      ∃ stale, claimable row stale = true) (row : SagaRow) (same : found = some row) :
    store.saga row.provisioningId = some row ∧
      claimable row (store.effectsOf row.provisioningId) = true := by
  obtain ⟨present, stale, holds⟩ := picked row same
  obtain ⟨saga, rfl, shows, coherent⟩ := run.shows present
  exact ⟨present, claimable_of_pending shows coherent (claimable_status holds)⟩

/-- **A claim commits as one whose scan passes over held sagas.** -/
theorem claimNext_skips (run : Run history store) {claimed : Option EffectRecord}
    (committed : postgres.Commits (claimNext now utcNow actor fence activityId leaseSeconds) store
      claimed final) :
    skipping.Commits (claimNext now utcNow actor fence activityId leaseSeconds) store claimed final := by
  obtain ⟨found, middle, scanning, rest⟩ := postgres.commits_bind.mp committed
  obtain ⟨picked, rfl⟩ := commits_scanSagas.mp scanning
  refine skipping.commits_bind.mpr ⟨found, _, skipping_scan (claims_claimable run picked), ?_⟩
  cases found with
  | none => exact rest
  | some row =>
    obtain ⟨record, after, claiming, ends⟩ := postgres.commits_bind.mp rest
    exact skipping.commits_bind.mpr
      ⟨record, after, certain_claimSaga.skipping_commits.mpr claiming, ends⟩

/-- **It fails as one.** -/
theorem claimNext_skips_aborts (run : Run history store)
    (aborts : postgres.Aborts (claimNext now utcNow actor fence activityId leaseSeconds) store error) :
    skipping.Aborts (claimNext now utcNow actor fence activityId leaseSeconds) store error := by
  rcases postgres.aborts_bind.mp aborts with scanning | ⟨found, middle, scanning, rest⟩
  · exact absurd scanning not_aborts_scan
  · obtain ⟨picked, rfl⟩ := commits_scanSagas.mp scanning
    refine skipping.aborts_bind.mpr
      (Or.inr ⟨found, _, skipping_scan (claims_claimable run picked), ?_⟩)
    cases found with
    | none => exact rest
    | some row =>
      exact skipping.aborts_map.mpr (certain_claimSaga.skipping_aborts.mpr (postgres.aborts_map.mp rest))

end Claims

/-! ### Quarantines -/

/-- The error of a quarantine that finds no expired effect. -/
def lostEffect : Abort := invalidData "expired effect disappeared while saga was locked"

section Quarantines

variable {store final : Store} {now : Timestamp} {actor : String} {error : Abort}

theorem certain_quarantineSaga {activityId : Uuid} {row : SagaRow} :
    Certain (quarantineSaga now actor activityId row) :=
  asks_quarantineSaga Certain.plain fun _ _ => rfl

/-- A saga that was chosen with other effects has an expired effect when it has one in flight that ran out. -/
theorem hasExpired_of_any {row : SagaRow} (chosen : ∃ stale, hasExpired now row stale = true)
    (some_expired : (store.effectsOf row.provisioningId).any (expired now) = true) :
    hasExpired now row (store.effectsOf row.provisioningId) = true := by
  obtain ⟨stale, holds⟩ := chosen
  exact Bool.and_eq_true_iff.mpr ⟨(Bool.and_eq_true_iff.mp holds).1, some_expired⟩

/-- **A quarantine of a saga without an expired effect is lost.** -/
theorem quarantineSaga_lost {activityId : Uuid} {row : SagaRow}
    (none_expired : (store.effectsOf row.provisioningId).any (expired now) = false) :
    alone (quarantineSaga now actor activityId row) store = .error lostEffect := by
  rw [List.any_eq_false] at none_expired
  have nothing : orderBy updatedOrder
      ((store.effectsOf row.provisioningId).filter (expired now)) = [] := by
    rw [List.filter_eq_nil_iff.mpr none_expired]
    rfl
  obtain ⟨rest, asks, gives_up⟩ : ∃ rest, quarantineSaga now actor activityId row =
      .query ⟨"lock expired provisioning effect",
        .selectEffects row.provisioningId (expired now) updatedOrder⟩ rest ∧
      rest [] = .abort lostEffect := ⟨_, rfl, rfl⟩
  unfold alone
  rw [asks, Engine.run, if_neg (by rintro ⟨⟩)]
  show postgres.run computed (rest (orderBy _ _)) _ = _
  rw [nothing, gives_up]
  rfl

/-- **A quarantine commits as one whose scans pass over held sagas.** -/
theorem quarantineLoop_skips {activityId : Nat → Uuid} {fuel quarantined count : Nat}
    (committed : postgres.Commits (quarantineLoop now actor activityId fuel quarantined) store count
      final) :
    skipping.Commits (quarantineLoop now actor activityId fuel quarantined) store count final := by
  induction fuel generalizing store quarantined with
  | zero => exact committed
  | succ fuel ih =>
    obtain ⟨found, middle, scanning, rest⟩ := postgres.commits_bind.mp committed
    obtain ⟨picked, same⟩ := commits_scanSagas.mp scanning
    subst middle
    cases found with
    | none =>
      exact skipping.commits_bind.mpr ⟨none, _, skipping_scan (fun _ impossible => by cases impossible), rest⟩
    | some row =>
      obtain ⟨present, chosen⟩ := picked row rfl
      obtain ⟨done, after, stopping, others⟩ := postgres.commits_bind.mp rest
      -- the saga has an expired effect, since it was quarantined
      have some_expired : (store.effectsOf row.provisioningId).any (expired now) = true := by
        by_contra none_expired
        rw [certain_quarantineSaga.commits_iff,
          quarantineSaga_lost (Bool.not_eq_true _ ▸ none_expired)] at stopping
        cases stopping
      refine skipping.commits_bind.mpr ⟨some row, _, skipping_scan ?_, ?_⟩
      · rintro _ ⟨⟩
        exact ⟨present, hasExpired_of_any chosen some_expired⟩
      · exact skipping.commits_bind.mpr
          ⟨done, after, certain_quarantineSaga.skipping_commits.mpr stopping, ih others⟩

/-- **It fails as one**, or its last scan went by effects that have changed. -/
theorem quarantineLoop_skips_aborts {activityId : Nat → Uuid} {fuel quarantined : Nat}
    (aborts : postgres.Aborts (quarantineLoop now actor activityId fuel quarantined) store error) :
    skipping.Aborts (quarantineLoop now actor activityId fuel quarantined) store error ∨
      error = lostEffect := by
  induction fuel generalizing store quarantined with
  | zero => exact aborts.elim
  | succ fuel ih =>
    rcases postgres.aborts_bind.mp aborts with scanning | ⟨found, middle, scanning, rest⟩
    · exact absurd scanning not_aborts_scan
    obtain ⟨picked, same⟩ := commits_scanSagas.mp scanning
    subst middle
    cases found with
    | none => exact rest.elim
    | some row =>
      obtain ⟨present, chosen⟩ := picked row rfl
      cases some_expired : (store.effectsOf row.provisioningId).any (expired now) with
      | false =>
        -- the quarantine of this saga is lost
        have lost := @quarantineSaga_lost _ now actor (activityId quarantined) _ some_expired
        rcases postgres.aborts_bind.mp rest with stopping | ⟨_, _, stopping, -⟩
        · rw [certain_quarantineSaga.aborts_iff, lost] at stopping
          cases stopping
          exact Or.inr rfl
        · rw [certain_quarantineSaga.commits_iff, lost] at stopping
          cases stopping
      | true =>
        have scan : skipping.Commits (exec "claim saga with expired effect" (.scanSagas (hasExpired now)))
            store (some row) store := by
          refine skipping_scan ?_
          rintro _ ⟨⟩
          exact ⟨present, hasExpired_of_any chosen some_expired⟩
        rcases postgres.aborts_bind.mp rest with stopping | ⟨done, after, stopping, others⟩
        · exact Or.inl (skipping.aborts_bind.mpr (Or.inr ⟨some row, _, scan, skipping.aborts_bind.mpr
            (Or.inl (certain_quarantineSaga.skipping_aborts.mpr stopping))⟩))
        · exact (ih others).imp_left fun on => skipping.aborts_bind.mpr (Or.inr ⟨some row, _, scan,
            skipping.aborts_bind.mpr (Or.inr
              ⟨done, after, certain_quarantineSaga.skipping_commits.mpr stopping, on⟩)⟩)

end Quarantines

/-! ### Calls -/

/-- The calls of the worker that scan for a saga. -/
def Event.scans : Event → Bool
  | .claimNext .. | .quarantineExpired .. => true
  | .start .. | .retry .. | .requestCleanup .. | .finalizeEffect .. => false

/-- A quarantine that chose a saga by the effects of a snapshot, and finds no expired effect of it. -/
def Event.Loses : Event → Abort → Prop
  | .quarantineExpired .., error => error = lostEffect
  | .start .., _ | .retry .., _ | .requestCleanup .., _ | .claimNext .., _ | .finalizeEffect .., _ => False

/-- **How a call commits on one store**: as it does alone, save that a scan passes over the sagas others hold. -/
def Event.CommitsOn (event : Event) (store : Store) (reply : Reply) (final : Store) : Prop :=
  match event.scans with
  | false => alone event.program store = .ok (reply, final)
  | true => skipping.Commits event.program store reply final

/-- **How a call fails on one store**: as it does alone, save that a scan passes over the sagas others hold, and
that a quarantine may be lost. -/
def Event.FailsOn (event : Event) (store : Store) (error : Abort) : Prop :=
  match event.scans with
  | false => alone event.program store = .error error
  | true => skipping.Aborts event.program store error ∨ event.Loses error

/-- A call that does not scan ends in one way. -/
theorem Event.certain {event : Event} (exactly : event.scans = false) : Certain event.program := by
  cases event with
  | start => exact .bind Certain.start fun _ => .pure _
  | retry => exact .bind Certain.retry fun _ => .pure _
  | requestCleanup => exact .bind Certain.requestCleanup fun _ => .pure _
  | finalizeEffect => exact .bind Certain.finalizeEffect fun _ => .pure _
  | claimNext | quarantineExpired => cases exactly

/-- A call with a key does not scan. -/
theorem Event.certain_of_keyed {event : Event} {request : KeyedRequest} (keyed : event.keyed = some request) :
    Certain event.program := by
  refine Event.certain ?_
  cases event with
  | start | retry | requestCleanup | finalizeEffect => rfl
  | quarantineExpired | claimNext => cases keyed

section Calls

variable {history : List Committed} {store final : Store} {event : Event} {reply : Reply} {error : Abort}

/-- **A call that commits on a store of a run commits alone.** -/
theorem Run.commits_on (run : Run history store)
    (committed : postgres.Commits event.program store reply final) :
    event.CommitsOn store reply final := by
  unfold Event.CommitsOn
  cases scans : event.scans with
  | false => exact (Event.certain scans).commits_iff.mp committed
  | true =>
    cases event with
    | claimNext =>
      obtain ⟨claimed, after, claiming, ends⟩ := postgres.commits_bind.mp committed
      exact skipping.commits_bind.mpr ⟨claimed, after, claimNext_skips run claiming, ends⟩
    | quarantineExpired =>
      obtain ⟨count, after, stopping, ends⟩ := postgres.commits_bind.mp committed
      exact skipping.commits_bind.mpr ⟨count, after, quarantineLoop_skips stopping, ends⟩
    | start | retry | requestCleanup | finalizeEffect => cases scans

/-- **A call that fails on a store of a run fails alone.** -/
theorem Run.fails_on (run : Run history store) (aborts : postgres.Aborts event.program store error) :
    event.FailsOn store error := by
  unfold Event.FailsOn
  cases scans : event.scans with
  | false => exact (Event.certain scans).aborts_iff.mp aborts
  | true =>
    cases event with
    | claimNext =>
      exact Or.inl (skipping.aborts_map.mpr (claimNext_skips_aborts run (postgres.aborts_map.mp aborts)))
    | quarantineExpired =>
      exact (quarantineLoop_skips_aborts (postgres.aborts_map.mp aborts)).imp_left skipping.aborts_map.mpr
    | start | retry | requestCleanup | finalizeEffect => cases scans

/-- A call that commits alone is a commit of the engine whose scans pass over held sagas. -/
theorem Event.CommitsOn.skipping (commits : event.CommitsOn store reply final) :
    skipping.Commits event.program store reply final := by
  unfold Event.CommitsOn at commits
  cases scans : event.scans with
  | false =>
    rw [scans] at commits
    have certain := Event.certain scans
    exact certain.skipping_commits.mpr (certain.commits_iff.mpr commits)
  | true =>
    rw [scans] at commits
    exact commits

/-- **The runs are those whose scans pass over held sagas.** -/
theorem run_iff_skipped : Run history store ↔ Skipped history store := by
  refine ⟨fun run => ?_, Serial.widen skips_answers⟩
  induction run with
  | start => exact .start
  | commit earlier legal committed ih =>
    exact .commit ih legal (Run.commits_on earlier committed).skipping

end Calls

end OrganizationProvisioning
