/-
**Calls that run alone go through.**

* `claimSaga_safe`, `quarantineSaga_safe` — what a claim or a quarantine sends once it has its saga cannot
  fail, when its activity id is new, the lease ends in time and the attempts have room.
* `Store.first` — the saga a scan takes when nothing is locked.
* `hasMore_iff` — `has_more` is true exactly when one of the two scans finds a saga.
* `claimNext_runs`, `quarantineLoop_runs` — alone, a claim and a batch of quarantines go through.
-/
import OrganizationProvisioning.Proof.Admission
import OrganizationProvisioning.Library.Computed
import OrganizationProvisioning.Model.Worker

namespace OrganizationProvisioning

open Relational Transactional Worklist

/-! ### Statements that go through -/

section Statements

variable {α : Type} {operation : String} {store : Store} {error otherwise : Abort}

/-- A statement that is not refused does not fail. -/
theorem safe_exec {sql : Sql} (admitted : postgres.Admitted (exec operation sql) store) :
    ¬ postgres.Aborts (exec operation sql) store error := by
  rw [aborts_exec]
  rintro ⟨refused, -⟩
  unfold exec at admitted
  rw [Engine.admitted_perform] at admitted
  exact admitted refused

/-- A statement that only reads does not fail. -/
theorem safe_read {sql : Sql} (reads : sql.refuses store = false) :
    ¬ postgres.Aborts (exec operation sql) store error :=
  safe_exec (admitted_read reads)

theorem safe_expect {found : Option α} (present : found ≠ none) :
    ¬ postgres.Aborts (expect otherwise found) store error := by
  rw [aborts_expect]
  exact fun failed => present failed.1

theorem safe_fetchOne {found : Option α} (present : found ≠ none) :
    ¬ postgres.Aborts (fetchOne operation found) store error :=
  safe_expect present

theorem safe_require {condition : Bool} (holds : condition = true) :
    ¬ postgres.Aborts (require condition otherwise) store error := by
  rw [aborts_require, holds]
  rintro ⟨impossible, -⟩
  cases impossible

end Statements

/-! ### Claims -/

section Claim

variable {store : Store} {now utcNow : Timestamp} {actor : String} {fence activityId : Uuid}
  {leaseSeconds : Int} {id : Uuid} {saga : Saga} {error : Abort}

/-- A claim finds the effect of a pending saga. -/
theorem safe_dueEffect (shows : Shows store id saga) (coherent : Coherent saga)
    (pending : saga.row.status = .pending ∨ saga.row.status = .cleanupPending) :
    ¬ postgres.Aborts (dueEffect saga.row) store error := by
  unfold dueEffect
  rw [shows.id_eq]
  cases requested : saga.row.cleanupRequested with
  | true =>
    refine postgres.not_aborts_bind (safe_read rfl) fun rows _ selecting => safe_fetchOne ?_
    obtain ⟨rfl, rfl⟩ := commits_selectEffects.mp selecting
    rw [shows.effects]
    exact coherent.finds_due pending _ fun row => by rw [requested]; simp [relevant]
  | false =>
    refine postgres.not_aborts_bind (safe_read rfl) fun rows _ selecting => safe_fetchOne ?_
    obtain ⟨rfl, rfl⟩ := commits_selectEffects.mp selecting
    rw [shows.effects]
    exact coherent.finds_due pending _ fun row => by rw [requested]; simp [relevant]

/-- **A claim of a pending saga cannot roll back.** -/
theorem claimSaga_safe (checked : Checked store) (spare : Spare store)
    (room : saga.row.revision < 9223372036854775807)
    (fresh : store.activity.find activityId = none)
    (lease : (leaseEnd utcNow leaseSeconds).isSome) (shows : Shows store id saga)
    (coherent : Coherent saga)
    (pending : saga.row.status = .pending ∨ saga.row.status = .cleanupPending) :
    ¬ postgres.Aborts (claimSaga now utcNow actor fence activityId leaseSeconds saga.row) store
      error := by
  have present : store.saga saga.row.provisioningId = some saga.row := by
    rw [shows.id_eq]
    exact shows.row
  have admitted := @admitted_claimSaga store now utcNow actor fence activityId leaseSeconds saga.row
    checked room spare present fresh
  unfold claimSaga at admitted ⊢
  refine postgres.not_aborts_bind (safe_dueEffect shows coherent pending) fun effect _ due => ?_
  have more := (postgres.admitted_bind.mp admitted).2 effect _ due
  obtain ⟨rfl, stored, -⟩ := dueEffect_stored due
  refine postgres.not_aborts_bind (safe_expect ?_) fun leaseUntil _ ending => ?_
  · intro none
    rw [none] at lease
    cases lease
  replace more := (postgres.admitted_bind.mp more).2 leaseUntil _ ending
  obtain ⟨-, rfl⟩ := commits_expect.mp ending
  have parts := postgres.admitted_bind.mp more
  refine postgres.not_aborts_bind (safe_exec parts.1) fun leased _ leasing => ?_
  replace more := parts.2 leased _ leasing
  obtain ⟨-, same, rfl⟩ := commits_updateEffect.mp leasing
  refine postgres.not_aborts_bind (safe_fetchOne ?_) fun leasedRow _ fetching => ?_
  · rw [same, Option.filter_all, stored]
    exact fun impossible => by cases impossible
  replace more := (postgres.admitted_bind.mp more).2 leasedRow _ fetching
  obtain ⟨-, rfl⟩ := commits_fetchOne.mp fetching
  replace parts := postgres.admitted_bind.mp more
  refine postgres.not_aborts_bind (safe_exec parts.1) fun updated _ moving => ?_
  replace more := parts.2 updated _ moving
  obtain ⟨-, same, rfl⟩ := commits_updateSaga.mp moving
  refine postgres.not_aborts_bind (safe_fetchOne ?_) fun updatedRow _ fetching => ?_
  · rw [same, saga_setEffects, present]
    exact fun impossible => by cases impossible
  replace more := (postgres.admitted_bind.mp more).2 updatedRow _ fetching
  obtain ⟨-, rfl⟩ := commits_fetchOne.mp fetching
  replace parts := postgres.admitted_bind.mp more
  refine postgres.not_aborts_bind (safe_exec parts.1) fun _ _ noting => ?_
  obtain ⟨-, rfl⟩ := commits_activity.mp noting
  refine postgres.not_aborts_bind (safe_read rfl) fun inputs _ reading => ?_
  obtain ⟨rfl, rfl⟩ := commits_selectSaga.mp reading
  refine postgres.not_aborts_bind (safe_fetchOne ?_) fun _ _ _ impossible => impossible
  rw [Option.filter_all, saga_addActivity, saga_setSaga, if_pos rfl, saga_setEffects, present]
  exact fun impossible => by cases impossible

end Claim

/-! ### Quarantines -/

section Quarantine

variable {store : Store} {now : Timestamp} {actor : String} {activityId : Uuid} {row : SagaRow}
  {error : Abort}

/-- **A quarantine of a saga with an expired effect cannot roll back.** -/
theorem quarantineSaga_safe (checked : Checked store)
    (present : store.saga row.provisioningId = some row)
    (room : row.revision < 9223372036854775807) (fresh : store.activity.find activityId = none)
    (late : hasExpired now row (store.effectsOf row.provisioningId) = true) :
    ¬ postgres.Aborts (quarantineSaga now actor activityId row) store error := by
  have admitted := (@admitted_quarantineSaga store now actor row activityId checked present room
    fresh).1
  unfold quarantineSaga at admitted ⊢
  refine postgres.not_aborts_bind (safe_read rfl) fun rows middle selecting => ?_
  replace admitted := (postgres.admitted_bind.mp admitted).2 rows middle selecting
  obtain ⟨rfl, same⟩ := commits_selectEffects.mp selecting
  subst middle
  refine postgres.not_aborts_bind (safe_expect ?_) fun effect _ taking => ?_
  · -- The scan saw an expired effect, and this statement selects the same rows.
    obtain ⟨effect, member, expires⟩ := List.any_eq_true.mp (Bool.and_eq_true_iff.mp late).2
    rw [ne_eq, List.head?_eq_none_iff]
    intro empty
    have here : effect ∈ orderBy updatedOrder
        ((store.effectsOf row.provisioningId).filter (expired now)) := by
      rw [mem_orderBy]
      exact List.mem_filter.mpr ⟨member, expires⟩
    rw [empty] at here
    cases here
  replace admitted := (postgres.admitted_bind.mp admitted).2 effect _ taking
  obtain ⟨head, rfl⟩ := commits_expect.mp taking
  have chosen := List.mem_of_mem_head? (Option.mem_def.mpr head)
  rw [mem_orderBy, List.mem_filter] at chosen
  have stored := (Store.mem_effectsOf.mp chosen.1).1
  refine postgres.not_aborts_bind (safe_fetchOne ?_) fun previousFence _ fetching => ?_
  · -- An effect in flight has a fence.
    have flying := of_decide_eq_true (Bool.and_eq_true_iff.mp chosen.2).1
    have lease := checked.effects effect (Store.effect_found.mp stored).1
    have progress := (Bool.and_eq_true_iff.mp lease).2
    unfold EffectProgress.checked at progress
    rcases (of_decide_eq_true progress).2 with ⟨-, token, -⟩ | ⟨landed, -⟩
    · exact Option.isSome_iff_ne_none.mp token
    · exact absurd flying landed
  replace admitted := (postgres.admitted_bind.mp admitted).2 previousFence _ fetching
  obtain ⟨-, rfl⟩ := commits_fetchOne.mp fetching
  have parts := postgres.admitted_bind.mp admitted
  refine postgres.not_aborts_bind (safe_exec parts.1) fun stopped _ stopping => ?_
  replace admitted := parts.2 stopped _ stopping
  obtain ⟨-, -, rfl⟩ := commits_updateEffect.mp stopping
  replace parts := postgres.admitted_bind.mp admitted
  refine postgres.not_aborts_bind (safe_exec parts.1) fun updated _ moving => ?_
  replace admitted := parts.2 updated _ moving
  obtain ⟨-, same, rfl⟩ := commits_updateSaga.mp moving
  refine postgres.not_aborts_bind (safe_fetchOne ?_) fun updatedRow _ fetching => ?_
  · rw [same, saga_setEffects, present]
    exact fun impossible => by cases impossible
  replace admitted := (postgres.admitted_bind.mp admitted).2 updatedRow _ fetching
  obtain ⟨-, rfl⟩ := commits_fetchOne.mp fetching
  exact safe_exec admitted

end Quarantine

/-! ### Scans -/

section Scan

variable {store : Store} {condition : SagaRow → List EffectRow → Bool}

/-- The saga a scan takes when nothing is locked. -/
def Store.first (store : Store) (condition : SagaRow → List EffectRow → Bool) : Option SagaRow :=
  (orderBy queueOrder (store.sagas.rows.filter fun row =>
    condition row (store.effectsOf row.provisioningId))).head?

theorem Store.first_some {row : SagaRow} (found : store.first condition = some row) :
    store.saga row.provisioningId = some row ∧
      condition row (store.effectsOf row.provisioningId) = true := by
  have member := List.mem_of_mem_head? (Option.mem_def.mpr found)
  rw [mem_orderBy, List.mem_filter] at member
  exact ⟨Store.saga_found.mpr ⟨member.1, rfl⟩, member.2⟩

/-- **Alone, a scan finds a saga exactly when one satisfies its condition.** -/
theorem Store.first_none : store.first condition = none ↔
    ∀ row ∈ store.sagas.rows, condition row (store.effectsOf row.provisioningId) = false := by
  unfold Store.first
  rw [List.head?_eq_none_iff]
  constructor
  · intro empty row member
    by_contra holds
    have here : row ∈ orderBy queueOrder (store.sagas.rows.filter fun row =>
        condition row (store.effectsOf row.provisioningId)) := by
      rw [mem_orderBy]
      exact List.mem_filter.mpr ⟨member, by simpa using holds⟩
    rw [empty] at here
    cases here
  · intro none
    rw [List.eq_nil_iff_forall_not_mem]
    intro row member
    rw [mem_orderBy, List.mem_filter] at member
    have fails := none row member.1
    rw [member.2] at fails
    cases fails

/-- A claimable saga is pending. -/
theorem claimable_status {row : SagaRow} {effects : List EffectRow}
    (due : claimable row effects = true) :
    row.status = .pending ∨ row.status = .cleanupPending := by
  simp only [claimable, Bool.or_eq_true, Bool.and_eq_true, decide_eq_true_eq] at due
  rcases due with ⟨status, -⟩ | ⟨status, -⟩
  · exact Or.inl status
  · exact Or.inr status

/-- **A pending saga is claimable.** -/
theorem claimable_of_pending {id : Uuid} {saga : Saga} (shows : Shows store id saga)
    (coherent : Coherent saga)
    (pending : saga.row.status = .pending ∨ saga.row.status = .cleanupPending) :
    claimable saga.row (store.effectsOf saga.row.provisioningId) = true := by
  obtain ⟨past, focus, rest, split, waits, -⟩ := coherent.waiting pending
  have kind := coherent.phase_kind split.focus_mem
  have status := (coherent.status_of_split split).1
  rw [waits] at status
  have member : focus ∈ store.effectsOf saga.row.provisioningId := by
    rw [shows.id_eq, shows.effects]
    exact Coherent.phase_mem split.focus_mem
  simp only [claimable, Bool.or_eq_true, Bool.and_eq_true, decide_eq_true_eq, List.any_eq_true]
  cases requested : saga.row.cleanupRequested with
  | false =>
    rw [requested] at kind status
    exact Or.inl ⟨status, focus, member, waits, by simpa using kind⟩
  | true =>
    rw [requested] at kind status
    refine Or.inr ⟨status, focus, member, waits, ?_⟩
    cases shape : focus.kind with
    | revokeEntitlement => rfl
    | _ =>
      rw [shape] at kind
      cases kind

/-- **Alone, a claim finds nothing exactly when no saga is pending.** -/
theorem first_claimable (all : AllCoherent store) : store.first claimable = none ↔
    ∀ row ∈ store.sagas.rows, row.status ≠ .pending ∧ row.status ≠ .cleanupPending := by
  rw [Store.first_none]
  refine forall₂_congr fun row member => ?_
  have present : store.saga row.provisioningId = some row := Store.saga_found.mpr ⟨member, rfl⟩
  obtain ⟨saga, shows, coherent⟩ := all _ row present
  have same : saga.row = row := Option.some.inj (shows.row.symm.trans present)
  rw [← same, ← not_or, ← Bool.not_eq_true]
  exact not_congr ⟨claimable_status, claimable_of_pending shows coherent⟩

theorem scan_alone {α : Type} {operation : String} {rest : Option SagaRow → Transaction α} :
    alone ((exec operation (.scanSagas condition)).bind rest) store =
      alone (rest (store.first condition)) store := rfl

end Scan

/-! ### `has_more` -/

section Predict

variable {store : Store} {now : Timestamp}

/-- **`has_more` is true exactly when a scan finds a saga.** -/
theorem hasMore_iff (all : AllCoherent store) : hasMore now store = true ↔
    store.first claimable ≠ none ∨ store.first (hasExpired now) ≠ none := by
  simp only [hasMore, List.any_eq_true, Option.any_eq_true, Bool.or_eq_true, Bool.and_eq_true,
    decide_eq_true_eq]
  constructor
  · rintro ⟨effect, member, row, found, ⟨-, pending⟩ | ⟨expires, running⟩⟩
    · refine Or.inl fun none => ?_
      have here := (first_claimable all).mp none row (Store.saga_found.mp found).1
      rcases pending with status | status
      · exact here.1 status
      · exact here.2 status
    · refine Or.inr fun none => ?_
      obtain ⟨inside, named⟩ := Store.saga_found.mp found
      have here := Store.first_none.mp none row inside
      have owned : effect ∈ store.effectsOf row.provisioningId :=
        List.mem_filter.mpr ⟨member, decide_eq_true named.symm⟩
      rw [hasExpired, decide_eq_true running, Bool.true_and, List.any_eq_false] at here
      exact here effect owned expires
  · rintro (found | found)
    · obtain ⟨row, first⟩ := Option.ne_none_iff_exists'.mp found
      obtain ⟨present, due⟩ := Store.first_some first
      obtain ⟨saga, shows, coherent⟩ := all _ row present
      have same : saga.row = row := Option.some.inj (shows.row.symm.trans present)
      have pending := claimable_status due
      rw [← same] at pending
      obtain ⟨past, focus, rest, split, waits, -⟩ := coherent.waiting pending
      have stored := shows.stored (Coherent.phase_mem split.focus_mem)
      refine ⟨focus, (Store.effect_found.mp stored).1, saga.row, ?_, Or.inl ⟨waits, pending⟩⟩
      rw [coherent.owned focus (Coherent.phase_mem split.focus_mem), shows.id_eq]
      exact shows.row
    · obtain ⟨row, first⟩ := Option.ne_none_iff_exists'.mp found
      obtain ⟨present, late⟩ := Store.first_some first
      obtain ⟨running, some⟩ := Bool.and_eq_true_iff.mp late
      obtain ⟨effect, member, expires⟩ := List.any_eq_true.mp some
      obtain ⟨stored, owner⟩ := Store.mem_effectsOf.mp member
      refine ⟨effect, (Store.effect_found.mp stored).1, row, ?_,
        Or.inr ⟨expires, of_decide_eq_true running⟩⟩
      rw [owner]
      exact present

end Predict

/-! ### Calls -/

section Calls

variable {store : Store} {now utcNow : Timestamp} {actor : String}

/-- A claim, alone. -/
theorem claimNext_alone {fence activityId : Uuid} {leaseSeconds : Int} :
    alone (claimNext now utcNow actor fence activityId leaseSeconds) store =
      match store.first claimable with
      | none => .ok (none, store)
      | some row =>
        (alone (claimSaga now utcNow actor fence activityId leaseSeconds row) store).map
          fun pair => (some pair.1, pair.2) := by
  unfold claimNext
  rw [Tx.bind_eq, scan_alone]
  cases store.first claimable with
  | none => rfl
  | some row =>
    show alone (Tx.bind _ _) store = _
    unfold alone
    rw [postgres.run_bind]
    rfl

/-- A claim finds nothing exactly when no saga is claimable, and then leaves the store as it is. -/
theorem claimNext_found {fence activityId : Uuid} {leaseSeconds : Int}
    {found : Option EffectRecord} {final : Store}
    (ran : alone (claimNext now utcNow actor fence activityId leaseSeconds) store =
      .ok (found, final)) :
    (found = none ↔ store.first claimable = none) ∧ (found = none → final = store) := by
  rw [claimNext_alone] at ran
  cases scanned : store.first claimable with
  | none =>
    rw [scanned] at ran
    cases ran
    exact ⟨by simp, fun _ => rfl⟩
  | some row =>
    rw [scanned] at ran
    simp only at ran
    cases first : alone (claimSaga now utcNow actor fence activityId leaseSeconds row) store with
    | error error =>
      rw [first] at ran
      cases ran
    | ok pair =>
      rw [first] at ran
      cases ran
      exact ⟨by simp, fun impossible => by cases impossible⟩

/-- **Alone, a claim goes through** when its activity id is new, the lease ends in time and the attempts
of the pending effects have room. -/
theorem claimNext_runs {fence activityId : Uuid} {leaseSeconds : Int} (all : AllCoherent store)
    (checked : Checked store) (spare : Spare store)
    (room : ∀ row ∈ store.sagas.rows, row.revision < 9223372036854775807)
    (fresh : store.activity.find activityId = none)
    (lease : (leaseEnd utcNow leaseSeconds).isSome) :
    ∃ found final, alone (claimNext now utcNow actor fence activityId leaseSeconds) store =
      .ok (found, final) := by
  rw [claimNext_alone]
  cases scanned : store.first claimable with
  | none => exact ⟨_, _, rfl⟩
  | some row =>
    obtain ⟨present, due⟩ := Store.first_some scanned
    obtain ⟨saga, shows, coherent⟩ := all _ row present
    have same : saga.row = row := Option.some.inj (shows.row.symm.trans present)
    have spacious := room row (Store.saga_found.mp present).1
    rw [← same] at due spacious ⊢
    have pending := claimable_status due
    obtain ⟨record, final, ran⟩ := postgres.run_commits computed_answers fun error =>
      @claimSaga_safe store now utcNow actor fence activityId leaseSeconds _ saga error checked spare
        spacious fresh lease shows coherent pending
    simp only [alone, ran]
    exact ⟨_, _, rfl⟩

/-- One iteration of the quarantine, alone. -/
theorem quarantineLoop_alone {activityId : Nat → Uuid} {fuel quarantined : Nat} :
    alone (quarantineLoop now actor activityId (fuel + 1) quarantined) store =
      match store.first (hasExpired now) with
      | none => .ok (quarantined, store)
      | some row => (alone (quarantineSaga now actor (activityId quarantined) row) store).bind
          fun pair => alone (quarantineLoop now actor activityId fuel (quarantined + 1)) pair.2 := by
  rw [quarantineLoop, Tx.bind_eq, scan_alone]
  cases store.first (hasExpired now) with
  | none => rfl
  | some row =>
    show alone (Tx.bind _ _) store = _
    unfold alone
    rw [postgres.run_bind]

/-- **A quarantine stops at its limit or when nothing is left.** -/
theorem quarantineLoop_stops {activityId : Nat → Uuid} {fuel quarantined count : Nat}
    {final : Store}
    (ran : alone (quarantineLoop now actor activityId fuel quarantined) store = .ok (count, final)) :
    quarantined ≤ count ∧
      (count = quarantined + fuel ∨ final.first (hasExpired now) = none) ∧
      (0 < fuel → store.first (hasExpired now) ≠ none → quarantined < count) := by
  induction fuel generalizing store quarantined with
  | zero =>
    cases ran
    exact ⟨le_rfl, Or.inl rfl, fun impossible => absurd impossible (lt_irrefl 0)⟩
  | succ fuel ih =>
    rw [quarantineLoop_alone] at ran
    cases scanned : store.first (hasExpired now) with
    | none =>
      rw [scanned] at ran
      cases ran
      exact ⟨le_rfl, Or.inr scanned, fun _ found => absurd rfl found⟩
    | some row =>
      rw [scanned] at ran
      simp only at ran
      cases first : alone (quarantineSaga now actor (activityId quarantined) row) store with
      | error error =>
        rw [first] at ran
        cases ran
      | ok pair =>
        rw [first] at ran
        obtain ⟨more, stops, -⟩ := ih ran
        refine ⟨by omega, stops.imp_left fun full => by omega, fun _ _ => by omega⟩

/-- **Alone, a batch of quarantines goes through** when its activity ids are new. -/
theorem quarantineLoop_runs {activityId : Nat → Uuid} {fuel quarantined : Nat}
    (checked : Checked store) (room : ∀ row ∈ store.sagas.rows,
      row.status = .running ∨ row.status = .cleanupRunning → row.revision < 9223372036854775807)
    (fresh : ∀ index, quarantined ≤ index → index < quarantined + fuel →
      store.activity.find (activityId index) = none)
    (distinct : ∀ first second, first < second → second < quarantined + fuel →
      activityId first ≠ activityId second) :
    ∃ count final, alone (quarantineLoop now actor activityId fuel quarantined) store =
      .ok (count, final) := by
  induction fuel generalizing store quarantined with
  | zero => exact ⟨_, _, rfl⟩
  | succ fuel ih =>
    rw [quarantineLoop_alone]
    cases scanned : store.first (hasExpired now) with
    | none => exact ⟨_, _, rfl⟩
    | some row =>
      obtain ⟨present, late⟩ := Store.first_some scanned
      have running := of_decide_eq_true (Bool.and_eq_true_iff.mp late).1
      have spacious := room row (Store.saga_found.mp present).1 running
      have unused := fresh quarantined le_rfl (by omega)
      obtain ⟨value, middle, ran⟩ := postgres.run_commits computed_answers fun error =>
        @quarantineSaga_safe store now actor (activityId quarantined) row error checked present
          spacious unused late
      have committed := postgres.commits_of_run computed_answers ran
      obtain ⟨-, leaves⟩ := @admitted_quarantineSaga store now actor row _ checked present spacious
        unused
      obtain ⟨room', fresh'⟩ :=
        quarantined_ready room fresh distinct (leaves value middle committed)
      simp only [alone, ran]
      exact ih (Checked.of_commits committed checked) room' fresh'
        fun first second less small => distinct first second less (by omega)

end Calls

end OrganizationProvisioning
