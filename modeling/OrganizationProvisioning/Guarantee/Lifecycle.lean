/-
**The documented state machine of a saga, over every run.**

* `documented` — the statuses each call may lead to, as the plugin card lists them.
* `Run.cleanups` — a saga is cleaned up at most once.
* `follows_documented` — every transition of every saga follows the table, and the two completion
  instants are recorded once.
-/
import OrganizationProvisioning.Run.Keys
import OrganizationProvisioning.Run.Script

namespace OrganizationProvisioning

open Relational Transactional Worklist

/-! ### The documented table -/

/-- The statuses an operator's decision may lead to. -/
def documentedRetry : RetryResolution → Bool → SagaStatus → List SagaStatus
  | .retryFailed, _, .failed => [.pending]
  | .retryFailed, _, .cleanupFailed => [.cleanupPending]
  | .confirmNotApplied, cleanup, .manualReview | .confirmApplied, cleanup, .manualReview =>
    if cleanup then [.cleanupPending, .cleanupCompleted] else [.pending, .completed]
  | _, _, _ => []

/-- **The documented state machine**: the statuses a call may lead to, by whether cleanup is
requested and the status before. -/
def documented : Event → Bool → SagaStatus → List SagaStatus
  | .claimNext _ _ _ _ _ _, _, .pending => [.running]
  | .claimNext _ _ _ _ _ _, _, .cleanupPending => [.cleanupRunning]
  | .finalizeEffect _ _ _ _ _, _, .running => [.pending, .completed, .failed, .manualReview]
  | .finalizeEffect _ _ _ _ _, _, .cleanupRunning =>
    [.cleanupPending, .cleanupCompleted, .cleanupFailed, .manualReview]
  | .quarantineExpired _ _ _ _, _, .running => [.manualReview]
  | .quarantineExpired _ _ _ _, _, .cleanupRunning => [.manualReview]
  | .retry _ _ input, cleanup, status => documentedRetry input.resolution cleanup status
  | .requestCleanup _ _ _ _, _, .completed => [.cleanupPending, .cleanupCompleted]
  | .requestCleanup _ _ _ _, _, .failed => [.cleanupPending, .cleanupCompleted]
  | _, _, _ => []

/-- The table of the machine is that of the calls. -/
theorem Cause.documented {entry : Committed} {id : Uuid} {now : Timestamp} {saga saga' : Saga}
    {transition : Transition} (cause : Cause entry id now saga saga' transition) (cleanup : Bool)
    (status : SagaStatus) :
    edges cleanup transition status = documented entry.event cleanup status := by
  cases cause with
  | claim called | finalize called | quarantine called | cleanup called =>
    rw [called]
    cases status <;> rfl
  | @retry _ input _ _ called =>
    rw [called]
    show _ = documentedRetry input.resolution cleanup status
    cases input.resolution <;> cases status <;> rfl

/-- No edge leaves a completed cleanup. -/
theorem edges_cleanupCompleted (cleanup : Bool) (transition : Transition) :
    edges cleanup transition .cleanupCompleted = [] := by
  cases transition with
  | retry effectId resolution => cases resolution <;> rfl
  | claim | finalize | quarantine | cleanup => rfl

/-- A cleanup request of the saga executed. -/
def cleansUp (id : Uuid) (entry : Committed) : Bool :=
  match entry.event with
  | .requestCleanup _ _ _ input => decide (input.provisioningId = id) && executes entry
  | _ => false

/-! ### One call -/

section Entry

variable {past rest : List Committed} {store : Store} {entry : Committed} {id : Uuid}

/-- **A saga stands still or follows an edge of the table.** -/
theorem Run.follows_edge (run : Run (past ++ entry :: rest) store) {row : SagaRow}
    (found : entry.before.saga id = some row) : Untouched id entry.before entry.after ∨
      ∃ row', entry.after.saga id = some row' ∧
        row'.status ∈ documented entry.event row.cleanupRequested row.status := by
  cases run.fate id with
  | still untouched => exact Or.inl untouched
  | began _ _ _ absent _ _ _ _ =>
    rw [found] at absent
    cases absent
  | moved shown coherent step shows cause =>
    have same := shown.row
    rw [found] at same
    cases same
    refine Or.inr ⟨_, shows.row, ?_⟩
    rw [← cause.documented]
    exact step.edge coherent

/-- A cleanup request that executes is the one that marks its saga. -/
theorem Run.cleansUp_iff (run : Run (past ++ entry :: rest) store) {row row' : SagaRow}
    (found : entry.before.saga id = some row) (after : entry.after.saga id = some row') :
    row'.cleanupRequested = (row.cleanupRequested || cleansUp id entry) ∧
      (cleansUp id entry = true → row.cleanupRequested = false) := by
  cases requests : cleansUp id entry with
  | true =>
    unfold cleansUp at requests
    split at requests
    · rename_i now effectId activityId input called
      rw [Bool.and_eq_true, decide_eq_true_eq] at requests
      obtain ⟨rfl, executed⟩ := requests
      obtain ⟨response, saga, saga', -, moves, -⟩ := run.did.2.executed_cleanup called executed
      have before := moves.shown.row
      have later := moves.shows.row
      rw [found, Option.some.injEq] at before
      rw [after, Option.some.injEq] at later
      rw [before, later]
      cases moves.step with
      | turn split turns records => exact absurd turns Turn.not_cleanup
      | cleanup unrequested stopped compensated records => exact ⟨by rw [unrequested]; rfl,
          fun _ => unrequested⟩
    · cases requests
  | false =>
    refine ⟨?_, fun impossible => by cases impossible⟩
    rw [Bool.or_false]
    cases run.fate id with
    | still untouched =>
      rw [untouched.saga, found, Option.some.injEq] at after
      rw [after]
    | began _ _ _ absent _ _ _ _ =>
      rw [found] at absent
      cases absent
    | @moved now transition saga saga' shown coherent step shows cause =>
      have before := shown.row
      have later := shows.row
      rw [found, Option.some.injEq] at before
      rw [after, Option.some.injEq] at later
      rw [before, later, step.cleanup_eq]
      cases cause with
      | cleanup called answered names owner current rendered reserves =>
        unfold cleansUp at requests
        rw [called] at requests
        simp only [names, decide_true, Bool.true_and] at requests
        rw [executes_of_fresh (by rw [called]; rfl) reserves.fresh] at requests
        cases requests
      | claim | finalize | quarantine | retry => simp

/-- When a saga was completed stays recorded, and so does when its cleanup was. -/
theorem Run.keeps_instants (run : Run (past ++ entry :: rest) store) {row row' : SagaRow}
    (found : entry.before.saga id = some row) (after : entry.after.saga id = some row')
    {instant : Timestamp} :
    (row.completedAt = some instant → row'.completedAt = some instant) ∧
      (row.cleanupCompletedAt = some instant → row'.cleanupCompletedAt = some instant) := by
  cases run.fate id with
  | still untouched =>
    rw [untouched.saga, found, Option.some.injEq] at after
    rw [after]
    exact ⟨fun recorded => recorded, fun recorded => recorded⟩
  | began _ _ _ absent _ _ _ _ =>
    rw [found] at absent
    cases absent
  | @moved now transition saga saga' shown coherent step shows cause =>
    have before := shown.row
    have later := shows.row
    rw [found, Option.some.injEq] at before
    rw [after, Option.some.injEq] at later
    rw [before, later]
    refine ⟨step.keeps_completedAt, fun recorded => ?_⟩
    -- A saga whose cleanup is completed takes no step.
    have status := coherent.cleanupCompleted.mpr (by rw [recorded]; rfl)
    have edge := step.edge coherent
    rw [status, edges_cleanupCompleted] at edge
    cases edge

end Entry

/-! ### Whole runs -/

namespace Run

variable {history past rest : List Committed} {store : Store} {entry : Committed} {id : Uuid}

/-- A saga that is cleaned up is there. -/
theorem present_of_cleansUp (run : Run (past ++ entry :: rest) store)
    (cleans : cleansUp id entry = true) : (entry.before.saga id).isSome := by
  unfold cleansUp at cleans
  split at cleans
  · rename_i now effectId activityId input called
    rw [Bool.and_eq_true, decide_eq_true_eq] at cleans
    obtain ⟨rfl, executed⟩ := cleans
    obtain ⟨response, saga, saga', -, moves, -⟩ := run.did.2.executed_cleanup called executed
    rw [moves.shown.row]
    rfl
  · cases cleans

/-- **A saga is marked for cleanup by the one cleanup request of it that executes.** -/
theorem cleanups (run : Run history store) (id : Uuid) :
    (store.saga id = none → history.countP (cleansUp id) = 0) ∧
      ∀ row, store.saga id = some row →
        history.countP (cleansUp id) = if row.cleanupRequested then 1 else 0 := by
  induction run with
  | start => exact ⟨fun _ => rfl, fun row found => by cases found⟩
  | @commit history entry earlier legal committed ih =>
    have run : Run (history ++ entry :: []) entry.after := .commit earlier legal committed
    rw [List.countP_append, List.countP_singleton]
    cases before : entry.before.saga id with
    | none =>
      have unclean : cleansUp id entry = false := by
        rw [← Bool.not_eq_true]
        intro cleans
        have present := run.present_of_cleansUp cleans
        rw [before] at present
        cases present
      rw [ih.1 before, unclean]
      refine ⟨fun _ => rfl, fun row found => ?_⟩
      cases run.fate id with
      | still untouched =>
        rw [untouched.saga, before] at found
        cases found
      | began _ _ _ _ begins shows _ _ =>
        rw [shows.row, Option.some.injEq, begins.row_eq] at found
        rw [← found]
        rfl
      | moved shown _ _ _ _ =>
        rw [shown.row] at before
        cases before
    | some old =>
      obtain ⟨row', after, -⟩ := (Persist.of_commits committed).sagas id old before
      refine ⟨fun absent => ?_, fun row found => ?_⟩
      · rw [show entry.after.saga id = some row' from after] at absent
        cases absent
      · obtain ⟨marked, once⟩ := run.cleansUp_iff before found
        rw [ih.2 old before, marked]
        cases cleans : cleansUp id entry with
        | false => cases old.cleanupRequested <;> rfl
        | true =>
          rw [once cleans]
          rfl

/-- **A saga has a completion instant exactly when it was completed at some point.** -/
theorem completedAt_iff (run : Run history store) {row : SagaRow}
    (found : store.saga id = some row) : row.completedAt.isSome ↔
      ∃ entry ∈ history, ∃ old, entry.after.saga id = some old ∧ old.status = .completed := by
  constructor
  · intro recorded
    induction run generalizing row with
    | start => cases found
    | @commit history entry earlier legal committed ih =>
      have run : Run (history ++ entry :: []) entry.after := .commit earlier legal committed
      have earlierOne : ∀ old, entry.before.saga id = some old → old.completedAt.isSome →
          ∃ call ∈ history ++ [entry], ∃ old, call.after.saga id = some old ∧
            old.status = .completed := by
        intro old before some
        obtain ⟨call, member, rest⟩ := ih before some
        exact ⟨call, List.mem_append_left _ member, rest⟩
      cases run.fate id with
      | still untouched => exact earlierOne row (untouched.saga.symm.trans found) recorded
      | began _ _ _ _ begins shows _ _ =>
        rw [shows.row, Option.some.injEq, begins.row_eq] at found
        rw [← found] at recorded
        cases recorded
      | @moved now transition saga saga' shown coherent step shows cause =>
        rw [shows.row, Option.some.injEq] at found
        subst found
        cases old : saga.row.completedAt with
        | some instant => exact earlierOne saga.row shown.row (by rw [old]; rfl)
        | none =>
          exact ⟨entry, List.mem_append_right _ List.mem_cons_self, _, shows.row,
            step.sets_completedAt old recorded⟩
  · rintro ⟨entry, member, old, after, status⟩
    obtain ⟨past, rest, rfl⟩ := List.append_of_mem member
    obtain ⟨-, -, -, upTo⟩ := run.commit_of_mem
    obtain ⟨saga, rfl, shown, coherent⟩ := Run.shows upTo after
    obtain ⟨instant, recorded⟩ := Option.isSome_iff_exists.mp (coherent.completed status)
    have run' : Run ((past ++ [entry]) ++ rest) store := by
      simpa using run
    obtain ⟨saga', shows, -, kept⟩ := Run.follows
      (fun saga saga' => ∀ instant, saga.row.completedAt = some instant →
        saga'.row.completedAt = some instant) (fun _ _ same => same)
      (fun one two instant same => two instant (one instant same))
      (fun _ step _ same => step.keeps_completedAt same) upTo shown coherent run'
    rw [shows.row, Option.some.injEq] at found
    rw [← found, kept instant recorded]
    rfl

end Run

/-! ### The guarantee -/

/-- **The documented life of a saga**, in a history that left `store`. -/
structure FollowsDocumented (history : List Committed) (store : Store) (id : Uuid) : Prop where
  /-- A saga begins pending, by a start. -/
  first : ∀ past entry rest, history = past ++ entry :: rest → entry.before.saga id = none →
    ∀ row, entry.after.saga id = some row → row.status = .pending ∧ row.cleanupRequested = false ∧
      ∃ now ids input, entry.event = .start now ids input ∧ input.provisioningId = id
  /-- It stands still, or follows an edge of the table. -/
  edge : ∀ past entry rest, history = past ++ entry :: rest →
    ∀ row, entry.before.saga id = some row → Untouched id entry.before entry.after ∨
      ∃ row', entry.after.saga id = some row' ∧
        row'.status ∈ documented entry.event row.cleanupRequested row.status
  /-- The cleanup mark is never taken back. -/
  latched : ∀ past entry rest, history = past ++ entry :: rest →
    ∀ row, entry.before.saga id = some row → row.cleanupRequested = true →
      ∃ row', entry.after.saga id = some row' ∧ row'.cleanupRequested = true
  /-- At most one cleanup request of the saga executes. -/
  once : history.countP (cleansUp id) ≤ 1
  /-- A completed cleanup is the end. -/
  closed : ∀ past entry rest, history = past ++ entry :: rest →
    ∀ row, entry.before.saga id = some row → row.status = .cleanupCompleted →
      Untouched id entry.before entry.after
  completedAt : ∀ row, store.saga id = some row → (row.completedAt.isSome ↔
    ∃ entry ∈ history, ∃ old, entry.after.saga id = some old ∧ old.status = .completed)
  cleanupCompletedAt : ∀ row, store.saga id = some row →
    (row.cleanupCompletedAt.isSome ↔ row.status = .cleanupCompleted)
  /-- Neither instant changes once it is set. -/
  kept : ∀ past entry rest, history = past ++ entry :: rest → ∀ row instant,
    entry.before.saga id = some row → ∃ row', entry.after.saga id = some row' ∧
      (row.completedAt = some instant → row'.completedAt = some instant) ∧
      (row.cleanupCompletedAt = some instant → row'.cleanupCompletedAt = some instant)

/-- **Every saga lives as documented**: in every run. -/
theorem follows_documented {history : List Committed} {store : Store} (run : Run history store)
    (id : Uuid) : FollowsDocumented history store id := by
  have stays : ∀ past entry rest, history = past ++ entry :: rest → ∀ row,
      entry.before.saga id = some row → ∃ row', entry.after.saga id = some row' := by
    rintro past entry rest rfl row found
    obtain ⟨-, -, committed, -⟩ := run.commit_of_mem
    obtain ⟨row', after, -⟩ := (Persist.of_commits committed).sagas id row found
    exact ⟨row', after⟩
  refine ⟨?_, ?_, ?_, ?_, ?_, fun row found => run.completedAt_iff found, ?_, ?_⟩
  · rintro past entry rest rfl absent row after
    cases run.fate id with
    | still untouched =>
      rw [untouched.saga, absent] at after
      cases after
    | began called _ names _ begins shows _ _ =>
      rw [shows.row, Option.some.injEq, begins.row_eq] at after
      rw [← after]
      exact ⟨rfl, rfl, _, _, _, called, names⟩
    | moved shown _ _ _ _ =>
      rw [shown.row] at absent
      cases absent
  · rintro past entry rest rfl row found
    exact run.follows_edge found
  · intro past entry rest shape row found requested
    obtain ⟨row', after⟩ := stays past entry rest shape row found
    subst shape
    exact ⟨row', after, by rw [(run.cleansUp_iff found after).1, requested, Bool.true_or]⟩
  · obtain ⟨none, some⟩ := run.cleanups id
    cases found : store.saga id with
    | none => rw [none found]; omega
    | some row => rw [some row found]; split <;> omega
  · rintro past entry rest rfl row found status
    cases run.fate id with
    | still untouched => exact untouched
    | began _ _ _ absent _ _ _ _ =>
      rw [found] at absent
      cases absent
    | moved shown coherent step shows _ =>
      have edge := step.edge coherent
      rw [shown.row, Option.some.injEq] at found
      rw [found, status, edges_cleanupCompleted] at edge
      cases edge
  · intro row found
    obtain ⟨saga, rfl, -, coherent⟩ := run.shows found
    exact coherent.cleanupCompleted.symm
  · intro past entry rest shape row instant found
    obtain ⟨row', after⟩ := stays past entry rest shape row found
    subst shape
    exact ⟨row', after, run.keeps_instants found after⟩

/-- The saga of the rehearsal: failed, reviewed, never completed, and cleaned up once. -/
theorem follows_documented_rehearsed : FollowsDocumented Rehearsal.history Rehearsal.store 1 ∧
    Rehearsal.history.countP (cleansUp 1) = 1 ∧
    (Rehearsal.store.saga 1).any (fun row => row.status = .cleanupCompleted ∧
      row.completedAt = none ∧ row.cleanupCompletedAt.isSome) = true :=
  ⟨follows_documented Rehearsal.run 1, by decide +kernel, by decide +kernel⟩

end OrganizationProvisioning
