/-
**The recorded times of a saga.**

`CURRENT_TIMESTAMP` is the instant at which the enclosing transaction began.

* `Event.now` — that instant, for the transaction of an event.
* `stamps` — the instants of the transactions of a history that changed the row of a saga.
* `Run.stamped` — the activity of a saga carries these instants, its revision is their number and its
  `updated_at` is the last one.
-/
import OrganizationProvisioning.Run.Fate
import OrganizationProvisioning.Saga.Measure

namespace OrganizationProvisioning

open Relational Transactional Worklist

/-- `CURRENT_TIMESTAMP` in the transaction of an event. -/
def Event.now : Event → Timestamp
  | .start now _ _ => now
  | .retry now _ _ => now
  | .requestCleanup now _ _ _ => now
  | .quarantineExpired now _ _ _ => now
  | .claimNext now _ _ _ _ _ => now
  | .finalizeEffect now _ _ _ _ => now

/-- A committed call changed the row of a saga. -/
def Changes (id : Uuid) (entry : Committed) : Bool := entry.after.saga id ≠ entry.before.saga id

/-- **The instants at which the transactions that changed a saga began**, in the order in which they
committed. -/
def stamps (id : Uuid) (history : List Committed) : List Timestamp :=
  (history.filter (Changes id)).map fun entry => entry.event.now

section Stamps

variable {id : Uuid} {history past rest : List Committed} {entry : Committed}

theorem stamps_append : stamps id (past ++ rest) = stamps id past ++ stamps id rest := by
  unfold stamps
  rw [List.filter_append, List.map_append]

theorem stamps_changed (changes : Changes id entry = true) :
    stamps id (history ++ [entry]) = stamps id history ++ [entry.event.now] := by
  rw [stamps_append]
  unfold stamps
  rw [List.filter_cons_of_pos changes]
  rfl

theorem stamps_kept (kept : entry.after.saga id = entry.before.saga id) :
    stamps id (history ++ [entry]) = stamps id history := by
  have spared : ¬ Changes id entry = true := by
    unfold Changes
    rw [kept]
    simp
  rw [stamps_append]
  unfold stamps
  rw [List.filter_cons_of_neg spared]
  exact List.append_nil _

/-- The stamps of a part of the history come first. -/
theorem stamps_upTo (upTo : past <+: history) : stamps id past <+: stamps id history := by
  obtain ⟨rest, rfl⟩ := upTo
  rw [stamps_append]
  exact List.prefix_append _ _

end Stamps

/-- The call that causes a transition reads the clock it is stamped with. -/
theorem Cause.now_eq {entry : Committed} {id : Uuid} {now : Timestamp} {saga saga' : Saga}
    {transition : Transition} (cause : Cause entry id now saga saga' transition) :
    entry.event.now = now := by
  cases cause with
  | claim called | finalize called | quarantine called | retry called | cleanup called =>
    rw [called]
    rfl

/-- **A transition stamps its saga and one more activity row.** -/
theorem Saga.Step.stamps {now : Timestamp} {saga saga' : Saga} {transition : Transition}
    (step : Saga.Step now saga transition saga') : saga'.row.updatedAt = now ∧
      ∃ note, saga'.activity = saga.activity ++ [note] ∧ note.createdAt = now := by
  cases step with
  | turn split turns records => exact ⟨rfl, _, rfl, records.instant⟩
  | cleanup unrequested stopped compensated records => exact ⟨rfl, _, rfl, records.instant⟩

/-- **The recorded times of a saga**: its activity carries the stamps, its revision is their number and its
`updated_at` the last one. -/
structure Stamped (stamps : List Timestamp) (row : SagaRow) (activity : List ActivityRow) : Prop where
  activity_eq : activity.map (fun note => note.createdAt) = stamps
  revision : row.revision = stamps.length
  updated : stamps.getLast? = some row.updatedAt

namespace Run

variable {history : List Committed} {store : Store} {id : Uuid} {saga : Saga}

/-- A saga that was never stored has no stamps. -/
theorem stamps_absent (run : Run history store) (absent : store.saga id = none) :
    stamps id history = [] := by
  induction run with
  | start => rfl
  | @commit history entry earlier legal committed ih =>
    have run' : Run (history ++ entry :: []) entry.after := .commit earlier legal committed
    cases run'.fate id with
    | still untouched =>
      rw [stamps_kept untouched.saga]
      exact ih (untouched.saga.symm.trans absent)
    | began _ _ _ _ _ shown _ _ =>
      rw [shown.row] at absent
      cases absent
    | moved _ _ _ shown _ =>
      rw [shown.row] at absent
      cases absent

/-- **The activity, the revision and `updated_at` of a saga follow its stamps.** -/
theorem stamped (run : Run history store) (shows : Shows store id saga) (coherent : Coherent saga) :
    Stamped (stamps id history) saga.row saga.activity := by
  induction run generalizing saga with
  | start => cases shows.row
  | @commit history entry earlier legal committed ih =>
    have run' : Run (history ++ entry :: []) entry.after := .commit earlier legal committed
    cases run'.fate id with
    | still untouched =>
      rw [stamps_kept untouched.saga]
      exact ih (untouched.shown shows) coherent
    | @began now ids input response begun called answered names absent begins shown rendered
        reserves =>
      have same := shown.unique begins.coherent shows coherent
      subst same
      have changes : Changes id entry = true := by
        unfold Changes
        rw [shows.row, absent]
        rfl
      have clock : entry.event.now = now := by
        rw [called]
        rfl
      rw [stamps_changed changes, Run.stamps_absent earlier absent, clock]
      obtain ⟨note, noted, -, -, instant⟩ := begins.activity_eq
      rw [noted, begins.row_eq]
      exact ⟨by rw [List.map_singleton, instant, List.nil_append], rfl, rfl⟩
    | @moved now transition before after shown coherent' step shown' cause =>
      have same := shown'.unique (step.coherent coherent') shows coherent
      subst same
      have sofar := ih shown coherent'
      have revised := step.revised
      have changes : Changes id entry = true := by
        unfold Changes
        rw [shows.row, shown.row]
        simp only [ne_eq, Option.some.injEq, decide_not, Bool.not_eq_true', decide_eq_false_iff_not]
        intro same
        rw [same] at revised
        omega
      obtain ⟨updated, note, noted, instant⟩ := step.stamps
      rw [stamps_changed changes, cause.now_eq]
      refine ⟨?_, ?_, ?_⟩
      · rw [noted, List.map_append, sofar.activity_eq, List.map_singleton, instant]
      · rw [revised, sofar.revision, List.length_append, List.length_singleton]
        push_cast
        rfl
      · rw [List.getLast?_append_cons, List.getLast?_singleton, updated]

end Run

end OrganizationProvisioning
