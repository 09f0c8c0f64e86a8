/-
**The activity log is a complete audit trail.**

* `Run.told` — the activity row of every step tells the step.
* `Run.audited` — the activity of every saga tells where its effects stand.
* `Journal` — what a reader of the rows learns; `audit_complete` — **read in the order of their revisions,
  the rows of a saga tell its revision, whether cleanup was requested, and the state, the attempts, the lease
  and the error of each of its effects.**
-/
import OrganizationProvisioning.Proof.Notes
import OrganizationProvisioning.Run.Fate
import OrganizationProvisioning.Run.Script

namespace OrganizationProvisioning

open Relational Transactional Worklist

/-! ### The row of a step -/

/-- The actor of a call. -/
def Event.actor : Event → String
  | .start _ _ input => input.actor
  | .retry _ _ input => input.actor
  | .requestCleanup _ _ _ input => input.actor
  | .quarantineExpired _ actor _ _ | .claimNext _ _ actor _ _ _ | .finalizeEffect _ _ _ actor _ => actor

section Steps

variable {before after : Store} {id : Uuid} {now : Timestamp} {saga saga' : Saga} {transition : Transition}

theorem Saga.Step.activity (step : Saga.Step now saga transition saga') :
    ∃ note, saga'.activity = saga.activity ++ [note] := by
  cases step <;> exact ⟨_, rfl⟩

/-- The rows a commit adds for a saga are the row of its step. -/
theorem Saga.Step.adds (step : Saga.Step now saga transition saga') (shown : Shows before id saga)
    (shows : Shows after id saga') {notes : List ActivityRow}
    (adds : after.activity.rows = before.activity.rows ++ notes) :
    ∃ note, saga'.activity = saga.activity ++ [note] ∧ note ∈ notes ∧ note.provisioningId = id := by
  obtain ⟨note, last⟩ := step.activity
  have rows : after.activityOf id = before.activityOf id ++
      notes.filter fun note => note.provisioningId = id := by
    unfold Store.activityOf
    rw [adds, List.filter_append]
  rw [shows.activity, shown.activity, last] at rows
  have only := List.append_cancel_left rows
  have member : note ∈ notes.filter fun note => note.provisioningId = id := by
    rw [← only]
    exact List.mem_singleton_self note
  rw [List.mem_filter, decide_eq_true_eq] at member
  exact ⟨note, last, member⟩

theorem Adds.step {actor : String} {note : ActivityRow} (adds : Adds actor before after note)
    (step : Saga.Step now saga transition saga') (shown : Shows before id saga)
    (shows : Shows after id saga') : saga'.activity = saga.activity ++ [note] := by
  obtain ⟨other, last, member, -⟩ := step.adds shown shows adds.rows
  rw [List.mem_singleton.mp member] at last
  exact last

/-- The row a start adds is the first one of its saga. -/
theorem Saga.Begins.first_row {ids : StartIds} {input : StartInput} {actor : String} {note : ActivityRow}
    (begins : saga.Begins now ids input) (owned : Owned before) (absent : before.saga id = none)
    (adds : Adds actor before after note) (shows : Shows after id saga) : saga.activity = [note] := by
  obtain ⟨first, activity, -⟩ := begins.activity_eq
  have rows : after.activityOf id = [note].filter fun note => note.provisioningId = id := by
    have none := owned.activityOf_nil absent
    unfold Store.activityOf at none ⊢
    rw [adds.rows, List.filter_append, none, List.nil_append]
  rw [shows.activity, activity] at rows
  have member : first ∈ [note] := (List.mem_filter.mp (rows ▸ List.mem_singleton_self first)).1
  rw [activity, List.mem_singleton.mp member]

/-- An effect in flight or in doubt is the only one. -/
theorem Coherent.only (coherent : Coherent saga) {one two : EffectRow} (first : one ∈ saga.effects)
    (second : two ∈ saga.effects) (busy : one.state = .inFlight ∨ one.state = .unknown)
    (other : two.state = .inFlight ∨ two.state = .unknown) : one = two := by
  obtain ⟨_, _, split⟩ := coherent.split_of_state first busy
  obtain ⟨_, _, split'⟩ := coherent.split_of_state second other
  exact Option.some.inj (split.next_eq.symm.trans split'.next_eq)

/-- A quarantine leaves its effect in doubt. -/
theorem Saga.Step.doubts {effectId : Uuid} (step : Saga.Step now saga (.quarantine effectId) saga') :
    ∃ effect ∈ saga'.effects, effect.effectId = effectId ∧ effect.state = .unknown := by
  cases step with
  | @turn _ past rest focus progress organization note split turns =>
    have inside : (focus.set fun _ => progress) ∈
        (saga.turned now past rest (focus.set fun _ => progress) organization note).effects := by
      refine Coherent.phase_mem ?_
      rw [Saga.turned_phase]
      exact List.mem_append_right _ List.mem_cons_self
    cases turns with
    | quarantine => exact ⟨_, inside, rfl, rfl⟩

end Steps

namespace Run

variable {history past rest : List Committed} {store : Store} {entry : Committed} {id : Uuid}

/-- **The activity row of a step tells the step**, and is signed by its actor. -/
theorem told (run : Run (past ++ entry :: rest) store) {now : Timestamp} {transition : Transition}
    {saga saga' : Saga} (shown : Shows entry.before id saga) (coherent : Coherent saga)
    (step : Saga.Step now saga transition saga') (shows : Shows entry.after id saga')
    (cause : Cause entry id now saga saga' transition) :
    ∃ note, saga'.activity = saga.activity ++ [note] ∧ Tells note transition ∧
      note.actorSubject = entry.event.actor := by
  obtain ⟨-, -, committed, -⟩ := run.commit_of_mem
  obtain ⟨event, before, reply, after⟩ := entry
  cases cause with
  | claim called answered member =>
    cases called
    cases answered
    obtain ⟨found, _, claimed, same, rfl⟩ := postgres.commits_bind.mp committed
    cases same
    obtain ⟨note, adds, tells⟩ := claimNext_adds claimed
    exact ⟨note, adds.step step shown shows, tells, adds.signed⟩
  | finalize called answered owner held member =>
    cases called
    obtain ⟨result, _, finalized, same, rfl⟩ := postgres.commits_bind.mp committed
    obtain ⟨note, adds, tells⟩ := finalizeEffect_adds held finalized
    exact ⟨note, adds.step step shown shows, tells, adds.signed⟩
  | quarantine called answered member =>
    cases called
    obtain ⟨count, _, quarantined, same, rfl⟩ := postgres.commits_bind.mp committed
    obtain ⟨notes, adds, doubts⟩ := quarantineLoop_adds quarantined
    obtain ⟨note, last, inside, names⟩ := step.adds shown shows adds
    obtain ⟨⟨other, tells, found, owner, doubted⟩, signed⟩ := doubts note inside
    obtain ⟨effect', there, same, unknown⟩ := step.doubts
    have other_mem : other ∈ saga'.effects := by
      rw [← shows.effects]
      exact Store.mem_effectsOf.mpr ⟨found, owner.trans names⟩
    have equal := (step.coherent coherent).only other_mem there (Or.inr doubted) (Or.inr unknown)
    rw [equal, same] at tells
    exact ⟨note, last, tells, signed⟩
  | retry called answered names member owner current resolvable rendered reserves =>
    cases called
    subst names
    obtain ⟨view, _, retried, same, rfl⟩ := postgres.commits_bind.mp committed
    obtain ⟨row, other, note, found, inside, resolves, adds, tells⟩ := retry_adds reserves.fresh retried
    have rows : row = saga.row := Option.some.inj (found.symm.trans shown.row)
    rw [rows] at resolves
    have other_mem : other ∈ saga.effects := by
      rw [← shown.effects]
      exact inside
    obtain ⟨_, _, split⟩ := resolvable.split coherent (Coherent.phase_mem member)
    obtain ⟨_, _, split'⟩ := resolves.split coherent other_mem
    rw [Option.some.inj (split'.next_eq.symm.trans split.next_eq)] at tells
    exact ⟨note, adds.step step shown shows, tells, adds.signed⟩
  | cleanup called answered names owner current rendered reserves =>
    cases called
    obtain ⟨view, _, requested, same, rfl⟩ := postgres.commits_bind.mp committed
    obtain ⟨note, adds, tells⟩ := requestCleanup_adds reserves.fresh requested
    exact ⟨note, adds.step step shown shows, tells, adds.signed⟩

/-- **The activity of every saga is audited.** -/
theorem audited (run : Run history store) {saga : Saga} (shows : Shows store id saga)
    (coherent : Coherent saga) : saga.Audited := by
  induction run generalizing saga with
  | start => cases shows.row
  | @commit history entry earlier legal committed ih =>
    have run' : Run (history ++ entry :: []) entry.after := .commit earlier legal committed
    cases run'.fate id with
    | still untouched => exact ih (untouched.shown shows) coherent
    | @began now ids input response began called answered names absent begins shown rendered reserves =>
      have same := shown.unique begins.coherent shows coherent
      subst same
      obtain ⟨event, before, reply, after⟩ := entry
      cases called
      obtain ⟨view, _, started, same, rfl⟩ := postgres.commits_bind.mp committed
      obtain ⟨note, adds, about, kind⟩ := start_adds reserves.fresh started
      exact begins.audited (begins.first_row (Run.holds earlier).owned absent adds shows) about kind
    | moved shown coherent' step shown' cause =>
      have same := shown'.unique (step.coherent coherent') shows coherent
      subst same
      obtain ⟨note, last, tells, -⟩ := run'.told shown coherent' step shown' cause
      exact step.audited coherent' (ih shown coherent') last tells shown'.distinct

end Run

/-! ### The journal -/

/-- **What a reader of the activity rows of a saga learns** of its row and its effects. -/
structure Journal (notes : List ActivityRow) (row : SagaRow) (effects : List EffectRow) : Prop where
  revision : row.revision = notes.length
  cleanup : row.cleanupRequested = notes.any fun note => note.kind = .cleanupRequested
  /-- The state, the attempts, the lease and the error of every effect. -/
  states : ∀ effect ∈ effects,
    notes.foldl (Trail.read effect.effectId effect.kind) .start = effect.trail
  /-- The rows are about effects of the saga. -/
  named : ∀ note ∈ notes, ∀ id, note.effectId = some id → ∃ effect ∈ effects, effect.effectId = id

/-- Rows in the order of their revisions are the rows as they were inserted. -/
theorem Coherent.in_order {saga : Saga} (coherent : Coherent saga) {notes : List ActivityRow}
    (all : notes.Perm saga.activity)
    (ordered : notes.Pairwise fun first second =>
      first.provisioningRevision ≤ second.provisioningRevision) : notes = saga.activity := by
  have sorted := coherent.activity_sorted
  have distinct : (saga.activity.map fun note => note.provisioningRevision).Nodup :=
    List.pairwise_map.mpr (sorted.imp fun less => less.ne)
  refine List.Perm.eq_of_pairwise (fun first second one two le ge => ?_) ordered
    (sorted.imp fun less => less.le) all
  exact List.inj_on_of_nodup_map distinct (all.mem_iff.mp one) two (le_antisymm le ge)

/-- **The activity log is a complete audit trail.** -/
theorem audit_complete {history : List Committed} {store : Store} (run : Run history store) {row : SagaRow}
    (present : row ∈ store.sagas.rows) {notes : List ActivityRow}
    (all : notes.Perm (store.activityOf row.provisioningId))
    (ordered : notes.Pairwise fun first second =>
      first.provisioningRevision ≤ second.provisioningRevision) :
    Journal notes row (store.effectsOf row.provisioningId) := by
  obtain ⟨saga, rfl, shows, coherent⟩ := run.shows (Store.saga_found.mpr ⟨present, rfl⟩)
  have audited := Run.audited run shows coherent
  rw [shows.activity] at all
  rw [shows.effects, coherent.in_order all ordered]
  exact ⟨coherent.revision, audited.cleanup, audited.effects, audited.named⟩

/-- The activity of the rehearsal, with its cleanup. -/
theorem audit_complete_rehearsed : ∃ row ∈ Rehearsal.store.sagas.rows,
    Journal (Rehearsal.store.activityOf row.provisioningId) row
      (Rehearsal.store.effectsOf row.provisioningId) := by
  obtain ⟨row, found⟩ : ∃ row, Rehearsal.store.saga 1 = some row :=
    Option.isSome_iff_exists.mp (by decide +kernel)
  obtain ⟨present, named⟩ := Store.saga_found.mp found
  refine ⟨row, present, audit_complete Rehearsal.run present (.refl _) ?_⟩
  rw [named]
  have sorted : (((Rehearsal.store.activityOf 1).map fun note => note.provisioningRevision).Pairwise
    fun first second => first ≤ second) := by decide +kernel
  exact List.pairwise_map.mp sorted

end OrganizationProvisioning
