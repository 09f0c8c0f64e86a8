/-
**Revisions, activity and compare-and-swap.**

* `Transitions` — the calls that change a saga, as they are asked and answered: an executed start, retry
  or cleanup request, a claim, an accepted finalization, a quarantine.
* `Raises` — the revision is raised by one, with one activity row that carries it.
* `Run.accounted` — a committed call raises the revision of a saga when it changes it, and leaves the
  saga and its activity as they are when it does not.
* `Run.revision_le` — the revision of a saga never falls.
* `changes_iff`, `Run.counted` — these calls are the ones that change its row, and its revision is their number.
* `revisions_agree` — **the activity of a saga is numbered like its revisions, and a retry or a cleanup
  request executes on the revision it expects only**, in every concurrent run.
* `no_lost_update` — **and no update of a saga is lost.**
-/
import OrganizationProvisioning.Run.Concurrent
import OrganizationProvisioning.Run.Keys
import OrganizationProvisioning.Run.Timeline
import OrganizationProvisioning.Saga.Measure

namespace OrganizationProvisioning

open Relational Transactional Worklist

/-! ### Transitions of a saga -/

/-- A running saga is put under review. -/
def Suspends (id : Uuid) (before after : Store) : Prop :=
  (∃ row, before.saga id = some row ∧ (row.status = .running ∨ row.status = .cleanupRunning)) ∧
    ∃ row, after.saga id = some row ∧ row.status = .manualReview

/-- **The calls that change a saga**, as they are asked and answered: an executed start, retry or cleanup
request, a quarantine of the saga, a claim, an accepted finalization. -/
def Transitions (entry : Committed) (id : Uuid) : Prop :=
  match entry.event, entry.reply with
  | .start _ _ input, _ => input.provisioningId = id ∧ executes entry = true
  | .retry _ _ input, _ => input.provisioningId = id ∧ executes entry = true
  | .requestCleanup _ _ _ input, _ => input.provisioningId = id ∧ executes entry = true
  | .quarantineExpired _ _ _ _, _ => Suspends id entry.before entry.after
  | .claimNext _ _ _ _ _ _, .claimed (some record) => record.provisioningId = id
  | .finalizeEffect _ _ record _ _, .finalized result =>
    record.provisioningId = id ∧ result ≠ .superseded
  | _, _ => False

/-- The revision of a saga; before it begins it is zero. -/
def Store.revisionOf (store : Store) (id : Uuid) : Int :=
  ((store.saga id).map fun row => row.revision).getD 0

/-- **The revision is raised by one**, with one activity row that carries it. -/
structure Raises (id : Uuid) (before after : Store) : Prop where
  revision : after.revisionOf id = before.revisionOf id + 1
  logged : ∃ note, after.activityOf id = before.activityOf id ++ [note] ∧
    note.provisioningRevision = after.revisionOf id

theorem Shows.revisionOf {store : Store} {id : Uuid} {saga : Saga} (shows : Shows store id saga) :
    store.revisionOf id = saga.row.revision := by
  unfold Store.revisionOf
  rw [shows.row]
  rfl

theorem Untouched.revisionOf {id : Uuid} {before after : Store}
    (untouched : Untouched id before after) : after.revisionOf id = before.revisionOf id := by
  unfold Store.revisionOf
  rw [untouched.saga]

/-- A step of the machine raises the revision. -/
theorem Raises.of_step {now : Timestamp} {transition : Transition} {id : Uuid} {before after : Store}
    {saga saga' : Saga} (shown : Shows before id saga)
    (step : Saga.Step now saga transition saga') (shows : Shows after id saga') :
    Raises id before after := by
  have revised := step.revised
  refine ⟨by rw [shows.revisionOf, shown.revisionOf, revised], ?_⟩
  rw [shows.revisionOf, shows.activity, shown.activity, revised]
  cases step with
  | turn split turns records => exact ⟨_, rfl, records.revision⟩
  | cleanup unrequested stopped compensated records => exact ⟨_, rfl, records.revision⟩

/-! ### Committed calls -/

section Calls

variable {entry : Committed} {id : Uuid}

/-- A call that changes a saga raises its revision, any other leaves the saga as it is. -/
def Accounted (entry : Committed) (id : Uuid) : Prop :=
  (Transitions entry id ∧ Raises id entry.before entry.after) ∨
    (¬ Transitions entry id ∧ Untouched id entry.before entry.after)

/-- A saga whose move is the only one of a call. -/
theorem Moves.accounted {now : Timestamp} {transition : Transition} {moved : Uuid} {saga saga' : Saga}
    (moves : Moves now transition moved entry.before entry.after saga saga')
    (changes : Transitions entry id ↔ moved = id) : Accounted entry id := by
  by_cases same : moved = id
  · subst same
    exact Or.inl ⟨changes.mpr rfl, .of_step moves.shown moves.step moves.shows⟩
  · exact Or.inr ⟨fun changed => same (changes.mp changed),
      .of_elsewhere moves.elsewhere fun other => same other.symm⟩

/-- **A committed call raises the revision of a saga or leaves the saga as it is.** -/
theorem Run.accounted {past rest : List Committed} {store : Store}
    (run : Run (past ++ entry :: rest) store) (id : Uuid) : Accounted entry id := by
  obtain ⟨holds, did⟩ := run.did
  cases did with
  | @replayed request response asked answered replays =>
    refine Or.inr ⟨?_, .of_eq replays.1⟩
    have stays : executes entry = false := not_executes_of_replays asked replays
    unfold Transitions
    rw [stays, answered]
    cases event : entry.event with
    | start | retry | requestCleanup =>
      rintro ⟨-, impossible⟩
      cases impossible
    | quarantineExpired | claimNext | finalizeEffect =>
      rw [event] at asked
      cases asked
  | @began now ids input response saga called answered absent begins shows elsewhere rendered
      reserves =>
    have asked : entry.event.keyed = some ⟨input.caller, input.idempotencyKey, .start, input.actor,
        input.requestHash⟩ := by
      rw [called]
      rfl
    have executed := executes_of_fresh asked reserves.fresh
    have changes : Transitions entry id ↔ input.provisioningId = id := by
      unfold Transitions
      rw [called]
      exact and_iff_left executed
    by_cases same : input.provisioningId = id
    · subst same
      obtain ⟨note, activity, -, revision, -⟩ := begins.activity_eq
      have first : entry.after.revisionOf input.provisioningId = 1 := by
        rw [shows.revisionOf, begins.row_eq]
        rfl
      refine Or.inl ⟨changes.mpr rfl, ?_, note, ?_, revision.trans first.symm⟩
      · rw [first]
        unfold Store.revisionOf
        rw [absent]
        rfl
      · rw [shows.activity, activity, holds.owned.activityOf_nil absent]
        rfl
    · exact Or.inr ⟨fun changed => same (changes.mp changed),
        .of_elsewhere elsewhere fun other => same other.symm⟩
  | @retried now activityId input effect response saga saga' called answered moves member owner
      current resolvable rendered reserves =>
    have asked : entry.event.keyed = some ⟨input.caller, input.idempotencyKey, .retry, input.actor,
        input.requestHash⟩ := by
      rw [called]
      rfl
    refine moves.accounted ?_
    unfold Transitions
    rw [called]
    exact and_iff_left (executes_of_fresh asked reserves.fresh)
  | @cleaned now effectId activityId input response saga saga' called answered moves owner current
      rendered reserves =>
    have asked : entry.event.keyed = some ⟨input.caller, input.idempotencyKey, .requestCleanup,
        input.actor, input.requestHash⟩ := by
      rw [called]
      rfl
    refine moves.accounted ?_
    unfold Transitions
    rw [called]
    exact and_iff_left (executes_of_fresh asked reserves.fresh)
  | quarantined called answered chain =>
    have changes : Transitions entry id ↔ Suspends id entry.before entry.after := by
      unfold Transitions
      rw [called]
    rcases chain.fate id with untouched | ⟨effect, saga, saga', member, shown, coherent, step, shows⟩
    · refine Or.inr ⟨fun changed => ?_, untouched⟩
      obtain ⟨⟨row, before, running⟩, row', after, review⟩ := changes.mp changed
      rw [untouched.saga, before, Option.some.injEq] at after
      subst after
      rw [review] at running
      simp at running
    · refine Or.inl ⟨changes.mpr ⟨⟨saga.row, shown.row, ?_⟩, saga'.row, shows.row,
        step.review coherent⟩, .of_step shown step shows⟩
      have edge := step.edge coherent
      cases status : saga.row.status <;> rw [status] at edge <;>
        simp only [edges, List.mem_singleton, List.not_mem_nil] at edge <;> simp
  | idle called answered kept =>
    refine Or.inr ⟨?_, .of_eq kept⟩
    unfold Transitions
    rw [called, answered]
    exact fun impossible => impossible.elim
  | claimed called answered moves member kept =>
    refine moves.accounted ?_
    unfold Transitions
    rw [called, answered]
    show _ = id ↔ _
    rw [← moves.shown.id_eq]
    rfl
  | superseded called answered absent kept =>
    refine Or.inr ⟨?_, .of_eq kept⟩
    unfold Transitions
    rw [called, answered]
    exact fun changed => changed.2 rfl
  | @finalized now activityId record actor outcome effect saga saga' called answered held moves
      member kept =>
    refine moves.accounted ?_
    unfold Transitions
    rw [called, answered]
    refine and_iff_left ?_
    cases outcome <;> exact fun impossible => by cases impossible

/-- **The calls that change a saga are those that change its row.** -/
theorem changes_iff {past rest : List Committed} {store : Store}
    (run : Run (past ++ entry :: rest) store) : Changes id entry = true ↔ Transitions entry id := by
  unfold Changes
  rw [decide_eq_true_eq]
  rcases run.accounted id with ⟨changes, raises⟩ | ⟨still, untouched⟩
  · refine ⟨fun _ => changes, fun _ same => ?_⟩
    have raised := raises.revision
    unfold Store.revisionOf at raised
    rw [same] at raised
    omega
  · exact ⟨fun differs => absurd untouched.saga differs, fun changes => absurd changes still⟩

/-- What a retry or a cleanup request expects: the revision of a saga. -/
def Event.expects : Event → Option (Uuid × Int)
  | .retry _ _ input => some (input.provisioningId, input.expectedRevision)
  | .requestCleanup _ _ _ input => some (input.provisioningId, input.expectedRevision)
  | _ => none

/-- **A call that executes found the revision it expected**, and changes that saga. -/
theorem Did.expects (did : Did entry) {revision : Int}
    (expected : entry.event.expects = some (id, revision)) (executed : executes entry = true) :
    entry.before.revisionOf id = revision ∧ Transitions entry id := by
  cases did with
  | replayed asked _ replays => exact absurd replays (not_replays asked executed)
  | retried called _ moves _ _ current =>
    unfold Transitions
    rw [called] at expected ⊢
    cases expected
    exact ⟨moves.shown.revisionOf.trans current, rfl, executed⟩
  | cleaned called _ moves _ current =>
    unfold Transitions
    rw [called] at expected ⊢
    cases expected
    exact ⟨moves.shown.revisionOf.trans current, rfl, executed⟩
  | began called | quarantined called | idle called | claimed called | superseded called
  | finalized called =>
    rw [called] at expected
    cases expected

end Calls

/-! ### Runs -/

namespace Run

variable {past rest between history : List Committed} {middle store : Store} {one two entry : Committed}
  {id : Uuid} {revision : Int}

/-- **The revision of a saga never falls.** -/
theorem revision_le (upTo : Run past middle) (run : Run (past ++ rest) store) (id : Uuid) :
    middle.revisionOf id ≤ store.revisionOf id := by
  refine upTo.later (fun _ _ last => middle.revisionOf id ≤ last.revisionOf id) le_rfl ?_ run
  intro calls entry earlier sofar legal committed
  have run' : Run ((past ++ calls) ++ entry :: []) entry.after := .commit earlier legal committed
  rcases run'.accounted id with ⟨-, raises⟩ | ⟨-, untouched⟩
  · rw [raises.revision]
    omega
  · rwa [untouched.revisionOf]

/-- A call that changes the saga raises the revision for good. -/
theorem revision_lt (upTo : Run past middle) (run : Run (past ++ rest) store)
    (changed : ∃ entry ∈ rest, Transitions entry id) :
    middle.revisionOf id < store.revisionOf id := by
  obtain ⟨entry, member, changes⟩ := changed
  obtain ⟨before, after, rfl⟩ := List.append_of_mem member
  have shape : past ++ (before ++ entry :: after) = (past ++ before) ++ entry :: after :=
    (List.append_assoc _ _ _).symm
  rw [shape] at run
  obtain ⟨earlier, -, -, reached⟩ := run.commit_of_mem
  have raised : Raises id entry.before entry.after := by
    rcases run.accounted id with ⟨-, raises⟩ | ⟨still, -⟩
    · exact raises
    · exact absurd changes still
  have low := upTo.revision_le earlier id
  have rest : Run ((past ++ before ++ [entry]) ++ after) store := by
    rwa [List.append_assoc, List.singleton_append]
  have high := revision_le reached rest id
  have step := raised.revision
  omega

/-- **At most one call with an expected revision executes.** -/
theorem expects_once (run : Run (past ++ one :: (between ++ two :: rest)) store)
    (first : one.event.expects = some (id, revision)) (executed : executes one = true)
    (second : two.event.expects = some (id, revision)) : executes two = false := by
  rw [← Bool.not_eq_true]
  intro again
  obtain ⟨found, changes⟩ := run.did.2.expects first executed
  obtain ⟨upTo, -, -, -⟩ := run.commit_of_mem
  have shape : past ++ one :: (between ++ two :: rest) = (past ++ one :: between) ++ two :: rest := by
    simp
  rw [shape] at run
  obtain ⟨found', -⟩ := run.did.2.expects second again
  have later := revision_lt upTo run.commit_of_mem.1 ⟨one, List.mem_cons_self, changes⟩
  rw [found, found'] at later
  exact lt_irrefl _ later

/-- **No call executes on a revision that has passed.** -/
theorem expects_current (upTo : Run past middle) (run : Run (past ++ (between ++ entry :: rest)) store)
    (expected : entry.event.expects = some (id, middle.revisionOf id))
    (changed : ∃ other ∈ between, Transitions other id) : executes entry = false := by
  rw [← Bool.not_eq_true]
  intro executed
  rw [← List.append_assoc] at run
  obtain ⟨found, -⟩ := run.did.2.expects expected executed
  have later := upTo.revision_lt run.commit_of_mem.1 changed
  rw [found] at later
  exact lt_irrefl _ later

/-- The activity of a saga is numbered up to its revision. -/
theorem numbered (run : Run history store) {row : SagaRow} (found : store.saga id = some row) :
    0 < row.revision ∧ (store.activityOf id).map (fun note => note.provisioningRevision) =
      (List.range row.revision.toNat).map fun index : Nat => (index : Int) + 1 := by
  obtain ⟨saga, rfl, shows, coherent⟩ := run.shows found
  have checked := run.holds.checked.sagas saga.row (Store.saga_found.mp found).1
  unfold SagaRow.checked at checked
  rw [decide_eq_true_eq] at checked
  refine ⟨checked.2.2.2.1.1, ?_⟩
  rw [shows.activity, coherent.numbered, coherent.revision, Int.toNat_natCast]

/-- **The revision of a saga counts the calls that changed it.** -/
theorem counted (run : Run history store) : store.revisionOf id = (history.filter (Changes id)).length := by
  have stamps_length : (stamps id history).length = (history.filter (Changes id)).length :=
    List.length_map _
  unfold Store.revisionOf
  rw [← stamps_length]
  cases found : store.saga id with
  | none =>
    rw [run.stamps_absent found]
    rfl
  | some row =>
    obtain ⟨saga, rfl, shows, coherent⟩ := run.shows found
    exact (run.stamped shows coherent).revision

end Run

/-! ### Concurrent runs -/

section Concurrent

variable {Client : Type} [DecidableEq Client] {config : Clients Client}

/-- **The revision of a saga, its activity and the calls that expect a revision agree.** -/
structure RevisionsAgree (config : Clients Client) (id : Uuid) : Prop where
  numbered : ∀ row, config.store.saga id = some row → 0 < row.revision ∧
    (config.store.activityOf id).map (fun note => note.provisioningRevision) =
      (List.range row.revision.toNat).map fun index : Nat => (index : Int) + 1
  accounted : ∀ entry ∈ config.history, Accounted entry id
  compared : ∀ entry ∈ config.history, ∀ revision, entry.event.expects = some (id, revision) →
    executes entry = true → entry.before.revisionOf id = revision
  once : ∀ past one between two rest revision,
    config.history = past ++ one :: (between ++ two :: rest) →
    one.event.expects = some (id, revision) → executes one = true →
    two.event.expects = some (id, revision) → executes two = false
  overtaken : ∀ past between entry rest middle, config.history = past ++ (between ++ entry :: rest) →
    Run past middle → entry.event.expects = some (id, middle.revisionOf id) →
    (∃ other ∈ between, Transitions other id) → executes entry = false

/-- The revision of a saga, its activity and the calls that expect a revision agree. -/
theorem Concurrent.revised (concurrent : Concurrent config) (id : Uuid) : RevisionsAgree config id := by
  have run := concurrent.run
  have positioned : ∀ entry ∈ config.history, ∃ past rest, Run (past ++ entry :: rest) config.store := by
    intro entry member
    obtain ⟨past, rest, same⟩ := List.append_of_mem member
    exact ⟨past, rest, by rw [← same]; exact run⟩
  refine
    { numbered := fun row found => run.numbered found
      accounted := fun entry member => ?_
      compared := fun entry member revision expected executed => ?_
      once := fun past one between two rest revision same => ?_
      overtaken := fun past between entry rest middle same => ?_ }
  · obtain ⟨past, rest, at_entry⟩ := positioned entry member
    exact at_entry.accounted id
  · obtain ⟨past, rest, at_entry⟩ := positioned entry member
    exact (at_entry.did.2.expects expected executed).1
  · rw [same] at run
    exact run.expects_once
  · rw [same] at run
    exact fun upTo => upTo.expects_current run

/-- **Revisions, activity and compare-and-swap agree** in every concurrent run, and a step of a client
leaves the committed rows as they are or commits one call on them. -/
theorem revisions_agree (concurrent : Concurrent config) :
    (∀ id, RevisionsAgree config id) ∧ ∀ later, Step provisioning readCommitted config later →
      (later.history = config.history ∧ later.store = config.store) ∨
        ∃ entry, later.history = config.history ++ [entry] ∧ entry.before = config.store ∧
          later.store = entry.after :=
  ⟨concurrent.revised, fun _ step => step.history⟩

/-- The rehearsal, played by one of several clients. -/
theorem revisions_agree_rehearsed :
    Concurrent (⟨Rehearsal.history, Rehearsal.store, [], fun _ => none⟩ : Clients Nat) ∧
      RevisionsAgree (⟨Rehearsal.history, Rehearsal.store, [], fun _ => none⟩ : Clients Nat) 1 := by
  have concurrent := concurrent_of_played Rehearsal.plays (0 : Nat)
  exact ⟨concurrent, (revisions_agree concurrent).1 1⟩

/-- **No update of a saga is lost**: its row changes by the calls that change it only, and its revision is their
number. -/
structure NothingLost (config : Clients Client) (id : Uuid) : Prop extends RevisionsAgree config id where
  changed : ∀ entry ∈ config.history, Changes id entry = true ↔ Transitions entry id
  counted : config.store.revisionOf id = (config.history.filter (Changes id)).length

/-- **No update of a saga is lost** in any concurrent run, and a transaction that fails leaves the committed rows as
they are. -/
theorem no_lost_update (concurrent : Concurrent config) : (∀ id, NothingLost config id) ∧
    ∀ later, Step provisioning readCommitted config later → later.failures ≠ config.failures →
      later.history = config.history ∧ later.store = config.store := by
  refine ⟨fun id => { concurrent.revised id with changed := ?_, counted := concurrent.run.counted },
    fun later step failed => step.failed failed⟩
  intro entry member
  have run := concurrent.run
  obtain ⟨past, rest, same⟩ := List.append_of_mem member
  rw [same] at run
  exact changes_iff run

/-- Nothing is lost in the rehearsal, and the retry that came late changed nothing. -/
theorem no_lost_update_rehearsed :
    NothingLost (Clients.failing Rehearsal.script
      (.retry 100000009 37 (Rehearsal.retry "late" 5 .retryFailed)) (.domain .revisionConflict)) 1 ∧
    Rehearsal.store.revisionOf 1 = 16 :=
  ⟨(no_lost_update Rehearsal.belated).1 1, by decide +kernel⟩

end Concurrent

end OrganizationProvisioning
