/-
**The recorded timeline is that of the transactions' beginnings.**

A transaction that waits for a saga, or has not looked for one yet, keeps the time at which it began.

* `Scheduled` — the interleavings: transactions begin as the clock advances, and each commits or rolls back
  at any later point.
* `Clocked`, `Clocked.scheduled` — **clients that interleave single statements under a clock follow a schedule.**
* `timeline_follows` — the recorded times are the beginnings of the transactions that changed the saga;
  `updated_at` and the order of the activity follow the revision exactly when these transactions began in
  the order in which they obtained the saga.
* `timeline_overtaken` — a schedule in which they did not.
-/
import OrganizationProvisioning.Run.Concurrent
import OrganizationProvisioning.Run.Timeline
import OrganizationProvisioning.Run.Script
import OrganizationProvisioning.Saga.Selections
import Mathlib.Data.Prod.Lex

namespace OrganizationProvisioning

open Relational Transactional

/-! ### Interleavings -/

/-- **The interleavings of concurrent transactions**: the clock, the transactions that have begun and not
ended, what has committed so far and the store. A transaction that changes a saga holds its row until it
commits, so transactions obtain a saga in the order in which they commit. -/
inductive Scheduled : Timestamp → List Event → List Committed → Store → Prop
  | initial (clock : Timestamp) : Scheduled clock [] [] Store.initial
  | begins {clock : Timestamp} {pending : List Event} {history : List Committed} {store : Store}
      {event : Event} (earlier : Scheduled clock pending history store) (later : clock ≤ event.now)
      (asked : legal history event) : Scheduled event.now (event :: pending) history store
  | commits {clock : Timestamp} {before after : List Event} {history : List Committed}
      {entry : Committed} (earlier : Scheduled clock (before ++ entry.event :: after) history entry.before)
      (committed : provisioning.Commit entry) :
      Scheduled clock (before ++ after) (history ++ [entry]) entry.after
  | rollsBack {clock : Timestamp} {before after : List Event} {history : List Committed} {store : Store}
      {event : Event} (earlier : Scheduled clock (before ++ event :: after) history store) :
      Scheduled clock (before ++ after) history store

section Interleavings

variable {clock : Timestamp} {pending : List Event} {history : List Committed} {store : Store}

/-- **What commits in an interleaving is a run**, and what is pending may still commit. -/
theorem Scheduled.run (scheduled : Scheduled clock pending history store) :
    Run history store ∧ ∀ event ∈ pending, legal history event := by
  induction scheduled with
  | initial => exact ⟨.start, fun _ impossible => by cases impossible⟩
  | begins _ _ asked ih =>
    refine ⟨ih.1, fun event member => ?_⟩
    rcases List.mem_cons.mp member with rfl | before
    · exact asked
    · exact ih.2 event before
  | @commits clock before after history entry _ committed ih =>
    refine ⟨.commit ih.1 (ih.2 _ (by simp)) committed, fun event member => ?_⟩
    refine legal_stays (ih.2 event ?_)
    rcases List.mem_append.mp member with first | last
    · exact List.mem_append_left _ first
    · exact List.mem_append_right _ (List.mem_cons_of_mem _ last)
  | @rollsBack clock before after history store rolled _ ih =>
    refine ⟨ih.1, fun event member => ih.2 event ?_⟩
    rcases List.mem_append.mp member with first | last
    · exact List.mem_append_left _ first
    · exact List.mem_append_right _ (List.mem_cons_of_mem _ last)

end Interleavings

/-! ### Clients under a clock -/

section Clients

variable {Client : Type} [DecidableEq Client] {config : Clients Client} {client : Client}
  {clients : List Client} {clock : Timestamp}
  {session session' : Session Statement Statement.Answer Abort Store Image Event Reply Lock}

/-- **What clients reach, statement by statement, when their transactions begin as a clock advances.** -/
inductive Clocked : Timestamp → Clients Client → Prop
  | start (clock : Timestamp) : Clocked clock ⟨[], Store.initial, [], fun _ => none⟩
  | begins {clock : Timestamp} {config : Clients Client} {client : Client} {event : Event}
      (earlier : Clocked clock config) (idle : config.sessions client = none)
      (asked : legal config.history event) (later : clock ≤ event.now) :
      Clocked event.now (config.set client (some (.opened event event.program none)))
  | goes {clock : Timestamp} {config later : Clients Client} (earlier : Clocked clock config)
      (step : Step provisioning readCommitted config later)
      (begun : ∀ client, config.sessions client = none → later.sessions client = none) :
      Clocked clock later

/-- They are concurrent. -/
theorem Clocked.concurrent (clocked : Clocked clock config) : Concurrent config := by
  induction clocked with
  | start => exact .start
  | begins _ idle asked _ ih => exact ih.step (.begins idle asked)
  | goes _ step _ ih => exact ih.step step

/-- The calls some clients have under way. -/
def Clients.pending (config : Clients Client) (clients : List Client) : List Event :=
  clients.filterMap fun client => (config.sessions client).map fun session => session.event

/-- A statement that goes on leaves what is under way. -/
theorem pending_goes (running : config.sessions client = some session)
    (same : session'.event = session.event) :
    Clients.pending (config.set client (some session')) clients = Clients.pending config clients := by
  refine List.filterMap_congr fun other _ => ?_
  rw [Configuration.set_sessions]
  split
  · rename_i here
    rw [here, running, Option.map_some, Option.map_some, same]
  · rfl

/-- The other clients keep what they have under way. -/
theorem pending_others (absent : client ∉ clients) (next : Option _) :
    Clients.pending (config.set client next) clients = Clients.pending config clients := by
  refine List.filterMap_congr fun other member => ?_
  rw [Configuration.set_sessions, if_neg]
  rintro rfl
  exact absent member

/-- The clients that have a transaction under way, each once. -/
structure Busy (config : Clients Client) (clients : List Client) : Prop where
  distinct : clients.Nodup
  listed : ∀ client, client ∈ clients ↔ config.sessions client ≠ none

/-- A transaction that goes on stays under way. -/
theorem Busy.goes (busy : Busy config clients) (running : config.sessions client = some session) :
    Busy (config.set client (some session')) clients := by
  refine ⟨busy.distinct, fun other => ?_⟩
  rw [busy.listed, Configuration.set_sessions]
  split
  · rename_i here
    rw [here, running]
    exact ⟨fun _ => Option.some_ne_none _, fun _ => Option.some_ne_none _⟩
  · rfl

/-- **A transaction that ends is taken out of what is under way.** -/
theorem Busy.ends (busy : Busy config clients) (running : config.sessions client = some session) :
    ∃ before after rest, Clients.pending config clients = before ++ session.event :: after ∧
      Busy (config.set client none) rest ∧ Clients.pending (config.set client none) rest = before ++ after := by
  have member : client ∈ clients := (busy.listed client).mpr (by rw [running]; exact Option.some_ne_none _)
  obtain ⟨early, late, rfl⟩ := List.append_of_mem member
  obtain ⟨absent, distinct⟩ := List.nodup_cons.mp (List.nodup_middle.mp busy.distinct)
  refine ⟨Clients.pending config early, Clients.pending config late, early ++ late, ?_,
    ⟨distinct, fun other => ?_⟩, ?_⟩
  · unfold Clients.pending
    rw [List.filterMap_append, List.filterMap_cons, running]
    rfl
  · rw [Configuration.set_sessions]
    split
    · rename_i here
      rw [here]
      exact ⟨fun inside => absurd inside absent, fun impossible => absurd rfl impossible⟩
    · rename_i apart
      rw [← busy.listed]
      simp [apart]
  · rw [pending_others absent]
    exact List.filterMap_append

/-- **Clients under a clock follow a schedule.** -/
theorem Clocked.scheduled (clocked : Clocked clock config) : ∃ clients, Busy config clients ∧
    Scheduled clock (Clients.pending config clients) config.history config.store := by
  induction clocked with
  | start clock => exact ⟨[], ⟨List.nodup_nil, fun _ => by simp⟩, .initial clock⟩
  | @begins clock config client event earlier idle asked later ih =>
    obtain ⟨clients, busy, scheduled⟩ := ih
    have absent : client ∉ clients := fun member => (busy.listed client).mp member idle
    refine ⟨client :: clients, ⟨List.nodup_cons.mpr ⟨absent, busy.distinct⟩, fun other => ?_⟩, ?_⟩
    · rw [List.mem_cons, busy.listed, Configuration.set_sessions]
      split <;> simp [*]
    · have shape : Clients.pending (config.set client (some (.opened event event.program none)))
          (client :: clients) = event :: Clients.pending config clients := by
        rw [← pending_others absent]
        unfold Clients.pending
        rw [List.filterMap_cons, Configuration.set_sessions, if_pos rfl]
        rfl
      rw [shape]
      exact .begins scheduled later asked
  | @goes clock config later earlier step begun ih =>
    obtain ⟨clients, busy, scheduled⟩ := ih
    have stays : ∀ {client session session'}, config.sessions client = some session →
        session'.event = session.event → ∃ clients, Busy (config.set client (some session')) clients ∧
          Scheduled clock (Clients.pending (config.set client (some session')) clients) config.history
            config.store := by
      intro client session session' running same
      refine ⟨clients, busy.goes running, ?_⟩
      rw [pending_goes running same]
      exact scheduled
    have rolls : ∀ {client session}, config.sessions client = some session → ∃ rest,
        Busy (config.set client none) rest ∧
          Scheduled clock (Clients.pending (config.set client none) rest) config.history config.store := by
      intro client session running
      obtain ⟨before, after, rest, shape, busy', shape'⟩ := busy.ends running
      rw [shape] at scheduled
      exact ⟨rest, busy', shape' ▸ .rollsBack scheduled⟩
    cases step with
    | @begins client event idle legal =>
      have impossible := begun client idle
      rw [Configuration.set_sessions, if_pos rfl] at impossible
      cases impossible
    | looks running => exact stays running rfl
    | answers running => exact stays running rfl
    | fails running =>
      obtain ⟨rest, busy', scheduled'⟩ := rolls running
      exact ⟨rest, ⟨busy'.distinct, busy'.listed⟩, scheduled'⟩
    | refused running =>
      obtain ⟨rest, busy', scheduled'⟩ := rolls running
      exact ⟨rest, ⟨busy'.distinct, busy'.listed⟩, scheduled'⟩
    | @drops client =>
      cases running : config.sessions client with
      | none =>
        rw [Configuration.set_idle running]
        exact ⟨clients, busy, scheduled⟩
      | some session => exact rolls running
    | @commits client session reply running ends =>
      obtain ⟨before, after, rest, shape, busy', shape'⟩ := busy.ends running
      obtain ⟨-, underway, -⟩ := (Reached.refines earlier.concurrent lawful).sessions client session running
      have committed : provisioning.Commit ⟨session.event, config.store, reply,
          session.view provisioning config.store⟩ := underway.commits (by rw [ends]; exact ⟨rfl, rfl⟩)
      rw [shape] at scheduled
      have scheduled' := scheduled.commits committed
      rw [← shape'] at scheduled'
      exact ⟨rest, ⟨busy'.distinct, busy'.listed⟩, scheduled'⟩

end Clients

/-! ### The law -/

/-- The row of a saga after a part of the history. -/
def RowAfter (past : List Committed) (id : Uuid) (row : SagaRow) : Prop :=
  ∃ store, Run past store ∧ store.saga id = some row

/-- **`updated_at` never decreases as the revision grows.** -/
def UpdatesFollow (id : Uuid) (history : List Committed) : Prop :=
  ∀ past past' row row', past <+: history → past' <+: history → RowAfter past id row →
    RowAfter past' id row' → row.revision ≤ row'.revision → @LE.le Int _ row.updatedAt row'.updatedAt

/-- The order of the activity index: `created_at ASC, activity_id ASC`. -/
def activityOrder (first second : ActivityRow) : Bool :=
  first.createdAt < second.createdAt ∨
    (first.createdAt = second.createdAt ∧ first.activityId ≤ second.activityId)

/-- **The activity rows, read in the order of their index, come by revision**, up to ties of
`created_at`. -/
def ActivityFollows (id : Uuid) (store : Store) : Prop :=
  (orderBy activityOrder (store.activityOf id)).Pairwise fun first second =>
    first.provisioningRevision < second.provisioningRevision ∨ first.createdAt = second.createdAt

/-- **The transactions that changed the saga began in the order in which they obtained it.** -/
def BeganInOrder (id : Uuid) (history : List Committed) : Prop :=
  (stamps id history).Pairwise fun first second => @LE.le Int _ first second

/-! ### The rows by time -/

section Order

variable {rows : List ActivityRow}

theorem activityOrder_iff {first second : ActivityRow} : activityOrder first second = true ↔
    @LT.lt Int _ first.createdAt second.createdAt ∨ (@Eq Int first.createdAt second.createdAt ∧
      first.activityId ≤ second.activityId) := by
  unfold activityOrder
  exact decide_eq_true_iff

/-- The order of the index is lexicographic. -/
theorem activityOrder_lex {first second : ActivityRow} : activityOrder first second = true ↔
    toLex (first.createdAt, first.activityId) ≤ toLex (second.createdAt, second.activityId) := by
  rw [activityOrder_iff, Prod.Lex.toLex_le_toLex]

theorem activityOrder_total (first second : ActivityRow) :
    activityOrder first second = true ∨ activityOrder second first = true := by
  rw [activityOrder_lex, activityOrder_lex]
  exact le_total _ _

theorem activityOrder_chain (first second third : ActivityRow)
    (one : activityOrder first second = true) (two : activityOrder second third = true) :
    activityOrder first third = true := by
  rw [activityOrder_lex] at one two ⊢
  exact one.trans two

/-- Of two rows, the one with the later time has the later revision. -/
def Agree (first second : ActivityRow) : Prop :=
  (@LT.lt Int _ first.createdAt second.createdAt →
    first.provisioningRevision < second.provisioningRevision) ∧
  (@LT.lt Int _ second.createdAt first.createdAt →
    second.provisioningRevision < first.provisioningRevision)

instance : Std.Symm Agree := ⟨fun _ _ agree => ⟨agree.2, agree.1⟩⟩

theorem Agree.refl (row : ActivityRow) : Agree row row :=
  ⟨fun less => absurd less (lt_irrefl _), fun less => absurd less (lt_irrefl _)⟩

/-- Rows read by time come by revision exactly when any two of them agree. -/
theorem read_by_time : ((orderBy activityOrder rows).Pairwise fun first second =>
      first.provisioningRevision < second.provisioningRevision ∨
        first.createdAt = second.createdAt) ↔
    ∀ first ∈ rows, ∀ second ∈ rows, Agree first second := by
  have sorted := pairwise_orderBy activityOrder activityOrder_total activityOrder_chain rows
  constructor
  · intro follows first one second two
    have agree : (orderBy activityOrder rows).Pairwise Agree := by
      refine (sorted.and follows).imp ?_
      rintro first second ⟨before, byRevision⟩
      have before := activityOrder_iff.mp before
      have byRevision : first.provisioningRevision < second.provisioningRevision ∨
        @Eq Int first.createdAt second.createdAt := byRevision
      unfold Agree
      omega
    exact agree.forall_of_forall (fun row _ => .refl row) ((mem_orderBy activityOrder).mpr one)
      ((mem_orderBy activityOrder).mpr two)
  · intro agree
    refine sorted.imp_of_mem ?_
    intro first second one two before
    have before := activityOrder_iff.mp before
    have agrees := (agree first ((mem_orderBy activityOrder).mp one) second
      ((mem_orderBy activityOrder).mp two)).1
    show _ ∨ @Eq Int first.createdAt second.createdAt
    omega

/-- Rows in the order of their revisions agree exactly when their times are in order. -/
theorem agree_iff (numbered : rows.Pairwise fun first second =>
      first.provisioningRevision < second.provisioningRevision) :
    (∀ first ∈ rows, ∀ second ∈ rows, Agree first second) ↔
      (rows.map fun note => note.createdAt).Pairwise fun first second =>
        @LE.le Int _ first second := by
  rw [List.pairwise_map]
  constructor
  · intro agree
    refine numbered.imp_of_mem ?_
    intro first second one two less
    have agrees := (agree first one second two).2
    omega
  · intro sorted first one second two
    have agree : rows.Pairwise Agree := by
      refine (numbered.and sorted).imp ?_
      rintro first second ⟨less, earlier⟩
      exact ⟨fun _ => less, fun later => absurd later (by omega)⟩
    exact agree.forall_of_forall (fun row _ => .refl row) one two

end Order

/-! ### The law, by the stamps -/

section Law

variable {history past : List Committed} {store : Store} {id : Uuid} {row : SagaRow}

/-- The last of a list in order is the greatest. -/
theorem le_last {times : List Timestamp}
    (sorted : times.Pairwise fun first second => @LE.le Int _ first second) {last time : Timestamp}
    (ends : times.getLast? = some last) (member : time ∈ times) : @LE.le Int _ time last := by
  obtain ⟨others, rfl⟩ := List.getLast?_eq_some_iff.mp ends
  rcases List.mem_append.mp member with before | same
  · exact (List.pairwise_append.mp sorted).2.2 time before last List.mem_cons_self
  · rw [List.mem_singleton.mp same]

theorem RowAfter.stamped (recorded : RowAfter past id row) :
    row.revision = (stamps id past).length ∧ (stamps id past).getLast? = some row.updatedAt := by
  obtain ⟨store, run, found⟩ := recorded
  obtain ⟨saga, rfl, shows, coherent⟩ := run.shows found
  have stamped := run.stamped shows coherent
  exact ⟨stamped.revision, stamped.updated⟩

/-- Every stamp was once the `updated_at` of the saga. -/
theorem stamp_recorded (run : Run history store) {time : Timestamp} (member : time ∈ stamps id history) :
    ∃ past row, past <+: history ∧ RowAfter past id row ∧ row.updatedAt = time := by
  induction run with
  | start => cases member
  | @commit history entry earlier legal committed ih =>
    have run' : Run (history ++ [entry]) entry.after := .commit earlier legal committed
    by_cases changes : Changes id entry = true
    · rw [stamps_changed changes] at member
      rcases List.mem_append.mp member with before | same
      · obtain ⟨past, row, upTo, recorded, updated⟩ := ih before
        exact ⟨past, row, upTo.trans (List.prefix_append _ _), recorded, updated⟩
      · cases found : entry.after.saga id with
        | none =>
          have none := run'.stamps_absent found
          rw [stamps_changed changes] at none
          simp at none
        | some row =>
          have recorded : RowAfter (history ++ [entry]) id row := ⟨_, run', found⟩
          have last := recorded.stamped.2
          rw [stamps_changed changes, List.getLast?_append_cons, List.getLast?_singleton,
            Option.some.injEq] at last
          refine ⟨_, row, List.prefix_refl _, recorded, ?_⟩
          rw [List.mem_singleton.mp same, last]
    · have kept : entry.after.saga id = entry.before.saga id := by
        unfold Changes at changes
        simpa using changes
      rw [stamps_kept kept] at member
      obtain ⟨past, row, upTo, recorded, updated⟩ := ih member
      exact ⟨past, row, upTo.trans (List.prefix_append _ _), recorded, updated⟩

/-- **`updated_at` follows the revision exactly when the transactions began in order.** -/
theorem updates_iff (run : Run history store) :
    UpdatesFollow id history ↔ BeganInOrder id history := by
  constructor
  · intro follows
    induction run with
    | start => exact List.Pairwise.nil
    | @commit history entry earlier legal committed ih =>
      have run' : Run (history ++ [entry]) entry.after := .commit earlier legal committed
      have upTo : history <+: history ++ [entry] := List.prefix_append _ _
      have sofar := ih fun past past' row row' one two =>
        follows past past' row row' (one.trans upTo) (two.trans upTo)
      unfold BeganInOrder at sofar ⊢
      by_cases changes : Changes id entry = true
      · rw [stamps_changed changes, List.pairwise_append]
        refine ⟨sofar, List.pairwise_singleton _ _, ?_⟩
        intro time member last same
        rw [List.mem_singleton.mp same]
        obtain ⟨past, row, before, recorded, updated⟩ := stamp_recorded earlier member
        cases found : entry.after.saga id with
        | none =>
          have none := run'.stamps_absent found
          rw [stamps_changed changes] at none
          simp at none
        | some row' =>
          have recorded' : RowAfter (history ++ [entry]) id row' := ⟨_, run', found⟩
          have fewer := (@stamps_upTo id _ _ (before.trans upTo)).length_le
          have ordered := follows past _ row row' (before.trans upTo) (List.prefix_refl _) recorded
            recorded' (by rw [recorded.stamped.1, recorded'.stamped.1]; exact_mod_cast fewer)
          have now := recorded'.stamped.2
          rw [stamps_changed changes, List.getLast?_append_cons, List.getLast?_singleton,
            Option.some.injEq] at now
          rwa [updated, ← now] at ordered
      · have kept : entry.after.saga id = entry.before.saga id := by
          unfold Changes at changes
          simpa using changes
        rwa [stamps_kept kept]
  · intro sorted past past' row row' one two recorded recorded' older
    rw [recorded.stamped.1, recorded'.stamped.1] at older
    have fewer : (stamps id past).length ≤ (stamps id past').length := by exact_mod_cast older
    have upTo := List.prefix_of_prefix_length_le (@stamps_upTo id _ _ one) (stamps_upTo two) fewer
    have member := upTo.subset (List.mem_of_getLast? recorded.stamped.2)
    exact le_last (sorted.sublist (stamps_upTo two).sublist) recorded'.stamped.2 member

/-- The activity of a saga carries its stamps. -/
theorem activity_stamped (run : Run history store) :
    (store.activityOf id).map (fun note => note.createdAt) = stamps id history := by
  cases found : store.saga id with
  | none => rw [run.holds.owned.activityOf_nil found, run.stamps_absent found, List.map_nil]
  | some row =>
    obtain ⟨saga, -, shows, coherent⟩ := run.shows found
    rw [shows.activity, (run.stamped shows coherent).activity_eq]

/-- The activity of a saga is stored in the order of its revisions. -/
theorem activity_ordered (run : Run history store) : (store.activityOf id).Pairwise fun first second =>
    first.provisioningRevision < second.provisioningRevision := by
  cases found : store.saga id with
  | none =>
    rw [run.holds.owned.activityOf_nil found]
    exact List.Pairwise.nil
  | some row =>
    obtain ⟨saga, -, shows, coherent⟩ := run.shows found
    rw [shows.activity]
    exact coherent.activity_sorted

/-- **The activity follows the revision exactly when the transactions began in order.** -/
theorem activity_iff (run : Run history store) :
    ActivityFollows id store ↔ BeganInOrder id history := by
  cases found : store.saga id with
  | none =>
    unfold ActivityFollows BeganInOrder
    rw [run.holds.owned.activityOf_nil found, run.stamps_absent found]
    exact ⟨fun _ => List.Pairwise.nil, fun _ => List.Pairwise.nil⟩
  | some row =>
    obtain ⟨saga, -, shows, coherent⟩ := run.shows found
    have stamped := run.stamped shows coherent
    unfold ActivityFollows BeganInOrder
    rw [shows.activity, ← stamped.activity_eq, read_by_time, agree_iff]
    exact coherent.activity_sorted

/-- **The recorded timeline is that of the transactions' beginnings.** -/
theorem timeline_follows {clock : Timestamp} {pending : List Event}
    (scheduled : Scheduled clock pending history store) (id : Uuid) :
    ((store.activityOf id).Pairwise fun first second =>
      first.provisioningRevision < second.provisioningRevision) ∧
    (store.activityOf id).map (fun note => note.createdAt) = stamps id history ∧
    (∀ row, store.saga id = some row → row.revision = (stamps id history).length ∧
      (stamps id history).getLast? = some row.updatedAt) ∧
    (UpdatesFollow id history ↔ BeganInOrder id history) ∧
    (ActivityFollows id store ↔ BeganInOrder id history) := by
  have run := scheduled.run.1
  refine ⟨activity_ordered run, activity_stamped run, fun row found => ?_, updates_iff run,
    activity_iff run⟩
  exact RowAfter.stamped ⟨store, run, found⟩

end Law

/-! ### A claim that begins first and commits last -/

section Overtaken

variable {clock : Timestamp} {history : List Committed} {store final : Store}

/-- What is pending commits as it does in a run. -/
theorem Scheduled.commit_of {before after : List Event} {entry : Committed}
    (scheduled : Scheduled clock (before ++ entry.event :: after) history store)
    (run : Run (history ++ [entry]) final) :
    Scheduled clock (before ++ after) (history ++ [entry]) final := by
  obtain ⟨earlier, -, committed, rfl⟩ := run.last
  rw [scheduled.run.1.unique earlier] at scheduled
  exact .commits scheduled committed

/-- A transaction alone. -/
theorem Scheduled.next {entry : Committed} (scheduled : Scheduled clock [] history store)
    (run : Run (history ++ [entry]) final) (later : clock ≤ entry.event.now) :
    Scheduled entry.event.now [] (history ++ [entry]) final := by
  have begun : Scheduled entry.event.now ([] ++ [entry.event]) history store :=
    .begins scheduled later run.last.2.1
  exact begun.commit_of run

/-- **A transaction that begins before another and commits after it.** -/
theorem Scheduled.overtaken {first second : Committed} (scheduled : Scheduled clock [] history store)
    (run : Run ((history ++ [second]) ++ [first]) final) (asked : legal history first.event)
    (later : clock ≤ first.event.now) (overtakes : first.event.now ≤ second.event.now) :
    Scheduled second.event.now [] ((history ++ [second]) ++ [first]) final := by
  have middle : Run (history ++ [second]) first.before := run.last.1
  have begun : Scheduled second.event.now ([] ++ second.event :: [first.event]) history store :=
    .begins (.begins scheduled later asked) overtakes middle.last.2.1
  have passed : Scheduled second.event.now ([] ++ [first.event]) (history ++ [second]) first.before :=
    begun.commit_of middle
  exact passed.commit_of run

end Overtaken

/-- A call that names no earlier one. -/
def Event.unprompted : Event → Bool
  | .finalizeEffect _ _ _ _ _ => false
  | _ => true

theorem legal_unprompted {history : List Committed} {event : Event}
    (unprompted : event.unprompted = true) : legal history event := by
  cases event with
  | finalizeEffect => cases unprompted
  | start | retry | requestCleanup | quarantineExpired | claimNext => trivial

/-- A second worker begins its claim at 3 and looks for a saga only after a finalization that began at 4. -/
def overtakenScript : List Instruction := [
  .call (.start 0 Rehearsal.ids Rehearsal.input),
  Rehearsal.claim 1 101 21,
  .settle 4 24 "worker" Rehearsal.accepting 1,
  .call (.claimNext 3 5 "worker" 103 23 60)]

theorem overtaken_run : Run (played overtakenScript).1 (played overtakenScript).2 :=
  run_of_played (by decide +kernel)

theorem overtaken_scheduled :
    Scheduled 4 [] (played overtakenScript).1 (played overtakenScript).2 := by
  have run := overtaken_run
  have clocks : (played overtakenScript).1.map (fun entry => entry.event.now) = [0, 1, 4, 3] := by
    decide +kernel
  have prompts : (played overtakenScript).1.map (fun entry => entry.event.unprompted) =
      [true, true, false, true] := by decide +kernel
  generalize (played overtakenScript).1 = history at run clocks prompts ⊢
  obtain ⟨started, rest, rfl, zero, clocks⟩ := List.map_eq_cons_iff.mp clocks
  obtain ⟨claimed, rest, rfl, one, clocks⟩ := List.map_eq_cons_iff.mp clocks
  obtain ⟨settled, rest, rfl, four, clocks⟩ := List.map_eq_cons_iff.mp clocks
  obtain ⟨late, rest, rfl, three, clocks⟩ := List.map_eq_cons_iff.mp clocks
  obtain rfl := List.map_eq_nil_iff.mp clocks
  simp only [List.map_cons, List.cons.injEq] at prompts
  have first : Run [started] started.after :=
    (show Run ([] ++ started :: [claimed, settled, late]) _ from run).commit_of_mem.2.2.2
  have second : Run ([started] ++ [claimed]) claimed.after :=
    (show Run ([started] ++ claimed :: [settled, late]) _ from run).commit_of_mem.2.2.2
  have initial : Scheduled 0 [] [] Store.initial := .initial 0
  have begun := initial.next first (by rw [zero])
  have taken := begun.next second (by rw [zero, one]; decide)
  have last := taken.overtaken run (legal_unprompted prompts.2.2.2.1) (by rw [one, three]; decide)
    (by rw [three, four]; decide)
  rwa [four] at last

/-- **The recorded timeline need not follow the transitions.** -/
theorem timeline_overtaken : ∃ clock history store, Scheduled clock [] history store ∧
    ¬ UpdatesFollow 1 history ∧ ¬ ActivityFollows 1 store := by
  have order : ¬ BeganInOrder 1 (played overtakenScript).1 := by
    unfold BeganInOrder
    decide +kernel
  refine ⟨4, _, _, overtaken_scheduled, ?_, ?_⟩
  · rwa [updates_iff overtaken_run]
  · rwa [activity_iff overtaken_run]

/-- The overtaken claim is stamped with the time at which it began. -/
theorem timeline_follows_overtaken :
    ((played overtakenScript).2.activityOf 1).map (fun note => note.createdAt) = [0, 1, 4, 3] ∧
      (UpdatesFollow 1 (played overtakenScript).1 ↔ BeganInOrder 1 (played overtakenScript).1) := by
  obtain ⟨-, stamped, -, updates, -⟩ := timeline_follows overtaken_scheduled 1
  refine ⟨?_, updates⟩
  rw [stamped]
  decide +kernel

end OrganizationProvisioning
