/-
**The statements each storage function sends.**

* `asks_start`, `asks_retry`, … — a predicate that holds of every plain statement and of the activity row
  a function records holds of all it sends; the two functions that select a saga send scans beside.
* `Certain` — a program without a scan; `Certain.commits_iff` — it commits exactly what it commits alone.
* `Event.Notes` — the activity ids a call may use; `unused_of_commits` — the others stay unused.
-/
import OrganizationProvisioning.Library.Computed
import OrganizationProvisioning.Proof.Statements
import OrganizationProvisioning.Model.Worker

namespace OrganizationProvisioning

open Relational Transactional

/-! ### Plain statements -/

/-- The statement neither scans nor records activity. -/
def Sql.plain : Sql → Bool
  | .scanSagas _ | .insertActivity _ => false
  | _ => true

section Sends

variable {P : Statement → Prop} {α : Type}

theorem asks_require {condition : Bool} {otherwise : Abort} :
    Asks P (require condition otherwise) := by
  cases condition
  · exact .abort _
  · exact .pure _

theorem asks_expect {found : Option α} {otherwise : Abort} : Asks P (expect otherwise found) := by
  cases found
  · exact .abort _
  · exact .pure _

theorem asks_fetchOne {operation : String} {found : Option α} :
    Asks P (fetchOne operation found) :=
  asks_expect

variable (plain : ∀ operation sql, sql.plain = true → P ⟨operation, sql⟩)
include plain

theorem asks_exec {operation : String} {sql : Sql} (simple : sql.plain = true) :
    Asks P (exec operation sql) :=
  .perform (plain operation sql simple)

/-! ### Shared pieces -/

variable {now : Timestamp} {id activityId : Uuid} {actor : String}

theorem asks_refreshSagaStatus {bump : Bool} : Asks P (refreshSagaStatus now id bump) :=
  .bind (asks_exec plain rfl) fun _ => .bind asks_fetchOne fun _ => .bind (asks_exec plain rfl)
    fun _ => .bind (asks_exec plain rfl) fun _ => .bind asks_fetchOne fun _ => .pure _

theorem asks_loadView : Asks P (loadView id actor) := by
  refine .bind (asks_exec plain rfl) fun found => ?_
  cases found with
  | none => exact .pure _
  | some row => exact .bind (asks_exec plain rfl) fun _ => .bind asks_expect fun _ => .pure _

theorem asks_beginMutation {caller key : String} {operation : Operation}
    {requestHash : List UInt8} {provisioningId : Option Uuid} :
    Asks P (beginMutation now caller key operation actor requestHash provisioningId) := by
  refine .bind (asks_exec plain rfl) fun inserted => ?_
  cases inserted with
  | true => exact .pure _
  | false =>
    exact .bind (asks_exec plain rfl) fun _ => .bind asks_fetchOne fun _ => .bind asks_require
      fun _ => .bind asks_require fun _ => .bind asks_expect fun _ => .bind asks_expect
        fun _ => .pure _

theorem asks_completeMutation {caller key : String} {response : ProvisioningView} :
    Asks P (completeMutation caller key response) :=
  .bind (asks_exec plain rfl) fun _ => asks_require

theorem asks_insertGrants {effectId : Nat → Uuid} {ordinal : Nat} {grants : List BootstrapGrant} :
    Asks P (insertGrants now id effectId ordinal grants) := by
  induction grants generalizing ordinal with
  | nil => exact .pure _
  | cons grant grants ih =>
    exact .bind asks_require fun _ => .bind (asks_exec plain rfl) fun _ => ih

theorem asks_insertRevokes {effectId : Nat → Uuid} {index : Nat} {sources : List EffectRow} :
    Asks P (insertRevokes now effectId index sources) := by
  induction sources generalizing index with
  | nil => exact .pure _
  | cons source sources ih =>
    exact .bind asks_fetchOne fun _ => .bind asks_fetchOne fun _ => .bind asks_expect fun _ =>
      .bind (asks_exec plain rfl) fun _ => ih

section Resolve

variable {input : RetryInput} {saga : SagaRow} {effect : EffectRow}

theorem asks_retriedEffect : Asks P (retriedEffect input saga) := by
  unfold retriedEffect
  split
  · exact .bind (asks_exec plain rfl) fun _ => asks_expect
  · split
    · exact .bind asks_require fun _ => .bind (asks_exec plain rfl) fun _ => asks_expect
    · exact .abort _

theorem asks_confirmApplied : Asks P (confirmApplied now input effect) := by
  unfold confirmApplied
  cases effect.kind with
  | createOrganization =>
    simp only
    split
    · exact .bind (asks_exec plain rfl) fun _ => .bind (asks_exec plain rfl) fun _ => .pure _
    · exact .abort _
  | putEntitlement =>
    simp only
    split
    · exact .bind (asks_exec plain rfl) fun _ => .pure _
    · exact .abort _
  | revokeEntitlement =>
    exact .bind asks_require fun _ => .bind (asks_exec plain rfl) fun _ => .pure _

theorem asks_resolveEffect : Asks P (resolveEffect now input saga effect) := by
  unfold resolveEffect
  cases input.resolution with
  | retryFailed =>
    exact .bind asks_require fun _ => .bind (asks_exec plain rfl) fun _ => .pure _
  | confirmNotApplied =>
    exact .bind asks_require fun _ => .bind (asks_exec plain rfl) fun _ => .pure _
  | confirmApplied => exact asks_confirmApplied plain

end Resolve

theorem asks_recordOutcome {record : EffectRecord} {outcome : EffectOutcome} :
    Asks P (recordOutcome now record outcome) := by
  cases outcome with
  | organizationApplied =>
    exact .bind asks_require fun _ => .bind (asks_exec plain rfl) fun _ =>
      .bind (asks_exec plain rfl) fun _ => .pure _
  | entitlementApplied | compensated =>
    exact .bind asks_require fun _ => .bind (asks_exec plain rfl) fun _ => .pure _
  | failed | unknown => exact .bind (asks_exec plain rfl) fun _ => .pure _

theorem asks_dueEffect {saga : SagaRow} : Asks P (dueEffect saga) := by
  unfold dueEffect
  split
  · exact .bind (asks_exec plain rfl) fun _ => asks_fetchOne
  · exact .bind (asks_exec plain rfl) fun _ => asks_fetchOne

/-! ### The storage functions -/

variable (notes : ∀ note : ActivityRow, note.activityId = activityId →
  P ⟨"insert provisioning activity", .insertActivity note⟩)
include notes

omit plain in
theorem asks_insertActivity {effectId : Option Uuid} {kind : ActivityKind} {revision : Int}
    {evidence : Json} :
    Asks P (insertActivity now activityId id effectId kind actor revision evidence) :=
  .perform (notes _ rfl)

theorem asks_start {ids : StartIds} {input : StartInput} (same : ids.activityId = activityId) :
    Asks P (start now ids input) := by
  refine .bind (asks_beginMutation plain) fun replay => ?_
  cases replay with
  | replay response => exact .pure _
  | execute =>
    subst same
    exact .bind (asks_exec plain rfl) fun _ => .bind (asks_exec plain rfl) fun _ =>
      .bind (asks_exec plain rfl) fun _ => .bind (asks_insertGrants plain) fun _ =>
        .bind (asks_insertActivity notes) fun _ => .bind (asks_loadView plain) fun _ =>
          .bind asks_expect fun _ => .bind (asks_completeMutation plain) fun _ => .pure _

theorem asks_retry {input : RetryInput} : Asks P (retry now activityId input) := by
  refine .bind (asks_exec plain rfl) fun _ => .bind asks_expect fun _ =>
    .bind (asks_beginMutation plain) fun replay => ?_
  cases replay with
  | replay response => exact .pure _
  | execute =>
    exact .bind asks_require fun _ => .bind (asks_retriedEffect plain) fun _ =>
      .bind (asks_resolveEffect plain) fun _ => .bind (asks_refreshSagaStatus plain) fun _ =>
        .bind (asks_insertActivity notes) fun _ => .bind (asks_loadView plain) fun _ =>
          .bind asks_expect fun _ => .bind (asks_completeMutation plain) fun _ => .pure _

theorem asks_requestCleanup {effectId : Nat → Uuid} {input : CleanupInput} :
    Asks P (requestCleanup now effectId activityId input) := by
  refine .bind (asks_exec plain rfl) fun _ => .bind asks_expect fun _ =>
    .bind (asks_beginMutation plain) fun replay => ?_
  cases replay with
  | replay response => exact .pure _
  | execute =>
    exact .bind asks_require fun _ => .bind asks_require fun _ => .bind asks_require fun _ =>
      .bind asks_require fun _ => .bind (asks_exec plain rfl) fun _ =>
        .bind (asks_exec plain rfl) fun _ => .bind (asks_insertRevokes plain) fun _ =>
          .bind (asks_exec plain rfl) fun _ => .bind (asks_refreshSagaStatus plain) fun _ =>
            .bind (asks_insertActivity notes) fun _ => .bind (asks_loadView plain) fun _ =>
              .bind asks_expect fun _ => .bind (asks_completeMutation plain) fun _ => .pure _

theorem asks_finalizeEffect {record : EffectRecord} {outcome : EffectOutcome} :
    Asks P (finalizeEffect now activityId record actor outcome) := by
  refine .bind (asks_exec plain rfl) fun _ => .bind asks_fetchOne fun _ =>
    .bind (asks_exec plain rfl) fun current => ?_
  cases current with
  | none => exact .pure _
  | some effect =>
    exact .bind (asks_recordOutcome plain) fun _ => .bind (asks_refreshSagaStatus plain) fun _ =>
      .bind (asks_insertActivity notes) fun _ => .pure _

theorem asks_claimSaga {utcNow : Timestamp} {fence : Uuid} {leaseSeconds : Int} {saga : SagaRow} :
    Asks P (claimSaga now utcNow actor fence activityId leaseSeconds saga) :=
  .bind (asks_dueEffect plain) fun _ => .bind asks_expect fun _ => .bind (asks_exec plain rfl)
    fun _ => .bind asks_fetchOne fun _ => .bind (asks_exec plain rfl) fun _ => .bind asks_fetchOne
      fun _ => .bind (asks_insertActivity notes) fun _ => .bind (asks_exec plain rfl) fun _ =>
        .bind asks_fetchOne fun _ => .pure _

theorem asks_quarantineSaga {saga : SagaRow} :
    Asks P (quarantineSaga now actor activityId saga) :=
  .bind (asks_exec plain rfl) fun _ => .bind asks_expect fun _ => .bind asks_fetchOne fun _ =>
    .bind (asks_exec plain rfl) fun _ => .bind (asks_exec plain rfl) fun _ => .bind asks_fetchOne
      fun _ => asks_insertActivity notes

variable (scans : ∀ operation condition, P ⟨operation, .scanSagas condition⟩)
include scans

theorem asks_claimNext {utcNow : Timestamp} {fence : Uuid} {leaseSeconds : Int} :
    Asks P (claimNext now utcNow actor fence activityId leaseSeconds) := by
  refine .bind (.perform (scans _ _)) fun found => ?_
  cases found with
  | none => exact .pure _
  | some saga => exact .bind (asks_claimSaga plain notes) fun _ => .pure _

omit notes in
theorem asks_quarantineLoop {activityIds : Nat → Uuid} {fuel quarantined : Nat}
    (notes : ∀ (note : ActivityRow) (index : Nat), index < quarantined + fuel →
      note.activityId = activityIds index →
        P ⟨"insert provisioning activity", .insertActivity note⟩) :
    Asks P (quarantineLoop now actor activityIds fuel quarantined) := by
  induction fuel generalizing quarantined with
  | zero => exact .pure _
  | succ fuel ih =>
    refine .bind (.perform (scans _ _)) fun found => ?_
    cases found with
    | none => exact .pure _
    | some saga =>
      refine .bind (asks_quarantineSaga plain fun note same => ?_) fun _ => ih ?_
      · exact notes note quarantined (by omega) same
      · exact fun note index small same => notes note index (by omega) same

end Sends

/-! ### Programs with one way to commit -/

/-- The statement skips locked rows. -/
def Sql.scans : Sql → Bool
  | .scanSagas _ => true
  | _ => false

/-- A program without a scan. -/
abbrev Certain {α : Type} (program : Transaction α) : Prop :=
  Asks (fun statement : Statement => statement.sql.scans = false) program

/-- Every statement but the scan has one answer. -/
theorem only_answer (statement : Statement) (certain : statement.sql.scans = false) (store : Store)
    (result : statement.Answer) :
    postgres.answers statement store result ↔ result = computed statement store := by
  obtain ⟨operation, sql⟩ := statement
  cases sql with
  | scanSagas condition => cases certain
  | _ => exact Iff.rfl

namespace Certain

variable {α : Type} {store final : Store} {program : Transaction α} {result : α}

/-- **A program without a scan commits what it commits alone.** -/
theorem commits_iff (certain : Certain program) :
    postgres.Commits program store result final ↔ alone program store = .ok (result, final) :=
  postgres.commits_iff_run only_answer certain

/-- It commits in one way. -/
theorem unique (certain : Certain program) {result' : α} {final' : Store}
    (one : postgres.Commits program store result final)
    (two : postgres.Commits program store result' final') : result = result' ∧ final = final' := by
  rw [certain.commits_iff] at one two
  rw [one] at two
  cases two
  exact ⟨rfl, rfl⟩

/-- **It rolls back with the error it fails with alone.** -/
theorem aborts_iff (certain : Certain program) {error : Abort} :
    postgres.Aborts program store error ↔ alone program store = .error error :=
  postgres.aborts_iff_run only_answer certain

/-- Where it commits it does not roll back. -/
theorem not_aborts (certain : Certain program)
    (committed : postgres.Commits program store result final) (error : Abort) :
    ¬ postgres.Aborts program store error := by
  rw [certain.commits_iff] at committed
  rw [certain.aborts_iff, committed]
  exact fun impossible => by cases impossible

theorem plain (operation : String) (sql : Sql) (simple : sql.plain = true) :
    (⟨operation, sql⟩ : Statement).sql.scans = false := by
  cases sql with
  | scanSagas condition => cases simple
  | _ => rfl

variable {now : Timestamp} {activityId : Uuid} {actor : String}

theorem start {ids : StartIds} {input : StartInput} : Certain (start now ids input) :=
  asks_start plain (fun _ _ => rfl) rfl

theorem retry {input : RetryInput} : Certain (retry now activityId input) :=
  asks_retry plain fun _ _ => rfl

theorem requestCleanup {effectId : Nat → Uuid} {input : CleanupInput} :
    Certain (requestCleanup now effectId activityId input) :=
  asks_requestCleanup plain fun _ _ => rfl

theorem finalizeEffect {record : EffectRecord} {outcome : EffectOutcome} :
    Certain (finalizeEffect now activityId record actor outcome) :=
  asks_finalizeEffect plain fun _ _ => rfl

end Certain

/-! ### Activity ids -/

/-- The activity ids a call may use. -/
def Event.Notes : Event → Uuid → Prop
  | .start _ ids _, id => id = ids.activityId
  | .retry _ activityId _, id | .requestCleanup _ _ activityId _, id
  | .claimNext _ _ _ _ activityId _, id | .finalizeEffect _ activityId _ _ _, id => id = activityId
  | .quarantineExpired _ _ activityId limit, id => ∃ index < limit.toNat, id = activityId index

/-- The statement records no activity but with one of these ids. -/
def Sql.Notes (ids : Uuid → Prop) : Sql → Prop
  | .insertActivity note => ids note.activityId
  | _ => True

theorem Event.asks_notes (event : Event) :
    Asks (fun statement : Statement => statement.sql.Notes event.Notes) event.program := by
  have plain : ∀ (ids : Uuid → Prop) (operation : String) (sql : Sql), sql.plain = true →
      (⟨operation, sql⟩ : Statement).sql.Notes ids := by
    intro ids operation sql simple
    cases sql with
    | insertActivity note => cases simple
    | _ => trivial
  cases event with
  | start now ids input => exact .bind (asks_start (plain _) (fun _ same => same) rfl) fun _ => .pure _
  | retry => exact .bind (asks_retry (plain _) fun _ same => same) fun _ => .pure _
  | requestCleanup => exact .bind (asks_requestCleanup (plain _) fun _ same => same) fun _ => .pure _
  | quarantineExpired now actor activityId limit =>
    refine .bind (asks_quarantineLoop (plain _) (fun _ _ => trivial) ?_) fun _ => .pure _
    exact fun note index small same => ⟨index, by omega, same⟩
  | claimNext =>
    exact .bind (asks_claimNext (plain _) (fun _ same => same) fun _ _ => trivial) fun _ => .pure _
  | finalizeEffect => exact .bind (asks_finalizeEffect (plain _) fun _ same => same) fun _ => .pure _

section Unused

variable {store final : Store} {id : Uuid}

/-- A row version other than an activity row of this id leaves the id unused. -/
theorem Image.keeps_unused (image : Image)
    (other : ∀ note, image = .insertActivity note → note.activityId ≠ id)
    (unused : store.activity.find id = none) : (image.apply store).activity.find id = none := by
  cases image with
  | insertActivity note =>
    show (store.activity.insert note).find id = none
    rw [Table.find_insert, unused, if_neg (other note rfl)]
    rfl
  | _ => exact unused

/-- What a statement writes is no activity row but with one of its ids. -/
theorem Sql.images_notes {ids : Uuid → Prop} {sql : Sql} (notes : sql.Notes ids) {result : sql.Answer}
    {note : ActivityRow} (member : Image.insertActivity note ∈ sql.images store result) :
    ids note.activityId := by
  cases sql with
  | insertActivity row =>
    cases List.mem_singleton.mp member
    exact notes
  | insertSaga | insertEffect => cases List.mem_singleton.mp member
  | insertMutation row =>
    simp only [Sql.images] at member
    split at member
    · cases List.mem_singleton.mp member
    · cases member
  | updateSaga | updateEffect | updateMutation => simp [Sql.images] at member
  | updateEffects => simp [Sql.images] at member
  | _ => cases member

/-- **A call leaves the activity ids it does not use unused.** -/
theorem unused_of_commits {event : Event} {reply : Reply}
    (committed : postgres.Commits event.program store reply final)
    (unused : store.activity.find id = none) (other : ¬ event.Notes id) :
    final.activity.find id = none := by
  refine postgres.asks_keeps (fun store => store.activity.find id = none) ?_ event.asks_notes
    committed unused
  intro statement notes store result absent
  refine postgres.install_admitted
    (fun image _ => ∀ note, image = .insertActivity note → note.activityId ≠ id)
    (fun store => store.activity.find id = none) (fun _ _ _ good => good)
    (fun image _ good absent => image.keeps_unused good absent) ?_ absent
  rintro image member note rfl same
  exact other (same ▸ Sql.images_notes notes member)

end Unused

end OrganizationProvisioning
