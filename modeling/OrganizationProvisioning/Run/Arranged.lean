/-
**Every transaction arranges its locks.**

* `Sql.Arranged` — a statement needs only what its transaction holds or draws, and beyond that one key
  after its saga, or its saga first of all.
* `arranged_query`, `arranged_insertEffect`, `arranged_lockFirst` — statements.
* `arranged_start`, `arranged_retry`, `arranged_requestCleanup`, `arranged_quarantineExpired`,
  `arranged_claimNext`, `arranged_finalizeEffect` — the storage functions.
-/
import OrganizationProvisioning.Library.Waiting
import OrganizationProvisioning.Proof.Guarded
import OrganizationProvisioning.Run.Persist
import OrganizationProvisioning.Saga.Intent

namespace OrganizationProvisioning

open Relational Transactional

/-! ### The rule -/

/-- **A statement needs what its transaction holds or draws**; a saga is locked first of all, a key when
at most one saga is locked. -/
def Sql.Arranged (draws locks : Set Lock) : (sql : Sql) → Store → Prop
  | .selectSaga _ _, _ | .scanSagas _, _ | .selectMutation _ _, _ => True
  | .lockSaga id _, _ => .saga id ∈ locks ∨ locks = ∅
  | .updateSaga id _, _ | .selectEffects id _ _, _ | .updateEffects id _ _, _ => .saga id ∈ locks
  | .insertSaga row, _ => .saga row.provisioningId ∈ draws
  | .insertEffect row, store => .saga row.provisioningId ∈ locks ∧ .effect row.effectId ∈ draws ∧
      row.Keyed ∧ ∀ source, row.sourceEffectId = some source → store.Held locks source
  | .lockEffect id _, store | .updateEffect id _ _, store => store.Held locks id
  | .insertMutation row, _ => (∃ id, ∀ lock ∈ locks, lock = .saga id) ∧
      ∀ id, row.provisioningId = some id → .saga id ∈ locks
  | .updateMutation caller key _ change, store => .mutation caller key ∈ locks ∧
      ∀ row id, store.mutation caller key = some row → (row.set change).provisioningId = some id →
        row.provisioningId ≠ some id → .saga id ∈ locks
  | .insertActivity row, store => .saga row.provisioningId ∈ locks ∧ .activity row.activityId ∈ draws ∧
      ∀ id, row.effectId = some id → store.Held locks id

/-- The statements of a program arrange its locks. -/
abbrev Arranges {α : Type} (draws : Set Lock) (program : Transaction α) (locks : Set Lock) (store : Store)
    (post : α → Set Lock → Store → Prop) : Prop :=
  Obeys postgres readCommitted.takes
    (fun locks statement store _ => statement.sql.Arranged draws locks store) program locks store post

/-! ### Statements and control -/

section Rules

variable {α β : Type} {draws locks more : Set Lock} {store middle : Store} {operation : String}
  {id : Uuid} {otherwise : Abort} {post : α → Set Lock → Store → Prop}

/-- An effect that is held stays held. -/
theorem Store.Held.later (held : store.Held locks id) (larger : locks ⊆ more)
    (persist : Persist store middle) : middle.Held more id := by
  obtain ⟨owner, locked, effect, member, rfl⟩ := held
  obtain ⟨found, same⟩ := Store.mem_effectsOf.mp member
  obtain ⟨effect', there, plan⟩ := persist.effects _ effect found
  have name : effect'.effectId = effect.effectId := congrArg (fun plan => plan.effectId) plan
  have kept : effect'.provisioningId = effect.provisioningId :=
    congrArg (fun plan => plan.provisioningId) plan
  refine ⟨owner, larger locked, effect', Store.mem_effectsOf.mpr ⟨?_, kept.trans same⟩, name⟩
  rw [name]
  exact there

theorem Persist.install {images : List Image} : Persist store (postgres.install images store) := by
  induction images generalizing store with
  | nil => exact .refl store
  | cons image images ih => exact (Persist.apply image store).trans ih

theorem Persist.after {statement : Statement} {answer : statement.Answer} :
    Persist store (postgres.after statement store answer) :=
  .install

/-- An effect that is inserted is held. -/
theorem held_insertEffect {row : EffectRow} (accepted : (Sql.insertEffect row).refuses store = false)
    (held : .saga row.provisioningId ∈ locks) : (store.addEffect row).Held locks row.effectId := by
  have fresh : store.effect row.effectId = none := by
    simp only [Sql.refuses, Bool.or_eq_false_iff] at accepted
    exact Option.isNone_iff_eq_none.mp (Option.isSome_eq_false_iff.mp accepted.1.1.1.1.2)
  refine ⟨row.provisioningId, held, row, ?_, rfl⟩
  rw [effectsOf_addEffect fresh, if_pos rfl]
  exact List.mem_append_right _ List.mem_cons_self

theorem arranged_require {condition : Bool} {rest : Unit → Transaction α}
    (goes : condition = true → Arranges draws (rest ()) locks store post) :
    Arranges draws ((require condition otherwise).bind rest) locks store post := by
  unfold require
  split
  · exact goes ‹_›
  · trivial

theorem arranged_expect {found : Option β} {rest : β → Transaction α}
    (goes : ∀ value, found = some value → Arranges draws (rest value) locks store post) :
    Arranges draws ((expect otherwise found).bind rest) locks store post := by
  cases found with
  | none => trivial
  | some value => exact goes value rfl

theorem arranged_expected {found : Option α} (goes : ∀ value, found = some value →
    post value locks store) : Arranges draws (expect otherwise found) locks store post := by
  cases found with
  | none => trivial
  | some value => exact goes value rfl

/-- A statement that fits, and the rest. -/
theorem arranged_query {sql : Sql} {rest : sql.Answer → Transaction α}
    (fits : sql.Arranged draws locks store)
    (goes : ∀ answer more middle, sql.Answers store answer → locks ⊆ more →
      sql.takes store answer ⊆ more → Persist store middle →
      Arranges draws (rest answer) more middle post) :
    Arranges draws ((exec operation sql).bind rest) locks store post :=
  fun _ answer answered => ⟨fits, goes answer _ _ answered Set.subset_union_left Set.subset_union_right
    Persist.after⟩

/-- The last statement. -/
theorem arranged_perform {sql : Sql} {post : sql.Answer → Set Lock → Store → Prop}
    (fits : sql.Arranged draws locks store)
    (goes : ∀ answer more middle, sql.Answers store answer → locks ⊆ more → Persist store middle →
      post answer more middle) :
    Arranges draws (exec operation sql) locks store post :=
  fun _ answer answered => ⟨fits, goes answer _ _ answered Set.subset_union_left Persist.after⟩

/-- An effect is inserted, and held from then on. -/
theorem arranged_insertEffect {row : EffectRow} {rest : Unit → Transaction α}
    (fits : (Sql.insertEffect row).Arranged draws locks store)
    (goes : ∀ more middle, locks ⊆ more → Persist store middle → middle.Held more row.effectId →
      Arranges draws (rest ()) more middle post) :
    Arranges draws ((exec operation (.insertEffect row)).bind rest) locks store post :=
  fun accepted _ _ => ⟨fits, goes _ _ Set.subset_union_left Persist.after
    (held_insertEffect (Bool.eq_false_of_not_eq_true accepted) (Or.inl fits.1))⟩

/-- **The saga a transaction locks first** is all it holds. -/
theorem arranged_lockFirst {condition : SagaRow → Bool} {rest : SagaRow → Transaction α}
    (goes : ∀ row more, (∀ lock ∈ more, lock = .saga id) → .saga id ∈ more →
      Arranges draws (rest row) more store post) :
    Arranges draws ((exec operation (.lockSaga id condition)).bind fun locked =>
      (expect otherwise locked).bind rest) ∅ store post := by
  intro _ locked answered
  have found : locked = (store.saga id).filter condition := answered
  refine ⟨Or.inr rfl, ?_⟩
  cases locked with
  | none => trivial
  | some row =>
    obtain ⟨-, owner⟩ := Store.saga_found.mp (Option.filter_eq_some_iff.mp found.symm).1
    refine goes row _ ?_ (Or.inr (Or.inl ?_))
    · rintro lock (impossible | chosen | ⟨image, member, -⟩)
      · exact impossible.elim
      · rw [← owner]
        exact chosen
      · cases member
    · rw [← owner]
      exact rfl

/-- The effects of a locked saga. -/
theorem arranged_selectEffects {condition : EffectRow → Bool} {order : EffectRow → EffectRow → Bool}
    {rest : List EffectRow → Transaction α} (held : .saga id ∈ locks)
    (goes : ∀ rows more middle, locks ⊆ more → Persist store middle →
      (∀ effect ∈ rows, effect.provisioningId = id ∧ middle.Held more effect.effectId) →
      Arranges draws (rest rows) more middle post) :
    Arranges draws ((exec operation (.selectEffects id condition order)).bind rest) locks store
      post := by
  refine arranged_query held fun rows more middle answered larger _ persist => ?_
  have found : rows = orderBy order ((store.effectsOf id).filter condition) := answered
  refine goes rows more middle larger persist fun effect member => ?_
  rw [found, mem_orderBy] at member
  have stored := (List.mem_filter.mp member).1
  have own : store.Held locks effect.effectId := ⟨id, held, effect, stored, rfl⟩
  exact ⟨(Store.mem_effectsOf.mp stored).2, own.later larger persist⟩

/-- What a program arranges, with the locks and the rows it leaves. -/
theorem Arranges.later {program : Transaction α} (arranges : Arranges draws program locks store post) :
    Arranges draws program locks store fun value more final =>
      post value more final ∧ locks ⊆ more ∧ Persist store final :=
  Obeys.keeps (fun ⟨inside, persist⟩ larger => ⟨inside.trans larger, persist.trans Persist.after⟩)
    arranges ⟨Set.Subset.rfl, .refl store⟩

/-- A sequence. -/
theorem Arranges.andThen {program : Transaction α} {rest : α → Transaction β}
    {last : β → Set Lock → Store → Prop} (arranges : Arranges draws program locks store post)
    (goes : ∀ value more middle, locks ⊆ more → Persist store middle → post value more middle →
      Arranges draws (rest value) more middle last) :
    Arranges draws (program.bind rest) locks store last :=
  Obeys.andThen arranges.later fun value more middle _ ⟨ends, larger, persist⟩ =>
    goes value more middle larger persist ends

end Rules

/-! ### Shared pieces -/

section Shared

variable {draws locks : Set Lock} {store : Store} {now : Timestamp} {id : Uuid}
  {caller key actor : String}

/-- A row of activity is new, of a locked saga and an effect that is held. -/
theorem arranged_insertActivity {activityId : Uuid} {effectId : Option Uuid} {kind : ActivityKind}
    {revision : Int} {evidence : Json} (held : .saga id ∈ locks) (drawn : .activity activityId ∈ draws)
    (own : ∀ effect, effectId = some effect → store.Held locks effect) :
    Arranges draws (insertActivity now activityId id effectId kind actor revision evidence) locks store
      fun _ _ _ => True :=
  arranged_perform ⟨held, drawn, own⟩ fun _ _ _ _ _ _ => trivial

theorem arranged_resetEffectToPending {effectId : Uuid} (held : store.Held locks effectId) :
    Arranges draws (resetEffectToPending now effectId) locks store fun _ _ _ => True :=
  arranged_query held fun _ _ _ _ _ _ _ => trivial

/-- A status refresh locks its saga again. -/
theorem arranged_refreshSagaStatus {bump : Bool} (held : .saga id ∈ locks) :
    Arranges draws (refreshSagaStatus now id bump) locks store fun _ _ _ => True := by
  refine arranged_query (Or.inl held) fun saga more _ _ larger _ _ => ?_
  refine arranged_expect fun saga _ => ?_
  replace held := larger held
  refine arranged_query held fun rows more' _ _ larger _ _ => ?_
  refine arranged_query (larger held) fun updated _ _ _ _ _ _ => ?_
  exact arranged_expect fun row _ => trivial

/-- A view is read under the lock of its saga. -/
theorem arranged_loadView (held : .saga id ∈ locks) :
    Arranges draws (loadView id actor) locks store fun _ _ _ => True := by
  refine arranged_query trivial fun found more _ _ larger _ _ => ?_
  cases found with
  | none => trivial
  | some row =>
    refine arranged_query (larger held) fun rows _ _ _ _ _ _ => ?_
    exact arranged_expect fun _ _ => trivial

/-- A key is locked after at most one saga. -/
theorem arranged_beginMutation {operation : Operation} {requestHash : List UInt8}
    {provisioningId : Option Uuid} (one : ∃ id, ∀ lock ∈ locks, lock = .saga id)
    (held : ∀ id, provisioningId = some id → .saga id ∈ locks) :
    Arranges draws (beginMutation now caller key operation actor requestHash provisioningId) locks
      store fun replay more _ => replay = .execute → .mutation caller key ∈ more := by
  refine arranged_query ⟨one, held⟩ fun inserted more _ _ _ taken _ => ?_
  cases inserted with
  | true => exact fun _ => taken (Or.inr ⟨_, List.mem_cons_self, rfl⟩)
  | false =>
    refine arranged_query trivial fun found _ _ _ _ _ _ => ?_
    refine arranged_expect fun row _ => ?_
    refine arranged_require fun _ => arranged_require fun _ => ?_
    refine arranged_expect fun response _ => arranged_expect fun view _ => ?_
    exact fun impossible => by cases impossible

/-- A key is completed under its lock, and keeps its saga. -/
theorem arranged_completeMutation {response : ProvisioningView} (reserved : .mutation caller key ∈ locks) :
    Arranges draws (completeMutation caller key response) locks store fun _ _ _ => True := by
  refine arranged_query ⟨reserved, fun row id _ changed other => absurd changed other⟩
    fun affected _ _ _ _ _ _ => ?_
  unfold require
  split
  · trivial
  · trivial

/-- **The end of a public operation.** -/
theorem arranged_answer {otherwise : Abort} (held : .saga id ∈ locks)
    (reserved : .mutation caller key ∈ locks) :
    Arranges draws ((loadView id actor).bind fun loaded => (expect otherwise loaded).bind
      fun response => (completeMutation caller key response).bind fun _ => .pure response) locks store
        fun _ _ _ => True := by
  refine .andThen (arranged_loadView held) fun loaded more middle larger _ _ => ?_
  refine arranged_expect fun response _ => ?_
  exact .andThen (arranged_completeMutation (larger reserved)) fun _ _ _ _ _ _ => trivial

end Shared

/-! ### Public operations -/

section Public

variable {draws locks : Set Lock} {store : Store} {now : Timestamp} {id : Uuid}

/-- The grants are inserted under the lock of their saga, each as drawn. -/
theorem arranged_insertGrants {effectId : Nat → Uuid} {ordinal : Nat} {grants : List BootstrapGrant}
    (held : .saga id ∈ locks) (drawn : ∀ ordinal, .effect (effectId ordinal) ∈ draws) :
    Arranges draws (insertGrants now id effectId ordinal grants) locks store fun _ _ _ => True := by
  induction grants generalizing ordinal locks store with
  | nil => trivial
  | cons grant grants ih =>
    refine arranged_require fun _ => ?_
    have fits : (Sql.insertEffect (grantEffect now (effectId ordinal) id ordinal grant)).Arranged draws
        locks store := ⟨held, drawn ordinal, rfl, fun _ impossible => by cases impossible⟩
    exact arranged_insertEffect fits fun _ _ larger _ _ => ih (larger held)

/-- **`start` arranges its locks**: its key, and what it draws. -/
theorem arranged_start {ids : StartIds} {input : StartInput} :
    Arranges (Event.start now ids input).draws (start now ids input) ∅ store fun _ _ _ => True := by
  refine .andThen (arranged_beginMutation ⟨input.provisioningId, fun _ impossible => impossible.elim⟩
    fun _ impossible => by cases impossible) fun replay more middle _ _ reserved => ?_
  cases replay with
  | replay response => trivial
  | execute =>
    replace reserved := reserved rfl
    refine arranged_query (Or.inl (Or.inl rfl)) fun _ more' middle' _ larger taken _ => ?_
    have held : .saga input.provisioningId ∈ more' := taken (Or.inr ⟨_, List.mem_cons_self, rfl⟩)
    replace reserved := larger reserved
    have attach : (Sql.updateMutation input.caller input.idempotencyKey (fun _ => true)
        fun old => { old with provisioningId := some input.provisioningId }).Arranged
        (Event.start now ids input).draws more' middle' :=
      ⟨reserved, fun row id _ same _ => Option.some.inj same ▸ held⟩
    refine arranged_query attach fun _ more'' _ _ larger _ _ => ?_
    replace held := larger held
    replace reserved := larger reserved
    refine arranged_insertEffect ⟨held, Or.inl (Or.inr (Or.inl rfl)), rfl,
      fun _ impossible => by cases impossible⟩ fun more₁ _ larger _ _ => ?_
    replace held := larger held
    replace reserved := larger reserved
    refine .andThen (arranged_insertGrants held fun ordinal => Or.inr ⟨ordinal, rfl⟩)
      fun _ more₂ _ larger _ _ => ?_
    replace held := larger held
    replace reserved := larger reserved
    refine .andThen (arranged_insertActivity held (Or.inl (Or.inr (Or.inr rfl)))
      fun _ impossible => by cases impossible) fun _ more₃ _ larger _ _ => ?_
    exact arranged_answer (larger held) (larger reserved)

/-- The effect a retry resolves is held. -/
theorem arranged_retriedEffect {input : RetryInput} {saga : SagaRow}
    (held : .saga input.provisioningId ∈ locks) :
    Arranges draws (retriedEffect input saga) locks store fun effect more last =>
      last.Held more effect.effectId := by
  have first : ∀ {rows : List EffectRow} {more : Set Lock} {last : Store} {failure : Abort},
      (∀ effect ∈ rows, effect.provisioningId = input.provisioningId ∧
        last.Held more effect.effectId) →
      Arranges draws (expect failure rows.head?) more last fun effect more last =>
        last.Held more effect.effectId := fun inside =>
    arranged_expected fun effect head =>
      (inside effect (List.mem_of_mem_head? (Option.mem_def.mpr head))).2
  unfold retriedEffect
  split
  · exact arranged_selectEffects held fun rows _ _ _ _ inside => first inside
  · split
    · refine arranged_require fun _ => ?_
      exact arranged_selectEffects held fun rows _ _ _ _ inside => first inside
    · trivial

/-- Its resolution writes it and its saga. -/
theorem arranged_resolveEffect {input : RetryInput} {saga : SagaRow} {effect : EffectRow}
    (held : .saga input.provisioningId ∈ locks) (own : store.Held locks effect.effectId) :
    Arranges draws (resolveEffect now input saga effect) locks store fun _ _ _ => True := by
  unfold resolveEffect
  split
  · exact arranged_require fun _ => arranged_resetEffectToPending own
  · exact arranged_require fun _ => arranged_resetEffectToPending own
  · unfold confirmApplied
    split
    · split
      · refine arranged_query own fun _ more _ _ larger _ _ => ?_
        exact arranged_query (larger held) fun _ _ _ _ _ _ _ => trivial
      · trivial
    · split
      · exact arranged_query own fun _ _ _ _ _ _ _ => trivial
      · trivial
    · refine arranged_require fun _ => ?_
      exact arranged_query own fun _ _ _ _ _ _ _ => trivial

/-- **`retry` arranges its locks**: its saga, its key, and an effect of the saga. -/
theorem arranged_retry {activityId : Uuid} {input : RetryInput} :
    Arranges (Event.retry now activityId input).draws (retry now activityId input) ∅ store
      fun _ _ _ => True := by
  refine arranged_lockFirst fun saga more only held => ?_
  refine .andThen (arranged_beginMutation ⟨_, only⟩
    fun id same => Option.some.inj same ▸ held) fun replay more' _ larger _ reserved => ?_
  replace held := larger held
  cases replay with
  | replay response => trivial
  | execute =>
    replace reserved := reserved rfl
    refine arranged_require fun _ => ?_
    refine .andThen (arranged_retriedEffect held) fun effect more'' _ larger _ own => ?_
    replace held := larger held
    replace reserved := larger reserved
    refine .andThen (arranged_resolveEffect held own) fun _ more₁ _ larger persist _ => ?_
    replace held := larger held
    replace reserved := larger reserved
    replace own := own.later larger persist
    refine .andThen (arranged_refreshSagaStatus held) fun revision more₂ _ larger persist _ => ?_
    replace held := larger held
    replace reserved := larger reserved
    replace own := own.later larger persist
    refine .andThen (arranged_insertActivity held rfl fun id same => Option.some.inj same ▸ own)
      fun _ more₃ _ larger _ _ => ?_
    exact arranged_answer (larger held) (larger reserved)

/-- The compensations are inserted under the lock of their saga, each as drawn. -/
theorem arranged_insertRevokes {effectId : Nat → Uuid} {index : Nat} {sources : List EffectRow}
    (held : .saga id ∈ locks) (drawn : ∀ index, .effect (effectId index) ∈ draws)
    (owners : ∀ source ∈ sources, source.provisioningId = id ∧ store.Held locks source.effectId) :
    Arranges draws (insertRevokes now effectId index sources) locks store fun _ _ _ => True := by
  induction sources generalizing index locks store with
  | nil => trivial
  | cons source sources ih =>
    obtain ⟨owner, own⟩ := owners source List.mem_cons_self
    refine arranged_expect fun subjectKind _ => arranged_expect fun feature _ => ?_
    refine arranged_expect fun grantId _ => ?_
    have fits : (Sql.insertEffect (revokeEffect now (effectId index) source subjectKind feature
        grantId)).Arranged draws locks store := by
      refine ⟨?_, drawn index, rfl, fun id same => Option.some.inj same ▸ own⟩
      show .saga source.provisioningId ∈ locks
      rw [owner]
      exact held
    refine arranged_insertEffect fits fun more middle larger persist _ => ?_
    refine ih (larger held) fun other member => ?_
    obtain ⟨same, inside⟩ := owners other (List.mem_cons_of_mem _ member)
    exact ⟨same, inside.later larger persist⟩

/-- **`request_cleanup` arranges its locks**: its saga, its key, the effects of the saga, and what it
draws. -/
theorem arranged_requestCleanup {effectId : Nat → Uuid} {activityId : Uuid} {input : CleanupInput} :
    Arranges (Event.requestCleanup now effectId activityId input).draws
      (requestCleanup now effectId activityId input) ∅ store fun _ _ _ => True := by
  refine arranged_lockFirst fun saga more only held => ?_
  refine .andThen (arranged_beginMutation ⟨_, only⟩
    fun id same => Option.some.inj same ▸ held) fun replay more' _ larger _ reserved => ?_
  replace held := larger held
  cases replay with
  | replay response => trivial
  | execute =>
    replace reserved := reserved rfl
    refine arranged_require fun _ => arranged_require fun _ => ?_
    refine arranged_require fun _ => arranged_require fun _ => ?_
    refine arranged_selectEffects held fun grants more'' _ larger _ inside => ?_
    replace held := larger held
    replace reserved := larger reserved
    refine arranged_query held fun _ more₁ _ _ larger _ persist => ?_
    replace held := larger held
    replace reserved := larger reserved
    have sources := fun source member => And.imp_right (fun own => own.later larger persist)
      (inside source member)
    refine .andThen (arranged_insertRevokes held (fun index => Or.inr ⟨index, rfl⟩) sources)
      fun _ more₂ _ larger _ _ => ?_
    replace held := larger held
    replace reserved := larger reserved
    refine arranged_query held fun _ more₃ _ _ larger _ _ => ?_
    replace held := larger held
    replace reserved := larger reserved
    refine .andThen (arranged_refreshSagaStatus held) fun revision more₄ _ larger _ _ => ?_
    replace held := larger held
    replace reserved := larger reserved
    refine .andThen (arranged_insertActivity held (Or.inl rfl) fun _ impossible => by cases impossible)
      fun _ more₅ _ larger _ _ => ?_
    exact arranged_answer (larger held) (larger reserved)

end Public

/-! ### The worker -/

section Worker

variable {draws locks : Set Lock} {store : Store} {now utcNow : Timestamp} {actor : String}

/-- A saga the scan finds is locked. -/
theorem arranged_scan {α : Type} {operation : String} {condition : SagaRow → List EffectRow → Bool}
    {rest : Option SagaRow → Transaction α} {post : α → Set Lock → Store → Prop}
    (goes : ∀ found more middle, (∀ row, found = some row → .saga row.provisioningId ∈ more) →
      Arranges draws (rest found) more middle post) :
    Arranges draws ((exec operation (.scanSagas condition)).bind rest) locks store post := by
  refine arranged_query trivial fun found more middle _ _ taken _ => goes found more middle ?_
  rintro row rfl
  exact taken (Or.inl rfl)

/-- One turn of the loop. -/
theorem arranged_quarantineSaga {activityId : Uuid} {saga : SagaRow}
    (held : .saga saga.provisioningId ∈ locks) (drawn : .activity activityId ∈ draws) :
    Arranges draws (quarantineSaga now actor activityId saga) locks store fun _ _ _ => True := by
  refine arranged_selectEffects held fun rows more _ larger _ inside => ?_
  replace held := larger held
  refine arranged_expect fun effect first => arranged_expect fun fence _ => ?_
  have own := (inside effect (List.mem_of_mem_head? (Option.mem_def.mpr first))).2
  refine arranged_query own fun _ more' _ _ larger _ persist => ?_
  replace held := larger held
  replace own := own.later larger persist
  refine arranged_query held fun updated more'' _ _ larger _ persist => ?_
  replace own := own.later larger persist
  refine arranged_expect fun row _ => ?_
  exact arranged_insertActivity (larger held) drawn fun id same => Option.some.inj same ▸ own

/-- **`quarantine_expired` arranges its locks**: sagas nobody holds, and their effects. -/
theorem arranged_quarantineExpired {activityId : Nat → Uuid} {limit : Int} :
    Arranges (Event.quarantineExpired now actor activityId limit).draws
      (quarantineExpired now actor activityId limit) locks store fun _ _ _ => True := by
  have drawn : ∀ index, .activity (activityId index) ∈
      (Event.quarantineExpired now actor activityId limit).draws := fun index => ⟨index, rfl⟩
  unfold quarantineExpired
  generalize limit.toNat = fuel
  generalize 0 = quarantined
  induction fuel generalizing quarantined locks store with
  | zero => trivial
  | succ fuel ih =>
    refine arranged_scan fun found more middle held => ?_
    cases found with
    | none => trivial
    | some saga =>
      exact .andThen (arranged_quarantineSaga (held saga rfl) (drawn quarantined))
        fun _ _ _ _ _ _ => ih _

/-- The effect to claim is held. -/
theorem arranged_dueEffect {saga : SagaRow} (held : .saga saga.provisioningId ∈ locks) :
    Arranges draws (dueEffect saga) locks store fun effect more last =>
      last.Held more effect.effectId := by
  unfold dueEffect
  split
  · refine arranged_selectEffects held fun rows _ _ _ _ inside => ?_
    exact arranged_expected fun effect first =>
      (inside effect (List.mem_of_mem_head? (Option.mem_def.mpr first))).2
  · refine arranged_selectEffects held fun rows _ _ _ _ inside => ?_
    exact arranged_expected fun effect first =>
      (inside effect (List.mem_of_mem_head? (Option.mem_def.mpr first))).2

/-- The rest of a claim, on the saga the scan found. -/
theorem arranged_claimSaga {fence activityId : Uuid} {leaseSeconds : Int} {saga : SagaRow}
    (held : .saga saga.provisioningId ∈ locks) (drawn : .activity activityId ∈ draws) :
    Arranges draws (claimSaga now utcNow actor fence activityId leaseSeconds saga) locks store
      fun _ _ _ => True := by
  refine .andThen (arranged_dueEffect held) fun effect more _ larger _ own => ?_
  replace held := larger held
  refine arranged_expect fun leaseUntil _ => ?_
  refine arranged_query own fun leased more' _ _ larger _ persist => ?_
  replace held := larger held
  replace own := own.later larger persist
  refine arranged_expect fun leased _ => ?_
  refine arranged_query held fun updated more'' _ _ larger _ persist => ?_
  replace held := larger held
  replace own := own.later larger persist
  refine arranged_expect fun updated _ => ?_
  refine .andThen (arranged_insertActivity held drawn fun id same => Option.some.inj same ▸ own)
    fun _ _ _ _ _ _ => ?_
  refine arranged_query trivial fun inputs _ _ _ _ _ _ => ?_
  exact arranged_expect fun _ _ => trivial

/-- **`claim_next` arranges its locks**: a saga nobody holds, and an effect of it. -/
theorem arranged_claimNext {fence activityId : Uuid} {leaseSeconds : Int} :
    Arranges (Event.claimNext now utcNow actor fence activityId leaseSeconds).draws
      (claimNext now utcNow actor fence activityId leaseSeconds) locks store fun _ _ _ => True := by
  refine arranged_scan fun found more _ held => ?_
  cases found with
  | none => trivial
  | some saga => exact .andThen (arranged_claimSaga (held saga rfl) rfl) fun _ _ _ _ _ _ => trivial

/-- What an outcome writes is under the lock of the effect's saga. -/
theorem arranged_recordOutcome {effect : EffectRecord} {outcome : EffectOutcome}
    (held : .saga effect.provisioningId ∈ locks) (own : store.Held locks effect.effectId) :
    Arranges draws (recordOutcome now effect outcome) locks store fun _ _ _ => True := by
  cases outcome with
  | organizationApplied organizationId ownerMembershipId receipt =>
    refine arranged_require fun _ => arranged_query own fun _ more _ _ larger _ _ => ?_
    exact arranged_query (larger held) fun _ _ _ _ _ _ _ => trivial
  | entitlementApplied | compensated =>
    exact arranged_require fun _ => arranged_query own fun _ _ _ _ _ _ _ => trivial
  | failed | unknown => exact arranged_query own fun _ _ _ _ _ _ _ => trivial

/-- **`finalize_effect` arranges its locks**, for an effect its saga has. -/
theorem arranged_finalizeEffect {activityId : Uuid} {effect : EffectRecord} {outcome : EffectOutcome}
    (known : ∃ row ∈ store.effectsOf effect.provisioningId, row.effectId = effect.effectId) :
    Arranges (Event.finalizeEffect now activityId effect actor outcome).draws
      (finalizeEffect now activityId effect actor outcome) ∅ store fun _ _ _ => True := by
  refine arranged_lockFirst fun saga more _ held => ?_
  have own : store.Held more effect.effectId := ⟨_, held, known⟩
  refine arranged_query own fun current more' _ _ larger _ persist => ?_
  replace held := larger held
  replace own := own.later larger persist
  cases current with
  | none => trivial
  | some row =>
    refine .andThen (arranged_recordOutcome held own) fun recorded more'' _ larger persist _ => ?_
    replace held := larger held
    replace own := own.later larger persist
    refine .andThen (arranged_refreshSagaStatus held) fun revision more₁ _ larger persist _ => ?_
    replace own := own.later larger persist
    exact .andThen (arranged_insertActivity (larger held) rfl
      fun id same => Option.some.inj same ▸ own) fun _ _ _ _ _ _ => trivial

end Worker

end OrganizationProvisioning
