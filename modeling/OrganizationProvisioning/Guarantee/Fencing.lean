/-
**A fence admits one result.**

* `finalizeEffect_superseded`, `finalizeEffect_aborts` — a finalization whose effect is not in flight
  under its fence commits and changes nothing; under its fence only a constraint can refuse it.
* `Run.ends`, `Run.grants` — what closes a claim, and what opens one.
* `Run.closes` — under fresh fences an effect that has left a fence never returns to it.
* `fencing` — a claim is closed once, by one accepted finalization or by one quarantine.
-/
import OrganizationProvisioning.Guarantee.NoReplay
import OrganizationProvisioning.Proof.Progress

namespace OrganizationProvisioning

open Relational Transactional Worklist

/-- The effect is in flight under the fence. -/
def Store.holds (store : Store) (effectId fence : Uuid) : Bool :=
  (store.effect effectId).any (fenced fence)

theorem holds_iff {store : Store} {effectId fence : Uuid} :
    store.holds effectId fence = true ↔ ∃ effect, store.effect effectId = some effect ∧
      effect.state = .inFlight ∧ effect.leaseToken = some fence := by
  unfold Store.holds fenced
  rw [Option.any_eq_true]
  simp

theorem not_holds {store : Store} {effectId fence : Uuid} :
    (store.effect effectId).filter (fenced fence) = none ↔ store.holds effectId fence = false := by
  unfold Store.holds
  cases store.effect effectId with
  | none => simp
  | some effect => simp [Option.filter]

/-! ### One call -/

section Call

variable {store : Store} {now : Timestamp} {activityId : Uuid} {record : EffectRecord}
  {actor : String} {outcome : EffectOutcome}

/-- **Without its fence a finalization commits as superseded**, and does nothing else. -/
theorem finalizeEffect_superseded (known : (store.saga record.provisioningId).isSome)
    (stale : store.holds record.effectId record.leaseToken = false) :
    (∀ result final, postgres.Commits (finalizeEffect now activityId record actor outcome) store
      result final ↔ result = .superseded ∧ final = store) ∧
    ∀ error, ¬ postgres.Aborts (finalizeEffect now activityId record actor outcome) store error := by
  obtain ⟨row, found⟩ := Option.isSome_iff_exists.mp known
  have absent := not_holds.mpr stale
  constructor
  · intro result final
    unfold finalizeEffect
    simp only [Tx.bind_eq, Tx.pure_eq, Engine.commits_bind, commits_lockSaga, commits_fetchOne,
      commits_lockEffect, Option.filter_all]
    constructor
    · rintro ⟨_, _, ⟨rfl, rfl⟩, _, _, ⟨_, rfl⟩, _, _, ⟨rfl, rfl⟩, rest⟩
      rw [absent] at rest
      exact rest
    · rintro ⟨rfl, rfl⟩
      refine ⟨_, _, ⟨rfl, rfl⟩, row, _, ⟨found, rfl⟩, _, _, ⟨rfl, rfl⟩, ?_⟩
      rw [absent]
      exact ⟨rfl, rfl⟩
  · intro error failed
    unfold finalizeEffect at failed
    simp only [Tx.bind_eq, Tx.pure_eq] at failed
    rcases postgres.aborts_bind.mp failed with refused | ⟨_, _, locked, unknown⟩
    · cases (aborts_exec.mp refused).1
    · obtain ⟨rfl, rfl⟩ := commits_lockSaga.mp locked
      rw [Option.filter_all, found] at unknown
      rcases postgres.aborts_bind.mp unknown with missing | ⟨_, _, present, fencing⟩
      · cases (aborts_fetchOne.mp missing).1
      · obtain ⟨-, rfl⟩ := commits_fetchOne.mp present
        rcases postgres.aborts_bind.mp fencing with refused | ⟨_, _, current, ended⟩
        · cases (aborts_exec.mp refused).1
        · obtain ⟨rfl, rfl⟩ := commits_lockEffect.mp current
          rw [absent] at ended
          exact ended

/-- The errors of a statement a constraint refuses. -/
def Abort.isDatabase (error : Abort) : Prop := ∃ operation, error = .storage (.database operation)

theorem leaves_exec (operation : String) (sql : Sql) :
    Engine.Leaves Abort.isDatabase (exec operation sql) := Engine.Leaves.perform _

theorem leaves_fetchOne {α : Type} (operation : String) (found : Option α) :
    Engine.Leaves Abort.isDatabase (fetchOne operation found) := by
  cases found with
  | none => exact .abort ⟨operation, rfl⟩
  | some value => exact .pure value

theorem leaves_refreshSagaStatus (now : Timestamp) (id : Uuid) (bump : Bool) :
    Engine.Leaves Abort.isDatabase (refreshSagaStatus now id bump) :=
  (leaves_exec _ _).bind fun _ => (leaves_fetchOne _ _).bind fun _ => (leaves_exec _ _).bind fun _ =>
    (leaves_exec _ _).bind fun _ => (leaves_fetchOne _ _).bind fun _ => .pure _

/-- Recording an outcome of the kind of its effect has no error of its own. -/
theorem leaves_recordOutcome (fits : outcome.fits record.kind = true) :
    Engine.Leaves Abort.isDatabase (recordOutcome now record outcome) := by
  cases outcome with
  | organizationApplied organizationId ownerMembershipId receipt =>
    have kind : decide (record.kind = .createOrganization) = true := fits
    simp only [recordOutcome, require, kind, if_true]
    exact (leaves_exec _ _).bind fun _ => (leaves_exec _ _).bind fun _ => .pure _
  | entitlementApplied grantId receipt =>
    have kind : decide (record.kind = .putEntitlement) = true := fits
    simp only [recordOutcome, require, kind, if_true]
    exact (leaves_exec _ _).bind fun _ => .pure _
  | compensated receipt =>
    have kind : decide (record.kind = .revokeEntitlement) = true := fits
    simp only [recordOutcome, require, kind, if_true]
    exact (leaves_exec _ _).bind fun _ => .pure _
  | failed errorCode => exact (leaves_exec _ _).bind fun _ => .pure _
  | unknown errorCode => exact (leaves_exec _ _).bind fun _ => .pure _

/-- **A finalization rolls back only when a constraint refuses a row.** -/
theorem finalizeEffect_aborts (fits : outcome.fits record.kind = true) {error : Abort}
    (failed : postgres.Aborts (finalizeEffect now activityId record actor outcome) store error) :
    error.isDatabase := by
  have leaves : Engine.Leaves Abort.isDatabase
      (finalizeEffect now activityId record actor outcome) := by
    refine (leaves_exec _ _).bind fun _ => (leaves_fetchOne _ _).bind fun _ =>
      (leaves_exec _ _).bind fun current => ?_
    cases current with
    | none => exact .pure _
    | some effect =>
      exact (leaves_recordOutcome fits).bind fun _ => (leaves_refreshSagaStatus _ _ _).bind
        fun _ => (leaves_exec _ _).bind fun _ => .pure _
  rcases postgres.aborts_leaves leaves failed with database | ⟨statement, same⟩
  · exact database
  · exact ⟨statement.operation, same⟩

end Call

/-! ### What ends a claim -/

/-- The fence a committed call gave out. -/
def fenceOf (entry : Committed) : Option Uuid :=
  match entry.reply with
  | .claimed (some record) => some record.leaseToken
  | _ => none

/-- The fences of a history. -/
def fences (history : List Committed) : List Uuid := history.filterMap fenceOf

/-- A finalization under the fence was accepted. -/
def accepts (effectId fence : Uuid) (entry : Committed) : Bool :=
  match entry.event, entry.reply with
  | .finalizeEffect _ _ record _ _, .finalized result =>
    record.effectId = effectId ∧ record.leaseToken = fence ∧ result ≠ .superseded
  | _, _ => false

/-- A quarantine took the effect from the fence. -/
def expires (effectId fence : Uuid) (entry : Committed) : Bool :=
  match entry.event with
  | .quarantineExpired _ _ _ _ =>
    entry.before.holds effectId fence && !entry.after.holds effectId fence
  | _ => false

section Ends

variable {entry : Committed} {effectId fence : Uuid}

/-- The result of an outcome is never that of a stale fence. -/
theorem EffectOutcome.result_ne (outcome : EffectOutcome) : outcome.result ≠ .superseded := by
  cases outcome <;> exact fun same => by cases same

/-- A finalization that returned the result of its outcome is accepted. -/
theorem accepts_of_answered {now : Timestamp} {activityId : Uuid} {record : EffectRecord}
    {actor : String} {outcome : EffectOutcome}
    (called : entry.event = .finalizeEffect now activityId record actor outcome)
    (answered : entry.reply = .finalized outcome.result) (same : record.effectId = effectId)
    (token : record.leaseToken = fence) : accepts effectId fence entry = true := by
  unfold accepts
  rw [called, answered]
  exact decide_eq_true ⟨same, token, outcome.result_ne⟩

theorem accepts_of_event (other : ∀ now activityId record actor outcome,
    entry.event ≠ .finalizeEffect now activityId record actor outcome) :
    accepts effectId fence entry = false := by
  unfold accepts
  split
  · rename_i called _
    exact absurd called (other _ _ _ _ _)
  · rfl

theorem expires_of_event (other : ∀ now actor activityId limit,
    entry.event ≠ .quarantineExpired now actor activityId limit) :
    expires effectId fence entry = false := by
  unfold expires
  split
  · rename_i called
    exact absurd called (other _ _ _ _)
  · rfl

theorem not_holds_of_state {store : Store} {effect : EffectRow}
    (found : store.effect effectId = some effect) (landed : effect.state ≠ .inFlight) :
    store.holds effectId fence = false := by
  rw [← Bool.not_eq_true, holds_iff]
  rintro ⟨other, there, flying, -⟩
  rw [found] at there
  cases there
  exact landed flying

/-- A written outcome is in flight no more. -/
theorem EffectOutcome.landed {now : Timestamp} {old : EffectProgress} (outcome : EffectOutcome) :
    (outcome.write now old).state ≠ .inFlight := by
  cases outcome <;> exact fun same => by cases same

/-- An accepted finalization found its effect in flight under the fence, and ended that. -/
theorem Did.accepted (did : Did entry) (accepted : accepts effectId fence entry = true) :
    entry.before.holds effectId fence = true ∧ entry.after.holds effectId fence = false := by
  unfold accepts at accepted
  split at accepted
  · rename_i now activityId record actor outcome result called answered
    simp only [Bool.decide_and, Bool.and_eq_true, decide_eq_true_eq] at accepted
    obtain ⟨rfl, rfl, proper⟩ := accepted
    cases did with
    | @finalized now' activityId' record' actor' outcome' effect saga saga' called' answered' held
        moves member _ =>
      rw [called] at called'
      cases called'
      obtain ⟨found, fencing⟩ := Option.filter_eq_some_iff.mp held
      refine ⟨by unfold Store.holds; rw [found]; exact fencing, ?_⟩
      have shows := moves.shows
      cases moves.step with
      | turn split turns records =>
        obtain ⟨same, -, -, -, rfl, -⟩ := turns.of_finalize
        have present := effect_focus split shows
        rw [same] at present
        exact not_holds_of_state present outcome.landed
    | superseded _ answered' _ _ =>
      rw [answered] at answered'
      cases answered'
      exact absurd rfl proper
    | replayed asked _ _ =>
      rw [called] at asked
      cases asked
    | began called' | retried called' | cleaned called' | quarantined called' | idle called'
    | claimed called' =>
      rw [called] at called'
      cases called'
  · cases accepted

end Ends

/-- **A claim ends by an accepted finalization or by a quarantine, not by both.** -/
theorem Run.ends {past rest : List Committed} {store : Store} {entry : Committed}
    {effectId fence : Uuid} (run : Run (past ++ entry :: rest) store)
    (held : entry.before.holds effectId fence = true)
    (ended : entry.after.holds effectId fence = false) :
    (accepts effectId fence entry = true ∧ expires effectId fence entry = false) ∨
      (accepts effectId fence entry = false ∧ expires effectId fence entry = true) := by
  obtain ⟨effect, found, flying, token⟩ := holds_iff.mp held
  cases run.effectFate effectId with
  | still same =>
    unfold Store.holds at held ended
    rw [same, held] at ended
    cases ended
  | inserted absent _ _ _ =>
    rw [found] at absent
    cases absent
  | written there writes present shown coherent step shows cause =>
    rw [found] at there
    cases there
    have named : effect.effectId = effectId := (Store.effect_found.mp found).2
    cases writes with
    | skip grant unfinished =>
      rw [flying] at unfinished
      rcases unfinished with impossible | impossible <;> cases impossible
    | turn turns =>
      cases cause with
      | claim called answered member =>
        have due := turns.of_claim.2.1
        rw [flying] at due
        cases due
      | @finalize activityId record actor outcome turned called answered owner before member =>
        obtain ⟨same, -, token', -, rfl, -⟩ := turns.of_finalize
        refine Or.inl ⟨?_, expires_of_event ?_⟩
        · rw [token] at token'
          exact accepts_of_answered called answered (same.symm.trans named)
            (Option.some.inj token').symm
        · intro _ _ _ _ other
          rw [called] at other
          cases other
      | quarantine called answered member =>
        refine Or.inr ⟨accepts_of_event ?_, ?_⟩
        · intro _ _ _ _ _ other
          rw [called] at other
          cases other
        · unfold expires
          rw [called, held, ended]
          rfl
      | retry called answered names member owner current resolvable rendered reserves =>
        obtain ⟨-, ⟨-, state, -⟩ | ⟨-, state, -⟩ | ⟨-, state, -⟩⟩ := turns.of_retry <;>
          rw [flying] at state <;> cases state
      | cleanup called answered names owner current rendered reserves =>
        exact absurd turns Turn.not_cleanup

/-- **Only a claim under the fence leases the effect under it.** -/
theorem Run.grants {past rest : List Committed} {store : Store} {entry : Committed}
    {effectId fence : Uuid} (run : Run (past ++ entry :: rest) store)
    (free : entry.before.holds effectId fence = false)
    (held : entry.after.holds effectId fence = true) :
    ∃ record, GaveOut record entry ∧ record.effectId = effectId ∧ record.leaseToken = fence := by
  obtain ⟨effect, found, flying, token⟩ := holds_iff.mp held
  have named : effect.effectId = effectId := (Store.effect_found.mp found).2
  cases run.effectFate effectId with
  | still same =>
    unfold Store.holds at held free
    rw [same, free] at held
    cases held
  | inserted _ present fresh _ =>
    rw [found] at present
    cases present
    have state := congrArg EffectProgress.state fresh
    rw [show effect.toEffectProgress.state = .inFlight from flying] at state
    cases state
  | written there writes present shown coherent step shows cause =>
    rw [found] at present
    cases present
    cases writes with
    | skip grant unfinished => cases flying
    | turn turns =>
      cases cause with
      | claim called answered member =>
        obtain ⟨same, -, leaseUntil, rfl⟩ := turns.of_claim
        exact ⟨_, answered, same.symm.trans named, Option.some.inj token⟩
      | finalize called answered owner before member =>
        obtain ⟨-, -, -, -, rfl, -⟩ := turns.of_finalize
        exact absurd flying (EffectOutcome.landed _)
      | quarantine called answered member =>
        obtain ⟨-, -, -, rfl⟩ := turns.of_quarantine
        cases flying
      | retry called answered names member owner current resolvable rendered reserves =>
        obtain ⟨-, ⟨-, -, rfl⟩ | ⟨-, -, rfl⟩ | ⟨-, -, outcome, -, -, rfl, -⟩⟩ := turns.of_retry
        · cases flying
        · cases flying
        · exact absurd flying outcome.landed
      | cleanup called answered names owner current rendered reserves =>
        exact absurd turns Turn.not_cleanup

theorem Run.leases {past rest : List Committed} {store : Store} {entry : Committed}
    {effectId fence : Uuid} (run : Run (past ++ entry :: rest) store)
    (free : entry.before.holds effectId fence = false)
    (held : entry.after.holds effectId fence = true) : fenceOf entry = some fence := by
  obtain ⟨record, gave, -, token⟩ := run.grants free held
  unfold fenceOf
  rw [show entry.reply = .claimed (some record) from gave, ← token]

/-- **Some claim of the run gave out every lease.** -/
theorem Run.granted {history : List Committed} {store : Store} {effectId fence : Uuid}
    (run : Run history store) (held : store.holds effectId fence = true) :
    ∃ entry ∈ history, ∃ record, GaveOut record entry ∧ record.effectId = effectId ∧
      record.leaseToken = fence := by
  induction run with
  | start => cases held
  | @commit history entry earlier legal committed ih =>
    cases before : entry.before.holds effectId fence with
    | true =>
      obtain ⟨claim, member, gave⟩ := ih before
      exact ⟨claim, List.mem_append_left _ member, gave⟩
    | false =>
      have run' : Run (history ++ entry :: []) entry.after := .commit earlier legal committed
      exact ⟨entry, List.mem_append_right _ List.mem_cons_self, run'.grants before held⟩

/-! ### Over a whole run -/

/-- How often a fence was given up. -/
def closings (effectId fence : Uuid) (history : List Committed) : Nat :=
  history.countP (accepts effectId fence) + history.countP (expires effectId fence)

theorem closings_snoc (effectId fence : Uuid) (history : List Committed) (entry : Committed) :
    closings effectId fence (history ++ [entry]) = closings effectId fence history +
      ((if accepts effectId fence entry then 1 else 0) +
        if expires effectId fence entry then 1 else 0) := by
  unfold closings
  rw [List.countP_append, List.countP_append, List.countP_singleton, List.countP_singleton]
  omega

/-- **Under fresh fences a fence is given up once**, after it was given out, and for good. -/
theorem Run.closes {history : List Committed} {store : Store} (run : Run history store)
    (effectId fence : Uuid) (fresh : (fences history).Nodup) :
    closings effectId fence history ≤ 1 ∧
      (store.holds effectId fence = true → closings effectId fence history = 0) ∧
      (fence ∉ fences history → closings effectId fence history = 0 ∧
        store.holds effectId fence = false) := by
  induction run with
  | start => exact ⟨Nat.zero_le _, fun _ => rfl, fun _ => ⟨rfl, rfl⟩⟩
  | @commit history entry earlier legal committed ih =>
    have run : Run (history ++ entry :: []) entry.after := .commit earlier legal committed
    have shape : fences (history ++ [entry]) = fences history ++ (fenceOf entry).toList := by
      unfold fences
      rw [List.filterMap_append]
      cases given : fenceOf entry <;> simp [given]
    rw [shape] at fresh ⊢
    obtain ⟨bound, whileHeld, ungiven⟩ := ih fresh.of_append_left
    rw [closings_snoc]
    cases held : entry.before.holds effectId fence with
    | true =>
      have given : fence ∈ fences history := by
        by_contra absent
        rw [(ungiven absent).2] at held
        cases held
      have none := whileHeld held
      refine ⟨?_, ?_, fun absent => absurd (List.mem_append_left _ given) absent⟩
      · cases after : entry.after.holds effectId fence with
        | true =>
          have unaccepted : accepts effectId fence entry = false := by
            rw [← Bool.not_eq_true]
            intro accepted
            rw [(run.did.2.accepted accepted).2] at after
            cases after
          have unexpired : expires effectId fence entry = false := by
            unfold expires
            split
            · rw [after, Bool.not_true, Bool.and_false]
            · rfl
          rw [unaccepted, unexpired, none]
          simp
        | false =>
          rcases run.ends held after with ⟨one, other⟩ | ⟨one, other⟩ <;> rw [one, other, none] <;>
            simp
      · intro after
        have unaccepted : accepts effectId fence entry = false := by
          rw [← Bool.not_eq_true]
          intro accepted
          rw [(run.did.2.accepted accepted).2] at after
          cases after
        have unexpired : expires effectId fence entry = false := by
          unfold expires
          split
          · rw [after, Bool.not_true, Bool.and_false]
          · rfl
        rw [unaccepted, unexpired, none]
        simp
    | false =>
      have unaccepted : accepts effectId fence entry = false := by
        rw [← Bool.not_eq_true]
        intro accepted
        rw [(run.did.2.accepted accepted).1] at held
        cases held
      have unexpired : expires effectId fence entry = false := by
        unfold expires
        split
        · rw [held, Bool.false_and]
        · rfl
      rw [unaccepted, unexpired]
      refine ⟨by simpa using bound, fun after => ?_, fun absent => ?_⟩
      · have given := run.leases held after
        rw [given] at fresh
        have absent : fence ∉ fences history := by
          intro twice
          exact (List.nodup_append'.mp fresh).2.2 twice (by simp)
        simpa using (ungiven absent).1
      · rw [List.mem_append, not_or] at absent
        refine ⟨by simpa using (ungiven absent.1).1, ?_⟩
        rw [← Bool.not_eq_true]
        intro after
        have given := run.leases held after
        rw [given] at absent
        exact absent.2 (by simp)

/-! ### The guarantee -/

/-- **Fencing**, in a history that left `store`. -/
structure Fenced (history : List Committed) (store : Store) : Prop where
  /-- Under fresh fences each claim is closed at most once. -/
  once : (fences history).Nodup → ∀ effectId fence, closings effectId fence history ≤ 1
  /-- What takes an effect from its fence is an accepted finalization or a quarantine, not both. -/
  closed : ∀ past entry rest, history = past ++ entry :: rest → ∀ effectId fence,
    entry.before.holds effectId fence = true → entry.after.holds effectId fence = false →
      (accepts effectId fence entry = true ∧ expires effectId fence entry = false) ∨
        (accepts effectId fence entry = false ∧ expires effectId fence entry = true)
  /-- A committed finalization was accepted under the fence, and superseded without it. -/
  decided : ∀ past entry rest, history = past ++ entry :: rest →
    ∀ now activityId record actor outcome,
      entry.event = .finalizeEffect now activityId record actor outcome →
      (entry.before.holds record.effectId record.leaseToken = true ∧
        entry.reply = .finalized outcome.result ∧ outcome.result ≠ .superseded ∧
        entry.after.holds record.effectId record.leaseToken = false) ∨
      (entry.before.holds record.effectId record.leaseToken = false ∧
        entry.reply = .finalized .superseded ∧ entry.after = entry.before)
  /-- Any further finalization of a claim, with whatever outcome: superseded without the fence. -/
  stale : ∀ entry ∈ history, ∀ record, GaveOut record entry →
    store.holds record.effectId record.leaseToken = false → ∀ now activityId actor outcome,
      (∀ result final, postgres.Commits (finalizeEffect now activityId record actor outcome) store
        result final ↔ result = .superseded ∧ final = store) ∧
      ∀ error, ¬ postgres.Aborts (finalizeEffect now activityId record actor outcome) store error
  /-- Under the fence it is accepted, where no constraint refuses its rows. -/
  current : ∀ entry ∈ history, ∀ record, GaveOut record entry →
    store.holds record.effectId record.leaseToken = true →
    ∀ now activityId actor downstream outcome, outcome = executeEffect downstream record →
      (∀ result final, postgres.Commits (finalizeEffect now activityId record actor outcome) store
        result final → result = outcome.result ∧
          final.holds record.effectId record.leaseToken = false) ∧
      (∀ error, postgres.Aborts (finalizeEffect now activityId record actor outcome) store error →
        error.isDatabase) ∧
      (store.activity.find activityId = none →
        (∀ row, store.saga record.provisioningId = some row →
          row.revision < 9223372036854775807) →
        ∃ final, postgres.Commits (finalizeEffect now activityId record actor outcome) store
          outcome.result final)

/-- A committed finalization is accepted under the fence and superseded without it. -/
theorem Did.decided {entry : Committed} (did : Did entry) {now : Timestamp} {activityId : Uuid}
    {record : EffectRecord} {actor : String} {outcome : EffectOutcome}
    (called : entry.event = .finalizeEffect now activityId record actor outcome) :
    (entry.before.holds record.effectId record.leaseToken = true ∧
      entry.reply = .finalized outcome.result ∧ outcome.result ≠ .superseded ∧
      entry.after.holds record.effectId record.leaseToken = false) ∨
    (entry.before.holds record.effectId record.leaseToken = false ∧
      entry.reply = .finalized .superseded ∧ entry.after = entry.before) := by
  have whole := did
  cases did with
  | superseded called' answered absent kept =>
    rw [called] at called'
    cases called'
    exact Or.inr ⟨not_holds.mp absent, answered, kept⟩
  | finalized called' answered held moves member kept =>
    rw [called] at called'
    cases called'
    obtain ⟨before, after⟩ :=
      whole.accepted (accepts_of_answered called answered rfl rfl)
    exact Or.inl ⟨before, answered, outcome.result_ne, after⟩
  | replayed asked _ _ =>
    rw [called] at asked
    cases asked
  | began called' | retried called' | cleaned called' | quarantined called' | idle called'
  | claimed called' =>
    rw [called] at called'
    cases called'

/-- **Fencing**: in every run. -/
theorem fencing {history : List Committed} {store : Store} (run : Run history store) :
    Fenced history store := by
  refine ⟨fun fresh effectId fence => (run.closes effectId fence fresh).1, ?_, ?_, ?_, ?_⟩
  · rintro past entry rest rfl effectId fence held ended
    exact run.ends held ended
  · rintro past entry rest rfl now activityId record actor outcome called
    exact run.did.2.decided called
  · intro entry member record gave stale now activityId actor outcome
    obtain ⟨effect, found, owner, -⟩ := run.holds.named entry member record gave
    have known := run.holds.owned.effects effect (Store.effect_found.mp found).1
    rw [owner] at known
    exact finalizeEffect_superseded known stale
  · rintro entry member record gave held now activityId actor downstream _ rfl
    have named := run.holds.named entry member record gave
    have fits := executeEffect_fits downstream record
    obtain ⟨effect, found, fencing⟩ := (Option.any_eq_true ..).mp held
    have current : (store.effect record.effectId).filter (fenced record.leaseToken) =
        some effect := Option.filter_eq_some_iff.mpr ⟨found, fencing⟩
    refine ⟨?_, fun error failed => finalizeEffect_aborts fits failed, ?_⟩
    · intro result final committed
      have event : Run (history ++ [⟨.finalizeEffect now activityId record actor
          (executeEffect downstream record), store, .finalized result, final⟩]) final :=
        .commit run ⟨⟨entry, member, gave⟩, downstream, rfl⟩
          (postgres.commits_bind.mpr ⟨result, final, committed, rfl, rfl⟩)
      rcases event.did.2.decided rfl with ⟨-, answered, -, after⟩ | ⟨before, -, -⟩
      · exact ⟨Reply.finalized.inj answered, after⟩
      · rw [held] at before
        cases before
    · intro fresh room
      obtain ⟨other, found', owner, -⟩ := named
      rw [found] at found'
      cases found'
      have known := run.holds.owned.effects effect (Store.effect_found.mp found).1
      rw [owner] at known
      obtain ⟨row, present⟩ := Option.isSome_iff_exists.mp known
      exact finalizeEffect_commits run.holds.checked present current fits fresh
        (room row present) actor

/-- The rehearsal: fresh fences, one of them given up to a quarantine and then presented late. -/
theorem fencing_rehearsed : Fenced Rehearsal.history Rehearsal.store ∧
    (fences Rehearsal.history).Nodup ∧ closings 12 104 Rehearsal.history = 1 :=
  ⟨fencing Rehearsal.run, by decide +kernel, by decide +kernel⟩

end OrganizationProvisioning
