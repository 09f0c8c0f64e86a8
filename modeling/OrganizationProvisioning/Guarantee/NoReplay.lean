/-
**No automatic replay of a downstream effect.**

Between two claims of an effect there is exactly one committed retry that resolved it: an operator
saw the effect failed, or confirmed that an effect in doubt had not been applied. An effect whose lease has
ended is in doubt once it is quarantined; until then its worker may still report how it ended.

* `Between` — what the calls after a claim say about the state they left the effect in.
* `Run.between` — it holds along every run until the next claim.
* `Run.attempts` — every claim is an attempt, and all but the first follow a reset.
* `never_replays` — the guarantee; `never_replays_lapsed` — it does not extend to every lease that has ended.
-/
import OrganizationProvisioning.Run.Effects
import OrganizationProvisioning.Run.Script
import OrganizationProvisioning.Run.Timeline

namespace OrganizationProvisioning

open Relational Transactional Worklist

/-! ### Reading a history -/

/-- The state of an effect. -/
def Store.stateOf (store : Store) (effectId : Uuid) : Option EffectState :=
  (store.effect effectId).map fun effect => effect.state

/-- The decision by which a committed retry changed the state of an effect. -/
def resolves (effectId : Uuid) (entry : Committed) : Option RetryResolution :=
  match entry.event with
  | .retry _ _ input =>
    if entry.after.stateOf effectId = entry.before.stateOf effectId then none
    else some input.resolution
  | _ => none

/-- A committed retry made an effect pending again. -/
def resets (effectId : Uuid) (entry : Committed) : Bool :=
  resolves effectId entry = some .retryFailed ∨ resolves effectId entry = some .confirmNotApplied

/-- An accepted finalization recorded a failure of an effect. -/
def recordsFailure (effectId : Uuid) (entry : Committed) : Bool :=
  match entry.event, entry.reply with
  | .finalizeEffect _ _ record _ _, .finalized .failed => record.effectId = effectId
  | _, _ => false

section Reading

variable {entry : Committed} {effectId : Uuid}

theorem resolves_of_not_retry (other : ∀ now activityId input,
    entry.event ≠ .retry now activityId input) : resolves effectId entry = none := by
  unfold resolves
  split
  · rename_i now activityId input called
    exact absurd called (other now activityId input)
  · rfl

theorem resolves_of_same (same : entry.after.effect effectId = entry.before.effect effectId) :
    resolves effectId entry = none := by
  unfold resolves Store.stateOf
  rw [same]
  split <;> simp

theorem claims_of_reply (other : ∀ record, entry.reply ≠ .claimed (some record)) :
    claims effectId entry = false := by
  unfold claims
  split
  · rename_i record answered
    exact absurd answered (other record)
  · rfl

/-- A call that is no retry and gives out no record neither claims nor resolves. -/
theorem quiet (unclaimed : ∀ record, entry.reply ≠ .claimed (some record))
    (other : ∀ now activityId input, entry.event ≠ .retry now activityId input) :
    claims effectId entry = false ∧ resolves effectId entry = none :=
  ⟨claims_of_reply unclaimed, resolves_of_not_retry other⟩

/-- What a committed retry resolves. -/
theorem resolves_of_retry {now : Timestamp} {activityId : Uuid} {input : RetryInput}
    {effect effect' : EffectRow} (called : entry.event = .retry now activityId input)
    (found : entry.before.effect effectId = some effect)
    (present : entry.after.effect effectId = some effect') (differs : effect'.state ≠ effect.state) :
    resolves effectId entry = some input.resolution := by
  unfold resolves Store.stateOf
  rw [called, found, present]
  exact if_neg fun same => differs (Option.some.inj same)

end Reading

/-! ### The moves of one effect -/

/-- **How a committed call may change the state of an effect.** -/
inductive StateMove (entry : Committed) (effectId : Uuid) : EffectState → EffectState → Prop
  | still (state : EffectState) (unclaimed : claims effectId entry = false)
      (unresolved : resolves effectId entry = none) : StateMove entry effectId state state
  | claimed (claimed : claims effectId entry = true) (unresolved : resolves effectId entry = none) :
      StateMove entry effectId .pending .inFlight
  | finished {state : EffectState} (final : state.settled = true)
      (unclaimed : claims effectId entry = false) (unresolved : resolves effectId entry = none) :
      StateMove entry effectId .inFlight state
  | failed (recorded : recordsFailure effectId entry = true)
      (unclaimed : claims effectId entry = false) (unresolved : resolves effectId entry = none) :
      StateMove entry effectId .inFlight .failed
  | doubted (unclaimed : claims effectId entry = false)
      (unresolved : resolves effectId entry = none) : StateMove entry effectId .inFlight .unknown
  | retried (unclaimed : claims effectId entry = false)
      (resolved : resolves effectId entry = some .retryFailed) :
      StateMove entry effectId .failed .pending
  | denied (unclaimed : claims effectId entry = false)
      (resolved : resolves effectId entry = some .confirmNotApplied) :
      StateMove entry effectId .unknown .pending
  | confirmed {state : EffectState} (final : state.settled = true)
      (unclaimed : claims effectId entry = false)
      (resolved : resolves effectId entry = some .confirmApplied) :
      StateMove entry effectId .unknown state
  | skipped {state : EffectState} (unfinished : state = .pending ∨ state = .failed)
      (unclaimed : claims effectId entry = false) (unresolved : resolves effectId entry = none) :
      StateMove entry effectId state .skipped

theorem finishedState_settled (cleanup : Bool) : (finishedState cleanup).settled = true := by
  cases cleanup <;> rfl

/-- What is written on an effect moves its state, and counts its claims. -/
theorem Writes.move {entry : Committed} {now : Timestamp} {effect : EffectRow} {effectId : Uuid}
    {transition : Transition} {progress : EffectProgress} {saga saga' : Saga} {id : Uuid}
    (writes : Writes now effect transition progress)
    (found : entry.before.effect effectId = some effect)
    (present : entry.after.effect effectId = some (effect.set fun _ => progress))
    (cause : Cause entry id now saga saga' transition) :
    StateMove entry effectId effect.state progress.state ∧
      progress.attempts = effect.attempts + if claims effectId entry then 1 else 0 := by
  have named : effect.effectId = effectId := (Store.effect_found.mp found).2
  cases cause with
  | @claim utcNow actor fence activityId leaseSeconds claimed called answered member =>
    cases writes with
    | turn turns =>
      obtain ⟨same, due, leaseUntil, rfl⟩ := turns.of_claim
      have counted : claims effectId entry = true := by
        unfold claims
        rw [answered]
        exact decide_eq_true (same.symm.trans named)
      rw [counted, due]
      refine ⟨.claimed counted (resolves_of_not_retry ?_), rfl⟩
      rw [called]
      exact fun _ _ _ other => by cases other
  | @finalize activityId record actor outcome turned called answered owner held member =>
    obtain ⟨unclaimed, unresolved⟩ : claims effectId entry = false ∧
        resolves effectId entry = none := by
      refine quiet (by rw [answered]; exact fun _ other => by cases other) ?_
      rw [called]
      exact fun _ _ _ other => by cases other
    cases writes with
    | turn turns =>
      obtain ⟨same, leased, token, fits, rfl, -⟩ := turns.of_finalize
      rw [unclaimed, leased]
      refine ⟨?_, by cases outcome <;> simp [EffectOutcome.write, EffectProgress.applied,
        EffectProgress.compensated, EffectProgress.stopped]⟩
      cases outcome with
      | failed errorCode =>
        refine .failed ?_ unclaimed unresolved
        unfold recordsFailure
        rw [called, answered]
        exact decide_eq_true (same.symm.trans named)
      | unknown errorCode => exact .doubted unclaimed unresolved
      | organizationApplied _ _ _ | entitlementApplied _ _ | compensated _ =>
        exact .finished rfl unclaimed unresolved
  | @quarantine actor activityId limit count quarantined called answered member =>
    obtain ⟨unclaimed, unresolved⟩ : claims effectId entry = false ∧
        resolves effectId entry = none := by
      refine quiet (by rw [answered]; exact fun _ other => by cases other) ?_
      rw [called]
      exact fun _ _ _ other => by cases other
    cases writes with
    | turn turns =>
      obtain ⟨-, leased, -, rfl⟩ := turns.of_quarantine
      rw [unclaimed, leased]
      exact ⟨.doubted unclaimed unresolved, by simp [EffectProgress.stopped]⟩
  | @retry activityId input resolved response called answered names member owner current resolvable
      rendered reserves =>
    have unclaimed : claims effectId entry = false := by
      refine claims_of_reply ?_
      rw [answered]
      exact fun _ other => by cases other
    have resolution := resolves_of_retry called found present
    rw [unclaimed]
    cases writes with
    | turn turns =>
      obtain ⟨-, ⟨decision, stopped, rfl⟩ | ⟨decision, doubted, rfl⟩ |
        ⟨decision, doubted, outcome, fits, succeeds, rfl, -⟩⟩ := turns.of_retry
      · rw [stopped, decision] at resolution
        rw [stopped]
        exact ⟨.retried unclaimed (resolution fun same => by cases same), by simp [EffectProgress.reset]⟩
      · rw [doubted, decision] at resolution
        rw [doubted]
        exact ⟨.denied unclaimed (resolution fun same => by cases same), by simp [EffectProgress.reset]⟩
      · have state : (outcome.write now effect.toEffectProgress).state = finishedState _ :=
          EffectOutcome.state_succeeds fits succeeds
        have settled : (outcome.write now effect.toEffectProgress).state.settled = true := by
          rw [state]
          exact finishedState_settled _
        have moved : (effect.set fun _ => outcome.write now effect.toEffectProgress).state ≠
            effect.state := by
          show (outcome.write now effect.toEffectProgress).state ≠ effect.state
          intro same
          rw [same, doubted] at settled
          cases settled
        rw [decision] at resolution
        rw [doubted]
        refine ⟨.confirmed settled unclaimed (resolution moved), ?_⟩
        cases outcome <;> simp [EffectOutcome.write, EffectProgress.applied,
          EffectProgress.compensated, EffectProgress.stopped]
  | @cleanup newId activityId input response called answered names owner current rendered
      reserves =>
    obtain ⟨unclaimed, unresolved⟩ : claims effectId entry = false ∧
        resolves effectId entry = none := by
      refine quiet (by rw [answered]; exact fun _ other => by cases other) ?_
      rw [called]
      exact fun _ _ _ other => by cases other
    cases writes with
    | turn turns => exact absurd turns Turn.not_cleanup
    | skip grant unfinished =>
      rw [unclaimed]
      exact ⟨.skipped unfinished unclaimed unresolved, by simp [EffectProgress.skipped]⟩

/-- **Every committed call moves the state of every effect in one of these ways.** -/
theorem Run.stateMove {past rest : List Committed} {store : Store} {entry : Committed}
    (run : Run (past ++ entry :: rest) store) {effectId : Uuid} {effect : EffectRow}
    (found : entry.before.effect effectId = some effect) :
    ∃ effect', entry.after.effect effectId = some effect' ∧
      StateMove entry effectId effect.state effect'.state ∧
      effect'.attempts = effect.attempts + if claims effectId entry then 1 else 0 := by
  cases run.effectFate effectId with
  | still same =>
    have unclaimed : claims effectId entry = false := by
      rw [← Bool.not_eq_true]
      intro claimed
      obtain ⟨now, fence, leaseUntil, claimed, before, due, after⟩ := run.did.2.claims claimed
      rw [same, before] at after
      have state := congrArg (fun row : EffectRow => row.state) (Option.some.inj after)
      rw [show claimed.state = .pending from due] at state
      cases state
    refine ⟨effect, same.trans found, .still _ unclaimed (resolves_of_same same), ?_⟩
    rw [unclaimed]
    simp
  | inserted absent _ _ _ =>
    rw [found] at absent
    cases absent
  | written before writes present shown coherent step shows cause =>
    rw [found] at before
    cases before
    have move := writes.move found present cause
    exact ⟨_, present, move.1, move.2⟩

/-! ### From one claim to the next -/

/-- **What the calls since a claim say** about the state they left the effect in. -/
def Between (effectId : Uuid) (between : List Committed) : EffectState → Prop
  | .inFlight | .unknown => ∀ entry ∈ between, resolves effectId entry = none
  | .failed => (∀ entry ∈ between, resolves effectId entry = none) ∧
      ∃ entry ∈ between, recordsFailure effectId entry = true
  | .pending => ∃ before resolving after, between = before ++ resolving :: after ∧
      (∀ entry ∈ before ++ after, resolves effectId entry = none) ∧
      ((resolves effectId resolving = some .retryFailed ∧
          resolving.before.stateOf effectId = some .failed ∧
          ∃ entry ∈ before, recordsFailure effectId entry = true) ∨
        (resolves effectId resolving = some .confirmNotApplied ∧
          resolving.before.stateOf effectId = some .unknown))
  | _ => True

/-- A call that does not resolve the effect is one more such call. -/
theorem Between.snoc {effectId : Uuid} {between : List Committed} {entry : Committed}
    {state : EffectState} (holds : Between effectId between state)
    (unresolved : resolves effectId entry = none) :
    Between effectId (between ++ [entry]) state := by
  have none_snoc : ∀ {calls : List Committed}, (∀ call ∈ calls, resolves effectId call = none) →
      ∀ call ∈ calls ++ [entry], resolves effectId call = none := by
    intro calls none call member
    rcases List.mem_append.mp member with earlier | here
    · exact none call earlier
    · rw [List.mem_singleton.mp here]
      exact unresolved
  cases state with
  | inFlight => exact none_snoc holds
  | unknown => exact none_snoc holds
  | failed =>
    obtain ⟨none, recorder, member, recorded⟩ := holds
    exact ⟨none_snoc none, recorder, List.mem_append_left _ member, recorded⟩
  | pending =>
    obtain ⟨before, resolving, after, rfl, none, how⟩ := holds
    refine ⟨before, resolving, after ++ [entry], by simp, ?_, how⟩
    rw [← List.append_assoc]
    exact none_snoc none
  | applied | compensated | skipped => trivial

/-- **One call after a claim**, other than the next claim. -/
theorem Between.step {effectId : Uuid} {between : List Committed} {entry : Committed}
    {state state' : EffectState} (holds : Between effectId between state)
    (move : StateMove entry effectId state state') (unclaimed : claims effectId entry = false)
    (found : entry.before.stateOf effectId = some state) :
    Between effectId (between ++ [entry]) state' := by
  cases move with
  | still _ _ unresolved => exact holds.snoc unresolved
  | claimed claimed _ =>
    rw [unclaimed] at claimed
    cases claimed
  | finished final _ _ => cases state' <;> trivial
  | failed recorded _ unresolved =>
    exact ⟨(Between.snoc holds unresolved : Between effectId _ .inFlight), entry,
      List.mem_append_right _ List.mem_cons_self, recorded⟩
  | doubted _ unresolved => exact (Between.snoc holds unresolved : Between effectId _ .inFlight)
  | retried _ resolved =>
    obtain ⟨none, recorder, member, recorded⟩ := holds
    exact ⟨between, entry, [], rfl, by simpa using none,
      Or.inl ⟨resolved, found, recorder, member, recorded⟩⟩
  | denied _ resolved =>
    have none : ∀ call ∈ between, resolves effectId call = none := holds
    exact ⟨between, entry, [], rfl, by simpa using none, Or.inr ⟨resolved, found⟩⟩
  | confirmed final _ _ => cases state' <;> trivial
  | skipped _ _ _ => trivial

theorem stateOf_some {store : Store} {effectId : Uuid} {effect : EffectRow}
    (found : store.effect effectId = some effect) : store.stateOf effectId = some effect.state := by
  unfold Store.stateOf
  rw [found]
  rfl

/-- **Along every run, until the next claim.** -/
theorem Run.between {past between : List Committed} {middle store : Store} {effectId : Uuid}
    {effect : EffectRow} (upTo : Run past middle) (found : middle.effect effectId = some effect)
    (leased : effect.state = .inFlight) (run : Run (past ++ between) store)
    (unclaimed : ∀ entry ∈ between, claims effectId entry = false) :
    ∃ effect', store.effect effectId = some effect' ∧
      Between effectId between effect'.state := by
  revert unclaimed
  refine upTo.later (fun calls _ last => (∀ entry ∈ calls, claims effectId entry = false) →
    ∃ effect', last.effect effectId = some effect' ∧ Between effectId calls effect'.state) ?_ ?_ run
  · intro _
    refine ⟨effect, found, ?_⟩
    rw [leased]
    exact fun entry member => by cases member
  · intro calls entry earlier holds legal committed unclaimed
    obtain ⟨effect', found', sofar⟩ :=
      holds fun call member => unclaimed call (List.mem_append_left _ member)
    have run' : Run ((past ++ calls) ++ entry :: []) entry.after := .commit earlier legal committed
    obtain ⟨effect'', found'', move, -⟩ := run'.stateMove found'
    exact ⟨effect'', found'', sofar.step move
      (unclaimed entry (List.mem_append_right _ List.mem_cons_self)) (stateOf_some found')⟩

/-! ### Attempts -/

/-- How many claims and resets an effect in a state has seen. -/
def Counted (claimed reset : Nat) : EffectState → Prop
  | .pending => claimed = reset
  | .inFlight | .failed | .unknown => claimed = reset + 1
  | _ => claimed ≤ reset + 1

/-- One more call counts its claim and its reset. -/
theorem Counted.step {entry : Committed} {effectId : Uuid} {claimed reset : Nat}
    {state state' : EffectState} (holds : Counted claimed reset state)
    (move : StateMove entry effectId state state') :
    Counted (claimed + if claims effectId entry then 1 else 0)
      (reset + if resets effectId entry then 1 else 0) state' := by
  unfold resets
  cases move with
  | still _ unclaimed unresolved => simpa [unclaimed, unresolved] using holds
  | claimed claimed unresolved =>
    have same : _ = _ := holds
    simp [claimed, unresolved, Counted, same]
  | finished final unclaimed unresolved =>
    have same : _ = _ := holds
    cases state' <;> first | exact absurd final (by decide) | simp [unclaimed, unresolved, Counted, same]
  | failed _ unclaimed unresolved =>
    have same : _ = _ := holds
    simp [unclaimed, unresolved, Counted, same]
  | doubted unclaimed unresolved =>
    have same : _ = _ := holds
    simp [unclaimed, unresolved, Counted, same]
  | retried unclaimed resolved =>
    have same : _ = _ := holds
    simp [unclaimed, resolved, Counted, same]
  | denied unclaimed resolved =>
    have same : _ = _ := holds
    simp [unclaimed, resolved, Counted, same]
  | confirmed final unclaimed resolved =>
    have same : _ = _ := holds
    cases state' <;> first | exact absurd final (by decide) | simp [unclaimed, resolved, Counted, same]
  | skipped unfinished unclaimed unresolved =>
    have bound : claimed ≤ reset + 1 := by
      rcases unfinished with rfl | rfl
      · exact (show claimed = reset from holds).le.trans (Nat.le_succ _)
      · exact (show claimed = reset + 1 from holds).le
    simpa [unclaimed, unresolved, Counted] using bound

/-- **Every claim is an attempt**, and claims and resets alternate. -/
theorem Run.attempts {history : List Committed} {store : Store} (run : Run history store)
    (effectId : Uuid) :
    (store.effect effectId = none → history.countP (claims effectId) = 0 ∧
      history.countP (resets effectId) = 0) ∧
    ∀ effect, store.effect effectId = some effect →
      effect.attempts = history.countP (claims effectId) ∧
        Counted (history.countP (claims effectId)) (history.countP (resets effectId))
          effect.state := by
  induction run with
  | start => exact ⟨fun _ => ⟨rfl, rfl⟩, fun _ found => by cases found⟩
  | @commit history entry earlier legal committed ih =>
    obtain ⟨absence, presence⟩ := ih
    have run : Run (history ++ entry :: []) entry.after := .commit earlier legal committed
    have count : ∀ counts : Committed → Bool, (history ++ [entry]).countP counts =
        history.countP counts + if counts entry then 1 else 0 := by
      intro counts
      rw [List.countP_append, List.countP_singleton]
    rw [count, count]
    cases found : entry.before.effect effectId with
    | some effect =>
      obtain ⟨effect', present, move, attempts⟩ := run.stateMove found
      obtain ⟨same, counted⟩ := presence effect found
      refine ⟨fun absent => ?_, fun other there => ?_⟩
      · rw [present] at absent
        cases absent
      · rw [present] at there
        cases there
        refine ⟨?_, counted.step move⟩
        rw [attempts, same]
        split <;> simp
    | none =>
      obtain ⟨noClaims, noResets⟩ := absence found
      have unclaimed : claims effectId entry = false := by
        rw [← Bool.not_eq_true]
        intro claimed
        obtain ⟨_, _, _, _, present, -, -⟩ := run.did.2.claims claimed
        rw [found] at present
        cases present
      have unreset : resets effectId entry = false := by
        unfold resets
        have unresolved : resolves effectId entry = none := by
          cases run.effectFate effectId with
          | still same => exact resolves_of_same same
          | inserted _ _ _ unretried => exact resolves_of_not_retry unretried
          | written present =>
            rw [found] at present
            cases present
        simp [unresolved]
      rw [noClaims, noResets, unclaimed, unreset]
      refine ⟨fun _ => ⟨rfl, rfl⟩, fun effect present => ?_⟩
      cases run.effectFate effectId with
      | still same =>
        rw [same, found] at present
        cases present
      | inserted _ there fresh _ =>
        rw [there] at present
        cases present
        have attempts := congrArg EffectProgress.attempts fresh
        have state := congrArg EffectProgress.state fresh
        exact ⟨attempts, by rw [show effect.state = .pending from state]; rfl⟩
      | written before =>
        rw [found] at before
        cases before

/-! ### Doubt -/

/-- **An effect in doubt stays in doubt, or is confirmed,** until an operator denies it. -/
theorem Run.doubted {past rest : List Committed} {middle store : Store} {effectId : Uuid}
    {effect : EffectRow} (upTo : Run past middle) (found : middle.effect effectId = some effect)
    (doubt : effect.state = .unknown) (run : Run (past ++ rest) store)
    (undenied : ∀ entry ∈ rest, resolves effectId entry ≠ some .confirmNotApplied) :
    ∃ effect', store.effect effectId = some effect' ∧
      (effect'.state = .unknown ∨ effect'.state.settled = true) := by
  revert undenied
  refine upTo.later (fun calls _ last =>
    (∀ entry ∈ calls, resolves effectId entry ≠ some .confirmNotApplied) →
      ∃ effect', last.effect effectId = some effect' ∧
        (effect'.state = .unknown ∨ effect'.state.settled = true)) ?_ ?_ run
  · exact fun _ => ⟨effect, found, Or.inl doubt⟩
  · intro calls entry earlier holds legal committed undenied
    obtain ⟨effect', found', sofar⟩ :=
      holds fun call member => undenied call (List.mem_append_left _ member)
    have run' : Run ((past ++ calls) ++ entry :: []) entry.after := .commit earlier legal committed
    obtain ⟨effect'', found'', move, -⟩ := run'.stateMove found'
    refine ⟨effect'', found'', ?_⟩
    have here := undenied entry (List.mem_append_right _ List.mem_cons_self)
    generalize effect'.state = state at move sofar
    generalize effect''.state = state' at move ⊢
    cases move with
    | still _ _ _ => exact sofar
    | confirmed final _ _ => exact Or.inr final
    | denied _ resolved => exact absurd resolved here
    | skipped _ _ _ => exact Or.inr rfl
    | claimed | finished | failed | doubted | retried =>
      rcases sofar with impossible | impossible <;> cases impossible

/-! ### The guarantee -/

/-- **An effect is never replayed by itself.** -/
structure NeverReplayed (history : List Committed) (store : Store) (effectId : Uuid) : Prop where
  /-- Between consecutive claims exactly one retry resolved the effect, recorded as failed by its
  own finalization or in doubt and denied. -/
  separated : ∀ past first between second rest,
    history = past ++ first :: (between ++ second :: rest) → claims effectId first = true →
    (∀ entry ∈ between, claims effectId entry = false) → claims effectId second = true →
      Between effectId between .pending
  /-- So too from any moment the effect is in flight, whether or not its lease has expired. -/
  leased : ∀ past leasing between second rest,
    history = past ++ leasing :: (between ++ second :: rest) →
    leasing.after.stateOf effectId = some .inFlight →
    (∀ entry ∈ between, claims effectId entry = false) → claims effectId second = true →
      Between effectId between .pending
  /-- Every claim is an attempt, and all but the first follow a reset. -/
  attempts : ∀ effect, store.effect effectId = some effect →
    effect.attempts = history.countP (claims effectId) ∧
      effect.attempts ≤ 1 + history.countP (resets effectId)
  /-- After a quarantine or an unknown outcome, only a denial lets the effect be claimed. -/
  doubted : ∀ past doubting between second rest,
    history = past ++ doubting :: (between ++ second :: rest) →
    doubting.after.stateOf effectId = some .unknown → claims effectId second = true →
      ∃ entry ∈ between, resolves effectId entry = some .confirmNotApplied
  /-- An effect applied, compensated or skipped is not claimed again. -/
  final : ∀ past finishing rest, history = past ++ finishing :: rest →
    (∃ state, finishing.after.stateOf effectId = some state ∧ state.settled = true) →
      ∀ entry ∈ rest, claims effectId entry = false

theorem effect_of_stateOf {store : Store} {effectId : Uuid} {state : EffectState}
    (found : store.stateOf effectId = some state) :
    ∃ effect, store.effect effectId = some effect ∧ effect.state = state := by
  unfold Store.stateOf at found
  exact Option.map_eq_some_iff.mp found

/-- An effect in flight is claimed again only after a retry resolved it. -/
theorem Run.separates {past between rest : List Committed} {leasing second : Committed} {store : Store}
    {effectId : Uuid}
    (run : Run (past ++ leasing :: (between ++ second :: rest)) store)
    (leased : leasing.after.stateOf effectId = some .inFlight)
    (unclaimed : ∀ entry ∈ between, claims effectId entry = false)
    (claimed : claims effectId second = true) : Between effectId between .pending := by
  obtain ⟨-, -, -, upTo⟩ := run.commit_of_mem
  obtain ⟨effect, found, state⟩ := effect_of_stateOf leased
  have run' : Run (((past ++ [leasing]) ++ between) ++ second :: rest) store := by
    simpa using run
  obtain ⟨before, -, -, -⟩ := run'.commit_of_mem
  obtain ⟨effect', found', since⟩ := Run.between upTo found state before unclaimed
  obtain ⟨_, _, _, claimedEffect, there, pending, -⟩ := run'.did.2.claims claimed
  rw [there] at found'
  cases found'
  rw [pending] at since
  exact since

/-- **No automatic replay**: in every run, for every effect. -/
theorem never_replays {history : List Committed} {store : Store} (run : Run history store)
    (effectId : Uuid) : NeverReplayed history store effectId := by
  refine ⟨?_, ?_, ?_, ?_, ?_⟩
  · rintro past first between second rest rfl claimedFirst unclaimed claimedSecond
    obtain ⟨now, fence, leaseUntil, effect, -, -, leased⟩ := run.did.2.claims claimedFirst
    exact run.separates (stateOf_some leased) unclaimed claimedSecond
  · rintro past leasing between second rest rfl leased unclaimed claimedSecond
    exact run.separates leased unclaimed claimedSecond
  · intro effect found
    obtain ⟨attempts, counted⟩ := (run.attempts effectId).2 effect found
    refine ⟨attempts, ?_⟩
    rw [attempts]
    generalize history.countP (claims effectId) = claimed at counted ⊢
    generalize history.countP (resets effectId) = reset at counted ⊢
    cases state : effect.state <;> rw [state] at counted <;> simp only [Counted] at counted <;> omega
  · rintro past doubting between second rest rfl doubt claimedSecond
    by_contra undenied
    push Not at undenied
    obtain ⟨-, -, -, upTo⟩ := run.commit_of_mem
    obtain ⟨effect, found, state⟩ := effect_of_stateOf doubt
    have run' : Run (((past ++ [doubting]) ++ between) ++ second :: rest) store := by
      simpa using run
    obtain ⟨before, -, -, -⟩ := run'.commit_of_mem
    obtain ⟨effect', found', kept⟩ := Run.doubted upTo found state before undenied
    obtain ⟨_, _, _, claimed, there, pending, -⟩ := run'.did.2.claims claimedSecond
    rw [there] at found'
    cases found'
    rw [pending] at kept
    rcases kept with impossible | impossible <;> cases impossible
  · rintro past finishing rest rfl ⟨state, reached, final⟩
    obtain ⟨-, -, -, upTo⟩ := run.commit_of_mem
    obtain ⟨effect, found, rfl⟩ := effect_of_stateOf reached
    have run' : Run ((past ++ [finishing]) ++ rest) store := by
      simpa using run
    exact (Run.settled upTo found final run').1

/-- The grant of the rehearsal that failed once: claimed twice, with one reset between. -/
theorem never_replays_rehearsed :
    NeverReplayed Rehearsal.history Rehearsal.store 11 ∧
      Rehearsal.history.countP (claims 11) = 2 ∧ Rehearsal.history.countP (resets 11) = 1 :=
  ⟨never_replays Rehearsal.run 11, by decide +kernel, by decide +kernel⟩

/-! ### Leases that ended before a result -/

/-- A creation whose failure is recorded after the end of its lease, retried and leased again. -/
def lapsedScript : List Instruction := [
  .call (.start 0 Rehearsal.ids Rehearsal.input),
  Rehearsal.claim 1 101 21,
  .settle 100000000 22 "worker" Rehearsal.refusing 1,
  .call (.retry 100000001 23 (Rehearsal.retry "again" 3 .retryFailed)),
  Rehearsal.claim 100000002 102 24]

/-- The third call meets the effect with an ended lease, the fifth claims it, and nobody denied it. -/
def lapsed (history : List Committed) (effectId : Uuid) : Bool :=
  match history with
  | [_, _, finishing, retried, second] =>
    (finishing.before.effect effectId).any (expired finishing.event.now) && claims effectId second &&
      decide (resolves effectId finishing ≠ some .confirmNotApplied) &&
        decide (resolves effectId retried ≠ some .confirmNotApplied)
  | _ => false

/-- **An effect whose lease has ended may be claimed again without a denial**: its worker still records the
failure, and the failed effect is retried. -/
theorem never_replays_lapsed : ¬ ∀ (history : List Committed) (store : Store), Run history store →
    ∀ (effectId : Uuid) (past : List Committed) (meeting : Committed) (between : List Committed)
      (second : Committed) (rest : List Committed),
      history = past ++ meeting :: (between ++ second :: rest) →
      (meeting.before.effect effectId).any (expired meeting.event.now) = true →
      claims effectId second = true →
        ∃ entry ∈ meeting :: between, resolves effectId entry = some .confirmNotApplied := by
  intro denied
  have run : Run (played lapsedScript).1 (played lapsedScript).2 := run_of_played (by decide +kernel)
  have shape : lapsed (played lapsedScript).1 10 = true := by decide +kernel
  unfold lapsed at shape
  split at shape
  · rename_i first claimed finishing retried second same
    simp only [Bool.and_eq_true, decide_eq_true_eq] at shape
    obtain ⟨⟨⟨ended, again⟩, unresolved⟩, undenied⟩ := shape
    obtain ⟨entry, member, resolved⟩ := denied _ _ run 10 [first, claimed] finishing [retried] second []
      same ended again
    simp only [List.mem_cons, List.not_mem_nil, or_false] at member
    rcases member with rfl | rfl
    · exact unresolved resolved
    · exact undenied resolved
  · cases shape

end OrganizationProvisioning
