/-
**The worker's loop as part of a run.**

* `CommitsAlone` — a call that commits its computed run.
* `Works`, `Processes` — the calls `work` and `processDue` commit; `Works.run`, `Processes.run` — they
  continue a run.
* `Round` — a claim and its finalization, one right after the other.
-/
import OrganizationProvisioning.Proof.Alone
import OrganizationProvisioning.Proof.Sends
import OrganizationProvisioning.Run.Effects
import OrganizationProvisioning.Saga.Waiting

namespace OrganizationProvisioning

open Relational Transactional Worklist

/-! ### Calls that commit alone -/

/-- A call that commits its computed run. -/
def CommitsAlone (entry : Committed) : Prop :=
  alone entry.event.program entry.before = .ok (entry.reply, entry.after)

theorem CommitsAlone.commit {entry : Committed} (commits : CommitsAlone entry) :
    provisioning.Commit entry :=
  postgres.commits_of_run computed_answers commits

/-- A result that is some value is that value. -/
theorem ok_of_toOption {ε α : Type} {result : Except ε α} {value : α}
    (same : result.toOption = some value) : result = .ok value := by
  cases result with
  | error error => cases same
  | ok other =>
    cases same
    rfl

/-- A transaction alone, and what its call replies. -/
theorem alone_reply {α : Type} {program : Transaction α} {store final : Store} {value : α}
    (ran : alone program store = .ok (value, final)) (reply : α → Reply) :
    alone (program.bind fun value => .pure (reply value)) store = .ok (reply value, final) := by
  unfold alone at ran ⊢
  rw [postgres.run_bind, ran]
  rfl

theorem of_alone_reply {α : Type} {program : Transaction α} {store final : Store} {answer : Reply}
    {reply : α → Reply}
    (ran : alone (program.bind fun value => .pure (reply value)) store = .ok (answer, final)) :
    ∃ value, alone program store = .ok (value, final) ∧ answer = reply value := by
  unfold alone at ran ⊢
  rw [postgres.run_bind] at ran
  cases first : postgres.run computed program store with
  | error error =>
    rw [first] at ran
    cases ran
  | ok pair =>
    rw [first] at ran
    cases ran
    exact ⟨_, rfl, rfl⟩

/-! ### The loop -/

/-- **The calls `work` commits.** -/
inductive Works (actor : String) (leaseSeconds : Int) (turn : Nat → TurnInputs) :
    Nat → Nat → Store → List Committed → Store → Prop
  | full {index : Nat} {store : Store} : Works actor leaseSeconds turn 0 index store [] store
  | dry {fuel index : Nat} {claim : Committed}
      (asked : claim.event = (turn index).claim actor leaseSeconds) (alone : CommitsAlone claim)
      (none : claim.reply = .claimed none) :
      Works actor leaseSeconds turn (fuel + 1) index claim.before [claim] claim.after
  | turn {fuel index : Nat} {claim settle : Committed} {record : EffectRecord}
      {result : FinalizeResult} {calls : List Committed} {store : Store}
      (asked : claim.event = (turn index).claim actor leaseSeconds) (alone : CommitsAlone claim)
      (gave : GaveOut record claim) (next : settle.before = claim.after)
      (asked' : settle.event = (turn index).settle actor record) (alone' : CommitsAlone settle)
      (answered : settle.reply = .finalized result)
      (rest : Works actor leaseSeconds turn fuel (index + 1) settle.after calls store) :
      Works actor leaseSeconds turn (fuel + 1) index claim.before (claim :: settle :: calls) store

section Works

variable {actor : String} {leaseSeconds : Int} {turn : Nat → TurnInputs} {fuel index : Nat}
  {store final : Store} {calls history : List Committed} {counts counts' : Counts}

theorem works_of_work (ran : work actor leaseSeconds turn fuel index counts store =
    .ok (calls, counts', final)) : Works actor leaseSeconds turn fuel index store calls final := by
  induction fuel generalizing index counts store calls with
  | zero =>
    cases ran
    exact .full
  | succ fuel ih =>
    rw [work] at ran
    cases claimed : alone (claimNext (turn index).now (turn index).utcNow actor (turn index).fence
      (turn index).claimId leaseSeconds) store with
    | error error =>
      rw [claimed] at ran
      cases ran
    | ok pair =>
      obtain ⟨found, leased⟩ := pair
      rw [claimed] at ran
      have committed : CommitsAlone ⟨(turn index).claim actor leaseSeconds, store, .claimed found,
        leased⟩ := alone_reply claimed .claimed
      cases found with
      | none =>
        cases ran
        exact Works.dry rfl committed rfl
      | some record =>
        simp only [bind, Except.bind] at ran
        cases settled : alone (finalizeEffect (turn index).settledAt (turn index).settleId record
          actor (executeEffect (turn index).downstream record)) leased with
        | error error =>
          rw [settled] at ran
          cases ran
        | ok pair =>
          obtain ⟨result, after⟩ := pair
          rw [settled] at ran
          simp only at ran
          have committed' : CommitsAlone ⟨(turn index).settle actor record, leased,
            .finalized result, after⟩ := alone_reply settled .finalized
          cases others : work actor leaseSeconds turn fuel (index + 1) (counts.add result) after with
          | error error =>
            rw [others] at ran
            cases ran
          | ok rest =>
            obtain ⟨calls, last, store⟩ := rest
            rw [others] at ran
            cases ran
            exact Works.turn rfl committed rfl rfl rfl committed' rfl (ih others)

end Works

/-! ### Rounds -/

/-- **A claim and its finalization, one right after the other**: two steps of one saga. -/
structure Round (claim settle : Committed) (record : EffectRecord) (outcome : EffectOutcome)
    (began ended : Timestamp) (saga middle last : Saga) : Prop where
  claims : Moves began (.claim record.effectId record.leaseToken) record.provisioningId claim.before
    claim.after saga middle
  settles : Moves ended (.finalize record.effectId record.leaseToken outcome) record.provisioningId
    claim.after settle.after middle last
  answered : settle.reply = .finalized outcome.result

/-- **A finalization under its fence moves its saga.** -/
theorem Did.finalizes {settle : Committed} {record : EffectRecord} {effect : EffectRow}
    {now : Timestamp} {activityId : Uuid} {actor : String} {outcome : EffectOutcome}
    (settled : Did settle)
    (called : settle.event = .finalizeEffect now activityId record actor outcome)
    (held : (settle.before.effect record.effectId).filter (fenced record.leaseToken) =
      some effect) :
    settle.reply = .finalized outcome.result ∧ ∃ saga last,
      Moves now (.finalize record.effectId record.leaseToken outcome) record.provisioningId
        settle.before settle.after saga last := by
  cases settled with
  | superseded called' _ absent _ =>
    rw [called'] at called
    cases called
    rw [held] at absent
    cases absent
  | finalized called' answered _ moves _ _ =>
    rw [called'] at called
    cases called
    exact ⟨answered, _, _, moves⟩
  | replayed asked _ _ =>
    rw [called] at asked
    cases asked
  | began called' | retried called' | cleaned called' | quarantined called' | idle called'
  | claimed called' =>
    rw [called'] at called
    cases called

/-- **A finalization right after its claim is not superseded.** -/
theorem round_of_did {claim settle : Committed} {record : EffectRecord}
    {began utcNow ended : Timestamp} {fence claimId activityId : Uuid} {worker actor : String}
    {leaseSeconds : Int} {outcome : EffectOutcome} (claimed : Did claim)
    (asked : claim.event = .claimNext began utcNow worker fence claimId leaseSeconds)
    (gave : GaveOut record claim) (next : settle.before = claim.after) (settled : Did settle)
    (called : settle.event = .finalizeEffect ended activityId record actor outcome) :
    ∃ saga middle last, Round claim settle record outcome began ended saga middle last := by
  obtain ⟨started, leaseUntil, _, _, _, effect, gives⟩ := claimed.gives gave
  have held : (settle.before.effect record.effectId).filter (fenced record.leaseToken) =
      some (effect.set (.leased started record.leaseToken leaseUntil)) := by
    rw [next, gives.leased]
    simp [fenced, EffectRow.set, EffectProgress.leased]
  obtain ⟨answered, saga', last, moves'⟩ := settled.finalizes called held
  unfold GaveOut at gave
  cases claimed with
  | @claimed _ _ _ _ _ _ id effect' saga middle called' answered' moves member kept =>
    rw [called'] at asked
    cases asked
    rw [answered'] at gave
    cases gave
    have same : (effectRecord effect' fence saga.row).provisioningId = id := moves.shown.id_eq
    rw [next, same] at moves'
    obtain rfl := moves.shows.unique (moves.step.coherent moves.coherent) moves'.shown
      moves'.coherent
    refine ⟨saga, middle, last, ?_, ?_, answered⟩
    · rw [same]
      exact moves
    · rw [same]
      exact moves'
  | replayed _ answered _ | began _ answered _ _ _ _ _ _ | retried _ answered _ _ _ _ _ _ _
  | cleaned _ answered _ _ _ _ _ | quarantined _ answered _ | idle _ answered _
  | superseded _ answered _ _ | finalized _ answered _ _ _ _ =>
    rw [answered] at gave
    cases gave

/-- A claim that finds nothing leaves the store as it is. -/
theorem idle_of_did {claim : Committed} (claimed : Did claim) (none : claim.reply = .claimed none) :
    claim.after = claim.before := by
  cases claimed with
  | idle _ _ kept => exact kept
  | claimed _ answered _ _ _ | replayed _ answered _ | began _ answered _ _ _ _ _ _
  | retried _ answered _ _ _ _ _ _ _ | cleaned _ answered _ _ _ _ _ | quarantined _ answered _
  | superseded _ answered _ _ | finalized _ answered _ _ _ _ =>
    rw [answered] at none
    cases none

section Works

variable {actor : String} {leaseSeconds : Int} {turn : Nat → TurnInputs} {fuel index : Nat}
  {store final : Store} {calls history : List Committed}

/-- A dry claim continues a run and leaves the store. -/
theorem dry_run {claim : Committed} (run : Run history claim.before)
    (asked : claim.event = (turn index).claim actor leaseSeconds) (alone : CommitsAlone claim)
    (none : claim.reply = .claimed none) :
    Run (history ++ [claim]) claim.after ∧ claim.after = claim.before := by
  have run' : Run (history ++ [claim]) claim.after := by
    refine .commit run ?_ alone.commit
    rw [asked]
    trivial
  exact ⟨run', idle_of_did run'.did.2 none⟩

/-- **A turn continues a run**, with a round of one saga. -/
theorem turn_run {claim settle : Committed} {record : EffectRecord} (run : Run history claim.before)
    (asked : claim.event = (turn index).claim actor leaseSeconds) (alone : CommitsAlone claim)
    (gave : GaveOut record claim) (next : settle.before = claim.after)
    (asked' : settle.event = (turn index).settle actor record) (alone' : CommitsAlone settle) :
    Run ((history ++ [claim]) ++ [settle]) settle.after ∧ ∃ saga middle last,
      Round claim settle record (executeEffect (turn index).downstream record) (turn index).now
        (turn index).settledAt saga middle last := by
  have claimed : Run (history ++ [claim]) claim.after := by
    refine .commit run ?_ alone.commit
    rw [asked]
    trivial
  have before := claimed
  rw [← next] at claimed
  have settled : Run ((history ++ [claim]) ++ [settle]) settle.after := by
    refine .commit claimed ?_ alone'.commit
    rw [asked']
    exact ⟨⟨claim, by simp, gave⟩, (turn index).downstream, rfl⟩
  exact ⟨settled, round_of_did before.did.2 asked gave next settled.did.2 asked'⟩

/-- **The loop continues a run.** -/
theorem Works.run (works : Works actor leaseSeconds turn fuel index store calls final)
    (run : Run history store) : Run (history ++ calls) final := by
  induction works generalizing history with
  | full => rwa [List.append_nil]
  | dry asked alone none => exact (dry_run run asked alone none).1
  | @turn fuel index claim settle record result calls store asked alone gave next asked' alone'
      answered rest ih =>
    have whole := ih (turn_run run asked alone gave next asked' alone').1
    rwa [show history ++ claim :: settle :: calls = ((history ++ [claim]) ++ [settle]) ++ calls by
      simp]

end Works

/-! ### Counting effects -/

/-- How many effects are in a state. -/
def Store.count (store : Store) (state : EffectState) : Nat :=
  store.effects.rows.countP fun effect => effect.state = state

section Count

variable {before after : Store} {now : Timestamp} {transition : Transition} {id : Uuid}
  {saga saga' : Saga}

/-- The rows of the other sagas are the same rows. -/
theorem Elsewhere.others (elsewhere : Elsewhere id before after) :
    (after.effects.rows.filter fun row => !decide (row.provisioningId = id)).Perm
      (before.effects.rows.filter fun row => !decide (row.provisioningId = id)) := by
  have nodup : ∀ store : Store, store.effects.rows.Nodup := fun store =>
    List.Nodup.of_map _ store.effects.unique
  rw [List.perm_ext_iff_of_nodup ((nodup after).filter _) ((nodup before).filter _)]
  intro row
  rw [List.mem_filter, List.mem_filter]
  refine and_congr_left fun other => ?_
  have differs : row.provisioningId ≠ id := by simpa using other
  have same := elsewhere.effects row.provisioningId differs
  have owns : ∀ store : Store, row ∈ store.effects.rows ↔
      row ∈ store.effectsOf row.provisioningId := fun store => by simp [Store.effectsOf]
  rw [owns after, owns before, same]

/-- The rows of a shown saga and the others. -/
theorem Shows.perm {store : Store} (shows : Shows store id saga) :
    store.effects.rows.Perm (saga.effects ++
      store.effects.rows.filter fun row => !decide (row.provisioningId = id)) := by
  rw [← shows.effects]
  exact (List.filter_append_perm _ _).symm

/-- **A turn replaces one row.** -/
theorem Moves.replaces (moves : Moves now transition id before after saga saga')
    (turns : transition ≠ .cleanup) : ∃ focus progress organization others,
      Turn now focus transition progress organization ∧
      before.effects.rows.Perm (focus :: others) ∧
      after.effects.rows.Perm ((focus.set fun _ => progress) :: others) := by
  have shown := moves.shown
  have shows := moves.shows
  have others := moves.elsewhere.others
  cases moves.step with
  | cleanup => exact absurd rfl turns
  | @turn _ past rest focus progress organization note split turn records =>
    obtain ⟨early, late, shape, turned⟩ := effects_turned now split
    refine ⟨focus, progress, organization, early ++ late ++
      before.effects.rows.filter fun row => !decide (row.provisioningId = id), turn, ?_, ?_⟩
    · refine shown.perm.trans ?_
      rw [shape]
      simp
    · refine shows.perm.trans ?_
      rw [turned]
      refine (List.Perm.append_left _ others).trans ?_
      simp

/-- The count of a state after one row is replaced. -/
theorem count_replaced {focus : EffectRow} {progress : EffectProgress} {others : List EffectRow}
    (was : before.effects.rows.Perm (focus :: others))
    (becomes : after.effects.rows.Perm ((focus.set fun _ => progress) :: others))
    (state : EffectState) :
    after.count state + (if focus.state = state then 1 else 0) =
      before.count state + if progress.state = state then 1 else 0 := by
  unfold Store.count
  rw [was.countP_eq, becomes.countP_eq, List.countP_cons, List.countP_cons]
  simp only [decide_eq_true_eq]
  have same : (focus.set fun _ => progress).state = progress.state := rfl
  rw [same]
  omega

/-- A claim takes one of the pending effects into flight. -/
theorem Moves.count_claim {effectId fence : Uuid}
    (moves : Moves now (.claim effectId fence) id before after saga saga') :
    before.count .pending = after.count .pending + 1 ∧
      after.count .inFlight = before.count .inFlight + 1 := by
  obtain ⟨focus, progress, organization, others, turn, was, becomes⟩ :=
    moves.replaces (fun impossible => by cases impossible)
  obtain ⟨-, due, leaseUntil, rfl⟩ := turn.of_claim
  have pending := count_replaced was becomes .pending
  have flying := count_replaced was becomes .inFlight
  simp only [due, EffectProgress.leased, if_true, reduceCtorEq, if_false] at pending flying
  omega

/-- What ends a claim takes one effect out of flight and leaves the pending ones. -/
theorem Moves.count_settled
    (moves : Moves now transition id before after saga saga')
    (settles : (∃ effectId fence outcome, transition = .finalize effectId fence outcome) ∨
      ∃ effectId, transition = .quarantine effectId) :
    after.count .pending = before.count .pending ∧
      before.count .inFlight = after.count .inFlight + 1 := by
  obtain ⟨focus, progress, organization, others, turn, was, becomes⟩ :=
    moves.replaces (by rcases settles with ⟨_, _, _, rfl⟩ | ⟨_, rfl⟩ <;>
      exact fun impossible => by cases impossible)
  have ends : focus.state = .inFlight ∧ progress.state ≠ .pending ∧ progress.state ≠ .inFlight := by
    rcases settles with ⟨_, _, outcome, rfl⟩ | ⟨_, rfl⟩
    · obtain ⟨-, flying, -, fits, rfl, -⟩ := turn.of_finalize
      refine ⟨flying, ?_⟩
      rcases outcome.state_write fits with state | state | state <;>
        rw [state]
      · cases focus.kind.isMain <;> simp [finishedState]
      · decide
      · decide
    · obtain ⟨-, flying, -, rfl⟩ := turn.of_quarantine
      exact ⟨flying, by simp [EffectProgress.stopped], by simp [EffectProgress.stopped]⟩
  obtain ⟨flying, landed, grounded⟩ := ends
  have pending := count_replaced was becomes .pending
  have flights := count_replaced was becomes .inFlight
  simp only [flying, landed, grounded, if_true, reduceCtorEq, if_false] at pending flights
  omega

/-- **A batch of quarantines takes as many effects out of flight.** -/
theorem Quarantines.count {count : Nat} (chain : Quarantines now count before after) :
    after.count .pending = before.count .pending ∧
      before.count .inFlight = after.count .inFlight + count := by
  induction chain with
  | done store => exact ⟨rfl, rfl⟩
  | next moves _ _ _ _ ih =>
    have one := moves.count_settled (Or.inr ⟨_, rfl⟩)
    omega

end Count

/-! ### What the loop works off -/

section Progress

variable {actor : String} {leaseSeconds : Int} {turn : Nat → TurnInputs} {fuel index : Nat}
  {store final : Store} {calls history : List Committed}

/-- The claims among some calls. -/
def claimed (calls : List Committed) : List EffectRecord :=
  calls.filterMap fun entry => match entry.reply with
    | .claimed found => found
    | _ => none

theorem claimed_append (first second : List Committed) :
    claimed (first ++ second) = claimed first ++ claimed second :=
  List.filterMap_append

/-- **Each turn of the loop works off one pending effect.** -/
theorem Works.count (works : Works actor leaseSeconds turn fuel index store calls final)
    (run : Run history store) :
    store.count .pending = final.count .pending + (claimed calls).length ∧
      final.count .inFlight = store.count .inFlight := by
  induction works generalizing history with
  | full => exact ⟨rfl, rfl⟩
  | dry asked alone none =>
    rw [(dry_run run asked alone none).2]
    simp [claimed, none]
  | @turn fuel index claim settle record result calls store asked alone gave next asked' alone'
      answered rest ih =>
    obtain ⟨run', saga, middle, last, round⟩ :=
      turn_run run asked alone gave next asked' alone'
    have taken := round.claims.count_claim
    have ended := round.settles.count_settled (Or.inl ⟨_, _, _, rfl⟩)
    have others := ih run'
    have counted : (claimed (claim :: settle :: calls)).length = (claimed calls).length + 1 := by
      unfold GaveOut at gave
      simp [claimed, gave, answered]
    omega

/-- **The loop claims an effect while a saga is claimable.** -/
theorem Works.progress (works : Works actor leaseSeconds turn fuel index store calls final)
    (some : 0 < fuel) (due : store.first claimable ≠ none) : 0 < (claimed calls).length := by
  cases works with
  | full => exact absurd some (lt_irrefl 0)
  | @dry fuel index claim asked alone none =>
    unfold CommitsAlone at alone
    rw [asked] at alone
    obtain ⟨found, ran, same⟩ := of_alone_reply alone
    rw [none] at same
    cases same
    exact absurd ((claimNext_found ran).1.mp rfl) due
  | turn asked alone gave next asked' alone' answered rest =>
    unfold GaveOut at gave
    simp [claimed, gave]

end Progress

/-! ### Calls of `process_due` -/

/-- **What a call of `process_due` commits**: a quarantine, then the loop within the rest of the limit. -/
structure Processes (actor : String) (call : WorkerCall) (quarantine : Committed) (count : Nat)
    (calls : List Committed) (final : Store) : Prop where
  valid : call.request.valid = true
  asked : quarantine.event =
    .quarantineExpired call.began actor call.quarantineId call.request.limit
  alone : CommitsAlone quarantine
  answered : quarantine.reply = .quarantined count
  works : Works actor call.request.leaseSeconds call.turn (call.request.limit - count).toNat 0
    quarantine.after calls final

section Process

variable {actor : String} {call : WorkerCall} {store final : Store} {history committed : List Committed}
  {response : ProcessDueResponse}

theorem processes_of_processDue
    (ran : processDue actor call store = .ok (committed, response, final)) :
    ∃ quarantine count calls, committed = quarantine :: calls ∧ quarantine.before = store ∧
      Processes actor call quarantine count calls final ∧
        response.hasMore = hasMore call.ended final := by
  unfold processDue at ran
  cases valid : call.request.valid with
  | false =>
    rw [valid] at ran
    cases ran
  | true =>
    rw [valid] at ran
    cases quarantined : alone (quarantineExpired call.began actor call.quarantineId
      call.request.limit) store with
    | error error =>
      rw [quarantined] at ran
      cases ran
    | ok pair =>
      obtain ⟨count, reviewed⟩ := pair
      rw [quarantined] at ran
      cases worked : work actor call.request.leaseSeconds call.turn
        (call.request.limit - count).toNat 0 ⟨0, 0, 0, count⟩ reviewed with
      | error error =>
        simp only [Except.mapError, bind, Except.bind, worked] at ran
        cases ran
      | ok rest =>
        obtain ⟨calls, counts, last⟩ := rest
        simp only [Except.mapError, bind, Except.bind, worked] at ran
        cases ran
        exact ⟨⟨_, store, .quarantined count, reviewed⟩, count, calls, rfl, rfl,
          ⟨valid, rfl, alone_reply quarantined .quarantined, rfl, works_of_work worked⟩, rfl⟩

variable {quarantine : Committed} {count : Nat} {calls : List Committed}

/-- A quarantine that commits alone continues a run, by one saga after the other. -/
theorem quarantine_run {began : Timestamp} {activityId : Nat → Uuid} {limit : Int}
    (run : Run history quarantine.before)
    (asked : quarantine.event = .quarantineExpired began actor activityId limit)
    (alone : CommitsAlone quarantine) (answered : quarantine.reply = .quarantined count) :
    Run (history ++ [quarantine]) quarantine.after ∧
      Quarantines began count quarantine.before quarantine.after := by
  have run' : Run (history ++ [quarantine]) quarantine.after := by
    refine .commit run ?_ alone.commit
    rw [asked]
    trivial
  refine ⟨run', ?_⟩
  cases run'.did.2 with
  | quarantined called answered' chain =>
    rw [called] at asked
    rw [answered'] at answered
    cases asked
    cases answered
    exact chain
  | replayed keyed _ _ =>
    rw [asked] at keyed
    cases keyed
  | began called | retried called | cleaned called | idle called | claimed called
  | superseded called | finalized called =>
    rw [called] at asked
    cases asked

/-- The quarantine of a call continues a run. -/
theorem Processes.quarantine_run (processes : Processes actor call quarantine count calls final)
    (run : Run history quarantine.before) : Run (history ++ [quarantine]) quarantine.after ∧
      Quarantines call.began count quarantine.before quarantine.after :=
  OrganizationProvisioning.quarantine_run run processes.asked processes.alone processes.answered

/-- **A call of `process_due` continues a run.** -/
theorem Processes.run (processes : Processes actor call quarantine count calls final)
    (run : Run history quarantine.before) : Run (history ++ quarantine :: calls) final := by
  have whole := processes.works.run (processes.quarantine_run run).1
  rwa [show history ++ quarantine :: calls = (history ++ [quarantine]) ++ calls by simp]

/-- **A call works off its claims and its quarantines.** -/
theorem Processes.counted (processes : Processes actor call quarantine count calls final)
    (run : Run history quarantine.before) :
    quarantine.before.count .pending = final.count .pending + (claimed calls).length ∧
      quarantine.before.count .inFlight = final.count .inFlight + count := by
  obtain ⟨run', chain⟩ := processes.quarantine_run run
  have quarantined := chain.count
  have worked := processes.works.count run'
  omega

/-- A lease that expired stays expired. -/
theorem hasExpired_later {earlier later : Timestamp} (forward : earlier ≤ later) {row : SagaRow}
    {effects : List EffectRow} (late : hasExpired earlier row effects = true) :
    hasExpired later row effects = true := by
  simp only [hasExpired, Bool.and_eq_true, List.any_eq_true, expired, Option.any_eq_true,
    decide_eq_true_eq] at late ⊢
  obtain ⟨running, effect, member, flying, leaseUntil, lease, passed⟩ := late
  exact ⟨running, effect, member, flying, leaseUntil, lease, lt_of_lt_of_le passed forward⟩

/-- **A call after `has_more` makes progress.** -/
theorem Processes.progress (processes : Processes actor call quarantine count calls final)
    (run : Run history quarantine.before) {earlier : Timestamp} (forward : earlier ≤ call.began)
    (more : hasMore earlier quarantine.before = true) :
    final.count .pending + final.count .inFlight <
      quarantine.before.count .pending + quarantine.before.count .inFlight := by
  have counted := processes.counted run
  have valid := processes.valid
  unfold ProcessDueRequest.valid at valid
  rw [decide_eq_true_eq] at valid
  have positive := valid.1.1
  rcases Nat.eq_zero_or_pos count with none | some
  · subst none
    -- Nothing was quarantined, so the loop runs on the same store and finds a claimable saga.
    have chain := (processes.quarantine_run run).2
    generalize before_eq : quarantine.before = before at chain more counted run
    generalize after_eq : quarantine.after = after at chain
    cases chain with
    | done =>
      have idle : before.first (hasExpired call.began) = none := by
        by_contra found
        have ran := processes.alone
        unfold CommitsAlone at ran
        rw [processes.asked] at ran
        obtain ⟨value, ran, same⟩ := of_alone_reply ran
        rw [processes.answered] at same
        cases same
        rw [before_eq] at ran
        exact absurd ((quarantineLoop_stops ran).2.2 (by omega) found) (lt_irrefl 0)
      have due : before.first claimable ≠ none := by
        rcases (hasMore_iff run.holds.coherent).mp more with found | found
        · exact found
        · refine absurd ?_ found
          rw [Store.first_none] at idle ⊢
          intro row member
          by_contra late
          have later := hasExpired_later forward (by simpa using late)
          rw [idle row member] at later
          cases later
      have works := processes.works
      rw [after_eq] at works
      have claims := works.progress (by omega) due
      omega
  · omega

end Process

/-! ### The calls of the loop -/

section Drain

variable {actor : String} {call : WorkerCall} {calls : List WorkerCall} {store final : Store}
  {history committed : List Committed} {last : Option (WorkerCall × ProcessDueResponse)}

/-- A loop is its first call, and the others where there is more. -/
theorem drain_cons (ran : drain actor (call :: calls) store = .ok (committed, last, final)) :
    ∃ first response after, processDue actor call store = .ok (first, response, after) ∧
      ((response.hasMore = true ∧ ∃ others, drain actor calls after = .ok (others, last, final) ∧
          committed = first ++ others) ∨
        (response.hasMore = false ∧ committed = first ∧ last = some (call, response) ∧
          final = after)) := by
  rw [drain] at ran
  cases processed : processDue actor call store with
  | error error =>
    rw [processed] at ran
    cases ran
  | ok result =>
    obtain ⟨first, response, after⟩ := result
    rw [processed] at ran
    refine ⟨first, response, after, rfl, ?_⟩
    cases more : response.hasMore with
    | true =>
      simp only [bind, Except.bind, more, if_true] at ran
      cases others : drain actor calls after with
      | error error =>
        rw [others] at ran
        cases ran
      | ok rest =>
        rw [others] at ran
        cases ran
        exact Or.inl ⟨rfl, _, rfl, rfl⟩
    | false =>
      simp only [bind, Except.bind, more, Bool.false_eq_true, if_false] at ran
      cases ran
      exact Or.inr ⟨rfl, rfl, rfl, rfl⟩

/-- **The loop continues a run.** -/
theorem drain_run (run : Run history store)
    (ran : drain actor calls store = .ok (committed, last, final)) :
    Run (history ++ committed) final := by
  induction calls generalizing history store committed with
  | nil =>
    cases ran
    rwa [List.append_nil]
  | cons call calls ih =>
    obtain ⟨first, response, after, processed, more | stops⟩ := drain_cons ran
    · obtain ⟨-, others, rest, rfl⟩ := more
      obtain ⟨quarantine, count, works, rfl, rfl, processes, -⟩ := processes_of_processDue processed
      rw [← List.append_assoc]
      exact ih (processes.run run) rest
    · obtain ⟨-, rfl, rfl, rfl⟩ := stops
      obtain ⟨quarantine, count, works, rfl, rfl, processes, -⟩ := processes_of_processDue processed
      exact processes.run run

/-- **The loop claims pending effects only, each at most once.** -/
theorem drain_claims (run : Run history store)
    (ran : drain actor calls store = .ok (committed, last, final)) :
    store.count .pending = final.count .pending + (claimed committed).length := by
  induction calls generalizing history store committed with
  | nil =>
    cases ran
    rfl
  | cons call calls ih =>
    have skip : ∀ {quarantine : Committed} {count : Nat} {works : List Committed} {after : Store},
        Processes actor call quarantine count works after →
          claimed (quarantine :: works) = claimed works := by
      intro quarantine count works after processes
      simp [claimed, processes.answered]
    obtain ⟨first, response, after, processed, more | stops⟩ := drain_cons ran
    · obtain ⟨-, others, rest, rfl⟩ := more
      obtain ⟨quarantine, count, works, rfl, rfl, processes, -⟩ := processes_of_processDue processed
      have counted := (processes.counted run).1
      have further := ih (processes.run run) rest
      rw [claimed_append, List.length_append, skip processes]
      omega
    · obtain ⟨-, rfl, rfl, rfl⟩ := stops
      obtain ⟨quarantine, count, works, rfl, rfl, processes, -⟩ := processes_of_processDue processed
      rw [skip processes]
      exact (processes.counted run).1

/-- With more to do there is an effect to work off. -/
theorem count_of_hasMore {now : Timestamp} (more : hasMore now store = true) :
    0 < store.count .pending + store.count .inFlight := by
  unfold hasMore at more
  obtain ⟨effect, member, due⟩ := List.any_eq_true.mp more
  obtain ⟨row, -, due⟩ := (Option.any_eq_true ..).mp due
  rcases Bool.or_eq_true_iff.mp due with pending | flying
  · have state := (Bool.and_eq_true_iff.mp pending).1
    have some : 0 < store.count .pending := List.countP_pos_iff.mpr ⟨effect, member, state⟩
    omega
  · have state := (Bool.and_eq_true_iff.mp (Bool.and_eq_true_iff.mp flying).1).1
    have some : 0 < store.count .inFlight := List.countP_pos_iff.mpr ⟨effect, member, state⟩
    omega

/-- After an answer that there is more, as many calls as there are effects to work off suffice. -/
theorem drain_further (run : Run history store) {earlier : Timestamp}
    (more : hasMore earlier store = true) (after : ∀ call ∈ calls, earlier ≤ call.began)
    (forward : calls.Pairwise fun first second => first.ended ≤ second.began)
    (enough : store.count .pending + store.count .inFlight ≤ calls.length)
    (ran : drain actor calls store = .ok (committed, last, final)) : last ≠ none := by
  induction calls generalizing history store committed earlier with
  | nil =>
    have some := count_of_hasMore more
    simp only [List.length_nil] at enough
    omega
  | cons call calls ih =>
    obtain ⟨first, response, next, processed, further | stops⟩ := drain_cons ran
    · obtain ⟨again, others, rest, rfl⟩ := further
      obtain ⟨quarantine, count, works, rfl, rfl, processes, same⟩ :=
        processes_of_processDue processed
      have worked := processes.progress run (after call List.mem_cons_self) more
      rw [same] at again
      have ordered := List.pairwise_cons.mp forward
      rw [List.length_cons] at enough
      exact ih (processes.run run) again ordered.1 ordered.2 (by omega) rest
    · obtain ⟨-, -, rfl, -⟩ := stops
      exact fun impossible => by cases impossible

/-- **The loop stops**, at the latest after one call more than there are effects to work off. -/
theorem drain_stops (run : Run history store)
    (forward : calls.Pairwise fun first second => first.ended ≤ second.began)
    (enough : store.count .pending + store.count .inFlight < calls.length)
    (ran : drain actor calls store = .ok (committed, last, final)) : last ≠ none := by
  cases calls with
  | nil => exact absurd enough (Nat.not_lt_zero _)
  | cons call calls =>
    obtain ⟨first, response, next, processed, further | stops⟩ := drain_cons ran
    · obtain ⟨again, others, rest, rfl⟩ := further
      obtain ⟨quarantine, count, works, rfl, rfl, processes, same⟩ :=
        processes_of_processDue processed
      have counted := processes.counted run
      rw [same] at again
      have ordered := List.pairwise_cons.mp forward
      rw [List.length_cons] at enough
      exact drain_further (processes.run run) again ordered.1 ordered.2 (by omega) rest
    · obtain ⟨-, -, rfl, -⟩ := stops
      exact fun impossible => by cases impossible

/-- **The loop stops where `has_more` is false.** -/
theorem drain_last {response : ProcessDueResponse}
    (ran : drain actor calls store = .ok (committed, some (call, response), final)) :
    call ∈ calls ∧ response.hasMore = false ∧ hasMore call.ended final = false := by
  induction calls generalizing store committed with
  | nil => cases ran
  | cons head calls ih =>
    obtain ⟨first, response', next, processed, further | stops⟩ := drain_cons ran
    · obtain ⟨-, others, rest, -⟩ := further
      obtain ⟨member, stopped⟩ := ih rest
      exact ⟨List.mem_cons_of_mem _ member, stopped⟩
    · obtain ⟨none, -, same, rfl⟩ := stops
      cases same
      obtain ⟨_, _, _, -, -, -, same⟩ := processes_of_processDue processed
      exact ⟨List.mem_cons_self, none, same ▸ none⟩

end Drain

end OrganizationProvisioning
