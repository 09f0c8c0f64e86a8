/-
**`process_due` accounts for everything it did.**

* `doubted` — how many leases a transaction moved to unknown; `Quarantines.doubted` — those of a quarantine.
* `WorkTurn.landed` — the state an accepted finalization left its effect in.
* `process_due_accounts` — beside any others, the counts of a response are those of its own transactions.
-/
import OrganizationProvisioning.Run.Amid
import OrganizationProvisioning.Run.Script

namespace OrganizationProvisioning

open Relational Transactional Worklist

/-! ### Leases moved to unknown -/

/-- How many effects went from in flight to unknown. -/
def doubted (before after : Store) : Nat :=
  before.effects.rows.countP fun effect =>
    effect.state = .inFlight && (after.effect effect.effectId).any fun later => later.state = .unknown

section Doubted

variable {now : Timestamp} {id : Uuid} {before middle after : Store} {saga saga' : Saga} {count : Nat}

/-- A quarantine turns the row of one effect in flight. -/
theorem Moves.quarantined {effectId : Uuid}
    (moves : Moves now (.quarantine effectId) id before after saga saga') :
    ∃ focus others, focus.state = .inFlight ∧ before.effects.rows.Perm (focus :: others) ∧
      after.effects.rows.Perm (focus.set (.stopped now .unknown leaseExpiredError) :: others) := by
  obtain ⟨focus, progress, organization, others, turn, was, becomes⟩ :=
    moves.replaces (fun impossible => by cases impossible)
  obtain ⟨-, flying, -, rfl⟩ := turn.of_quarantine
  exact ⟨focus, others, flying, was, becomes⟩

/-- An effect that is not in flight goes through quarantines as it is. -/
theorem Quarantines.keeps (chain : Quarantines now count before after) {effect : EffectRow}
    (member : effect ∈ before.effects.rows) (landed : effect.state ≠ .inFlight) :
    effect ∈ after.effects.rows := by
  induction chain with
  | done => exact member
  | next moves _ _ _ _ ih =>
    obtain ⟨focus, others, flying, was, becomes⟩ := moves.quarantined
    refine ih (becomes.mem_iff.mpr (List.mem_cons_of_mem _ ?_))
    rcases List.mem_cons.mp (was.mem_iff.mp member) with rfl | other
    · exact absurd flying landed
    · exact other

/-- **A quarantine counts the leases it moved to unknown.** -/
theorem Quarantines.doubted (chain : Quarantines now count before after) :
    OrganizationProvisioning.doubted before after = count := by
  induction chain with
  | done store =>
    refine List.countP_eq_zero.mpr fun effect member both => ?_
    obtain ⟨flying, later⟩ := Bool.and_eq_true_iff.mp both
    have found : store.effect effect.effectId = some effect := Table.find_of_mem member
    rw [found, Option.any_some, decide_eq_true_eq, of_decide_eq_true flying] at later
    cases later
  | @next count id before middle after saga saga' effect moves _ _ _ others ih =>
    obtain ⟨focus, rest, flying, was, becomes⟩ := moves.quarantined
    have stays := others.keeps (becomes.mem_iff.mpr List.mem_cons_self)
      (by show EffectState.unknown ≠ .inFlight; decide)
    have found : after.effect focus.effectId =
        some (focus.set (.stopped now .unknown leaseExpiredError)) := Table.find_of_mem stays
    unfold OrganizationProvisioning.doubted at ih ⊢
    rw [was.countP_eq, List.countP_cons_of_pos, ← ih, becomes.countP_eq, List.countP_cons_of_neg]
    · exact fun both => by cases (Bool.and_eq_true_iff.mp both).1
    · rw [flying, found]
      rfl

end Doubted

/-! ### What a finalization did -/

/-- The state an accepted finalization left its effect in; none for a superseded one. -/
def WorkTurn.landed (work : WorkTurn) : Option EffectState :=
  if (work.settle.before.effect work.record.effectId).any (fenced work.record.leaseToken) then
    (work.settle.after.effect work.record.effectId).map fun effect => effect.state
  else none

/-- The result of a finalization that left its effect in a state. -/
def resultOf : Option EffectState → FinalizeResult
  | some .applied | some .compensated => .applied
  | some .failed => .failed
  | some .unknown => .manualReview
  | _ => .superseded

/-- **The result of a finalization is the state it left its effect in**, or it left the store as it was. -/
theorem Did.landed {work : WorkTurn} {now : Timestamp} {activityId : Uuid} {actor : String}
    {outcome : EffectOutcome} (did : Did work.settle)
    (called : work.settle.event = .finalizeEffect now activityId work.record actor outcome)
    (answered : work.settle.reply = .finalized work.result) : work.result = resultOf work.landed ∧
      (work.landed = none → work.settle.after = work.settle.before) ∧
      (work.landed = none ∨ work.landed = some .applied ∨ work.landed = some .compensated ∨
        work.landed = some .failed ∨ work.landed = some .unknown) := by
  cases did with
  | superseded called' answered' absent kept =>
    rw [called'] at called
    cases called
    rw [answered'] at answered
    have nothing : work.landed = none := by
      unfold WorkTurn.landed
      rw [if_neg]
      rw [Option.any_eq_true]
      rintro ⟨effect, found, held⟩
      rw [found, Option.filter_some, if_pos held] at absent
      cases absent
    rw [nothing]
    exact ⟨(Reply.finalized.inj answered).symm, fun _ => kept, Or.inl rfl⟩
  | @finalized now _ record _ outcome effect saga saga' called' answered' held moves _ _ =>
    rw [called'] at called
    cases called
    rw [answered'] at answered
    obtain ⟨focus, progress, organization, others, turn, was, becomes⟩ :=
      moves.replaces (fun impossible => by cases impossible)
    obtain ⟨id, -, -, -, rfl, -⟩ := turn.of_finalize
    have found : work.settle.after.effect work.record.effectId =
        some (focus.set fun _ => outcome.write now focus.toEffectProgress) := by
      rw [← id]
      exact Table.find_of_mem (becomes.mem_iff.mpr List.mem_cons_self)
    have landed : work.landed = some (outcome.write now focus.toEffectProgress).state := by
      unfold WorkTurn.landed
      rw [if_pos, found]
      · rfl
      · obtain ⟨there, fence⟩ := Option.filter_eq_some_iff.mp held
        rw [there, Option.any_some, fence]
    rw [landed, ← Reply.finalized.inj answered]
    refine ⟨by cases outcome <;> rfl, fun none => absurd none (Option.some_ne_none _), ?_⟩
    cases outcome with
    | organizationApplied | entitlementApplied => exact Or.inr (Or.inl rfl)
    | compensated => exact Or.inr (Or.inr (Or.inl rfl))
    | failed => exact Or.inr (Or.inr (Or.inr (Or.inl rfl)))
    | unknown => exact Or.inr (Or.inr (Or.inr (Or.inr rfl)))
  | replayed asked _ _ =>
    rw [called] at asked
    cases asked
  | began called' | retried called' | cleaned called' | quarantined called' | idle called'
  | claimed called' =>
    rw [called'] at called
    cases called

/-! ### The counts of the loop -/

section Counts

variable {actor : String} {leaseSeconds : Int} {turn : Nat → TurnInputs} {fuel index : Nat}
  {counts counts' : Counts} {history last : List Committed} {turns : List WorkTurn}

/-- How many turns had a result. -/
def resulted (result : FinalizeResult) (turns : List WorkTurn) : Nat :=
  turns.countP fun work => work.result = result

theorem resulted_cons (result : FinalizeResult) (work : WorkTurn) (turns : List WorkTurn) :
    resulted result (work :: turns) = resulted result turns + if work.result = result then 1 else 0 := by
  unfold resulted
  rw [List.countP_cons]
  simp only [decide_eq_true_eq]

/-- **The loop counts its turns by their results.** -/
theorem WorksAmid.tally
    (works : WorksAmid actor leaseSeconds turn fuel index counts history turns counts' last) :
    counts'.claimed = counts.claimed + turns.length ∧
      counts'.completed = counts.completed + resulted .applied turns ∧
      counts'.failed = counts.failed + resulted .failed turns ∧
      counts'.manualReview = counts.manualReview + resulted .manualReview turns := by
  induction works with
  | full | dry => simp [resulted]
  | @turn _ _ counts _ _ _ _ _ work turns _ _ _ _ _ _ _ _ _ ih =>
    simp only [resulted_cons, List.length_cons]
    cases reached : work.result <;> rw [reached] at ih <;> simp [Counts.add] at ih ⊢ <;> omega

/-- Every turn has one of the four results. -/
theorem length_eq_resulted (turns : List WorkTurn) : turns.length =
    resulted .applied turns + resulted .failed turns + resulted .manualReview turns +
      resulted .superseded turns := by
  induction turns with
  | nil => rfl
  | cons work turns ih =>
    simp only [resulted_cons, List.length_cons]
    cases work.result <;> simp <;> omega

end Counts

/-! ### The guarantee -/

/-- How many turns left their effect in one of these states. -/
def landings (states : List (Option EffectState)) (turns : List WorkTurn) : Nat :=
  turns.countP fun work => states.contains work.landed

/-- A quarantine counts no more sagas than its limit. -/
theorem quarantined_le {history : List Committed} {quarantine : Committed} {now : Timestamp}
    {actor : String} {activityId : Nat → Uuid} {limit : Int} {count : Nat}
    (run : Run (history ++ [quarantine]) quarantine.after)
    (asked : quarantine.event = .quarantineExpired now actor activityId limit)
    (answered : quarantine.reply = .quarantined count) :
    count ≤ limit.toNat ∧ doubted quarantine.before quarantine.after = count := by
  obtain ⟨earlier, legal, committed, -⟩ := run.last
  have earlier : Run history quarantine.before := earlier
  have chain : Quarantines now count quarantine.before quarantine.after ∧ count ≤ limit.toNat := by
    unfold System.Commit at committed
    rw [asked, answered] at committed
    obtain ⟨value, middle, ran, same, rfl⟩ := postgres.commits_bind.mp committed
    cases same
    obtain ⟨moved, counted, bounded, chain⟩ := quarantineLoop_moves earlier.holds.coherent ran
    rw [Nat.zero_add] at counted
    rw [counted]
    exact ⟨chain, bounded⟩
  exact ⟨chain.2, chain.1.doubted⟩

/-- **`process_due` accounts for everything it did**, whatever others commit between its transactions. -/
theorem process_due_accounts {history last : List Committed} {actor : String} {call : WorkerCall}
    {quarantine : Committed} {turns : List WorkTurn} {response : ProcessDueResponse}
    (amid : ProcessesAmid actor call history quarantine turns response last) :
    (∃ later, last = history ++ later ∧
      (quarantine :: turns.flatMap WorkTurn.entries).Sublist later) ∧
    (∀ work ∈ turns, GaveOut work.record work.claim ∧
      (∃ place, work.settle.event = (call.turn place).settle actor work.record) ∧
      (work.landed = none → work.settle.after = work.settle.before)) ∧
    response.quarantined = doubted quarantine.before quarantine.after ∧
    response.claimed = turns.length ∧
    response.completed = landings [some .applied, some .compensated] turns ∧
    response.failed = landings [some .failed] turns ∧
    response.manualReview - response.quarantined = landings [some .unknown] turns ∧
    response.completed + response.failed + (response.manualReview - response.quarantined) +
      landings [none] turns = response.claimed ∧
    response.claimed + response.quarantined ≤ call.request.limit ∧
    ∀ count ∈ [response.claimed, response.completed, response.failed, response.manualReview,
      response.quarantined], 0 ≤ count ∧ count ≤ 100 := by
  refine ⟨amid.sublist, ?_⟩
  cases amid with
  | @intro past worked last quarantine quarantined turns counts store valid grown reviewed asked answered
      works grown' looked =>
    obtain ⟨few, same⟩ := quarantined_le reviewed asked answered
    obtain ⟨claimed, completed, failed, review⟩ := works.tally
    have within := works.length_le
    have total := length_eq_resulted turns
    have landed : ∀ work ∈ turns, work.result = resultOf work.landed ∧
        (work.landed = none → work.settle.after = work.settle.before) ∧
        (work.landed = none ∨ work.landed = some .applied ∨ work.landed = some .compensated ∨
          work.landed = some .failed ∨ work.landed = some .unknown) := by
      intro work member
      obtain ⟨-, place, before, -, called, replied, run⟩ := works.turns_of work member
      exact run.did.2.landed called replied
    have count : ∀ (result : FinalizeResult) (states : List (Option EffectState)),
        (∀ state, state = none ∨ state = some .applied ∨ state = some .compensated ∨
          state = some .failed ∨ state = some .unknown →
            (resultOf state = result ↔ states.contains state = true)) →
        resulted result turns = landings states turns := by
      intro result states agree
      unfold resulted landings
      refine List.countP_congr fun work member => ?_
      obtain ⟨reached, -, states⟩ := landed work member
      rw [decide_eq_true_eq, reached]
      exact agree _ states
    have applied := count .applied [some .applied, some .compensated] (by
      rintro _ (rfl | rfl | rfl | rfl | rfl) <;> decide)
    have refused := count .failed [some .failed] (by
      rintro _ (rfl | rfl | rfl | rfl | rfl) <;> decide)
    have unknown := count .manualReview [some .unknown] (by
      rintro _ (rfl | rfl | rfl | rfl | rfl) <;> decide)
    have superseded := count .superseded [none] (by
      rintro _ (rfl | rfl | rfl | rfl | rfl) <;> decide)
    unfold ProcessDueRequest.valid at valid
    rw [decide_eq_true_eq] at valid
    simp only [Int.zero_add] at claimed completed failed review
    rw [← applied, ← refused, ← unknown, ← superseded, same]
    refine ⟨fun work member => ?_, rfl, claimed, completed, failed, ?_, ?_, ?_, ?_⟩
    · obtain ⟨gave, place, before, -, called, -, -⟩ := works.turns_of work member
      exact ⟨gave, ⟨place, called⟩, (landed work member).2.1⟩
    · simp only
      omega
    · simp only
      omega
    · simp only
      omega
    · simp only [List.mem_cons, List.not_mem_nil, or_false]
      rintro _ (rfl | rfl | rfl | rfl | rfl) <;> omega

/-! ### A rehearsal -/

/-- A call whose turns take minutes: the first acts on an effect it has lost meanwhile, the second is refused. -/
def accountedCall : WorkerCall where
  request := ⟨5, 5⟩
  began := 100000000
  quarantineId index := Fin.ofNat _ (200 + index)
  turn index := {
    now := 100000002 + 200000000 * index
    utcNow := 100000002 + 200000000 * index
    fence := Fin.ofNat _ (300 + index)
    claimId := Fin.ofNat _ (400 + index)
    settledAt := 100000004 + 200000000 * index
    settleId := Fin.ofNat _ (500 + index)
    downstream := Rehearsal.refusing }
  ended := 600000000

/-- The creation of a saga is leased by one worker and abandoned. Then come the transactions of another worker's
call, with those of an operator and of a third worker between them. -/
def interferedScript : List Instruction := [
  .call (.start 0 Rehearsal.ids Rehearsal.input),
  Rehearsal.claim 1 101 21,
  .call (.quarantineExpired accountedCall.began "second" accountedCall.quarantineId 5),
  .call (.retry 100000001 31 (Rehearsal.retry "absent" 3 .confirmNotApplied)),
  .call ((accountedCall.turn 0).claim "second" 5),
  .call (.quarantineExpired 200000000 "third" (fun _ => 32) 1),
  .settle (accountedCall.turn 0).settledAt (accountedCall.turn 0).settleId "second" Rehearsal.refusing 4,
  .call (.retry 200000001 33 (Rehearsal.retry "still" 6 .confirmNotApplied)),
  .call ((accountedCall.turn 1).claim "second" 5),
  .settle (accountedCall.turn 1).settledAt (accountedCall.turn 1).settleId "second" Rehearsal.refusing 8,
  .call ((accountedCall.turn 2).claim "second" 5)]

/-- The replies of the call: a quarantined lease, a lost result, a refusal, and nothing more to claim. -/
def accounted (quarantine lost refused dry : Reply) : Bool :=
  match quarantine, lost, refused, dry with
  | .quarantined count, .finalized one, .finalized two, .claimed none =>
    count = 1 ∧ one = .superseded ∧ two = .failed
  | _, _, _, _ => false

theorem accounted_iff {quarantine lost refused dry : Reply} : accounted quarantine lost refused dry = true ↔
    quarantine = .quarantined 1 ∧ lost = .finalized .superseded ∧ refused = .finalized .failed ∧
      dry = .claimed none := by
  unfold accounted
  split
  · simp
  · rename_i other
    refine ⟨fun impossible => (by cases impossible), ?_⟩
    rintro ⟨rfl, rfl, rfl, rfl⟩
    exact (other _ _ _ rfl rfl rfl rfl).elim

/-- The entries of the run, with the replies of the call. -/
def interfered (history : List Committed) : Bool :=
  match history with
  | [_, _, quarantine, _, _, _, lost, _, _, refused, dry] =>
    accounted quarantine.reply lost.reply refused.reply dry.reply
  | _ => false

/-- **A call beside others**: it quarantines the abandoned lease; a third worker quarantines its own first lease
while it calls the service, so that result is superseded; its second result is recorded as a failure. -/
theorem interfered_amid : ∃ history quarantine turns response last,
    ProcessesAmid "second" accountedCall history quarantine turns response last ∧
      response.claimed = 2 ∧ response.completed = 0 ∧ response.failed = 1 ∧ response.manualReview = 1 ∧
        response.quarantined = 1 := by
  have plays : (play interferedScript [] Store.initial).isSome = true := by decide +kernel
  have entries : interfered (played interferedScript).1 = true := by decide +kernel
  obtain ⟨⟨history, store⟩, same⟩ := Option.isSome_iff_exists.mp plays
  have run : Run history store := run_of_play .start same
  obtain ⟨calls, shape, made⟩ := made_of_play same
  rw [show (played interferedScript).1 = history by unfold played; rw [same]; rfl, shape,
    List.nil_append] at entries
  rw [shape, List.nil_append] at run made
  unfold interfered at entries
  split at entries
  · rename_i start leased quarantine confirmed claim stolen lost again claim' refused dry
    simp only [interferedScript, List.forall₂_cons] at made
    obtain ⟨-, -, quarantined, -, claimed, -, ⟨first, record, listed, gave, settled⟩, -, claimed',
      ⟨second, record', listed', gave', settled'⟩, dried, -⟩ := made
    cases listed
    cases listed'
    obtain ⟨counted, superseded, failed, none⟩ := accounted_iff.mp entries
    have upTo : ∀ past entry rest, [start, leased, quarantine, confirmed, claim, stolen, lost, again, claim',
        refused, dry] = past ++ entry :: rest → Run (past ++ [entry]) entry.after := by
      intro past entry rest split
      rw [split] at run
      exact run.commit_of_mem.2.2.2
    have works : WorksAmid "second" 5 accountedCall.turn 4 0 ⟨0, 0, 0, 1⟩ [start, leased, quarantine]
        [⟨claim, record, lost, .superseded⟩, ⟨claim', record', refused, .failed⟩] ⟨2, 0, 1, 1⟩
        [start, leased, quarantine, confirmed, claim, stolen, lost, again, claim', refused, dry] := by
      refine .turn ⟨[confirmed], rfl⟩ (upTo _ _ _ rfl) claimed gave ⟨[stolen], rfl⟩ (upTo _ _ _ rfl)
        settled superseded ?_
      refine .turn ⟨[again], rfl⟩ (upTo _ _ _ rfl) claimed' gave' ⟨[], rfl⟩ (upTo _ _ _ rfl)
        settled' failed ?_
      exact .dry ⟨[], rfl⟩ (upTo _ _ _ rfl) dried none
    have amid : ProcessesAmid "second" accountedCall [start, leased] quarantine _ _ _ :=
      .intro (by decide) ⟨[], rfl⟩ (upTo _ _ _ rfl) quarantined counted works ⟨[], rfl⟩ run
    exact ⟨_, _, _, _, _, amid, rfl, rfl, rfl, rfl, rfl⟩
  · cases entries

/-- A call that works off the creation and the two grants of the rehearsed saga. -/
def quietCall : WorkerCall where
  request := ⟨5, 60⟩
  began := 10
  quarantineId index := Fin.ofNat _ (200 + index)
  turn index := {
    now := 20
    utcNow := 20
    fence := Fin.ofNat _ (300 + index)
    claimId := Fin.ofNat _ (400 + index)
    settledAt := 30
    settleId := Fin.ofNat _ (500 + index)
    downstream := Rehearsal.accepting }
  ended := 40

/-- **A call beside nobody**: three claims and three completions. -/
theorem quiet_amid : ∃ history quarantine turns response last,
    ProcessesAmid "worker" quietCall history quarantine turns response last ∧ response.claimed = 3 ∧
      response.completed = 3 := by
  have run : Run (played [.call (.start 0 Rehearsal.ids Rehearsal.input)]).1
      (played [.call (.start 0 Rehearsal.ids Rehearsal.input)]).2 := run_of_played (by decide +kernel)
  have counted : (match processDue "worker" quietCall
      (played [.call (.start 0 Rehearsal.ids Rehearsal.input)]).2 with
    | .ok (_, response, _) => decide (response.claimed = 3 ∧ response.completed = 3)
    | .error _ => false) = true := by decide +kernel
  cases ran : processDue "worker" quietCall
      (played [.call (.start 0 Rehearsal.ids Rehearsal.input)]).2 with
  | error failure =>
    rw [ran] at counted
    cases counted
  | ok result =>
    obtain ⟨committed, response, final⟩ := result
    rw [ran] at counted
    obtain ⟨quarantine, turns, amid⟩ := amid_of_processDue run ran
    exact ⟨_, quarantine, turns, response, _, amid, of_decide_eq_true counted⟩

/-- One effect superseded, one refused and one lease put in doubt beside others, and three effects completed
beside nobody. -/
theorem process_due_accounts_rehearsed :
    (∃ history quarantine turns response last,
      ProcessesAmid "second" accountedCall history quarantine turns response last ∧ turns.length = 2 ∧
        landings [none] turns = 1 ∧ landings [some .failed] turns = 1 ∧
          doubted quarantine.before quarantine.after = 1) ∧
    ∃ history quarantine turns response last,
      ProcessesAmid "worker" quietCall history quarantine turns response last ∧ turns.length = 3 ∧
        landings [some .applied, some .compensated] turns = 3 ∧ landings [none] turns = 0 := by
  constructor
  · obtain ⟨history, quarantine, turns, response, last, amid, claimed, completed, failed, review,
      quarantined⟩ := interfered_amid
    obtain ⟨-, -, doubts, taken, landed, refused, unknown, total, -, -⟩ := process_due_accounts amid
    exact ⟨history, quarantine, turns, response, last, amid, by omega, by omega, by omega, by omega⟩
  · obtain ⟨history, quarantine, turns, response, last, amid, claimed, completed⟩ := quiet_amid
    obtain ⟨-, -, -, taken, landed, refused, review, total, -, -⟩ := process_due_accounts amid
    exact ⟨history, quarantine, turns, response, last, amid, by omega, by omega, by omega⟩

end OrganizationProvisioning
