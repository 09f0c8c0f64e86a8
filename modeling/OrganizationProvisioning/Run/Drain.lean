/-
**The worker's loop goes through and completes what it claims.**

* `WorkerCall.ids` — the activity ids a call of `process_due` may use.
* `work_runs`, `processDue_runs`, `drain_runs` — with new ids, leases that end in time and room for the
  attempts the loop returns.
* `Tracked` — a saga some of whose planned effects were claimed, the others waiting.
* `Works.tracks`, `drain_tracks` — while every downstream call succeeds, every pending saga stays tracked.
-/
import OrganizationProvisioning.Run.Loop
import OrganizationProvisioning.Run.Revisions
import OrganizationProvisioning.Run.Requests
import Mathlib.Data.List.Flatten

namespace OrganizationProvisioning

open Relational Transactional Worklist

/-! ### Ids -/

/-- The activity ids of some turns. -/
def turnIds (turn : Nat → TurnInputs) (index fuel : Nat) : List Uuid :=
  (List.range' index fuel).flatMap fun index => [(turn index).claimId, (turn index).settleId]

/-- The activity ids a call may use. -/
def WorkerCall.ids (call : WorkerCall) : List Uuid :=
  (List.range call.request.limit.toNat).map call.quarantineId ++
    turnIds call.turn 0 call.request.limit.toNat

/-- No activity has one of these ids. -/
def Unused (store : Store) (ids : List Uuid) : Prop :=
  ∀ id ∈ ids, store.activity.find id = none

instance (store : Store) (ids : List Uuid) : Decidable (Unused store ids) :=
  decidable_of_iff ((ids.all fun id => (store.activity.find id).isNone) = true)
    (by simp [Unused, List.all_eq_true])

theorem Unused.mono {store : Store} {ids fewer : List Uuid} (unused : Unused store ids)
    (subset : fewer ⊆ ids) : Unused store fewer :=
  fun id member => unused id (subset member)

/-- A call that commits alone leaves the ids it does not use unused. -/
theorem CommitsAlone.unused {entry : Committed} (commits : CommitsAlone entry) {ids : List Uuid}
    (unused : Unused entry.before ids) (other : ∀ id ∈ ids, ¬ entry.event.Notes id) :
    Unused entry.after ids :=
  fun id member => unused_of_commits commits.commit (unused id member) (other id member)

theorem turnIds_succ (turn : Nat → TurnInputs) (index fuel : Nat) :
    turnIds turn index (fuel + 1) =
      (turn index).claimId :: (turn index).settleId :: turnIds turn (index + 1) fuel := by
  simp [turnIds, List.range'_succ]

/-- Fewer turns use fewer ids. -/
theorem turnIds_sublist (turn : Nat → TurnInputs) (index : Nat) {fewer fuel : Nat}
    (less : fewer ≤ fuel) : (turnIds turn index fewer).Sublist (turnIds turn index fuel) :=
  (List.range'_sublist_right.mpr less).flatMap _

/-! ### Room for attempts -/

section Spare

variable {before after : Store} {now : Timestamp} {transition : Transition} {id : Uuid}
  {saga saga' : Saga}

/-- A turn that leaves its effect not pending keeps the room of the pending ones. -/
theorem Moves.spare (moves : Moves now transition id before after saga saga')
    (turns : transition ≠ .cleanup) (spare : Spare before)
    (landed : ∀ focus progress organization, Turn now focus transition progress organization →
      progress.state ≠ .pending) : Spare after := by
  obtain ⟨focus, progress, organization, others, turn, was, becomes⟩ := moves.replaces turns
  intro effect member pending
  rcases List.mem_cons.mp (becomes.mem_iff.mp member) with rfl | other
  · exact absurd pending (landed focus progress organization turn)
  · exact spare effect (was.mem_iff.mpr (List.mem_cons_of_mem _ other)) pending

theorem Moves.spare_claim {effectId fence : Uuid}
    (moves : Moves now (.claim effectId fence) id before after saga saga') (spare : Spare before) :
    Spare after := by
  refine moves.spare (fun impossible => by cases impossible) spare ?_
  intro focus progress organization turn
  obtain ⟨-, -, leaseUntil, rfl⟩ := turn.of_claim
  exact fun impossible => by cases impossible

theorem Moves.spare_settled {effectId fence : Uuid} {outcome : EffectOutcome}
    (moves : Moves now (.finalize effectId fence outcome) id before after saga saga')
    (spare : Spare before) : Spare after := by
  refine moves.spare (fun impossible => by cases impossible) spare ?_
  intro focus progress organization turn pending
  obtain ⟨-, -, -, fits, rfl, -⟩ := turn.of_finalize
  rcases outcome.state_write fits with state | state | state <;> rw [state] at pending
  · cases main : focus.kind.isMain <;> rw [main] at pending <;> cases pending
  · cases pending
  · cases pending

theorem Quarantines.spare {count : Nat} (chain : Quarantines now count before after)
    (spare : Spare before) : Spare after := by
  induction chain with
  | done store => exact spare
  | next moves _ _ _ _ ih =>
    refine ih (moves.spare (fun impossible => by cases impossible) spare ?_)
    intro focus progress organization turn
    obtain ⟨-, -, -, rfl⟩ := turn.of_quarantine
    exact fun impossible => by cases impossible

end Spare

/-! ### The loop returns -/

section Runs

variable {actor : String} {leaseSeconds : Int} {turn : Nat → TurnInputs} {fuel index : Nat}
  {store : Store} {history : List Committed} {counts : Counts}

/-- **A finalization right after its claim goes through.** -/
theorem settle_runs {claim : Committed} {record : EffectRecord}
    (run : Run (history ++ [claim]) claim.after) (gave : GaveOut record claim) {now : Timestamp}
    {activityId : Uuid} (fresh : claim.after.activity.find activityId = none) {outcome : EffectOutcome}
    (fits : outcome.fits record.kind = true) :
    ∃ result final, alone (finalizeEffect now activityId record actor outcome) claim.after =
      .ok (result, final) := by
  obtain ⟨began, leaseUntil, saga, _, _, effect, gives⟩ := run.did.2.gives gave
  have held : (claim.after.effect record.effectId).filter (fenced record.leaseToken) =
      some (effect.set (.leased began record.leaseToken leaseUntil)) := by
    rw [gives.leased]
    simp [fenced, EffectRow.set, EffectProgress.leased]
  obtain ⟨named, found, owner, -⟩ := run.holds.named claim (by simp) record gave
  have present := run.holds.owned.effects named (Store.effect_found.mp found).1
  rw [owner] at present
  obtain ⟨row, known⟩ := Option.isSome_iff_exists.mp present
  have commits : ∃ final, postgres.Commits (finalizeEffect now activityId record actor outcome)
      claim.after outcome.result final :=
    finalizeEffect_commits run.holds.checked known held fits fresh
      (run.revision_room (Store.saga_found.mp known).1) actor
  obtain ⟨final, committed⟩ := commits
  exact ⟨_, final, Certain.finalizeEffect.commits_iff.mp committed⟩

/-- **The loop of `process_due` returns.** -/
theorem work_runs (run : Run history store) (spare : Spare store)
    (lease : ∀ turns, index ≤ turns → turns < index + fuel →
      (leaseEnd (turn turns).utcNow leaseSeconds).isSome)
    (distinct : (turnIds turn index fuel).Nodup) (unused : Unused store (turnIds turn index fuel)) :
    ∃ calls counts' final, work actor leaseSeconds turn fuel index counts store =
      .ok (calls, counts', final) := by
  induction fuel generalizing index counts store history with
  | zero => exact ⟨_, _, _, rfl⟩
  | succ fuel ih =>
    rw [turnIds_succ] at distinct unused
    obtain ⟨claimFresh, others⟩ := List.nodup_cons.mp distinct
    obtain ⟨settleFresh, later⟩ := List.nodup_cons.mp others
    have fresh := unused (turn index).claimId List.mem_cons_self
    obtain ⟨found, leased, claimed⟩ := @claimNext_runs store (turn index).now (turn index).utcNow
      actor (turn index).fence (turn index).claimId leaseSeconds run.holds.coherent run.holds.checked
      spare (fun _ => run.revision_room) fresh (lease index le_rfl (by omega))
    rw [work]
    simp only [bind, Except.bind, claimed]
    cases found with
    | none => exact ⟨_, _, _, rfl⟩
    | some record =>
      generalize entry_eq : (⟨(turn index).claim actor leaseSeconds, store, .claimed (some record),
        leased⟩ : Committed) = claim
      have asked : claim.event = (turn index).claim actor leaseSeconds := by rw [← entry_eq]
      have gave : GaveOut record claim := by rw [← entry_eq, GaveOut]
      have alone : CommitsAlone claim := by
        rw [← entry_eq]
        exact alone_reply claimed .claimed
      have before : claim.before = store := by rw [← entry_eq]
      have after : claim.after = leased := by rw [← entry_eq]
      have run' : Run (history ++ [claim]) claim.after := by
        rw [← before] at run
        refine .commit run ?_ alone.commit
        rw [asked]
        trivial
      have kept : Unused claim.after ((turn index).settleId :: turnIds turn (index + 1) fuel) := by
        refine alone.unused ?_ ?_
        · rw [before]
          exact unused.mono (List.subset_cons_self _ _)
        · intro id member same
          rw [asked] at same
          rw [show id = (turn index).claimId from same] at member
          exact claimFresh member
      obtain ⟨result, settled, ran⟩ := @settle_runs actor history claim record run' gave
        (turn index).settledAt (turn index).settleId (kept _ List.mem_cons_self)
        (executeEffect (turn index).downstream record) (executeEffect_fits _ _)
      rw [after] at ran
      simp only [ran]
      generalize entry_eq' : (⟨(turn index).settle actor record, leased, .finalized result, settled⟩ :
        Committed) = settle
      have asked' : settle.event = (turn index).settle actor record := by rw [← entry_eq']
      have alone' : CommitsAlone settle := by
        rw [← entry_eq']
        exact alone_reply ran .finalized
      have next : settle.before = claim.after := by rw [← entry_eq', after]
      obtain ⟨run'', saga, middle, last, round⟩ :=
        turn_run (before ▸ run) asked alone gave next asked' alone'
      have spare' : Spare settle.after :=
        round.settles.spare_settled (round.claims.spare_claim (before ▸ spare))
      have unused' : Unused settle.after (turnIds turn (index + 1) fuel) := by
        refine alone'.unused ?_ ?_
        · rw [next]
          exact kept.mono (List.subset_cons_self _ _)
        · intro id member same
          rw [asked'] at same
          rw [show id = (turn index).settleId from same] at member
          exact settleFresh member
      have reached : settle.after = settled := by rw [← entry_eq']
      rw [reached] at run'' spare' unused'
      obtain ⟨calls, counts', final, rest⟩ := @ih (index + 1) settled _ (counts.add result) run'' spare'
        (fun turns low high => lease turns (by omega) (by omega)) later unused'
      simp only [rest]
      exact ⟨_, _, _, rfl⟩

/-- The turns of a loop use no ids but their own, and keep the room of the attempts. -/
theorem Works.keeps {final : Store} {calls : List Committed}
    (works : Works actor leaseSeconds turn fuel index store calls final) (run : Run history store)
    (spare : Spare store) {ids : List Uuid} (unused : Unused store ids)
    (other : ∀ id ∈ turnIds turn index fuel, id ∉ ids) : Spare final ∧ Unused final ids := by
  induction works generalizing history with
  | full => exact ⟨spare, unused⟩
  | dry asked alone none =>
    rw [(dry_run run asked alone none).2]
    exact ⟨spare, unused⟩
  | @turn fuel index claim settle record result calls store asked alone gave next asked' alone'
      answered rest ih =>
    rw [turnIds_succ] at other
    obtain ⟨run', saga, middle, last, round⟩ :=
      turn_run run asked alone gave next asked' alone'
    refine ih run' (round.settles.spare_settled (round.claims.spare_claim spare)) ?_
      fun id member => other id (List.mem_cons_of_mem _ (List.mem_cons_of_mem _ member))
    refine alone'.unused ?_ ?_
    · rw [next]
      refine alone.unused unused ?_
      intro id member same
      rw [asked] at same
      have here : id = (turn index).claimId := same
      rw [here] at member
      exact other _ List.mem_cons_self member
    · intro id member same
      rw [asked'] at same
      have here : id = (turn index).settleId := same
      rw [here] at member
      exact other _ (List.mem_cons_of_mem _ List.mem_cons_self) member

variable {call : WorkerCall}

/-- What the environment gives a call: a lease that ends within the range of instants. -/
def WorkerCall.LeasesEnd (call : WorkerCall) : Prop :=
  ∀ index < call.request.limit.toNat,
    (leaseEnd (call.turn index).utcNow call.request.leaseSeconds).isSome

/-- **A call of `process_due` returns.** -/
theorem processDue_runs (run : Run history store) (spare : Spare store)
    (valid : call.request.valid = true) (lease : call.LeasesEnd) (distinct : call.ids.Nodup)
    (unused : Unused store call.ids) :
    ∃ committed response final, processDue actor call store = .ok (committed, response, final) := by
  obtain ⟨distinctFirst, distinctTurns, apart⟩ := List.nodup_append'.mp distinct
  have fresh : ∀ index < call.request.limit.toNat,
      store.activity.find (call.quarantineId index) = none := fun index small =>
    unused _ (List.mem_append_left _ (List.mem_map.mpr ⟨index, List.mem_range.mpr small, rfl⟩))
  obtain ⟨count, reviewed, quarantined⟩ := @quarantineLoop_runs store call.began actor
    call.quarantineId call.request.limit.toNat 0 run.holds.checked
    (fun _ member _ => run.revision_room member) (fun index _ small => fresh index (by omega))
    (fun first second less small same => by
      have inj := List.inj_on_of_nodup_map distinctFirst (List.mem_range.mpr (by omega))
        (List.mem_range.mpr (by omega)) same
      omega)
  generalize entry_eq : (⟨.quarantineExpired call.began actor call.quarantineId call.request.limit,
    store, .quarantined count, reviewed⟩ : Committed) = quarantine
  have asked : quarantine.event =
    .quarantineExpired call.began actor call.quarantineId call.request.limit := by rw [← entry_eq]
  have answered : quarantine.reply = .quarantined count := by rw [← entry_eq]
  have commits : CommitsAlone quarantine := by
    rw [← entry_eq]
    exact alone_reply quarantined .quarantined
  have before : quarantine.before = store := by rw [← entry_eq]
  have after : quarantine.after = reviewed := by rw [← entry_eq]
  obtain ⟨run', chain⟩ := quarantine_run (before ▸ run) asked commits answered
  have unused' : Unused quarantine.after (turnIds call.turn 0 call.request.limit.toNat) := by
    refine commits.unused ?_ ?_
    · rw [before]
      exact unused.mono (List.subset_append_right _ _)
    · intro id member same
      rw [asked] at same
      obtain ⟨index, small, rfl⟩ := same
      exact apart (List.mem_map.mpr ⟨index, List.mem_range.mpr small, rfl⟩) member
  have spare' := chain.spare (before ▸ spare)
  rw [after] at run' unused' spare'
  have fewer : (call.request.limit - count).toNat ≤ call.request.limit.toNat := by omega
  have part := turnIds_sublist call.turn 0 fewer
  obtain ⟨calls, counts, final, worked⟩ := @work_runs actor call.request.leaseSeconds call.turn
    (call.request.limit - count).toNat 0 reviewed _ ⟨0, 0, 0, count⟩ run' spare'
    (fun index _ small => lease index (by omega)) (distinctTurns.sublist part)
    (unused'.mono part.subset)
  have quarantined' : alone (quarantineExpired call.began actor call.quarantineId
    call.request.limit) store = .ok (count, reviewed) := quarantined
  unfold processDue
  simp only [valid, Bool.not_true, Bool.false_eq_true, if_false, bind, Except.bind, quarantined',
    Except.mapError, worked]
  exact ⟨_, _, _, rfl⟩

/-- A call uses no ids but its own, and keeps the room of the attempts. -/
theorem Processes.keeps {quarantine : Committed} {count : Nat} {calls : List Committed}
    {final : Store} (processes : Processes actor call quarantine count calls final)
    (run : Run history quarantine.before) (spare : Spare quarantine.before) {ids : List Uuid}
    (unused : Unused quarantine.before ids) (other : ∀ id ∈ call.ids, id ∉ ids) :
    Spare final ∧ Unused final ids := by
  obtain ⟨run', chain⟩ := processes.quarantine_run run
  have fewer : (call.request.limit - count).toNat ≤ call.request.limit.toNat := by omega
  refine processes.works.keeps run' (chain.spare spare) ?_ ?_
  · refine processes.alone.unused unused ?_
    intro id member same
    rw [processes.asked] at same
    obtain ⟨index, small, rfl⟩ := same
    refine other _ (List.mem_append_left _ ?_) member
    exact List.mem_map.mpr ⟨index, List.mem_range.mpr small, rfl⟩
  · intro id member
    exact other id (List.mem_append_right _ ((turnIds_sublist _ _ fewer).subset member))

/-- **The loop returns**, as long as it has calls. -/
theorem drain_runs {calls : List WorkerCall} (run : Run history store) (spare : Spare store)
    (valid : ∀ call ∈ calls, call.request.valid = true)
    (lease : ∀ call ∈ calls, WorkerCall.LeasesEnd call)
    (distinct : (calls.flatMap WorkerCall.ids).Nodup)
    (unused : Unused store (calls.flatMap WorkerCall.ids)) :
    ∃ committed last final, drain actor calls store = .ok (committed, last, final) := by
  induction calls generalizing store history with
  | nil => exact ⟨_, _, _, rfl⟩
  | cons call calls ih =>
    rw [List.flatMap_cons] at distinct unused
    obtain ⟨own, others, apart⟩ := List.nodup_append'.mp distinct
    have first : ∃ committed response after,
        processDue actor call store = .ok (committed, response, after) :=
      processDue_runs run spare (valid call List.mem_cons_self) (lease call List.mem_cons_self) own
        (unused.mono (List.subset_append_left _ _))
    obtain ⟨committed, response, after, processed⟩ := first
    rw [drain]
    simp only [bind, Except.bind, processed]
    cases more : response.hasMore with
    | false => exact ⟨_, _, _, rfl⟩
    | true =>
      obtain ⟨quarantine, count, works, rfl, rfl, processes, -⟩ := processes_of_processDue processed
      obtain ⟨spare', unused'⟩ := processes.keeps run spare
        (unused.mono (List.subset_append_right _ _)) fun id member => apart member
      obtain ⟨committed', last, final, rest⟩ := ih (processes.run run) spare'
        (fun call member => valid call (List.mem_cons_of_mem _ member))
        (fun call member => lease call (List.mem_cons_of_mem _ member)) others unused'
      simp only [if_true, rest]
      exact ⟨_, _, _, rfl⟩

end Runs

/-! ### Sagas that are drained -/

/-- The services accept every request. -/
structure Downstream.Accepts (downstream : Downstream) : Prop where
  createOrganization : ∀ request, ∃ response, downstream.createOrganization request = .ok response
  putGrant : ∀ request, ∃ response, downstream.putGrant request = .ok response
  revokeGrant : ∀ request, ∃ response, downstream.revokeGrant request = .ok response

theorem Downstream.Accepts.succeeds {downstream : Downstream} (accepts : downstream.Accepts)
    (request : DownstreamRequest) : (downstream.outcome request).succeeds = true := by
  unfold Downstream.outcome
  cases request with
  | createOrganization request =>
    obtain ⟨response, ok⟩ := accepts.createOrganization request
    simp only [ok]
    rfl
  | putGrant request =>
    obtain ⟨response, ok⟩ := accepts.putGrant request
    simp only [ok]
    rfl
  | revokeGrant request =>
    obtain ⟨response, ok⟩ := accepts.revokeGrant request
    simp only [ok]
    rfl

/-- **A saga in the middle of its phase**: of its planned effects some were claimed and the others
wait. -/
structure Tracked (cleanup : Bool) (planned sofar : List Uuid) (saga : Saga) : Prop where
  requested : saga.row.cleanupRequested = cleanup
  status : saga.row.status = restStatus cleanup saga.waiting
  order : sofar ++ saga.waiting.map (fun effect => effect.effectId) = planned

/-- The effects of a saga claimed by some calls. -/
def claimedOf (id : Uuid) (calls : List Committed) : List Uuid :=
  ((claimed calls).filter fun record => record.provisioningId = id).map fun record => record.effectId

theorem claimedOf_append (id : Uuid) (first second : List Committed) :
    claimedOf id (first ++ second) = claimedOf id first ++ claimedOf id second := by
  unfold claimedOf
  rw [claimed_append, List.filter_append, List.map_append]

section Track

variable {actor : String} {leaseSeconds : Int} {turn : Nat → TurnInputs} {fuel index : Nat}
  {store final : Store} {calls history : List Committed} {id : Uuid} {saga : Saga} {cleanup : Bool}
  {planned sofar : List Uuid}

/-- The status of a tracked saga. -/
theorem Tracked.statuses (tracked : Tracked cleanup planned sofar saga) :
    saga.row.status = (if cleanup then .cleanupPending else .pending) ∨
      saga.row.status = (if cleanup then .cleanupCompleted else .completed) := by
  rw [tracked.status]
  by_cases none : saga.waiting = []
  · rw [none, restStatus_nil]
    exact Or.inr rfl
  · rw [restStatus_pending none]
    exact Or.inl rfl

/-- **A tracked saga that is not pending has ended its phase**, each planned effect claimed. -/
theorem Tracked.rests (tracked : Tracked cleanup planned sofar saga)
    (open_ : saga.row.status ≠ .pending ∧ saga.row.status ≠ .cleanupPending) :
    sofar = planned ∧
      saga.row.status = if cleanup then .cleanupCompleted else .completed := by
  have none : saga.waiting = [] := by
    by_contra some
    have status := tracked.status
    rw [restStatus_pending some] at status
    rw [status] at open_
    cases cleanup
    · exact open_.1 rfl
    · exact open_.2 rfl
  have order := tracked.order
  rw [none, List.map_nil, List.append_nil] at order
  refine ⟨order, ?_⟩
  rw [tracked.status, none, restStatus_nil]

/-- A saga shown before and after, tracked with the effects claimed in between. -/
def Tracks (id : Uuid) (cleanup : Bool) (planned sofar : List Uuid) (store : Store) : Prop :=
  ∃ saga, Shows store id saga ∧ Coherent saga ∧ Tracked cleanup planned sofar saga

/-- **A quarantine passes over tracked sagas.** -/
theorem Quarantines.tracks {now : Timestamp} {count : Nat} {before after : Store}
    (chain : Quarantines now count before after) (tracks : Tracks id cleanup planned sofar before) :
    Tracks id cleanup planned sofar after := by
  obtain ⟨saga, shows, coherent, tracked⟩ := tracks
  rcases chain.fate id with untouched | ⟨effect, other, saga', -, shown, coherent', step, -⟩
  · exact ⟨saga, untouched.shows shows, coherent, tracked⟩
  · have same := shows.unique coherent shown coherent'
    subst same
    have edge := step.edge coherent
    rw [tracked.requested] at edge
    rcases tracked.statuses with status | status <;> rw [status] at edge <;>
      cases cleanup <;> simp [edges] at edge

/-- **A round with a success claims the next effect that waits.** -/
theorem Round.tracks {claim settle : Committed} {record : EffectRecord} {outcome : EffectOutcome}
    {began ended : Timestamp} {saga middle last : Saga}
    (round : Round claim settle record outcome began ended saga middle last)
    (succeeds : outcome.succeeds = true) (tracks : Tracks id cleanup planned sofar claim.before) :
    Tracks id cleanup planned
      (sofar ++ if record.provisioningId = id then [record.effectId] else []) settle.after := by
  obtain ⟨shown, shows, coherent, tracked⟩ := tracks
  by_cases same : record.provisioningId = id
  · subst same
    have here := shows.unique coherent round.claims.shown round.claims.coherent
    subst here
    obtain ⟨effect, named, first, requested⟩ := round.claims.step.claim_waiting
    obtain ⟨others, requested', status⟩ := round.settles.step.settle_waiting round.settles.coherent
    refine ⟨last, round.settles.shows, round.settles.step.coherent round.settles.coherent, ?_⟩
    rw [if_pos rfl]
    refine ⟨?_, ?_, ?_⟩
    · rw [requested', requested, tracked.requested]
    · rw [status succeeds, requested, tracked.requested]
    · rw [others, ← tracked.order, first, ← named]
      simp
  · rw [if_neg same, List.append_nil]
    have different : id ≠ record.provisioningId := fun equal => same equal.symm
    have untouched := (Untouched.of_elsewhere round.claims.elsewhere different).trans
      (Untouched.of_elsewhere round.settles.elsewhere different)
    exact ⟨shown, untouched.shows shows, coherent, tracked⟩

/-- An accepting service makes the effect of a claim succeed. -/
theorem succeeds_of_accepts {past rest : List Committed} {claim : Committed} {record : EffectRecord}
    {downstream : Downstream} (run : Run (past ++ claim :: rest) final) (gave : GaveOut record claim)
    (accepts : downstream.Accepts) : (executeEffect downstream record).succeeds = true := by
  obtain ⟨_, _, _, _, _, _, gives⟩ := run.did.2.gives gave
  obtain ⟨request, asks⟩ := gives.request run.did.1.checked
  rw [executeEffect_eq, asks]
  exact accepts.succeeds request

/-- **While every call succeeds the loop keeps sagas tracked.** -/
theorem Works.tracks (works : Works actor leaseSeconds turn fuel index store calls final)
    (run : Run history store) (accepts : ∀ index, (turn index).downstream.Accepts)
    (tracks : Tracks id cleanup planned sofar store) :
    Tracks id cleanup planned (sofar ++ claimedOf id calls) final := by
  induction works generalizing history sofar with
  | full => simpa [claimedOf, claimed] using tracks
  | dry asked alone none =>
    rw [(dry_run run asked alone none).2]
    simpa [claimedOf, claimed, none] using tracks
  | @turn fuel index claim settle record result calls store asked alone gave next asked' alone'
      answered rest ih =>
    obtain ⟨run', saga, middle, last, round⟩ :=
      turn_run run asked alone gave next asked' alone'
    have claims : Run (history ++ claim :: [settle]) settle.after := by
      rwa [show history ++ claim :: [settle] = (history ++ [claim]) ++ [settle] by simp]
    have succeeds := succeeds_of_accepts claims gave (accepts index)
    have tracked := ih run' (round.tracks succeeds tracks)
    have split : claimedOf id (claim :: settle :: calls) =
        (if record.provisioningId = id then [record.effectId] else []) ++ claimedOf id calls := by
      unfold GaveOut at gave
      unfold claimedOf claimed
      by_cases same : record.provisioningId = id <;> simp [gave, answered, same]
    rwa [split, ← List.append_assoc]

/-- **So do the calls that follow one another.** -/
theorem drain_tracks {calls : List WorkerCall} {committed : List Committed}
    {last : Option (WorkerCall × ProcessDueResponse)} (run : Run history store)
    (accepts : ∀ call ∈ calls, ∀ index, (WorkerCall.turn call index).downstream.Accepts)
    (tracks : Tracks id cleanup planned sofar store)
    (ran : drain actor calls store = .ok (committed, last, final)) :
    Tracks id cleanup planned (sofar ++ claimedOf id committed) final := by
  induction calls generalizing history store committed sofar with
  | nil =>
    cases ran
    simpa [claimedOf, claimed] using tracks
  | cons call calls ih =>
    have one : ∀ {quarantine : Committed} {count : Nat} {works : List Committed} {after : Store},
        Processes actor call quarantine count works after → Run history quarantine.before →
        Tracks id cleanup planned sofar quarantine.before →
        Tracks id cleanup planned (sofar ++ claimedOf id (quarantine :: works)) after := by
      intro quarantine count works after processes run tracks
      obtain ⟨run', chain⟩ := processes.quarantine_run run
      have skip : claimedOf id (quarantine :: works) = claimedOf id works := by
        simp [claimedOf, claimed, processes.answered]
      rw [skip]
      exact processes.works.tracks run' (accepts call List.mem_cons_self) (chain.tracks tracks)
    obtain ⟨first, response, after, processed, more | stops⟩ := drain_cons ran
    · obtain ⟨-, others, rest, rfl⟩ := more
      obtain ⟨quarantine, count, works, rfl, rfl, processes, -⟩ := processes_of_processDue processed
      rw [claimedOf_append, ← List.append_assoc]
      exact ih (processes.run run) (fun call member => accepts call (List.mem_cons_of_mem _ member))
        (one processes run tracks) rest
    · obtain ⟨-, rfl, rfl, rfl⟩ := stops
      obtain ⟨quarantine, count, works, rfl, rfl, processes, -⟩ := processes_of_processDue processed
      exact one processes run tracks

end Track

/-! ### The pending effects of a saga -/

/-- The pending effects of a saga, in the order of its steps. -/
def Store.pendingSteps (store : Store) (id : Uuid) : List Uuid :=
  ((store.stepsOf id).filter fun effect => decide (effect.state = .pending)).map
    fun effect => effect.effectId

/-- **They are the effects that wait in its phase.** -/
theorem pendingSteps_eq {store : Store} {id : Uuid} {saga : Saga} (shows : Shows store id saga)
    (coherent : Coherent saga) :
    store.pendingSteps id = saga.waiting.map fun effect => effect.effectId := by
  have relevant_of_pending : ∀ effect ∈ saga.effects, effect.state = .pending →
      relevant saga.row.cleanupRequested effect = true := by
    intro effect member pending
    unfold relevant
    rcases List.mem_append.mp member with main | revoke
    · cases requested : saga.row.cleanupRequested with
      | false => simp [coherent.main_kind main]
      | true =>
        rcases coherent.settled_state requested main with state | state | state <;>
          rw [state] at pending <;> cases pending
    · cases requested : saga.row.cleanupRequested with
      | false =>
        rw [coherent.unrequested requested] at revoke
        cases revoke
      | true => simp [coherent.revoke_kind revoke]
  unfold Store.pendingSteps Store.stepsOf Saga.waiting
  rw [shows.effects, coherent.orderBy_effects, ← coherent.relevant_phase, List.filter_filter]
  congr 1
  refine List.filter_congr fun effect member => ?_
  by_cases pending : effect.state = .pending
  · simp [pending, relevant_of_pending effect member pending]
  · simp [pending]

/-- The saga of a pending row is tracked from the start. -/
theorem tracks_of_pending {store : Store} {row : SagaRow} (all : AllCoherent store)
    (member : row ∈ store.sagas.rows) (pending : row.status = .pending ∨ row.status = .cleanupPending) :
    Tracks row.provisioningId (decide (row.status = .cleanupPending))
      (store.pendingSteps row.provisioningId) [] store := by
  have present : store.saga row.provisioningId = some row := Store.saga_found.mpr ⟨member, rfl⟩
  obtain ⟨saga, shows, coherent⟩ := all _ row present
  have same : saga.row = row := Option.some.inj (shows.row.symm.trans present)
  rw [← same] at pending
  obtain ⟨some, status⟩ := coherent.waits pending
  have phase : saga.row.cleanupRequested = decide (row.status = .cleanupPending) := by
    rw [restStatus_pending some] at status
    rw [← same, status]
    cases saga.row.cleanupRequested <;> rfl
  refine ⟨saga, shows, coherent, phase, ?_, ?_⟩
  · rw [← phase]
    exact status
  · rw [pendingSteps_eq shows coherent]
    rfl

end OrganizationProvisioning
