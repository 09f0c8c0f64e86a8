/-
**The worker's loop as a script.**

* `Works.each` — what every round keeps holds after the loop.
* `Works.stops` — the loop takes all its turns, or leaves no claimable saga.
* `Works.played` — a loop that takes all its turns is the script of its claims and settlements.
* `Works.all_taken` — turns enough for a tracked saga are all taken while every downstream call succeeds.
* `Advances`, `Saga.Begins.advances` — a started saga being worked off.
* `Advances.completed` — with no effect pending the saga is completed, all its planned effects claimed.
-/
import OrganizationProvisioning.Run.Script
import OrganizationProvisioning.Run.Service
import OrganizationProvisioning.Run.Starts
import OrganizationProvisioning.Saga.Instants

namespace OrganizationProvisioning

open Relational Transactional Worklist

/-- The instructions of a turn: a claim, and the settlement of the record it gives out. -/
def TurnInputs.script (turn : TurnInputs) (actor : String) (leaseSeconds : Int) (position : Nat) :
    List Instruction :=
  [.call (turn.claim actor leaseSeconds),
    .settle turn.settledAt turn.settleId actor turn.downstream position]

/-- A call that commits alone is what its instruction plays. -/
theorem CommitsAlone.played {entry : Committed} {history : List Committed}
    {instruction : Instruction} {script : List Instruction} (commits : CommitsAlone entry)
    (asked : eventOf history instruction = some entry.event) :
    play (instruction :: script) history entry.before =
      play script (history ++ [entry]) entry.after := by
  have ran : postgres.run computed entry.event.program entry.before =
      .ok (entry.reply, entry.after) := commits
  rw [play, asked]
  simp only [ran]

section Works

variable {actor : String} {leaseSeconds : Int} {turn : Nat → TurnInputs} {fuel index : Nat}
  {store final : Store} {calls history : List Committed}

/-- The calls of the loop have no key. -/
theorem Works.silent (works : Works actor leaseSeconds turn fuel index store calls final) :
    ∀ entry ∈ calls, entry.event.keyed = none := by
  induction works with
  | full => exact fun _ impossible => by cases impossible
  | dry asked _ _ =>
    intro entry member
    rw [List.mem_singleton.mp member, asked]
    rfl
  | turn asked _ _ _ asked' _ _ _ ih =>
    intro entry member
    rcases List.mem_cons.mp member with rfl | member
    · rw [asked]
      rfl
    · rcases List.mem_cons.mp member with rfl | member
      · rw [asked']
        rfl
      · exact ih entry member

/-- **What every round keeps holds after the loop.** -/
theorem Works.each (works : Works actor leaseSeconds turn fuel index store calls final)
    (run : Run history store) {Holds : Store → Prop}
    (kept : ∀ {past : List Committed} {claim settle : Committed} {record : EffectRecord}
      {index : Nat} {saga middle last : Saga}, Run (past ++ claim :: [settle]) settle.after →
      GaveOut record claim → Round claim settle record (executeEffect (turn index).downstream record)
        (turn index).now (turn index).settledAt saga middle last →
      Holds claim.before → Holds settle.after)
    (holds : Holds store) : Holds final := by
  induction works generalizing history with
  | full => exact holds
  | dry asked alone none =>
    rw [(dry_run run asked alone none).2]
    exact holds
  | turn asked alone gave next asked' alone' answered rest ih =>
    obtain ⟨run', saga, middle, last, round⟩ := turn_run run asked alone gave next asked' alone'
    refine ih run' (@kept history _ _ _ _ _ _ _ ?_ gave round holds)
    rwa [List.append_assoc] at run'

/-- **A round keeps what every update keeps** of the effects. -/
theorem Round.rows {claim settle : Committed} {record : EffectRecord} {outcome : EffectOutcome}
    {began ended : Timestamp} {saga middle last : Saga}
    (round : Round claim settle record outcome began ended saga middle last)
    {P : EffectRow → Prop} (kept : ∀ effect change, P effect → P (effect.set change))
    (holds : ∀ effect ∈ claim.before.effects.rows, P effect) :
    ∀ effect ∈ settle.after.effects.rows, P effect := by
  have leased := round.claims.rows (fun impossible => by cases impossible)
    (fun focus _ _ _ _ => kept focus _) holds
  exact round.settles.rows (fun impossible => by cases impossible)
    (fun focus _ _ _ _ => kept focus _) leased

theorem Works.claimed_le (works : Works actor leaseSeconds turn fuel index store calls final) :
    (claimed calls).length ≤ fuel := by
  induction works with
  | full => exact le_rfl
  | dry _ _ none => simp [claimed, none]
  | turn asked _ gave _ _ _ answered _ ih =>
    unfold GaveOut at gave
    unfold claimed at ih ⊢
    simp only [List.filterMap_cons, gave, answered, List.length_cons]
    omega

/-- **The loop takes all its turns, or leaves no claimable saga.** -/
theorem Works.stops (works : Works actor leaseSeconds turn fuel index store calls final)
    (run : Run history store) : (claimed calls).length = fuel ∨ final.first claimable = none := by
  induction works generalizing history with
  | full => exact Or.inl rfl
  | @dry fuel index claim asked alone none =>
    rw [(dry_run run asked alone none).2]
    unfold CommitsAlone at alone
    rw [asked] at alone
    obtain ⟨found, ran, same⟩ := of_alone_reply alone
    rw [none] at same
    cases same
    exact Or.inr ((claimNext_found ran).1.mp rfl)
  | turn asked alone gave next asked' alone' answered rest ih =>
    obtain ⟨run', -⟩ := turn_run run asked alone gave next asked' alone'
    refine (ih run').imp_left fun all => ?_
    unfold GaveOut at gave
    unfold claimed at all ⊢
    simp only [List.filterMap_cons, gave, answered, List.length_cons, all]

/-- **Turns enough for a tracked saga are all taken** while every call succeeds. -/
theorem Works.all_taken {id : Uuid} {cleanup : Bool} {planned : List Uuid}
    (works : Works actor leaseSeconds turn fuel index store calls final) (run : Run history store)
    (accepts : ∀ index, (turn index).downstream.Accepts) (tracks : Tracks id cleanup planned [] store)
    (few : fuel ≤ planned.length) : (claimed calls).length = fuel := by
  rcases works.stops run with all | idle
  · exact all
  · obtain ⟨saga, shows, coherent, tracked⟩ := works.tracks run accepts tracks
    have final := (works.run run).holds
    obtain ⟨order, -⟩ := tracked.rests ((first_claimable final.coherent).mp idle saga.row
      (Store.saga_found.mp shows.row).1)
    have taken : planned.length ≤ (claimed calls).length := by
      rw [← order, List.nil_append, claimedOf, List.length_map]
      exact List.length_filter_le _ _
    have most := works.claimed_le
    omega

/-- **A loop that takes all its turns is the script of its claims and settlements.** -/
theorem Works.played (works : Works actor leaseSeconds turn fuel index store calls final)
    (all : (claimed calls).length = fuel) (position : history.length = 2 * index + 1)
    (script : List Instruction) :
    play ((List.range' index fuel).flatMap (fun index =>
      (turn index).script actor leaseSeconds (2 * index + 1)) ++ script) history store =
        play script (history ++ calls) final := by
  induction works generalizing history with
  | full => rw [List.append_nil]; rfl
  | dry _ _ none =>
    simp [claimed, none] at all
  | @turn fuel index claim settle record result calls store asked alone gave next asked' alone'
      answered rest ih =>
    have others : (claimed calls).length = fuel := by
      unfold GaveOut at gave
      unfold claimed at all ⊢
      simp only [List.filterMap_cons, gave, answered, List.length_cons] at all
      omega
    have listed : (history ++ [claim])[2 * index + 1]? = some claim := by
      rw [← position, List.getElem?_concat_length]
    have claims : eventOf history (.call ((turn index).claim actor leaseSeconds)) =
        some claim.event := by
      rw [asked]
      rfl
    have settles : eventOf (history ++ [claim]) (.settle (turn index).settledAt
        (turn index).settleId actor (turn index).downstream (2 * index + 1)) =
          some settle.event := by
      dsimp only [eventOf]
      rw [listed, Option.bind_some, show claim.reply = .claimed (some record) from gave, asked']
      rfl
    have longer : ((history ++ [claim]) ++ [settle]).length = 2 * (index + 1) + 1 := by
      simp only [List.length_append, List.length_singleton]
      omega
    have later := ih others longer
    rw [List.append_assoc, List.append_assoc] at later
    rw [List.range'_succ, List.flatMap_cons, List.append_assoc]
    unfold TurnInputs.script
    rw [List.cons_append, alone.played claims, List.cons_append, ← next, alone'.played settles,
      List.append_assoc]
    exact later

end Works

/-! ### A saga worked off -/

/-- **A started saga being worked off**: the planned effects claimed so far, each by a round of two
steps. -/
def Advances (now : Timestamp) (ids : StartIds) (input : StartInput) (planned : List Uuid)
    (store : Store) : Prop :=
  ∃ sofar saga, Shows store input.provisioningId saga ∧ Coherent saga ∧
    Tracked false planned sofar saga ∧ saga.Follows now ids input ∧
    Dated saga.row saga.effects ∧ saga.row.revision = 1 + 2 * sofar.length

section Advances

variable {now : Timestamp} {ids : StartIds} {input : StartInput} {planned : List Uuid}
  {store : Store}

/-- At its start a saga waits for all its effects. -/
theorem Saga.Begins.tracked {saga : Saga} (begins : Saga.Begins now ids input saga) :
    Tracked false ((plannedEffects now ids input).map fun effect => effect.effectId) [] saga := by
  have waiting : saga.waiting = plannedEffects now ids input := by
    rw [Saga.waiting, Saga.phase, begins.row_eq, begins.mains_eq]
    refine List.filter_eq_self.mpr fun effect member => ?_
    rcases List.mem_cons.mp member with rfl | grant
    · rfl
    · obtain ⟨ordinal, _, rfl⟩ := List.mem_mapIdx.mp grant
      rfl
  refine ⟨?_, ?_, ?_⟩
  · rw [begins.row_eq]
    rfl
  · have some : plannedEffects now ids input ≠ [] := List.cons_ne_nil _ _
    rw [begins.row_eq, waiting, restStatus_pending some]
    rfl
  · rw [waiting, List.nil_append]

theorem Saga.Begins.advances {saga : Saga} (begins : Saga.Begins now ids input saga)
    (shows : Shows store input.provisioningId saga) (clock : now.Formats) :
    Advances now ids input ((plannedEffects now ids input).map fun effect => effect.effectId)
      store := by
  refine ⟨[], saga, shows, begins.coherent, begins.tracked, begins.follows, begins.dated clock, ?_⟩
  rw [begins.row_eq]
  rfl

/-- A round with a success advances a saga. -/
theorem Round.advances {claim settle : Committed} {record : EffectRecord} {outcome : EffectOutcome}
    {began ended : Timestamp} {saga middle last : Saga}
    (round : Round claim settle record outcome began ended saga middle last)
    (succeeds : outcome.succeeds = true) (began_formats : began.Formats)
    (ended_formats : ended.Formats) (advances : Advances now ids input planned claim.before) :
    Advances now ids input planned settle.after := by
  obtain ⟨sofar, saga', shows, coherent, tracked, follows, dated, revision⟩ := advances
  obtain ⟨final, shown, coherent', tracked'⟩ :=
    round.tracks succeeds ⟨saga', shows, coherent, tracked⟩
  refine ⟨_, final, shown, coherent', tracked', ?_⟩
  by_cases same : record.provisioningId = input.provisioningId
  · rw [← same] at shows shown
    obtain rfl := shows.unique coherent round.claims.shown round.claims.coherent
    obtain rfl := shown.unique coherent' round.settles.shows
      (round.settles.step.coherent round.settles.coherent)
    refine ⟨round.settles.step.follows (round.claims.step.follows follows),
      round.settles.step.dated ended_formats (round.claims.step.dated began_formats dated), ?_⟩
    rw [round.settles.step.revised, round.claims.step.revised, revision, if_pos same,
      List.length_append, List.length_singleton]
    push_cast
    ring
  · have different : input.provisioningId ≠ record.provisioningId := fun equal => same equal.symm
    have untouched := (Untouched.of_elsewhere round.claims.elsewhere different).trans
      (Untouched.of_elsewhere round.settles.elsewhere different)
    obtain rfl := shown.unique coherent' (untouched.shows shows) coherent
    rw [if_neg same, List.append_nil]
    exact ⟨follows, dated, revision⟩

/-- **With no effect pending the saga is completed**, all its planned effects claimed. -/
theorem Advances.completed (advances : Advances now ids input planned store)
    (idle : store.count .pending = 0) : ∃ saga, Shows store input.provisioningId saga ∧
      Coherent saga ∧ saga.Follows now ids input ∧ Dated saga.row saga.effects ∧
      saga.row.cleanupRequested = false ∧ saga.row.status = .completed ∧
      saga.row.revision = 1 + 2 * planned.length := by
  obtain ⟨sofar, saga, shows, coherent, tracked, follows, dated, revision⟩ := advances
  have ended : ¬ (saga.row.status = .pending ∨ saga.row.status = .cleanupPending) := by
    intro pending
    obtain ⟨effect, waits⟩ := List.exists_mem_of_ne_nil _ (coherent.waits pending).1
    obtain ⟨inside, state⟩ := List.mem_filter.mp waits
    have stored := Store.effect_found.mp (shows.stored (Coherent.phase_mem inside))
    exact List.countP_eq_zero.mp idle effect stored.1 state
  obtain ⟨all, status⟩ := tracked.rests (not_or.mp ended)
  rw [all] at revision
  exact ⟨saga, shows, coherent, follows, dated, tracked.requested, status, revision⟩

end Advances

end OrganizationProvisioning
