/-
**A worker whose services accept every request.**

* `Serves` — what such a worker does at one instant: quarantines, finalizations and claims that succeed.
* `Serves.rows`, `Serves.saga`, `Serves.ids` — what this keeps of the effects, of a saga and of the ids.
* `Supply` — new UUIDs; `exists_supply` — there are some while the tables have not used them up.
* `served` — with new UUIDs the worker's loop is such a service, and stops with nothing left to do.
-/
import OrganizationProvisioning.Run.Drain
import Mathlib.Data.Fintype.Card

namespace OrganizationProvisioning

open Relational Transactional Worklist

/-- **What holds of every effect keeps holding** when a turn keeps it. -/
theorem Moves.rows {P : EffectRow → Prop} {now : Timestamp} {transition : Transition} {id : Uuid}
    {before after : Store} {saga saga' : Saga} (moves : Moves now transition id before after saga saga')
    (turns : transition ≠ .cleanup)
    (written : ∀ focus ∈ before.effects.rows, ∀ {progress organization},
      Turn now focus transition progress organization → P focus → P (focus.set fun _ => progress))
    (holds : ∀ effect ∈ before.effects.rows, P effect) :
    ∀ effect ∈ after.effects.rows, P effect := by
  intro effect member
  obtain ⟨focus, progress, organization, others, turn, was, becomes⟩ := moves.replaces turns
  rcases List.mem_cons.mp (becomes.mem_iff.mp member) with rfl | other
  · have member := was.mem_iff.mpr List.mem_cons_self
    exact written focus member turn (holds focus member)
  · exact holds effect (was.mem_iff.mpr (List.mem_cons_of_mem _ other))

/-- A quarantine, or a finalization that succeeds. -/
def Transition.Settles : Transition → Prop
  | .quarantine _ => True
  | .finalize _ _ outcome => outcome.succeeds = true
  | _ => False

theorem Transition.Settles.turns {transition : Transition} (settles : transition.Settles) :
    transition ≠ .cleanup := by
  rintro rfl
  exact settles

/-- It leaves its effect in doubt or finished. -/
theorem Turn.settled {now : Timestamp} {effect : EffectRow} {transition : Transition}
    {progress : EffectProgress} {organization : Option (String × String)}
    (turn : Turn now effect transition progress organization) (settles : transition.Settles) :
    progress.state = .unknown ∨ progress.state = .applied ∨ progress.state = .compensated := by
  cases transition with
  | quarantine effectId =>
    obtain ⟨-, -, -, rfl⟩ := turn.of_quarantine
    exact Or.inl rfl
  | finalize effectId fence outcome =>
    obtain ⟨-, -, -, fits, rfl, -⟩ := turn.of_finalize
    rw [EffectOutcome.state_succeeds fits settles]
    cases effect.kind.isMain
    · exact Or.inr (Or.inr rfl)
    · exact Or.inr (Or.inl rfl)
  | claim | retry | cleanup => exact settles.elim

/-- **A worker at an instant**: quarantines, finalizations that succeed, and claims with them. -/
inductive Serves (now : Timestamp) : Store → Store → Prop
  | done (store : Store) : Serves now store store
  | settle {before middle after : Store} {id : Uuid} {transition : Transition} {saga saga' : Saga}
      (moves : Moves now transition id before middle saga saga') (settles : transition.Settles)
      (rest : Serves now middle after) : Serves now before after
  | round {claim settle : Committed} {record : EffectRecord} {outcome : EffectOutcome}
      {saga middle last : Saga} {after : Store}
      (round : Round claim settle record outcome now now saga middle last)
      (succeeds : outcome.succeeds = true) (rest : Serves now settle.after after) :
      Serves now claim.before after

namespace Serves

variable {now : Timestamp} {before middle after : Store} {id : Uuid}

theorem trans (one : Serves now before middle) (two : Serves now middle after) :
    Serves now before after := by
  induction one with
  | done store => exact two
  | settle moves settles _ ih => exact .settle moves settles (ih two)
  | round round succeeds _ ih => exact .round round succeeds (ih two)

/-- **What holds of every effect keeps holding**, when it holds of effects in doubt, applied or
compensated. -/
theorem rows {P : EffectRow → Prop} (serves : Serves now before after)
    (settled : ∀ effect : EffectRow, effect.state = .unknown ∨ effect.state = .applied ∨
      effect.state = .compensated → P effect) (holds : ∀ effect ∈ before.effects.rows, P effect) :
    ∀ effect ∈ after.effects.rows, P effect := by
  induction serves with
  | done store => exact holds
  | settle moves settles _ ih =>
    exact ih (moves.rows settles.turns
      (fun _ _ _ _ turn _ => settled _ (turn.settled settles)) holds)
  | @round claim settle record outcome saga middle last after round succeeds _ ih =>
    refine ih fun effect member => ?_
    obtain ⟨focus, progress, organization, others, turn, was, becomes⟩ :=
      round.claims.replaces (fun impossible => by cases impossible)
    obtain ⟨focus', progress', organization', others', turn', was', becomes'⟩ :=
      round.settles.replaces (fun impossible => by cases impossible)
    obtain ⟨claimed, -, -⟩ := turn.of_claim
    obtain ⟨finished, -⟩ := turn'.of_finalize
    rcases List.mem_cons.mp (becomes'.mem_iff.mp member) with rfl | other
    · exact settled _ (turn'.settled succeeds)
    · -- The claimed effect is the finalized one, so the others are as they were.
      have keys := (was'.map fun effect => effect.effectId).nodup_iff.mp claim.after.effects.unique
      have apart : effect.effectId ≠ focus'.effectId := by
        intro same
        rw [List.map_cons, List.nodup_cons, ← same] at keys
        exact keys.1 (List.mem_map_of_mem other)
      rcases List.mem_cons.mp (becomes.mem_iff.mp
        (was'.mem_iff.mpr (List.mem_cons_of_mem _ other))) with rfl | still
      · exact absurd (claimed.trans finished.symm) apart
      · exact holds effect (was.mem_iff.mpr (List.mem_cons_of_mem _ still))

/-- A move keeps what every step of its saga keeps. -/
theorem moves_saga {R : Saga → Prop} {transition : Transition} {moved : Uuid} {saga saga' : Saga}
    (moves : Moves now transition moved before after saga saga')
    (step : Coherent saga → Saga.Step now saga transition saga' → R saga → R saga')
    (holds : ∃ saga, Shows before id saga ∧ Coherent saga ∧ R saga) :
    ∃ saga, Shows after id saga ∧ Coherent saga ∧ R saga := by
  obtain ⟨shown, shows, coherent, holds⟩ := holds
  by_cases same : id = moved
  · subst same
    obtain rfl := shows.unique coherent moves.shown moves.coherent
    exact ⟨saga', moves.shows, moves.step.coherent coherent, step coherent moves.step holds⟩
  · exact ⟨shown, (Untouched.of_elsewhere moves.elsewhere same).shows shows, coherent, holds⟩

/-- **What every step keeps of a saga keeps holding.** -/
theorem saga {R : Saga → Prop} (serves : Serves now before after)
    (step : ∀ {transition : Transition} {saga saga' : Saga}, transition ≠ .cleanup →
      Coherent saga → Saga.Step now saga transition saga' → R saga → R saga')
    (holds : ∃ saga, Shows before id saga ∧ Coherent saga ∧ R saga) :
    ∃ saga, Shows after id saga ∧ Coherent saga ∧ R saga := by
  induction serves with
  | done store => exact holds
  | settle moves settles _ ih => exact ih (moves_saga moves (step settles.turns) holds)
  | round round succeeds _ ih =>
    exact ih (moves_saga round.settles (step (by exact fun same => by cases same))
      (moves_saga round.claims (step (by exact fun same => by cases same)) holds))

/-- A turn keeps the ids of the effects. -/
theorem moves_ids {transition : Transition} {moved : Uuid} {saga saga' : Saga}
    (moves : Moves now transition moved before after saga saga') (turns : transition ≠ .cleanup) :
    (after.effects.rows.map fun effect => effect.effectId).Perm
      (before.effects.rows.map fun effect => effect.effectId) := by
  obtain ⟨focus, progress, organization, others, -, was, becomes⟩ := moves.replaces turns
  exact (becomes.map fun effect => effect.effectId).trans
    (was.map fun effect => effect.effectId).symm

/-- **The effects keep their ids.** -/
theorem ids (serves : Serves now before after) :
    (after.effects.rows.map fun effect => effect.effectId).Perm
      (before.effects.rows.map fun effect => effect.effectId) := by
  induction serves with
  | done store => exact .refl _
  | settle moves settles _ ih => exact ih.trans (moves_ids moves settles.turns)
  | round round succeeds _ ih =>
    exact ih.trans ((moves_ids round.settles (by exact fun same => by cases same)).trans
      (moves_ids round.claims (by exact fun same => by cases same)))

end Serves

/-! ### The loop is a service -/

/-- A call of a worker at an instant, with services that accept. -/
def Event.Serves (now : Timestamp) : Event → Prop
  | .quarantineExpired began _ _ _ => began = now
  | .claimNext began _ _ _ _ _ => began = now
  | .finalizeEffect settled _ _ _ outcome => settled = now ∧ outcome.succeeds = true
  | _ => False

/-- The clock of a call stands still and its services accept every request. -/
structure WorkerCall.Serves (now : Timestamp) (call : WorkerCall) : Prop where
  began : call.began = now
  turns : ∀ index, (call.turn index).now = now ∧ (call.turn index).settledAt = now ∧
    (call.turn index).downstream.Accepts
  ended : call.ended = now

section Loop

variable {now : Timestamp} {actor : String} {leaseSeconds : Int} {turn : Nat → TurnInputs}
  {fuel index : Nat} {store final : Store} {calls committed history : List Committed}

theorem Quarantines.serves {count : Nat} {before after : Store}
    (chain : Quarantines now count before after) : Serves now before after := by
  induction chain with
  | done store => exact .done store
  | next moves _ _ _ _ ih => exact .settle moves trivial ih

/-- **The loop of `process_due` is a service.** -/
theorem Works.serves (works : Works actor leaseSeconds turn fuel index store calls final)
    (run : Run history store) (clock : ∀ index, (turn index).now = now ∧
      (turn index).settledAt = now ∧ (turn index).downstream.Accepts) :
    Serves now store final ∧ ∀ entry ∈ calls, CommitsAlone entry ∧ entry.event.Serves now := by
  induction works generalizing history with
  | full => exact ⟨.done _, fun _ impossible => by cases impossible⟩
  | @dry fuel index claim asked alone none =>
    refine ⟨?_, fun entry member => ?_⟩
    · rw [(dry_run run asked alone none).2]
      exact .done _
    · rw [List.mem_singleton.mp member, asked]
      exact ⟨alone, (clock index).1⟩
  | @turn fuel index claim settle record result calls store asked alone gave next asked' alone'
      answered rest ih =>
    obtain ⟨run', saga, middle, last, round⟩ :=
      turn_run run asked alone gave next asked' alone'
    obtain ⟨began, ended, accepts⟩ := clock index
    have claims : Run (history ++ claim :: [settle]) settle.after := by
      rwa [show history ++ claim :: [settle] = (history ++ [claim]) ++ [settle] by simp]
    have succeeds := succeeds_of_accepts claims gave accepts
    rw [began, ended] at round
    obtain ⟨serves, others⟩ := ih run'
    refine ⟨.round round succeeds serves, fun entry member => ?_⟩
    rcases List.mem_cons.mp member with rfl | later
    · rw [asked]
      exact ⟨alone, began⟩
    · rcases List.mem_cons.mp later with rfl | rest
      · rw [asked']
        exact ⟨alone', ended, succeeds⟩
      · exact others entry rest

variable {call : WorkerCall}

/-- So is a call of `process_due`. -/
theorem Processes.serves {quarantine : Committed} {count : Nat}
    (processes : Processes actor call quarantine count calls final)
    (run : Run history quarantine.before) (serves : call.Serves now) :
    Serves now quarantine.before final ∧
      ∀ entry ∈ quarantine :: calls, CommitsAlone entry ∧ entry.event.Serves now := by
  obtain ⟨run', chain⟩ := processes.quarantine_run run
  obtain ⟨worked, others⟩ := processes.works.serves run' serves.turns
  rw [serves.began] at chain
  refine ⟨chain.serves.trans worked, fun entry member => ?_⟩
  rcases List.mem_cons.mp member with rfl | later
  · rw [processes.asked]
    exact ⟨processes.alone, serves.began⟩
  · exact others entry later

/-- **So are calls that follow one another.** -/
theorem drain_serves {calls : List WorkerCall}
    {last : Option (WorkerCall × ProcessDueResponse)} (run : Run history store)
    (serves : ∀ call ∈ calls, WorkerCall.Serves now call)
    (ran : drain actor calls store = .ok (committed, last, final)) :
    Serves now store final ∧ ∀ entry ∈ committed, CommitsAlone entry ∧ entry.event.Serves now := by
  induction calls generalizing history store committed with
  | nil =>
    cases ran
    exact ⟨.done _, fun _ impossible => by cases impossible⟩
  | cons call calls ih =>
    obtain ⟨first, response, after, processed, more | stops⟩ := drain_cons ran
    · obtain ⟨-, others, rest, rfl⟩ := more
      obtain ⟨quarantine, count, works, rfl, rfl, processes, -⟩ := processes_of_processDue processed
      obtain ⟨one, entries⟩ := processes.serves run (serves call List.mem_cons_self)
      obtain ⟨two, entries'⟩ := ih (processes.run run)
        (fun call member => serves call (List.mem_cons_of_mem _ member)) rest
      refine ⟨one.trans two, fun entry member => ?_⟩
      rcases List.mem_append.mp member with early | late
      · exact entries entry early
      · exact entries' entry late
    · obtain ⟨-, rfl, rfl, rfl⟩ := stops
      obtain ⟨quarantine, count, works, rfl, rfl, processes, -⟩ := processes_of_processDue processed
      exact processes.serves run (serves call List.mem_cons_self)

/-- **The loop uses no ids but its own.** -/
theorem drain_unused {calls : List WorkerCall} {ids : List Uuid}
    {last : Option (WorkerCall × ProcessDueResponse)} (run : Run history store)
    (spare : Spare store) (unused : Unused store ids)
    (other : ∀ call ∈ calls, ∀ id ∈ WorkerCall.ids call, id ∉ ids)
    (ran : drain actor calls store = .ok (committed, last, final)) :
    Unused final ids := by
  induction calls generalizing history store committed with
  | nil =>
    cases ran
    exact unused
  | cons call calls ih =>
    obtain ⟨first, response, after, processed, more | stops⟩ := drain_cons ran
    · obtain ⟨-, others, rest, rfl⟩ := more
      obtain ⟨quarantine, count, works, rfl, rfl, processes, -⟩ := processes_of_processDue processed
      obtain ⟨spare', unused'⟩ :=
        processes.keeps run spare unused (other call List.mem_cons_self)
      exact ih (processes.run run) spare' unused'
        (fun call member => other call (List.mem_cons_of_mem _ member)) rest
    · obtain ⟨-, rfl, rfl, rfl⟩ := stops
      obtain ⟨quarantine, count, works, rfl, rfl, processes, -⟩ := processes_of_processDue processed
      exact (processes.keeps run spare unused (other call List.mem_cons_self)).2

end Loop

/-! ### New UUIDs -/

/-- **New UUIDs** for activities. -/
structure Supply (store : Store) (ids : List Uuid) : Prop where
  distinct : ids.Nodup
  activity : Unused store ids

/-- The tables have not used up so many UUIDs. -/
def Store.HasIds (store : Store) (count : Nat) : Prop :=
  store.activity.rows.length + store.effects.rows.length + count ≤ 2 ^ 128

/-- **There are new UUIDs** while the tables have not used them up. -/
theorem exists_supply {store : Store} {count : Nat} (room : store.HasIds count) :
    ∃ ids, ids.length = count ∧ Supply store ids ∧ ∀ id ∈ ids, store.effect id = none := by
  classical
  let used : List Uuid := (store.activity.rows.map fun row => row.activityId) ++
    store.effects.rows.map fun row => row.effectId
  have few : used.toFinset.card ≤ store.activity.rows.length + store.effects.rows.length := by
    refine (List.toFinset_card_le used).trans_eq ?_
    simp [used]
  have many : count ≤ (used.toFinset)ᶜ.card := by
    rw [Finset.card_compl, Fintype.card_fin]
    unfold Store.HasIds at room
    omega
  obtain ⟨chosen, inside, size⟩ := Finset.exists_subset_card_eq many
  have fresh : ∀ id ∈ chosen.toList, id ∉ used := by
    intro id member taken
    have outside := inside (Finset.mem_toList.mp member)
    rw [Finset.mem_compl, List.mem_toFinset] at outside
    exact outside taken
  refine ⟨chosen.toList, by rw [Finset.length_toList, size], ⟨chosen.nodup_toList, ?_⟩, ?_⟩
  · intro id member
    refine Table.find_eq_none.mpr fun row there same => fresh id member ?_
    exact List.mem_append_left _ (List.mem_map.mpr ⟨row, there, same⟩)
  · intro id member
    refine Table.find_eq_none.mpr fun row there same => fresh id member ?_
    exact List.mem_append_right _ (List.mem_map.mpr ⟨row, there, same⟩)

/-- Effects that keep their ids leave an id unused. -/
theorem effect_absent {store final : Store} {id : Uuid}
    (kept : (final.effects.rows.map fun effect => effect.effectId).Perm
      (store.effects.rows.map fun effect => effect.effectId)) (absent : store.effect id = none) :
    final.effect id = none := by
  refine Table.find_eq_none.mpr fun row there same => ?_
  have known : id ∈ store.effects.rows.map fun effect => effect.effectId :=
    kept.mem_iff.mp (List.mem_map.mpr ⟨row, there, same⟩)
  obtain ⟨effect, present, named⟩ := List.mem_map.mp known
  exact Table.find_eq_none.mp absent effect present named

theorem Supply.sublist {store : Store} {ids fewer : List Uuid} (supply : Supply store ids)
    (less : fewer.Sublist ids) : Supply store fewer :=
  ⟨supply.distinct.sublist less, supply.activity.mono less.subset⟩

/-- A call that uses one of them leaves the others. -/
theorem Supply.rest {entry : Committed} {activityId : Uuid} {ids : List Uuid}
    (supply : Supply entry.before (activityId :: ids)) (commits : CommitsAlone entry)
    (notes : ∀ id, entry.event.Notes id → id = activityId) : Supply entry.after ids := by
  obtain ⟨apart, distinct⟩ := List.nodup_cons.mp supply.distinct
  refine ⟨distinct, commits.unused (supply.activity.mono (List.subset_cons_self _ _))
    fun id member used => ?_⟩
  rw [notes id used] at member
  exact apart member

/-! ### Calls with new UUIDs -/

/-- Calls of a worker at an instant, with three ids each. -/
def serviceCalls (now : Timestamp) (downstream : Downstream) : List Uuid → List WorkerCall
  | quarantineId :: claimId :: settleId :: ids =>
    { request := ⟨1, 5⟩
      began := now
      quarantineId := fun _ => quarantineId
      turn := fun _ => ⟨now, now, claimId, claimId, now, settleId, downstream⟩
      ended := now } :: serviceCalls now downstream ids
  | _ => []

section Calls

variable {now : Timestamp} {downstream : Downstream}

theorem serviceCalls_ids (ids : List Uuid) :
    ((serviceCalls now downstream ids).flatMap WorkerCall.ids).Sublist ids := by
  fun_induction serviceCalls now downstream ids with
  | case1 quarantineId claimId settleId ids ih =>
    rw [List.flatMap_cons]
    exact ((List.Sublist.refl [quarantineId, claimId, settleId])).append ih
  | case2 ids short => exact List.nil_sublist _

theorem serviceCalls_length (ids : List Uuid) :
    ids.length ≤ 3 * (serviceCalls now downstream ids).length + 2 := by
  fun_induction serviceCalls now downstream ids with
  | case1 quarantineId claimId settleId ids ih =>
    simp only [List.length_cons]
    omega
  | case2 ids short =>
    rcases ids with _ | ⟨first, _ | ⟨second, _ | ⟨third, others⟩⟩⟩
    · exact Nat.zero_le _
    · exact Nat.le_of_ble_eq_true rfl
    · exact Nat.le_of_ble_eq_true rfl
    · exact absurd rfl (short first second third others)

/-- Each is a valid call at the instant. -/
theorem mem_serviceCalls {ids : List Uuid} {call : WorkerCall}
    (member : call ∈ serviceCalls now downstream ids) : call.request = ⟨1, 5⟩ ∧
      call.began = now ∧ call.ended = now ∧ ∀ index, (call.turn index).now = now ∧
        (call.turn index).utcNow = now ∧ (call.turn index).settledAt = now ∧
          (call.turn index).downstream = downstream := by
  fun_induction serviceCalls now downstream ids with
  | case1 quarantineId claimId settleId ids ih =>
    rcases List.mem_cons.mp member with rfl | later
    · exact ⟨rfl, rfl, rfl, fun _ => ⟨rfl, rfl, rfl, rfl⟩⟩
    · exact ih later
  | case2 ids short => cases member

end Calls

/-! ### A service that stops -/

/-- There are at most as many effects to work off as there are effects. -/
theorem count_le {store : Store} :
    store.count .pending + store.count .inFlight ≤ store.effects.rows.length := by
  unfold Store.count
  rw [List.length_eq_countP_add_countP fun effect : EffectRow => decide (effect.state = .pending)]
  refine Nat.add_le_add_left (List.countP_mono_left fun effect _ flying => ?_) _
  rw [of_decide_eq_true flying]
  rfl

/-- **With new UUIDs the worker serves until nothing is left to do.** -/
theorem served {history : List Committed} {store : Store} (run : Run history store)
    (spare : Spare store) {now : Timestamp} (lease : (leaseEnd now 5).isSome) {actor : String}
    {downstream : Downstream} (accepts : downstream.Accepts) {ids rest : List Uuid}
    (supply : Supply store (ids ++ rest))
    (enough : 3 * (store.effects.rows.length + 1) ≤ ids.length) :
    ∃ later last final, Run (history ++ later) final ∧ Serves now store final ∧
      (∀ entry ∈ later, CommitsAlone entry ∧ entry.event.Serves now) ∧
      hasMore now final = false ∧ Supply final rest ∧
      drain actor (serviceCalls now downstream ids) store = .ok (later, last, final) := by
  obtain ⟨distinct, -, apart⟩ := List.nodup_append'.mp supply.distinct
  have part : ((serviceCalls now downstream ids).flatMap WorkerCall.ids).Sublist ids :=
    serviceCalls_ids ids
  have runs : ∃ later last final,
      drain actor (serviceCalls now downstream ids) store = .ok (later, last, final) := by
    refine drain_runs run spare ?_ ?_ (distinct.sublist part)
      (supply.activity.mono fun id member => List.mem_append_left _ (part.subset member))
    · intro call member
      rw [ProcessDueRequest.valid, (mem_serviceCalls member).1]
      decide
    · intro call member index _
      rw [(mem_serviceCalls member).1, ((mem_serviceCalls member).2.2.2 index).2.1]
      exact lease
  obtain ⟨later, last, final, ran⟩ := runs
  have clock : ∀ call ∈ serviceCalls now downstream ids, WorkerCall.Serves now call := by
    intro call member
    obtain ⟨-, began, ended, turns⟩ := mem_serviceCalls member
    refine ⟨began, fun index => ⟨(turns index).1, (turns index).2.2.1, ?_⟩, ended⟩
    rw [(turns index).2.2.2]
    exact accepts
  obtain ⟨serves, entries⟩ := drain_serves run clock ran
  have stops : last ≠ none := by
    refine drain_stops run ?_ ?_ ran
    · refine List.pairwise_of_forall_mem_list fun first one second two => ?_
      rw [(clock first one).ended, (clock second two).began]
    · have counted : store.count .pending + store.count .inFlight ≤ store.effects.rows.length :=
        count_le
      have calls : ids.length ≤ 3 * (serviceCalls now downstream ids).length + 2 :=
        serviceCalls_length ids
      omega
  obtain ⟨⟨call, response⟩, rfl⟩ := Option.ne_none_iff_exists'.mp stops
  obtain ⟨member, -, idle⟩ := drain_last ran
  rw [(clock call member).ended] at idle
  refine ⟨later, _, final, drain_run run ran, serves, entries, idle, ⟨?_, ?_⟩, ran⟩
  · exact (List.nodup_append'.mp supply.distinct).2.1
  · refine drain_unused run spare (supply.activity.mono (List.subset_append_right _ _)) ?_ ran
    intro call member id own other
    have here : id ∈ (serviceCalls now downstream ids).flatMap WorkerCall.ids :=
      List.mem_flatMap.mpr ⟨call, member, own⟩
    exact apart (part.subset here) other
end OrganizationProvisioning
