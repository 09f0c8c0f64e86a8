/-
**`process_due` beside other callers.**

Other workers and operators may commit between any two transactions of a call.

* `WorkTurn` — one turn of the loop: a claim that gave out an effect, and its finalization.
* `WorksAmid`, `ProcessesAmid` — the loop and a whole call, as entries of a run with any others between.
* `amid_of_processDue` — a call that runs alone is such a call.
* `ProcessesAmid.sublist` — its own entries are part of the run.
-/
import OrganizationProvisioning.Run.Loop

namespace OrganizationProvisioning

open Relational Transactional

/-- One turn of the loop: a claim that gave out an effect, and its finalization. -/
structure WorkTurn where
  claim : Committed
  record : EffectRecord
  settle : Committed
  result : FinalizeResult

/-- The entries of a turn. -/
def WorkTurn.entries (work : WorkTurn) : List Committed := [work.claim, work.settle]

/-- **The loop of `process_due` beside others**: before each of its transactions the history may have
grown. -/
inductive WorksAmid (actor : String) (leaseSeconds : Int) (turn : Nat → TurnInputs) :
    Nat → Nat → Counts → List Committed → List WorkTurn → Counts → List Committed → Prop
  | full {index : Nat} {counts : Counts} {history : List Committed} :
      WorksAmid actor leaseSeconds turn 0 index counts history [] counts history
  | dry {fuel index : Nat} {counts : Counts} {history past : List Committed} {claim : Committed}
      (grown : history <+: past) (run : Run (past ++ [claim]) claim.after)
      (asked : claim.event = (turn index).claim actor leaseSeconds)
      (none : claim.reply = .claimed none) :
      WorksAmid actor leaseSeconds turn (fuel + 1) index counts history [] counts (past ++ [claim])
  | turn {fuel index : Nat} {counts counts' : Counts} {history past past' last : List Committed}
      {work : WorkTurn} {turns : List WorkTurn}
      (grown : history <+: past) (claimed : Run (past ++ [work.claim]) work.claim.after)
      (asked : work.claim.event = (turn index).claim actor leaseSeconds)
      (gave : work.claim.reply = .claimed (some work.record))
      (grown' : past ++ [work.claim] <+: past')
      (settled : Run (past' ++ [work.settle]) work.settle.after)
      (asked' : work.settle.event = (turn index).settle actor work.record)
      (answered : work.settle.reply = .finalized work.result)
      (rest : WorksAmid actor leaseSeconds turn fuel (index + 1) (counts.add work.result)
        (past' ++ [work.settle]) turns counts' last) :
      WorksAmid actor leaseSeconds turn (fuel + 1) index counts history (work :: turns) counts' last

/-- **A call of `process_due` beside others**, with its quarantine, its turns and its response. -/
inductive ProcessesAmid (actor : String) (call : WorkerCall) (history : List Committed) :
    Committed → List WorkTurn → ProcessDueResponse → List Committed → Prop
  | intro {past worked last : List Committed} {quarantine : Committed} {quarantined : Nat}
      {turns : List WorkTurn} {counts : Counts} {store : Store} (valid : call.request.valid = true)
      (grown : history <+: past) (reviewed : Run (past ++ [quarantine]) quarantine.after)
      (asked : quarantine.event =
        .quarantineExpired call.began actor call.quarantineId call.request.limit)
      (answered : quarantine.reply = .quarantined quarantined)
      (works : WorksAmid actor call.request.leaseSeconds call.turn
        (call.request.limit - quarantined).toNat 0 ⟨0, 0, 0, quarantined⟩ (past ++ [quarantine]) turns
        counts worked)
      (grown' : worked <+: last) (looked : Run last store) :
      ProcessesAmid actor call history quarantine turns ⟨counts.claimed, counts.completed,
        counts.failed, counts.manualReview, quarantined, hasMore call.ended store⟩ last

section Own

variable {actor : String} {leaseSeconds : Int} {turn : Nat → TurnInputs} {fuel index : Nat}
  {counts counts' : Counts} {history last : List Committed} {turns : List WorkTurn} {call : WorkerCall}
  {quarantine : Committed} {response : ProcessDueResponse}

/-- The loop takes at most as many turns as it may. -/
theorem WorksAmid.length_le
    (works : WorksAmid actor leaseSeconds turn fuel index counts history turns counts' last) :
    turns.length ≤ fuel := by
  induction works with
  | full | dry => exact Nat.zero_le _
  | turn _ _ _ _ _ _ _ _ _ ih => exact Nat.succ_le_succ ih

/-- The entries of the loop come after the history, in order. -/
theorem WorksAmid.sublist
    (works : WorksAmid actor leaseSeconds turn fuel index counts history turns counts' last) :
    ∃ later, last = history ++ later ∧ (turns.flatMap WorkTurn.entries).Sublist later := by
  induction works with
  | full => exact ⟨[], (List.append_nil _).symm, List.Sublist.refl _⟩
  | dry grown =>
    obtain ⟨between, rfl⟩ := grown
    exact ⟨_, List.append_assoc _ _ _, List.nil_sublist _⟩
  | @turn _ _ _ _ history _ _ _ work turns grown _ _ _ grown' _ _ _ _ ih =>
    obtain ⟨between, rfl⟩ := grown
    obtain ⟨between', rfl⟩ := grown'
    obtain ⟨later, rfl, own⟩ := ih
    refine ⟨between ++ (work.claim :: (between' ++ (work.settle :: later))), by simp, ?_⟩
    have inner : (work.settle :: turns.flatMap WorkTurn.entries).Sublist
        (between' ++ (work.settle :: later)) :=
      (own.cons_cons work.settle).trans (List.sublist_append_right _ _)
    exact (inner.cons_cons work.claim).trans (List.sublist_append_right _ _)

/-- **The entries of a call come after the history**, in order. -/
theorem ProcessesAmid.sublist (amid : ProcessesAmid actor call history quarantine turns response last) :
    ∃ later, last = history ++ later ∧
      (quarantine :: turns.flatMap WorkTurn.entries).Sublist later := by
  cases amid with
  | intro _ grown _ _ _ works grown' _ =>
    obtain ⟨between, rfl⟩ := grown
    obtain ⟨later, rfl, own⟩ := works.sublist
    obtain ⟨beyond, rfl⟩ := grown'
    refine ⟨between ++ (quarantine :: (later ++ beyond)), by simp, ?_⟩
    have inner := (own.trans (List.sublist_append_left later beyond)).cons_cons quarantine
    exact inner.trans (List.sublist_append_right _ _)

/-- **A turn of the loop is two entries of a run**: a claim and the finalization of what it gave out. -/
theorem WorksAmid.turns_of
    (works : WorksAmid actor leaseSeconds turn fuel index counts history turns counts' last) :
    ∀ work ∈ turns, work.claim.reply = .claimed (some work.record) ∧
      ∃ place past, work.claim.event = (turn place).claim actor leaseSeconds ∧
        work.settle.event = (turn place).settle actor work.record ∧
        work.settle.reply = .finalized work.result ∧ Run (past ++ [work.settle]) work.settle.after := by
  induction works with
  | full | dry => exact fun _ impossible => by cases impossible
  | turn _ _ asked gave _ settled asked' answered _ ih =>
    intro work member
    rcases List.mem_cons.mp member with rfl | later
    · exact ⟨gave, _, _, asked, asked', answered, settled⟩
    · exact ih work later

end Own

/-! ### Calls that run alone -/

section Alone

variable {actor : String} {leaseSeconds : Int} {turn : Nat → TurnInputs} {fuel index : Nat}
  {counts counts' : Counts} {history calls committed : List Committed} {store final : Store}
  {call : WorkerCall} {response : ProcessDueResponse}

/-- The loop alone is the loop beside nobody. -/
theorem amid_of_work (run : Run history store)
    (ran : work actor leaseSeconds turn fuel index counts store = .ok (calls, counts', final)) :
    Run (history ++ calls) final ∧ ∃ turns,
      WorksAmid actor leaseSeconds turn fuel index counts history turns counts' (history ++ calls) := by
  induction fuel generalizing index counts store calls history with
  | zero =>
    cases ran
    rw [List.append_nil]
    exact ⟨run, [], .full⟩
  | succ fuel ih =>
    rw [work] at ran
    cases claimed : alone (claimNext (turn index).now (turn index).utcNow actor (turn index).fence
      (turn index).claimId leaseSeconds) store with
    | error error =>
      rw [claimed] at ran
      cases ran
    | ok pair =>
      obtain ⟨found, leased⟩ := pair
      rw [claimed] at ran
      simp only [bind, Except.bind] at ran
      have committed := alone_reply claimed .claimed
      generalize entry : (⟨(turn index).claim actor leaseSeconds, store, .claimed found, leased⟩ :
        Committed) = claim at ran
      have run' : Run (history ++ [claim]) claim.after := by
        subst entry
        exact .commit run trivial (CommitsAlone.commit committed)
      have asked : claim.event = (turn index).claim actor leaseSeconds := by rw [← entry]
      have gave : claim.reply = .claimed found := by rw [← entry]
      have left : claim.after = leased := by rw [← entry]
      clear entry
      cases found with
      | none =>
        cases ran
        rw [← left]
        exact ⟨run', [], .dry (List.prefix_refl _) run' asked gave⟩
      | some record =>
        simp only at ran
        cases settled : alone (finalizeEffect (turn index).settledAt (turn index).settleId record
          actor (executeEffect (turn index).downstream record)) leased with
        | error error =>
          rw [settled] at ran
          cases ran
        | ok pair =>
          obtain ⟨result, after⟩ := pair
          rw [settled] at ran
          simp only at ran
          have committed' := alone_reply settled .finalized
          generalize entry : (⟨(turn index).settle actor record, leased, .finalized result, after⟩ :
            Committed) = settle at ran
          have run'' : Run (history ++ [claim] ++ [settle]) settle.after := by
            subst entry
            rw [left] at run'
            refine .commit run' ⟨⟨claim, ?_, gave⟩, (turn index).downstream, rfl⟩
              (CommitsAlone.commit committed')
            exact List.mem_append_right _ List.mem_cons_self
          have asked' : settle.event = (turn index).settle actor record := by rw [← entry]
          have answered : settle.reply = .finalized result := by rw [← entry]
          have left' : settle.after = after := by rw [← entry]
          clear entry
          cases others : work actor leaseSeconds turn fuel (index + 1) (counts.add result) after with
          | error error =>
            rw [others] at ran
            cases ran
          | ok rest =>
            obtain ⟨calls, last, store⟩ := rest
            rw [others] at ran
            cases ran
            rw [← left'] at others
            obtain ⟨whole, turns, works⟩ := ih run'' others
            have shape : history ++ claim :: settle :: calls = history ++ [claim] ++ [settle] ++ calls := by
              simp
            rw [shape]
            exact ⟨whole, ⟨claim, record, settle, result⟩ :: turns, .turn (List.prefix_refl _) run' asked
              gave (List.prefix_refl _) run'' asked' answered works⟩

/-- **A call that runs alone is a call beside nobody.** -/
theorem amid_of_processDue (run : Run history store)
    (ran : processDue actor call store = .ok (committed, response, final)) :
    ∃ quarantine turns, ProcessesAmid actor call history quarantine turns response
      (history ++ committed) := by
  unfold processDue at ran
  cases valid : call.request.valid with
  | false =>
    rw [valid] at ran
    cases ran
  | true =>
    rw [valid] at ran
    cases quarantined : alone (quarantineExpired call.began actor call.quarantineId
      call.request.limit) store with
    | error error =>
      rw [quarantined] at ran
      cases ran
    | ok pair =>
      obtain ⟨count, reviewed⟩ := pair
      rw [quarantined] at ran
      cases worked : work actor call.request.leaseSeconds call.turn
        (call.request.limit - count).toNat 0 ⟨0, 0, 0, count⟩ reviewed with
      | error error =>
        simp only [Except.mapError, bind, Except.bind, worked] at ran
        cases ran
      | ok rest =>
        obtain ⟨calls, counts, last⟩ := rest
        simp only [Except.mapError, bind, Except.bind, worked] at ran
        have committed' := alone_reply quarantined .quarantined
        generalize entry : (⟨.quarantineExpired call.began actor call.quarantineId call.request.limit,
          store, .quarantined count, reviewed⟩ : Committed) = quarantine at ran
        have run' : Run (history ++ [quarantine]) quarantine.after := by
          subst entry
          exact .commit run trivial (CommitsAlone.commit committed')
        have asked : quarantine.event = .quarantineExpired call.began actor call.quarantineId
            call.request.limit := by rw [← entry]
        have answered : quarantine.reply = .quarantined count := by rw [← entry]
        have left : quarantine.after = reviewed := by rw [← entry]
        clear entry
        cases ran
        rw [← left] at worked
        obtain ⟨whole, turns, works⟩ := amid_of_work run' worked
        have shape : history ++ quarantine :: calls = history ++ [quarantine] ++ calls := by simp
        rw [shape]
        exact ⟨quarantine, turns, .intro valid (List.prefix_refl _) run' asked answered works
          (List.prefix_refl _) whole⟩

end Alone

end OrganizationProvisioning
