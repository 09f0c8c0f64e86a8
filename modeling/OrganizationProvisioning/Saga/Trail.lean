/-
**What the activity of a saga tells.**

The activity rows of a saga, read one after the other, are a journal of its effects.

* `Tells` — a row names a transition and its effect, with what a reader needs.
* `Trail.read` — what a reader makes of one more row.
* `Turn.reads` — the row of a turn tells what the turn did to its effect.
* `Saga.Audited` — the activity tells where every effect stands; `Begins.audited`, `Step.audited` — the
  machine starts and stays audited.
-/
import OrganizationProvisioning.Saga.Steps

namespace OrganizationProvisioning

open Worklist

/-! ### What a row tells -/

namespace EffectOutcome

/-- The kind of activity an outcome is recorded under. -/
def activity : EffectOutcome → ActivityKind
  | .organizationApplied _ _ _ | .entitlementApplied _ _ => .effectApplied
  | .compensated _ => .effectCompensated
  | .failed _ => .effectFailed
  | .unknown _ => .effectOutcomeUnknown

/-- The error code an outcome carries. -/
def error : EffectOutcome → Option String
  | .failed errorCode | .unknown errorCode => some errorCode
  | _ => none

end EffectOutcome

/-- **An activity row tells a transition.** -/
inductive Tells (note : ActivityRow) : Transition → Prop
  | claim {effectId fence : Uuid} (about : note.effectId = some effectId)
      (kind : note.kind = .effectClaimed) (leased : note.evidence.field "fence" = some (.str fence.text)) :
      Tells note (.claim effectId fence)
  | finalize {effectId fence : Uuid} {outcome : EffectOutcome} (about : note.effectId = some effectId)
      (kind : note.kind = outcome.activity)
      (error : note.evidence.field "error_code" = outcome.error.map .str) :
      Tells note (.finalize effectId fence outcome)
  | quarantine {effectId : Uuid} (about : note.effectId = some effectId)
      (kind : note.kind = .effectOutcomeUnknown) (error : note.evidence.field "error_code" = none) :
      Tells note (.quarantine effectId)
  | retry {effectId : Uuid} {resolution : RetryResolution} (about : note.effectId = some effectId)
      (kind : note.kind = .provisioningRetried)
      (decided : note.evidence.field "resolution" = some (.str (retryResolutionName resolution))) :
      Tells note (.retry effectId resolution)
  | cleanup (about : note.effectId = none) (kind : note.kind = .cleanupRequested) : Tells note .cleanup

/-! ### Reading -/

/-- Where an effect stands, as far as its activity tells. -/
structure Trail where
  state : EffectState
  attempts : Int
  leaseToken : Option Uuid
  lastError : Option String
deriving DecidableEq

/-- Where an effect stands. -/
def EffectRow.trail (effect : EffectRow) : Trail :=
  ⟨effect.state, effect.attempts, effect.leaseToken, effect.lastError⟩

namespace Trail

/-- A new effect. -/
def start : Trail := ⟨.pending, 0, none, none⟩

/-- The effect is out of flight. -/
def landed (trail : Trail) (state : EffectState) (lastError : Option String) : Trail :=
  ⟨state, trail.attempts, none, lastError⟩

/-- **What a reader makes of one more row**: about the effect, or about the saga. -/
def read (effectId : Uuid) (kind : EffectKind) (trail : Trail) (note : ActivityRow) : Trail :=
  if note.effectId = some effectId then
    match note.kind with
    | .effectClaimed =>
      ⟨.inFlight, trail.attempts + 1, (note.evidence.field "fence").bind Json.asUuid, none⟩
    | .effectApplied => trail.landed .applied none
    | .effectCompensated => trail.landed .compensated none
    | .effectFailed => trail.landed .failed ((note.evidence.field "error_code").bind Json.asText)
    | .effectOutcomeUnknown => trail.landed .unknown
        (((note.evidence.field "error_code").bind Json.asText).or (some leaseExpiredError))
    | .provisioningRetried =>
      if (note.evidence.field "resolution").bind Json.asText = some "confirm_applied" then
        trail.landed (finishedState (!kind.isMain)) none
      else trail.landed .pending none
    | .provisioningStarted | .cleanupRequested => trail
  else if note.kind = .cleanupRequested ∧ kind = .putEntitlement ∧
      (trail.state = .pending ∨ trail.state = .failed) then
    { trail with state := .skipped, lastError := some "cleanup_requested" }
  else trail

variable {effectId : Uuid} {kind : EffectKind} {trail : Trail} {note : ActivityRow}

/-- A row about another effect tells nothing. -/
theorem read_other (about : note.effectId ≠ some effectId) (other : note.kind ≠ .cleanupRequested) :
    read effectId kind trail note = trail := by
  unfold read
  rw [if_neg about, if_neg fun both => other both.1]

/-- Rows that say nothing about an effect leave it as it began. -/
theorem read_silent {notes : List ActivityRow} (silent : ∀ note ∈ notes, note.effectId ≠ some effectId)
    (other : kind ≠ .putEntitlement) : notes.foldl (read effectId kind) trail = trail := by
  induction notes with
  | nil => rfl
  | cons note notes ih =>
    have first : read effectId kind trail note = trail := by
      unfold read
      rw [if_neg (silent note List.mem_cons_self), if_neg fun both => other both.2.1]
    rw [List.foldl_cons, first]
    exact ih fun other member => silent other (List.mem_cons_of_mem _ member)

end Trail

/-- The row of a turn is about its effect, not about the whole saga. -/
theorem Tells.about {now : Timestamp} {effect : EffectRow} {transition : Transition} {progress : EffectProgress}
    {organization : Option (String × String)} {note : ActivityRow}
    (turn : Turn now effect transition progress organization) (tells : Tells note transition) :
    note.effectId = some effect.effectId ∧ note.kind ≠ .cleanupRequested := by
  have differs : ∀ {kind : ActivityKind}, note.kind = kind → kind ≠ .cleanupRequested →
      note.kind ≠ .cleanupRequested := fun same other => same ▸ other
  cases tells with
  | claim about kind =>
    cases turn
    exact ⟨about, differs kind (by decide)⟩
  | @finalize _ _ outcome about kind =>
    cases turn
    exact ⟨about, differs kind (by cases outcome <;> simp [EffectOutcome.activity])⟩
  | quarantine about kind =>
    cases turn
    exact ⟨about, differs kind (by decide)⟩
  | retry about kind => cases turn <;> exact ⟨about, differs kind (by decide)⟩
  | cleanup => cases turn

/-- **The row of a turn tells what it did.** -/
theorem Turn.reads {now : Timestamp} {effect : EffectRow} {transition : Transition}
    {progress : EffectProgress} {organization : Option (String × String)} {note : ActivityRow}
    (turn : Turn now effect transition progress organization) (tells : Tells note transition) :
    Trail.read effect.effectId effect.kind effect.trail note = (effect.set fun _ => progress).trail := by
  have about := (tells.about turn).1
  unfold Trail.read
  rw [if_pos about]
  cases turn with
  | claim fence leaseUntil due =>
    cases tells with
    | claim _ kind leased =>
      rw [kind, leased]
      simp only [Option.bind_some, Json.asUuid, Json.asText, Uuid.parse_text]
      rfl
  | finalize fence outcome leased token fits =>
    cases tells with
    | finalize _ kind error =>
      rw [kind, error]
      cases outcome <;> rfl
  | quarantine leased late =>
    cases tells with
    | quarantine _ kind error =>
      rw [kind, error]
      rfl
  | retryFailed | confirmNotApplied =>
    cases tells with
    | retry _ kind decided =>
      rw [kind, decided]
      rfl
  | confirmApplied outcome doubted fits succeeds =>
    cases tells with
    | retry _ kind decided =>
      rw [kind, decided]
      show (if some "confirm_applied" = some "confirm_applied" then _ else _ : Trail) = _
      rw [if_pos rfl]
      cases outcome with
      | failed | unknown => cases succeeds
      | _ =>
        rw [of_decide_eq_true fits]
        rfl

/-! ### Sagas -/

namespace Saga

/-- What the activity of a saga tells of one of its effects. -/
def told (saga : Saga) (effect : EffectRow) : Trail :=
  saga.activity.foldl (Trail.read effect.effectId effect.kind) .start

/-- **The activity of a saga tells where it stands.** -/
structure Audited (saga : Saga) : Prop where
  effects : ∀ effect ∈ saga.effects, saga.told effect = effect.trail
  cleanup : saga.row.cleanupRequested = saga.activity.any fun note => note.kind = .cleanupRequested
  named : ∀ note ∈ saga.activity, ∀ id, note.effectId = some id →
    ∃ effect ∈ saga.effects, effect.effectId = id

section Steps

variable {now : Timestamp} {saga saga' : Saga} {transition : Transition} {note : ActivityRow}

/-- **A saga begins audited.** -/
theorem Begins.audited {ids : StartIds} {input : StartInput} (begins : Begins now ids input saga)
    (only : saga.activity = [note]) (about : note.effectId = none) (kind : note.kind = .provisioningStarted) :
    Audited saga := by
  have silent : ∀ effect : EffectRow, saga.told effect = .start := by
    intro effect
    unfold told
    rw [only]
    exact Trail.read_other (by rw [about]; simp) (by rw [kind]; decide)
  refine ⟨fun effect member => ?_, ?_, ?_⟩
  · rw [silent]
    rw [Saga.effects, begins.mains_eq, begins.revokes_eq, List.append_nil] at member
    rcases List.mem_cons.mp member with rfl | grant
    · rfl
    · obtain ⟨ordinal, _, rfl⟩ := List.mem_mapIdx.mp grant
      rfl
  · rw [only, begins.row_eq, List.any_cons, kind]
    rfl
  · intro other member id names
    rw [only] at member
    rw [List.mem_singleton.mp member, about] at names
    cases names

/-- **A turn keeps a saga audited.** -/
theorem Audited.turned (audited : Audited saga) {past rest : List EffectRow} {focus : EffectRow}
    {progress : EffectProgress} {organization : Option (String × String)}
    (split : Split (stage saga.row.cleanupRequested) saga.phase past focus rest)
    (turn : Turn now focus transition progress organization) (tells : Tells note transition)
    (distinct : ((saga.turned now past rest (focus.set fun _ => progress) organization note).effects.map
      fun effect => effect.effectId).Nodup) :
    Audited (saga.turned now past rest (focus.set fun _ => progress) organization note) := by
  obtain ⟨about, other⟩ := tells.about turn
  obtain ⟨before, after, shape, shape'⟩ := effects_turned now split
  rw [shape'] at distinct
  have inside : focus ∈ saga.effects := by
    rw [shape]
    exact List.mem_append_right _ List.mem_cons_self
  have activity : (saga.turned now past rest (focus.set fun _ => progress) organization note).activity =
      saga.activity ++ [note] := rfl
  refine ⟨fun effect member => ?_, ?_, ?_⟩
  · unfold told
    rw [activity, List.foldl_append, List.foldl_cons, List.foldl_nil]
    by_cases same : effect.effectId = focus.effectId
    · have here : effect = focus.set fun _ => progress := by
        refine List.inj_on_of_nodup_map distinct ?_ ?_ same
        · rw [← shape' _ organization note]
          exact member
        · exact List.mem_append_right _ List.mem_cons_self
      subst here
      have sofar : List.foldl (Trail.read focus.effectId focus.kind) .start saga.activity = focus.trail :=
        audited.effects focus inside
      show Trail.read focus.effectId focus.kind
        (List.foldl (Trail.read focus.effectId focus.kind) .start saga.activity) note = _
      rw [sofar]
      exact turn.reads tells
    · rw [Trail.read_other (by rw [about]; exact fun equal => same (Option.some.inj equal).symm) other]
      rcases mem_turned split.jobs_eq member with rfl | there
      · exact absurd rfl same
      · exact audited.effects effect there
  · rw [turned_cleanup, activity, List.any_append, ← audited.cleanup, List.any_cons,
      decide_eq_false other]
    simp
  · intro earlier member id names
    rw [shape']
    have stays : ∀ effect ∈ saga.effects, ∃ effect' ∈ before ++ (focus.set fun _ => progress) :: after,
        effect'.effectId = effect.effectId := by
      intro effect there
      rw [shape] at there
      simp only [List.mem_append, List.mem_cons] at there ⊢
      rcases there with early | rfl | late
      · exact ⟨effect, Or.inl early, rfl⟩
      · exact ⟨_, Or.inr (Or.inl rfl), rfl⟩
      · exact ⟨effect, Or.inr (Or.inr late), rfl⟩
    rcases List.mem_append.mp member with old | new
    · obtain ⟨effect, there, rfl⟩ := audited.named earlier old id names
      exact stays effect there
    · rw [List.mem_singleton.mp new, about] at names
      cases names
      exact stays focus inside

/-- **A cleanup request keeps a saga audited.** -/
theorem Audited.cleaned (audited : Audited saga) (coherent : Coherent saga) {revokes : List EffectRow}
    (unrequested : saga.row.cleanupRequested = false)
    (compensated : List.Forall₂ (Revokes now) (saga.mains.filter granted) revokes)
    (tells : Tells note .cleanup)
    (distinct : ((saga.cleaned now revokes note).effects.map fun effect => effect.effectId).Nodup) :
    Audited (saga.cleaned now revokes note) := by
  cases tells with
  | cleanup about kind =>
    have about' : ∀ effectId, note.effectId ≠ some effectId := by
      intro effectId
      rw [about]
      simp
    have effects : (saga.cleaned now revokes note).effects =
        saga.mains.map (skipUnfinished now) ++ revokes := rfl
    have activity : (saga.cleaned now revokes note).activity = saga.activity ++ [note] := rfl
    have before : saga.effects = saga.mains := by
      rw [Saga.effects, coherent.unrequested unrequested, List.append_nil]
    have ids : ∀ effect, (skipUnfinished now effect).effectId = effect.effectId ∧
        (skipUnfinished now effect).kind = effect.kind := by
      intro effect
      unfold skipUnfinished
      split <;> exact ⟨rfl, rfl⟩
    refine ⟨fun effect member => ?_, ?_, ?_⟩
    · unfold told
      rw [activity, List.foldl_append, List.foldl_cons, List.foldl_nil]
      rw [effects] at member
      rcases List.mem_append.mp member with main | revoke
      · obtain ⟨source, there, rfl⟩ := List.mem_map.mp main
        rw [(ids source).1, (ids source).2]
        have sofar : List.foldl (Trail.read source.effectId source.kind) .start saga.activity =
            source.trail := audited.effects source (by rw [before]; exact there)
        rw [sofar]
        unfold Trail.read skipUnfinished
        rw [if_neg (about' _)]
        by_cases unfinished : source.kind = .putEntitlement ∧
            (source.state = .pending ∨ source.state = .failed)
        · rw [if_pos ⟨kind, unfinished⟩, if_pos unfinished]
          rfl
        · rw [if_neg fun both => unfinished both.2, if_neg unfinished]
      · obtain ⟨source, -, effectId, subjectKind, feature, grantId, -, -, -, rfl⟩ :=
          exists_partner compensated revoke
        have silent : ∀ earlier ∈ saga.activity, earlier.effectId ≠ some effectId := by
          intro earlier old names
          obtain ⟨main, there, same⟩ := audited.named earlier old effectId names
          rw [before] at there
          rw [effects, List.map_append, List.map_map] at distinct
          have apart := List.disjoint_of_nodup_append distinct
          refine apart (List.mem_map.mpr ⟨main, there, ?_⟩) (List.mem_map.mpr ⟨_, revoke, rfl⟩)
          exact (ids main).1.trans same
        show Trail.read effectId .revokeEntitlement
          (List.foldl (Trail.read effectId .revokeEntitlement) .start saga.activity) note = _
        rw [Trail.read_silent silent (by decide)]
        unfold Trail.read
        rw [if_neg (about' _), if_neg fun both => by cases both.2.1]
        rfl
    · rw [activity, List.any_append, List.any_cons, kind]
      simp only [decide_true, Bool.true_or, Bool.or_true]
      rfl
    · intro earlier member id names
      rw [effects]
      rcases List.mem_append.mp member with old | new
      · obtain ⟨effect, there, rfl⟩ := audited.named earlier old id names
        rw [before] at there
        exact ⟨_, List.mem_append_left _ (List.mem_map_of_mem there), (ids effect).1⟩
      · rw [List.mem_singleton.mp new, about] at names
        cases names

/-- **Every step keeps a saga audited**, when its row tells it. -/
theorem Step.audited (coherent : Coherent saga) (audited : Audited saga) (step : Step now saga transition saga')
    (last : saga'.activity = saga.activity ++ [note]) (tells : Tells note transition)
    (distinct : (saga'.effects.map fun effect => effect.effectId).Nodup) : Audited saga' := by
  cases step with
  | turn split turns =>
    obtain rfl := List.singleton_inj.mp (List.append_cancel_left last)
    exact audited.turned split turns tells distinct
  | cleanup unrequested _ compensated =>
    obtain rfl := List.singleton_inj.mp (List.append_cancel_left last)
    exact audited.cleaned coherent unrequested compensated tells distinct

end Steps

end Saga

end OrganizationProvisioning
