/-
**The saga machine.**

One saga with its effects and its activity, as a state machine of its own. The effects of a phase
(the creation and the grants, or after a cleanup request the revocations) are a list worked through
in order; every transition but the cleanup request turns the first unfinished one.

* `outlook` — the status and the error a list of effects stands for: those of its first unfinished
  effect.
* `Turn` — what may happen to the first unfinished effect: a claim, the result of a claim, the
  quarantine of a claim, an operator's resolution.
* `Saga.Begins`, `Saga.Step` — the first state and the transitions.
-/
import OrganizationProvisioning.Library.Worklist
import OrganizationProvisioning.Model.Plugin

namespace OrganizationProvisioning

open Worklist

/-- A saga: its row, its creation and grants, its revocations and its activity. -/
structure Saga where
  row : SagaRow
  mains : List EffectRow
  revokes : List EffectRow
  activity : List ActivityRow

/-! ### Where a saga stands -/

/-- How far an effect is in its phase. -/
def stage (cleanup : Bool) (effect : EffectRow) : Stage :=
  match effect.state with
  | .pending => .waiting
  | .inFlight | .failed | .unknown => .busy
  | .applied => if cleanup then .dropped else .finished
  | .compensated => if cleanup then .finished else .dropped
  | .skipped => .dropped

/-- The status of a saga whose first unfinished effect is in a state. -/
def statusOf (cleanup : Bool) : EffectState → SagaStatus
  | .pending => if cleanup then .cleanupPending else .pending
  | .inFlight => if cleanup then .cleanupRunning else .running
  | .failed => if cleanup then .cleanupFailed else .failed
  | .unknown => .manualReview
  | .applied | .compensated | .skipped => if cleanup then .cleanupCompleted else .completed

/-- The error an effect reports: that of a failure or of a doubt. -/
def reported (effect : EffectRow) : Option String :=
  match effect.state with
  | .failed | .unknown => effect.lastError
  | _ => none

/-- The status and the error a list of effects stands for. -/
def outlook (cleanup : Bool) (effects : List EffectRow) : SagaStatus × Option String :=
  match next (stage cleanup) effects with
  | none => (if cleanup then .cleanupCompleted else .completed, none)
  | some focus => (statusOf cleanup focus.state, reported focus)

namespace Saga

/-- The effects of the saga's phase. -/
def phase (saga : Saga) : List EffectRow :=
  if saga.row.cleanupRequested then saga.revokes else saga.mains

/-- The saga with other effects in its phase. -/
def withPhase (saga : Saga) (effects : List EffectRow) : Saga :=
  if saga.row.cleanupRequested then { saga with revokes := effects }
  else { saga with mains := effects }

def effects (saga : Saga) : List EffectRow := saga.mains ++ saga.revokes

end Saga

/-! ### Turns -/

namespace EffectOutcome

/-- What an outcome writes on its effect. -/
def write (now : Timestamp) : EffectOutcome → EffectProgress → EffectProgress
  | .organizationApplied organizationId _ receipt => .applied now organizationId receipt
  | .entitlementApplied grantId receipt => .applied now grantId receipt
  | .compensated receipt => .compensated now receipt
  | .failed errorCode => .stopped now .failed errorCode
  | .unknown errorCode => .stopped now .unknown errorCode

/-- The organization an outcome creates, with its owner's membership. -/
def organization : EffectOutcome → Option (String × String)
  | .organizationApplied organizationId ownerMembershipId _ =>
    some (organizationId, ownerMembershipId)
  | _ => none

/-- The effect took place. -/
def succeeds : EffectOutcome → Bool
  | .failed _ | .unknown _ => false
  | _ => true

end EffectOutcome

inductive Transition
  | claim (effectId fence : Uuid)
  | finalize (effectId fence : Uuid) (outcome : EffectOutcome)
  | quarantine (effectId : Uuid)
  | retry (effectId : Uuid) (resolution : RetryResolution)
  | cleanup

/-- What a transition writes on the effect it turns, and the organization it records. -/
inductive Turn (now : Timestamp) (effect : EffectRow) :
    Transition → EffectProgress → Option (String × String) → Prop
  | claim (fence : Uuid) (leaseUntil : Timestamp) (due : effect.state = .pending) :
      Turn now effect (.claim effect.effectId fence)
        (effect.toEffectProgress.leased now fence leaseUntil) none
  | finalize (fence : Uuid) (outcome : EffectOutcome) (leased : effect.state = .inFlight)
      (token : effect.leaseToken = some fence) (fits : outcome.fits effect.kind = true) :
      Turn now effect (.finalize effect.effectId fence outcome)
        (outcome.write now effect.toEffectProgress) outcome.organization
  | quarantine (leased : effect.state = .inFlight)
      (late : ∃ leaseUntil, effect.leaseUntil = some leaseUntil ∧ leaseUntil < now) :
      Turn now effect (.quarantine effect.effectId)
        (effect.toEffectProgress.stopped now .unknown leaseExpiredError) none
  | retryFailed (stopped : effect.state = .failed) :
      Turn now effect (.retry effect.effectId .retryFailed)
        (effect.toEffectProgress.reset now) none
  | confirmNotApplied (doubted : effect.state = .unknown) :
      Turn now effect (.retry effect.effectId .confirmNotApplied)
        (effect.toEffectProgress.reset now) none
  | confirmApplied (outcome : EffectOutcome) (doubted : effect.state = .unknown)
      (fits : outcome.fits effect.kind = true) (succeeds : outcome.succeeds = true) :
      Turn now effect (.retry effect.effectId .confirmApplied)
        (outcome.write now effect.toEffectProgress) outcome.organization

namespace SagaProgress

/-- Record the organization, where there is one to record. -/
def recordedIf (organization : Option (String × String)) (old : SagaProgress) : SagaProgress :=
  match organization with
  | some (organizationId, ownerMembershipId) => old.recorded organizationId ownerMembershipId
  | none => old

/-- The saga's columns after a transition that leaves these effects in its phase. -/
def advanced (now : Timestamp) (effects : List EffectRow) (old : SagaProgress) : SagaProgress :=
  old.refreshed now 1 (outlook old.cleanupRequested effects) old.organizationId

end SagaProgress

/-- An activity row of the saga at its new revision. -/
structure Records (now : Timestamp) (saga : SagaRow) (note : ActivityRow) : Prop where
  provisioning : note.provisioningId = saga.provisioningId
  revision : note.provisioningRevision = saga.revision + 1
  instant : note.createdAt = now

/-- The saga after a turn of the effect between `past` and `rest`. -/
def Saga.turned (saga : Saga) (now : Timestamp) (past rest : List EffectRow) (focus : EffectRow)
    (organization : Option (String × String)) (note : ActivityRow) : Saga :=
  { saga.withPhase (past ++ focus :: rest) with
    row := saga.row.set fun old =>
      (old.recordedIf organization).advanced now (past ++ focus :: rest)
    activity := saga.activity ++ [note] }

/-! ### Cleanup -/

/-- A grant in force. -/
def granted (effect : EffectRow) : Bool := effect.kind = .putEntitlement ∧ effect.state = .applied

/-- Skip a grant that was not applied. -/
def skipUnfinished (now : Timestamp) (effect : EffectRow) : EffectRow :=
  if effect.kind = .putEntitlement ∧ (effect.state = .pending ∨ effect.state = .failed) then
    effect.set (.skipped now)
  else effect

/-- A new revocation of a grant in force, of the grant id its call returned. -/
def Revokes (now : Timestamp) (source revoke : EffectRow) : Prop :=
  ∃ effectId subjectKind feature grantId, source.subjectKind = some subjectKind ∧
    source.feature = some feature ∧ source.externalId = some grantId ∧
    revoke = revokeEffect now effectId source subjectKind feature grantId

/-- The saga after a cleanup request. -/
def Saga.cleaned (saga : Saga) (now : Timestamp) (revokes : List EffectRow) (note : ActivityRow) :
    Saga where
  row := saga.row.set fun old => old.cleanupMarked.advanced now revokes
  mains := saga.mains.map (skipUnfinished now)
  revokes := revokes
  activity := saga.activity ++ [note]

/-! ### The machine -/

/-- The effects a start inserts. -/
def plannedEffects (now : Timestamp) (ids : StartIds) (input : StartInput) : List EffectRow :=
  createEffect now ids.createEffectId input.provisioningId ::
    input.grants.mapIdx fun ordinal grant =>
      grantEffect now (ids.grantEffectId ordinal) input.provisioningId ordinal grant

namespace Saga

/-- **The first state of a saga.** -/
structure Begins (now : Timestamp) (ids : StartIds) (input : StartInput) (saga : Saga) : Prop where
  row_eq : saga.row = newSaga now input
  mains_eq : saga.mains = plannedEffects now ids input
  revokes_eq : saga.revokes = []
  activity_eq : ∃ note, saga.activity = [note] ∧ note.provisioningId = input.provisioningId ∧
    note.provisioningRevision = 1 ∧ note.createdAt = now

/-- **The transitions of a saga.** -/
inductive Step (now : Timestamp) (saga : Saga) : Transition → Saga → Prop
  | turn {transition : Transition} {past rest : List EffectRow} {focus : EffectRow}
      {progress : EffectProgress} {organization : Option (String × String)} {note : ActivityRow}
      (split : Split (stage saga.row.cleanupRequested) saga.phase past focus rest)
      (turns : Turn now focus transition progress organization)
      (records : Records now saga.row note) :
      Step now saga transition
        (saga.turned now past rest (focus.set fun _ => progress) organization note)
  | cleanup {revokes : List EffectRow} {note : ActivityRow}
      (unrequested : saga.row.cleanupRequested = false)
      (stopped : saga.row.status = .completed ∨ saga.row.status = .failed)
      (compensated : List.Forall₂ (Revokes now) (saga.mains.filter granted) revokes)
      (records : Records now saga.row note) :
      Step now saga .cleanup (saga.cleaned now revokes note)

end Saga

end OrganizationProvisioning
