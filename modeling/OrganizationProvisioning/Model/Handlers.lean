/-
**The public operations: what the handlers accept.**

A handler checks its request and passes an input to the store. What is outside the plugin is a
parameter: the caller and the actor the context projects, the hash of the request, the generated id,
and how the `uuid` crate reads a text.

* `startInput`, `retryInput`, `cleanupInput` — the input of an accepted request; nothing is passed for
  one that is `InvalidRequest`.
* `bounded_startInput` — an accepted start fits the columns of its saga.
* `snapshot_of_validate` — an accepted configuration has a snapshot, and its grants fit the columns of
  their effects.
-/
import OrganizationProvisioning.Model.Plugin
import Mathlib.Data.String.Basic

namespace OrganizationProvisioning

/-! ### Text checks -/

/-- `char::is_control`: the category Cc. -/
def isControl (character : Char) : Bool :=
  character.toNat < 32 || (127 ≤ character.toNat && character.toNat < 160)

/-- `char::is_whitespace`: the property White_Space. -/
def isWhitespace (character : Char) : Bool :=
  (9 ≤ character.toNat && character.toNat ≤ 13) ||
    [0x20, 0x85, 0xa0, 0x1680, 0x2028, 0x2029, 0x202f, 0x205f, 0x3000].contains character.toNat ||
    (0x2000 ≤ character.toNat && character.toNat ≤ 0x200a)

/-- `str::trim`. -/
def trim (value : String) : String :=
  String.ofList ((value.toList.dropWhile isWhitespace).reverse.dropWhile isWhitespace).reverse

def validOrganizationName (value : String) : Bool :=
  value ≠ "" && value.utf8ByteSize ≤ 200 && !value.toList.any isControl

def validSlug (value : String) : Bool :=
  value ≠ "" && value.utf8ByteSize ≤ 100 &&
    (value.toList.all fun character =>
      character.isLower || character.isDigit || character = '-') &&
    value.toList.head? ≠ some '-' && value.toList.getLast? ≠ some '-'

def validText (value : String) (maximum : Nat) : Bool :=
  trim value ≠ "" && value.utf8ByteSize ≤ maximum &&
    !value.toList.any fun character => isControl character && !"\n\r\t".toList.contains character

def validIdempotencyKey (value : String) : Bool := validOpaqueId value 200

/-! ### Requests -/

structure StartRequest where
  idempotencyKey : String
  name : String
  ownerSubject : String
  slug : String

structure RetryRequest where
  evidence : String
  expectedRevision : String
  idempotencyKey : String
  observedGrantId : Option String
  observedOrganizationId : Option String
  observedOwnerMembershipId : Option String
  provisioningId : String
  resolution : RetryResolution

structure RequestCleanupRequest where
  evidence : String
  expectedRevision : String
  idempotencyKey : String
  provisioningId : String

/-- Who asks: the caller instance and the actor of the context. -/
structure Asker where
  caller : String
  actor : String

/-- The checks of `start`, and what it passes to the store. -/
def startInput (asker : Asker) (requestHash : List UInt8) (provisioningId : Uuid)
    (grants : List BootstrapGrant) (request : StartRequest) : Option StartInput :=
  let name := trim request.name
  if validOrganizationName name && validSlug request.slug &&
      validOpaqueId request.ownerSubject 256 && validIdempotencyKey request.idempotencyKey then
    some {
      caller := asker.caller
      actor := asker.actor
      idempotencyKey := request.idempotencyKey
      requestHash := requestHash
      provisioningId := provisioningId
      name := name
      slug := request.slug
      ownerSubject := request.ownerSubject
      grants := grants }
  else none

/-- `parse_mutation`: the id and the positive revision of a retry or a cleanup request. -/
def parseMutation (parseUuid : String → Option Uuid)
    (provisioningId expectedRevision idempotencyKey evidence : String) : Option (Uuid × Int) :=
  if validIdempotencyKey idempotencyKey && validText evidence 4000 then do
    let id ← parseUuid provisioningId
    let revision ← (parseI64 expectedRevision).filter fun value => 0 < value
    return (id, revision)
  else none

/-- The checks of `retry`, and what it passes to the store. -/
def retryInput (parseUuid : String → Option Uuid) (asker : Asker) (requestHash : List UInt8)
    (request : RetryRequest) : Option RetryInput := do
  let (provisioningId, expectedRevision) ← parseMutation parseUuid request.provisioningId
    request.expectedRevision request.idempotencyKey request.evidence
  let observed := [request.observedOrganizationId, request.observedOwnerMembershipId,
    request.observedGrantId]
  if observed.any fun value => value.any fun id => !validOpaqueId id 512 then none
  else return {
    caller := asker.caller
    actor := asker.actor
    idempotencyKey := request.idempotencyKey
    requestHash := requestHash
    provisioningId := provisioningId
    expectedRevision := expectedRevision
    resolution := request.resolution
    observedOrganizationId := request.observedOrganizationId
    observedOwnerMembershipId := request.observedOwnerMembershipId
    observedGrantId := request.observedGrantId
    evidence := request.evidence }

/-- The checks of `request_cleanup`, and what it passes to the store. -/
def cleanupInput (parseUuid : String → Option Uuid) (asker : Asker) (requestHash : List UInt8)
    (request : RequestCleanupRequest) : Option CleanupInput := do
  let (provisioningId, expectedRevision) ← parseMutation parseUuid request.provisioningId
    request.expectedRevision request.idempotencyKey request.evidence
  return {
    caller := asker.caller
    actor := asker.actor
    idempotencyKey := request.idempotencyKey
    requestHash := requestHash
    provisioningId := provisioningId
    expectedRevision := expectedRevision
    evidence := request.evidence }

/-! ### What an accepted start fits -/

theorem length_le_utf8Len (characters : List Char) :
    characters.length ≤ String.utf8Len characters := by
  induction characters with
  | nil => exact Nat.le_refl 0
  | cons character characters ih =>
    rw [String.utf8Len_cons, List.length_cons]
    have positive := Char.utf8Size_pos character
    omega

/-- A text has at most as many characters as bytes. -/
theorem length_le_bytes (value : String) : value.length ≤ value.utf8ByteSize := by
  have characters := length_le_utf8Len value.toList
  rwa [← String.utf8ByteSize_ofList, String.ofList_toList, String.length_toList] at characters

/-- A text that is not empty and has at most so many bytes fits a column of as many characters. -/
theorem length_bounds {value : String} {maximum : Nat} (nonempty : value ≠ "")
    (small : value.utf8ByteSize ≤ maximum) : 1 ≤ value.length ∧ value.length ≤ maximum := by
  refine ⟨?_, (length_le_bytes value).trans small⟩
  rw [Nat.one_le_iff_ne_zero]
  exact fun empty => nonempty (String.length_eq_zero_iff.mp empty)

/-- **The texts of an accepted start fit the columns of its saga**: they are checked in bytes and
bounded in characters. -/
theorem bounded_startInput {asker : Asker} {requestHash : List UInt8} {provisioningId : Uuid}
    {grants : List BootstrapGrant} {request : StartRequest} {input : StartInput}
    (accepted : startInput asker requestHash provisioningId grants request = some input) :
    (1 ≤ input.name.length ∧ input.name.length ≤ 200) ∧
    (1 ≤ input.slug.length ∧ input.slug.length ≤ 100) ∧
    (1 ≤ input.ownerSubject.length ∧ input.ownerSubject.length ≤ 256) ∧
    input.grants = grants := by
  simp only [startInput, Option.ite_none_right_eq_some, Option.some.injEq] at accepted
  obtain ⟨valid, rfl⟩ := accepted
  simp only [validOrganizationName, validSlug, validOpaqueId, validDimension, Bool.and_eq_true,
    decide_eq_true_eq] at valid
  obtain ⟨⟨⟨named, slugged⟩, owned⟩, -⟩ := valid
  obtain ⟨⟨name, nameSize⟩, -⟩ := named
  obtain ⟨⟨⟨⟨slug, slugSize⟩, -⟩, -⟩, -⟩ := slugged
  obtain ⟨⟨owner, ownerSize⟩, -⟩ := owned
  exact ⟨length_bounds name nameSize, length_bounds slug slugSize, length_bounds owner ownerSize,
    rfl⟩

/-! ### What a snapshot fits -/

/-- The values of a grant fit the columns of its effect. -/
structure BootstrapGrant.Fits (grant : BootstrapGrant) : Prop where
  subjectKind : grant.subjectKind = "organization" ∨ grant.subjectKind = "owner"
  limit : ∀ limit, grant.limit = some limit → 0 < limit ∧ limit ≤ 9223372036854775807

/-- A valid grant has a snapshot, which fits. -/
theorem snapshot_of_valid {grant : BootstrapGrantConfig} (valid : grant.valid = true) :
    ∃ snapshot : BootstrapGrant, (match grant.limit with
      | none => some ⟨grant.subjectKind, grant.feature, none⟩
      | some value => (parseI64 value).map fun limit =>
          ⟨grant.subjectKind, grant.feature, some limit⟩) = some snapshot ∧ snapshot.Fits := by
  simp only [BootstrapGrantConfig.valid, Bool.and_eq_true, Bool.or_eq_true,
    decide_eq_true_eq] at valid
  obtain ⟨⟨subject, -⟩, limited⟩ := valid
  cases written : grant.limit with
  | none => exact ⟨⟨grant.subjectKind, grant.feature, none⟩, rfl, subject, fun _ none => by cases none⟩
  | some value =>
    rw [written, Option.all_some] at limited
    obtain ⟨limit, parsed, positive⟩ := (Option.any_eq_true ..).mp limited
    refine ⟨⟨grant.subjectKind, grant.feature, some limit⟩, ?_, subject, ?_⟩
    · simp only [parsed, Option.map_some]
    · rintro other same
      cases same
      exact ⟨of_decide_eq_true positive, (Numeral.parseBounded_range parsed).2⟩

/-- **An accepted configuration has a snapshot whose grants fit.** -/
theorem snapshot_of_validate {checks : ConfigChecks} {config : OrganizationProvisioningConfig}
    (accepted : config.validate checks = .ok ()) : ∃ grants, config.grantSnapshots = some grants ∧
      grants.length ≤ 64 ∧ ∀ grant ∈ grants, grant.Fits := by
  have bounded := bounded_of_validate accepted
  unfold OrganizationProvisioningConfig.validate at accepted
  simp only [check_bind] at accepted
  obtain ⟨-, -, -, -, -, -, -, last⟩ := accepted
  have valid : ∀ grant ∈ config.bootstrapGrants, grant.valid = true := by
    unfold check at last
    split at last
    · rename_i both
      exact List.all_eq_true.mp (Bool.and_eq_true_iff.mp both).1
    · cases last
  have snapshots : ∀ configured : List BootstrapGrantConfig,
      (∀ grant ∈ configured, grant.valid = true) → ∃ grants, (configured.mapM fun grant =>
        match grant.limit with
        | none => some ⟨grant.subjectKind, grant.feature, none⟩
        | some value => (parseI64 value).map fun limit =>
            ⟨grant.subjectKind, grant.feature, some limit⟩) = some grants ∧
        ∀ grant ∈ grants, BootstrapGrant.Fits grant := by
    intro configured
    induction configured with
    | nil => exact fun _ => ⟨[], rfl, by simp⟩
    | cons grant configured ih =>
      intro all
      obtain ⟨first, here, fits⟩ := snapshot_of_valid (all grant List.mem_cons_self)
      obtain ⟨rest, there, others⟩ := ih fun other member => all other (List.mem_cons_of_mem _ member)
      refine ⟨first :: rest, ?_, ?_⟩
      · rw [List.mapM_cons, here, there]
        rfl
      · intro other member
        rcases List.mem_cons.mp member with rfl | later
        · exact fits
        · exact others other later
  obtain ⟨grants, snapshot, fits⟩ := snapshots config.bootstrapGrants valid
  refine ⟨grants, snapshot, ?_, fits⟩
  rw [length_grantSnapshots snapshot]
  exact bounded

end OrganizationProvisioning
