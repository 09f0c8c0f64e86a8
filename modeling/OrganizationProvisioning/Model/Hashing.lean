/-
**The bytes a request is hashed from.**

`request_hash` digests `serde_json::to_vec` of the request: one compact object with the fields in the order
of the generated type.

* `quoted` — a text as `serde_json` writes it, with its escapes; `object` — the members of a struct.
* `StartRequest.wire`, `RetryRequest.wire`, `RequestCleanupRequest.wire` — the requests.
* `requestHash` — the digest, of whatever SHA-256 gives (`Digest`).
* `wire_injective` — **different requests of one kind are different bytes.**
-/
import OrganizationProvisioning.Library.Delimited
import OrganizationProvisioning.Model.Handlers

namespace OrganizationProvisioning

open Delimiting

/-! ### JSON text -/

/-- The characters `serde_json` escapes, with what it writes for them. -/
def escapes : List (Char × List Char) :=
  [('"', ['\\', '"']), ('\\', ['\\', '\\']), ('\x08', ['\\', 'b']), ('\x09', ['\\', 't']),
    ('\x0a', ['\\', 'n']), ('\x0c', ['\\', 'f']), ('\x0d', ['\\', 'r'])] ++
  (([0, 1, 2, 3, 4, 5, 6, 7, 11] ++ List.range' 14 18).map fun code =>
    (Char.ofNat code, ['\\', 'u', '0', '0', Numeral.hexChar (code / 16), Numeral.hexChar (code % 16)]))

/-- One character of a text. -/
def escape (character : Char) : List Char := (escapes.lookup character).getD [character]

/-- A text between its quotes. -/
def quoted (value : String) : List Char := '"' :: terminated escape '"' value.toList

/-- An optional text. -/
def quotedOption : Option String → List Char := optional quoted ['n', 'u', 'l', 'l']

/-- A member of an object. -/
def member (name : String) (value : List Char) : List Char := quoted name ++ ([':'] ++ value)

/-- A compact object. -/
def object (members : List (List Char)) : List Char :=
  ['\x7b'] ++ ([','].intercalate members ++ ['\x7d'])

/-! ### Requests -/

def StartRequest.wire (request : StartRequest) : List Char :=
  object [member "idempotency_key" (quoted request.idempotencyKey),
    member "name" (quoted request.name),
    member "owner_subject" (quoted request.ownerSubject),
    member "slug" (quoted request.slug)]

def RetryRequest.wire (request : RetryRequest) : List Char :=
  object [member "evidence" (quoted request.evidence),
    member "expected_revision" (quoted request.expectedRevision),
    member "idempotency_key" (quoted request.idempotencyKey),
    member "observed_grant_id" (quotedOption request.observedGrantId),
    member "observed_organization_id" (quotedOption request.observedOrganizationId),
    member "observed_owner_membership_id" (quotedOption request.observedOwnerMembershipId),
    member "provisioning_id" (quoted request.provisioningId),
    member "resolution" (quoted (retryResolutionName request.resolution))]

def RequestCleanupRequest.wire (request : RequestCleanupRequest) : List Char :=
  object [member "evidence" (quoted request.evidence),
    member "expected_revision" (quoted request.expectedRevision),
    member "idempotency_key" (quoted request.idempotencyKey),
    member "provisioning_id" (quoted request.provisioningId)]

example : String.ofList (StartRequest.wire ⟨"k", "A\n\"B\"", "owner", "a-b"⟩) =
    "\x7b\"idempotency_key\":\"k\",\"name\":\"A\\n\\\"B\\\"\",\"owner_subject\":\"owner\",\"slug\":\"a-b\"\x7d" := by
  decide

/-- `Sha256::digest`. -/
abbrev Digest := List UInt8 → List UInt8

/-- `request_hash`, of the UTF-8 bytes of a text. -/
def requestHash (sha256 : Digest) (wire : List Char) : List UInt8 :=
  sha256 (String.ofList wire).toByteArray.data.toList

/-! ### Different requests are different bytes -/

theorem escapes_free : ∀ one ∈ escapes, ∀ two ∈ escapes, one.2 <+: two.2 → one.1 = two.1 := by
  decide +kernel

/-- What is escaped is written with a backslash first. -/
theorem escapes_marked : ∀ one ∈ escapes, one.2.head? = some '\\' := by decide +kernel

/-- A character is escaped by a text of the table, or stands for itself. -/
theorem escape_cases (character : Char) : (character, escape character) ∈ escapes ∨
    (escape character = [character] ∧ character ≠ '\\' ∧ character ≠ '"') := by
  unfold escape
  cases found : escapes.lookup character with
  | some text =>
    refine Or.inl ?_
    obtain ⟨before, after, split, -⟩ := List.lookup_eq_some_iff.mp found
    rw [split]
    simp
  | none =>
    refine Or.inr ⟨rfl, ?_, ?_⟩
    · rintro rfl
      exact absurd found (by decide +kernel)
    · rintro rfl
      exact absurd found (by decide +kernel)

theorem escape_delimited : Delimited escape := by
  refine delimited_of_prefix fun one two begins => ?_
  rcases escape_cases one with first | ⟨first, plain, -⟩
  · rcases escape_cases two with second | ⟨second, plain', -⟩
    · exact escapes_free _ first _ second begins
    · -- A text of the table begins with a backslash, which is escaped itself.
      have marked := escapes_marked _ first
      rw [second] at begins
      obtain ⟨rest, equal⟩ := begins
      cases shape : escape one with
      | nil =>
        rw [shape] at marked
        cases marked
      | cons head tail =>
        rw [shape] at marked equal
        cases Option.some.inj marked
        exact absurd (List.cons.inj equal).1.symm plain'
  · rcases escape_cases two with second | ⟨second, -, -⟩
    · have marked := escapes_marked _ second
      rw [first] at begins
      obtain ⟨rest, equal⟩ := begins
      rw [← equal] at marked
      exact absurd (Option.some.inj marked) plain
    · rw [first, second] at begins
      obtain ⟨rest, equal⟩ := begins
      exact (List.cons.inj equal).1

/-- No escape begins with a quote. -/
theorem escape_apart (character : Char) :
    ∃ first rest, escape character = first :: rest ∧ first ≠ '"' := by
  rcases escape_cases character with listed | ⟨plain, -, other⟩
  · have marked := escapes_marked _ listed
    cases shape : escape character with
    | nil =>
      rw [shape] at marked
      cases marked
    | cons head tail =>
      rw [shape] at marked
      cases Option.some.inj marked
      exact ⟨_, _, rfl, by decide⟩
  · exact ⟨character, [], plain, other⟩

theorem quoted_delimited : Delimited quoted := by
  have inside := (escape_delimited.terminated escape_apart).part String.toList
  have whole := (Reveals.literal ['"']).append inside
  refine whole.delimited fun one two told => ?_
  exact String.toList_inj.mp told.2

theorem quotedOption_delimited : Delimited quotedOption :=
  quoted_delimited.optional fun _ => ⟨'"', _, rfl, by decide⟩

/-! ### What the text of a request tells -/

/-- A member of the text of a request, and what it tells. -/
structure Member (Request : Type) where
  name : String
  write : Request → List Char
  same : Request → Request → Prop
  reveals : Reveals write same

/-- The member of a field. -/
def Member.of {Request Value : Type} (name : String) {write : Value → List Char} (delimited : Delimited write)
    (field : Request → Value) : Member Request where
  name := name
  write request := write (field request)
  same one two := field one = field two
  reveals := delimited.part field

/-- **An object tells what its members tell.** -/
theorem reveals_object {Request : Type} (members : List (Member Request)) :
    Reveals (fun request => object (members.map fun field => member field.name (field.write request)))
      fun one two => ∀ field ∈ members, field.same one two := by
  have each : ∀ part ∈ members.map fun field : Member Request =>
      (fun request => member field.name (field.write request), field.same), Reveals part.1 part.2 := by
    intro part listed
    obtain ⟨field, -, rfl⟩ := List.mem_map.mp listed
    exact ((Reveals.literal (quoted field.name)).append ((Reveals.literal [':']).append
      field.reveals)).mono fun _ _ told => told.2.2
  have inside := Reveals.intercalate [','] each
  have whole := (Reveals.literal ['\x7b']).append (inside.append (Reveals.literal ['\x7d']))
  intro one two rest rest' equal
  obtain ⟨told, follows⟩ := whole one two rest rest' (by simpa [object, Function.comp_def] using equal)
  refine ⟨fun field listed => ?_, follows⟩
  exact told.2.1 _ (List.mem_map.mpr ⟨field, listed, rfl⟩)

/-- **Different starts are different texts.** -/
theorem StartRequest.wire_injective : Function.Injective StartRequest.wire := by
  have told := reveals_object [
    .of "idempotency_key" quoted_delimited StartRequest.idempotencyKey,
    .of "name" quoted_delimited StartRequest.name,
    .of "owner_subject" quoted_delimited StartRequest.ownerSubject,
    .of "slug" quoted_delimited StartRequest.slug]
  refine (told.delimited fun one two same => ?_).injective
  simp only [List.forall_mem_cons, Member.of] at same
  obtain ⟨key, name, owner, slug, -⟩ := same
  cases one
  cases two
  simp only [StartRequest.mk.injEq]
  exact ⟨key, name, owner, slug⟩

theorem retryResolutionName_injective : Function.Injective retryResolutionName := by
  intro one two same
  cases one <;> cases two <;> first | rfl | exact absurd same (by decide)

/-- **Different retries are different texts.** -/
theorem RetryRequest.wire_injective : Function.Injective RetryRequest.wire := by
  have told := reveals_object [
    .of "evidence" quoted_delimited RetryRequest.evidence,
    .of "expected_revision" quoted_delimited RetryRequest.expectedRevision,
    .of "idempotency_key" quoted_delimited RetryRequest.idempotencyKey,
    .of "observed_grant_id" quotedOption_delimited RetryRequest.observedGrantId,
    .of "observed_organization_id" quotedOption_delimited RetryRequest.observedOrganizationId,
    .of "observed_owner_membership_id" quotedOption_delimited RetryRequest.observedOwnerMembershipId,
    .of "provisioning_id" quoted_delimited RetryRequest.provisioningId,
    .of "resolution" quoted_delimited fun request : RetryRequest => retryResolutionName request.resolution]
  refine (told.delimited fun one two same => ?_).injective
  simp only [List.forall_mem_cons, Member.of] at same
  obtain ⟨evidence, revision, key, grant, organization, membership, id, resolution, -⟩ := same
  cases one
  cases two
  simp only [RetryRequest.mk.injEq]
  exact ⟨evidence, revision, key, grant, organization, membership, id,
    retryResolutionName_injective resolution⟩

/-- **Different cleanup requests are different texts.** -/
theorem RequestCleanupRequest.wire_injective : Function.Injective RequestCleanupRequest.wire := by
  have told := reveals_object [
    .of "evidence" quoted_delimited RequestCleanupRequest.evidence,
    .of "expected_revision" quoted_delimited RequestCleanupRequest.expectedRevision,
    .of "idempotency_key" quoted_delimited RequestCleanupRequest.idempotencyKey,
    .of "provisioning_id" quoted_delimited RequestCleanupRequest.provisioningId]
  refine (told.delimited fun one two same => ?_).injective
  simp only [List.forall_mem_cons, Member.of] at same
  obtain ⟨evidence, revision, key, id, -⟩ := same
  cases one
  cases two
  simp only [RequestCleanupRequest.mk.injEq]
  exact ⟨evidence, revision, key, id⟩

end OrganizationProvisioning
