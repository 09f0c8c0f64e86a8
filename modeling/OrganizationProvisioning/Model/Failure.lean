/-
**Domain errors and their JSON.**

The generated error types of the contracts list the codes they know and keep any other error as it came:
a known code is a text, an unknown error an object with its code, its payload and whatever else it has.

* `DomainError` — such a type over its known codes, those of a public operation or of the worker's.
* `DomainError.toJson`, `DomainError.fromJson` — the two implementations.
* `Kept`, `fromJson_toJson` — **the errors that are read back as they were.**
* `toJson_object`, `toJson_text` — **what is read is written as it came**, but for a text that is no known
  code.
-/
import OrganizationProvisioning.Library.Dictionary
import OrganizationProvisioning.Model.Data
import Mathlib.Data.String.Basic

namespace OrganizationProvisioning

/-! ### JSON objects -/

/-- `serde_json::Map`. -/
abbrev Object := Dictionary String Json

/-! ### Errors -/

/-- The codes of a contract: distinct texts. -/
class ErrorCodes (Code : Type) where
  codes : List Code
  name : Code → String
  complete : ∀ code, code ∈ codes
  distinct : ∀ one two, name one = name two → one = two

structure UnknownDomainError where
  code : String
  payload : Option Json
  extra : Object

/-- **A generated error type.** -/
inductive DomainError (Code : Type)
  | known (code : Code)
  | unknown (error : UnknownDomainError)

/-- The codes of the public role: `GetError`, `ListError`, `RequestCleanupError`, `RetryError` and
`StartError` have the same. -/
inductive PublicCode
  | forbidden | idempotencyConflict | invalidRequest | invalidTransition | manualResolutionRequired
  | provisioningNotFound | revisionConflict | unauthenticated
deriving DecidableEq

def PublicCode.name : PublicCode → String
  | forbidden => "forbidden"
  | idempotencyConflict => "idempotency_conflict"
  | invalidRequest => "invalid_request"
  | invalidTransition => "invalid_transition"
  | manualResolutionRequired => "manual_resolution_required"
  | provisioningNotFound => "provisioning_not_found"
  | revisionConflict => "revision_conflict"
  | unauthenticated => "unauthenticated"

instance PublicCode.errorCodes : ErrorCodes PublicCode where
  codes := [.forbidden, .idempotencyConflict, .invalidRequest, .invalidTransition,
    .manualResolutionRequired, .provisioningNotFound, .revisionConflict, .unauthenticated]
  name := PublicCode.name
  complete code := by cases code <;> decide
  distinct one two same := by cases one <;> cases two <;> first | rfl | exact absurd same (by decide)

/-- The codes of the worker role. -/
inductive WorkerCode
  | forbidden | invalidRequest | unauthenticated
deriving DecidableEq

def WorkerCode.name : WorkerCode → String
  | forbidden => "forbidden"
  | invalidRequest => "invalid_request"
  | unauthenticated => "unauthenticated"

instance WorkerCode.errorCodes : ErrorCodes WorkerCode where
  codes := [.forbidden, .invalidRequest, .unauthenticated]
  name := WorkerCode.name
  complete code := by cases code <;> decide
  distinct one two same := by cases one <;> cases two <;> first | rfl | exact absurd same (by decide)

/-- The entries of an unknown error, in the order they are serialized. -/
def UnknownDomainError.serialized (error : UnknownDomainError) : List (String × Json) :=
  ("code", .str error.code) :: ((error.payload.map fun payload => ("payload", payload)).toList ++
    error.extra.entries)

namespace DomainError

variable {Code : Type} [ErrorCodes Code]

/-- The code a text names. -/
def codeOf (text : String) : Option Code :=
  (ErrorCodes.codes : List Code).find? fun code => ErrorCodes.name code = text

/-- `Serialize`: a later entry replaces an earlier one with its name. -/
def toJson : DomainError Code → Json
  | .known code => .str (ErrorCodes.name code)
  | .unknown error => .obj (Dictionary.ofEntries error.serialized).entries

/-- An object with its code and its payload taken out. -/
def ofObject (object : Object) : Except String (DomainError Code) :=
  match object.lookup "code" with
  | some (.str code) =>
    let rest := object.erase "code"
    .ok (.unknown ⟨code, rest.lookup "payload", rest.erase "payload"⟩)
  | _ => .error "Domain Error object is missing a string code"

/-- `Deserialize`, with the text of its error up to the value it got. -/
def fromJson : Json → Except String (DomainError Code)
  | .str code =>
    match (codeOf code : Option Code) with
    | some listed => .ok (.known listed)
    | none => .ok (.unknown ⟨code, none, .empty⟩)
  | .obj fields => ofObject (.ofEntries fields)
  | _ => .error "Domain Error must be a string or object, got "

/-! ### What is read back -/

theorem codeOf_name (code : Code) : codeOf (ErrorCodes.name code) = some code := by
  unfold codeOf
  cases found : (ErrorCodes.codes : List Code).find? fun other =>
      ErrorCodes.name other = ErrorCodes.name code with
  | none =>
    have absent := List.find?_eq_none.mp found code (ErrorCodes.complete code)
    simp at absent
  | some other =>
    have same := List.find?_some found
    rw [ErrorCodes.distinct other code (by simpa using same)]

theorem name_codeOf {text : String} {code : Code} (named : codeOf text = some code) :
    ErrorCodes.name code = text := by
  have same := List.find?_some named
  simpa using same

/-- An error whose other entries are not named as its code or its payload. -/
def Kept : DomainError Code → Prop
  | .known _ => True
  | .unknown error => error.extra.lookup "code" = none ∧ error.extra.lookup "payload" = none

/-- **What the object of an unknown error gives for a name.** -/
theorem lookup_serialized (error : UnknownDomainError) (name : String) :
    (Dictionary.ofEntries error.serialized).lookup name = (error.extra.lookup name).or
      (if name = "payload" then error.payload else if name = "code" then some (.str error.code)
        else none) := by
  rw [Dictionary.lookup_ofEntries, UnknownDomainError.serialized, List.reverse_cons,
    List.reverse_append, List.lookup_append, List.lookup_append, Dictionary.lookup_reverse, Option.or_assoc]
  congr 1
  by_cases payload : name = "payload"
  · subst payload
    cases error.payload <;> simp [List.lookup_cons]
  · by_cases code : name = "code"
    · subst code
      cases error.payload <;> simp [List.lookup_cons]
    · cases error.payload <;>
        simp [List.lookup_cons, beq_false_of_ne payload, beq_false_of_ne code, payload, code]

/-- The object of an unknown error without its code and its payload. -/
def others (error : UnknownDomainError) : Object :=
  ((Dictionary.ofEntries error.serialized).erase "code").erase "payload"

theorem others_eq (error : UnknownDomainError) : others error = error.extra ↔
    error.extra.lookup "code" = none ∧ error.extra.lookup "payload" = none := by
  constructor
  · intro same
    constructor <;> rw [← same] <;> simp [others]
  · rintro ⟨code, payload⟩
    refine Dictionary.ext_lookup fun name => ?_
    simp only [others, Dictionary.lookup_erase, lookup_serialized]
    by_cases first : name = "payload"
    · rw [if_pos first, first, payload]
    · by_cases second : name = "code"
      · rw [if_neg first, if_pos second, second, code]
      · rw [if_neg first, if_neg second, if_neg first, if_neg second, Option.or_none]

omit [ErrorCodes Code] in
/-- **An object is read exactly when it has a text for a code.** -/
theorem ofObject_ok {object : Object} {error : DomainError Code} : ofObject object = .ok error ↔
    ∃ code, object.lookup "code" = some (.str code) ∧ error = .unknown
      ⟨code, (object.erase "code").lookup "payload", (object.erase "code").erase "payload"⟩ := by
  unfold ofObject
  constructor
  · intro read
    split at read
    · rename_i code found
      exact ⟨code, found, (Except.ok.inj read).symm⟩
    · cases read
  · rintro ⟨code, found, rfl⟩
    rw [found]

/-- **What is read back of an error**: itself, exactly when its other entries have names of their own. -/
theorem fromJson_toJson (error : DomainError Code) : fromJson error.toJson = .ok error ↔ error.Kept := by
  cases error with
  | known code => simp only [toJson, fromJson, codeOf_name, Kept]
  | unknown error =>
    simp only [toJson, fromJson, Dictionary.ofEntries_entries, Kept, ofObject_ok]
    constructor
    · rintro ⟨code, -, same⟩
      have extra := congrArg UnknownDomainError.extra (DomainError.unknown.inj same)
      exact (others_eq error).mp extra.symm
    · rintro ⟨code, payload⟩
      refine ⟨error.code, by simp [lookup_serialized, code], ?_⟩
      have rest : ((Dictionary.ofEntries error.serialized).erase "code").erase "payload" = error.extra :=
        (others_eq error).mpr ⟨code, payload⟩
      rw [rest]
      simp [lookup_serialized, payload]

/-- What is read is read back. -/
theorem kept_of_fromJson {json : Json} {error : DomainError Code} (read : fromJson json = .ok error) :
    error.Kept := by
  unfold fromJson at read
  split at read
  · split at read <;> cases read
    · trivial
    · exact ⟨rfl, rfl⟩
  · obtain ⟨code, -, rfl⟩ := ofObject_ok.mp read
    simp [Kept]
  · cases read

/-- **What is read of an object is written again as it came.** -/
theorem toJson_object {fields : List (String × Json)} {error : DomainError Code}
    (read : fromJson (.obj fields) = .ok error) :
    toJson error = .obj (Dictionary.ofEntries fields : Object).entries := by
  obtain ⟨code, found, rfl⟩ := ofObject_ok.mp read
  simp only [toJson]
  congr 2
  refine Dictionary.ext_lookup fun name => ?_
  rw [lookup_serialized]
  simp only [Dictionary.lookup_erase]
  by_cases payload : name = "payload"
  · simp [payload]
  · by_cases code : name = "code"
    · simp [code, found]
    · simp [payload, code]

/-- **What is read of a text is written as this text**, or as the object of a code nobody knows. -/
theorem toJson_text {text : String} {error : DomainError Code} (read : fromJson (.str text) = .ok error) :
    toJson error = .str text ∨
      ((codeOf text : Option Code) = none ∧ toJson error = .obj [("code", .str text)]) := by
  simp only [fromJson] at read
  split at read
  · rename_i code named
    cases read
    exact Or.inl (congrArg Json.str (name_codeOf named))
  · rename_i unnamed
    cases read
    exact Or.inr ⟨unnamed, rfl⟩

end DomainError

end OrganizationProvisioning
