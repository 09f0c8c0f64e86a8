/-
**What goes over the wire.**

The handlers cast what they return into the types of the contract, and the cast is fallible. On reachable stores
it never fails and loses nothing.

* `listSchema` — `list-response.schema.json`; `ListedResponse.accepted` — when a page honours it.
* `served_short` — how long a page and its cursor get.
* `Run.reply_cast`, `Run.get_cast`, `Run.page_cast` — each cast succeeds, and shows the stored rows.
* `Exchanged` — every response of a run, every `get` beside it and every page of its store is cast to what it
  shows, and read back by the client; `responses_exchanged` — **this holds of every run.**
* `Lossless` — what becomes of an error on its way; `errors_exchanged` — **this holds of the errors of each
  contract.**
-/
import OrganizationProvisioning.Guarantee.Contract
import OrganizationProvisioning.Model.Failure
import OrganizationProvisioning.Model.Response
import OrganizationProvisioning.Proof.Listing

namespace OrganizationProvisioning

open Relational Transactional

/-! ### The schema of a page -/

/-- `"type": ["string", "null"], "maxLength"`. -/
def Json.isNullableTextUpTo (maximum : Nat) : Json → Bool
  | .str value => value.length ≤ maximum
  | .null => true
  | _ => false

/-- `properties.items.items`. -/
def listItemSchema : Json → Bool := Json.isObject [
  ("provisioning_id", Json.isText),
  ("status", Json.isOneOf statusNames),
  ("revision", Json.isPositiveDecimal),
  ("name", Json.isText),
  ("slug", Json.isText),
  ("owner_subject", Json.isText),
  ("organization_id", Json.isNullableText),
  ("cleanup_requested", Json.isBool),
  ("organization_residue", Json.isBool),
  ("last_error", Json.isNullableText),
  ("created_at", Json.isText),
  ("updated_at", Json.isText)]

/-- `list-response.schema.json`. -/
def listSchema : Json → Bool := Json.isObject [
  ("items", Json.isArray 100 listItemSchema),
  ("next_cursor", Json.isNullableTextUpTo 512)]

section Pages

variable {Time : Type} {format : TimeFormat Time}

theorem ListResponseItemsItem.accepted {item : ListResponseItemsItem Time}
    (positive : Numeral.positiveDecimal item.revision.toList = true) :
    listItemSchema (item.toJson format) = true := by
  have status : item.status.name ∈ statusNames := item.status.name_mem
  simp [listItemSchema, Json.isObject, toJson, List.lookup_cons, Json.isText, Json.isOneOf, Json.isBool,
    Json.isPositiveDecimal, status, positive]

/-- **A page honours its schema** when it is short, and its revisions are numbers. -/
theorem ListedResponse.accepted {page : ListedResponse Time} (short : page.items.length ≤ 100)
    (positive : ∀ item ∈ page.items, Numeral.positiveDecimal item.revision.toList = true)
    (cursor : ∀ text, page.nextCursor = some text → text.length ≤ 512) :
    listSchema (page.toJson format) = true := by
  have items : ∀ item ∈ page.items, listItemSchema (item.toJson format) = true :=
    fun item member => item.accepted (positive item member)
  have next : Json.isNullableTextUpTo 512 (.optional page.nextCursor) = true := by
    cases here : page.nextCursor with
    | none => rfl
    | some text => exact decide_eq_true (cursor text here)
  simp [listSchema, Json.isObject, toJson, List.lookup_cons, Json.isArray, next, short]
  exact items

end Pages

/-! ### The length of a cursor -/

/-- The text of an instant of four-digit years. -/
theorem length_instant {value : Int} (low : -62167219200000000 ≤ value) (high : value ≤ 253402300799999999) :
    (toString value).length ≤ 19 := by
  have digits : ∀ number : Nat, number < 10 ^ 18 → (Nat.toDigits 10 number).length ≤ 18 := fun number small =>
    (Nat.length_toDigits_le_iff (by decide) (by decide)).mpr small
  rw [← String.length_toList]
  cases value with
  | ofNat value =>
    have text : (toString (Int.ofNat value)).toList = Nat.toDigits 10 value := Nat.toList_repr
    rw [text]
    exact (digits value (by simp at high; omega)).trans (by decide)
  | negSucc value =>
    have text : (toString (Int.negSucc value)).toList = '-' :: Nat.toDigits 10 (value + 1) := by
      show ("-" ++ Nat.repr (value + 1)).toList = _
      rw [String.toList_append, Nat.toList_repr]
      rfl
    rw [text, List.length_cons]
    have small := digits (value + 1) (by omega)
    omega

section PageOf

variable {readers : Readers} {limit : Int} {items : List ProvisioningListItem} {response : ListResponse}

/-- **A page has no more items than its limit.** -/
theorem pageOf_size (paged : pageOf readers limit items = .ok response) :
    response.items.length ≤ limit.toNat := by
  unfold pageOf at paged
  split at paged
  · have taken : (items.take limit.toNat).length ≤ limit.toNat := List.length_take_le _ _
    split at paged
    · cases paged
      exact taken
    · split at paged
      · cases paged
      · cases paged
        exact taken
  · rename_i fits
    cases paged
    exact Nat.le_of_not_lt fits

/-- **A cursor is that of an item.** -/
theorem pageOf_cursor (paged : pageOf readers limit items = .ok response) {text : String}
    (more : response.nextCursor = some text) : ∃ item ∈ items, encodeCursor readers item = .ok text := by
  unfold pageOf at paged
  split at paged
  · split at paged
    · cases paged
      cases more
    · rename_i last found
      split at paged
      · cases paged
      · rename_i cursor encoded
        cases paged
        cases more
        exact ⟨last, List.mem_of_mem_take (List.mem_of_getLast? found), encoded⟩
  · cases paged
    cases more

/-- A cursor of a dated item is short. -/
theorem length_cursor (documented : readers.Documented) {row : SagaRow} {item : ProvisioningListItem}
    (shown : listItemFromRow row = some item) {text : String} (encoded : encodeCursor readers item = .ok text) :
    text.length ≤ 512 := by
  obtain ⟨formatted, -, -⟩ := listItemFromRow_some shown
  obtain ⟨low, high⟩ := formatTime_isSome.mp (Option.isSome_iff_exists.mpr ⟨_, formatted⟩)
  rw [encodeCursor_eq documented formatted] at encoded
  cases encoded
  have instant := length_instant low high
  have id : item.provisioningId.text.length = 36 := by
    rw [← String.length_toList, Uuid.length_text]
  rw [String.length_append, String.length_append, id]
  have colon : ":".length = 1 := rfl
  omega

end PageOf

/-- Items that show rows are those of a list of rows. -/
theorem rows_of_items {P : SagaRow → Prop} {items : List ProvisioningListItem}
    (each : ∀ item ∈ items, ∃ row, P row ∧ listItemFromRow row = some item) :
    ∃ rows : List SagaRow, rows.mapM listItemFromRow = some items ∧ ∀ row ∈ rows, P row := by
  induction items with
  | nil => exact ⟨[], rfl, by simp⟩
  | cons item items ih =>
    obtain ⟨row, holds, shown⟩ := each item List.mem_cons_self
    obtain ⟨rows, others, all⟩ := ih fun other member => each other (List.mem_cons_of_mem _ member)
    refine ⟨row :: rows, ?_, List.forall_mem_cons.mpr ⟨holds, all⟩⟩
    rw [List.mapM_cons, shown, others]
    rfl

section Served

variable {readers : Readers} {actor : String} {request : ListRequest} {store : Store} {response : ListResponse}

/-- **A page that is served** is cut from items of the store. -/
theorem served_paged (served : PostgresOrganizationProvisioningPlugin.list readers actor request store =
    .ok response) : 1 ≤ request.limit ∧ request.limit ≤ 100 ∧ ∃ items : List ProvisioningListItem,
      pageOf readers request.limit items = .ok response ∧
      ∀ item ∈ items, ∃ row, listItemFromRow row = some item := by
  unfold PostgresOrganizationProvisioningPlugin.list at served
  split at served
  · cases served
  rename_i accepted
  have limits : 1 ≤ request.limit ∧ request.limit ≤ 100 := not_not.mp (not_or.mp accepted).1
  split at served
  · cases served
  unfold list at served
  split at served
  · rename_i items shown
    change (pageOf readers request.limit items).mapError _ = _ at served
    cases page : pageOf readers request.limit items with
    | error error =>
      rw [page] at served
      cases served
    | ok other =>
      rw [page] at served
      cases served
      refine ⟨limits.1, limits.2, items, page, fun item member => ?_⟩
      obtain ⟨row, -, shows⟩ := (mapM_listItemFromRow shown).2 item member
      exact ⟨row, shows⟩
  · cases served

/-- A page is short, and so is its cursor. -/
theorem served_short (documented : readers.Documented)
    (served : PostgresOrganizationProvisioningPlugin.list readers actor request store = .ok response) :
    response.items.length ≤ 100 ∧ ∀ text, response.nextCursor = some text → text.length ≤ 512 := by
  obtain ⟨low, high, items, paged, dated⟩ := served_paged served
  refine ⟨(pageOf_size paged).trans (by omega), fun text more => ?_⟩
  obtain ⟨item, member, encoded⟩ := pageOf_cursor paged more
  obtain ⟨row, shown⟩ := dated item member
  exact length_cursor documented shown encoded

end Served

/-! ### The exchange -/

section Exchange

variable {Time : Type} {format : TimeFormat Time} {history : List Committed} {store : Store}

variable (format) in
/-- **The response of a saga**: the view is cast, to what it shows. -/
def CastOf (view : ProvisioningView) (row : SagaRow) (rows : List EffectRow) : Prop :=
  ∃ response, wireCast format view = some response ∧ response.Shows format row rows

/-- **The call a response is from**: it was sent with the same key and asked the same, it executed, and its reply
is the one that is given; `saga` is the saga it started or named, as it left it. -/
structure Origin (executing entry : Committed) (saga : Saga) : Prop where
  keyed : executing.event.keyed = entry.event.keyed
  reply : executing.reply = entry.reply
  executed : executes executing = true
  shows : ∃ id, executing.event.sagaId = some id ∧ Shows executing.after id saga

variable (format) in
/-- **The page of an actor**: it is cast, to sagas of the actor, and honours its schema. -/
structure PageOf (actor : String) (store : Store) (response : ListResponse) : Prop where
  cast : ∃ page, wireCastPage format response = some page ∧ page.nextCursor = response.nextCursor ∧
    listSchema (page.toJson format) = true ∧ ∃ rows : List SagaRow,
      List.Forall₂ (ListResponseItemsItem.Shows format) rows page.items ∧
      ∀ row ∈ rows, row ∈ store.sagas.rows ∧ row.requestedBy = actor

variable (format) in
/-- **What goes over the wire**, of the calls of a run, of any `get` beside it and of the pages of its store. -/
structure Exchanged (readers : Readers) (history : List Committed) (store : Store) : Prop where
  /-- A response shows the saga of the call it is from, as this call left it. -/
  replies : ∀ past entry rest view, history = past ++ entry :: rest → entry.reply = .view view →
    ∃ executing ∈ past ++ [entry], ∃ saga, Origin executing entry saga ∧
      CastOf format view saga.row saga.effects
  /-- A `get` shows the saga's row on the store of its first statement, which is the actor's, and the saga's
  effects on the store of its second. -/
  gets : ∀ past last rest id actor view, history = last ++ rest →
    Observes provisioning (get id actor) past (some view) last →
      ∃ between later first second row, last = past ++ between ++ later ∧ Run (past ++ between) first ∧
        Run last second ∧ first.saga id = some row ∧ row.requestedBy = actor ∧
        CastOf format view row (second.stepsOf id)
  /-- A page shows sagas of the actor and honours its schema. -/
  pages : ∀ actor request response,
    PostgresOrganizationProvisioningPlugin.list readers actor request store = .ok response →
      PageOf format actor store response
  /-- The client reads what was sent. -/
  received : (∀ response, Response.fromJson format (Response.toJson format response) = some response) ∧
    ∀ page, ListedResponse.fromJson format (ListedResponse.toJson format page) = some page

/-- The integers of a checked effect. -/
theorem EffectRow.ranged {effect : EffectRow} (checked : effect.checked = true) :
    i64Range effect.attempts ∧ i64Range effect.ordinal := by
  unfold EffectRow.checked EffectPlan.checked EffectProgress.checked at checked
  simp only [Bool.and_eq_true, decide_eq_true_eq] at checked
  obtain ⟨⟨⟨low, high⟩, -⟩, ⟨least, most⟩, -⟩ := checked
  unfold i64Range
  omega

namespace Run

/-- **A page is cast.** -/
theorem page_cast (run : Run history store) (documented : format.Documented) {readers : Readers}
    (reads : readers.Documented) {actor : String} {request : ListRequest} {response : ListResponse}
    (served : PostgresOrganizationProvisioningPlugin.list readers actor request store = .ok response) :
    PageOf format actor store response := by
  obtain ⟨-, -, -, -, lists, -⟩ := list_page reads served
  obtain ⟨short, cursor⟩ := served_short reads served
  obtain ⟨rows, shown, owned⟩ := rows_of_items (P := fun row => row ∈ store.sagas.rows ∧
    ListFilters.selects actor request.status row = true) fun item member => by
      obtain ⟨row, stored, selected, shows⟩ := lists item member
      exact ⟨row, ⟨stored, selected⟩, shows⟩
  obtain ⟨page, cast, next, all⟩ := wireCastPage_shown documented shown response.nextCursor
  have size : page.items.length = response.items.length := by
    have keys := congrArg List.length (mapM_listItemFromRow shown).1
    rw [List.length_map, List.length_map] at keys
    rw [keys, all.length_eq]
  refine ⟨page, cast, next, ListedResponse.accepted (by omega) ?_ ?_, rows, all, fun row member => ?_⟩
  · intro item member
    obtain ⟨row, listed, shows⟩ := exists_partner all member
    have checked := run.holds.checked.sagas row (owned row listed).1
    unfold SagaRow.checked at checked
    rw [decide_eq_true_eq] at checked
    rw [shows.revision]
    exact Numeral.positiveDecimal_toString checked.2.2.2.1.1
  · rw [next]
    exact cursor
  · obtain ⟨stored, selected⟩ := owned row member
    unfold ListFilters.selects at selected
    rw [Bool.and_eq_true, decide_eq_true_eq] at selected
    exact ⟨stored, selected.1⟩

/-- **A reply is cast** to the saga of the call it is from. -/
theorem reply_cast {past rest : List Committed} {entry : Committed} (run : Run (past ++ entry :: rest) store)
    (documented : format.Documented) {view : ProvisioningView} (answered : entry.reply = .view view) :
    ∃ executing ∈ past ++ [entry], ∃ saga, Origin executing entry saga ∧
      CastOf format view saga.row saga.effects := by
  obtain ⟨executing, inside, request, asked, executed⟩ := run.view_executed answered
  obtain ⟨id, saga, names, shows, rendered⟩ := executed.rendered
  have origin : Origin executing entry saga :=
    ⟨executed.asked.trans asked.symm, executed.answered.trans answered.symm, executed.executed, id, names, shows⟩
  refine ⟨executing, inside, saga, origin, wireCast_rendered documented rendered fun effect member => ?_⟩
  have listed : executing ∈ past ++ entry :: rest := by
    rw [← List.singleton_append, ← List.append_assoc]
    exact List.mem_append_left _ inside
  obtain ⟨before, after, shape⟩ := List.append_of_mem listed
  rw [shape] at run
  obtain ⟨-, -, -, upTo⟩ := run.commit_of_mem
  exact EffectRow.ranged ((shows.checked upTo).2 effect member)

/-- **A `get` is cast** to the rows it read. -/
theorem get_cast {past last : List Committed} (documented : format.Documented) {id : Uuid} {actor : String}
    {view : ProvisioningView} (observed : Observes provisioning (get id actor) past (some view) last) :
    ∃ between later first second row, last = past ++ between ++ later ∧ Run (past ++ between) first ∧
      Run last second ∧ first.saga id = some row ∧ row.requestedBy = actor ∧
      CastOf format view row (second.stepsOf id) := by
  obtain ⟨between, later, first, second, rfl, begun, reached, row, present, owner, rendered⟩ :=
    observes_get.mp observed
  refine ⟨between, later, first, second, row, rfl, begun, reached, present, owner,
    wireCast_rendered documented rendered fun effect member => ?_⟩
  rw [Store.stepsOf, mem_orderBy] at member
  exact EffectRow.ranged ((Run.holds reached).checked.effects effect (List.mem_filter.mp member).1)

end Run

/-- **Every response of a run, every `get` beside it and every page is cast to what it shows**, and read back by
the client. -/
theorem responses_exchanged (run : Run history store) (documented : format.Documented) {readers : Readers}
    (reads : readers.Documented) : Exchanged format readers history store where
  replies past entry rest view shape answered := by
    rw [shape] at run
    exact run.reply_cast documented answered
  gets past last rest id actor view _ observed := Run.get_cast documented observed
  pages actor request response served := run.page_cast documented reads served
  received := ⟨Response.fromJson_toJson documented, ListedResponse.fromJson_toJson documented⟩

end Exchange

namespace Rehearsal

/-- Instants kept as the texts they were read from. -/
structure Text where
  text : String

/-- A format that reads every text. -/
def texts : TimeFormat Text where
  read text := some ⟨text⟩
  write := Text.text

theorem texts_documented : texts.Documented where
  reads _ text _ := ⟨⟨text⟩, rfl, rfl⟩
  writes _ := rfl

end Rehearsal

/-- The responses of the rehearsal. -/
theorem responses_exchanged_rehearsed :
    Exchanged Rehearsal.texts utcReaders Rehearsal.history Rehearsal.store :=
  responses_exchanged Rehearsal.run Rehearsal.texts_documented utcReaders_documented

/-! ### Errors -/

/-- **What becomes of an error on its way**, under the codes of a contract. -/
structure Lossless (Code : Type) [ErrorCodes Code] : Prop where
  /-- An error is read back exactly when its other entries are not named as its code or its payload. -/
  back : ∀ error : DomainError Code, DomainError.fromJson error.toJson = .ok error ↔ error.Kept
  /-- What has been read once is read back. -/
  kept : ∀ json, ∀ error : DomainError Code, DomainError.fromJson json = .ok error → error.Kept
  /-- A text is read, and an object with a text for its code. -/
  readable : ∀ json, (∃ error : DomainError Code, DomainError.fromJson json = .ok error) ↔
    (∃ text, json = .str text) ∨ ∃ fields code, json = .obj fields ∧
      (Dictionary.ofEntries fields : Object).lookup "code" = some (.str code)
  /-- A code of the contract is read of its text, and of nothing else. -/
  listed : ∀ json, ∀ code : Code, DomainError.fromJson json = .ok (.known code) ↔
    json = .str (ErrorCodes.name code)
  /-- An object is passed on as it came. -/
  objects : ∀ fields, ∀ error : DomainError Code, DomainError.fromJson (.obj fields) = .ok error →
    error.toJson = .obj (Dictionary.ofEntries fields : Object).entries
  /-- A text is passed on as it came, or as an object when the contract has no such code. -/
  texts : ∀ text, ∀ error : DomainError Code, DomainError.fromJson (.str text) = .ok error →
    error.toJson = .str text ∨
      ((DomainError.codeOf text : Option Code) = none ∧ error.toJson = .obj [("code", .str text)])

namespace DomainError

variable {Code : Type} [ErrorCodes Code]

/-- A text is read. -/
theorem fromJson_str (text : String) : ∃ error : DomainError Code, fromJson (.str text) = .ok error := by
  simp only [fromJson]
  split
  · exact ⟨_, rfl⟩
  · exact ⟨_, rfl⟩

/-- **Which values are read.** -/
theorem fromJson_readable {json : Json} : (∃ error : DomainError Code, fromJson json = .ok error) ↔
    (∃ text, json = .str text) ∨ ∃ fields code, json = .obj fields ∧
      (Dictionary.ofEntries fields : Object).lookup "code" = some (.str code) := by
  constructor
  · rintro ⟨error, read⟩
    unfold fromJson at read
    split at read
    · exact Or.inl ⟨_, rfl⟩
    · obtain ⟨code, found, -⟩ := ofObject_ok.mp read
      exact Or.inr ⟨_, code, rfl, found⟩
    · cases read
  · rintro (⟨text, rfl⟩ | ⟨fields, code, rfl, found⟩)
    · exact fromJson_str text
    · exact ⟨_, ofObject_ok.mpr ⟨code, found, rfl⟩⟩

/-- **A code is read of its text**, and of nothing else. -/
theorem fromJson_known {json : Json} {code : Code} : fromJson json = .ok (.known code) ↔
    json = .str (ErrorCodes.name code) := by
  constructor
  · intro read
    unfold fromJson at read
    split at read
    · split at read <;> cases read
      rename_i named
      rw [name_codeOf named]
    · obtain ⟨other, -, impossible⟩ := ofObject_ok.mp read
      cases impossible
    · cases read
  · rintro rfl
    simp only [fromJson, codeOf_name]

end DomainError

/-- **Errors go over the wire without loss.** -/
theorem errors_exchanged (Code : Type) [ErrorCodes Code] : Lossless Code where
  back := DomainError.fromJson_toJson
  kept _ _ := DomainError.kept_of_fromJson
  readable _ := DomainError.fromJson_readable
  listed _ _ := DomainError.fromJson_known
  objects _ _ := DomainError.toJson_object
  texts _ _ := DomainError.toJson_text

/-- The errors of the two contracts. -/
theorem errors_exchanged_rehearsed : Lossless PublicCode ∧ Lossless WorkerCode :=
  ⟨errors_exchanged PublicCode, errors_exchanged WorkerCode⟩

end OrganizationProvisioning
