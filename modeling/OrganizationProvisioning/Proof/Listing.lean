/-
**Cursors and pages.**

* `decodeCursor_encodeCursor` — the cursor of an item is read back exactly.
* `decodeCursor_micros` — whatever is read is a whole number of microseconds.
* `list_page` — what the handler returns is a page of the actor's matching sagas.
-/
import OrganizationProvisioning.Model.Listing
import Mathlib.Data.List.TakeDrop

namespace OrganizationProvisioning

open Relational

/-! ### Keys -/

/-- The key the list is ordered by. -/
def listKey (createdAt : Timestamp) (provisioningId : Uuid) : Lex (Timestamp × Uuid) :=
  toLex (createdAt, provisioningId)

def SagaRow.listKey (row : SagaRow) : Lex (Timestamp × Uuid) :=
  OrganizationProvisioning.listKey row.createdAt row.provisioningId

/-- The key a cursor stands for. -/
def PageCursor.listKey (cursor : PageCursor) : Lex (Timestamp × Uuid) :=
  OrganizationProvisioning.listKey cursor.timestamptz cursor.provisioningId

theorem listKey_lt {first second : Timestamp} {one two : Uuid} :
    listKey first one < listKey second two ↔ first < second ∨ (first = second ∧ one < two) :=
  Prod.Lex.toLex_lt_toLex

/-- A row passes a cursor exactly when its key is below the cursor's. -/
theorem passes_some {cursor : PageCursor} {row : SagaRow} :
    ListFilters.passes (some cursor) row = true ↔ row.listKey < cursor.listKey := by
  unfold ListFilters.passes SagaRow.listKey PageCursor.listKey
  rw [Option.all_some, decide_eq_true_eq, listKey_lt]

/-! ### Cursors -/

section Split

variable {mark : Char} {before after : String}

theorem splitOnce_append (free : mark ∉ before.toList) :
    splitOnce mark (before ++ String.singleton mark ++ after) = some (before, after) := by
  have text : (before ++ String.singleton mark ++ after).toList =
      before.toList ++ mark :: after.toList := by
    simp
  have taken : (before.toList ++ mark :: after.toList).takeWhile (fun other => decide (other ≠ mark)) =
      before.toList := by
    rw [List.takeWhile_append_of_pos]
    · simp
    · intro other member
      exact decide_eq_true fun same => free (same ▸ member)
  have dropped : (before.toList ++ mark :: after.toList).dropWhile (fun other => decide (other ≠ mark)) =
      mark :: after.toList := by
    rw [List.dropWhile_append_of_pos]
    · simp
    · intro other member
      exact decide_eq_true fun same => free (same ▸ member)
  unfold splitOnce
  rw [text, List.span_eq_takeWhile_dropWhile, taken, dropped]
  simp

/-- The text of an integer has only digits after its sign. -/
theorem colon_not_mem (value : Int) : ':' ∉ (toString value).toList := by
  have digits : ∀ number : Nat, ':' ∉ Nat.toDigits 10 number := fun number member => by
    have impossible := Nat.isDigit_of_mem_toDigits (by omega) (by omega) member
    exact absurd impossible (by decide)
  cases value with
  | ofNat value =>
    have text : (toString (Int.ofNat value)).toList = Nat.toDigits 10 value := Nat.toList_repr
    rw [text]
    exact digits value
  | negSucc value =>
    have text : (toString (Int.negSucc value)).toList = '-' :: Nat.toDigits 10 (value + 1) := by
      show ("-" ++ Nat.repr (value + 1)).toList = _
      rw [String.toList_append, Nat.toList_repr]
      rfl
    rw [text, List.mem_cons, not_or]
    exact ⟨by decide, digits _⟩

end Split

section Cursor

variable {readers : Readers} {value : Timestamp} {item : ProvisioningListItem}

/-- The text of the cursor of an item that shows an instant. -/
theorem encodeCursor_eq (documented : readers.Documented) (shown : formatTime value = some item.createdAt) :
    encodeCursor readers item = .ok (toString value ++ ":" ++ item.provisioningId.text) := by
  unfold encodeCursor
  rw [documented.times value _ shown]
  have exact : (value * 1000 : Int).tdiv 1000 = value := Int.mul_tdiv_cancel _ (by decide)
  simp only [exact]

/-- **The cursor of an item is read back exactly**: the instant and the id it shows. -/
theorem decodeCursor_encodeCursor (documented : readers.Documented)
    (shown : formatTime value = some item.createdAt) :
    ∃ text cursor, encodeCursor readers item = .ok text ∧ decodeCursor readers text = some cursor ∧
      cursor.createdAt.unixTimestampNanos = value * 1000 ∧
      cursor.provisioningId = item.provisioningId := by
  obtain ⟨low, high⟩ := formatTime_isSome.mp (Option.isSome_iff_exists.mpr ⟨_, shown⟩)
  have low : @LE.le Int _ (-62167219200000000) value := low
  have high : @LE.le Int _ value 253402300799999999 := high
  have first : @LE.le Int _ (-377705116800000000 * 1000) (value * 1000) := by omega
  have last : @LT.lt Int _ (value * 1000) ((253402300799999999 + 1) * 1000) := by omega
  obtain ⟨instant, converted, nanos⟩ := documented.instants (value * 1000) first last
  have parsed := @Numeral.parseBounded_toString (-170141183460469231731687303715884105728)
    170141183460469231731687303715884105727 value (by omega) (by omega)
  have product : checkedMul value 1000 = some (value * 1000) := by
    unfold checkedMul
    rw [if_pos (by unfold i128Range; omega)]
  refine ⟨_, ⟨instant, item.provisioningId⟩, encodeCursor_eq documented shown, ?_, nanos, rfl⟩
  have split := @splitOnce_append ':' (toString value) item.provisioningId.text (colon_not_mem value)
  unfold decodeCursor
  simp only [show ":" = String.singleton ':' from rfl, split, Option.bind_eq_bind, Option.bind_some, parsed,
    product, converted, documented.uuids]
  rfl

/-- **Whatever is read is a whole number of microseconds**, and no product on the way overflows. -/
theorem decodeCursor_micros (documented : readers.Documented) {text : String} {cursor : PageCursor}
    (decoded : decodeCursor readers text = some cursor) : ∃ micros : Int, i128Range micros ∧
      i128Range (micros * 1000) ∧ readers.fromUnixTimestampNanos (micros * 1000) = some cursor.createdAt ∧
      cursor.createdAt.unixTimestampNanos % 1000 = 0 := by
  unfold decodeCursor at decoded
  simp only [Option.bind_eq_bind, Option.bind_eq_some_iff, Option.pure_def, Option.some.injEq] at decoded
  obtain ⟨⟨before, after⟩, split, micros, parsed, nanos, product, instant, converted, id, -, rfl⟩ := decoded
  unfold checkedMul at product
  split at product
  · rename_i fits
    cases product
    have fraction := documented.fractions _ _ converted
    have whole : instant.unixTimestampNanos % 1000 = 0 := by omega
    exact ⟨micros, Numeral.parseBounded_range parsed, fits, converted, whole⟩
  · cases product

/-- The key of a cursor that was read back. -/
theorem listKey_of_micros {cursor : PageCursor} (exact : cursor.createdAt.unixTimestampNanos = value * 1000)
    (same : cursor.provisioningId = item.provisioningId) :
    cursor.listKey = listKey value item.provisioningId := by
  have micros : (value * 1000 : Int) / 1000 = value := Int.mul_ediv_cancel _ (by decide)
  unfold PageCursor.listKey PageCursor.timestamptz
  rw [exact, same]
  exact congrArg (fun instant => listKey instant item.provisioningId) micros

end Cursor

/-! ### The rows of the query -/

section Rows

variable {filters : ListFilters} {store : Store}

/-- The keys of the sagas a list is about. -/
def matching (actor : String) (status : Option String) (store : Store) : Set (Lex (Timestamp × Uuid)) :=
  {key | ∃ row ∈ store.sagas.rows, ListFilters.selects actor status row = true ∧ row.listKey = key}

/-- The rows of the query without its limit. -/
def ListFilters.all (filters : ListFilters) (store : Store) : List SagaRow :=
  orderBy listOrder (store.sagas.rows.filter fun row =>
    selects filters.actor filters.status row && passes filters.cursor row)

theorem mem_all {row : SagaRow} : row ∈ filters.all store ↔ row ∈ store.sagas.rows ∧
    ListFilters.selects filters.actor filters.status row = true ∧
    ListFilters.passes filters.cursor row = true := by
  unfold ListFilters.all
  rw [mem_orderBy, List.mem_filter, Bool.and_eq_true]

theorem passes_iff {cursor : Option PageCursor} {row : SagaRow} :
    ListFilters.passes cursor row = true ↔
      Keyset.Below (cursor.map PageCursor.listKey) row.listKey := by
  cases cursor with
  | none => exact iff_of_true rfl Keyset.below_none
  | some cursor => rw [passes_some, Option.map_some, Keyset.below_some]

theorem mem_all_listKey {key : Lex (Timestamp × Uuid)} :
    key ∈ (filters.all store).map SagaRow.listKey ↔
      key ∈ matching filters.actor filters.status store ∧
        Keyset.Below (filters.cursor.map PageCursor.listKey) key := by
  rw [List.mem_map]
  constructor
  · rintro ⟨row, member, rfl⟩
    obtain ⟨stored, selected, passed⟩ := mem_all.mp member
    exact ⟨⟨row, stored, selected, rfl⟩, passes_iff.mp passed⟩
  · rintro ⟨⟨row, stored, selected, rfl⟩, below⟩
    exact ⟨row, mem_all.mpr ⟨stored, selected, passes_iff.mpr below⟩, rfl⟩

/-- The order of the query is that of the keys, downwards. -/
theorem listOrder_iff {first second : SagaRow} :
    listOrder first second = true ↔ second.listKey ≤ first.listKey := by
  unfold listOrder SagaRow.listKey listKey
  rw [decide_eq_true_eq, Prod.Lex.toLex_le_toLex]

/-- **The rows of the query descend strictly.** -/
theorem all_sorted : ((filters.all store).map SagaRow.listKey).Pairwise (· > ·) := by
  have ordered := pairwise_orderBy listOrder (fun first second => by
    rw [listOrder_iff, listOrder_iff]
    exact le_total _ _) (fun first second third one two => by
    rw [listOrder_iff] at one two ⊢
    exact two.trans one) (store.sagas.rows.filter fun row =>
      ListFilters.selects filters.actor filters.status row && ListFilters.passes filters.cursor row)
  have distinct : ((filters.all store).map fun row => row.provisioningId).Nodup := by
    refine ((perm_orderBy listOrder _).map _).nodup_iff.mpr ?_
    exact store.sagas.unique.sublist (List.filter_sublist.map _)
  rw [List.pairwise_map]
  refine ((ordered.and (List.pairwise_map.mp distinct))).imp fun both => ?_
  refine lt_of_le_of_ne (listOrder_iff.mp both.1) fun same => both.2 ?_
  exact (congrArg (fun key => (ofLex key).2) same).symm

end Rows

/-! ### The items of a page -/

/-- The key an item shows. -/
def ProvisioningListItem.listKey (item : ProvisioningListItem) : Lex (Timestamp × Uuid) :=
  OrganizationProvisioning.listKey ((readTime item.createdAt).getD 0 / 1000) item.provisioningId

/-- The item shows a saga of the store that the list is about. -/
def Lists (actor : String) (status : Option String) (store : Store) (item : ProvisioningListItem) :
    Prop :=
  ∃ row ∈ store.sagas.rows, ListFilters.selects actor status row = true ∧
    listItemFromRow row = some item

/-- An item shows the key of its row. -/
theorem listItemFromRow_some {row : SagaRow} {item : ProvisioningListItem}
    (shown : listItemFromRow row = some item) : formatTime row.createdAt = some item.createdAt ∧
      item.provisioningId = row.provisioningId ∧ item.listKey = row.listKey := by
  unfold listItemFromRow at shown
  simp only [Option.bind_eq_bind, Option.bind_eq_some_iff, Option.pure_def, Option.some.injEq] at shown
  obtain ⟨created, formatted, updated, -, rfl⟩ := shown
  refine ⟨formatted, rfl, ?_⟩
  unfold ProvisioningListItem.listKey SagaRow.listKey
  simp only [readTime_formatTime formatted, Option.getD_some]
  have micros : (row.createdAt * 1000 : Int) / 1000 = row.createdAt := Int.mul_ediv_cancel _ (by decide)
  exact congrArg (fun instant => listKey instant row.provisioningId) micros

theorem mapM_listItemFromRow {rows : List SagaRow} {items : List ProvisioningListItem}
    (shown : rows.mapM listItemFromRow = some items) :
    items.map ProvisioningListItem.listKey = rows.map SagaRow.listKey ∧
      ∀ item ∈ items, ∃ row ∈ rows, listItemFromRow row = some item := by
  induction rows generalizing items with
  | nil =>
    cases shown
    exact ⟨rfl, fun _ impossible => by cases impossible⟩
  | cons row rows ih =>
    rw [List.mapM_cons] at shown
    obtain ⟨first, here, rest⟩ := Option.bind_eq_some_iff.mp shown
    obtain ⟨others, there, same⟩ := Option.bind_eq_some_iff.mp rest
    cases same
    obtain ⟨keys, members⟩ := ih there
    refine ⟨?_, fun item member => ?_⟩
    · rw [List.map_cons, List.map_cons, keys, (listItemFromRow_some here).2.2]
    · rcases List.mem_cons.mp member with rfl | late
      · exact ⟨row, List.mem_cons_self, here⟩
      · obtain ⟨other, listed, shows⟩ := members item late
        exact ⟨other, List.mem_cons_of_mem _ listed, shows⟩

/-- **A page is cut where the lookahead says**, and its next cursor is read as the key of its last item. -/
theorem pageOf_truncate {readers : Readers} (documented : readers.Documented) {limit : Int}
    {items : List ProvisioningListItem} {response : ListResponse}
    (dated : ∀ item ∈ items, ∃ row, listItemFromRow row = some item)
    (paged : pageOf readers limit items = .ok response) (positive : 1 ≤ limit) :
    response.items.Sublist items ∧ ∃ next, requestedCursor readers response.nextCursor = some next ∧
      (response.items.map ProvisioningListItem.listKey, next.map PageCursor.listKey) =
        Keyset.truncate limit.toNat (items.map ProvisioningListItem.listKey) := by
  unfold pageOf at paged
  unfold Keyset.truncate
  rw [List.length_map]
  by_cases full : limit.toNat < items.length
  · rw [if_pos full] at paged
    rw [if_pos full, ← List.map_take, List.getLast?_map]
    cases last : (items.take limit.toNat).getLast? with
    | none =>
      have empty := List.getLast?_eq_none_iff.mp last
      have short := congrArg List.length empty
      rw [List.length_take, List.length_nil] at short
      omega
    | some item =>
      simp only [last] at paged
      have member : item ∈ items := List.mem_of_mem_take (List.mem_of_getLast? last)
      obtain ⟨row, shown⟩ := dated item member
      obtain ⟨formatted, -, key⟩ := listItemFromRow_some shown
      obtain ⟨text, cursor, encoded, decoded, nanos, id⟩ := decodeCursor_encodeCursor documented formatted
      simp only [encoded] at paged
      cases paged
      refine ⟨List.take_sublist _ _, some cursor, ?_, ?_⟩
      · unfold requestedCursor
        simp only [decoded, Option.map_some]
      · rw [Option.map_some, Option.map_some, listKey_of_micros nanos id, key]
        have same : item.provisioningId = row.provisioningId := (listItemFromRow_some shown).2.1
        rw [same]
        rfl
  · rw [if_neg full] at paged
    cases paged
    rw [if_neg full]
    exact ⟨List.Sublist.refl _, none, rfl, rfl⟩

/-- **What the handler returns is a page** of the actor's matching sagas. -/
theorem list_page {readers : Readers} (documented : readers.Documented) {actor : String}
    {request : ListRequest} {store : Store} {response : ListResponse}
    (served : PostgresOrganizationProvisioningPlugin.list readers actor request store = .ok response) :
    ∃ cursor next, requestedCursor readers request.cursor = some cursor ∧
      requestedCursor readers response.nextCursor = some next ∧
      (∀ item ∈ response.items, Lists actor request.status store item) ∧
      Keyset.Page (matching actor request.status store) (cursor.map PageCursor.listKey)
        (response.items.map ProvisioningListItem.listKey) (next.map PageCursor.listKey) := by
  unfold PostgresOrganizationProvisioningPlugin.list at served
  split at served
  · cases served
  rename_i accepted
  have limits : 1 ≤ request.limit ∧ request.limit ≤ 100 := not_not.mp (not_or.mp accepted).1
  split at served
  · cases served
  rename_i cursor decoded
  unfold list at served
  split at served
  · rename_i items shown
    have paged : pageOf readers request.limit items = .ok response := by
      change (pageOf readers request.limit items).mapError _ = _ at served
      cases page : pageOf readers request.limit items with
      | error error =>
        rw [page] at served
        cases served
      | ok other =>
        rw [page] at served
        cases served
        rfl
    obtain ⟨keys, members⟩ := mapM_listItemFromRow shown
    obtain ⟨within, next, requested, cut⟩ := pageOf_truncate documented (fun item member => by
      obtain ⟨row, -, shows⟩ := members item member
      exact ⟨row, shows⟩) paged limits.1
    have take : (ListFilters.rows ⟨actor, request.status, cursor, request.limit + 1⟩ store).map
        SagaRow.listKey = ((ListFilters.all ⟨actor, request.status, cursor, request.limit + 1⟩ store).map
          SagaRow.listKey).take (request.limit.toNat + 1) := by
      rw [← List.map_take, show request.limit.toNat + 1 = (request.limit + 1).toNat by omega]
      rfl
    have page := @Keyset.page_of_sorted _ _ (matching actor request.status store)
      (cursor.map PageCursor.listKey) request.limit.toNat _ (by omega) all_sorted
      (fun key => @mem_all_listKey ⟨actor, request.status, cursor, request.limit + 1⟩ store key)
    rw [← take, ← keys, ← cut] at page
    refine ⟨cursor, next, decoded, requested, fun item member => ?_, page⟩
    obtain ⟨row, listed, shows⟩ := members item (within.subset member)
    obtain ⟨stored, selected, -⟩ := mem_all.mp (List.mem_of_mem_take listed)
    exact ⟨row, stored, selected, shows⟩
  · cases served

/-! ### Readers of UTC texts -/

/-- Readers of the texts the plugin itself writes. -/
def utcReaders : Readers where
  parseTime text := match readTime text with
    | some nanos => .ok nanos
    | none => .error "the text is no instant in UTC"
  fromUnixTimestampNanos nanos :=
    if inside : minInstant * 1000 ≤ nanos ∧ nanos < (maxInstant + 1) * 1000 then some ⟨nanos, inside⟩
    else none
  parseUuid := Uuid.parse

theorem utcReaders_documented : utcReaders.Documented where
  times value text formatted := by
    unfold utcReaders
    simp only [readTime_formatTime formatted]
  instants nanos low high := ⟨⟨nanos, low, high⟩, dif_pos ⟨low, high⟩, rfl⟩
  fractions nanos instant converted := by
    unfold utcReaders at converted
    simp only [Option.dite_none_right_eq_some, Option.some.injEq] at converted
    obtain ⟨_, rfl⟩ := converted
    rfl
  uuids := Uuid.parse_text

end OrganizationProvisioning
