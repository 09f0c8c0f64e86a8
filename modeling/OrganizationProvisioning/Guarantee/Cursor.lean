/-
**The list cursor is exact.**

* `Carries` — an instant and an id, written into a cursor and read back.
* `cursor_exact` — nothing is lost on the way, cursors compare as the stored keys do, and whatever is read
  from any text is a whole number of microseconds in the range of instants.
-/
import OrganizationProvisioning.Proof.Listing

namespace OrganizationProvisioning

/-- The instant is written by `format_time` into the item, the item's cursor by `encode_cursor`, and
`decode_cursor` reads that text. -/
def Carries (readers : Readers) (value : Timestamp) (item : ProvisioningListItem) (cursor : PageCursor) :
    Prop :=
  formatTime value = some item.createdAt ∧
    ∃ text, encodeCursor readers item = .ok text ∧ decodeCursor readers text = some cursor

/-- What was carried is exact. -/
theorem Carries.exact {readers : Readers} (documented : readers.Documented) {value : Timestamp}
    {item : ProvisioningListItem} {cursor : PageCursor} (carries : Carries readers value item cursor) :
    cursor.createdAt.unixTimestampNanos = value * 1000 ∧
      cursor.provisioningId = item.provisioningId := by
  obtain ⟨shown, text, encoded, decoded⟩ := carries
  obtain ⟨text', cursor', encoded', decoded', nanos, id⟩ := decodeCursor_encodeCursor documented shown
  rw [encoded] at encoded'
  cases encoded'
  rw [decoded] at decoded'
  cases decoded'
  exact ⟨nanos, id⟩

/-- **The list cursor is exact**: an instant of years 0 to 9999 and an id come back as they were, cursors
compare as the keys they stand for, and no text is read as anything but a whole number of microseconds. -/
theorem cursor_exact (readers : Readers) (documented : readers.Documented) :
    (∀ (value : Timestamp) (blank : ProvisioningListItem), yearZero ≤ value → value ≤ maxInstant →
      ∃ shown cursor, Carries readers value { blank with createdAt := shown } cursor ∧
        cursor.createdAt.unixTimestampNanos = value * 1000 ∧
        cursor.provisioningId = blank.provisioningId) ∧
    (∀ (value value' : Timestamp) (item item' : ProvisioningListItem) (cursor cursor' : PageCursor),
      Carries readers value item cursor → Carries readers value' item' cursor' →
      (cursor.createdAt.unixTimestampNanos < cursor'.createdAt.unixTimestampNanos ↔ value < value') ∧
      (cursor.listKey < cursor'.listKey ↔
        listKey value item.provisioningId < listKey value' item'.provisioningId) ∧
      ∀ row : SagaRow, ListFilters.passes (some cursor) row = true ↔
        row.listKey < listKey value item.provisioningId) ∧
    (∀ text : String, decodeCursor readers text = none ∨ ∃ cursor micros,
      decodeCursor readers text = some cursor ∧ i128Range micros ∧ i128Range (micros * 1000) ∧
      readers.fromUnixTimestampNanos (micros * 1000) = some cursor.createdAt ∧
      cursor.createdAt.unixTimestampNanos % 1000 = 0 ∧
      minInstant * 1000 ≤ cursor.createdAt.unixTimestampNanos ∧
      cursor.createdAt.unixTimestampNanos < (maxInstant + 1) * 1000) := by
  refine ⟨?_, ?_, ?_⟩
  · intro value blank low high
    obtain ⟨shown, formatted⟩ := Option.isSome_iff_exists.mp (formatTime_isSome.mpr ⟨low, high⟩)
    have written : formatTime value = some { blank with createdAt := shown }.createdAt := formatted
    obtain ⟨text, cursor, encoded, decoded, nanos, id⟩ := decodeCursor_encodeCursor documented written
    exact ⟨shown, cursor, ⟨formatted, text, encoded, decoded⟩, nanos, id⟩
  · intro value value' item item' cursor cursor' carries carries'
    obtain ⟨nanos, id⟩ := carries.exact documented
    obtain ⟨nanos', id'⟩ := carries'.exact documented
    refine ⟨?_, ?_, fun row => ?_⟩
    · rw [nanos, nanos']
      exact Int.mul_lt_mul_right (by decide)
    · rw [listKey_of_micros nanos id, listKey_of_micros nanos' id']
    · rw [passes_some, listKey_of_micros nanos id]
  · intro text
    cases decoded : decodeCursor readers text with
    | none => exact Or.inl rfl
    | some cursor =>
      obtain ⟨micros, fits, product, converted, whole⟩ := decodeCursor_micros documented decoded
      exact Or.inr ⟨cursor, micros, rfl, fits, product, converted, whole, cursor.createdAt.representable⟩

/-- The instant one microsecond before the epoch, carried and read back. -/
theorem cursor_exact_before_epoch : ∃ shown cursor,
    Carries utcReaders (-1) ⟨7, "pending", 1, "n", "s", "o", none, false, false, none, shown, ""⟩ cursor ∧
      cursor.createdAt.unixTimestampNanos = -1000 ∧ cursor.provisioningId = 7 :=
  (cursor_exact utcReaders utcReaders_documented).1 (-1)
    ⟨7, "pending", 1, "n", "s", "o", none, false, false, none, "", ""⟩ (by decide) (by decide)

end OrganizationProvisioning
