import TicketGenius.Properties.Pagination

/-!
# Cursors from clients

A cursor the code has made is read back as what it was made of.  But cursors come from clients, and
`decode_cursor` looks at the type of the id only: whatever a document has under `sort_key` becomes
the sort key, and `apply_cursor_filter` compares a column with it.  `safe_iff` says for which texts
this goes wrong.
-/

namespace TicketGenius.CursorSafety

variable (json : JsonCodec)

/-- Nothing, or a UUID with a text. -/
def WellTyped (decoded : Option (UUID × Json)) : Prop :=
  ∀ uuid sortKey, decoded = some (uuid, sortKey) → ∃ text, sortKey = .str text

/-- The cursor is decoded to nothing or to a UUID with a text, and the query is filtered by such a
pair, if at all. -/
structure Safe (cursor : String) : Prop where
  decoded : WellTyped (decodeCursor json cursor)
  filtered : WellTyped (applyCursorFilter json (some cursor))

/-- The cursor is the base64 of a JSON object with the text of a UUID under `id` and a value other
than a text under `sort_key`. -/
def Mistyped (cursor : String) : Prop :=
  ∃ text fields id sortKey, Base64.decodeText cursor = some text ∧
    json.loads text = some (.obj fields) ∧ fields.lookup "id" = some (.str id) ∧
    (∃ uuid, UUID.parse id = some uuid) ∧ fields.lookup "sort_key" = some sortKey ∧
    ∀ s, sortKey ≠ .str s

variable {json} {cursor : String}

/-- What `decode_cursor` returns. -/
lemma decodeCursor_eq_some {uuid : UUID} {sortKey : Json} :
    decodeCursor json cursor = some (uuid, sortKey) ↔
      ∃ text fields id, Base64.decodeText cursor = some text ∧
        json.loads text = some (.obj fields) ∧ fields.lookup "id" = some (.str id) ∧
        UUID.parse id = some uuid ∧ fields.lookup "sort_key" = some sortKey := by
  constructor
  · intro h
    unfold decodeCursor at h
    split at h
    · next fields hloads =>
      obtain ⟨text, htext, hfields⟩ := Option.bind_eq_some_iff.mp hloads
      split at h
      · next id sortKey' hid hsortKey =>
        obtain ⟨uuid', huuid, hpair⟩ := Option.map_eq_some_iff.mp h
        obtain ⟨rfl, rfl⟩ := Prod.mk.inj hpair
        exact ⟨text, fields, id, htext, hfields, hid, huuid, hsortKey⟩
      · cases h
    · cases h
  · rintro ⟨text, fields, id, htext, hfields, hid, huuid, hsortKey⟩
    simp only [decodeCursor, htext, Option.bind_some, hfields, hid, hsortKey, huuid,
      Option.map_some]

/-- The filter uses what was decoded, unless the cursor is empty. -/
lemma filtered_of_decoded (h : WellTyped (decodeCursor json cursor)) :
    WellTyped (applyCursorFilter json (some cursor)) := by
  intro uuid sortKey hfilter
  by_cases hempty : cursor = ""
  · rw [applyCursorFilter, if_pos hempty] at hfilter
    cases hfilter
  · rw [applyCursorFilter, if_neg hempty] at hfilter
    exact h uuid sortKey hfilter

lemma wellTyped_iff : WellTyped (decodeCursor json cursor) ↔ ¬ Mistyped json cursor := by
  constructor
  · rintro h ⟨text, fields, id, sortKey, htext, hfields, hid, ⟨uuid, huuid⟩, hsortKey, hother⟩
    have hdecoded : decodeCursor json cursor = some (uuid, sortKey) :=
      decodeCursor_eq_some.mpr ⟨text, fields, id, htext, hfields, hid, huuid, hsortKey⟩
    obtain ⟨s, hs⟩ := h uuid sortKey hdecoded
    exact hother s hs
  · intro h uuid sortKey hdecoded
    obtain ⟨text, fields, id, htext, hfields, hid, huuid, hsortKey⟩ :=
      decodeCursor_eq_some.mp hdecoded
    by_contra hother
    exact h ⟨text, fields, id, sortKey, htext, hfields, hid, ⟨uuid, huuid⟩, hsortKey,
      fun s hs => hother ⟨s, hs⟩⟩

/-- **Cursors round trip, and exactly the mistyped ones are unsafe.** -/
theorem safe_iff (json : JsonCodec) :
    (∀ id sortKey, decodeCursor json (encodeCursor json id sortKey) = some (id, .str sortKey)) ∧
      ∀ cursor, Safe json cursor ↔ ¬ Mistyped json cursor := by
  refine ⟨decodeCursor_encodeCursor json, fun cursor => ⟨fun h => ?_, fun h => ?_⟩⟩
  · exact wellTyped_iff.mp h.decoded
  · have hdecoded := wellTyped_iff.mpr h
    exact ⟨hdecoded, filtered_of_decoded hdecoded⟩

/-! ### A number as a sort key -/

/-- The document of a cursor, with a number in the place of the sort key. -/
def numberText : String :=
  "\x7b\"id\":\"00000000-0000-0000-0000-000000000000\",\"sort_key\":5\x7d"

/-- It is no document of the code's own making: that has a quotation mark where this has the
number. -/
lemma dumps_ne_numberText (id : UUID) (sortKey : String) :
    Pagination.plainJson.dumps (cursorData id sortKey) ≠ numberText := by
  intro h
  have hid : id.str.toList.length = 36 := by
    have hcanonical := id.canonical
    rw [isCanonicalUuid, Bool.and_eq_true] at hcanonical
    simpa using hcanonical.1
  have hchars : (Pagination.plainJson.dumps (cursorData id sortKey)).toList[56]? =
      numberText.toList[56]? := by rw [h]
  have hquote : (Pagination.plainJson.dumps (cursorData id sortKey)).toList[56]? = some '"' := by
    simp [Pagination.plainJson, cursorData, List.getElem?_append, hid]
  have hnumber : numberText.toList[56]? = some '5' := by decide +kernel
  rw [hquote, hnumber] at hchars
  revert hchars
  decide

/-- The fields of the document. -/
def numberFields : List (String × Json) := [("id", .str UUID.nil.str), ("sort_key", .int 5)]

/-- `json`, for this document and those with nothing to escape in them. -/
def numberJson : JsonCodec where
  dumps := Pagination.plainJson.dumps
  loads text :=
    if text = numberText then some (.obj numberFields) else Pagination.plainJson.loads text
  loads_dumps id sortKey := by
    rw [if_neg (dumps_ne_numberText id sortKey)]
    exact Pagination.plainJson.loads_dumps id sortKey
  dumps_ne_empty := Pagination.plainJson.dumps_ne_empty

/-- The cursor a client makes of it. -/
def numberCursor : String := Base64.encodeText numberText

lemma mistyped_numberCursor : Mistyped numberJson numberCursor := by
  have htext : Base64.decodeText numberCursor = some numberText :=
    Base64.decodeText_encodeText numberText
  have hfields : numberJson.loads numberText = some (.obj numberFields) := by
    change (if numberText = numberText then some (Json.obj numberFields)
      else Pagination.plainJson.loads numberText) = _
    rw [if_pos rfl]
  refine ⟨numberText, numberFields, UUID.nil.str, .int 5, htext, hfields, rfl,
    ⟨.nil, UUID.parse_str .nil⟩, rfl, ?_⟩
  intro s h
  cases h

/-- The number becomes the sort key. -/
theorem number_decoded :
    ¬ ((∀ id sortKey, decodeCursor numberJson (encodeCursor numberJson id sortKey) =
        some (id, .str sortKey)) ∧
      ∀ cursor, Safe numberJson cursor) := by
  intro h
  have hsafe : Safe numberJson numberCursor := h.2 numberCursor
  exact wellTyped_iff.mp hsafe.decoded mistyped_numberCursor

end TicketGenius.CursorSafety
