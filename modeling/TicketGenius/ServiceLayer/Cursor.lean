import TicketGenius.Language.Base64
import TicketGenius.Language.Json
import TicketGenius.Language.Text

/-!
# Cursors

`service_layer/cursor.py`.  A cursor is the id and the sort key of the last row of a page, as a JSON
document in base64.  What `json` does is a parameter, with the round trip the code relies on.
-/

namespace TicketGenius

/-- The document in a cursor. -/
def cursorData (lastSeenId : UUID) (lastSeenSortKey : String) : Json :=
  .obj [("id", .str lastSeenId.str), ("sort_key", .str lastSeenSortKey)]

/-- `json` of the standard library; `none` where it raises. -/
structure JsonCodec where
  /-- `json.dumps(data, separators=(",", ":"))` -/
  dumps : Json → String
  /-- `json.loads(text)` -/
  loads : String → Option Json
  loads_dumps : ∀ id sortKey, loads (dumps (cursorData id sortKey)) = some (cursorData id sortKey)
  dumps_ne_empty : ∀ data, dumps data ≠ ""

section Cursor

variable (json : JsonCodec)

/-- `encode_cursor` -/
def encodeCursor (lastSeenId : UUID) (lastSeenSortKey : String) : String :=
  Base64.encodeText (json.dumps (cursorData lastSeenId lastSeenSortKey))

/-- `decode_cursor`; the sort key is whatever the document has there. -/
def decodeCursor (cursor : String) : Option (UUID × Json) :=
  match (Base64.decodeText cursor).bind json.loads with
  | some (.obj kvs) =>
    match kvs.lookup "id", kvs.lookup "sort_key" with
    | some (.str id), some sortKey => (UUID.parse id).map fun id => (id, sortKey)
    | _, _ => none
  | _ => none

/-- What `apply_cursor_filter` filters by: rows before this sort key and id, in the pair's order. -/
def applyCursorFilter (cursor : Option String) : Option (UUID × Json) :=
  match cursor with
  | none => none
  | some cursor => if cursor = "" then none else decodeCursor json cursor

/-- `get_next_cursor`, with the attributes it reads; a `datetime` in its ISO form. -/
def getNextCursor {α : Type} (results : List α) (idAttr : α → UUID) (sortAttr : α → String) :
    Option String :=
  results.getLast?.map fun last => encodeCursor json (idAttr last) (sortAttr last)

/-- **Cursors round trip.** -/
theorem decodeCursor_encodeCursor (id : UUID) (sortKey : String) :
    decodeCursor json (encodeCursor json id sortKey) = some (id, .str sortKey) := by
  rw [decodeCursor, encodeCursor, Base64.decodeText_encodeText, Option.bind_some, json.loads_dumps]
  change (UUID.parse id.str).map _ = _
  rw [UUID.parse_str, Option.map_some]

/-- A cursor of the code's own making filters by what it was made of. -/
lemma applyCursorFilter_encodeCursor (id : UUID) (sortKey : String) :
    applyCursorFilter json (some (encodeCursor json id sortKey)) = some (id, .str sortKey) := by
  have hne : encodeCursor json id sortKey ≠ "" := Base64.encodeText_ne_empty (json.dumps_ne_empty _)
  rw [applyCursorFilter, if_neg hne, decodeCursor_encodeCursor]

end Cursor

end TicketGenius
