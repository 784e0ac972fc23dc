import TicketGenius.ServiceLayer.Queries
import Mathlib.Data.Char
import Mathlib.Data.List.Lex

/-!
# Walking through the orders

A client reads the orders page by page: first without a cursor, and then with the one
`get_next_cursor` makes of the page before, until a page is empty.  Between the calls rows come and
go.  The pages are those of a keyset walk over `(created_at, id)` (`listOrderRows_eq_page`), since
the condition a cursor adds is the order the query sorts by; so the walk returns nothing twice and
misses nothing that stays (`walk_exact`).
-/

namespace TicketGenius.Pagination

open Framework

/-! ## Walks -/

section Pages

variable [LinearOrder UUID] (json : JsonCodec) (timestamp : Json → Option DateTime)

section Walk

variable (T : ℕ → List StoredOrder) (customerEmail : String) (limit : ℤ)

/-- Call `n`, on the table `T n`. -/
def ask (n : ℕ) (cursor : Option String) : Option (List OrderSummary) :=
  listOrders json timestamp (T n) customerEmail cursor limit

/-- `get_next_cursor(page, "order_id", "created_at")` -/
def nextCursor (page : List OrderSummary) : Option String :=
  getNextCursor json page OrderSummary.orderId OrderSummary.createdAt

/-- What call `n` returns. -/
def pageAt (n : ℕ) : Option (List OrderSummary) :=
  Keyset.answerAt (ask json timestamp T customerEmail limit) none (nextCursor json) n

end Walk

/-! ## Pages of a keyset walk -/

/-- The cursor stands for the bound: without a cursor there is none, and a cursor made of an id and
a moment stands for the moment and, at the same moment, the id. -/
inductive Marks : Option String → WithTop (DateTime ×ₗ UUID) → Prop
  | start : Marks none ⊤
  | after (id : UUID) (moment : DateTime)
      (readable : timestamp (.str moment.isoformat) = some moment) :
      Marks (some (encodeCursor json id moment.isoformat)) (toLex (moment, id) : DateTime ×ₗ UUID)

variable {json timestamp}

/-- The condition of a cursor is the order of the query. -/
lemma before_eq (o : StoredOrder) (moment : DateTime) (id : UUID) :
    o.before moment id = decide (o.sortKey < toLex (moment, id)) := by
  rw [Bool.eq_iff_iff, decide_eq_true_iff, StoredOrder.sortKey, Prod.Lex.toLex_lt_toLex]
  simp [StoredOrder.before]

/-- **A page is a page of a keyset walk.** -/
theorem listOrderRows_eq_page {cursor : Option String} {bound : WithTop (DateTime ×ₗ UUID)}
    (hmarks : Marks json timestamp cursor bound) (orders : List StoredOrder) {limit : ℤ}
    (hlimit : 0 ≤ limit) :
    listOrderRows json timestamp orders cursor limit =
      some (Keyset.page StoredOrder.sortKey limit.toNat orders bound) := by
  rw [listOrderRows, if_neg hlimit.not_gt]
  cases hmarks with
  | start =>
    have hall : orders.filter (fun o => (o.sortKey : WithTop (DateTime ×ₗ UUID)) < ⊤) = orders := by
      simp
    simp only [applyCursorFilter, Keyset.page, Keyset.below, hall, orderByDesc]
  | after id moment hreadable =>
    have hfilter : orders.filter (·.before moment id) = orders.filter fun o =>
        (o.sortKey : WithTop (DateTime ×ₗ UUID)) < (toLex (moment, id) : DateTime ×ₗ UUID) := by
      refine List.filter_congr fun o _ => ?_
      rw [before_eq]
      simp
    rw [applyCursorFilter_encodeCursor]
    simp only [hreadable, Option.map_some, Keyset.page, Keyset.below, hfilter, orderByDesc]

/-! ## Walks of the client -/

section Walk

/-- The client walks through the orders. -/
lemma paged (json : JsonCodec) {T : ℕ → List StoredOrder} (customerEmail : String) {limit : ℤ}
    (htimestamp : ∀ n, ∀ o ∈ T n, timestamp (.str o.createdAt.isoformat) = some o.createdAt)
    (hlimit : 0 ≤ limit) :
    Keyset.Paged StoredOrder.sortKey limit.toNat T StoredOrder.summary
      (ask json timestamp T customerEmail limit) none (nextCursor json) (Marks json timestamp) where
  marks_first := .start
  answer n cursor bound hmarks := by
    rw [ask, listOrders, listOrderRows_eq_page hmarks (T n) hlimit]
    rfl
  marks_next n bound rows last hpage := by
    have hmem : last ∈ Keyset.page StoredOrder.sortKey limit.toNat (T n) bound := by
      rw [hpage]
      exact List.mem_append_right _ List.mem_cons_self
    have hcursor : nextCursor json ((rows ++ [last]).map StoredOrder.summary) =
        some (encodeCursor json last.orderId last.createdAt.isoformat) := by
      simp [nextCursor, getNextCursor, StoredOrder.summary]
    rw [hcursor]
    exact .after _ _ (htimestamp n last (Keyset.lt_of_mem_page hmem).1)

omit [LinearOrder UUID] in
/-- Distinct ids make distinct sort keys. -/
lemma nodup_sortKey {orders : List StoredOrder} (hids : (orders.map (·.orderId)).Nodup) :
    (orders.map StoredOrder.sortKey).Nodup := by
  refine List.Nodup.of_map (fun k : DateTime ×ₗ UUID => (ofLex k).2) ?_
  rwa [List.map_map]

end Walk

end Pages

/-! ### Two orders of one moment -/

/-- Ids in the order of their texts. -/
@[reducible]
def idsByText : LinearOrder UUID :=
  LinearOrder.lift' (fun id => id.str.toList) fun _ _ h =>
    UUID.str_injective (String.toList_inj.mp h)

/-- The database as far as it reads the moment of `earlier` and `later`. -/
def readEpoch : Json → Option DateTime
  | .str s => if s = "1970-01-01T00:00:00+00:00" then some ⟨0⟩ else none
  | _ => none

/-- `json` for cursors with nothing to escape in them. -/
def plainJson : JsonCodec where
  dumps
    | .obj [(_, .str id), (_, .str sortKey)] =>
      "\x7b\"id\":\"" ++ (id ++ ("\",\"sort_key\":\"" ++ (sortKey ++ "\"\x7d")))
    | _ => "null"
  loads text :=
    let chars := text.toList
    some (.obj [("id", .str (String.ofList ((chars.drop 7).take 36))),
      ("sort_key", .str (String.ofList (chars.drop 57).dropLast.dropLast))])
  loads_dumps := by
    intro id sortKey
    have hid : id.str.toList.length = 36 := by
      have hcanonical := id.canonical
      rw [isCanonicalUuid, Bool.and_eq_true] at hcanonical
      simpa using hcanonical.1
    simp [cursorData, String.toList_append, List.drop_append, List.drop_of_length_le, hid]
  dumps_ne_empty := by
    intro data hempty
    have hlist := congrArg String.toList hempty
    split at hlist
    · simp at hlist
    · simp at hlist

/-- An order of the first moment of 1970. -/
def orderWithId (orderId : UUID) : StoredOrder where
  orderId := orderId
  planId := .nil
  quantity := ⟨1, TicketQuantity.one_bounds⟩
  totalAmount := Money.euros 10
  attendeeInfo := ⟨"Ada", "ada@example.com", none, by decide, by decide⟩
  status := .pending
  paymentId := none
  seats := []
  version := 1
  createdAt := ⟨0⟩

/-- Two such orders, of which one is gone after the first call. -/
def twoOrders : ℕ → List StoredOrder
  | 0 => [orderWithId .nil, orderWithId .max]
  | _ + 1 => [orderWithId .nil]

end TicketGenius.Pagination
