import TicketGenius.Domain.Order
import TicketGenius.Framework.Keyset
import TicketGenius.ServiceLayer.Cursor
import Mathlib.Data.Prod.Lex

/-!
# Listing orders

`SqlAlchemyOrderReadRepository.list_orders`, and the query it sends.  The table is a list of rows.
How the database reads the sort key of a cursor as a timestamp is a parameter; ids it compares in a
linear order, the same in `ORDER BY` and in a condition.
-/

namespace TicketGenius

open Framework

/-! ## Rows -/

/-- A row of `orders`, with the column the mapper adds by itself. -/
structure StoredOrder extends OrderRow where
  createdAt : DateTime
deriving DecidableEq

/-- `OrderSummary`; `total_amount` before it is made a float. -/
structure OrderSummary where
  orderId : UUID
  planId : UUID
  planName : String
  status : String
  quantity : ℤ
  totalAmount : Decimal
  currency : Currency
  createdAt : String
deriving DecidableEq

/-- The summary `list_orders` makes of a row. -/
def StoredOrder.summary (o : StoredOrder) : OrderSummary where
  orderId := o.orderId
  planId := o.planId
  planName := ""
  status := o.status.value
  quantity := o.quantity.value
  totalAmount := o.totalAmount.amount
  currency := o.totalAmount.currency
  createdAt := o.createdAt.isoformat

lemma DateTime.micros_injective : Function.Injective DateTime.micros := by
  rintro ⟨m⟩ ⟨n⟩ h
  simp only at h
  rw [h]

instance : LinearOrder DateTime := LinearOrder.lift' DateTime.micros DateTime.micros_injective

/-! ## The query -/

section Query

variable [LinearOrder UUID]

/-- `(created_at, id)`, compared in this order. -/
def StoredOrder.sortKey (o : StoredOrder) : DateTime ×ₗ UUID := toLex (o.createdAt, o.orderId)

/-- The condition `created_at < t OR created_at = t AND id < i`. -/
def StoredOrder.before (t : DateTime) (i : UUID) (o : StoredOrder) : Bool :=
  o.createdAt < t || (o.createdAt == t && o.orderId < i)

/-- `ORDER BY created_at DESC, id DESC` -/
def orderByDesc (rows : List StoredOrder) : List StoredOrder :=
  rows.insertionSort fun a b => b.sortKey ≤ a.sortKey

variable (json : JsonCodec) (timestamp : Json → Option DateTime)

/-- The rows of the page `list_orders` reads; `none` if the database refuses the query, because the
sort key of the cursor is no timestamp or the limit is negative. -/
def listOrderRows (orders : List StoredOrder) (cursor : Option String) (limit : ℤ) :
    Option (List StoredOrder) :=
  if limit < 0 then none
  else match applyCursorFilter json cursor with
    | none => some ((orderByDesc orders).take limit.toNat)
    | some (cursorId, cursorSortKey) => (timestamp cursorSortKey).map fun t =>
      (orderByDesc (orders.filter (·.before t cursorId))).take limit.toNat

/-- `list_orders`, which does not look at the email. -/
def listOrders (orders : List StoredOrder) (_customerEmail : String) (cursor : Option String)
    (limit : ℤ) : Option (List OrderSummary) :=
  (listOrderRows json timestamp orders cursor limit).map (·.map StoredOrder.summary)

end Query

end TicketGenius
