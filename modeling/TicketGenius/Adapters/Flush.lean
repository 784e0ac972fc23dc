import TicketGenius.Domain.Order
import TicketGenius.Domain.Payment

/-!
# What a flush writes

For an instance that has changed since the session loaded it, a flush sends
`UPDATE … SET … WHERE id = …` with the columns whose value is no longer the one the session knows.
The mappers declare no version column, so the statement tests nothing, and it overwrites whatever
another transaction has written to these columns.

Every such statement also sets `updated_at` to the time (`onupdate` in `adapters/orm.py`).  No
function reads that column, and the rows leave it out, as they leave out `created_at`.
-/

namespace TicketGenius

/-- The row of `orders` after a flush of the columns in which `new` differs from `old`, but for
`updated_at`, which becomes the time of the flush. -/
def OrderRow.patch (old new stored : OrderRow) : OrderRow where
  orderId := stored.orderId
  planId := if new.planId = old.planId then stored.planId else new.planId
  quantity := if new.quantity = old.quantity then stored.quantity else new.quantity
  totalAmount := if new.totalAmount = old.totalAmount then stored.totalAmount else new.totalAmount
  attendeeInfo :=
    if new.attendeeInfo = old.attendeeInfo then stored.attendeeInfo else new.attendeeInfo
  status := if new.status = old.status then stored.status else new.status
  paymentId := if new.paymentId = old.paymentId then stored.paymentId else new.paymentId
  seats := if new.seats = old.seats then stored.seats else new.seats
  version := if new.version = old.version then stored.version else new.version

/-- The same for `payments`; its `updated_at` becomes the time of the flush as well. -/
def PaymentRow.patch (old new stored : PaymentRow) : PaymentRow where
  paymentId := stored.paymentId
  orderId := stored.orderId
  amount := if new.amount = old.amount then stored.amount else new.amount
  provider := if new.provider = old.provider then stored.provider else new.provider
  status := if new.status = old.status then stored.status else new.status
  providerRef := if new.providerRef = old.providerRef then stored.providerRef else new.providerRef
  intentId := if new.intentId = old.intentId then stored.intentId else new.intentId
  version := if new.version = old.version then stored.version else new.version

lemma OrderRow.orderId_patch (old new stored : OrderRow) :
    (old.patch new stored).orderId = stored.orderId := rfl

lemma PaymentRow.paymentId_patch (old new stored : PaymentRow) :
    (old.patch new stored).paymentId = stored.paymentId := rfl

/-- Without a commit in between, an update stores the instance as it is. -/
lemma OrderRow.patch_self {old new : OrderRow} (hid : new.orderId = old.orderId) :
    old.patch new old = new := by
  cases old
  cases new
  simp only at hid
  simp [OrderRow.patch, hid]
  grind

lemma PaymentRow.patch_self {old new : PaymentRow} (hid : new.paymentId = old.paymentId)
    (horder : new.orderId = old.orderId) : old.patch new old = new := by
  cases old
  cases new
  simp only at hid horder
  simp [PaymentRow.patch, hid, horder]
  grind

/-- An instance that has not changed leaves the row alone. -/
lemma OrderRow.patch_same (old stored : OrderRow) : old.patch old stored = stored := by
  simp [OrderRow.patch]

lemma PaymentRow.patch_same (old stored : PaymentRow) : old.patch old stored = stored := by
  simp [PaymentRow.patch]

end TicketGenius
