import TicketGenius.Framework.Program
import TicketGenius.Framework.Table
import TicketGenius.Adapters.Flush
import TicketGenius.Adapters.Payment
import TicketGenius.Adapters.Redis
import TicketGenius.Domain.Plan

/-!
# The world of the service layer

The committed database, Redis, the intents of the payment provider, and what the process draws from
outside (UUIDs and clock readings).  `Op` lists the operations the service layer performs on it,
each atomic, and `World.handle` says what they do.

A transaction reads committed rows and works on Python instances of them.  What it changed reaches
the database only with `Op.commit`, as the statements of the session's flush: an `INSERT` for an
added instance and, for a loaded one, an `UPDATE` by primary key of the columns whose value is no
longer the one that was loaded.  The mappers declare no version column, so an `UPDATE` tests
nothing.  `Op.rollback` undoes nothing here, because before the commit nothing has been done.

Two simplifications.  The database stores values of the domain, not their encodings in columns,
though an order whose seats cannot be read back from theirs is not loaded (`Session.load`).  Rows of
the outbox are left out; the unit of work that writes them has a model of its own.
-/

namespace TicketGenius

open Framework

/-! ## State -/

/-- What the process draws: each value once, in order. -/
structure Entropy where
  uuids : ℕ → UUID
  clock : ℕ → DateTime

/-- `uuid4()`. -/
def Entropy.uuid4 (e : Entropy) : UUID × Entropy :=
  (e.uuids 0, { e with uuids := fun n => e.uuids (n + 1) })

/-- A clock reading. -/
def Entropy.now (e : Entropy) : DateTime × Entropy :=
  (e.clock 0, { e with clock := fun n => e.clock (n + 1) })

structure World where
  redis : Redis.Store
  orders : Table UUID OrderRow OrderRow.orderId
  /-- By order: the table has a unique constraint on `order_id`. -/
  payments : Table UUID PaymentRow PaymentRow.orderId
  plans : Table UUID Plan Plan.planId
  intents : Intents
  entropy : Entropy

/-- The world before anything is stored. -/
def World.empty : World where
  redis := fun _ => none
  orders := .empty
  payments := .empty
  plans := .empty
  intents := .empty
  entropy := ⟨fun _ => .nil, fun _ => ⟨0⟩⟩

/-! ## Statements of a flush -/

/-- A statement of a flush. -/
inductive Change
  | insertOrder (row : OrderRow)
  | insertPayment (row : PaymentRow)
  | updateOrder (old new : OrderRow)
  | updatePayment (old new : PaymentRow)

/-- The effect of one statement. -/
def World.apply (w : World) : Change → World
  | .insertOrder row => { w with orders := w.orders.put row }
  | .insertPayment row => { w with payments := w.payments.put row }
  | .updateOrder old new =>
    { w with orders := w.orders.modify old.orderId (old.patch new) fun _ => rfl }
  | .updatePayment old new =>
    { w with payments := w.payments.modify old.orderId (old.patch new) fun _ => rfl }

/-- What is under a key after an update. -/
lemma World.find_updateOrder (w : World) (old new : OrderRow) (orderId : UUID) :
    (w.apply (.updateOrder old new)).orders.find orderId =
      if orderId = old.orderId then (w.orders.find old.orderId).map (old.patch new)
      else w.orders.find orderId :=
  Table.find_modify w.orders old.orderId orderId (old.patch new) fun _ => rfl

lemma World.find_updatePayment (w : World) (old new : PaymentRow) (orderId : UUID) :
    (w.apply (.updatePayment old new)).payments.find orderId =
      if orderId = old.orderId then (w.payments.find old.orderId).map (old.patch new)
      else w.payments.find orderId :=
  Table.find_modify w.payments old.orderId orderId (old.patch new) fun _ => rfl

/-- An update of a row nobody has changed since it was loaded. -/
lemma World.apply_updateOrder {w : World} {old new : OrderRow}
    (h : w.orders.find old.orderId = some old) (hid : new.orderId = old.orderId) :
    w.apply (.updateOrder old new) = { w with orders := w.orders.put new } := by
  have hput : w.orders.modify old.orderId (old.patch new) (fun _ => rfl) = w.orders.put new :=
    Table.modify_eq_put _ h _ (OrderRow.patch_self hid)
  rw [World.apply, hput]

lemma World.apply_updatePayment {w : World} {old new : PaymentRow}
    (h : w.payments.find old.orderId = some old) (hid : new.paymentId = old.paymentId)
    (horder : new.orderId = old.orderId) :
    w.apply (.updatePayment old new) = { w with payments := w.payments.put new } := by
  have hput : w.payments.modify old.orderId (old.patch new) (fun _ => rfl) = w.payments.put new :=
    Table.modify_eq_put _ h _ (PaymentRow.patch_self hid horder)
  rw [World.apply, hput]

/-- A flush that updates an order and its payment, neither changed since it was loaded. -/
lemma World.apply_updates {w : World} {order order' : OrderRow} {payment payment' : PaymentRow}
    (horder : w.orders.find order.orderId = some order)
    (hpayment : w.payments.find payment.orderId = some payment)
    (horderId : order'.orderId = order.orderId)
    (hpaymentId : payment'.paymentId = payment.paymentId)
    (hof : payment'.orderId = payment.orderId) :
    [Change.updateOrder order order', .updatePayment payment payment'].foldl World.apply w =
      { w with orders := w.orders.put order', payments := w.payments.put payment' } := by
  have hfirst := World.apply_updateOrder horder horderId
  have hsecond := World.apply_updatePayment (w := { w with orders := w.orders.put order' })
    hpayment hpaymentId hof
  rw [List.foldl_cons, List.foldl_cons, List.foldl_nil, hfirst, hsecond]

/-- A flush writes nothing but the two tables it is about. -/
lemma World.foldl_apply_frame (changes : List Change) (w : World) :
    (changes.foldl World.apply w).redis = w.redis ∧
      (changes.foldl World.apply w).plans = w.plans ∧
      (changes.foldl World.apply w).intents = w.intents := by
  induction changes generalizing w with
  | nil => exact ⟨rfl, rfl, rfl⟩
  | cons change changes ih =>
    obtain ⟨hredis, hplans, hintents⟩ := ih (w.apply change)
    rw [List.foldl_cons, hredis, hplans, hintents]
    cases change with
    | insertOrder row => exact ⟨rfl, rfl, rfl⟩
    | insertPayment row => exact ⟨rfl, rfl, rfl⟩
    | updateOrder old new => exact ⟨rfl, rfl, rfl⟩
    | updatePayment old new => exact ⟨rfl, rfl, rfl⟩

/-! ## Operations -/

/-- The operations of the service layer. -/
inductive Op
  /-- A Redis command. -/
  | redis (c : Redis.Command)
  /-- The query of `uow.orders.get`; what the session makes of the row is `Session.load`. -/
  | ordersGet (orderId : UUID)
  /-- `uow.payments.get_by_order_id` -/
  | paymentsGetByOrderId (orderId : UUID)
  /-- `uow.plans.get` -/
  | plansGet (planId : UUID)
  /-- `payment_adapter.create_payment_intent` -/
  | createPaymentIntent (amount : Money) (metadata : Dict String)
  /-- `payment_adapter.confirm_payment` -/
  | confirmPayment (paymentIntentId : String)
  /-- `uuid4()` -/
  | uuid4
  /-- `datetime.now(UTC)`, or the clock under `time.time()` -/
  | now
  /-- `session.commit()` with the statements of its flush -/
  | commit (changes : List Change)
  /-- `session.rollback()` -/
  | rollback

/-- What an operation returns. -/
@[reducible]
def Op.Reply : Op → Type
  | .redis c => c.Reply
  | .ordersGet _ => Option OrderRow
  | .paymentsGetByOrderId _ => Option PaymentRow
  | .plansGet _ => Option Plan
  | .createPaymentIntent .. => PaymentIntent
  | .confirmPayment _ => Except PyError PaymentIntent
  | .uuid4 => UUID
  | .now => DateTime
  | .commit _ => Unit
  | .rollback => Unit

/-- The signature of the service layer. -/
@[reducible]
def service : Signature := ⟨Op, Op.Reply⟩

/-- What an operation does to the world. -/
def World.handle : Handler service World
  | .redis c, w =>
    let (reply, redis) := Redis.execute c w.redis
    (reply, { w with redis := redis })
  | .ordersGet orderId, w => (w.orders.find orderId, w)
  | .paymentsGetByOrderId orderId, w => (w.payments.find orderId, w)
  | .plansGet planId, w => (w.plans.find planId, w)
  | .createPaymentIntent amount metadata, w =>
    let (uuid₁, entropy) := w.entropy.uuid4
    let (uuid₂, entropy) := entropy.uuid4
    let (intent, intents) :=
      PaymentSimulatorAdapter.createPaymentIntent w.intents amount metadata uuid₁ uuid₂
    (intent, { w with intents := intents, entropy := entropy })
  | .confirmPayment paymentIntentId, w =>
    let (time, entropy) := w.entropy.now
    let (reply, intents) :=
      PaymentSimulatorAdapter.confirmPayment w.intents paymentIntentId time.timestamp
    (reply, { w with intents := intents, entropy := entropy })
  | .uuid4, w => (w.entropy.uuid4.1, { w with entropy := w.entropy.uuid4.2 })
  | .now, w => (w.entropy.now.1, { w with entropy := w.entropy.now.2 })
  | .commit changes, w => ((), changes.foldl World.apply w)
  | .rollback, w => ((), w)

end TicketGenius
