import TicketGenius.Adapters.Orm
import TicketGenius.ServiceLayer.Commands
import TicketGenius.ServiceLayer.Fulfillment

/-!
# Command handlers

`OrderCommandHandler` of `service_layer/handlers.py`.  Each handler runs inside `with self._uow`:
on a normal exit the session flushes what the body changed and commits, on an exception it rolls
back and the exception goes on.  What the body did to Redis and to the provider's intents is not
part of the transaction and stays done.

A body works on the instances its session hands out.  An instance the session has to load is built
without `__init__`, and `_make_seats` raises if its row has seats; one the session already holds is
returned as it is.  `Session` records which is the case, and the handlers' properties are stated for
every session.
-/

namespace TicketGenius

open Framework Service

/-! ## Instances -/

/-- What an instance of `Order` has besides its row. -/
structure OrderInstance where
  domainEvents : Option (List DomainEvent)
  statusLoaded : Bool

/-- An instance the session loads. -/
def OrderInstance.loaded : OrderInstance := ⟨none, true⟩

/-- What the session's instances have besides their rows. -/
structure Session where
  order : UUID → OrderInstance
  paymentStatusLoaded : UUID → Bool

/-- A session that holds no instance yet. -/
def Session.new : Session := ⟨fun _ => .loaded, fun _ => true⟩

/-- The instance a session has of a row. -/
def Session.instanceOfOrder (session : Session) (row : OrderRow) : Order :=
  { row with
    domainEvents := (session.order row.orderId).domainEvents
    statusLoaded := (session.order row.orderId).statusLoaded }

/-- What `_make_seats` makes of a row when the session loads it.  An instance with a list of events
has been built by its constructor, and is not loaded. -/
def Session.load (session : Session) (row : OrderRow) : Except PyError OrderRow :=
  match (session.order row.orderId).domainEvents with
  | some _ => .ok row
  | none => do
    let seats ← makeSeats (seatsToJson row.seats)
    return { row with seats := seats }

/-- The session has an instance of the row, or can load one. -/
def Session.Loads (session : Session) (row : OrderRow) : Prop :=
  (session.order row.orderId).domainEvents = none → row.seats = []

instance (session : Session) (row : OrderRow) : Decidable (session.Loads row) :=
  inferInstanceAs (Decidable (_ → _))

/-- The instance a session has of a payment's row. -/
def Session.instanceOfPayment (session : Session) (row : PaymentRow) : Payment :=
  { row with statusLoaded := session.paymentStatusLoaded row.paymentId }

lemma Session.load_of_loads {session : Session} {row : OrderRow} (h : session.Loads row) :
    session.load row = .ok row := by
  unfold Session.load
  split
  · rfl
  · next hloaded =>
    have hread : makeSeats (seatsToJson row.seats) = .ok row.seats := by
      rw [h hloaded]
      rfl
    rw [hread]
    rfl

/-- A seat that is read back is refused for its first keyword. -/
lemma Session.load_of_not {session : Session} {row : OrderRow} (h : ¬ session.Loads row) :
    ∃ message, session.load row = .error (.typeError message) := by
  rw [Session.Loads, Classical.not_imp] at h
  obtain ⟨hloaded, hseats⟩ := h
  obtain ⟨seat, seats, hcons⟩ := List.exists_cons_of_ne_nil hseats
  rw [Session.load, hloaded, hcons, makeSeats_seatsToJson_cons]
  exact ⟨_, rfl⟩

/-- A row that is handed out is the stored one. -/
lemma Session.load_eq_ok {session : Session} {row row' : OrderRow}
    (h : session.load row = .ok row') : session.Loads row ∧ row' = row := by
  by_cases hloads : session.Loads row
  · rw [Session.load_of_loads hloads] at h
    exact ⟨hloads, (Except.ok.inj h).symm⟩
  · obtain ⟨message, hraise⟩ := Session.load_of_not hloads
    rw [hraise] at h
    cases h

@[simp] lemma Session.instanceOfOrder_toOrderRow (session : Session) (row : OrderRow) :
    (session.instanceOfOrder row).toOrderRow = row := rfl

@[simp] lemma Session.instanceOfPayment_toPaymentRow (session : Session) (row : PaymentRow) :
    (session.instanceOfPayment row).toPaymentRow = row := rfl

@[simp] lemma Session.instanceOfPayment_paymentId (session : Session) (row : PaymentRow) :
    (session.instanceOfPayment row).paymentId = row.paymentId := rfl

/-! ## The unit of work -/

/-- `with self._uow:` around a body that returns a result and what the flush will write. -/
def withUnitOfWork {α : Type} (body : Service (α × List Change)) : Service α :=
  Prog.onRaise (body >>= fun (result, changes) => do commit changes; return result) rollback

/-- An `OrderCommandHandler`; `tm` is its fulfilment service's adapter. -/
structure OrderCommandHandler where
  tm : TicketmasterAdapter
  session : Session

namespace OrderCommandHandler

variable (self : OrderCommandHandler)

/-- `uow.orders.get`, or `OrderNotFoundError`. -/
def getOrder (orderId : UUID) : Service OrderRow := do
  match ← ordersGet orderId with
  | some row => Prog.ofExcept (self.session.load row)
  | none => Prog.raise (.domain (orderNotFoundError orderId.str))

/-- `uow.payments.get_by_order_id`, or `PaymentNotFoundError`. -/
def getPayment (orderId : UUID) : Service PaymentRow := do
  match ← paymentsGetByOrderId orderId with
  | some row => return row
  | none =>
    Prog.raise (.domain (paymentNotFoundError s!"Payment for order {orderId.str} not found"))

/-- `uow.plans.get`, or `PlanNotFoundError`. -/
def getPlan (planId : UUID) : Service Plan := do
  match ← plansGet planId with
  | some plan => return plan
  | none => Prog.raise (.domain (planNotFoundError planId.str))

/-! ## Creating an order -/

/-- `_parse_seats`. -/
def parseSeats (seatIds : Option (List SeatId)) : Except PyError (List Seat) :=
  match seatIds with
  | none => .ok []
  | some seatIds => seatIds.mapM SeatId.toSeat

/-- `_calculate_total`. -/
def calculateTotal (plan : Plan) (seats : List Seat) (quantity : ℤ) : Except PyError Money :=
  if seats ≠ [] then plan.calculateTotalForSeats seats else plan.minPrice.mul quantity

/-- `_validate_seat_count`. -/
def validateSeatCount (quantity : TicketQuantity) (seats : List Seat) : Except PyError Unit :=
  if (seats.length : ℤ) ≠ quantity.value then
    .error (.domain (seatMismatchError quantity.value seats.length))
  else .ok ()

/-- `_acquire_seat_holds`. -/
def acquireOrRaise (planId : UUID) (seats : List Seat) (orderId : UUID) : Service Unit := do
  let acquired ← self.tm.acquireSeatHolds planId (seats.map Seat.text) orderId
  if !acquired then
    Prog.raise (.domain (insufficientInventoryError planId.str seats.length (seats.length - 1)))

/-- The `if seats:` of `handle_create_order`. -/
def reserveChosenSeats (planId : UUID) (quantity : TicketQuantity) (seats : List Seat)
    (order : Order) : Service Order :=
  if seats ≠ [] then do
    Prog.ofExcept (validateSeatCount quantity seats)
    self.acquireOrRaise planId seats order.orderId
    callOrder (Order.reserveSeats seats) order
  else return order

/-- `_create_payment_and_intent`. -/
def createPaymentAndIntent (order : Order) (totalAmount : Money) :
    Service (Payment × PaymentIntent) := do
  let paymentId ← uuid4
  let payment := Payment.create paymentId order.orderId totalAmount "simulated" ""
  let intent ← createPaymentIntent totalAmount [("order_id", order.orderId.str)]
  return ({ payment with intentId := some intent.id }, intent)

/-- `handle_create_order`. -/
def handleCreateOrder (cmd : CreateOrderCommand) : Service OrderCreatedResult :=
  withUnitOfWork do
    let plan ← getPlan cmd.planId
    let seats ← Prog.ofExcept (parseSeats cmd.seatIds)
    let quantity ← Prog.ofExcept (TicketQuantity.make cmd.quantity)
    let totalAmount ← Prog.ofExcept (calculateTotal plan seats cmd.quantity)
    let orderId ← uuid4
    let stamp ← eventStamp
    let order := Order.create orderId stamp cmd.planId quantity totalAmount cmd.attendeeInfo
    let order ← self.reserveChosenSeats cmd.planId quantity seats order
    let (payment, intent) ← createPaymentAndIntent order totalAmount
    let order ← callOrder (Order.initiatePayment payment.paymentId) order
    return (⟨order.orderId, intent.id, intent.clientSecret, order.status⟩,
      [.insertOrder order.toOrderRow, .insertPayment payment.toPaymentRow])

/-! ## Confirming a payment -/

/-- `getattr(cmd, "idempotency_key", None) or f"payment_{payment.payment_id}"` -/
def confirmationKey (cmd : ConfirmPaymentCommand) (paymentId : UUID) : String :=
  if cmd.idempotencyKey = "" then "payment_" ++ paymentId.str else cmd.idempotencyKey

/-- The branch of `handle_confirm_payment` for a declined payment. -/
def declinePayment {α : Type} (order : Order) (payment : Payment) (intent : PaymentIntent) :
    Service α := do
  let reason := Dict.getD intent.metadata "failure_reason" "Payment failed"
  let _ ← callPayment (Payment.fail reason) payment
  releaseSeatHolds self.tm.redis order.planId order.seatTexts order.orderId
  Prog.raise (.domain (paymentDeclinedError payment.paymentId.str reason))

/-- The rest of `handle_confirm_payment` once the provider has taken the money. -/
def completePayment (order : Order) (payment : Payment) (intent : PaymentIntent) :
    Service (PaymentConfirmedResult × List Change) := do
  let paid ← callPayment (Payment.capture (Dict.getD intent.metadata "captured_at" "")) payment
  let confirmed ← callOrder Order.confirmPayment order
  let plan ← getPlan confirmed.planId
  let (_, fulfilled) ← FulfillOrderService.fulfill self.tm confirmed plan
  return (⟨fulfilled.orderId, paid.paymentId, fulfilled.status, paid.providerRef.getD ""⟩,
    [.updateOrder order.toOrderRow fulfilled.toOrderRow,
      .updatePayment payment.toPaymentRow paid.toPaymentRow])

/-- `handle_confirm_payment` once the provider has answered. -/
def settlePayment (order : Order) (payment : Payment) (intent : PaymentIntent) :
    Service (PaymentConfirmedResult × List Change) :=
  if intent.status ≠ .succeeded then self.declinePayment order payment intent
  else self.completePayment order payment intent

/-- The body of `handle_confirm_payment`. -/
def confirmBody (cmd : ConfirmPaymentCommand) :
    Service (PaymentConfirmedResult × List Change) := do
  let orderRow ← self.getOrder cmd.orderId
  let order := self.session.instanceOfOrder orderRow
  let paymentRow ← getPayment cmd.orderId
  let payment := self.session.instanceOfPayment paymentRow
  let key := confirmationKey cmd payment.paymentId
  let first ← checkPaymentIdempotency self.tm.redis payment.paymentId key
  if !first then
    Prog.raise (.domain (idempotencyKeyUsedError key))
  else
    let intent ← confirmPayment cmd.paymentIntentId >>= Prog.ofExcept
    self.settlePayment order payment intent

/-- `handle_confirm_payment`. -/
def handleConfirmPayment (cmd : ConfirmPaymentCommand) : Service PaymentConfirmedResult :=
  withUnitOfWork (self.confirmBody cmd)

/-! ## Cancelling and refunding -/

/-- The body of `handle_cancel_order`. -/
def cancelBody (cmd : CancelOrderCommand) : Service (Unit × List Change) := do
  let orderRow ← self.getOrder cmd.orderId
  let order := self.session.instanceOfOrder orderRow
  releaseSeatHolds self.tm.redis order.planId order.seatTexts order.orderId
  let stamp ← eventStamp
  let cancelled ← callOrder (Order.cancel cmd.reason stamp) order
  return ((), [.updateOrder order.toOrderRow cancelled.toOrderRow])

/-- `handle_cancel_order`. -/
def handleCancelOrder (cmd : CancelOrderCommand) : Service Unit :=
  withUnitOfWork (self.cancelBody cmd)

/-- The body of `handle_refund_order`; a `Money` is never false, so an amount is passed on whenever
there is one. -/
def refundBody (cmd : RefundOrderCommand) : Service (Unit × List Change) := do
  let orderRow ← self.getOrder cmd.orderId
  let order := self.session.instanceOfOrder orderRow
  let paymentRow ← getPayment cmd.orderId
  let payment := self.session.instanceOfPayment paymentRow
  let repaid ← callPayment (Payment.refund cmd.amount) payment
  let refunded ← callOrder Order.refund order
  return ((), [.updateOrder order.toOrderRow refunded.toOrderRow,
    .updatePayment payment.toPaymentRow repaid.toPaymentRow])

/-- `handle_refund_order`. -/
def handleRefundOrder (cmd : RefundOrderCommand) : Service Unit :=
  withUnitOfWork (self.refundBody cmd)

end OrderCommandHandler

end TicketGenius
