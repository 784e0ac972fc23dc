import TicketGenius.Framework.Silent
import TicketGenius.ServiceLayer.ConfirmationSpec

/-!
# The handlers, assignment by assignment

The bodies of `Handlers.lean` change an instance all at once and hand the flush over to the commit.
A signal handler sees more: an instance between two assignments, and a session with what has been
assigned or added so far.  Here the same bodies perform each assignment to an attribute of a loaded
instance, and each `add`, as a silent operation (`Mutation`), which the session records
(`InFlight`).  Without these operations they are the bodies of the handlers (`program_eq`).

Adding an instance that the session holds already does nothing, so the calls of `add` after a
cancellation or a refund are left out.
-/

namespace TicketGenius

open Framework Service

/-! ## What a session records -/

/-- A change of an instance in the session, or a new instance. -/
inductive Mutation
  /-- An assignment to an attribute of an order, or an event in its list. -/
  | order (before after : Order)
  /-- An assignment to an attribute of a payment. -/
  | payment (before after : Payment)
  /-- `uow.orders.add` -/
  | addOrder (order : Order)
  /-- `uow.payments.add` -/
  | addPayment (payment : Payment)

/-- The instances a flush would write: the changed ones with the rows that were loaded, and the new
ones.  A handler works on one order and one payment. -/
structure InFlight where
  order : Option (OrderRow × Order)
  payment : Option (PaymentRow × Payment)
  newOrders : List Order
  newPayments : List Payment

/-- A session nothing has been done with. -/
def InFlight.empty : InFlight := ⟨none, none, [], []⟩

/-- The first change of an instance keeps the row it was loaded with. -/
def track {ι ρ : Type} (row : ι → ρ) (before after : ι) (slot : Option (ρ × ι)) : Option (ρ × ι) :=
  some ((slot.map Prod.fst).getD (row before), after)

/-- What a mutation does to the session. -/
def InFlight.record : Mutation → InFlight → InFlight
  | .order before after, s => { s with order := track Order.toOrderRow before after s.order }
  | .payment before after, s =>
    { s with payment := track Payment.toPaymentRow before after s.payment }
  | .addOrder order, s => { s with newOrders := s.newOrders ++ [order] }
  | .addPayment payment, s => { s with newPayments := s.newPayments ++ [payment] }

/-- Programs whose mutations are operations. -/
abbrev Steps (α : Type) : Type := Prog (service.withSilent Mutation) PyError α

/-- Operations on the world and on the session. -/
def InFlight.handle : Handler (service.withSilent Mutation) (World × InFlight) :=
  World.handle.withSilent InFlight.record

/-! ## Shutting down -/

namespace InFlight

/-- What `_collect_domain_events` finds: the events of new and of changed orders. -/
def pendingEvents (s : InFlight) : List DomainEvent :=
  s.newOrders.flatMap (fun order => order.domainEvents.getD []) ++
    (s.order.toList.flatMap fun changed => changed.2.domainEvents.getD [])

/-- The statements of the flush. -/
def changes (s : InFlight) : List Change :=
  s.newOrders.map (fun order => .insertOrder order.toOrderRow) ++
    s.newPayments.map (fun payment => .insertPayment payment.toPaymentRow) ++
    s.order.toList.map (fun changed => .updateOrder changed.1 changed.2.toOrderRow) ++
    s.payment.toList.map (fun changed => .updatePayment changed.1 changed.2.toPaymentRow)

/-- `flush_outbox` of a unit of work that has collected some events before, with the world it
leaves.  An event has no `__dict__`, so `_write_outbox_events` raises as soon as there is one;
without events `session.commit()` is reached. -/
def flushOutbox (domainEvents : List DomainEvent) (s : InFlight) (w : World) : World :=
  if domainEvents ++ s.pendingEvents = [] then s.changes.foldl World.apply w else w

/-- `MessageBus.shutdown`, which passes over every exception. -/
def shutdown (domainEvents : List DomainEvent) (s : InFlight) (w : World) : World :=
  s.flushOutbox domainEvents w

end InFlight

/-! ## Methods -/

def assignOrder (before after : Order) : Steps Order := do
  Prog.silent (.order before after)
  return after

def assignPayment (before after : Payment) : Steps Payment := do
  Prog.silent (.payment before after)
  return after

/-- `self.status = status` and `self.version += 1`, of an order. -/
def moveOrder (status : OrderStatus) (order : Order) : Steps Order := do
  let order ← assignOrder order { order with status := status, statusLoaded := false }
  assignOrder order { order with version := order.version + 1 }

/-- The same of a payment. -/
def movePayment (status : PaymentStatus) (payment : Payment) : Steps Payment := do
  let payment ← assignPayment payment { payment with status := status, statusLoaded := false }
  assignPayment payment { payment with version := payment.version + 1 }

/-- `order.confirm_payment()` -/
def confirmOrder (order : Order) : Steps Order := do
  let order ← (callOrder (Order.requireStatus "confirm payment" [.paymentInitiated]) order).lift
  moveOrder .paid order

/-- `order.cancel(reason)` -/
def cancelOrder (reason : String) (stamp : EventStamp) (order : Order) : Steps Order := do
  let order ← (callOrder
    (Order.requireStatus "cancel" [.pending, .seatsReserved, .paymentInitiated]) order).lift
  let order ← moveOrder .cancelled order
  let emitted ←
    (callOrder (Order.addDomainEvent (.orderCancelled stamp order.orderId reason)) order).lift
  assignOrder order emitted

/-- `order.refund()` -/
def refundOrder (order : Order) : Steps Order := do
  let order ← (callOrder (Order.requireStatus "refund" [.paid, .fulfilled]) order).lift
  moveOrder .refunded order

/-- `payment.capture(provider_ref)` -/
def capturePayment (providerRef : String) (payment : Payment) : Steps Payment := do
  let payment ← (callPayment (Payment.requireStatus "capture" [.authorized]) payment).lift
  let payment ← assignPayment payment { payment with providerRef := some providerRef }
  movePayment .captured payment

/-- `payment.fail(reason)` -/
def failPayment (payment : Payment) : Steps Payment := do
  let payment ← (callPayment (Payment.requireStatus "fail" [.created, .authorized]) payment).lift
  movePayment .failed payment

/-- `payment.refund(amount)` -/
def refundPayment (amount : Option Money) (payment : Payment) : Steps Payment := do
  let payment ← (callPayment (Payment.requireStatus "refund" [.captured]) payment).lift
  movePayment (if payment.refundsAll amount then .refunded else .partiallyRefunded) payment

/-! ## Bodies -/

namespace OrderCommandHandler

variable (self : OrderCommandHandler)

/-- `handle_create_order` before `_save_order_and_payment`. -/
def buildPurchase (cmd : CreateOrderCommand) : Service (Order × Payment × PaymentIntent) := do
  let plan ← getPlan cmd.planId
  let seats ← Prog.ofExcept (parseSeats cmd.seatIds)
  let quantity ← Prog.ofExcept (TicketQuantity.make cmd.quantity)
  let totalAmount ← Prog.ofExcept (calculateTotal plan seats cmd.quantity)
  let orderId ← uuid4
  let stamp ← eventStamp
  let order := Order.create orderId stamp cmd.planId quantity totalAmount cmd.attendeeInfo
  let order ← self.reserveChosenSeats cmd.planId quantity seats order
  let (payment, intent) ← createPaymentAndIntent order totalAmount
  let order ← callOrder (Order.initiatePayment payment.paymentId) order
  return (order, payment, intent)

/-- `_save_order_and_payment` -/
def saveOrderAndPayment (order : Order) (payment : Payment) : Steps Unit := do
  Prog.silent (.addOrder order)
  Prog.silent (.addPayment payment)

def createSteps (cmd : CreateOrderCommand) : Steps (OrderCreatedResult × List Change) := do
  let (order, payment, intent) ← (self.buildPurchase cmd).lift
  saveOrderAndPayment order payment
  return (⟨order.orderId, intent.id, intent.clientSecret, order.status⟩,
    [.insertOrder order.toOrderRow, .insertPayment payment.toPaymentRow])

def declineSteps {α : Type} (order : Order) (payment : Payment) (intent : PaymentIntent) :
    Steps α := do
  let reason := Dict.getD intent.metadata "failure_reason" "Payment failed"
  let _ ← failPayment payment
  (releaseSeatHolds self.tm.redis order.planId order.seatTexts order.orderId).lift
  Prog.raise (.domain (paymentDeclinedError payment.paymentId.str reason))

/-- `self._fulfillment.fulfill(order, plan)`, which ends with an event. -/
def fulfillSteps (order : Order) (plan : Plan) : Steps Order := do
  let (_, fulfilled) ← (FulfillOrderService.fulfill self.tm order plan).lift
  assignOrder order fulfilled

def completeSteps (order : Order) (payment : Payment) (intent : PaymentIntent) :
    Steps (PaymentConfirmedResult × List Change) := do
  let paid ← capturePayment (Dict.getD intent.metadata "captured_at" "") payment
  let confirmed ← confirmOrder order
  let plan ← (getPlan confirmed.planId).lift
  let fulfilled ← self.fulfillSteps confirmed plan
  return (⟨fulfilled.orderId, paid.paymentId, fulfilled.status, paid.providerRef.getD ""⟩,
    [.updateOrder order.toOrderRow fulfilled.toOrderRow,
      .updatePayment payment.toPaymentRow paid.toPaymentRow])

def settleSteps (order : Order) (payment : Payment) (intent : PaymentIntent) :
    Steps (PaymentConfirmedResult × List Change) :=
  if intent.status ≠ .succeeded then self.declineSteps order payment intent
  else self.completeSteps order payment intent

def confirmSteps (cmd : ConfirmPaymentCommand) :
    Steps (PaymentConfirmedResult × List Change) := do
  let orderRow ← (self.getOrder cmd.orderId).lift
  let order := self.session.instanceOfOrder orderRow
  let paymentRow ← (getPayment cmd.orderId).lift
  let payment := self.session.instanceOfPayment paymentRow
  let key := confirmationKey cmd payment.paymentId
  let first ← (checkPaymentIdempotency self.tm.redis payment.paymentId key).lift
  if !first then
    Prog.raise (.domain (idempotencyKeyUsedError key))
  else
    let intent ← (confirmPayment cmd.paymentIntentId >>= Prog.ofExcept).lift
    self.settleSteps order payment intent

def cancelSteps (cmd : CancelOrderCommand) : Steps (Unit × List Change) := do
  let orderRow ← (self.getOrder cmd.orderId).lift
  let order := self.session.instanceOfOrder orderRow
  (releaseSeatHolds self.tm.redis order.planId order.seatTexts order.orderId).lift
  let stamp ← eventStamp.lift
  let cancelled ← cancelOrder cmd.reason stamp order
  return ((), [.updateOrder order.toOrderRow cancelled.toOrderRow])

def refundSteps (cmd : RefundOrderCommand) : Steps (Unit × List Change) := do
  let orderRow ← (self.getOrder cmd.orderId).lift
  let order := self.session.instanceOfOrder orderRow
  let paymentRow ← (getPayment cmd.orderId).lift
  let payment := self.session.instanceOfPayment paymentRow
  let repaid ← refundPayment cmd.amount payment
  let refunded ← refundOrder order
  return ((), [.updateOrder order.toOrderRow refunded.toOrderRow,
    .updatePayment payment.toPaymentRow repaid.toPaymentRow])

end OrderCommandHandler

/-! ## Erasing the mutations -/

/-- Two methods called one after the other. -/
lemma callOrder_seq (first second : OrderM Unit) (order : Order) :
    callOrder (first >>= fun _ => second) order = callOrder first order >>= callOrder second := by
  simp only [callOrder, EStateM.run_bind]
  cases first.run order <;> rfl

lemma callPayment_seq (first second : PaymentM Unit) (payment : Payment) :
    callPayment (first >>= fun _ => second) payment =
      callPayment first payment >>= callPayment second := by
  simp only [callPayment, EStateM.run_bind]
  cases first.run payment <;> rfl

lemma erase_confirmOrder (order : Order) :
    (confirmOrder order).erase = callOrder Order.confirmPayment order := by
  rw [confirmOrder, Order.confirmPayment, callOrder_seq, Prog.erase_bind, Prog.erase_lift]
  rfl

lemma erase_cancelOrder (reason : String) (stamp : EventStamp) (order : Order) :
    (cancelOrder reason stamp order).erase = callOrder (Order.cancel reason stamp) order := by
  rw [cancelOrder, Order.cancel, callOrder_seq, Prog.erase_bind, Prog.erase_lift]
  congr 1
  funext order
  rw [callOrder_seq, Prog.erase_bind]
  show callOrder (Order.moveTo .cancelled) order >>= _ = _
  congr 1
  funext order
  rw [Prog.erase_bind, Prog.erase_lift]
  exact bind_pure _

lemma erase_refundOrder (order : Order) :
    (refundOrder order).erase = callOrder Order.refund order := by
  rw [refundOrder, Order.refund, callOrder_seq, Prog.erase_bind, Prog.erase_lift]
  rfl

lemma erase_capturePayment (providerRef : String) (payment : Payment) :
    (capturePayment providerRef payment).erase =
      callPayment (Payment.capture providerRef) payment := by
  rw [capturePayment, Payment.capture, callPayment_seq, Prog.erase_bind, Prog.erase_lift]
  rfl

lemma erase_failPayment (reason : String) (payment : Payment) :
    (failPayment payment).erase = callPayment (Payment.fail reason) payment := by
  rw [failPayment, Payment.fail, callPayment_seq, Prog.erase_bind, Prog.erase_lift]
  rfl

lemma erase_refundPayment (amount : Option Money) (payment : Payment) :
    (refundPayment amount payment).erase = callPayment (Payment.refund amount) payment := by
  rw [refundPayment, Payment.refund, callPayment_seq, Prog.erase_bind, Prog.erase_lift]
  rfl

namespace OrderCommandHandler

variable (self : OrderCommandHandler)

lemma handleCreateOrder_eq (cmd : CreateOrderCommand) :
    self.handleCreateOrder cmd = withUnitOfWork (self.createSteps cmd).erase := by
  rw [handleCreateOrder, createSteps, Prog.erase_bind, Prog.erase_lift, buildPurchase]
  simp only [bind_assoc, pure_bind]
  rfl

lemma erase_completeSteps (order : Order) (payment : Payment) (intent : PaymentIntent) :
    (self.completeSteps order payment intent).erase =
      self.completePayment order payment intent := by
  simp only [completeSteps, completePayment, fulfillSteps, Prog.erase_bind, Prog.erase_lift,
    erase_capturePayment, erase_confirmOrder, bind_assoc]
  rfl

lemma erase_declineSteps {α : Type} (order : Order) (payment : Payment) (intent : PaymentIntent) :
    (self.declineSteps order payment intent : Steps α).erase =
      self.declinePayment order payment intent := by
  simp only [declineSteps, declinePayment, Prog.erase_bind, Prog.erase_lift,
    erase_failPayment (Dict.getD intent.metadata "failure_reason" "Payment failed")]
  rfl

lemma erase_settleSteps (order : Order) (payment : Payment) (intent : PaymentIntent) :
    (self.settleSteps order payment intent).erase = self.settlePayment order payment intent := by
  unfold settleSteps settlePayment
  split
  · exact self.erase_declineSteps order payment intent
  · exact self.erase_completeSteps order payment intent

lemma erase_confirmSteps (cmd : ConfirmPaymentCommand) :
    (self.confirmSteps cmd).erase = self.confirmBody cmd := by
  simp only [confirmSteps, confirmBody, Prog.erase_bind, Prog.erase_lift]
  congr 1
  funext orderRow
  congr 1
  funext paymentRow
  congr 1
  funext first
  cases first with
  | false => rfl
  | true =>
    show (Prog.lift _ >>= _ : Steps _).erase = _
    simp only [Prog.erase_bind, Prog.erase_lift, erase_settleSteps]
    rfl

lemma erase_cancelSteps (cmd : CancelOrderCommand) :
    (self.cancelSteps cmd).erase = self.cancelBody cmd := by
  simp only [cancelSteps, cancelBody, Prog.erase_bind, Prog.erase_lift, erase_cancelOrder]
  rfl

lemma erase_refundSteps (cmd : RefundOrderCommand) :
    (self.refundSteps cmd).erase = self.refundBody cmd := by
  simp only [refundSteps, refundBody, Prog.erase_bind, Prog.erase_lift, erase_refundPayment,
    erase_refundOrder]
  rfl

end OrderCommandHandler

/-! ## Commands -/

/-- The commands of an `OrderCommandHandler`. -/
inductive OrderCommand
  | create (cmd : CreateOrderCommand)
  | confirm (cmd : ConfirmPaymentCommand)
  | cancel (cmd : CancelOrderCommand)
  | refund (cmd : RefundOrderCommand)

namespace OrderCommand

/-- What the handler of a command returns. -/
@[reducible]
def Result : OrderCommand → Type
  | .create _ => OrderCreatedResult
  | .confirm _ => PaymentConfirmedResult
  | .cancel _ => Unit
  | .refund _ => Unit

/-- The handler of a command. -/
def program (self : OrderCommandHandler) : (command : OrderCommand) → Service command.Result
  | .create cmd => self.handleCreateOrder cmd
  | .confirm cmd => self.handleConfirmPayment cmd
  | .cancel cmd => self.handleCancelOrder cmd
  | .refund cmd => self.handleRefundOrder cmd

/-- The body of its `with` block, with all its mutations. -/
def steps (self : OrderCommandHandler) :
    (command : OrderCommand) → Steps (command.Result × List Change)
  | .create cmd => self.createSteps cmd
  | .confirm cmd => self.confirmSteps cmd
  | .cancel cmd => self.cancelSteps cmd
  | .refund cmd => self.refundSteps cmd

/-- **The handlers are their steps** without the mutations, in a unit of work. -/
theorem program_eq (self : OrderCommandHandler) (command : OrderCommand) :
    command.program self = withUnitOfWork (command.steps self).erase := by
  cases command with
  | create cmd => exact self.handleCreateOrder_eq cmd
  | confirm cmd => exact congrArg withUnitOfWork (self.erase_confirmSteps cmd).symm
  | cancel cmd => exact congrArg withUnitOfWork (self.erase_cancelSteps cmd).symm
  | refund cmd => exact congrArg withUnitOfWork (self.erase_refundSteps cmd).symm

end OrderCommand

/-! ## Guards -/

section Guards

variable {α Γ : Type} {C : Contract (service.withSilent Mutation) Γ} {γ : Γ}
  {Q : Except PyError α → Γ → Prop}

lemma wp_orderGuard {action : String} {allowed : List OrderStatus} {order : Order}
    {f : Order → Steps α} (hf : order.status ∈ allowed → (f order).wp C Q γ)
    (herror : ∀ e, Q (.error e) γ) :
    ((callOrder (Order.requireStatus action allowed) order).lift >>= f).wp C Q γ := by
  refine Prog.wp_lift_bind (wp_callOrder (fun order' hrun => ?_) herror)
  rw [Order.run_requireStatus] at hrun
  by_cases hstatus : order.status ∈ allowed
  · rw [if_pos hstatus] at hrun
    cases hrun
    exact hf hstatus
  · rw [if_neg hstatus] at hrun
    cases hrun

lemma wp_paymentGuard {action : String} {allowed : List PaymentStatus} {payment : Payment}
    {f : Payment → Steps α} (hf : payment.status ∈ allowed → (f payment).wp C Q γ)
    (herror : ∀ e, Q (.error e) γ) :
    ((callPayment (Payment.requireStatus action allowed) payment).lift >>= f).wp C Q γ := by
  refine Prog.wp_lift_bind (wp_callPayment (fun payment' hrun => ?_) herror)
  rw [Payment.run_requireStatus] at hrun
  by_cases hstatus : payment.status ∈ allowed
  · rw [if_pos hstatus] at hrun
    cases hrun
    exact hf hstatus
  · rw [if_neg hstatus] at hrun
    cases hrun

end Guards

/-! ## What a commit writes -/

/-- Any operation is allowed, and the session records the mutations. -/
def recorded : Contract (service.withSilent Mutation) InFlight where
  pre _ _ := True
  allows _ _ _ := True
  next s
    | .inl _, _ => s
    | .inr m, _ => s.record m

lemma recorded_sound : Prog.SoundOn InFlight.handle recorded Prod.snd fun _ => True := by
  intro o s _ _
  cases o with
  | inl o => exact ⟨trivial, rfl, trivial⟩
  | inr m => exact ⟨trivial, rfl, trivial⟩

/-- What is left of a body returns the statements that a flush of the session sends. -/
def Accounts {α : Type} (p : Steps (α × List Change)) (s : InFlight) : Prop :=
  p.wp recorded (fun r s' => ∀ result, r = .ok result → result.2 = s'.changes) s

section Accounts

variable {α β : Type} {s : InFlight}

lemma accounts_lift {p : Service β} {f : β → Steps (α × List Change)}
    (hf : ∀ b, Accounts (f b) s) : Accounts (p.lift >>= f) s := by
  have hp : p.Uses fun _ => True := p.uses_true
  refine Prog.wp_lift_bind (hp.wp (fun _ _ => trivial) (fun _ _ _ => rfl) fun r => ?_)
  cases r with
  | ok b => exact hf b
  | error e => exact fun _ h => nomatch h

lemma accounts_pure {a : α} {changes : List Change} (h : changes = s.changes) :
    Accounts (.pure (a, changes)) s := by
  rintro _ ⟨⟩
  exact h

/-! ### Methods -/

lemma accounts_moveOrder {status : OrderStatus} {order : Order}
    {f : Order → Steps (α × List Change)}
    (hf : ∀ moved, Accounts (f moved) { s with
      order := track Order.toOrderRow order moved s.order }) :
    Accounts (moveOrder status order >>= f) s :=
  ⟨trivial, fun _ _ => ⟨trivial, fun _ _ => hf _⟩⟩

lemma accounts_movePayment {status : PaymentStatus} {payment : Payment}
    {f : Payment → Steps (α × List Change)}
    (hf : ∀ moved, Accounts (f moved) { s with
      payment := track Payment.toPaymentRow payment moved s.payment }) :
    Accounts (movePayment status payment >>= f) s :=
  ⟨trivial, fun _ _ => ⟨trivial, fun _ _ => hf _⟩⟩

/-- Confirming a payment and refunding an order are a guard and a move. -/
lemma accounts_guardedMove {action : String} {allowed : List OrderStatus} {status : OrderStatus}
    {order : Order} {f : Order → Steps (α × List Change)}
    (hf : ∀ moved, Accounts (f moved) { s with
      order := track Order.toOrderRow order moved s.order }) :
    Accounts (((callOrder (Order.requireStatus action allowed) order).lift >>= moveOrder status) >>=
      f) s := by
  rw [bind_assoc]
  exact wp_orderGuard (fun _ => accounts_moveOrder hf) fun _ _ h => nomatch h

lemma accounts_cancelOrder {reason : String} {stamp : EventStamp} {order : Order}
    {f : Order → Steps (α × List Change)}
    (hf : ∀ cancelled, Accounts (f cancelled) { s with
      order := track Order.toOrderRow order cancelled s.order }) :
    Accounts (cancelOrder reason stamp order >>= f) s := by
  rw [cancelOrder, bind_assoc]
  refine wp_orderGuard (fun _ => ?_) fun _ _ h => nomatch h
  rw [bind_assoc]
  refine accounts_moveOrder fun moved => ?_
  rw [bind_assoc]
  exact accounts_lift fun emitted => ⟨trivial, fun _ _ => hf emitted⟩

lemma accounts_capturePayment {providerRef : String} {payment : Payment}
    {f : Payment → Steps (α × List Change)}
    (hf : ∀ paid, Accounts (f paid) { s with
      payment := track Payment.toPaymentRow payment paid s.payment }) :
    Accounts (capturePayment providerRef payment >>= f) s := by
  rw [capturePayment, bind_assoc]
  refine wp_paymentGuard (fun _ => ⟨trivial, fun _ _ => ?_⟩) fun _ _ h => nomatch h
  exact accounts_movePayment hf

lemma accounts_refundPayment {amount : Option Money} {payment : Payment}
    {f : Payment → Steps (α × List Change)}
    (hf : ∀ repaid, Accounts (f repaid) { s with
      payment := track Payment.toPaymentRow payment repaid s.payment }) :
    Accounts (refundPayment amount payment >>= f) s := by
  rw [refundPayment, bind_assoc]
  exact wp_paymentGuard (fun _ => accounts_movePayment hf) fun _ _ h => nomatch h

lemma accounts_failPayment {payment : Payment} {f : Payment → Steps (α × List Change)}
    (hf : ∀ failed, Accounts (f failed) { s with
      payment := track Payment.toPaymentRow payment failed s.payment }) :
    Accounts (failPayment payment >>= f) s := by
  rw [failPayment, bind_assoc]
  exact wp_paymentGuard (fun _ => accounts_movePayment hf) fun _ _ h => nomatch h

/-! ### Bodies -/

variable (self : OrderCommandHandler)

lemma accounts_settleSteps (order : Order) (payment : Payment) (intent : PaymentIntent) :
    Accounts (self.settleSteps order payment intent) .empty := by
  unfold OrderCommandHandler.settleSteps
  split
  · refine accounts_failPayment fun failed => ?_
    exact accounts_lift fun _ _ h => nomatch h
  · refine accounts_capturePayment fun paid => ?_
    refine accounts_guardedMove fun confirmed => ?_
    refine accounts_lift fun plan => ?_
    rw [OrderCommandHandler.fulfillSteps, bind_assoc]
    exact accounts_lift fun fulfilled => ⟨trivial, fun _ _ => accounts_pure rfl⟩

/-- **Every body** returns what a flush sends. -/
theorem accounts_steps (command : OrderCommand) : Accounts (command.steps self) .empty := by
  cases command with
  | create cmd =>
    refine accounts_lift fun purchase => ?_
    exact ⟨trivial, fun _ _ => ⟨trivial, fun _ _ => accounts_pure rfl⟩⟩
  | confirm cmd =>
    refine accounts_lift fun orderRow => accounts_lift fun paymentRow => ?_
    refine accounts_lift fun first => ?_
    cases first with
    | false => exact fun _ h => nomatch h
    | true => exact accounts_lift fun intent => accounts_settleSteps self _ _ intent
  | cancel cmd =>
    refine accounts_lift fun orderRow => accounts_lift fun _ => accounts_lift fun stamp => ?_
    exact accounts_cancelOrder fun cancelled => accounts_pure rfl
  | refund cmd =>
    refine accounts_lift fun orderRow => accounts_lift fun paymentRow => ?_
    refine accounts_refundPayment fun repaid => ?_
    exact accounts_guardedMove fun refunded => accounts_pure rfl

end Accounts

/-- **A command that nothing interrupts** commits what its session has recorded, if its body
returns. -/
theorem OrderCommand.run_program (self : OrderCommandHandler) (command : OrderCommand) (w : World) :
    (command.program self).run World.handle w =
      match (command.steps self).run InFlight.handle (w, .empty) with
      | .ok result (w', s) => .ok result.1 (s.changes.foldl World.apply w')
      | .error e (w', _) => .error e w' := by
  have haccounts :=
    recorded_sound.run_of_wp (s := (w, .empty)) (accounts_steps self command) trivial
  rw [command.program_eq self, run_withUnitOfWork, Prog.run_erase World.handle InFlight.record _ w
    .empty]
  unfold InFlight.handle at haccounts ⊢
  rcases hrun : (command.steps self).run (World.handle.withSilent InFlight.record) (w, .empty) with
    ⟨result, w', s⟩ | ⟨e, w', s⟩
  · rw [hrun] at haccounts
    have hchanges : result.2 = s.changes := haccounts result rfl
    show EStateM.Result.ok result.1 (result.2.foldl World.apply w') =
      .ok result.1 (s.changes.foldl World.apply w')
    rw [hchanges]
  · rfl

end TicketGenius
