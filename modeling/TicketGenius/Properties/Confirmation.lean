import TicketGenius.ServiceLayer.ConfirmationSpec
import TicketGenius.Properties.Purchase

/-!
# Charging for an order

Three questions about `handle_confirm_payment`, all answered from what the handler needs before it
reaches the provider (`Charges`) and what it needs afterwards (`Completable`).

* *Is a charge atomic?*  The provider takes the money first and the checks come after it, so a
  charge is kept for nothing exactly where `Charges` holds and `Completable` does not.
* *Is an order paid by its own intent?*  Neither predicate mentions the intent stored with the
  payment, so any affordable intent of the provider's table will do.
* *Can a new order be paid?*  Its payment is `CREATED`, `capture` asks for `AUTHORIZED`, and no
  handler ever authorizes a payment, so it cannot.
-/

namespace TicketGenius.Confirmation

open Framework OrderCommandHandler
open PaymentSimulatorAdapter (attempt)

variable {self : OrderCommandHandler} {cmd : ConfirmPaymentCommand} {w : World}
  {order : OrderRow} {payment : PaymentRow} {intent : PaymentIntent}

/-! ## Atomicity of a charge -/

/-- Between `w` and `w'` some intent has been turned to `succeeded`. -/
def TurnsSucceeded (w w' : World) : Prop :=
  ∃ id intent', w'.intents.find id = some intent' ∧ intent'.status = .succeeded ∧
    ∀ intent, w.intents.find id = some intent → intent.status ≠ .succeeded

/-- The order is paid and its payment captured, in committed rows. -/
def PaidFor (w : World) (orderId : UUID) : Prop :=
  ∃ order payment, w.orders.find orderId = some order ∧ w.payments.find orderId = some payment ∧
    (order.status = .paid ∨ order.status = .fulfilled) ∧ payment.status = .captured

/-- A confirmation that raises has charged nothing, and one that charges has paid for the order. -/
def ChargeAtomic (self : OrderCommandHandler) (cmd : ConfirmPaymentCommand) (w : World) : Prop :=
  (∀ e w', (self.handleConfirmPayment cmd).run World.handle w = .error e w' →
    ¬ TurnsSucceeded w w') ∧
  ∀ result w', (self.handleConfirmPayment cmd).run World.handle w = .ok result w' →
    TurnsSucceeded w w' → PaidFor w' cmd.orderId

lemma not_turnsSucceeded_of_eq {w w' : World} (h : w'.intents = w.intents) :
    ¬ TurnsSucceeded w w' := by
  rintro ⟨id, intent', hfind, hsucceeded, hbefore⟩
  rw [h] at hfind
  exact hbefore intent' hfind hsucceeded

/-- After an answer of the provider, an intent can have been turned to `succeeded` only if it is
the one that was asked about. -/
lemma TurnsSucceeded.answered {w' : World} {intent' : PaymentIntent}
    (hturns : TurnsSucceeded w w') (hfind : w.intents.find intent'.id = some intent)
    (hintents : w'.intents = w.intents.put intent') :
    intent'.status = .succeeded ∧ intent.status ≠ .succeeded := by
  obtain ⟨id, turned, hturned, hsucceeded, hbefore⟩ := hturns
  rw [hintents] at hturned
  rcases eq_or_ne id intent'.id with rfl | hid
  · rw [Table.find_put_self, Option.some.injEq] at hturned
    rw [hturned]
    exact ⟨hsucceeded, hbefore intent hfind⟩
  · rw [Table.find_put_of_ne _ hid] at hturned
    exact absurd hsucceeded (hbefore turned hturned)

/-- The intent a confirmation is about lies under its own id. -/
lemma find_attempt (h : self.ReachesProvider cmd w order payment intent) (time : ℤ) :
    w.intents.find (attempt intent time).id = some intent := by
  rw [PaymentSimulatorAdapter.attempt_id, w.intents.keyed _ _ h.findIntent]
  exact h.findIntent

/-- A confirmed order is paid for. -/
lemma paidFor_of_confirmed {w' : World} {intent' : PaymentIntent}
    (h : self.ReachesProvider cmd w order payment intent)
    (hconfirmed : Confirmed w w' order payment intent') : PaidFor w' cmd.orderId := by
  have horder : order.orderId = cmd.orderId := w.orders.keyed _ _ h.findOrder
  have hpayment : payment.orderId = cmd.orderId := w.payments.keyed _ _ h.findPayment
  refine ⟨paidRow order, capturedRow payment intent', ?_, ?_, .inl rfl, rfl⟩
  · have hkey : (paidRow order).orderId = cmd.orderId := horder
    rw [hconfirmed.orders, Table.find_put_of_key _ hkey]
  · have hkey : (capturedRow payment intent').orderId = cmd.orderId := hpayment
    rw [hconfirmed.payments, Table.find_put_of_key _ hkey]

/-- **A charge that is kept for nothing**: the provider takes the money and the handler cannot go
on. -/
theorem charge_kept (hcharges : self.Charges cmd w order payment intent)
    (hnew : intent.status ≠ .succeeded)
    (hincomplete : ¬ self.Completable w (self.session.instanceOfOrder order)
      (self.session.instanceOfPayment payment)) :
    ∃ e w', (self.handleConfirmPayment cmd).run World.handle w = .error e w' ∧
      TurnsSucceeded w w' := by
  obtain ⟨time, hsucceeded, -, hraises⟩ := confirm_charges hcharges
  obtain ⟨e, w', hrun, hreported⟩ := hraises hincomplete
  have hfind := find_attempt hcharges.reaches time
  refine ⟨e, w', hrun, (attempt intent time).id, attempt intent time, ?_, hsucceeded, ?_⟩
  · rw [hreported.intents, Table.find_put_self]
  · intro before hbefore
    rw [hfind, Option.some.injEq] at hbefore
    rwa [← hbefore]

/-- **Exactly when a charge is atomic**: wherever the provider would take the money for an intent
that has not been paid yet, everything the handler needs afterwards is there. -/
theorem chargeAtomic_iff (self : OrderCommandHandler) (cmd : ConfirmPaymentCommand) (w : World) :
    ChargeAtomic self cmd w ↔
      ∀ order payment intent, self.Charges cmd w order payment intent →
        intent.status ≠ .succeeded →
        self.Completable w (self.session.instanceOfOrder order)
          (self.session.instanceOfPayment payment) := by
  constructor
  · rintro ⟨hraises, -⟩ order payment intent hcharges hnew
    by_contra hincomplete
    obtain ⟨e, w', hrun, hturns⟩ := charge_kept hcharges hnew hincomplete
    exact hraises e w' hrun hturns
  · intro hcomplete
    refine ⟨?_, ?_⟩
    · intro e w' hrun hturns
      rcases confirm_error hrun with hbeside | ⟨order, payment, intent, time, hreaches, hreported⟩
      · exact not_turnsSucceeded_of_eq hbeside.intents hturns
      · obtain ⟨hsucceeded, hnew⟩ := hturns.answered (find_attempt hreaches time) hreported.intents
        have haffordable : ¬ PaymentSimulatorAdapter.limit < intent.amount.amount := by
          intro hlimit
          rw [PaymentSimulatorAdapter.attempt_status, if_pos hlimit] at hsucceeded
          cases hsucceeded
        have hcharges : self.Charges cmd w order payment intent := ⟨hreaches, haffordable⟩
        obtain ⟨_, -, hreturns, -⟩ := confirm_charges hcharges
        obtain ⟨result, w₁, hreturn, -⟩ := hreturns (hcomplete _ _ _ hcharges hnew)
        rw [hreturn] at hrun
        cases hrun
    · intro result w' hrun _
      obtain ⟨order, payment, intent, time, hcharges, -, hconfirmed⟩ := confirm_ok hrun
      exact paidFor_of_confirmed hcharges.reaches hconfirmed

/-! ### A payment nobody has authorized -/

/-- An order for one ticket, waiting for its payment. -/
def waitingOrder : OrderRow where
  orderId := .nil
  planId := .nil
  quantity := ⟨1, TicketQuantity.one_bounds⟩
  totalAmount := Money.euros 10
  attendeeInfo := Purchase.oneTicket.attendeeInfo
  status := .paymentInitiated
  paymentId := some .nil
  seats := []
  version := 3

/-- The payment of that order, in some status. -/
def waitingPayment (status : PaymentStatus) : PaymentRow where
  paymentId := .nil
  orderId := .nil
  amount := Money.euros 10
  provider := "simulated"
  status := status
  providerRef := none
  intentId := some "pi_own"
  version := 1

/-- An intent over some euros. -/
def openIntent (id : String) (n : ℕ) : PaymentIntent :=
  ⟨id, id ++ "_secret", .requiresPaymentMethod, Money.euros n, []⟩

/-- The order, its payment and its plan, with its intent and one for another, cheaper order. -/
def waiting (status : PaymentStatus) : World :=
  { Purchase.onePlan with
    orders := Table.empty.put waitingOrder
    payments := Table.empty.put (waitingPayment status)
    intents := (Table.empty.put (openIntent "pi_own" 10)).put (openIntent "pi_other" 5) }

/-- A handler whose session hands out instances with the given list of events. -/
def handlerWith (domainEvents : Option (List DomainEvent)) : OrderCommandHandler where
  tm := ⟨true⟩
  session := ⟨fun _ => ⟨domainEvents, true⟩, fun _ => true⟩

/-- A confirmation of the order with some intent. -/
def confirmWith (paymentIntentId : String) : ConfirmPaymentCommand := ⟨.nil, paymentIntentId, ""⟩

lemma waiting_own (self : OrderCommandHandler) (status : PaymentStatus) :
    self.Charges (confirmWith "pi_own") (waiting status) waitingOrder (waitingPayment status)
      (openIntent "pi_own" 10) :=
  { reaches := ⟨rfl, fun _ => rfl, rfl, fun _ => rfl, rfl⟩, affordable := by decide }

lemma waiting_other (self : OrderCommandHandler) (status : PaymentStatus) :
    self.Charges (confirmWith "pi_other") (waiting status) waitingOrder (waitingPayment status)
      (openIntent "pi_other" 5) :=
  { reaches := ⟨rfl, fun _ => rfl, rfl, fun _ => rfl, rfl⟩, affordable := by decide }

/-- With a list of events and an authorized payment, the order can be completed. -/
lemma waiting_completable :
    (handlerWith (some [])).Completable (waiting .authorized)
      ((handlerWith (some [])).session.instanceOfOrder waitingOrder)
      ((handlerWith (some [])).session.instanceOfPayment (waitingPayment .authorized)) where
  authorized := rfl
  initiated := rfl
  plan := by
    simp [waiting, Purchase.onePlan, Purchase.concert, waitingOrder, Table.put,
      Session.instanceOfOrder]
  events := by simp [handlerWith, Session.instanceOfOrder]
  offer := fun _ h => nomatch h
  acceptance := fun _ h => nomatch h

/-- The money for a new order is taken and the call raises. -/
theorem new_payment_charged_for_nothing :
    ¬ ChargeAtomic (handlerWith none) (confirmWith "pi_own") (waiting .created) := by
  rintro ⟨hraises, -⟩
  obtain ⟨e, w', hrun, hturns⟩ := charge_kept (waiting_own (handlerWith none) .created)
    (by decide) fun hcompletable => by cases hcompletable.authorized
  exact hraises e w' hrun hturns

/-! ## Whose intent pays -/

/-- `a == b`. -/
def SameMoney (a b : Money) : Prop := a.amount.NumEq b.amount ∧ a.currency = b.currency

/-- An order is paid only by the intent stored with its payment, over the payment's amount. -/
def PaidByOwnIntent (self : OrderCommandHandler) (cmd : ConfirmPaymentCommand) (w : World)
    (payment : PaymentRow) : Prop :=
  ∀ result w', (self.handleConfirmPayment cmd).run World.handle w = .ok result w' →
    payment.intentId = some cmd.paymentIntentId ∧
    ∃ intent, w'.intents.find cmd.paymentIntentId = some intent ∧
      SameMoney intent.amount payment.amount

/-- What a returning confirmation was about, when the rows are known. -/
lemma charges_of_ok {result : PaymentConfirmedResult} {w' : World}
    (horder : w.orders.find cmd.orderId = some order)
    (hpayment : w.payments.find cmd.orderId = some payment)
    (hrun : (self.handleConfirmPayment cmd).run World.handle w = .ok result w') :
    ∃ intent time, self.Charges cmd w order payment intent ∧
      self.Completable w (self.session.instanceOfOrder order)
        (self.session.instanceOfPayment payment) ∧
      w'.intents.find cmd.paymentIntentId = some (attempt intent time) := by
  obtain ⟨order', payment', intent, time, hcharges, hcompletable, hconfirmed⟩ := confirm_ok hrun
  obtain rfl : order' = order :=
    Option.some.inj (hcharges.reaches.findOrder.symm.trans horder)
  obtain rfl : payment' = payment :=
    Option.some.inj (hcharges.reaches.findPayment.symm.trans hpayment)
  refine ⟨intent, time, hcharges, hcompletable, ?_⟩
  have hid : (attempt intent time).id = cmd.paymentIntentId := by
    rw [PaymentSimulatorAdapter.attempt_id, w.intents.keyed _ _ hcharges.reaches.findIntent]
  rw [hconfirmed.intents, Table.find_put_of_key _ hid]

/-- **Exactly when an order is paid by its own intent**: wherever the command names an affordable
intent and the order can be completed, the command happens to name the right one. -/
theorem paidByOwnIntent_iff (self : OrderCommandHandler) (cmd : ConfirmPaymentCommand) (w : World)
    (order : OrderRow) (payment : PaymentRow)
    (horder : w.orders.find cmd.orderId = some order)
    (hpayment : w.payments.find cmd.orderId = some payment) :
    PaidByOwnIntent self cmd w payment ↔
      ∀ intent, self.Charges cmd w order payment intent →
        self.Completable w (self.session.instanceOfOrder order)
          (self.session.instanceOfPayment payment) →
        payment.intentId = some intent.id ∧ SameMoney intent.amount payment.amount := by
  constructor
  · intro howned intent hcharges hcompletable
    obtain ⟨time, -, hreturns, -⟩ := confirm_charges hcharges
    obtain ⟨result, w', hrun, -⟩ := hreturns hcompletable
    obtain ⟨hid, intent', hfind, hsame⟩ := howned result w' hrun
    obtain ⟨intent₀, time₀, hcharges₀, -, hfind₀⟩ := charges_of_ok horder hpayment hrun
    obtain rfl : intent₀ = intent :=
      Option.some.inj (hcharges₀.reaches.findIntent.symm.trans hcharges.reaches.findIntent)
    obtain rfl := Option.some.inj (hfind₀.symm.trans hfind)
    rw [PaymentSimulatorAdapter.attempt_amount] at hsame
    exact ⟨by rw [hid, w.intents.keyed _ _ hcharges.reaches.findIntent], hsame⟩
  · intro hright result w' hrun
    obtain ⟨intent, time, hcharges, hcompletable, hfind⟩ := charges_of_ok horder hpayment hrun
    obtain ⟨hid, hsame⟩ := hright intent hcharges hcompletable
    rw [w.intents.keyed _ _ hcharges.reaches.findIntent] at hid
    refine ⟨hid, attempt intent time, hfind, ?_⟩
    rwa [PaymentSimulatorAdapter.attempt_amount]

/-- An order is paid by its own intent where the command names it. -/
theorem waiting_paidByOwnIntent :
    PaidByOwnIntent (handlerWith (some [])) (confirmWith "pi_own") (waiting .authorized)
      (waitingPayment .authorized) := by
  refine (paidByOwnIntent_iff _ _ _ waitingOrder (waitingPayment .authorized) rfl rfl).mpr
    fun intent hcharges _ => ?_
  obtain rfl : openIntent "pi_own" 10 = intent := Option.some.inj hcharges.reaches.findIntent
  exact ⟨rfl, by decide, rfl⟩

/-- And it is paid by another order's cheaper intent where the command names that one. -/
theorem paid_by_cheaper_intent :
    ¬ PaidByOwnIntent (handlerWith (some [])) (confirmWith "pi_other") (waiting .authorized)
      (waitingPayment .authorized) := by
  intro howned
  obtain ⟨time, -, hreturns, -⟩ :=
    confirm_charges (waiting_other (handlerWith (some [])) .authorized)
  obtain ⟨result, w', hrun, -⟩ := hreturns waiting_completable
  obtain ⟨hid, -⟩ := howned result w' hrun
  revert hid
  decide

/-! ## Paying for a new order -/

/-- What a purchase leaves when it succeeds: an order with its seats reserved and its payment
initiated, the payment, an intent over the total and the plan; and a confirmation with that
intent, within the provider's limit and under an unused key. -/
structure FreshlyCreated (handler : OrderCommandHandler) (cmd : ConfirmPaymentCommand) (w : World)
    (order : Order) (payment : Payment) (intent : PaymentIntent) (plan : Plan) : Prop where
  builtOrder : ∃ orderId stamp quantity attendeeInfo seats,
    (Order.reserveSeats seats *> Order.initiatePayment payment.paymentId).run
      (Order.create orderId stamp plan.planId quantity payment.amount attendeeInfo) = .ok () order
  builtPayment : ∃ paymentId amount,
    payment = { Payment.create paymentId order.orderId amount "simulated" "" with
      intentId := some intent.id }
  builtIntent : ∃ clientSecret, intent =
    ⟨intent.id, clientSecret, .requiresPaymentMethod, payment.amount,
      [("order_id", order.orderId.str)]⟩
  findOrder : w.orders.find order.orderId = some order.toOrderRow
  findPayment : w.payments.find order.orderId = some payment.toPaymentRow
  findIntent : w.intents.find intent.id = some intent
  findPlan : w.plans.find plan.planId = some plan
  affordable : payment.amount.amount ≤ PaymentSimulatorAdapter.limit
  unused : handler.tm.redis = true → w.redis
    (paymentConfirmKey payment.paymentId (confirmationKey cmd payment.paymentId)) = none
  orderId : cmd.orderId = order.orderId
  paymentIntentId : cmd.paymentIntentId = intent.id

/-- The confirmation returns, and leaves the order paid and the payment captured with a reference
of the provider. -/
def Payable (self : OrderCommandHandler) (cmd : ConfirmPaymentCommand) (w : World) : Prop :=
  ∃ result w', (self.handleConfirmPayment cmd).run World.handle w = .ok result w' ∧
    ∃ order payment, w'.orders.find cmd.orderId = some order ∧
      w'.payments.find cmd.orderId = some payment ∧
      (order.status = .paid ∨ order.status = .fulfilled) ∧ payment.status = .captured ∧
      payment.providerRef ≠ none

/-- A payment that is not authorized is not captured. -/
lemma not_payable (hpayment : w.payments.find cmd.orderId = some payment)
    (hstatus : payment.status ≠ .authorized) : ¬ Payable self cmd w := by
  rintro ⟨result, w', hrun, -⟩
  obtain ⟨order, payment', intent, time, hcharges, hcompletable, -⟩ := confirm_ok hrun
  obtain rfl : payment' = payment :=
    Option.some.inj (hcharges.reaches.findPayment.symm.trans hpayment)
  exact hstatus hcompletable.authorized

/-- **No new order can be paid.** -/
theorem freshlyCreated_not_payable (self : OrderCommandHandler) (cmd : ConfirmPaymentCommand)
    (w : World) (order : Order) (payment : Payment) (intent : PaymentIntent) (plan : Plan)
    (h : FreshlyCreated self cmd w order payment intent plan) : ¬ Payable self cmd w := by
  obtain ⟨paymentId, amount, hbuilt⟩ := h.builtPayment
  have hstatus : payment.toPaymentRow.status ≠ .authorized := by
    rw [hbuilt]
    simp [Payment.create]
  exact not_payable (h.orderId ▸ h.findPayment) hstatus

lemma section_ne : "A" ≠ "" := by decide

lemma number_ne : "1" ≠ "" := by decide

/-- The order of `waiting`, with a seat. -/
def seatedOrder : OrderRow :=
  { waitingOrder with seats := [⟨⟨"A", "1", "1", section_ne, number_ne, number_ne⟩⟩] }

/-- That order as its purchase built it, with its event. -/
def newOrder : Order :=
  { seatedOrder with
    domainEvents := (Order.create .nil ⟨.nil, ⟨0⟩⟩ .nil waitingOrder.quantity (Money.euros 10)
      waitingOrder.attendeeInfo).domainEvents
    statusLoaded := false }

/-- Its payment as its purchase built it. -/
def newPayment : Payment := { waitingPayment .created with statusLoaded := false }

/-- Its intent as its purchase made it. -/
def newIntent : PaymentIntent :=
  ⟨"pi_own", "pi_own_secret", .requiresPaymentMethod, Money.euros 10,
    [("order_id", UUID.nil.str)]⟩

/-- The world after that purchase. -/
def purchased : World :=
  { waiting .created with
    orders := Table.empty.put seatedOrder
    intents := Table.empty.put newIntent }

lemma purchased_freshlyCreated (domainEvents : Option (List DomainEvent)) :
    FreshlyCreated (handlerWith domainEvents) (confirmWith "pi_own") purchased newOrder newPayment
      newIntent Purchase.concert where
  builtOrder := ⟨.nil, ⟨.nil, ⟨0⟩⟩, waitingOrder.quantity, waitingOrder.attendeeInfo,
    seatedOrder.seats, rfl⟩
  builtPayment := ⟨.nil, Money.euros 10, rfl⟩
  builtIntent := ⟨"pi_own_secret", rfl⟩
  findOrder := rfl
  findPayment := rfl
  findIntent := rfl
  findPlan := rfl
  affordable := by decide
  unused := fun _ => rfl
  orderId := rfl
  paymentIntentId := rfl

/-- One such order. -/
theorem purchased_not_payable :
    ¬ Payable (handlerWith (some [])) (confirmWith "pi_own") purchased :=
  freshlyCreated_not_payable _ _ _ _ _ _ _ (purchased_freshlyCreated (some []))

/-- A new order that should be payable and is not. -/
theorem new_order_refused :
    ¬ ∀ self cmd w order payment intent plan,
      FreshlyCreated self cmd w order payment intent plan → Payable self cmd w := by
  intro h
  have hpayable := h _ _ _ _ _ _ _ (purchased_freshlyCreated (some []))
  have hfind : purchased.payments.find UUID.nil = some (waitingPayment .created) := rfl
  exact not_payable hfind (by decide) hpayable

end TicketGenius.Confirmation
