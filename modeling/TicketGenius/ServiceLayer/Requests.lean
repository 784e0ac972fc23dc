import TicketGenius.ServiceLayer.TransitionSpec

/-!
# Requests on an order

The three commands on an existing order, each with the handler that serves it.  What serving a
request does to the order and its payment is one of the transitions of `Transition`, or nothing
(`serve_rows`): the two rows move as one small state machine.
-/

namespace TicketGenius

open Framework OrderCommandHandler

/-- A command on an existing order, with the handler that serves it. -/
inductive Request
  | confirm (handler : OrderCommandHandler) (cmd : ConfirmPaymentCommand)
  | cancel (handler : OrderCommandHandler) (cmd : CancelOrderCommand)
  | refund (handler : OrderCommandHandler) (cmd : RefundOrderCommand)

namespace Request

/-- The order a request is about. -/
def orderId : Request → UUID
  | .confirm _ cmd => cmd.orderId
  | .cancel _ cmd => cmd.orderId
  | .refund _ cmd => cmd.orderId

/-- The handler's program, without its result. -/
def program : Request → Service Unit
  | .confirm handler cmd => handler.handleConfirmPayment cmd >>= fun _ => .pure ()
  | .cancel handler cmd => handler.handleCancelOrder cmd
  | .refund handler cmd => handler.handleRefundOrder cmd

/-- The world a request leaves, whether it returns or raises. -/
def serve (w : World) (request : Request) : World := request.program.after World.handle w

lemma serve_of_ok (request : Request) {w w' : World}
    (h : request.program.run World.handle w = .ok () w') : request.serve w = w' :=
  Prog.after_of_ok _ h

lemma serve_of_error (request : Request) {w w' : World} {e : PyError}
    (h : request.program.run World.handle w = .error e w') : request.serve w = w' :=
  Prog.after_of_error _ h

end Request

/-- How a request moves an order and its payment. -/
inductive Transition : Request → OrderRow → PaymentRow → OrderRow → PaymentRow → Prop
  | confirm (handler : OrderCommandHandler) (cmd : ConfirmPaymentCommand) (order : OrderRow)
      (payment : PaymentRow) (intent : PaymentIntent)
      (hinitiated : order.status = .paymentInitiated)
      (hauthorized : payment.status = .authorized) :
      Transition (.confirm handler cmd) order payment (paidRow order) (capturedRow payment intent)
  | cancel (handler : OrderCommandHandler) (cmd : CancelOrderCommand) (order : OrderRow)
      (payment : PaymentRow) (hcancellable : Cancellable order) :
      Transition (.cancel handler cmd) order payment (cancelledRow order) payment
  | refund (handler : OrderCommandHandler) (cmd : RefundOrderCommand) (order : OrderRow)
      (payment : PaymentRow) (hloads : handler.session.Loads order)
      (hrefundable : Refundable order) (hcaptured : payment.status = .captured) :
      Transition (.refund handler cmd) order payment (refundedRow order)
        (repaidRow payment cmd.amount)

namespace Transition

variable {request : Request} {order order' : OrderRow} {payment payment' : PaymentRow}

lemma orderId (h : Transition request order payment order' payment') :
    order'.orderId = order.orderId := by
  cases h <;> rfl

lemma payment_orderId (h : Transition request order payment order' payment') :
    payment'.orderId = payment.orderId := by
  cases h <;> rfl

/-- Every transition is one version of the order. -/
lemma version (h : Transition request order payment order' payment') :
    order'.version = order.version + 1 := by
  cases h <;> rfl

end Transition

/-! ## Serving a request -/

section Serve

variable {request : Request} {w : World} {order : OrderRow} {payment : PaymentRow}

/-- The pair of rows of an order. -/
def World.Stored (w : World) (id : UUID) (order : OrderRow) (payment : PaymentRow) : Prop :=
  w.orders.find id = some order ∧ w.payments.find id = some payment

lemma World.Stored.unique {id : UUID} {order' : OrderRow} {payment' : PaymentRow}
    (h : w.Stored id order payment) (h' : w.Stored id order' payment') :
    order' = order ∧ payment' = payment :=
  ⟨Option.some.inj (h'.1.symm.trans h.1), Option.some.inj (h'.2.symm.trans h.2)⟩

lemma World.Stored.of_eq {id : UUID} {w' : World} (h : w.Stored id order payment)
    (horders : w'.orders = w.orders) (hpayments : w'.payments = w.payments) :
    w'.Stored id order payment :=
  ⟨horders ▸ h.1, hpayments ▸ h.2⟩

/-- New rows filed over both rows. -/
lemma World.Stored.put {id : UUID} {w' : World} {order' : OrderRow} {payment' : PaymentRow}
    (h : w.Stored id order payment) (horderId : order'.orderId = order.orderId)
    (hof : payment'.orderId = payment.orderId) (horders : w'.orders = w.orders.put order')
    (hpayments : w'.payments = w.payments.put payment') : w'.Stored id order' payment' := by
  refine ⟨?_, ?_⟩
  · rw [horders, Table.find_put_of_key _ (horderId.trans (w.orders.keyed _ _ h.1))]
  · rw [hpayments, Table.find_put_of_key _ (hof.trans (w.payments.keyed _ _ h.2))]

/-- New rows filed over the rows of the request's order. -/
lemma stored_put {w' : World} {id : UUID} {oldOrder order' : OrderRow}
    {oldPayment payment' : PaymentRow} (hstored : w.Stored id order payment)
    (hfound : w.Stored request.orderId oldOrder oldPayment)
    (hmove : Transition request oldOrder oldPayment order' payment')
    (horders : w'.orders = w.orders.put order')
    (hpayments : w'.payments = w.payments.put payment') :
    w'.Stored id order payment ∨ (request.orderId = id ∧ ∃ order' payment',
      Transition request order payment order' payment' ∧ w'.Stored id order' payment') := by
  have horderKey : order'.orderId = request.orderId :=
    hmove.orderId.trans (w.orders.keyed _ _ hfound.1)
  have hpaymentKey : payment'.orderId = request.orderId :=
    hmove.payment_orderId.trans (w.payments.keyed _ _ hfound.2)
  rcases eq_or_ne id request.orderId with rfl | hid
  · obtain ⟨rfl, rfl⟩ := hstored.unique hfound
    exact .inr ⟨rfl, order', payment', hmove,
      hstored.put hmove.orderId hmove.payment_orderId horders hpayments⟩
  · refine .inl ⟨?_, ?_⟩
    · rw [horders, Table.find_put_of_ne _ (by rwa [horderKey]), hstored.1]
    · rw [hpayments, Table.find_put_of_ne _ (by rwa [hpaymentKey]), hstored.2]

/-- What serving a confirmation does to an order and its payment. -/
lemma serve_confirm_rows (handler : OrderCommandHandler) (cmd : ConfirmPaymentCommand) {id : UUID}
    (hstored : w.Stored id order payment) :
    ((Request.confirm handler cmd).serve w).Stored id order payment ∨
      ((Request.confirm handler cmd).orderId = id ∧ ∃ order' payment',
        Transition (.confirm handler cmd) order payment order' payment' ∧
          ((Request.confirm handler cmd).serve w).Stored id order' payment') := by
  cases hrun : (handler.handleConfirmPayment cmd).run World.handle w with
  | ok result w' =>
    have hserve : (Request.confirm handler cmd).serve w = w' :=
      Request.serve_of_ok _ (by rw [Request.program, Prog.run_bind_ok _ _ hrun, Prog.run_pure])
    obtain ⟨order', payment', intent, time, hcharges, hcompletable, hconfirmed⟩ := confirm_ok hrun
    rw [hserve]
    exact stored_put hstored ⟨hcharges.reaches.findOrder, hcharges.reaches.findPayment⟩
      (.confirm handler cmd _ _ _ hcompletable.initiated hcompletable.authorized)
      hconfirmed.orders hconfirmed.payments
  | error e w' =>
    have hserve : (Request.confirm handler cmd).serve w = w' :=
      Request.serve_of_error _ (by rw [Request.program, Prog.run_bind_error _ _ hrun])
    rw [hserve]
    rcases confirm_error hrun with hbeside | ⟨_, _, _, _, -, hreported⟩
    · exact .inl (hstored.of_eq hbeside.orders hbeside.payments)
    · exact .inl (hstored.of_eq hreported.orders hreported.payments)

/-- What serving a cancellation does, which leaves the payment alone. -/
lemma serve_cancel_rows (handler : OrderCommandHandler) (cmd : CancelOrderCommand) {id : UUID}
    (hstored : w.Stored id order payment) :
    ((Request.cancel handler cmd).serve w).Stored id order payment ∨
      ((Request.cancel handler cmd).orderId = id ∧ ∃ order' payment',
        Transition (.cancel handler cmd) order payment order' payment' ∧
          ((Request.cancel handler cmd).serve w).Stored id order' payment') := by
  cases hrun : (handler.handleCancelOrder cmd).run World.handle w with
  | ok result w' =>
    obtain ⟨order', hfind, hcancellable, -, hcancelled⟩ := cancel_ok hrun
    rw [Request.serve_of_ok (.cancel handler cmd) hrun]
    have hkey : (cancelledRow order').orderId = cmd.orderId :=
      (Transition.cancel handler cmd order' payment hcancellable).orderId.trans
        (w.orders.keyed _ _ hfind)
    rcases eq_or_ne id cmd.orderId with rfl | hid
    · obtain rfl : order' = order := Option.some.inj (hfind.symm.trans hstored.1)
      refine .inr ⟨rfl, cancelledRow order', payment, .cancel _ _ _ _ hcancellable, ?_, ?_⟩
      · rw [hcancelled.orders, Table.find_put_of_key _ hkey]
      · rw [hcancelled.payments, hstored.2]
    · refine .inl ⟨?_, ?_⟩
      · rw [hcancelled.orders, Table.find_put_of_ne _ (by rwa [hkey]), hstored.1]
      · rw [hcancelled.payments, hstored.2]
  | error e w' =>
    have hbeside := cancel_error hrun
    rw [Request.serve_of_error (.cancel handler cmd) hrun]
    exact .inl (hstored.of_eq hbeside.orders hbeside.payments)

/-- What serving a refund does. -/
lemma serve_refund_rows (handler : OrderCommandHandler) (cmd : RefundOrderCommand) {id : UUID}
    (hstored : w.Stored id order payment) :
    ((Request.refund handler cmd).serve w).Stored id order payment ∨
      ((Request.refund handler cmd).orderId = id ∧ ∃ order' payment',
        Transition (.refund handler cmd) order payment order' payment' ∧
          ((Request.refund handler cmd).serve w).Stored id order' payment') := by
  cases hrun : (handler.handleRefundOrder cmd).run World.handle w with
  | ok result w' =>
    obtain ⟨order', payment', hfind, hloads, hfindPayment, hrefundable, hcaptured, hrefunded⟩ :=
      refund_ok hrun
    rw [Request.serve_of_ok (.refund handler cmd) hrun]
    exact stored_put hstored ⟨hfind, hfindPayment⟩
      (.refund handler cmd _ _ hloads hrefundable hcaptured) hrefunded.orders hrefunded.payments
  | error e w' =>
    have hbeside := refund_error hrun
    rw [Request.serve_of_error (.refund handler cmd) hrun]
    exact .inl (hstored.of_eq hbeside.orders hbeside.payments)

/-- **What serving a request does to an order and its payment**: a transition, if the request is
about them and returns, and otherwise nothing. -/
theorem serve_rows (request : Request) {id : UUID} (hstored : w.Stored id order payment) :
    (request.serve w).Stored id order payment ∨ (request.orderId = id ∧ ∃ order' payment',
      Transition request order payment order' payment' ∧
        (request.serve w).Stored id order' payment') := by
  cases request with
  | confirm handler cmd => exact serve_confirm_rows handler cmd hstored
  | cancel handler cmd => exact serve_cancel_rows handler cmd hstored
  | refund handler cmd => exact serve_refund_rows handler cmd hstored

end Serve

end TicketGenius
