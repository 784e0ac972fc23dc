import TicketGenius.ServiceLayer.ConfirmationSpec

/-!
# What cancelling and refunding do

Both handlers do all they do to records in the commit, so a run that raises changes none of them
(`cancel_error`, `refund_error`).  A run that returns has found its rows in the statuses its
transitions ask for, and files the new rows over them (`cancel_ok`, `refund_ok`).
-/

namespace TicketGenius

open Framework Service

/-! ## Runs of a unit of work -/

section UnitOfWork

variable {α : Type} {body : Service (α × List Change)} {w w' : World}

/-- The commit is all that a unit of work does to records. -/
lemma withUnitOfWork_ok (hbody : body.Aside) {a : α}
    (hrun : (withUnitOfWork body).run World.handle w = .ok a w') :
    ∃ changes w₁, body.run World.handle w = .ok (a, changes) w₁ ∧ w.Beside w₁ ∧
      w' = changes.foldl World.apply w₁ := by
  rw [run_withUnitOfWork] at hrun
  cases hresult : body.run World.handle w with
  | error e w₁ =>
    rw [hresult] at hrun
    cases hrun
  | ok result w₁ =>
    obtain ⟨a', changes⟩ := result
    rw [hresult] at hrun
    cases hrun
    exact ⟨changes, w₁, rfl, hbody.run_ok hresult, rfl⟩

/-- Without a commit no record changes. -/
lemma withUnitOfWork_error (hbody : body.Aside) {e : PyError}
    (hrun : (withUnitOfWork body).run World.handle w = .error e w') : w.Beside w' := by
  rw [run_withUnitOfWork] at hrun
  cases hresult : body.run World.handle w with
  | error e' w₁ =>
    rw [hresult] at hrun
    cases hrun
    exact hbody.run_error hresult
  | ok result w₁ =>
    rw [hresult] at hrun
    cases hrun

end UnitOfWork

namespace OrderCommandHandler

variable {self : OrderCommandHandler} {w w' : World}

/-! ## Reading rows -/

lemma aside_getOrder (self : OrderCommandHandler) (orderId : UUID) :
    (self.getOrder orderId).Aside := by
  refine Prog.Uses.bind (p := ordersGet _) ⟨trivial, fun _ => trivial⟩ fun row => ?_
  rcases row with _ | row
  · trivial
  · exact Prog.uses_ofExcept _

lemma aside_getPayment (orderId : UUID) : (getPayment orderId).Aside := by
  refine Prog.Uses.bind (p := paymentsGetByOrderId _) ⟨trivial, fun _ => trivial⟩ fun row => ?_
  rcases row with _ | row
  · trivial
  · trivial

lemma run_getOrder_eq_ok {orderId : UUID} {row : OrderRow}
    (h : (self.getOrder orderId).run World.handle w = .ok row w') :
    w.orders.find orderId = some row ∧ self.session.Loads row ∧ w' = w := by
  cases hfind : w.orders.find orderId with
  | none =>
    rw [run_getOrder_none hfind] at h
    cases h
  | some row' =>
    by_cases hloads : self.session.Loads row'
    · rw [run_getOrder_some hfind hloads] at h
      cases h
      exact ⟨rfl, hloads, rfl⟩
    · obtain ⟨message, hraise⟩ := run_getOrder_unloadable hfind hloads
      rw [hraise] at h
      cases h

lemma run_getPayment_eq_ok {orderId : UUID} {row : PaymentRow}
    (h : (getPayment orderId).run World.handle w = .ok row w') :
    w.payments.find orderId = some row ∧ w' = w := by
  cases hfind : w.payments.find orderId with
  | none =>
    obtain ⟨e, hraise⟩ := run_getPayment_none hfind
    rw [hraise] at h
    cases h
  | some row' =>
    rw [run_getPayment_some hfind] at h
    cases h
    exact ⟨rfl, rfl⟩

/-! ## Cancelling -/

/-- The statuses an order can be cancelled in. -/
def Cancellable (order : OrderRow) : Prop :=
  order.status = .pending ∨ order.status = .seatsReserved ∨ order.status = .paymentInitiated

/-- The row of a cancelled order. -/
def cancelledRow (order : OrderRow) : OrderRow :=
  { order with status := .cancelled, version := order.version + 1 }

/-- The world a successful cancellation leaves. -/
structure Cancelled (w w' : World) (order : OrderRow) : Prop where
  orders : w'.orders = w.orders.put (cancelledRow order)
  payments : w'.payments = w.payments
  plans : w'.plans = w.plans
  intents : w'.intents = w.intents
  holds : ∀ key (u : UUID), w'.redis.Holds key u.str → w.redis.Holds key u.str

/-- What `cancel` asks for and what it leaves. -/
lemma run_cancel_eq_ok {reason : String} {stamp : EventStamp} {order order' : Order}
    (h : (Order.cancel reason stamp).run order = .ok () order') :
    Cancellable order.toOrderRow ∧ order.domainEvents ≠ none ∧
      order'.toOrderRow = cancelledRow order.toOrderRow := by
  cases hevents : order.domainEvents with
  | none =>
    obtain ⟨e, left, hraise⟩ := Order.run_cancel_loaded hevents reason stamp
    rw [hraise] at h
    cases h
  | some events =>
    rw [Order.run_cancel hevents] at h
    split at h
    · next hcancellable =>
      cases h
      exact ⟨hcancellable, by simp, rfl⟩
    · cases h

lemma aside_cancelBody (cmd : CancelOrderCommand) : (self.cancelBody cmd).Aside := by
  refine (self.aside_getOrder _).bind fun orderRow => ?_
  refine (aside_releaseSeatHolds ..).bind fun _ => ?_
  refine aside_eventStamp.bind fun stamp => ?_
  exact (uses_callOrder ..).bind fun _ => trivial

/-- **A cancellation that returns** has found a cancellable order, and leaves it cancelled. -/
theorem cancel_ok {cmd : CancelOrderCommand} {u : Unit}
    (hrun : (self.handleCancelOrder cmd).run World.handle w = .ok u w') :
    ∃ order, w.orders.find cmd.orderId = some order ∧ Cancellable order ∧
      (self.session.instanceOfOrder order).domainEvents ≠ none ∧ Cancelled w w' order := by
  obtain ⟨changes, w₁, hresult, hbeside, hflush⟩ := withUnitOfWork_ok (aside_cancelBody cmd) hrun
  simp only [cancelBody, Prog.run_bind_eq_ok] at hresult
  obtain ⟨order, _, hget, _, w₂, -, stamp, w₃, -, cancelled, _, hcall, hreturn⟩ := hresult
  obtain ⟨hfind, -, rfl⟩ := run_getOrder_eq_ok hget
  obtain ⟨hcancel, rfl⟩ := callOrder_eq_ok.mp hcall
  obtain ⟨hcancellable, hevents, hrow⟩ := run_cancel_eq_ok hcancel
  cases hreturn
  have hfind₁ : w₁.orders.find order.orderId = some order := by
    rw [hbeside.orders, Table.keyed _ _ _ hfind, hfind]
  have hupdate := World.apply_updateOrder hfind₁
    (show (cancelledRow order).orderId = order.orderId from rfl)
  rw [hrow, Session.instanceOfOrder_toOrderRow, List.foldl_cons, List.foldl_nil, hupdate] at hflush
  subst hflush
  exact ⟨order, hfind, hcancellable, hevents,
    ⟨by rw [hbeside.orders], hbeside.payments, hbeside.plans, hbeside.intents, hbeside.holds⟩⟩

/-- **A cancellation that raises** changes no record. -/
theorem cancel_error {cmd : CancelOrderCommand} {e : PyError}
    (hrun : (self.handleCancelOrder cmd).run World.handle w = .error e w') : w.Beside w' :=
  withUnitOfWork_error (aside_cancelBody cmd) hrun

/-! ## Refunding -/

/-- The statuses an order can be refunded in. -/
def Refundable (order : OrderRow) : Prop := order.status = .paid ∨ order.status = .fulfilled

/-- The row of a refunded order. -/
def refundedRow (order : OrderRow) : OrderRow :=
  { order with status := .refunded, version := order.version + 1 }

/-- The row of a payment after a refund of some amount. -/
def repaidRow (payment : PaymentRow) (amount : Option Money) : PaymentRow :=
  { payment with
    status := if payment.refundsAll amount then .refunded else .partiallyRefunded
    version := payment.version + 1 }

/-- The world a successful refund leaves. -/
structure Refunded (w w' : World) (order : OrderRow) (payment : PaymentRow)
    (amount : Option Money) : Prop where
  orders : w'.orders = w.orders.put (refundedRow order)
  payments : w'.payments = w.payments.put (repaidRow payment amount)
  plans : w'.plans = w.plans
  intents : w'.intents = w.intents
  holds : ∀ key (u : UUID), w'.redis.Holds key u.str → w.redis.Holds key u.str

lemma run_repay_eq_ok {amount : Option Money} {payment payment' : Payment}
    (h : (Payment.refund amount).run payment = .ok () payment') :
    payment.status = .captured ∧
      payment'.toPaymentRow = repaidRow payment.toPaymentRow amount := by
  rw [Payment.run_refund] at h
  split at h
  · next hcaptured =>
    cases h
    exact ⟨hcaptured, rfl⟩
  · cases h

lemma run_refund_eq_ok {order order' : Order} (h : Order.refund.run order = .ok () order') :
    Refundable order.toOrderRow ∧ order'.toOrderRow = refundedRow order.toOrderRow := by
  rw [Order.run_refund] at h
  split at h
  · next hrefundable =>
    cases h
    exact ⟨hrefundable, rfl⟩
  · cases h

lemma aside_refundBody (cmd : RefundOrderCommand) : (self.refundBody cmd).Aside := by
  refine (self.aside_getOrder _).bind fun orderRow => ?_
  refine (aside_getPayment _).bind fun paymentRow => ?_
  refine (uses_callPayment ..).bind fun repaid => ?_
  exact (uses_callOrder ..).bind fun _ => trivial

/-- **A refund that returns** has found a paid order with a captured payment.  The order is
refunded whatever part of the payment is. -/
theorem refund_ok {cmd : RefundOrderCommand} {u : Unit}
    (hrun : (self.handleRefundOrder cmd).run World.handle w = .ok u w') :
    ∃ order payment, w.orders.find cmd.orderId = some order ∧ self.session.Loads order ∧
      w.payments.find cmd.orderId = some payment ∧ Refundable order ∧
      payment.status = .captured ∧ Refunded w w' order payment cmd.amount := by
  obtain ⟨changes, w₁, hresult, hbeside, hflush⟩ := withUnitOfWork_ok (aside_refundBody cmd) hrun
  simp only [refundBody, Prog.run_bind_eq_ok] at hresult
  obtain ⟨order, _, hget, payment, _, hgetPayment, repaid, _, hcallPayment, refunded, _,
    hcallOrder, hreturn⟩ := hresult
  obtain ⟨hfind, hloads, rfl⟩ := run_getOrder_eq_ok hget
  obtain ⟨hfindPayment, rfl⟩ := run_getPayment_eq_ok hgetPayment
  obtain ⟨hrepay, rfl⟩ := callPayment_eq_ok.mp hcallPayment
  obtain ⟨hrefund, rfl⟩ := callOrder_eq_ok.mp hcallOrder
  obtain ⟨hcaptured, hpaymentRow⟩ := run_repay_eq_ok hrepay
  obtain ⟨hrefundable, horderRow⟩ := run_refund_eq_ok hrefund
  cases hreturn
  have hfind₁ : w₁.orders.find order.orderId = some order := by
    rw [Table.keyed _ _ _ hfind, hfind]
  have hfindPayment₁ : w₁.payments.find payment.orderId = some payment := by
    rw [Table.keyed _ _ _ hfindPayment, hfindPayment]
  have hupdates := World.apply_updates hfind₁ hfindPayment₁
    (show (refundedRow order).orderId = order.orderId from rfl)
    (show (repaidRow payment cmd.amount).paymentId = payment.paymentId from rfl) rfl
  rw [horderRow, hpaymentRow, Session.instanceOfOrder_toOrderRow,
    Session.instanceOfPayment_toPaymentRow, hupdates] at hflush
  subst hflush
  exact ⟨order, payment, hfind, hloads, hfindPayment, hrefundable, hcaptured,
    ⟨rfl, rfl, rfl, rfl, fun _ _ => id⟩⟩

/-- **A refund returns** if the order can be loaded and both transitions are allowed. -/
theorem refund_returns {cmd : RefundOrderCommand} {order : OrderRow} {payment : PaymentRow}
    (hfind : w.orders.find cmd.orderId = some order) (hloads : self.session.Loads order)
    (hfindPayment : w.payments.find cmd.orderId = some payment)
    (hrefundable : Refundable order) (hcaptured : payment.status = .captured) :
    (self.handleRefundOrder cmd).Returns World.handle w := by
  have hrepay := Payment.run_refund (self.session.instanceOfPayment payment) cmd.amount
  rw [if_pos (show (self.session.instanceOfPayment payment).status = .captured from hcaptured)]
    at hrepay
  have hrefund := Order.run_refund (self.session.instanceOfOrder order)
  have hstatus : (self.session.instanceOfOrder order).status = .paid ∨
      (self.session.instanceOfOrder order).status = .fulfilled := hrefundable
  rw [if_pos hstatus] at hrefund
  have hbody : (self.refundBody cmd).Returns World.handle w := by
    rw [refundBody, Prog.returns_bind_of_ok (run_getOrder_some hfind hloads),
      Prog.returns_bind_of_ok (run_getPayment_some hfindPayment),
      Prog.returns_bind_of_ok (callPayment_eq_ok.mpr ⟨hrepay, rfl⟩),
      Prog.returns_bind_of_ok (callOrder_eq_ok.mpr ⟨hrefund, rfl⟩)]
    exact Prog.returns_pure ..
  obtain ⟨⟨u, changes⟩, w', hrun⟩ := hbody
  exact ⟨u, changes.foldl World.apply w', by
    rw [handleRefundOrder, run_withUnitOfWork, hrun, exitUnitOfWork]⟩

/-- **A refund that raises** changes no record. -/
theorem refund_error {cmd : RefundOrderCommand} {e : PyError}
    (hrun : (self.handleRefundOrder cmd).run World.handle w = .error e w') : w.Beside w' :=
  withUnitOfWork_error (aside_refundBody cmd) hrun

end OrderCommandHandler

end TicketGenius
