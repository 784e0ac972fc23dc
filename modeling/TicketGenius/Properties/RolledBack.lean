import TicketGenius.Properties.Confirmation
import TicketGenius.ServiceLayer.SeatHoldSpec
import TicketGenius.ServiceLayer.TransitionSpec

/-!
# Holds released by a transaction that rolls back

Two handlers release the holds of an order and then raise.  The unit of work rolls back what they
did to the aggregates; what they did to Redis stays done.

* `handle_cancel_order` releases first and cancels then.  In a status that cannot be cancelled the
  order keeps its status and loses its seats, and so it does in any other if leaving the unit of
  work raises.  Only an instance with a list of events comes that far: an order with seats that has
  to be loaded is refused before, and one without has nothing to release.
* `handle_confirm_payment` marks a declined payment as failed, releases, and raises
  `PaymentDeclinedError` on purpose.  The mark is lost with the rollback.
-/

namespace TicketGenius.RolledBack

open Framework Service OrderCommandHandler
open PaymentSimulatorAdapter (attempt)

/-- The store after a handler has released the holds of an order. -/
def releasedStore (tm : TicketmasterAdapter) (s : Redis.Store) (order : OrderRow) : Redis.Store :=
  if tm.redis then s.release (seatHoldKeys order.planId order.seatTexts) order.orderId.str else s

/-- No key of a seat of the order holds the order's id. -/
def HoldsNothing (s : Redis.Store) (order : OrderRow) : Prop :=
  ∀ key ∈ seatHoldKeys order.planId order.seatTexts, ¬ s.Holds key order.orderId.str

instance (s : Redis.Store) (order : OrderRow) : Decidable (HoldsNothing s order) :=
  inferInstanceAs (Decidable (∀ key ∈ _, _))

section Release

variable {tm : TicketmasterAdapter} {w : World} {order : OrderRow}

lemma run_release : (releaseSeatHolds tm.redis order.planId order.seatTexts order.orderId).run
    World.handle w = .ok () { w with redis := releasedStore tm w.redis order } := by
  rw [run_releaseSeatHolds, releasedStore]
  split
  · rfl
  · rfl

lemma releasedStore_eq_self_iff :
    releasedStore tm w.redis order = w.redis ↔ (tm.redis = true → HoldsNothing w.redis order) := by
  unfold releasedStore
  by_cases hredis : tm.redis = true
  · rw [if_pos hredis, Redis.Store.release_eq_self_iff]
    exact ⟨fun h _ => h, fun h => h hredis⟩
  · rw [if_neg hredis]
    exact iff_of_true rfl fun h => absurd h hredis

end Release

/-! ## Cancelling -/

/-- `handle_cancel_order`.  If there is a `fault`, leaving the unit of work raises it, at the events
or in the commit, and nothing is committed. -/
def cancelOrder (self : OrderCommandHandler) (fault : Option PyError) (cmd : CancelOrderCommand) :
    Service Unit :=
  match fault with
  | none => self.handleCancelOrder cmd
  | some e => do
    let _ ← Prog.onRaise (self.cancelBody cmd) rollback
    Prog.raise e

/-- A cancellation that raises leaves database and holds as they were; one that returns leaves the
order cancelled and released. -/
def CancelsCleanly (self : OrderCommandHandler) (fault : Option PyError) (cmd : CancelOrderCommand)
    (w : World) : Prop :=
  match (cancelOrder self fault cmd).run World.handle w with
  | .ok _ w' => ∃ order, w.orders.find cmd.orderId = some order ∧
      w'.orders = w.orders.put (cancelledRow order) ∧ w'.payments = w.payments ∧
      w'.plans = w.plans ∧ w'.redis = releasedStore self.tm w.redis order
  | .error _ w' => w'.orders = w.orders ∧ w'.payments = w.payments ∧ w'.plans = w.plans ∧
      w'.redis = w.redis

section Cancel

variable {self : OrderCommandHandler} {fault : Option PyError} {cmd : CancelOrderCommand}
  {w : World} {order : OrderRow}

/-- A body that raises ends the call, whatever leaving the unit of work would do. -/
lemma run_cancelOrder_of_error {e : PyError} {w' : World}
    (hbody : (self.cancelBody cmd).run World.handle w = .error e w') :
    (cancelOrder self fault cmd).run World.handle w = .error e w' := by
  cases fault with
  | none => rw [cancelOrder, handleCancelOrder, run_withUnitOfWork, hbody, exitUnitOfWork]
  | some fault =>
    have hrolled : (Prog.onRaise (self.cancelBody cmd) rollback).run World.handle w =
        .error e w' := by
      rw [Prog.run_onRaise, hbody]
      rfl
    rw [cancelOrder, Prog.run_bind_error _ _ hrolled]

/-- An order that is not there, or cannot be loaded, is not cancelled. -/
lemma run_cancel_of_getOrder {e : PyError}
    (hget : (self.getOrder cmd.orderId).run World.handle w = .error e w) :
    (cancelOrder self fault cmd).run World.handle w = .error e w :=
  run_cancelOrder_of_error (by rw [cancelBody, Prog.run_bind_error _ _ hget])

/-- One that is loaded has lost its holds when it comes to `cancel`. -/
lemma run_cancelBody (horder : w.orders.find cmd.orderId = some order)
    (hloads : self.session.Loads order) :
    ∃ stamp w',
      w' = { w with redis := releasedStore self.tm w.redis order, entropy := w'.entropy } ∧
      (self.cancelBody cmd).run World.handle w =
        (do
          let cancelled ← callOrder (Order.cancel cmd.reason stamp)
            (self.session.instanceOfOrder order)
          return ((), [.updateOrder order cancelled.toOrderRow]) :
            Service (Unit × List Change)).run World.handle w' := by
  let released : World := { w with redis := releasedStore self.tm w.redis order }
  obtain ⟨stamp, stamped, hstamp⟩ := run_eventStamp_returns released
  have hbeside : stamped = { released with entropy := stamped.entropy } := by
    have hrun : eventStamp.run World.handle released = .ok _ _ := rfl
    rw [hrun] at hstamp
    obtain ⟨-, rfl⟩ := EStateM.Result.ok.inj hstamp
    rfl
  refine ⟨stamp, stamped, hbeside, ?_⟩
  rw [cancelBody, Prog.run_bind_ok _ _ (run_getOrder_some horder hloads)]
  dsimp only
  rw [Session.instanceOfOrder_toOrderRow, Prog.run_bind_ok _ _ run_release,
    Prog.run_bind_ok _ _ hstamp]

/-- There `cancel` refuses, -/
lemma cancelBody_refused (horder : w.orders.find cmd.orderId = some order)
    (hloads : self.session.Loads order)
    (hrefused : ¬ ((self.session.instanceOfOrder order).domainEvents ≠ none ∧ Cancellable order)) :
    ∃ e w', (self.cancelBody cmd).run World.handle w = .error e w' ∧
      w' = { w with redis := releasedStore self.tm w.redis order, entropy := w'.entropy } := by
  obtain ⟨stamp, stamped, hstamped, hbody⟩ := run_cancelBody horder hloads
  cases hcancel : (Order.cancel cmd.reason stamp).run (self.session.instanceOfOrder order) with
  | error e left =>
    have hcall :
        (callOrder (Order.cancel cmd.reason stamp) (self.session.instanceOfOrder order)).run
          World.handle stamped = .error e stamped := by
      rw [callOrder, hcancel]
      rfl
    rw [Prog.run_bind_error _ _ hcall] at hbody
    exact ⟨e, stamped, hbody, hstamped⟩
  | ok u cancelled =>
    obtain ⟨hcancellable, hevents, -⟩ := run_cancel_eq_ok hcancel
    exact absurd ⟨hevents, hcancellable⟩ hrefused

/-- or returns. -/
lemma cancelBody_returns (horder : w.orders.find cmd.orderId = some order)
    (hloads : self.session.Loads order)
    (hevents : (self.session.instanceOfOrder order).domainEvents ≠ none)
    (hcancellable : Cancellable order) :
    ∃ w', (self.cancelBody cmd).run World.handle w =
        .ok ((), [.updateOrder order (cancelledRow order)]) w' ∧
      w' = { w with redis := releasedStore self.tm w.redis order, entropy := w'.entropy } := by
  obtain ⟨stamp, stamped, hstamped, hbody⟩ := run_cancelBody horder hloads
  obtain ⟨events, hlist⟩ := Option.ne_none_iff_exists'.mp hevents
  have hstatus : (self.session.instanceOfOrder order).status = .pending ∨
      (self.session.instanceOfOrder order).status = .seatsReserved ∨
      (self.session.instanceOfOrder order).status = .paymentInitiated := hcancellable
  have hcancel := Order.run_cancel hlist cmd.reason stamp
  rw [if_pos hstatus] at hcancel
  rw [Prog.run_bind_ok _ _ (callOrder_eq_ok.mpr ⟨hcancel, rfl⟩)] at hbody
  exact ⟨stamped, hbody, hstamped⟩

/-- **What becomes of an order that is loaded.**  Its holds are released.  If its instance has a
list of events, its status allows it and the commit succeeds, it is cancelled as well; otherwise the
handler raises. -/
lemma cancel_cases (fault : Option PyError) (horder : w.orders.find cmd.orderId = some order)
    (hloads : self.session.Loads order) :
    (((self.session.instanceOfOrder order).domainEvents ≠ none ∧ Cancellable order ∧
        fault = none) ∧
      ∃ w', (cancelOrder self fault cmd).run World.handle w = .ok () w' ∧
        w'.orders = w.orders.put (cancelledRow order) ∧ w'.payments = w.payments ∧
        w'.plans = w.plans ∧ w'.redis = releasedStore self.tm w.redis order) ∨
    (¬ ((self.session.instanceOfOrder order).domainEvents ≠ none ∧ Cancellable order ∧
        fault = none) ∧
      ∃ e w', (cancelOrder self fault cmd).run World.handle w = .error e w' ∧
        w'.orders = w.orders ∧ w'.payments = w.payments ∧ w'.plans = w.plans ∧
        w'.redis = releasedStore self.tm w.redis order) := by
  by_cases hboth : (self.session.instanceOfOrder order).domainEvents ≠ none ∧ Cancellable order
  · obtain ⟨released, hbody, hreleased⟩ := cancelBody_returns horder hloads hboth.1 hboth.2
    cases fault with
    | none =>
      refine .inl ⟨⟨hboth.1, hboth.2, rfl⟩, released.apply (.updateOrder order
        (cancelledRow order)), ?_, ?_⟩
      · rw [cancelOrder, handleCancelOrder, run_withUnitOfWork, hbody]
        rfl
      · have hfind : released.orders.find order.orderId = some order := by
          rw [hreleased, w.orders.keyed _ _ horder]
          exact horder
        have hid : (cancelledRow order).orderId = order.orderId := rfl
        rw [World.apply_updateOrder hfind hid, hreleased]
        exact ⟨rfl, rfl, rfl, rfl⟩
    | some fault =>
      have hfaulty : ¬ some fault = none := Option.some_ne_none fault
      refine .inr ⟨fun h => hfaulty h.2.2, fault, released, ?_, ?_⟩
      · have hreturned : (Prog.onRaise (self.cancelBody cmd) rollback).run World.handle w =
            .ok ((), [.updateOrder order (cancelledRow order)]) released := by
          rw [Prog.run_onRaise, hbody]
        rw [cancelOrder, Prog.run_bind_ok _ _ hreturned]
        rfl
      · rw [hreleased]
        exact ⟨rfl, rfl, rfl, rfl⟩
  · obtain ⟨e, released, hbody, hreleased⟩ := cancelBody_refused horder hloads hboth
    refine .inr ⟨fun h => hboth ⟨h.1, h.2.1⟩, e, released, run_cancelOrder_of_error hbody, ?_⟩
    rw [hreleased]
    exact ⟨rfl, rfl, rfl, rfl⟩

/-- **A cancellation is clean** exactly if the order is not there, or the session has no instance
with a list of events of it, or there is nothing to release, or the order can be cancelled and the
commit succeeds. -/
theorem cancelsCleanly_iff (self : OrderCommandHandler) (fault : Option PyError)
    (cmd : CancelOrderCommand) (w : World) :
    CancelsCleanly self fault cmd w ↔
      ∀ order, w.orders.find cmd.orderId = some order →
        (self.session.instanceOfOrder order).domainEvents ≠ none → self.tm.redis = true →
        HoldsNothing w.redis order ∨ (Cancellable order ∧ fault = none) := by
  cases horder : w.orders.find cmd.orderId with
  | none =>
    have hrun : (cancelOrder self fault cmd).run World.handle w = _ :=
      run_cancel_of_getOrder (run_getOrder_none horder)
    simp [CancelsCleanly, hrun]
  | some order =>
  by_cases hloads : self.session.Loads order
  swap
  · obtain ⟨message, hraise⟩ := run_getOrder_unloadable horder hloads
    have hrun : (cancelOrder self fault cmd).run World.handle w = _ :=
      run_cancel_of_getOrder hraise
    have hevents : (self.session.instanceOfOrder order).domainEvents = none := by
      rw [Session.Loads, Classical.not_imp] at hloads
      exact hloads.1
    simp [CancelsCleanly, hrun, hevents]
  rcases cancel_cases fault horder hloads with ⟨hboth, w', hrun, hleft⟩ |
    ⟨hnot, e, w', hrun, horders, hpayments, hplans, hredis⟩
  · have hclean : CancelsCleanly self fault cmd w := by
      rw [CancelsCleanly, hrun]
      exact ⟨order, horder, hleft⟩
    refine iff_of_true hclean fun found hfound _ _ => .inr ?_
    obtain rfl : order = found := Option.some.inj hfound
    exact hboth.2
  · have hclean : CancelsCleanly self fault cmd w ↔
        releasedStore self.tm w.redis order = w.redis := by
      simp [CancelsCleanly, hrun, horders, hpayments, hplans, hredis]
    rw [hclean, releasedStore_eq_self_iff]
    by_cases hevents : (self.session.instanceOfOrder order).domainEvents = none
    · have hseats : order.seats = [] := hloads hevents
      have hnothing : HoldsNothing w.redis order := by
        simp [HoldsNothing, OrderRow.seatTexts, seatHoldKeys, hseats]
      simp [hnothing]
    · have hrefused : ¬ (Cancellable order ∧ fault = none) := fun h => hnot ⟨hevents, h⟩
      simp [hevents, hrefused]

end Cancel

/-! ## Declining -/

/-- The provider declines the payment of an order that waits for it. -/
structure Declined (handler : OrderCommandHandler) (cmd : ConfirmPaymentCommand) (w : World)
    (order : OrderRow) (payment : PaymentRow) (intent : PaymentIntent) : Prop where
  reaches : handler.ReachesProvider cmd w order payment intent
  initiated : order.status = .paymentInitiated
  pending : payment.status = .created ∨ payment.status = .authorized
  refused : ∀ time, (attempt intent time).status ≠ .succeeded

/-- After `PaymentDeclinedError` the payment is `FAILED` and the order holds no seat. -/
def DeclineRecorded (self : OrderCommandHandler) (cmd : ConfirmPaymentCommand) (w : World)
    (order : OrderRow) : Prop :=
  ∃ paymentId reason w', (self.handleConfirmPayment cmd).run World.handle w =
      .error (.domain (paymentDeclinedError paymentId reason)) w' ∧
    (∃ payment, w'.payments.find cmd.orderId = some payment ∧ payment.status = .failed) ∧
    HoldsNothing w'.redis order

section Decline

variable {self : OrderCommandHandler} {cmd : ConfirmPaymentCommand} {w : World} {order : OrderRow}
  {payment : PaymentRow} {intent : PaymentIntent}

/-- The branch for a declined payment, once the provider has answered. -/
lemma run_declinePayment (hpending : payment.status = .created ∨ payment.status = .authorized)
    (intent : PaymentIntent) (w : World) :
    ∃ reason, (self.declinePayment (self.session.instanceOfOrder order)
        (self.session.instanceOfPayment payment) intent :
          Service (PaymentConfirmedResult × List Change)).run World.handle w =
      .error (.domain (paymentDeclinedError payment.paymentId.str reason))
        { w with redis := releasedStore self.tm w.redis order } := by
  let reason := Dict.getD intent.metadata "failure_reason" "Payment failed"
  have hstatus : (self.session.instanceOfPayment payment).status = .created ∨
    (self.session.instanceOfPayment payment).status = .authorized := hpending
  have hfail := Payment.run_fail (self.session.instanceOfPayment payment) reason
  rw [if_pos hstatus] at hfail
  refine ⟨reason, ?_⟩
  rw [declinePayment, Prog.run_bind_ok _ _ (callPayment_eq_ok.mpr ⟨hfail, rfl⟩),
    Session.instanceOfOrder_toOrderRow, Prog.run_bind_ok _ _ run_release]
  rfl

/-- **Half of a declined payment is recorded**: the holds are gone, and the payment is as before. -/
theorem run_confirm_declined (h : Declined self cmd w order payment intent) :
    ∃ reason w', (self.handleConfirmPayment cmd).run World.handle w =
        .error (.domain (paymentDeclinedError payment.paymentId.str reason)) w' ∧
      w'.payments = w.payments ∧ (self.tm.redis = true → HoldsNothing w'.redis order) := by
  obtain ⟨time, w₁, hanswered, hrun⟩ := confirm_reaches h.reaches
  obtain ⟨reason, hdecline⟩ := run_declinePayment h.pending
    (attempt intent time) w₁
  rw [settlePayment, if_pos (h.refused time), hdecline] at hrun
  refine ⟨reason, _, hrun, hanswered.payments, ?_⟩
  intro hredis key hkey
  show ¬ (releasedStore self.tm w₁.redis order).Holds key order.orderId.str
  rw [releasedStore, if_pos hredis]
  exact Redis.Store.not_holds_release hkey

lemma not_declineRecorded (h : Declined self cmd w order payment intent) :
    ¬ DeclineRecorded self cmd w order := by
  rintro ⟨paymentId, reason, w', hrun, ⟨payment', hfind, hfailed⟩, -⟩
  obtain ⟨reason', w'', hrun', hpayments, -⟩ := run_confirm_declined h
  rw [hrun'] at hrun
  obtain ⟨-, rfl⟩ := EStateM.Result.error.inj hrun
  rw [hpayments, h.reaches.findPayment, Option.some.injEq] at hfind
  have hpending := h.pending
  rw [hfind, hfailed] at hpending
  rcases hpending with hpending | hpending
  · cases hpending
  · cases hpending

/-- **No declined payment is recorded**: whichever it is, `FAILED` does not reach the database. -/
theorem decline_never_recorded (self : OrderCommandHandler) (cmd : ConfirmPaymentCommand)
    (w : World) (order : OrderRow) (payment : PaymentRow) (intent : PaymentIntent)
    (h : Declined self cmd w order payment intent) : ¬ DeclineRecorded self cmd w order :=
  not_declineRecorded h

end Decline

/-! ### An order that is paid for -/

/-- A paid order whose seat is still held. -/
def paidOrder : OrderRow := { Confirmation.seatedOrder with status := .paid }

def paidWorld : World :=
  { Purchase.onePlan with
    redis := World.empty.redis.putAll (seatHoldKeys .nil paidOrder.seatTexts) (seatHold .nil)
    orders := Table.empty.put paidOrder }

lemma paidWorld_holds : ¬ HoldsNothing paidWorld.redis paidOrder := by decide

/-- To cancel it is refused, and its seat is free afterwards. -/
theorem refused_cancellation_releases : ¬ ∀ self fault cmd w, CancelsCleanly self fault cmd w := by
  intro h
  let handler := Confirmation.handlerWith (some [])
  let cmd : CancelOrderCommand := ⟨.nil, "changed my mind"⟩
  have hfound : paidWorld.orders.find cmd.orderId = some paidOrder := rfl
  have hloads : handler.session.Loads paidOrder := nofun
  rcases cancel_cases none hfound hloads with
    ⟨hboth, -⟩ | ⟨-, e, w', hrun, -, -, -, hredis⟩
  · have hpaid : ¬ Cancellable paidOrder := by
      rintro (hstatus | hstatus | hstatus) <;> cases hstatus
    exact hpaid hboth.2.1
  · have hclean := h handler none cmd paidWorld
    rw [CancelsCleanly, hrun] at hclean
    have hsame : releasedStore handler.tm paidWorld.redis paidOrder = paidWorld.redis :=
      hredis.symm.trans hclean.2.2.2
    exact paidWorld_holds (releasedStore_eq_self_iff.mp hsame rfl)

/-! ### An order of two hundred euros -/

/-- It waits for its payment. -/
def dearOrder : OrderRow :=
  { Confirmation.waitingOrder with totalAmount := Money.euros 200 }

def dearPayment : PaymentRow :=
  { Confirmation.waitingPayment .created with amount := Money.euros 200 }

def dear : World :=
  { Purchase.onePlan with
    orders := Table.empty.put dearOrder
    payments := Table.empty.put dearPayment
    intents := Table.empty.put (Confirmation.openIntent "pi_own" 200) }

/-- The handler of a new session, with Redis. -/
def newHandler : OrderCommandHandler := ⟨⟨true⟩, .new⟩

lemma dear_declined : Declined newHandler (Confirmation.confirmWith "pi_own") dear dearOrder
    dearPayment (Confirmation.openIntent "pi_own" 200) where
  reaches := ⟨rfl, fun _ => rfl, rfl, fun _ => rfl, rfl⟩
  initiated := rfl
  pending := .inl rfl
  refused := by
    intro time
    rw [PaymentSimulatorAdapter.attempt_status]
    decide

/-- The provider declines it, and the payment stays `CREATED`. -/
theorem dear_payment_not_failed :
    ¬ DeclineRecorded newHandler (Confirmation.confirmWith "pi_own") dear dearOrder :=
  decline_never_recorded _ _ _ _ _ _ dear_declined

/-- So a declined payment is not always recorded. -/
theorem decline_rolled_back :
    ¬ ∀ self cmd w order payment intent, Declined self cmd w order payment intent →
      DeclineRecorded self cmd w order := by
  intro h
  exact not_declineRecorded dear_declined (h _ _ _ _ _ _ dear_declined)

end TicketGenius.RolledBack
