import TicketGenius.ServiceLayer.Requests
import TicketGenius.Properties.Confirmation
import TicketGenius.Framework.Run

/-!
# Order and payment agree

Which statuses of an order go with which statuses of its payment, over runs of requests.  The two
rows move together by `Transition`, so the invariant needs one case for each transition.  Two of the
three keep it.  A refund keeps it when it gives back the whole payment; when it gives back a part,
the payment becomes `PARTIALLY_REFUNDED` and the order `REFUNDED` all the same.
-/

namespace TicketGenius.Coherence

open Framework OrderCommandHandler

/-! ## The invariant -/

/-- The statuses of an order and its payment that go together. -/
def Coherent : OrderStatus → PaymentStatus → Prop
  | .pending, p | .seatsReserved, p | .paymentInitiated, p | .cancelled, p =>
    p = .created ∨ p = .authorized ∨ p = .failed
  | .paid, p | .fulfilled, p => p = .captured ∨ p = .partiallyRefunded
  | .refunded, p => p = .refunded

/-- The order is stored with its payment, and the two agree. -/
def CoherentPair (id : UUID) (w : World) : Prop :=
  ∃ order payment, w.Stored id order payment ∧ Coherent order.status payment.status

/-- A refund of a part of the captured payment of a paid order that the session can hand out. -/
def PartialRefund (id : UUID) (w : World) : Request → Prop
  | .refund handler cmd => cmd.orderId = id ∧ ∃ order payment, w.Stored id order payment ∧
      handler.session.Loads order ∧ Refundable order ∧ payment.status = .captured ∧
      ¬ payment.refundsAll cmd.amount
  | .confirm _ _ | .cancel _ _ => False

/-! ## Steps -/

section Step

variable {request : Request} {order order' : OrderRow} {payment payment' : PaymentRow}

lemma coherent_cancelled (hcancellable : Cancellable order)
    (h : Coherent order.status payment.status) :
    Coherent (cancelledRow order).status payment.status := by
  rcases hcancellable with hstatus | hstatus | hstatus
  · rwa [hstatus] at h
  · rwa [hstatus] at h
  · rwa [hstatus] at h

/-- A refund is coherent exactly if it refunds the whole payment. -/
lemma coherent_refunded_iff (order : OrderRow) (payment : PaymentRow) (amount : Option Money) :
    Coherent (refundedRow order).status (repaidRow payment amount).status ↔
      payment.refundsAll amount := by
  change (if payment.refundsAll amount then PaymentStatus.refunded else .partiallyRefunded) =
    .refunded ↔ payment.refundsAll amount
  by_cases hall : payment.refundsAll amount
  · simp [hall]
  · simp [hall]

/-- **Step lemma.**  Every request but a partial refund keeps the pair coherent. -/
theorem coherentPair_serve {id : UUID} {w : World} (h : CoherentPair id w)
    (hpart : ¬ PartialRefund id w request) : CoherentPair id (request.serve w) := by
  obtain ⟨order, payment, hstored, hcoherent⟩ := h
  rcases serve_rows request hstored with hsame | ⟨hid, order', payment', hmove, hstored'⟩
  · exact ⟨order, payment, hsame, hcoherent⟩
  · refine ⟨order', payment', hstored', ?_⟩
    cases hmove with
    | confirm handler cmd _ _ intent hinitiated hauthorized => exact .inl rfl
    | cancel handler cmd _ _ hcancellable => exact coherent_cancelled hcancellable hcoherent
    | refund handler cmd _ _ hloads hrefundable hcaptured =>
      rw [coherent_refunded_iff]
      by_contra hall
      exact hpart ⟨hid, order, payment, hstored, hloads, hrefundable, hcaptured, hall⟩

/-- A partial refund parts order and payment. -/
theorem not_coherentPair_serve {id : UUID} {w : World} (h : PartialRefund id w request) :
    ¬ CoherentPair id (request.serve w) := by
  cases request with
  | confirm handler cmd => exact h.elim
  | cancel handler cmd => exact h.elim
  | refund handler cmd =>
    obtain ⟨rfl, order, payment, hstored, hloads, hrefundable, hcaptured, hall⟩ := h
    obtain ⟨u, w', hrun⟩ := refund_returns hstored.1 hloads hstored.2 hrefundable hcaptured
    obtain ⟨order₁, payment₁, hfind, -, hfindPayment, -, -, hrefunded⟩ := refund_ok hrun
    obtain ⟨rfl, rfl⟩ := hstored.unique ⟨hfind, hfindPayment⟩
    have hafter : w'.Stored cmd.orderId (refundedRow order₁) (repaidRow payment₁ cmd.amount) :=
      hstored.put rfl rfl hrefunded.orders hrefunded.payments
    rw [Request.serve_of_ok (.refund handler cmd) hrun]
    rintro ⟨order₂, payment₂, hstored₂, hcoherent⟩
    obtain ⟨rfl, rfl⟩ := hafter.unique hstored₂
    exact hall ((coherent_refunded_iff _ _ _).mp hcoherent)

end Step

/-! ## Runs -/

/-- **Order and payment agree throughout a run exactly if it has no partial refund**, whatever
else the requests are and whichever of them fail. -/
theorem coherentPair_run_iff (id : UUID) (w : World) (requests : List Request)
    (hw : CoherentPair id w) :
    (∀ n, CoherentPair id (run Request.serve w (requests.take n))) ↔
      Guarded Request.serve (fun w request => ¬ PartialRefund id w request) w requests := by
  have hstep : ∀ w request, CoherentPair id w →
      (CoherentPair id (request.serve w) ↔ ¬ PartialRefund id w request) := by
    intro w request h
    refine ⟨?_, coherentPair_serve h⟩
    intro hafter hpart
    exact not_coherentPair_serve hpart hafter
  exact (Guarded.iff_forall_take hstep hw).symm

/-! ### Giving back a half -/

/-- The order of `Confirmation.waiting`, paid for. -/
def paidFor : World :=
  { Confirmation.waiting .created with
    orders := Table.empty.put (paidRow Confirmation.waitingOrder)
    payments := Table.empty.put (Confirmation.waitingPayment .captured) }

/-- A request to refund some euros of it. -/
def refundOf (n : ℕ) : Request :=
  .refund (Confirmation.handlerWith none) ⟨.nil, some (Money.euros n)⟩

lemma paidFor_coherentPair : CoherentPair .nil paidFor :=
  ⟨paidRow Confirmation.waitingOrder, Confirmation.waitingPayment .captured, ⟨rfl, rfl⟩, .inl rfl⟩

/-- After ten of ten euros are refunded, the two agree. -/
theorem full_refund_coherent :
    CoherentPair .nil (run Request.serve paidFor ([refundOf 10].take 1)) := by
  refine (coherentPair_run_iff .nil paidFor [refundOf 10] paidFor_coherentPair).mpr ⟨?_, trivial⟩ 1
  rintro ⟨-, order, payment, hstored, -, -, -, hall⟩
  have hsame : paidFor.Stored .nil (paidRow Confirmation.waitingOrder)
      (Confirmation.waitingPayment .captured) := ⟨rfl, rfl⟩
  obtain ⟨-, rfl⟩ := hsame.unique hstored
  revert hall
  decide

/-- After five of ten euros are refunded, they do not. -/
theorem half_refund_incoherent :
    ¬ ∀ id w requests, CoherentPair id w →
      CoherentPair id (run Request.serve w requests) := by
  intro h
  have hpart : PartialRefund .nil paidFor (refundOf 5) :=
    ⟨rfl, paidRow Confirmation.waitingOrder, Confirmation.waitingPayment .captured, ⟨rfl, rfl⟩,
      fun _ => rfl, .inl rfl, rfl, by decide⟩
  exact not_coherentPair_serve hpart (h .nil paidFor [refundOf 5] paidFor_coherentPair)

end TicketGenius.Coherence
