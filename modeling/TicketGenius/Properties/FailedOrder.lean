import TicketGenius.Framework.Silent
import TicketGenius.Properties.Purchase

/-!
# Orders that fail

`handle_create_order` takes seat holds in Redis before it has an order to show for them, and Redis
does not take part in the rollback.  No hold is left behind all the same, because the handler does
not come as far as the acquire loop: a request with chosen seats raises at the first of them, when
it is asked for `to_seat`.

This does not depend on where else the handler fails.  An exception may come at any point of the
body, in which case the unit of work rolls back, or at any point of the whole call, the commit
included.
-/

namespace TicketGenius.FailedOrder

open Framework Service OrderCommandHandler

/-! ## Programs that leave Redis alone -/

/-- The operation is no Redis command. -/
def OffRedis : Op → Prop
  | .redis _ => False
  | _ => True

lemma OffRedis.handle {o : Op} (ho : OffRedis o) (w : World) :
    (World.handle o w).2.redis = w.redis := by
  cases o with
  | redis c => exact ho.elim
  | commit changes => exact (World.foldl_apply_frame changes w).1
  | _ => rfl

/-- **Frame lemma.**  Such a program leaves Redis as it was. -/
lemma redis_after {α : Type} {p : Service α} (hp : p.Uses OffRedis) (w : World) :
    (p.after World.handle w).redis = w.redis := by
  have hop : ∀ o w, OffRedis o → (World.handle o w).2.redis = w.redis :=
    fun _ w ho => ho.handle w
  exact hp.run_unchanged hop w

lemma uses_withUnitOfWork {α : Type} {body : Service (α × List Change)}
    (hbody : body.Uses OffRedis) : (withUnitOfWork body).Uses OffRedis := by
  apply Prog.Uses.onRaise
  · exact hbody.bind fun (_, changes) => ⟨trivial, fun _ => trivial⟩
  · exact ⟨trivial, fun _ => trivial⟩

/-! ## Creating an order -/

/-- The body of `handle_create_order`. -/
def createBody (self : OrderCommandHandler) (cmd : CreateOrderCommand) :
    Service (OrderCreatedResult × List Change) := do
  let plan ← getPlan cmd.planId
  let seats ← Prog.ofExcept (parseSeats cmd.seatIds)
  let quantity ← Prog.ofExcept (TicketQuantity.make cmd.quantity)
  let totalAmount ← Prog.ofExcept (calculateTotal plan seats cmd.quantity)
  let orderId ← uuid4
  let stamp ← eventStamp
  let order := Order.create orderId stamp cmd.planId quantity totalAmount cmd.attendeeInfo
  let order ← self.reserveChosenSeats cmd.planId quantity seats order
  let (payment, intent) ← createPaymentAndIntent order totalAmount
  let order ← callOrder (Order.initiatePayment payment.paymentId) order
  return (⟨order.orderId, intent.id, intent.clientSecret, order.status⟩,
    [.insertOrder order.toOrderRow, .insertPayment payment.toPaymentRow])

variable (self : OrderCommandHandler) (cmd : CreateOrderCommand)

lemma handleCreateOrder_eq_body :
    self.handleCreateOrder cmd = withUnitOfWork (createBody self cmd) := rfl

/-- The body builds the purchase, and then only returns. -/
lemma createBody_eq :
    createBody self cmd = self.buildPurchase cmd >>= fun (order, payment, intent) =>
      .pure (⟨order.orderId, intent.id, intent.clientSecret, order.status⟩,
        [.insertOrder order.toOrderRow, .insertPayment payment.toPaymentRow]) := by
  rw [createBody, buildPurchase]
  simp only [bind_assoc, pure_bind]
  rfl

/-- **No Redis command is sent**: only a request without chosen seats passes `_parse_seats`, and
then there is nothing to hold. -/
theorem uses_createBody : (createBody self cmd).Uses OffRedis := by
  have hbuilds : ∀ o, Purchase.Builds o → OffRedis o := by
    intro o ho
    cases o with
    | redis c => exact ho.elim
    | _ => trivial
  rw [createBody_eq]
  exact ((Purchase.uses_buildPurchase self cmd).mono hbuilds).bind fun _ => trivial

/-- **A failed order leaves the holds as they were**, whether the handler fails by itself, or an
exception happens in its body after any number of operations, or anywhere in the call. -/
theorem holds_unchanged (w : World) :
    ((self.handleCreateOrder cmd).after World.handle w).redis = w.redis ∧
      ∀ (e : PyError) (n : ℕ),
        ((withUnitOfWork ((createBody self cmd).raiseAfter e n)).after World.handle w).redis =
          w.redis ∧
        (((self.handleCreateOrder cmd).raiseAfter e n).after World.handle w).redis = w.redis := by
  have hbody := uses_createBody self cmd
  have hcall : (self.handleCreateOrder cmd).Uses OffRedis := by
    rw [handleCreateOrder_eq_body]
    exact uses_withUnitOfWork hbody
  refine ⟨redis_after hcall w, fun e n => ⟨?_, ?_⟩⟩
  · exact redis_after (uses_withUnitOfWork (hbody.raiseAfter e n)) w
  · exact redis_after (hcall.raiseAfter e n) w

end TicketGenius.FailedOrder
