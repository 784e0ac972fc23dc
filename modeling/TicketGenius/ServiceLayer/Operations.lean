import TicketGenius.ServiceLayer.World

/-!
# The operations as programs

Each operation of the world under the name the source calls it by, with what it does to the world
as a simp lemma, and `callOrder`, `callPayment`, which run a method of an instance inside a
program.
-/

namespace TicketGenius

open Framework

/-- Programs of the service layer. -/
abbrev Service (α : Type) : Type := Prog service PyError α

namespace Service

variable {α : Type}

/-- `redis.set(key, value, nx=True, ex=ttl)` -/
def redisSetNx (key : String) (value : Redis.Value) (ttl : ℕ) : Service Bool :=
  Prog.perform (S := service) (Op.redis (.setNx key value ttl))

/-- `redis.get(key)` -/
def redisGet (key : String) : Service (Option Redis.Value) :=
  Prog.perform (S := service) (Op.redis (.get key))

/-- `redis.delete(key)` -/
def redisDelete (key : String) : Service Unit :=
  Prog.perform (S := service) (Op.redis (.delete key))

/-- `redis.setex(key, ttl, value)` -/
def redisSetex (key : String) (ttl : ℕ) (value : Redis.Value) : Service Unit :=
  Prog.perform (S := service) (Op.redis (.setex key ttl value))

/-- `uow.orders.get(order_id)` -/
def ordersGet (orderId : UUID) : Service (Option OrderRow) :=
  Prog.perform (S := service) (Op.ordersGet orderId)

/-- `uow.payments.get_by_order_id(order_id)` -/
def paymentsGetByOrderId (orderId : UUID) : Service (Option PaymentRow) :=
  Prog.perform (S := service) (Op.paymentsGetByOrderId orderId)

/-- `uow.plans.get(plan_id)` -/
def plansGet (planId : UUID) : Service (Option Plan) :=
  Prog.perform (S := service) (Op.plansGet planId)

/-- `payment_adapter.create_payment_intent(amount, currency, metadata)` -/
def createPaymentIntent (amount : Money) (metadata : Dict String) : Service PaymentIntent :=
  Prog.perform (S := service) (Op.createPaymentIntent amount metadata)

/-- `payment_adapter.confirm_payment(payment_intent_id)` -/
def confirmPayment (paymentIntentId : String) : Service (Except PyError PaymentIntent) :=
  Prog.perform (S := service) (Op.confirmPayment paymentIntentId)

/-- `uuid4()` -/
def uuid4 : Service UUID := Prog.perform (S := service) Op.uuid4

/-- `datetime.now(UTC)` -/
def now : Service DateTime := Prog.perform (S := service) Op.now

/-- `session.commit()` -/
def commit (changes : List Change) : Service Unit :=
  Prog.perform (S := service) (Op.commit changes)

/-- `session.rollback()` -/
def rollback : Service Unit := Prog.perform (S := service) Op.rollback

/-- What the default factories of an event draw. -/
def eventStamp : Service EventStamp := do
  let eventId ← uuid4
  let occurredAt ← now
  return ⟨eventId, occurredAt⟩

/-- Calls a method of an order. -/
def callOrder (method : OrderM Unit) (order : Order) : Service Order :=
  match method.run order with
  | .ok _ order => .pure order
  | .error e _ => .raise e

/-- Calls a method of a payment. -/
def callPayment (method : PaymentM Unit) (payment : Payment) : Service Payment :=
  match method.run payment with
  | .ok _ payment => .pure payment
  | .error e _ => .raise e

/-! ## Runs -/

section Runs

variable (w : World)

@[simp] lemma run_redisSetNx (key : String) (value : Redis.Value) (ttl : ℕ) :
    (redisSetNx key value ttl).run World.handle w =
      .ok (Redis.execute (.setNx key value ttl) w.redis).1
        { w with redis := (Redis.execute (.setNx key value ttl) w.redis).2 } := rfl

@[simp] lemma run_redisGet (key : String) :
    (redisGet key).run World.handle w = .ok ((w.redis key).map Redis.Entry.value) w := rfl

@[simp] lemma run_redisDelete (key : String) :
    (redisDelete key).run World.handle w =
      .ok () { w with redis := Function.update w.redis key none } := rfl

@[simp] lemma run_redisSetex (key : String) (ttl : ℕ) (value : Redis.Value) :
    (redisSetex key ttl value).run World.handle w =
      .ok () { w with redis := Function.update w.redis key (some ⟨value, some ttl⟩) } := rfl

@[simp] lemma run_ordersGet (orderId : UUID) :
    (ordersGet orderId).run World.handle w = .ok (w.orders.find orderId) w := rfl

@[simp] lemma run_paymentsGetByOrderId (orderId : UUID) :
    (paymentsGetByOrderId orderId).run World.handle w = .ok (w.payments.find orderId) w := rfl

@[simp] lemma run_plansGet (planId : UUID) :
    (plansGet planId).run World.handle w = .ok (w.plans.find planId) w := rfl

@[simp] lemma run_confirmPayment (paymentIntentId : String) :
    (confirmPayment paymentIntentId).run World.handle w =
      .ok (PaymentSimulatorAdapter.confirmPayment w.intents paymentIntentId
          w.entropy.now.1.timestamp).1
        { w with
          intents := (PaymentSimulatorAdapter.confirmPayment w.intents paymentIntentId
            w.entropy.now.1.timestamp).2
          entropy := w.entropy.now.2 } := rfl

end Runs

/-! ## Methods called from a program -/

lemma callOrder_eq_ok {method : OrderM Unit} {order order' : Order} {w w' : World} :
    (callOrder method order).run World.handle w = .ok order' w' ↔
      method.run order = .ok () order' ∧ w' = w := by
  rw [callOrder]
  cases method.run order with
  | ok u o => simp [eq_comm]
  | error e o => simp

lemma callPayment_eq_ok {method : PaymentM Unit} {payment payment' : Payment} {w w' : World} :
    (callPayment method payment).run World.handle w = .ok payment' w' ↔
      method.run payment = .ok () payment' ∧ w' = w := by
  rw [callPayment]
  cases method.run payment with
  | ok u p => simp [eq_comm]
  | error e p => simp

/-- A method performs no operation. -/
lemma uses_callOrder {P : Op → Prop} (method : OrderM Unit) (order : Order) :
    (callOrder method order).Uses P := by
  unfold callOrder
  split <;> trivial

lemma uses_callPayment {P : Op → Prop} (method : PaymentM Unit) (payment : Payment) :
    (callPayment method payment).Uses P := by
  unfold callPayment
  split <;> trivial

lemma yields_callOrder {P : Order → Prop} {method : OrderM Unit} {order : Order}
    (h : ∀ order', method.run order = .ok () order' → P order') :
    (callOrder method order).Yields P := by
  rw [callOrder]
  rcases hrun : method.run order with ⟨u, order'⟩ | ⟨e, order'⟩
  · exact h order' hrun
  · trivial

lemma yields_callPayment {P : Payment → Prop} {method : PaymentM Unit} {payment : Payment}
    (h : ∀ payment', method.run payment = .ok () payment' → P payment') :
    (callPayment method payment).Yields P := by
  rw [callPayment]
  rcases hrun : method.run payment with ⟨u, payment'⟩ | ⟨e, payment'⟩
  · exact h payment' hrun
  · trivial

section Wp

variable {Γ : Type} {C : Contract service Γ} {γ : Γ}

lemma wp_callOrder {method : OrderM Unit} {order : Order} {Q : Except PyError Order → Γ → Prop}
    (hok : ∀ order', method.run order = .ok () order' → Q (.ok order') γ)
    (herror : ∀ e, Q (.error e) γ) : (callOrder method order).wp C Q γ := by
  rw [callOrder]
  rcases hrun : method.run order with ⟨u, order'⟩ | ⟨e, order'⟩
  · exact hok order' hrun
  · exact herror e

lemma wp_callPayment {method : PaymentM Unit} {payment : Payment}
    {Q : Except PyError Payment → Γ → Prop}
    (hok : ∀ payment', method.run payment = .ok () payment' → Q (.ok payment') γ)
    (herror : ∀ e, Q (.error e) γ) : (callPayment method payment).wp C Q γ := by
  rw [callPayment]
  rcases hrun : method.run payment with ⟨u, payment'⟩ | ⟨e, payment'⟩
  · exact hok payment' hrun
  · exact herror e

end Wp

end Service

end TicketGenius
