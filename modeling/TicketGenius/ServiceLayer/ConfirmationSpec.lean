import TicketGenius.ServiceLayer.FulfillmentSpec

/-!
# What confirming a payment does

A confirmation has two halves.  In the first it finds the order, the payment, an unused idempotency
key and the intent; if one is missing it raises and has changed no record.  In the second the
provider has answered, and what it did to the intent stays done whatever comes next
(`confirm_reaches`).  If it took the money the handler still has to capture the payment, to
confirm the order, to find the plan and to fulfil the order; `Completable` collects what these steps
ask for, and `completePayment_returns_iff` shows that they ask for nothing else.
-/

namespace TicketGenius

open Framework Service
open PaymentSimulatorAdapter (attempt)

/-! ## The unit of work -/

/-- What the exit of the unit of work makes of the outcome of its body. -/
def exitUnitOfWork {α : Type} :
    EStateM.Result PyError World (α × List Change) → EStateM.Result PyError World α
  | .ok (a, changes) w => .ok a (changes.foldl World.apply w)
  | .error e w => .error e w

lemma run_withUnitOfWork {α : Type} (body : Service (α × List Change)) (w : World) :
    (withUnitOfWork body).run World.handle w = exitUnitOfWork (body.run World.handle w) := by
  simp only [withUnitOfWork, Prog.run_onRaise, Prog.run_bind]
  cases body.run World.handle w with
  | ok result w' => rfl
  | error e w' => rfl

/-! ## Rows -/

section Rows

variable {self : OrderCommandHandler} {w : World} {orderId planId : UUID}

lemma run_getOrder_some {row : OrderRow} (h : w.orders.find orderId = some row)
    (hloads : self.session.Loads row) :
    (self.getOrder orderId).run World.handle w = .ok row w := by
  rw [OrderCommandHandler.getOrder, Prog.run_bind_ok _ _ (run_ordersGet ..), h]
  dsimp only
  rw [Session.load_of_loads hloads]
  rfl

lemma run_getOrder_unloadable {row : OrderRow} (h : w.orders.find orderId = some row)
    (hloads : ¬ self.session.Loads row) :
    ∃ message, (self.getOrder orderId).run World.handle w = .error (.typeError message) w := by
  obtain ⟨message, hraise⟩ := Session.load_of_not hloads
  rw [OrderCommandHandler.getOrder, Prog.run_bind_ok _ _ (run_ordersGet ..), h]
  dsimp only
  rw [hraise]
  exact ⟨message, rfl⟩

lemma run_getOrder_none (h : w.orders.find orderId = none) :
    (self.getOrder orderId).run World.handle w =
      .error (.domain (orderNotFoundError orderId.str)) w := by
  rw [OrderCommandHandler.getOrder, Prog.run_bind_ok _ _ (run_ordersGet ..), h]
  rfl

lemma run_getPayment_some {row : PaymentRow} (h : w.payments.find orderId = some row) :
    (OrderCommandHandler.getPayment orderId).run World.handle w = .ok row w := by
  rw [OrderCommandHandler.getPayment, Prog.run_bind_ok _ _ (run_paymentsGetByOrderId ..), h]
  rfl

lemma run_getPayment_none (h : w.payments.find orderId = none) :
    ∃ e, (OrderCommandHandler.getPayment orderId).run World.handle w = .error e w := by
  rw [OrderCommandHandler.getPayment, Prog.run_bind_ok _ _ (run_paymentsGetByOrderId ..), h]
  exact ⟨_, rfl⟩

lemma run_getPlan_some {plan : Plan} (h : w.plans.find planId = some plan) :
    (OrderCommandHandler.getPlan planId).run World.handle w = .ok plan w := by
  rw [OrderCommandHandler.getPlan, Prog.run_bind_ok _ _ (run_plansGet ..), h]
  rfl

lemma run_getPlan_eq_ok {plan : Plan} {w' : World}
    (h : (OrderCommandHandler.getPlan planId).run World.handle w = .ok plan w') :
    w.plans.find planId = some plan ∧ w' = w := by
  rw [OrderCommandHandler.getPlan, Prog.run_bind_ok _ _ (run_plansGet ..)] at h
  cases hplan : w.plans.find planId with
  | none =>
    rw [hplan] at h
    cases h
  | some plan' =>
    rw [hplan] at h
    cases h
    exact ⟨rfl, rfl⟩

end Rows

/-! ## Completing a payment -/

namespace OrderCommandHandler

/-- What the handler needs once the provider has taken the money. -/
structure Completable (handler : OrderCommandHandler) (w : World) (order : Order)
    (payment : Payment) : Prop where
  authorized : payment.status = .authorized
  initiated : order.status = .paymentInitiated
  plan : w.plans.find order.planId ≠ none
  events : order.domainEvents ≠ none
  offer : UsableOffer handler.tm.redis w.redis order.orderId
  acceptance : UsableAcceptance handler.tm.redis w.redis order.orderId

/-- The row of a confirmed order. -/
def paidRow (order : OrderRow) : OrderRow :=
  { order with status := .paid, version := order.version + 1 }

/-- The row of a captured payment. -/
def capturedRow (payment : PaymentRow) (intent : PaymentIntent) : PaymentRow :=
  { payment with
    providerRef := some (Dict.getD intent.metadata "captured_at" "")
    status := .captured, version := payment.version + 1 }

variable {self : OrderCommandHandler} {w : World} {order : Order} {payment : Payment}
  {intent : PaymentIntent}

lemma run_capture_eq_ok {payment' : Payment}
    (h : (Payment.capture (Dict.getD intent.metadata "captured_at" "")).run payment =
      .ok () payment') :
    payment.status = .authorized ∧
      payment'.toPaymentRow = capturedRow payment.toPaymentRow intent := by
  rw [Payment.run_capture] at h
  split at h
  · next hauthorized =>
    cases h
    exact ⟨hauthorized, rfl⟩
  · cases h

lemma run_confirm_eq_ok {order' : Order} (h : Order.confirmPayment.run order = .ok () order') :
    order.status = .paymentInitiated ∧ order'.toOrderRow = paidRow order.toOrderRow ∧
      order'.domainEvents = order.domainEvents := by
  rw [Order.run_confirmPayment] at h
  split at h
  · next hinitiated =>
    cases h
    exact ⟨hinitiated, rfl, rfl⟩
  · cases h

theorem completePayment_returns_iff (intent : PaymentIntent) :
    (self.completePayment order payment intent).Returns World.handle w ↔
      self.Completable w order payment := by
  constructor
  · rintro ⟨result, w', hrun⟩
    simp only [completePayment, Prog.run_bind_eq_ok] at hrun
    obtain ⟨paid, _, hcapture, confirmed, _, hconfirm, plan, _, hget, fulfilled, _, hfulfill, -⟩ :=
      hrun
    obtain ⟨hpaid, rfl⟩ := callPayment_eq_ok.mp hcapture
    obtain ⟨hconfirmed, rfl⟩ := callOrder_eq_ok.mp hconfirm
    obtain ⟨hplan, rfl⟩ := run_getPlan_eq_ok hget
    obtain ⟨hauthorized, -⟩ := run_capture_eq_ok hpaid
    obtain ⟨hinitiated, hrow, hinstance⟩ := run_confirm_eq_ok hconfirmed
    obtain ⟨hevents, hoffer, hacceptance⟩ := fulfill_returned hfulfill
    rw [hinstance] at hevents
    rw [hrow] at hplan hoffer hacceptance
    exact ⟨hauthorized, hinitiated, Option.ne_none_iff_exists'.mpr ⟨plan, hplan⟩, hevents, hoffer,
      hacceptance⟩
  · rintro ⟨hauthorized, hinitiated, hplan, hevents, hoffer, hacceptance⟩
    obtain ⟨plan, hplan⟩ := Option.ne_none_iff_exists'.mp hplan
    have hpaid := Payment.run_capture payment (Dict.getD intent.metadata "captured_at" "")
    rw [if_pos hauthorized] at hpaid
    have hconfirmed := Order.run_confirmPayment order
    rw [if_pos hinitiated] at hconfirmed
    obtain ⟨fulfilled, w₁, hfulfill⟩ := fulfill_returns self.tm
      { order with status := .paid, statusLoaded := false, version := order.version + 1 }
      plan w hevents hoffer hacceptance
    rw [completePayment,
      Prog.returns_bind_of_ok (callPayment_eq_ok.mpr ⟨hpaid, rfl⟩),
      Prog.returns_bind_of_ok (callOrder_eq_ok.mpr ⟨hconfirmed, rfl⟩),
      Prog.returns_bind_of_ok (run_getPlan_some hplan), Prog.returns_bind_of_ok hfulfill]
    exact Prog.returns_pure ..

/-- What the flush writes when the payment is completed. -/
lemma completePayment_yields :
    (self.completePayment order payment intent).Yields fun result =>
      result.2 = [.updateOrder order.toOrderRow (paidRow order.toOrderRow),
        .updatePayment payment.toPaymentRow (capturedRow payment.toPaymentRow intent)] := by
  refine (yields_callPayment fun paid hpaid => run_capture_eq_ok hpaid).bind fun paid hpaid => ?_
  refine (yields_callOrder fun confirmed h => run_confirm_eq_ok h).bind fun confirmed hrow => ?_
  refine Prog.Yields.bind_right (fun plan => ?_) _
  refine (fulfill_yields _ _ _).bind fun result hresult => ?_
  show [Change.updateOrder order.toOrderRow result.2.toOrderRow,
    .updatePayment payment.toPaymentRow paid.toPaymentRow] = _
  rw [hresult, hrow.2.1, hpaid.2]

lemma uses_completePayment :
    (self.completePayment order payment intent).Uses Op.Settles := by
  refine (uses_callPayment ..).bind fun paid => ?_
  refine (uses_callOrder ..).bind fun confirmed => ?_
  refine Prog.Uses.bind (p := getPlan _) ?_ fun plan => ?_
  · refine Prog.Uses.bind (p := plansGet _) ⟨trivial, fun _ => trivial⟩ fun plan => ?_
    cases plan <;> trivial
  · exact (uses_fulfill ..).bind fun _ => trivial

lemma aside_completePayment : (self.completePayment order payment intent).Aside :=
  uses_completePayment.mono fun _ ho => ho.aside

lemma declinePayment_neverReturns (self : OrderCommandHandler) (order : Order) (payment : Payment)
    (intent : PaymentIntent) :
    (self.declinePayment order payment intent :
      Service (PaymentConfirmedResult × List Change)).NeverReturns := by
  refine Prog.Yields.bind_right (fun _ => ?_) _
  have hraise : ∀ (_ : Unit) (e : PyError),
      (.raise e : Service (PaymentConfirmedResult × List Change)).NeverReturns :=
    fun _ _ => trivial
  exact Prog.Yields.bind_right (hraise · _) _

lemma uses_declinePayment :
    (self.declinePayment order payment intent :
      Service (PaymentConfirmedResult × List Change)).Uses Op.Settles := by
  refine (uses_callPayment ..).bind fun _ => ?_
  exact ((uses_releaseSeatHolds ..).mono fun _ ho => ho.settles).bind fun _ => trivial

lemma aside_declinePayment :
    (self.declinePayment order payment intent :
      Service (PaymentConfirmedResult × List Change)).Aside :=
  uses_declinePayment.mono fun _ ho => ho.aside

end OrderCommandHandler

/-! ## Reaching the provider -/

section Provider

variable {w : World}

lemma run_checkPaymentIdempotency_unused {redis : Bool} {paymentId : UUID} {idempotencyKey : String}
    (h : redis = true → w.redis (paymentConfirmKey paymentId idempotencyKey) = none) :
    ∃ w', (checkPaymentIdempotency redis paymentId idempotencyKey).run World.handle w =
        .ok true w' ∧
      ∀ key, key ≠ paymentConfirmKey paymentId idempotencyKey → w'.redis key = w.redis key := by
  cases redis with
  | false => exact ⟨w, rfl, fun _ _ => rfl⟩
  | true =>
    have hexec := Redis.execute_setNx_free (h rfl) (.text "1") paymentConfirmTtl
    have hrun := run_redisSetNx w (paymentConfirmKey paymentId idempotencyKey) (.text "1")
      paymentConfirmTtl
    rw [hexec] at hrun
    exact ⟨_, hrun, fun key hkey => Function.update_of_ne hkey _ w.redis⟩

lemma run_checkPaymentIdempotency_used {paymentId : UUID} {idempotencyKey : String}
    (h : w.redis (paymentConfirmKey paymentId idempotencyKey) ≠ none) :
    (checkPaymentIdempotency true paymentId idempotencyKey).run World.handle w = .ok false w := by
  rw [checkPaymentIdempotency, if_pos rfl, run_redisSetNx, Redis.execute_setNx_taken h]

/-- An idempotency key is none of the keys fulfilment reads. -/
lemma offerKey_ne_paymentConfirmKey (orderId paymentId : UUID) (idempotencyKey : String) :
    offerKey orderId ≠ paymentConfirmKey paymentId idempotencyKey :=
  append_ne_append 0 (c := 't') (d := 'p') rfl rfl (by decide)

lemma acceptKey_ne_paymentConfirmKey (orderId paymentId : UUID) (idempotencyKey : String) :
    acceptKey orderId ≠ paymentConfirmKey paymentId idempotencyKey :=
  append_ne_append 0 (c := 't') (d := 'p') rfl rfl (by decide)

lemma seatHoldKey_ne_paymentConfirmKey (planId : UUID) (seatId : String) (paymentId : UUID)
    (k : String) : seatHoldKey planId seatId ≠ paymentConfirmKey paymentId k :=
  append_ne_append 0 (c := 'S') (d := 'p') rfl rfl (by decide)

end Provider

namespace OrderCommandHandler

/-- The handler gets as far as the provider, with these rows and this intent. -/
structure ReachesProvider (handler : OrderCommandHandler) (cmd : ConfirmPaymentCommand) (w : World)
    (order : OrderRow) (payment : PaymentRow) (intent : PaymentIntent) : Prop where
  findOrder : w.orders.find cmd.orderId = some order
  loads : handler.session.Loads order
  findPayment : w.payments.find cmd.orderId = some payment
  unused : handler.tm.redis = true →
    w.redis (paymentConfirmKey payment.paymentId (confirmationKey cmd payment.paymentId)) = none
  findIntent : w.intents.find cmd.paymentIntentId = some intent

/-- Between `w` and `w'` the provider has turned an intent into `intent'`, and no record has
changed. -/
structure Reported (w w' : World) (intent' : PaymentIntent) : Prop where
  orders : w'.orders = w.orders
  payments : w'.payments = w.payments
  plans : w'.plans = w.plans
  intents : w'.intents = w.intents.put intent'
  holds : ∀ key (u : UUID), w'.redis.Holds key u.str → w.redis.Holds key u.str

/-- The same, and what fulfilment will read is as it was. -/
structure Answered (w w' : World) (intent' : PaymentIntent) : Prop
    extends Reported w w' intent' where
  offer : ∀ orderId, w'.redis (offerKey orderId) = w.redis (offerKey orderId)
  acceptance : ∀ orderId, w'.redis (acceptKey orderId) = w.redis (acceptKey orderId)

lemma Reported.trans {w w' w'' : World} {intent' : PaymentIntent} (h : Reported w w' intent')
    (h' : w'.Beside w'') : Reported w w'' intent' :=
  ⟨h'.orders.trans h.orders, h'.payments.trans h.payments, h'.plans.trans h.plans,
    h'.intents.trans h.intents, fun key u => h.holds key u ∘ h'.holds key u⟩

variable {self : OrderCommandHandler} {cmd : ConfirmPaymentCommand} {w : World} {order : OrderRow}
  {payment : PaymentRow} {intent : PaymentIntent}

/-- The provider's answer about a known intent. -/
lemma run_confirmPayment_known {paymentIntentId : String}
    (h : w.intents.find paymentIntentId = some intent) :
    ∃ time w', (confirmPayment paymentIntentId >>= Prog.ofExcept : Service _).run World.handle w =
        .ok (attempt intent time) w' ∧
      w' = { w with intents := w.intents.put (attempt intent time), entropy := w'.entropy } := by
  let time := w.entropy.now.1.timestamp
  have hanswer : PaymentSimulatorAdapter.confirmPayment w.intents paymentIntentId time =
      (.ok (attempt intent time), w.intents.put (attempt intent time)) := by
    simp only [PaymentSimulatorAdapter.confirmPayment, h]
  refine ⟨time, { w with
    intents := w.intents.put (attempt intent time), entropy := w.entropy.now.2 }, ?_, rfl⟩
  rw [Prog.run_bind_ok _ _ (run_confirmPayment ..), hanswer]
  rfl

/-- The provider's answer about an unknown intent. -/
lemma run_confirmPayment_unknown {paymentIntentId : String}
    (h : w.intents.find paymentIntentId = none) :
    ∃ e w', (confirmPayment paymentIntentId >>= Prog.ofExcept : Service _).run World.handle w =
        .error e w' ∧
      w' = { w with entropy := w'.entropy } := by
  have hanswer : PaymentSimulatorAdapter.confirmPayment w.intents paymentIntentId
      w.entropy.now.1.timestamp = (.error (.intentNotFound
        s!"Payment intent {paymentIntentId} not found"), w.intents) := by
    simp only [PaymentSimulatorAdapter.confirmPayment, h]
  refine ⟨.intentNotFound s!"Payment intent {paymentIntentId} not found",
    { w with entropy := w.entropy.now.2 }, ?_, rfl⟩
  rw [Prog.run_bind_ok _ _ (run_confirmPayment ..), hanswer]
  rfl

/-- **Up to the provider's answer** the handler has nothing to decide. -/
theorem confirm_reaches (h : self.ReachesProvider cmd w order payment intent) :
    ∃ time w₁, Answered w w₁ (attempt intent time) ∧
      (self.handleConfirmPayment cmd).run World.handle w =
        exitUnitOfWork ((self.settlePayment (self.session.instanceOfOrder order)
          (self.session.instanceOfPayment payment)
          (attempt intent time)).run World.handle w₁) := by
  obtain ⟨w₁, hcheck, hkeys⟩ := run_checkPaymentIdempotency_unused h.unused
  have hbeside := (aside_checkPaymentIdempotency ..).run_ok hcheck
  have hintent : w₁.intents.find cmd.paymentIntentId = some intent := by
    rw [hbeside.intents, h.findIntent]
  obtain ⟨time, w₂, hconfirm, hw₂⟩ := run_confirmPayment_known hintent
  refine ⟨time, w₂, ⟨⟨?_, ?_, ?_, ?_, ?_⟩, ?_, ?_⟩, ?_⟩
  · rw [hw₂, ← hbeside.orders]
  · rw [hw₂, ← hbeside.payments]
  · rw [hw₂, ← hbeside.plans]
  · rw [hw₂, ← hbeside.intents]
  · rw [hw₂]
    exact hbeside.holds
  · rw [hw₂]
    exact fun orderId => hkeys _ (offerKey_ne_paymentConfirmKey _ _ _)
  · rw [hw₂]
    exact fun orderId => hkeys _ (acceptKey_ne_paymentConfirmKey _ _ _)
  · rw [handleConfirmPayment, run_withUnitOfWork, confirmBody,
      Prog.run_bind_ok _ _ (run_getOrder_some h.findOrder h.loads),
      Prog.run_bind_ok _ _ (run_getPayment_some h.findPayment)]
    dsimp only
    rw [Session.instanceOfPayment_paymentId, Prog.run_bind_ok _ _ hcheck, if_neg (by decide),
      Prog.run_bind_ok _ _ hconfirm]

/-- **Short of the provider** the handler raises, and has changed no record and no intent. -/
theorem confirm_not_reaches
    (h : ∀ order payment intent, ¬ self.ReachesProvider cmd w order payment intent) :
    ∃ e w', (self.handleConfirmPayment cmd).run World.handle w = .error e w' ∧ w.Beside w' := by
  rw [handleConfirmPayment, run_withUnitOfWork, confirmBody]
  cases horder : w.orders.find cmd.orderId with
  | none =>
    rw [Prog.run_bind_error _ _ (run_getOrder_none horder)]
    exact ⟨_, _, rfl, .refl w⟩
  | some order =>
  by_cases hloads : self.session.Loads order
  swap
  · obtain ⟨message, hraise⟩ := run_getOrder_unloadable horder hloads
    rw [Prog.run_bind_error _ _ hraise]
    exact ⟨_, _, rfl, .refl w⟩
  rw [Prog.run_bind_ok _ _ (run_getOrder_some horder hloads)]
  cases hpayment : w.payments.find cmd.orderId with
  | none =>
    obtain ⟨e, hraise⟩ := run_getPayment_none hpayment
    rw [Prog.run_bind_error _ _ hraise]
    exact ⟨_, _, rfl, .refl w⟩
  | some payment =>
  rw [Prog.run_bind_ok _ _ (run_getPayment_some hpayment)]
  dsimp only
  rw [Session.instanceOfPayment_paymentId]
  by_cases hunused : self.tm.redis = true → w.redis (paymentConfirmKey payment.paymentId
      (confirmationKey cmd payment.paymentId)) = none
  · obtain ⟨w₁, hcheck, -⟩ := run_checkPaymentIdempotency_unused hunused
    have hbeside := (aside_checkPaymentIdempotency ..).run_ok hcheck
    rw [Prog.run_bind_ok _ _ hcheck, if_neg (by decide)]
    cases hintent : w.intents.find cmd.paymentIntentId with
    | some intent =>
      exact absurd ⟨horder, hloads, hpayment, hunused, hintent⟩ (h order payment intent)
    | none =>
      obtain ⟨e, w₂, hraise, hw₂⟩ :=
        run_confirmPayment_unknown (w := w₁) (hbeside.intents ▸ hintent)
      rw [Prog.run_bind_error _ _ hraise]
      refine ⟨_, _, rfl, hbeside.trans ?_⟩
      rw [hw₂]
      exact ⟨rfl, rfl, rfl, rfl, fun _ _ => id⟩
  · rw [Classical.not_imp] at hunused
    obtain ⟨hredis, hused⟩ := hunused
    have hcheck := run_checkPaymentIdempotency_used hused
    rw [← hredis] at hcheck
    rw [Prog.run_bind_ok _ _ hcheck, if_pos (by decide)]
    exact ⟨_, _, rfl, .refl w⟩

/-! ## The outcome of a confirmation -/

/-- The provider takes the money: the handler reaches it, and the amount is within its limit. -/
structure Charges (handler : OrderCommandHandler) (cmd : ConfirmPaymentCommand) (w : World)
    (order : OrderRow) (payment : PaymentRow) (intent : PaymentIntent) : Prop where
  reaches : handler.ReachesProvider cmd w order payment intent
  affordable : ¬ PaymentSimulatorAdapter.limit < intent.amount.amount

/-- The handler's further needs are the same before and after the provider's answer. -/
lemma Answered.completable_iff {w₁ : World} {intent' : PaymentIntent} (h : Answered w w₁ intent')
    {order : Order} {payment : Payment} :
    self.Completable w₁ order payment ↔ self.Completable w order payment := by
  constructor
  · rintro ⟨hauthorized, hinitiated, hplan, hevents, hoffer, hacceptance⟩
    exact ⟨hauthorized, hinitiated, h.plans ▸ hplan, hevents,
      (UsableOffer.congr (h.offer _)).mp hoffer,
      (UsableAcceptance.congr (h.acceptance _)).mp hacceptance⟩
  · rintro ⟨hauthorized, hinitiated, hplan, hevents, hoffer, hacceptance⟩
    exact ⟨hauthorized, hinitiated, h.plans ▸ hplan, hevents,
      (UsableOffer.congr (h.offer _)).mpr hoffer,
      (UsableAcceptance.congr (h.acceptance _)).mpr hacceptance⟩

/-- The world a successful confirmation leaves. -/
structure Confirmed (w w' : World) (order : OrderRow) (payment : PaymentRow)
    (intent' : PaymentIntent) : Prop where
  orders : w'.orders = w.orders.put (paidRow order)
  payments : w'.payments = w.payments.put (capturedRow payment intent')
  plans : w'.plans = w.plans
  intents : w'.intents = w.intents.put intent'
  holds : ∀ key (u : UUID), w'.redis.Holds key u.str → w.redis.Holds key u.str

/-- **A charge and its completion.**  Once the provider has taken the money, the handler returns
exactly if it finds what it further needs; it then leaves the order paid and the payment
captured, and otherwise it leaves all records but the intent as they were. -/
theorem confirm_charges (h : self.Charges cmd w order payment intent) :
    ∃ time, let intent' := attempt intent time
      intent'.status = .succeeded ∧
      (self.Completable w (self.session.instanceOfOrder order)
          (self.session.instanceOfPayment payment) →
        ∃ result w', (self.handleConfirmPayment cmd).run World.handle w = .ok result w' ∧
          Confirmed w w' order payment intent') ∧
      (¬ self.Completable w (self.session.instanceOfOrder order)
          (self.session.instanceOfPayment payment) →
        ∃ e w', (self.handleConfirmPayment cmd).run World.handle w = .error e w' ∧
          Reported w w' intent') := by
  obtain ⟨time, w₁, hanswered, hrun⟩ := confirm_reaches h.reaches
  have hsucceeded : (attempt intent time).status =
      .succeeded := by
    rw [PaymentSimulatorAdapter.attempt_status, if_neg h.affordable]
  refine ⟨time, hsucceeded, fun hcompletable => ?_, fun hnot => ?_⟩
  · have hsettle := hanswered.completable_iff.mpr hcompletable
    obtain ⟨⟨result, changes⟩, w₂, hcomplete⟩ :=
      (completePayment_returns_iff (attempt intent time)).mpr hsettle
    have hbeside := aside_completePayment.run_ok hcomplete
    have hchanges := completePayment_yields.of_run hcomplete
    simp only at hchanges
    have horder : w₂.orders.find order.orderId = some order := by
      rw [hbeside.orders, hanswered.orders, w.orders.keyed _ _ h.reaches.findOrder]
      exact h.reaches.findOrder
    have hpayment : w₂.payments.find payment.orderId = some payment := by
      rw [hbeside.payments, hanswered.payments, w.payments.keyed _ _ h.reaches.findPayment]
      exact h.reaches.findPayment
    rw [settlePayment, if_neg (not_not_intro hsucceeded), hcomplete, hchanges] at hrun
    refine ⟨result, _, hrun, ?_⟩
    have hreported := hanswered.toReported.trans hbeside
    change Confirmed w ([Change.updateOrder order (paidRow order), .updatePayment payment
      (capturedRow payment (attempt intent time))].foldl World.apply w₂) _ _ _
    have hflush := World.apply_updates horder hpayment
      (show (paidRow order).orderId = order.orderId from rfl)
      (show (capturedRow payment (attempt intent time)).paymentId = payment.paymentId from rfl) rfl
    rw [hflush]
    exact ⟨by rw [hreported.orders], by rw [hreported.payments], hreported.plans,
      hreported.intents, hreported.holds⟩
  · rw [settlePayment, if_neg (not_not_intro hsucceeded)] at hrun
    cases hcomplete : (self.completePayment (self.session.instanceOfOrder order)
        (self.session.instanceOfPayment payment)
        (attempt intent time)).run World.handle w₁ with
    | ok result w₂ =>
      exact absurd (hanswered.completable_iff.mp
        ((completePayment_returns_iff _).mp ⟨result, w₂, hcomplete⟩)) hnot
    | error e w₂ =>
      rw [hcomplete] at hrun
      exact ⟨e, w₂, hrun, hanswered.toReported.trans (aside_completePayment.run_error hcomplete)⟩

/-! ## Every confirmation -/

/-- **A declined confirmation** raises. -/
lemma confirm_declined (h : self.ReachesProvider cmd w order payment intent)
    (hlimit : PaymentSimulatorAdapter.limit < intent.amount.amount) :
    ∃ time e w', (self.handleConfirmPayment cmd).run World.handle w = .error e w' ∧
      Reported w w' (attempt intent time) := by
  obtain ⟨time, w₁, hanswered, hrun⟩ := confirm_reaches h
  have hfailed : (attempt intent time).status ≠ .succeeded := by
    rw [PaymentSimulatorAdapter.attempt_status, if_pos hlimit]
    decide
  obtain ⟨e, w₂, hdecline⟩ := (declinePayment_neverReturns self (self.session.instanceOfOrder order)
    (self.session.instanceOfPayment payment) (attempt intent time)).run World.handle w₁
  rw [settlePayment, if_pos hfailed, hdecline] at hrun
  exact ⟨time, e, w₂, hrun, hanswered.toReported.trans (aside_declinePayment.run_error hdecline)⟩

/-- What a confirmation that returns has found, and what it leaves. -/
theorem confirm_ok {result : PaymentConfirmedResult} {w' : World}
    (hrun : (self.handleConfirmPayment cmd).run World.handle w = .ok result w') :
    ∃ order payment intent time, self.Charges cmd w order payment intent ∧
      self.Completable w (self.session.instanceOfOrder order)
        (self.session.instanceOfPayment payment) ∧
      Confirmed w w' order payment (attempt intent time) := by
  by_cases hreaches : ∃ order payment intent, self.ReachesProvider cmd w order payment intent
  · obtain ⟨order, payment, intent, hreaches⟩ := hreaches
    by_cases hlimit : PaymentSimulatorAdapter.limit < intent.amount.amount
    · obtain ⟨time, e, w₁, hraise, -⟩ := confirm_declined hreaches hlimit
      rw [hraise] at hrun
      cases hrun
    · obtain ⟨time, -, hok, herror⟩ := confirm_charges ⟨hreaches, hlimit⟩
      by_cases hcompletable : self.Completable w (self.session.instanceOfOrder order)
          (self.session.instanceOfPayment payment)
      · obtain ⟨result', w₁, hreturn, hconfirmed⟩ := hok hcompletable
        rw [hreturn] at hrun
        cases hrun
        exact ⟨order, payment, intent, time, ⟨hreaches, hlimit⟩, hcompletable, hconfirmed⟩
      · obtain ⟨e, w₁, hraise, -⟩ := herror hcompletable
        rw [hraise] at hrun
        cases hrun
  · push Not at hreaches
    obtain ⟨e, w₁, hraise, -⟩ := confirm_not_reaches hreaches
    rw [hraise] at hrun
    cases hrun

/-- A confirmation that raises changes no record; at most it has the provider's answer kept. -/
theorem confirm_error {e : PyError} {w' : World}
    (hrun : (self.handleConfirmPayment cmd).run World.handle w = .error e w') :
    w.Beside w' ∨ ∃ order payment intent time, self.ReachesProvider cmd w order payment intent ∧
      Reported w w' (attempt intent time) := by
  by_cases hreaches : ∃ order payment intent, self.ReachesProvider cmd w order payment intent
  · obtain ⟨order, payment, intent, hreaches⟩ := hreaches
    refine .inr ⟨order, payment, intent, ?_⟩
    by_cases hlimit : PaymentSimulatorAdapter.limit < intent.amount.amount
    · obtain ⟨time, e', w₁, hraise, hreported⟩ := confirm_declined hreaches hlimit
      rw [hraise] at hrun
      cases hrun
      exact ⟨time, hreaches, hreported⟩
    · obtain ⟨time, -, hok, herror⟩ := confirm_charges ⟨hreaches, hlimit⟩
      by_cases hcompletable : self.Completable w (self.session.instanceOfOrder order)
          (self.session.instanceOfPayment payment)
      · obtain ⟨result', w₁, hreturn, -⟩ := hok hcompletable
        rw [hreturn] at hrun
        cases hrun
      · obtain ⟨e', w₁, hraise, hreported⟩ := herror hcompletable
        rw [hraise] at hrun
        cases hrun
        exact ⟨time, hreaches, hreported⟩
  · push Not at hreaches
    obtain ⟨e', w₁, hraise, hbeside⟩ := confirm_not_reaches hreaches
    rw [hraise] at hrun
    cases hrun
    exact .inl hbeside

end OrderCommandHandler

end TicketGenius
