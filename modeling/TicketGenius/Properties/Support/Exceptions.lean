import TicketGenius.Framework.Raises
import TicketGenius.ServiceLayer.Handlers
import TicketGenius.ServiceLayer.PlanSync
import TicketGenius.ServiceLayer.Queries

/-!
# The texts of exceptions

The message bus raises `ValueError`s whose text starts with "Unknown ".  `Ordinary` exceptions are
the others, and nothing a handler does raises any but these, as far as what is outside the source
does not.  There is one lemma for each function that can raise.

What a confirmation raises once the provider has answered matters for other kinds of exceptions too.
The lemmas it needs are about every kind `P` that covers what the methods and the interpreter raise.
-/

namespace TicketGenius

open Framework Service

/-- Not a `ValueError` about something unknown. -/
def PyError.Ordinary : PyError → Prop
  | .valueError message => ∀ rest, message ≠ "Unknown " ++ rest
  | _ => True

open PyError (Ordinary)

/-- A text with another first letter. -/
lemma ordinary_valueError {message : String} {c : Char} (hc : message.toList[0]? = some c)
    (hne : c ≠ 'U') : Ordinary (.valueError message) := by
  intro rest h
  rw [h, String.toList_append] at hc
  have hU : ("Unknown ".toList ++ rest.toList)[0]? = some 'U' := rfl
  exact hne (Option.some.inj (hc.symm.trans hU))

/-- The text of a transition that is refused. -/
lemma ordinary_cannot (action status : String) :
    Ordinary (.valueError s!"Cannot {action} in status {status}") := by
  refine ordinary_valueError (c := 'C') ?_ (by decide)
  simp only [String.toList_append, List.append_assoc]
  rfl

/-- The kind `P` has what the interpreter raises and every refused transition. -/
structure Covers (P : PyError → Prop) : Prop where
  cannot : ∀ action status : String, P (.valueError s!"Cannot {action} in status {status}")
  attributeError : ∀ message, P (.attributeError message)
  typeError : ∀ message, P (.typeError message)
  keyError : ∀ key, P (.keyError key)
  jsonDecodeError : P .jsonDecodeError

lemma ordinary_covers : Covers Ordinary where
  cannot := ordinary_cannot
  attributeError _ := trivial
  typeError _ := trivial
  keyError _ := trivial
  jsonDecodeError := trivial

/-! ## Values -/

section Values

lemma ordinary_moneyMake (amount : Decimal) (currency : Currency) :
    RaisesOnly Ordinary (Money.make amount currency) := by
  unfold Money.make
  split
  · exact ordinary_valueError (c := 'M') rfl (by decide)
  · split
    · exact ordinary_valueError (c := 'M') rfl (by decide)
    · trivial

lemma ordinary_moneyMul (m : Money) (factor : ℤ) : RaisesOnly Ordinary (m.mul factor) := by
  unfold Money.mul Money.ofArith
  split
  · trivial
  · exact ordinary_moneyMake _ _

lemma ordinary_quantityMake (value : ℤ) : RaisesOnly Ordinary (TicketQuantity.make value) := by
  unfold TicketQuantity.make
  split
  · trivial
  · exact ordinary_valueError (c := 'T') rfl (by decide)

lemma ordinary_dateRangeMake (start stop : PyDateTime) (timezone : Json) :
    RaisesOnly Ordinary (DateRange.make start stop timezone) := by
  unfold DateRange.make
  split
  · next e he =>
    have hge : RaisesOnly Ordinary (start.ge stop) := by cases start <;> cases stop <;> trivial
    rwa [he] at hge
  · exact ordinary_valueError (c := 'D') rfl (by decide)
  · split
    · trivial
    · exact ordinary_valueError (c := 'D') rfl (by decide)

end Values

/-! ## Documents -/

section Documents

variable (document : Json) (key : String)

lemma raisesOnly_item {P : PyError → Prop} (hP : Covers P) : RaisesOnly P (document.item key) := by
  unfold Json.item
  split
  · split
    · exact raisesOnly_ok _
    · exact hP.keyError _
  all_goals exact hP.typeError _

lemma raisesOnly_getD {P : PyError → Prop} (hP : Covers P) (default : Json) :
    RaisesOnly P (document.getD key default) := by
  unfold Json.getD
  split
  · exact raisesOnly_ok _
  · exact hP.attributeError _

lemma ordinary_item : RaisesOnly Ordinary (document.item key) :=
  raisesOnly_item document key ordinary_covers

lemma ordinary_first : RaisesOnly Ordinary document.first := by
  unfold Json.first
  split
  case h_3 => split <;> trivial
  all_goals trivial

lemma ordinary_getD (default : Json) : RaisesOnly Ordinary (document.getD key default) :=
  raisesOnly_getD document key ordinary_covers default

lemma ordinary_venue : RaisesOnly Ordinary document.venue :=
  (ordinary_item _ _).bind fun _ => (ordinary_item _ _).bind fun _ => ordinary_first _

lemma ordinary_imageUrl : RaisesOnly Ordinary document.imageUrl := by
  refine (ordinary_getD _ _ _).bind fun images => ?_
  split
  · exact (ordinary_item _ _).bind fun _ => (ordinary_first _).bind fun _ => ordinary_item _ _
  · trivial

lemma ordinary_venueName : RaisesOnly Ordinary document.venueName :=
  (ordinary_venue _).bind fun _ => ordinary_item _ _

lemma ordinary_venueCity : RaisesOnly Ordinary document.venueCity :=
  (ordinary_venue _).bind fun _ => (ordinary_item _ _).bind fun _ => ordinary_item _ _

lemma ordinary_venueState : RaisesOnly Ordinary document.venueState :=
  (ordinary_venue _).bind fun _ => (ordinary_item _ _).bind fun _ => ordinary_item _ _

lemma ordinary_priceRange : RaisesOnly Ordinary document.priceRange :=
  (ordinary_getD _ _ _).bind fun _ => ordinary_first _

end Documents

/-! ## Methods of the aggregates -/

section Methods

variable {P : PyError → Prop}

lemma raisesOnly_orderStatus (hP : Covers P) (action : String) (allowed : List OrderStatus) :
    MethodRaisesOnly P (Order.requireStatus action allowed) := by
  intro o e o' hrun
  rw [Order.run_requireStatus] at hrun
  split at hrun
  · cases hrun
  · obtain ⟨rfl, -⟩ := EStateM.Result.error.inj hrun
    exact hP.cannot _ _

lemma raisesOnly_orderMove (status : OrderStatus) : MethodRaisesOnly P (Order.moveTo status) :=
  methodRaisesOnly_of_ok fun o => ⟨_, _, Order.run_moveTo o status⟩

lemma raisesOnly_addDomainEvent (hP : Covers P) (event : DomainEvent) :
    MethodRaisesOnly P (Order.addDomainEvent event) := by
  intro o e o' hrun
  rcases hevents : o.domainEvents with _ | events
  · rw [Order.run_addDomainEvent_none o hevents] at hrun
    obtain ⟨rfl, -⟩ := EStateM.Result.error.inj hrun
    exact hP.attributeError _
  · rw [Order.run_addDomainEvent_some o hevents] at hrun
    cases hrun

/-- Reading and assigning attributes raises nothing. -/
lemma raisesOnly_modify {ρ : Type} (f : ρ → ρ) :
    MethodRaisesOnly P (modify f : EStateM PyError ρ Unit) :=
  methodRaisesOnly_of_ok fun o => ⟨(), f o, rfl⟩

lemma raisesOnly_get {ρ : Type} : MethodRaisesOnly P (get : EStateM PyError ρ ρ) :=
  methodRaisesOnly_of_ok fun o => ⟨o, o, rfl⟩

lemma raisesOnly_confirmOrder (hP : Covers P) : MethodRaisesOnly P Order.confirmPayment :=
  (raisesOnly_orderStatus hP _ _).bind fun _ => raisesOnly_orderMove _

lemma raisesOnly_paymentStatus (hP : Covers P) (action : String) (allowed : List PaymentStatus) :
    MethodRaisesOnly P (Payment.requireStatus action allowed) := by
  intro p e p' hrun
  rw [Payment.run_requireStatus] at hrun
  split at hrun
  · cases hrun
  · obtain ⟨rfl, -⟩ := EStateM.Result.error.inj hrun
    exact hP.cannot _ _

lemma raisesOnly_paymentMove (status : PaymentStatus) :
    MethodRaisesOnly P (Payment.moveTo status) :=
  methodRaisesOnly_of_ok fun p => ⟨_, _, Payment.run_moveTo p status⟩

lemma raisesOnly_capture (hP : Covers P) (providerRef : String) :
    MethodRaisesOnly P (Payment.capture providerRef) :=
  (raisesOnly_paymentStatus hP _ _).bind fun _ => (raisesOnly_modify _).bind fun _ =>
    raisesOnly_paymentMove _

lemma raisesOnly_fail (hP : Covers P) (reason : String) :
    MethodRaisesOnly P (Payment.fail reason) :=
  (raisesOnly_paymentStatus hP _ _).bind fun _ => raisesOnly_paymentMove _

lemma ordinary_reserveSeats (seats : List Seat) :
    MethodRaisesOnly Ordinary (Order.reserveSeats seats) := by
  refine (raisesOnly_orderStatus ordinary_covers _ _).bind fun _ => raisesOnly_get.bind fun o => ?_
  by_cases hlen : (seats.length : ℤ) = o.quantity.value
  · simp only [hlen, ne_eq, not_true_eq_false, if_false]
    exact (raisesOnly_modify _).bind fun _ => raisesOnly_orderMove _
  · simp only [hlen, ne_eq, not_false_eq_true, if_true]
    refine (methodRaisesOnly_throw ?_).bind fun _ => ?_
    · refine ordinary_valueError (c := 'E') ?_ (by decide)
      simp only [String.toList_append, List.append_assoc]
      rfl
    · exact (raisesOnly_modify _).bind fun _ => raisesOnly_orderMove _

lemma ordinary_initiatePayment (paymentId : UUID) :
    MethodRaisesOnly Ordinary (Order.initiatePayment paymentId) :=
  (raisesOnly_orderStatus ordinary_covers _ _).bind fun _ =>
    (raisesOnly_modify _).bind fun _ => raisesOnly_orderMove _

lemma ordinary_cancel (reason : String) (stamp : EventStamp) :
    MethodRaisesOnly Ordinary (Order.cancel reason stamp) :=
  (raisesOnly_orderStatus ordinary_covers _ _).bind fun _ => (raisesOnly_orderMove _).bind fun _ =>
    raisesOnly_get.bind fun _ => raisesOnly_addDomainEvent ordinary_covers _

lemma ordinary_refundOrder : MethodRaisesOnly Ordinary Order.refund :=
  (raisesOnly_orderStatus ordinary_covers _ _).bind fun _ => raisesOnly_orderMove _

lemma ordinary_refundPayment (amount : Option Money) :
    MethodRaisesOnly Ordinary (Payment.refund amount) :=
  (raisesOnly_paymentStatus ordinary_covers _ _).bind fun _ =>
    raisesOnly_get.bind fun _ => raisesOnly_paymentMove _

end Methods

/-! ## Programs -/

/-- Replies that carry no other exception. -/
def OrdinaryReply : (o : Op) → Op.Reply o → Prop
  | .confirmPayment _, reply => RaisesOnly Ordinary reply
  | _, _ => True

lemma ordinaryReply_handle (o : Op) (w : World) : OrdinaryReply o (World.handle o w).1 := by
  cases o with
  | confirmPayment paymentIntentId =>
    show RaisesOnly Ordinary (PaymentSimulatorAdapter.confirmPayment w.intents paymentIntentId
      w.entropy.now.1.timestamp).1
    unfold PaymentSimulatorAdapter.confirmPayment
    split <;> trivial
  | _ => trivial

/-- What the program raises is ordinary. -/
abbrev Service.RaisesOrdinary {α : Type} (p : Service α) : Prop :=
  p.RaisesOnly OrdinaryReply PyError.Ordinary

section Programs

variable {α : Type} {G : (o : Op) → Op.Reply o → Prop} {P : PyError → Prop}

lemma ordinary_run {p : Service α} (hp : p.RaisesOrdinary) {w w' : World} {e : PyError}
    (hrun : p.run World.handle w = .error e w') : e.Ordinary :=
  hp.of_run ordinaryReply_handle hrun

lemma raisesOnly_callOrder {method : OrderM Unit} (hmethod : MethodRaisesOnly P method)
    (order : Order) : (callOrder method order).RaisesOnly G P := by
  rw [callOrder]
  rcases hrun : method.run order with ⟨u, order'⟩ | ⟨e, order'⟩
  · trivial
  · exact hmethod order e order' hrun

lemma raisesOnly_callPayment {method : PaymentM Unit} (hmethod : MethodRaisesOnly P method)
    (payment : Payment) : (callPayment method payment).RaisesOnly G P := by
  rw [callPayment]
  rcases hrun : method.run payment with ⟨u, payment'⟩ | ⟨e, payment'⟩
  · trivial
  · exact hmethod payment e payment' hrun

lemma raisesOnly_eventStamp : eventStamp.RaisesOnly G P := fun _ _ _ _ => trivial

lemma ordinary_withUnitOfWork {body : Service (α × List Change)} (hbody : body.RaisesOrdinary) :
    (withUnitOfWork body).RaisesOrdinary := by
  have hcommit : ∀ x : α × List Change,
      (do commit x.2; return x.1 : Service α).RaisesOrdinary := fun _ _ _ => trivial
  have hrollback : rollback.RaisesOrdinary := fun _ _ => trivial
  exact (hbody.bind hcommit).onRaise hrollback

lemma ordinary_acquireHolds (redis : Bool) (planId : UUID) (seatIds : List String)
    (orderId : UUID) : (acquireHolds redis planId seatIds orderId).RaisesOrdinary := by
  have hdrop : ∀ acquired, (dropHolds planId acquired).RaisesOrdinary := by
    intro acquired
    induction acquired with
    | nil => trivial
    | cons seatId acquired ih => exact Prog.raisesOnly_perform_bind fun _ _ => ih
  have hloop : ∀ acquired, (acquireLoop planId orderId acquired seatIds).RaisesOrdinary := by
    induction seatIds with
    | nil => exact fun _ => trivial
    | cons seatId seatIds ih =>
      intro acquired
      refine Prog.raisesOnly_perform_bind fun set _ => ?_
      split
      · exact ih (acquired ++ [seatId])
      · exact (hdrop acquired).bind fun _ => trivial
  unfold acquireHolds
  split
  · exact hloop []
  · trivial

lemma raisesOnly_releaseSeatHolds (redis : Bool) (planId : UUID) (seatIds : List String)
    (orderId : UUID) : (releaseSeatHolds redis planId seatIds orderId).RaisesOnly G P := by
  have hloop : (releaseLoop planId orderId seatIds).RaisesOnly G P := by
    induction seatIds with
    | nil => trivial
    | cons seatId seatIds ih =>
      refine Prog.raisesOnly_perform_bind fun current _ => ?_
      split
      · exact Prog.raisesOnly_perform_bind fun _ _ => ih
      · exact ih
  unfold releaseSeatHolds
  split
  · exact hloop
  · trivial

lemma raisesOnly_idempotently (hP : Covers P) (redis : Bool) (cacheKey : String)
    {request : Service Json} (hrequest : request.RaisesOnly G P) :
    (idempotently redis cacheKey request).RaisesOnly G P := by
  have hstore : (idempotently.store cacheKey request).RaisesOnly G P :=
    hrequest.bind fun _ => Prog.raisesOnly_perform_bind fun _ _ => trivial
  unfold idempotently
  split
  · refine Prog.raisesOnly_perform_bind fun cached _ => ?_
    rcases cached with _ | cached
    · exact hstore
    · show Prog.RaisesOnly G P (if cached.truthy then Prog.ofExcept (jsonLoads cached)
        else idempotently.store cacheKey request)
      split
      · refine Prog.raisesOnly_ofExcept ?_
        cases cached with
        | text _ => exact hP.jsonDecodeError
        | json _ => exact raisesOnly_ok _
      · exact hstore
  · exact hrequest

lemma raisesOnly_fulfill (hP : Covers P) (tm : TicketmasterAdapter) (order : Order) (plan : Plan) :
    (FulfillOrderService.fulfill tm order plan).RaisesOnly G P := by
  have hrequest : (TicketmasterAdapter.requestOffer plan.tmPlanId order.quantity.value
      order.seatTexts ("order_" ++ order.orderId.str)).RaisesOnly G P := fun _ _ => trivial
  have haccept : ∀ offerId : Json, Prog.RaisesOnly G P
      (.pure (TicketmasterAdapter.acceptance offerId order.seatTexts) : Service Json) :=
    fun _ => trivial
  refine (raisesOnly_idempotently hP _ _ hrequest).bind fun tmOrder => ?_
  refine (Prog.raisesOnly_ofExcept (raisesOnly_item _ _ hP)).bind fun offerId => ?_
  refine (raisesOnly_idempotently hP _ _ (haccept offerId)).bind fun acceptance => ?_
  refine (Prog.raisesOnly_ofExcept (raisesOnly_getD _ _ hP _)).bind fun fulfillment => ?_
  refine (Prog.raisesOnly_ofExcept (raisesOnly_getD _ _ hP _)).bind fun tickets => ?_
  refine (raisesOnly_releaseSeatHolds _ _ _ _).bind fun _ => ?_
  refine raisesOnly_eventStamp.bind fun stamp => ?_
  exact (raisesOnly_callOrder (raisesOnly_addDomainEvent hP _) _).bind fun _ => trivial

end Programs

/-! ## Order commands -/

namespace OrderCommandHandler

variable (self : OrderCommandHandler)

/-- What follows the provider's answer raises a refused transition, the decline, or that the plan is
not there. -/
lemma raisesOnly_settlePayment {G : (o : Op) → Op.Reply o → Prop} {P : PyError → Prop}
    (hP : Covers P) (hdeclined : ∀ id reason, P (.domain (paymentDeclinedError id reason)))
    (hnoPlan : ∀ id, P (.domain (planNotFoundError id))) (order : Order) (payment : Payment)
    (intent : PaymentIntent) : (self.settlePayment order payment intent).RaisesOnly G P := by
  have hdecline : (self.declinePayment order payment intent :
      Service (PaymentConfirmedResult × List Change)).RaisesOnly G P :=
    (raisesOnly_callPayment (raisesOnly_fail hP _) _).bind fun _ =>
      (raisesOnly_releaseSeatHolds _ _ _ _).bind fun _ => hdeclined _ _
  have hplan : ∀ planId, (getPlan planId).RaisesOnly G P := by
    refine fun planId => Prog.raisesOnly_perform_bind fun plan _ => ?_
    rcases plan with _ | plan
    · exact hnoPlan _
    · trivial
  have hcomplete : (self.completePayment order payment intent).RaisesOnly G P :=
    (raisesOnly_callPayment (raisesOnly_capture hP _) _).bind fun _ =>
      (raisesOnly_callOrder (raisesOnly_confirmOrder hP) _).bind fun _ =>
        (hplan _).bind fun _ => (raisesOnly_fulfill hP _ _ _).bind fun _ => trivial
  unfold settlePayment
  split
  · exact hdecline
  · exact hcomplete

lemma ordinary_load (session : Session) (row : OrderRow) :
    RaisesOnly Ordinary (session.load row) := by
  by_cases hloads : session.Loads row
  · rw [Session.load_of_loads hloads]
    trivial
  · obtain ⟨message, hraise⟩ := Session.load_of_not hloads
    rw [hraise]
    trivial

/-- A lookup that may find nothing, or nothing that can be loaded. -/
lemma ordinary_getOrder (orderId : UUID) : (self.getOrder orderId).RaisesOrdinary := by
  refine Prog.raisesOnly_perform_bind fun row _ => ?_
  rcases row with _ | row
  · trivial
  · exact Prog.raisesOnly_ofExcept (ordinary_load self.session row)

lemma ordinary_getPayment (orderId : UUID) : (getPayment orderId).RaisesOrdinary := by
  refine Prog.raisesOnly_perform_bind fun row _ => ?_
  cases row <;> trivial

lemma ordinary_getPlan (planId : UUID) : (getPlan planId).RaisesOrdinary := by
  refine Prog.raisesOnly_perform_bind fun plan _ => ?_
  cases plan <;> trivial

lemma ordinary_reserveChosenSeats (planId : UUID) (quantity : TicketQuantity) (seats : List Seat)
    (order : Order) : (self.reserveChosenSeats planId quantity seats order).RaisesOrdinary := by
  have hcount : RaisesOnly Ordinary (validateSeatCount quantity seats) := by
    unfold validateSeatCount
    split <;> trivial
  have hacquire : (self.acquireOrRaise planId seats order.orderId).RaisesOrdinary := by
    refine (ordinary_acquireHolds _ _ _ _).bind fun acquired => ?_
    split <;> trivial
  unfold reserveChosenSeats
  split
  · exact (Prog.raisesOnly_ofExcept hcount).bind fun _ => hacquire.bind fun _ =>
      raisesOnly_callOrder (ordinary_reserveSeats seats) order
  · trivial

theorem ordinary_handleCreateOrder (cmd : CreateOrderCommand) :
    (self.handleCreateOrder cmd).RaisesOrdinary := by
  have hseat : ∀ seatId : SeatId, RaisesOnly Ordinary (seatId.toSeat : Except PyError Seat) :=
    fun _ => trivial
  have hseats : RaisesOnly Ordinary (parseSeats cmd.seatIds) := by
    rcases hids : cmd.seatIds with _ | seatIds
    · trivial
    · exact raisesOnly_mapM hseat seatIds
  have htotal : ∀ plan seats, RaisesOnly Ordinary (calculateTotal plan seats cmd.quantity) := by
    intro plan seats
    unfold calculateTotal
    split
    · rw [Plan.calculateTotalForSeats_eq]
      trivial
    · exact ordinary_moneyMul _ _
  refine ordinary_withUnitOfWork ?_
  refine (ordinary_getPlan _).bind fun plan => ?_
  refine (Prog.raisesOnly_ofExcept hseats).bind fun seats => ?_
  refine (Prog.raisesOnly_ofExcept (ordinary_quantityMake _)).bind fun quantity => ?_
  refine (Prog.raisesOnly_ofExcept (htotal plan seats)).bind fun totalAmount => ?_
  refine Prog.raisesOnly_perform_bind fun orderId _ => ?_
  refine raisesOnly_eventStamp.bind fun stamp => ?_
  refine (self.ordinary_reserveChosenSeats _ _ _ _).bind fun order => ?_
  have hintent : (createPaymentAndIntent order totalAmount).RaisesOrdinary := fun _ _ _ _ => trivial
  refine hintent.bind fun paymentAndIntent => ?_
  exact (raisesOnly_callOrder (ordinary_initiatePayment _) order).bind fun _ => trivial

theorem ordinary_handleConfirmPayment (cmd : ConfirmPaymentCommand) :
    (self.handleConfirmPayment cmd).RaisesOrdinary := by
  refine ordinary_withUnitOfWork ?_
  refine (self.ordinary_getOrder _).bind fun orderRow => ?_
  refine (ordinary_getPayment _).bind fun paymentRow => ?_
  have hcheck : ∀ key, (checkPaymentIdempotency self.tm.redis
      (self.session.instanceOfPayment paymentRow).paymentId key).RaisesOrdinary := by
    intro key
    unfold checkPaymentIdempotency
    split
    · exact Prog.raisesOnly_perform _
    · trivial
  refine (hcheck _).bind fun first => ?_
  split
  · trivial
  · refine Prog.RaisesOnly.bind ?_ fun intent => ?_
    · exact Prog.raisesOnly_perform_bind fun reply hreply => Prog.raisesOnly_ofExcept hreply
    · exact self.raisesOnly_settlePayment ordinary_covers (fun _ _ => trivial) (fun _ => trivial)
        _ _ _

theorem ordinary_handleCancelOrder (cmd : CancelOrderCommand) :
    (self.handleCancelOrder cmd).RaisesOrdinary :=
  ordinary_withUnitOfWork <|
    (self.ordinary_getOrder _).bind fun _ => (raisesOnly_releaseSeatHolds _ _ _ _).bind fun _ =>
      raisesOnly_eventStamp.bind fun _ =>
        (raisesOnly_callOrder (ordinary_cancel _ _) _).bind fun _ => trivial

theorem ordinary_handleRefundOrder (cmd : RefundOrderCommand) :
    (self.handleRefundOrder cmd).RaisesOrdinary :=
  ordinary_withUnitOfWork <|
    (self.ordinary_getOrder _).bind fun _ => (ordinary_getPayment _).bind fun _ =>
      (raisesOnly_callPayment (ordinary_refundPayment _) _).bind fun _ =>
        (raisesOnly_callOrder ordinary_refundOrder _).bind fun _ => trivial

end OrderCommandHandler

/-! ## Synchronizing and searching -/

/-- The texts of the standard library do not start with "Unknown " either. -/
structure StandardLibrary.RaisesOrdinary (lib : StandardLibrary) : Prop where
  fromisoformat : ∀ text, RaisesOnly Ordinary (lib.fromisoformat text)
  decimal : ∀ text, RaisesOnly Ordinary (lib.decimal text)

section Payload

variable {lib : StandardLibrary} (hlib : lib.RaisesOrdinary) (tmData : Json)

include hlib

lemma ordinary_timestamp (value : Json) : RaisesOnly Ordinary (lib.timestamp value) := by
  cases value with
  | str text => exact hlib.fromisoformat _
  | _ => trivial

lemma ordinary_price (priceRange : Json) (key : String) :
    RaisesOnly Ordinary (lib.price priceRange key) :=
  (ordinary_getD _ _ _).bind fun _ => (hlib.decimal _).bind fun _ => ordinary_moneyMake _ _

lemma ordinary_lastUpdated : RaisesOnly Ordinary (lib.lastUpdated tmData) :=
  (ordinary_item _ _).bind fun _ => ordinary_timestamp hlib _

theorem ordinary_fromTicketmaster (now : DateTime) :
    RaisesOnly Ordinary (Plan.fromTicketmaster lib tmData now) := by
  have hmake : ∀ id fields, RaisesOnly Ordinary (Plan.make id fields) := by
    intro id fields
    unfold Plan.make
    split
    · exact ordinary_valueError (c := 't') rfl (by decide)
    · split <;> trivial
  simp only [Plan.fromTicketmaster, Plan.arguments, bind_assoc, pure_bind]
  refine (ordinary_item _ _).bind fun dates => ?_
  refine (ordinary_item _ _).bind fun first => (ordinary_item _ _).bind fun startStr => ?_
  refine (ordinary_getD _ _ _).bind fun last => (ordinary_getD _ _ _).bind fun endStr => ?_
  refine (ordinary_item _ _).bind fun timezone => ?_
  refine (ordinary_timestamp hlib _).bind fun start => ?_
  refine (ordinary_timestamp hlib _).bind fun stop => ?_
  refine (ordinary_priceRange _).bind fun priceRange => ?_
  refine (ordinary_price hlib _ _).bind fun minPrice => ?_
  refine (ordinary_price hlib _ _).bind fun maxPrice => ?_
  refine (ordinary_item _ _).bind fun id => (ordinary_item _ _).bind fun name => ?_
  refine (ordinary_item _ _).bind fun url => (ordinary_imageUrl _).bind fun imageUrl => ?_
  refine (ordinary_dateRangeMake _ _ _).bind fun dateRange => ?_
  refine (ordinary_venueName _).bind fun venueName => ?_
  refine (ordinary_venueCity _).bind fun venueCity => ?_
  refine (ordinary_venueState _).bind fun venueState => ?_
  refine (ordinary_lastUpdated hlib _).bind fun tmLastModified => ?_
  exact hmake _ _

theorem ordinary_updatePlan (now : DateTime) :
    MethodRaisesOnly Ordinary (updatePlanFromTicketmaster lib tmData now) := by
  have hmodify : ∀ f : Plan → Plan, MethodRaisesOnly Ordinary (modify f : PlanM Unit) :=
    raisesOnly_modify
  refine (methodRaisesOnly_ofExcept (ordinary_item _ _)).bind fun name => ?_
  refine (hmodify _).bind fun _ => ?_
  refine (methodRaisesOnly_ofExcept (ordinary_item _ _)).bind fun url => ?_
  refine (hmodify _).bind fun _ => ?_
  refine (methodRaisesOnly_ofExcept (ordinary_imageUrl _)).bind fun imageUrl => ?_
  refine (hmodify _).bind fun _ => ?_
  refine (methodRaisesOnly_ofExcept (ordinary_venueName _)).bind fun venueName => ?_
  refine (hmodify _).bind fun _ => ?_
  refine (methodRaisesOnly_ofExcept (ordinary_venueCity _)).bind fun venueCity => ?_
  refine (hmodify _).bind fun _ => ?_
  refine (methodRaisesOnly_ofExcept (ordinary_venueState _)).bind fun venueState => ?_
  refine (hmodify _).bind fun _ => ?_
  refine (methodRaisesOnly_ofExcept (ordinary_priceRange _)).bind fun priceRange => ?_
  refine (methodRaisesOnly_ofExcept (ordinary_price hlib _ _)).bind fun minPrice => ?_
  refine (hmodify _).bind fun _ => ?_
  refine (methodRaisesOnly_ofExcept (ordinary_price hlib _ _)).bind fun maxPrice => ?_
  refine (hmodify _).bind fun _ => (hmodify _).bind fun _ => ?_
  refine (methodRaisesOnly_ofExcept (ordinary_lastUpdated hlib _)).bind fun tmLastModified => ?_
  exact (hmodify _).bind fun _ => hmodify _

end Payload

/-- Replies of the provider and of the repository that carry no other exception. -/
def OrdinarySyncReply : (o : SyncOp) → SyncOp.Reply o → Prop
  | .searchPlans .., reply => RaisesOnly Ordinary reply
  | .getByTmId _, reply => RaisesOnly Ordinary reply
  | _, _ => True

section Syncing

variable {lib : StandardLibrary} (hlib : lib.RaisesOrdinary) (cmd : SyncPlansCommand)

include hlib

lemma ordinary_updateExisting (existing : Plan) (event : Json) :
    (updateExisting lib existing event).RaisesOnly OrdinarySyncReply Ordinary := by
  refine Prog.raisesOnly_perform_bind fun time _ => ?_
  rcases hrun : (updatePlanFromTicketmaster lib event time).run existing with ⟨u, plan⟩ | ⟨e, plan⟩
  · exact Prog.raisesOnly_perform _
  · exact Prog.raisesOnly_perform_bind fun _ _ => ordinary_updatePlan hlib event time _ _ _ hrun

lemma ordinary_syncEvent (event : Json) :
    (syncEvent lib cmd event).RaisesOnly OrdinarySyncReply Ordinary := by
  refine Prog.raisesOnly_perform_bind fun time _ => ?_
  refine (Prog.raisesOnly_ofExcept (ordinary_fromTicketmaster hlib event time)).bind fun plan => ?_
  refine Prog.RaisesOnly.bind ?_ fun existing => ?_
  · exact Prog.raisesOnly_perform_bind fun reply hreply => Prog.raisesOnly_ofExcept hreply
  · rcases existing with _ | existing
    · exact Prog.raisesOnly_perform_bind fun _ _ => trivial
    · have hfresh : (isFresh cmd existing).RaisesOnly OrdinarySyncReply Ordinary := by
        unfold isFresh
        split
        · exact Prog.raisesOnly_perform_bind fun _ _ => trivial
        · trivial
      refine hfresh.bind fun fresh => ?_
      split
      · trivial
      · exact (ordinary_updateExisting hlib existing event).bind fun _ => trivial

lemma ordinary_syncEvents (events : List Json) (synced : ℕ) :
    (syncEvents lib cmd events synced).RaisesOnly OrdinarySyncReply Ordinary := by
  induction events generalizing synced with
  | nil => trivial
  | cons event events ih =>
    refine (ordinary_syncEvent hlib cmd event).bind fun stored => ?_
    split
    · exact ih (synced + 1)
    · exact ih synced

theorem ordinary_handleSyncPlans (fuel : ℕ) :
    (handleSyncPlans lib cmd fuel).RaisesOnly OrdinarySyncReply Ordinary := by
  have hpages : ∀ page synced,
      (syncPages lib cmd fuel page synced).RaisesOnly OrdinarySyncReply Ordinary := by
    induction fuel with
    | zero => exact fun _ _ => trivial
    | succ fuel ih =>
      intro page synced
      refine Prog.RaisesOnly.bind ?_ fun events => ?_
      · exact Prog.raisesOnly_perform_bind fun reply hreply => Prog.raisesOnly_ofExcept hreply
      · split
        · trivial
        · refine (ordinary_syncEvents hlib cmd events synced).bind fun synced' => ?_
          split
          · trivial
          · exact ih (page + 1) synced'
  exact hpages 0 0

end Syncing

lemma ordinary_handleSearchPlans {F : Type}
    {search : SearchArguments F → Except PyError (List Json)}
    (hsearch : ∀ arguments, RaisesOnly Ordinary (search arguments)) (query : SearchPlansQuery F) :
    RaisesOnly Ordinary (handleSearchPlans search query) := by
  have hsummary : ∀ event, RaisesOnly Ordinary (summaryOfEvent event) := fun _ => trivial
  exact (hsearch _).bind fun events => (raisesOnly_mapM hsummary events).bind fun _ => trivial

lemma ordinary_handleGetPlan (plans : Table UUID Plan Plan.planId) (query : GetPlanQuery) :
    RaisesOnly Ordinary (handleGetPlan plans query) := by
  unfold handleGetPlan getPlanDetail
  split <;> trivial

end TicketGenius
