import TicketGenius.ServiceLayer.Steps

/-!
# Purchases

A purchase request is valid when its plan is sold in euros, its quantity is in bounds, and the
seats it names, if any, are as many as the quantity, distinct and free.  What it should leave
behind is a `ConsistentPurchase`: an order waiting for its payment, the payment, the intent and the
holds, all linked.

The handler refuses every request.  Without chosen seats the order is still `PENDING` when
`initiate_payment` asks for `SEATS_RESERVED`; with chosen seats the first of them is asked for a
method `SeatId` does not have.  The two shapes are told apart by `parseSeats` alone, so the proof
needs nothing about the store.
-/

namespace TicketGenius.Purchase

open Framework Service OrderCommandHandler

/-! ## Valid requests and consistent results -/

/-- A purchase request that should succeed. -/
structure ValidPurchase (self : OrderCommandHandler) (cmd : CreateOrderCommand) (w : World) :
    Prop where
  plan : ∃ plan, w.plans.find cmd.planId = some plan ∧ plan.minPrice.currency = .eur
  quantity : 1 ≤ cmd.quantity ∧ cmd.quantity ≤ 8
  seats : ∀ seatIds, cmd.seatIds = some seatIds → seatIds ≠ [] →
    (seatIds.length : ℤ) = cmd.quantity ∧ seatIds.Nodup ∧
      (self.tm.redis = true →
        ∀ s ∈ seatIds, w.redis (seatHoldKey cmd.planId (Seat.text ⟨s⟩)) = none)

/-- The seats of a request. -/
def chosenSeats (cmd : CreateOrderCommand) : List Seat := (cmd.seatIds.getD []).map Seat.mk

/-- The price of a seat of a plan: that of its section if the plan has one, in cents, and otherwise
the minimum price. -/
def IsSeatPrice (plan : Plan) (seat : Seat) (price : Money) : Prop :=
  match plan.seatPricesJson.lookup seat.seatId.section with
  | some cents => Money.ofArith ((Decimal.ofInt cents).div 100) .eur = .ok price
  | none => price = plan.minPrice

/-- `total` is the sum of the prices of the seats, added up from left to right. -/
inductive IsTotal (plan : Plan) : List Seat → Money → Prop
  | nil (zero : Money) (hzero : Money.make 0 plan.minPrice.currency = .ok zero) :
      IsTotal plan [] zero
  | concat (seats : List Seat) (seat : Seat) (sum price total : Money)
      (hsum : IsTotal plan seats sum) (hprice : IsSeatPrice plan seat price)
      (htotal : sum.add price = .ok total) :
      IsTotal plan (seats ++ [seat]) total

/-- The request returns, and leaves an order, a payment, an intent and holds that agree. -/
def ConsistentPurchase (self : OrderCommandHandler) (cmd : CreateOrderCommand) (w : World) : Prop :=
  ∃ result w', (self.handleCreateOrder cmd).run World.handle w = .ok result w' ∧
    ∃ order payment plan, w'.orders.find result.orderId = some order ∧
      w'.payments.find result.orderId = some payment ∧ w.plans.find cmd.planId = some plan ∧
      order.status = .paymentInitiated ∧ order.paymentId = some payment.paymentId ∧
      payment.amount = order.totalAmount ∧ payment.intentId = some result.paymentIntentId ∧
      (chosenSeats cmd = [] → plan.minPrice.mul cmd.quantity = .ok order.totalAmount) ∧
      (chosenSeats cmd ≠ [] → IsTotal plan (chosenSeats cmd) order.totalAmount) ∧
      (self.tm.redis = true → ∀ s ∈ chosenSeats cmd,
        w'.redis.Holds (seatHoldKey cmd.planId s.text) order.orderId.str)

/-! ## Every request is refused -/

/-- Only an empty choice of seats can be parsed. -/
lemma parseSeats_ok {seatIds : Option (List SeatId)} {seats : List Seat}
    (h : parseSeats seatIds = .ok seats) : seats = [] := by
  rcases seatIds with _ | _ | ⟨seatId, seatIds⟩
  · cases h
    rfl
  · cases h
    rfl
  · cases h

/-- Without chosen seats nothing is reserved. -/
lemma reserveChosenSeats_nil (self : OrderCommandHandler) (planId : UUID)
    (quantity : TicketQuantity) (order : Order) :
    self.reserveChosenSeats planId quantity [] order = .pure order :=
  if_neg fun h => h rfl

/-- An order that chose no seats cannot start its payment. -/
lemma initiatePayment_create_neverReturns (orderId : UUID) (stamp : EventStamp) (planId : UUID)
    (quantity : TicketQuantity) (totalAmount : Money) (attendeeInfo : AttendeeInfo)
    (paymentId : UUID) :
    (callOrder (Order.initiatePayment paymentId)
      (Order.create orderId stamp planId quantity totalAmount attendeeInfo)).NeverReturns := by
  rw [callOrder, Order.run_initiatePayment, if_neg (by simp [Order.create])]
  trivial

/-- Whatever the request is, there never are an order and a payment to be saved. -/
lemma buildPurchase_neverReturns (self : OrderCommandHandler) (cmd : CreateOrderCommand) :
    (self.buildPurchase cmd).NeverReturns := by
  refine Prog.Yields.bind_right (fun plan => ?_) _
  cases hparse : parseSeats cmd.seatIds with
  | error e => trivial
  | ok seats =>
    obtain rfl := parseSeats_ok hparse
    rw [Prog.ofExcept_ok_bind]
    refine Prog.Yields.bind_right (fun quantity => ?_) _
    refine Prog.Yields.bind_right (fun totalAmount => ?_) _
    refine Prog.Yields.bind_right (fun orderId => ?_) _
    refine Prog.Yields.bind_right (fun stamp => ?_) _
    simp only [reserveChosenSeats_nil, Prog.pure_bind_eq]
    refine Prog.Yields.bind_right (fun pair => ?_) _
    exact (initiatePayment_create_neverReturns ..).bind_left _

/-- What is done to build a purchase: the plan is read, values are drawn and an intent is made. -/
def Builds : Op → Prop
  | .plansGet _ | .uuid4 | .now | .createPaymentIntent .. => True
  | _ => False

/-- No seat is ever held: only a request without chosen seats can be parsed. -/
lemma uses_buildPurchase (self : OrderCommandHandler) (cmd : CreateOrderCommand) :
    (self.buildPurchase cmd).Uses Builds := by
  have hplan : (getPlan cmd.planId).Uses Builds := by
    refine Prog.Uses.bind (p := plansGet _) ⟨trivial, fun _ => trivial⟩ fun plan => ?_
    cases plan <;> trivial
  refine hplan.bind fun plan => ?_
  cases hparse : parseSeats cmd.seatIds with
  | error e => trivial
  | ok seats =>
    obtain rfl := parseSeats_ok hparse
    rw [Prog.ofExcept_ok_bind]
    refine (Prog.uses_ofExcept _).bind fun quantity => ?_
    refine (Prog.uses_ofExcept _).bind fun totalAmount => ?_
    refine Prog.Uses.bind (p := uuid4) ⟨trivial, fun _ => trivial⟩ fun orderId => ?_
    refine Prog.Uses.bind (p := eventStamp) ⟨trivial, fun _ => ⟨trivial, fun _ => trivial⟩⟩
      fun stamp => ?_
    simp only [reserveChosenSeats_nil, Prog.pure_bind_eq]
    refine Prog.Uses.bind (p := createPaymentAndIntent _ _)
      ⟨trivial, fun _ => ⟨trivial, fun _ => trivial⟩⟩ fun pair => ?_
    exact (uses_callOrder ..).bind fun _ => trivial

/-- **No purchase succeeds**, whatever the request and the state of the world are. -/
theorem handleCreateOrder_neverReturns (self : OrderCommandHandler) (cmd : CreateOrderCommand) :
    (self.handleCreateOrder cmd).NeverReturns := by
  rw [self.handleCreateOrder_eq cmd, createSteps, Prog.erase_bind, Prog.erase_lift]
  refine Prog.Yields.onRaise (Prog.NeverReturns.bind_left ?_ _) _
  exact (buildPurchase_neverReturns self cmd).bind_left _

/-- No request leaves a consistent purchase. -/
theorem not_consistentPurchase (self : OrderCommandHandler) (cmd : CreateOrderCommand)
    (w : World) : ¬ ConsistentPurchase self cmd w := by
  rintro ⟨result, w', hrun, -⟩
  obtain ⟨e, w'', hraise⟩ := (handleCreateOrder_neverReturns self cmd).run World.handle w
  rw [hraise] at hrun
  cases hrun

/-- A concert, at ten euros a ticket. -/
def concert : Plan where
  planId := .nil
  tmPlanId := "tm1"
  name := .str "Concert"
  url := .str "https://example.org/tm1"
  imageUrl := .null
  dateRange := ⟨.aware ⟨0⟩, .aware ⟨1⟩, .str "Europe/Madrid", rfl, rfl⟩
  venueName := .str "Hall"
  venueCity := .str "Madrid"
  venueState := .str "Madrid"
  minPrice := Money.euros 10
  maxPrice := Money.euros 10
  lastSyncedAt := some ⟨0⟩
  tmLastModified := .aware ⟨0⟩
  version := 1
  seatPricesJson := []

/-- A store with one plan, which sells tickets for ten euros. -/
def onePlan : World :=
  { World.empty with plans := Framework.Table.empty.put concert }

/-- One ticket of that plan, without a choice of seats. -/
def oneTicket : CreateOrderCommand where
  planId := .nil
  quantity := 1
  attendeeInfo := ⟨"Ann", "ann@example.org", none, by decide, by decide⟩
  seatIds := none

/-- The simplest valid request there is, and it is refused. -/
theorem valid_purchase_refused :
    ¬ ∀ self cmd w, ValidPurchase self cmd w → ConsistentPurchase self cmd w := by
  intro h
  have hvalid : ValidPurchase ⟨⟨false⟩, Session.new⟩ oneTicket onePlan :=
    { plan := ⟨_, Table.find_put_self .., rfl⟩
      quantity := by decide
      seats := fun _ h => nomatch h }
  obtain ⟨result, w', hrun, -⟩ := h _ _ _ hvalid
  obtain ⟨e, w'', hraise⟩ := (handleCreateOrder_neverReturns ⟨⟨false⟩, Session.new⟩ oneTicket).run
    World.handle onePlan
  rw [hraise] at hrun
  cases hrun

end TicketGenius.Purchase
