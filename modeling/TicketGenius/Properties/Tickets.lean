import TicketGenius.Framework.Run
import TicketGenius.Properties.Confirmation
import TicketGenius.ServiceLayer.SeatHoldSpec

/-!
# Tickets

What `FulfillOrderService.fulfill` issues.  Its first half, `purchase`, creates and accepts an offer
and has the tickets; its second half releases the holds and raises `OrderConfirmed`.

The offer's id is made of the plan and the first eight characters of the idempotency key, which is
`order_` and the order's id; so it keeps two characters of the order's id.  The ids of the tickets
and their barcodes are made of the offer's id.  The acceptance has one ticket, whatever the quantity
is.

## Main results

* `run_purchase`: what a purchase issues, and that what is kept in Redis for the order stays so.
* `fulfill_never_completes`: no fulfilment completes its order.
* `apart_iff`: when the tickets of two orders are different, over whole runs of fulfilments.
-/

namespace TicketGenius.Tickets

open Framework Service

/-! ## The two halves of a fulfilment -/

/-- The first half: the id of the offer and the tickets. -/
def purchase (tm : TicketmasterAdapter) (order : Order) (plan : Plan) :
    Service (Json × Json) := do
  let tmOrder ← tm.createOrder plan.tmPlanId order.quantity.value order.seatTexts
    ("order_" ++ order.orderId.str)
  let offerId ← Prog.ofExcept (tmOrder.item "offer_id")
  let acceptance ← tm.acceptOffer offerId ("accept_" ++ order.orderId.str) order.seatTexts
  let fulfillment ← Prog.ofExcept (acceptance.getD "fulfillment" (.obj []))
  let tickets ← Prog.ofExcept (fulfillment.getD "tickets" (.arr []))
  return (offerId, tickets)

/-- The second half. -/
def deliver (tm : TicketmasterAdapter) (order : Order) (tickets : Json) :
    Service (Json × Order) := do
  releaseSeatHolds tm.redis order.planId order.seatTexts order.orderId
  let stamp ← eventStamp
  let order ← callOrder (Order.addDomainEvent (.orderConfirmed stamp order.orderId tickets)) order
  return (tickets, order)

lemma fulfill_eq (tm : TicketmasterAdapter) (order : Order) (plan : Plan) :
    FulfillOrderService.fulfill tm order plan =
      purchase tm order plan >>= fun result => deliver tm order result.2 := by
  simp only [FulfillOrderService.fulfill, purchase, deliver, bind_assoc, pure_bind]

/-! ## What is kept in Redis -/

/-- What is under a key, if anything, is a document that satisfies `P`. -/
def Remembers (s : Redis.Store) (key : String) (P : Json → Prop) : Prop :=
  ∀ entry, s key = some entry → ∃ document, entry.value = .json document ∧ P document

lemma Remembers.congr {s s' : Redis.Store} {key : String} {P : Json → Prop}
    (h : Remembers s key P) (hkey : s' key = s key ∨ s' key = none) : Remembers s' key P := by
  intro entry hentry
  rcases hkey with hkey | hkey
  · exact h entry (hkey ▸ hentry)
  · rw [hkey] at hentry
    cases hentry

/-- **An idempotent request** answers with a document that satisfies `P`, if its key remembers only
such documents and the request makes such a document; and then the key goes on to do so. -/
theorem run_idempotently {P : Json → Prop} {cacheKey : String} {w w' : World}
    {request : Service Json} {made : Json} (hkept : Remembers w.redis cacheKey P)
    (hrequest : request.run World.handle w = .ok made w') (hredis : w'.redis = w.redis)
    (hmade : P made) (redis : Bool) :
    ∃ document w'', (idempotently redis cacheKey request).run World.handle w = .ok document w'' ∧
      P document ∧ Remembers w''.redis cacheKey P ∧
      ∀ key, key ≠ cacheKey → w''.redis key = w.redis key := by
  cases redis with
  | false => exact ⟨made, w', hrequest, hmade, hredis ▸ hkept, fun _ _ => by rw [hredis]⟩
  | true =>
    have hget := run_redisGet w cacheKey
    cases hvalue : w.redis cacheKey with
    | some entry =>
      obtain ⟨document, hjson, hP⟩ := hkept entry hvalue
      refine ⟨document, w, ?_, hP, hkept, fun _ _ => rfl⟩
      rw [idempotently, if_pos rfl, Prog.run_bind_ok _ _ hget, hvalue, Option.map_some, hjson]
      rfl
    | none =>
      let stored : World := { w' with
        redis := Function.update w'.redis cacheKey (some ⟨.json made, some idempotencyTtl⟩) }
      have hstore : (idempotently.store cacheKey request).run World.handle w = .ok made stored := by
        rw [idempotently.store, Prog.run_bind_ok _ _ hrequest,
          Prog.run_bind_ok _ _ (run_redisSetex ..), Prog.run_pure']
      refine ⟨made, stored, ?_, hmade, ?_, ?_⟩
      · rw [idempotently, if_pos rfl, Prog.run_bind_ok _ _ hget, hvalue, Option.map_none]
        exact hstore
      · intro entry hentry
        have hthere : stored.redis cacheKey = some ⟨.json made, some idempotencyTtl⟩ :=
          Function.update_self ..
        rw [hthere, Option.some.injEq] at hentry
        exact ⟨made, hentry ▸ rfl, hmade⟩
      · intro key hkey
        show Function.update w'.redis cacheKey _ key = w.redis key
        rw [Function.update_of_ne hkey, hredis]

/-- The id of the offer for an order. -/
def offerText (plan : Plan) (orderId : UUID) : String :=
  "offer_" ++ plan.tmPlanId ++ "_" ++ slice 8 ("order_" ++ orderId.str)

/-- An answer to `create_order` for the order. -/
def IsOffer (plan : Plan) (orderId : UUID) (document : Json) : Prop :=
  ∃ quantity seatIds time, document =
    TicketmasterAdapter.offer plan.tmPlanId quantity seatIds ("order_" ++ orderId.str) time

/-- An answer to `accept_offer` for the order. -/
def IsAcceptance (plan : Plan) (orderId : UUID) (document : Json) : Prop :=
  ∃ seatIds, document = TicketmasterAdapter.acceptance (.str (offerText plan orderId)) seatIds

/-- What Redis has under the idempotency keys of an order, if anything, are the adapter's answers
for it. -/
structure Kept (plan : Plan) (s : Redis.Store) (orderId : UUID) : Prop where
  offer : Remembers s (offerKey orderId) (IsOffer plan orderId)
  acceptance : Remembers s (acceptKey orderId) (IsAcceptance plan orderId)

lemma kept_of_none {plan : Plan} {s : Redis.Store} {orderId : UUID}
    (hoffer : s (offerKey orderId) = none) (haccept : s (acceptKey orderId) = none) :
    Kept plan s orderId where
  offer := by
    intro entry hentry
    rw [hoffer] at hentry
    cases hentry
  acceptance := by
    intro entry hentry
    rw [haccept] at hentry
    cases hentry

/-- The keys are as they were, or have expired. -/
def Undisturbed (s s' : Redis.Store) (orderId : UUID) : Prop :=
  ∀ key ∈ [offerKey orderId, acceptKey orderId], s' key = s key ∨ s' key = none

lemma Kept.undisturbed {plan : Plan} {s s' : Redis.Store} {orderId : UUID}
    (h : Kept plan s orderId) (hsame : Undisturbed s s' orderId) : Kept plan s' orderId where
  offer := h.offer.congr (hsame _ (by simp))
  acceptance := h.acceptance.congr (hsame _ (by simp))

/-! ## What a purchase issues -/

/-- `f"ticket_{offer_id}_{i}"`, of the first ticket. -/
def ticketId (offerId : String) : String := s!"ticket_{offerId}_{0}"

/-- `f"BC-{offer_id}-{i}"`, of the first ticket. -/
def barcode (offerId : String) : String := s!"BC-{offerId}-{0}"

/-- The tickets of the acceptance for an order. -/
def issuedTickets (plan : Plan) (orderId : UUID) (seatIds : List String) : Json :=
  .arr [.obj [("id", .str (ticketId (offerText plan orderId))),
    ("seat_id", .str (seatIds.getD 0 s!"GA-{0}")),
    ("barcode", .str (barcode (offerText plan orderId)))]]

lemma offerKey_inj {orderId orderId' : UUID} :
    offerKey orderId = offerKey orderId' ↔ orderId = orderId' := by
  simp [offerKey]

lemma acceptKey_inj {orderId orderId' : UUID} :
    acceptKey orderId = acceptKey orderId' ↔ orderId = orderId' := by
  simp [acceptKey]

section Purchase

variable (tm : TicketmasterAdapter) {order : Order} {plan : Plan} {w : World}

/-- **What a purchase issues**: one ticket, under an offer whose id the order's id and the plan
determine. -/
theorem run_purchase (hkept : Kept plan w.redis order.orderId) :
    ∃ seatIds w', (purchase tm order plan).run World.handle w =
        .ok (.str (offerText plan order.orderId), issuedTickets plan order.orderId seatIds) w' ∧
      Kept plan w'.redis order.orderId ∧
      ∀ key, key ≠ offerKey order.orderId → key ≠ acceptKey order.orderId →
        w'.redis key = w.redis key := by
  obtain ⟨_, w₁, hcreate, ⟨quantity, seatIds, time, rfl⟩, hoffer, hothers⟩ :=
    run_idempotently hkept.offer
      (run_requestOffer plan.tmPlanId order.quantity.value order.seatTexts
        ("order_" ++ order.orderId.str) w) rfl ⟨_, _, _, rfl⟩ tm.redis
  have hkept₁ : Remembers w₁.redis (acceptKey order.orderId) (IsAcceptance plan order.orderId) :=
    hkept.acceptance.congr (.inl (hothers _ (acceptKey_ne_offerKey _ _)))
  have hrequest : (.pure (TicketmasterAdapter.acceptance (.str (offerText plan order.orderId))
      order.seatTexts) : Service Json).run World.handle w₁ = .ok _ w₁ := rfl
  obtain ⟨_, w₂, haccept, ⟨seatIds', rfl⟩, hacceptance, hothers'⟩ :=
    run_idempotently hkept₁ hrequest rfl ⟨_, rfl⟩ tm.redis
  refine ⟨seatIds', w₂, ?_, ⟨?_, hacceptance⟩, ?_⟩
  · have hfirst : (tm.createOrder plan.tmPlanId order.quantity.value order.seatTexts
        ("order_" ++ order.orderId.str)).run World.handle w = .ok _ w₁ := hcreate
    have hsecond : (tm.acceptOffer (.str (offerText plan order.orderId))
        ("accept_" ++ order.orderId.str) order.seatTexts).run World.handle w₁ = .ok _ w₂ := haccept
    have hitem : (TicketmasterAdapter.offer plan.tmPlanId quantity seatIds
        ("order_" ++ order.orderId.str) time).item "offer_id" =
      .ok (.str (offerText plan order.orderId)) := rfl
    rw [purchase, Prog.run_bind_ok _ _ hfirst, hitem, Prog.ofExcept_ok_bind,
      Prog.run_bind_ok _ _ hsecond]
    rfl
  · exact hoffer.congr (.inl (hothers' _ (acceptKey_ne_offerKey _ _).symm))
  · intro key hkey hkey'
    rw [hothers' key hkey', hothers key hkey]

/-- The operations of the second half. -/
def Delivers (o : Op) : Prop := o.Releases ∨ o = .uuid4 ∨ o = .now

lemma uses_deliver (order : Order) (tickets : Json) :
    (deliver tm order tickets).Uses Delivers := by
  refine ((uses_releaseSeatHolds ..).mono fun _ ho => .inl ho).bind fun _ => ?_
  refine Prog.Uses.bind (p := eventStamp) ?_ fun stamp => ?_
  · exact ⟨.inr (.inl rfl), fun _ => ⟨.inr (.inr rfl), fun _ => trivial⟩⟩
  · exact (uses_callOrder ..).bind fun _ => trivial

/-- **Frame lemma.**  The second half touches no key but those of seats. -/
lemma deliver_redis (tickets : Json) {key : String}
    (hkey : ∀ planId seatId, key ≠ seatHoldKey planId seatId) :
    ((deliver tm order tickets).after World.handle w).redis key = w.redis key := by
  refine (uses_deliver tm order tickets).run_unchanged (f := fun w => w.redis key) ?_ w
  intro o w ho
  rcases ho with ho | rfl | rfl
  · cases o with
    | redis c =>
      cases c with
      | get key => rfl
      | delete key' =>
        obtain ⟨planId, seatId, rfl⟩ := ho
        exact Function.update_of_ne (hkey planId seatId) _ w.redis
      | _ => exact ho.elim
    | _ => exact ho.elim
  · rfl
  · rfl

/-- The second half disturbs no answers. -/
lemma deliver_undisturbed (tickets : Json) (orderId : UUID) :
    Undisturbed w.redis ((deliver tm order tickets).after World.handle w).redis orderId := by
  intro key hkey
  refine .inl (deliver_redis tm tickets fun planId seatId => ?_)
  rcases List.mem_pair.mp hkey with rfl | rfl
  · exact (seatHoldKey_ne_offerKey planId seatId orderId).symm
  · exact (seatHoldKey_ne_acceptKey planId seatId orderId).symm

/-- **What a fulfilment keeps**: for its own order and for any other. -/
theorem kept_fulfill {orderId : UUID} (hkept : Kept plan w.redis order.orderId)
    (hother : Kept plan w.redis orderId) :
    Kept plan ((FulfillOrderService.fulfill tm order plan).after World.handle w).redis orderId := by
  obtain ⟨seatIds, w', hrun, hkept', hkeys⟩ := run_purchase tm hkept
  have hafter : Kept plan w'.redis orderId := by
    rcases eq_or_ne orderId order.orderId with rfl | hne
    · exact hkept'
    · refine hother.undisturbed fun key hkey => .inl ?_
      rcases List.mem_pair.mp hkey with rfl | rfl
      · exact hkeys _ (mt offerKey_inj.mp hne) (acceptKey_ne_offerKey _ _).symm
      · exact hkeys _ (acceptKey_ne_offerKey _ _) (mt acceptKey_inj.mp hne)
  rw [fulfill_eq, Prog.after_bind_ok _ _ hrun]
  exact hafter.undisturbed (deliver_undisturbed tm _ orderId)

/-- The order with one `OrderConfirmed` more. -/
def confirmed (order : Order) (events : List DomainEvent) (stamp : EventStamp) (tickets : Json) :
    Order :=
  { order with domainEvents := some (events ++ [.orderConfirmed stamp order.orderId tickets]) }

/-- **A fulfilment** of an order that has its event list issues one ticket and adds one event. -/
theorem run_fulfill {events : List DomainEvent} (hevents : order.domainEvents = some events)
    (hkept : Kept plan w.redis order.orderId) :
    ∃ seatIds stamp w', let tickets := issuedTickets plan order.orderId seatIds
      (FulfillOrderService.fulfill tm order plan).run World.handle w =
        .ok (tickets, confirmed order events stamp tickets) w' ∧
      Kept plan w'.redis order.orderId := by
  obtain ⟨seatIds, w₁, hrun, hkept₁, -⟩ := run_purchase tm hkept
  obtain ⟨w₂, hrelease⟩ :=
    run_releaseSeatHolds_returns tm.redis order.planId order.seatTexts order.orderId w₁
  obtain ⟨stamp, w₃, hstamp⟩ := run_eventStamp_returns w₂
  let tickets := issuedTickets plan order.orderId seatIds
  have hadd := Order.run_addDomainEvent_some order hevents
    (.orderConfirmed stamp order.orderId tickets)
  have hdeliver : (deliver tm order tickets).run World.handle w₁ =
      .ok (tickets, confirmed order events stamp tickets) w₃ := by
    rw [deliver, Prog.run_bind_ok _ _ hrelease, Prog.run_bind_ok _ _ hstamp,
      Prog.run_bind_ok _ _ (callOrder_eq_ok.mpr ⟨hadd, rfl⟩), Prog.run_pure']
    rfl
  refine ⟨seatIds, stamp, w₃, ?_, ?_⟩
  · rw [fulfill_eq, Prog.run_bind_ok _ _ hrun]
    exact hdeliver
  · rw [← Prog.after_of_ok _ hdeliver]
    exact hkept₁.undisturbed (deliver_undisturbed tm _ order.orderId)

end Purchase

/-! ## Completing an order -/

/-- Something that is tried on the order after it was fulfilled: the service or the method. -/
inductive Attempt
  | service
  | method (tickets : Json) (stamp : EventStamp)

/-- One more attempt.  The service mutates the order last: when it raises, the order is as it
was. -/
def Attempt.step (tm : TicketmasterAdapter) (plan : Plan) (s : Order × World) :
    Attempt → Order × World
  | .service =>
    match (FulfillOrderService.fulfill tm s.1 plan).run World.handle s.2 with
    | .ok (_, order) w => (order, w)
    | .error _ w => (s.1, w)
  | .method tickets stamp =>
    match (Order.fulfill tickets stamp).run s.1 with
    | .ok _ order => (order, s.2)
    | .error _ order => (order, s.2)

/-- One ticket for each seat, in order, under different ids. -/
def TicketsFor (order : Order) (tickets : Json) : Prop :=
  ∃ documents, tickets = .arr documents ∧
    documents.map (Json.item · "seat_id") = order.seatTexts.map (.ok <| .str ·) ∧
    (documents.map (Json.item · "id")).Nodup

/-- The fulfilment returns a ticket for each seat and leaves the order fulfilled, with one
`OrderConfirmed` more, and so it stays whatever is attempted afterwards. -/
def Completes (tm : TicketmasterAdapter) (order : Order) (plan : Plan) (w : World) : Prop :=
  ∃ tickets order' w', (FulfillOrderService.fulfill tm order plan).run World.handle w =
      .ok (tickets, order') w' ∧ TicketsFor order tickets ∧
    ∀ attempts : List Attempt, let left := (run (Attempt.step tm plan) (order', w') attempts).1
      left.status = .fulfilled ∧ ∃ stamp, left.domainEvents =
        order.domainEvents.map (· ++ [.orderConfirmed stamp order.orderId tickets])

/-- **Every fulfilment adds an event**: the service does not look whether there is one already. -/
theorem one_event_each (tm : TicketmasterAdapter) (plan : Plan) (n : ℕ) {order : Order} {w : World}
    {events : List DomainEvent} (hevents : order.domainEvents = some events)
    (hkept : Kept plan w.redis order.orderId) :
    ∃ added : List DomainEvent, added.length = n ∧ (∀ e ∈ added, e.isConfirmed = true) ∧
      (run (Attempt.step tm plan) (order, w) (List.replicate n .service)).1.domainEvents =
        some (events ++ added) := by
  induction n generalizing order w events with
  | zero => exact ⟨[], rfl, by simp, by simpa using hevents⟩
  | succ n ih =>
    obtain ⟨seatIds, stamp, w', hrun, hkept'⟩ := run_fulfill tm hevents hkept
    let tickets := issuedTickets plan order.orderId seatIds
    have hstep : Attempt.step tm plan (order, w) .service =
        (confirmed order events stamp tickets, w') := by
      rw [Attempt.step, hrun]
    have hevents' : (confirmed order events stamp tickets).domainEvents =
      some (events ++ [.orderConfirmed stamp order.orderId tickets]) := rfl
    obtain ⟨added, hlength, hconfirmed, hrest⟩ := ih hevents' hkept'
    refine ⟨.orderConfirmed stamp order.orderId tickets :: added, ?_, ?_, ?_⟩
    · rw [List.length_cons, hlength]
    · rintro e (_ | ⟨_, he⟩)
      · rfl
      · exact hconfirmed e he
    · rw [List.replicate_succ, run_cons, hstep, hrest, List.append_assoc]
      rfl

/-- The service leaves the status alone. -/
lemma not_completes {tm : TicketmasterAdapter} {order : Order} {plan : Plan} {w : World}
    (hpaid : order.status = .paid) : ¬ Completes tm order plan w := by
  rintro ⟨tickets, order', w', hrun, -, hattempts⟩
  have hrow : order'.toOrderRow = order.toOrderRow := (fulfill_yields tm order plan).of_run hrun
  have hfulfilled : order'.status = .fulfilled := (hattempts []).1
  rw [hrow, hpaid] at hfulfilled
  cases hfulfilled

/-- **No fulfilment completes its order**, whatever its quantity and seats are. -/
theorem fulfill_never_completes (tm : TicketmasterAdapter) (order : Order) (plan : Plan) (w : World)
    (hpaid : order.status = .paid) : ¬ Completes tm order plan w :=
  not_completes hpaid

/-! ### Two tickets -/

/-- A paid order of two tickets. -/
def pairOrder : Order where
  orderId := .nil
  planId := .nil
  quantity := ⟨2, by decide⟩
  totalAmount := Money.euros 20
  attendeeInfo := Purchase.oneTicket.attendeeInfo
  status := .paid
  paymentId := some .nil
  seats := [⟨⟨"A", "1", "1", Confirmation.section_ne, Confirmation.number_ne,
      Confirmation.number_ne⟩⟩,
    ⟨⟨"A", "1", "2", Confirmation.section_ne, Confirmation.number_ne, by decide⟩⟩]
  version := 4
  domainEvents := some []
  statusLoaded := false

theorem pair_not_completed : ¬ Completes ⟨true⟩ pairOrder Purchase.concert World.empty :=
  fulfill_never_completes _ _ _ _ rfl

/-- So a paid order is not always completed, when nothing is cached for it. -/
theorem paid_order_not_completed :
    ¬ ∀ (tm : TicketmasterAdapter) (order : Order) (plan : Plan) (w : World),
      order.status = .paid → (order.seats.length : ℤ) = order.quantity.value →
      w.redis (offerKey order.orderId) = none → w.redis (acceptKey order.orderId) = none →
      Completes tm order plan w := by
  intro h
  exact not_completes rfl (h ⟨true⟩ pairOrder Purchase.concert World.empty rfl rfl rfl rfl)

/-! ## Tickets of different orders -/

/-- What was issued for an order: the offer's id, and the ids and barcodes of its tickets. -/
structure Issue where
  orderId : UUID
  ids : List Json

/-- The id and the barcode of a ticket. -/
def ticketIds (ticket : Json) : List Json :=
  [ticket.item "id", ticket.item "barcode"].filterMap Except.toOption

/-- The ids and barcodes of some tickets. -/
def idsOfTickets : Json → List Json
  | .arr tickets => tickets.flatMap ticketIds
  | _ => []

/-- The world, and all that was issued for the two orders. -/
structure Desk where
  world : World
  issues : List Issue

/-- A fulfilment, by an adapter with or without Redis, or anything else that happens. -/
inductive Step
  | fulfill (tm : TicketmasterAdapter) (order : Order)
  | meanwhile (w : World)

/-- The order that is fulfilled. -/
def Step.orderId : Step → Option UUID
  | .fulfill _ order => some order.orderId
  | .meanwhile _ => none

/-- One step. -/
def Desk.step (plan : Plan) (d : Desk) : Step → Desk
  | .fulfill tm order =>
    { world := (FulfillOrderService.fulfill tm order plan).after World.handle d.world
      issues := d.issues ++
        match (purchase tm order plan).run World.handle d.world with
        | .ok (offerId, tickets) _ => [⟨order.orderId, offerId :: idsOfTickets tickets⟩]
        | .error _ _ => [] }
  | .meanwhile w => { d with world := w }

/-- The fulfilments are of the two orders, and nothing else writes under their keys; that a key
expires is not excluded. -/
def Allowed (a b : UUID) (d : Desk) : Step → Prop
  | .fulfill _ order => order.orderId = a ∨ order.orderId = b
  | .meanwhile w => Undisturbed d.world.redis w.redis a ∧ Undisturbed d.world.redis w.redis b

/-- Nothing that was issued for one of the orders was issued for the other. -/
def Apart (a b : UUID) (d : Desk) : Prop :=
  ∀ i ∈ d.issues, ∀ j ∈ d.issues, i.orderId = a → j.orderId = b → i.ids.Disjoint j.ids

/-- What is issued for an order. -/
def idsOf (plan : Plan) (orderId : UUID) : List Json :=
  [.str (offerText plan orderId), .str (ticketId (offerText plan orderId)),
    .str (barcode (offerText plan orderId))]

section Ids

variable {plan : Plan} {a b : UUID}

/-- The offer's id keeps two characters of the order's id. -/
lemma offerText_inj : offerText plan a = offerText plan b ↔ slice 2 a.str = slice 2 b.str := by
  have hcut : ∀ u : UUID, slice 8 ("order_" ++ u.str) = "order_" ++ slice 2 u.str := by
    intro u
    apply String.toList_injective
    simp [slice]
  rw [offerText, offerText, String.append_right_inj, hcut, hcut, String.append_right_inj]

lemma ticketId_eq (o : String) : ticketId o = "ticket_" ++ (o ++ "_0") := by
  simp [ticketId, String.append_assoc]
  rfl

lemma barcode_eq (o : String) : barcode o = "BC-" ++ (o ++ "-0") := by
  simp [barcode, String.append_assoc]
  rfl

lemma offerText_ne_ticketId (o : String) : offerText plan a ≠ ticketId o := by
  rw [offerText, ticketId_eq, String.append_assoc, String.append_assoc]
  exact append_ne_append 0 (c := 'o') (d := 't') rfl rfl (by decide)

lemma offerText_ne_barcode (o : String) : offerText plan a ≠ barcode o := by
  rw [offerText, barcode_eq, String.append_assoc, String.append_assoc]
  exact append_ne_append 0 (c := 'o') (d := 'B') rfl rfl (by decide)

lemma ticketId_ne_barcode (o o' : String) : ticketId o ≠ barcode o' := by
  rw [ticketId_eq, barcode_eq]
  exact append_ne_append 0 (c := 't') (d := 'B') rfl rfl (by decide)

lemma ticketId_inj {o o' : String} : ticketId o = ticketId o' ↔ o = o' := by
  rw [ticketId_eq, ticketId_eq, String.append_right_inj, String.append_left_inj]

lemma barcode_inj {o o' : String} : barcode o = barcode o' ↔ o = o' := by
  rw [barcode_eq, barcode_eq, String.append_right_inj, String.append_left_inj]

/-- **Two orders are issued different ids** exactly if their own ids differ in the first two
characters. -/
theorem idsOf_disjoint_iff (plan : Plan) :
    (idsOf plan a).Disjoint (idsOf plan b) ↔ slice 2 a.str ≠ slice 2 b.str := by
  rw [ne_eq, ← offerText_inj]
  constructor
  · intro hdisjoint hsame
    have hfirst : Json.str (offerText plan a) ∈ idsOf plan a := List.mem_cons_self ..
    apply hdisjoint hfirst
    rw [hsame]
    exact List.mem_cons_self ..
  · intro hne t hta htb
    simp only [idsOf, List.mem_cons, List.not_mem_nil, or_false] at hta htb
    rcases hta with rfl | rfl | rfl
    · simp [hne, offerText_ne_ticketId, offerText_ne_barcode] at htb
    · simp [hne, (offerText_ne_ticketId _).symm, ticketId_inj, ticketId_ne_barcode] at htb
    · simp [hne, (offerText_ne_barcode _).symm, (ticketId_ne_barcode _ _).symm, barcode_inj] at htb

end Ids

section Runs

variable {plan : Plan} {a b : UUID}

/-- **A fulfilment of one of the two orders** is an issue of its ids. -/
lemma issues_fulfill {d : Desk} {order : Order} (tm : TicketmasterAdapter)
    (hkept : Kept plan d.world.redis order.orderId) :
    (d.step plan (.fulfill tm order)).issues =
      d.issues ++ [⟨order.orderId, idsOf plan order.orderId⟩] := by
  obtain ⟨seatIds, w', hrun, -⟩ := run_purchase tm hkept
  simp only [Desk.step, hrun]
  rfl

/-- **Step lemma.**  What is kept for the two orders stays so. -/
lemma kept_step {d : Desk} {s : Step} (hallowed : Allowed a b d s)
    (ha : Kept plan d.world.redis a) (hb : Kept plan d.world.redis b) :
    Kept plan (d.step plan s).world.redis a ∧ Kept plan (d.step plan s).world.redis b := by
  cases s with
  | fulfill tm order =>
    have hown : Kept plan d.world.redis order.orderId := by
      rcases hallowed with horder | horder
      · rwa [horder]
      · rwa [horder]
    exact ⟨kept_fulfill tm hown ha, kept_fulfill tm hown hb⟩
  | meanwhile w => exact ⟨ha.undisturbed hallowed.1, hb.undisturbed hallowed.2⟩

/-- **Run lemma.**  A run issues, for each of its fulfilments, the ids of the order. -/
lemma issues_run {d : Desk} {steps : List Step}
    (hallowed : Guarded (Desk.step plan) (Allowed a b) d steps)
    (ha : Kept plan d.world.redis a) (hb : Kept plan d.world.redis b) :
    (run (Desk.step plan) d steps).issues =
      d.issues ++ (steps.filterMap Step.orderId).map fun id => ⟨id, idsOf plan id⟩ := by
  induction steps generalizing d with
  | nil => simp
  | cons s steps ih =>
    obtain ⟨hhere, hrest⟩ := hallowed
    obtain ⟨ha', hb'⟩ := kept_step hhere ha hb
    rw [run_cons, ih hrest ha' hb']
    cases s with
    | fulfill tm order =>
      have hown : Kept plan d.world.redis order.orderId := by
        rcases hhere with horder | horder
        · rwa [horder]
        · rwa [horder]
      rw [issues_fulfill tm hown, List.append_assoc]
      rfl
    | meanwhile w => rfl

/-- **Tickets of two orders are different** throughout a run, exactly if the ids of the orders
differ in the first two characters or only one of the orders is fulfilled in it.  Nothing is cached
for them at first. -/
theorem apart_iff (plan : Plan) (a b : UUID) (w : World)
    (hnew : ∀ key ∈ [offerKey a, acceptKey a, offerKey b, acceptKey b], w.redis key = none)
    (steps : List Step) (hallowed : Guarded (Desk.step plan) (Allowed a b) ⟨w, []⟩ steps) :
    Apart a b (run (Desk.step plan) ⟨w, []⟩ steps) ↔
      (a ∈ steps.filterMap Step.orderId → b ∈ steps.filterMap Step.orderId →
        slice 2 a.str ≠ slice 2 b.str) := by
  have ha : Kept plan w.redis a := kept_of_none (hnew _ (by simp)) (hnew _ (by simp))
  have hb : Kept plan w.redis b := kept_of_none (hnew _ (by simp)) (hnew _ (by simp))
  rw [Apart, issues_run hallowed ha hb, List.nil_append, ← idsOf_disjoint_iff plan]
  constructor
  · intro happart hina hinb
    exact happart _ (List.mem_map_of_mem hina) _ (List.mem_map_of_mem hinb) rfl rfl
  · rintro hdisjoint i hi j hj rfl rfl
    obtain ⟨id, hid, rfl⟩ := List.mem_map.mp hi
    obtain ⟨id', hid', rfl⟩ := List.mem_map.mp hj
    exact hdisjoint hid hid'

end Runs

/-! ### Three orders -/

/-- A paid order with some id. -/
def orderWith (id : UUID) : Order := { pairOrder with orderId := id }

/-- An id that starts like the nil id. -/
def secondId : UUID := ⟨"00000000-0000-0000-0000-000000000001", by decide⟩

/-- The orders with the smallest and the largest id get different tickets, one of them without
Redis. -/
theorem nil_max_apart :
    Apart .nil .max (run (Desk.step Purchase.concert) ⟨World.empty, []⟩
      [.fulfill ⟨true⟩ (orderWith .nil), .fulfill ⟨false⟩ (orderWith .max)]) := by
  apply (apart_iff Purchase.concert .nil .max World.empty _ _ _).mpr
  · intro _ _
    decide
  · exact fun _ _ => rfl
  · exact ⟨.inl rfl, .inr rfl, trivial⟩

/-- The two smallest ids get the same. -/
theorem same_tickets :
    ¬ ∀ (plan : Plan) (a b : UUID) (w : World) (steps : List Step), a ≠ b →
      (∀ key ∈ [offerKey a, acceptKey a, offerKey b, acceptKey b], w.redis key = none) →
      Guarded (Desk.step plan) (Allowed a b) ⟨w, []⟩ steps →
      Apart a b (run (Desk.step plan) ⟨w, []⟩ steps) := by
  intro h
  let steps : List Step :=
    [.fulfill ⟨true⟩ (orderWith .nil), .fulfill ⟨true⟩ (orderWith secondId)]
  have hallowed : Guarded (Desk.step Purchase.concert) (Allowed .nil secondId) ⟨World.empty, []⟩
    steps := ⟨.inl rfl, .inr rfl, trivial⟩
  have happart := h Purchase.concert .nil secondId World.empty steps (by decide) (fun _ _ => rfl)
    hallowed
  have hissues := issues_run hallowed (kept_of_none rfl rfl) (kept_of_none rfl rfl)
  rw [Apart, hissues] at happart
  have hdisjoint : (idsOf Purchase.concert .nil).Disjoint (idsOf Purchase.concert secondId) :=
    happart ⟨.nil, idsOf Purchase.concert .nil⟩ (by simp [steps, Step.orderId, orderWith])
      ⟨secondId, idsOf Purchase.concert secondId⟩ (by simp [steps, Step.orderId, orderWith]) rfl rfl
  rw [idsOf_disjoint_iff] at hdisjoint
  exact hdisjoint (by decide)

end TicketGenius.Tickets
