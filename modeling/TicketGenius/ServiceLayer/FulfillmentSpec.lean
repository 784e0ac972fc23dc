import TicketGenius.ServiceLayer.Frame
import TicketGenius.ServiceLayer.SeatHoldSpec

/-!
# When fulfilment returns

`FulfillOrderService.fulfill` trusts what Redis has under the two idempotency keys of the order.
It returns exactly if what is there, if anything is, can be read as the answers the adapter would
have given, and the order's instance has an event list to which `OrderConfirmed` can be added.
-/

namespace TicketGenius

open Framework Service

/-! ## Idempotent requests -/

/-- The value an idempotent request finds under its key. -/
def cachedValue (redis : Bool) (s : Redis.Store) (cacheKey : String) : Option Redis.Value :=
  if redis then ((s cacheKey).map Redis.Entry.value).filter Redis.Value.truthy else none

lemma run_idempotently_cached {redis : Bool} {cacheKey : String} {w : World} {value : Redis.Value}
    (h : cachedValue redis w.redis cacheKey = some value) (request : Service Json) :
    (idempotently redis cacheKey request).run World.handle w =
      (Prog.ofExcept (jsonLoads value) : Service Json).run World.handle w := by
  cases redis with
  | false => simp [cachedValue] at h
  | true =>
    simp only [cachedValue, if_true] at h
    rw [Option.filter_eq_some_iff] at h
    obtain ⟨hvalue, htruthy⟩ := h
    unfold idempotently
    rw [if_pos rfl, Prog.run_bind_ok _ _ (run_redisGet w cacheKey), hvalue]
    simp only [htruthy, if_true]

lemma run_idempotently_new {redis : Bool} {cacheKey : String} {w w' : World}
    (h : cachedValue redis w.redis cacheKey = none) {request : Service Json} {document : Json}
    (hrequest : request.run World.handle w = .ok document w') :
    ∃ w'', (idempotently redis cacheKey request).run World.handle w = .ok document w'' ∧
      ∀ key, key ≠ cacheKey → w''.redis key = w'.redis key := by
  let kept : World := { w' with
    redis := Function.update w'.redis cacheKey (some ⟨.json document, some idempotencyTtl⟩) }
  have hstore : (idempotently.store cacheKey request).run World.handle w = .ok document kept := by
    rw [idempotently.store, Prog.run_bind_ok _ _ hrequest,
      Prog.run_bind_ok _ _ (run_redisSetex ..), Prog.run_pure']
  cases redis with
  | false => exact ⟨w', hrequest, fun _ _ => rfl⟩
  | true =>
    refine ⟨kept, ?_, fun key hkey => Function.update_of_ne hkey _ w'.redis⟩
    simp only [cachedValue, if_true] at h
    unfold idempotently
    rw [if_pos rfl, Prog.run_bind_ok _ _ (run_redisGet w cacheKey)]
    cases hvalue : (w.redis cacheKey).map Redis.Entry.value with
    | none => exact hstore
    | some value =>
      rw [hvalue, Option.filter_some, ite_eq_right_iff] at h
      have hfalsy : value.truthy ≠ true := fun htruthy => nomatch h htruthy
      simp only [hfalsy]
      exact hstore

/-! ## The two requests of an order -/

/-- `tm:offer:order_{order_id}` -/
def offerKey (orderId : UUID) : String := "tm:offer:" ++ ("order_" ++ orderId.str)

/-- `tm:accept:accept_{order_id}` -/
def acceptKey (orderId : UUID) : String := "tm:accept:" ++ ("accept_" ++ orderId.str)

/-- What is kept as the order's offer, if anything, is a document with an `offer_id`. -/
def UsableOffer (redis : Bool) (s : Redis.Store) (orderId : UUID) : Prop :=
  ∀ value, cachedValue redis s (offerKey orderId) = some value →
    ∃ document offerId, jsonLoads value = .ok document ∧ document.item "offer_id" = .ok offerId

/-- What is kept as the order's acceptance, if anything, is a document from which tickets can be
read. -/
def UsableAcceptance (redis : Bool) (s : Redis.Store) (orderId : UUID) : Prop :=
  ∀ value, cachedValue redis s (acceptKey orderId) = some value →
    ∃ document fulfillment tickets, jsonLoads value = .ok document ∧
      document.getD "fulfillment" (.obj []) = .ok fulfillment ∧
      fulfillment.getD "tickets" (.arr []) = .ok tickets

lemma acceptKey_ne_offerKey (orderId orderId' : UUID) : acceptKey orderId ≠ offerKey orderId' :=
  append_ne_append 3 (c := 'a') (d := 'o') rfl rfl (by decide)

lemma seatHoldKey_ne_offerKey (planId : UUID) (seatId : String) (orderId : UUID) :
    seatHoldKey planId seatId ≠ offerKey orderId :=
  append_ne_append 0 (c := 'S') (d := 't') rfl rfl (by decide)

lemma seatHoldKey_ne_acceptKey (planId : UUID) (seatId : String) (orderId : UUID) :
    seatHoldKey planId seatId ≠ acceptKey orderId :=
  append_ne_append 0 (c := 'S') (d := 't') rfl rfl (by decide)

/-- A kept value is read the same way in two stores that agree on its key. -/
lemma cachedValue_congr {redis : Bool} {s s' : Redis.Store} {key : String} (h : s' key = s key) :
    cachedValue redis s' key = cachedValue redis s key := by
  simp only [cachedValue, h]

lemma UsableOffer.congr {redis : Bool} {s s' : Redis.Store} {orderId : UUID}
    (h : s' (offerKey orderId) = s (offerKey orderId)) :
    UsableOffer redis s' orderId ↔ UsableOffer redis s orderId := by
  rw [UsableOffer, UsableOffer, cachedValue_congr h]

lemma UsableAcceptance.congr {redis : Bool} {s s' : Redis.Store} {orderId : UUID}
    (h : s' (acceptKey orderId) = s (acceptKey orderId)) :
    UsableAcceptance redis s' orderId ↔ UsableAcceptance redis s orderId := by
  rw [UsableAcceptance, UsableAcceptance, cachedValue_congr h]

/-! ## Programs that always return -/

lemma run_releaseSeatHolds_returns (redis : Bool) (planId : UUID) (seatIds : List String)
    (orderId : UUID) (w : World) :
    ∃ w', (releaseSeatHolds redis planId seatIds orderId).run World.handle w = .ok () w' :=
  ⟨_, run_releaseSeatHolds redis seatIds⟩

lemma run_eventStamp_returns (w : World) :
    ∃ stamp w', eventStamp.run World.handle w = .ok stamp w' :=
  ⟨_, _, rfl⟩

/-! ## Fulfilment -/

section Fulfill

variable {tm : TicketmasterAdapter} {order : Order} {plan : Plan} {w : World}

lemma run_requestOffer (planId : String) (quantity : ℤ) (seatIds : List String)
    (idempotencyKey : String) (w : World) :
    (TicketmasterAdapter.requestOffer planId quantity seatIds idempotencyKey).run World.handle w =
      .ok (TicketmasterAdapter.offer planId quantity seatIds idempotencyKey
        w.entropy.now.1.timestamp) { w with entropy := w.entropy.now.2 } := rfl

/-- The offer's id can be read exactly if what is kept as the offer is usable. -/
lemma offer_returns (plan : Plan) (hoffer : UsableOffer tm.redis w.redis order.orderId) :
    ∃ document offerId w',
      (tm.createOrder plan.tmPlanId order.quantity.value order.seatTexts
        ("order_" ++ order.orderId.str)).run World.handle w = .ok document w' ∧
      document.item "offer_id" = .ok offerId ∧
      w'.redis (acceptKey order.orderId) = w.redis (acceptKey order.orderId) := by
  cases hcached : cachedValue tm.redis w.redis (offerKey order.orderId) with
  | some value =>
    obtain ⟨document, offerId, hloads, hitem⟩ := hoffer value hcached
    refine ⟨document, offerId, w, ?_, hitem, rfl⟩
    rw [TicketmasterAdapter.createOrder, ← offerKey, run_idempotently_cached hcached, hloads]
    rfl
  | none =>
    obtain ⟨w', hrun, hkeys⟩ := run_idempotently_new hcached (run_requestOffer ..)
    exact ⟨_, _, w', hrun, rfl, hkeys _ (acceptKey_ne_offerKey _ _)⟩

/-- The tickets can be read if what is kept as the acceptance is usable. -/
lemma acceptance_returns (hacceptance : UsableAcceptance tm.redis w.redis order.orderId)
    (offerId : Json) :
    ∃ document fulfillment tickets w',
      (tm.acceptOffer offerId ("accept_" ++ order.orderId.str) order.seatTexts).run World.handle w =
        .ok document w' ∧
      document.getD "fulfillment" (.obj []) = .ok fulfillment ∧
      fulfillment.getD "tickets" (.arr []) = .ok tickets := by
  cases hcached : cachedValue tm.redis w.redis (acceptKey order.orderId) with
  | some value =>
    obtain ⟨document, fulfillment, tickets, hloads, hread⟩ := hacceptance value hcached
    refine ⟨document, fulfillment, tickets, w, ?_, hread⟩
    rw [TicketmasterAdapter.acceptOffer, ← acceptKey, run_idempotently_cached hcached, hloads]
    rfl
  | none =>
    have hrequest : (.pure (TicketmasterAdapter.acceptance offerId order.seatTexts) :
        Service Json).run World.handle w = .ok _ w := rfl
    obtain ⟨w', hrun, -⟩ := run_idempotently_new hcached hrequest
    exact ⟨_, _, _, w', hrun, rfl, rfl⟩

/-- What the first request needed, if an offer's id was read from its answer. -/
lemma offer_returned {document offerId : Json} {w' : World}
    (hrun : (tm.createOrder plan.tmPlanId order.quantity.value order.seatTexts
      ("order_" ++ order.orderId.str)).run World.handle w = .ok document w')
    (hitem : document.item "offer_id" = .ok offerId) :
    UsableOffer tm.redis w.redis order.orderId ∧
      w'.redis (acceptKey order.orderId) = w.redis (acceptKey order.orderId) := by
  cases hcached : cachedValue tm.redis w.redis (offerKey order.orderId) with
  | some value =>
    rw [TicketmasterAdapter.createOrder, ← offerKey, run_idempotently_cached hcached,
      Prog.run_ofExcept_eq_ok] at hrun
    obtain ⟨hloads, rfl⟩ := hrun
    refine ⟨fun value' hvalue' => ⟨document, offerId, ?_, hitem⟩, rfl⟩
    rw [hcached, Option.some.injEq] at hvalue'
    rw [← hvalue', hloads]
  | none =>
    obtain ⟨w₁, hrun', hkeys⟩ := run_idempotently_new hcached (run_requestOffer ..)
    rw [TicketmasterAdapter.createOrder, ← offerKey, hrun'] at hrun
    cases hrun
    refine ⟨fun value hvalue => ?_, hkeys _ (acceptKey_ne_offerKey _ _)⟩
    rw [hcached] at hvalue
    cases hvalue

/-- What the second request needed, if tickets were read from its answer. -/
lemma acceptance_returned {offerId document fulfillment tickets : Json} {w' : World}
    (hrun : (tm.acceptOffer offerId ("accept_" ++ order.orderId.str) order.seatTexts).run
        World.handle w =
      .ok document w')
    (hfulfillment : document.getD "fulfillment" (.obj []) = .ok fulfillment)
    (htickets : fulfillment.getD "tickets" (.arr []) = .ok tickets) :
    UsableAcceptance tm.redis w.redis order.orderId := by
  intro value hvalue
  rw [TicketmasterAdapter.acceptOffer, ← acceptKey, run_idempotently_cached hvalue,
    Prog.run_ofExcept_eq_ok] at hrun
  exact ⟨document, fulfillment, tickets, hrun.1, hfulfillment, htickets⟩

/-- **Fulfilment returns** if both requests can be read and the event can be raised. -/
theorem fulfill_returns (tm : TicketmasterAdapter) (order : Order) (plan : Plan) (w : World)
    (hevents : order.domainEvents ≠ none)
    (hoffer : UsableOffer tm.redis w.redis order.orderId)
    (hacceptance : UsableAcceptance tm.redis w.redis order.orderId) :
    (FulfillOrderService.fulfill tm order plan).Returns World.handle w := by
  obtain ⟨events, hevents⟩ := Option.ne_none_iff_exists'.mp hevents
  obtain ⟨tmOrder, offerId, w₁, hcreate, hitem, hkey⟩ := offer_returns plan hoffer
  obtain ⟨acceptance, fulfillment, tickets, w₂, haccept, hfulfillment, htickets⟩ :=
    acceptance_returns ((UsableAcceptance.congr hkey).mpr hacceptance) offerId
  obtain ⟨w₃, hrelease⟩ :=
    run_releaseSeatHolds_returns tm.redis order.planId order.seatTexts order.orderId w₂
  obtain ⟨stamp, w₄, hstamp⟩ := run_eventStamp_returns w₃
  have hcall := Order.run_addDomainEvent_some order hevents
    (.orderConfirmed stamp order.orderId tickets)
  rw [FulfillOrderService.fulfill, Prog.returns_bind_of_ok hcreate, hitem,
    Prog.ofExcept_ok_bind, Prog.returns_bind_of_ok haccept, hfulfillment, Prog.ofExcept_ok_bind,
    htickets, Prog.ofExcept_ok_bind, Prog.returns_bind_of_ok hrelease,
    Prog.returns_bind_of_ok hstamp, callOrder, hcall]
  exact Prog.returns_pure ..

/-- An event can be added only to an instance with an event list, and leaves its row alone. -/
lemma run_addDomainEvent_eq_ok {event : DomainEvent} {order' : Order}
    (h : (Order.addDomainEvent event).run order = .ok () order') :
    order.domainEvents ≠ none ∧ order'.toOrderRow = order.toOrderRow := by
  rcases hevents : order.domainEvents with _ | events
  · rw [Order.run_addDomainEvent_none order hevents] at h
    cases h
  · rw [Order.run_addDomainEvent_some order hevents] at h
    cases h
    exact ⟨Option.some_ne_none _, rfl⟩

/-- **What fulfilment needed**, if it returned. -/
theorem fulfill_returned {result : Json × Order} {w' : World}
    (hrun : (FulfillOrderService.fulfill tm order plan).run World.handle w = .ok result w') :
    order.domainEvents ≠ none ∧ UsableOffer tm.redis w.redis order.orderId ∧
      UsableAcceptance tm.redis w.redis order.orderId := by
  simp only [FulfillOrderService.fulfill, Prog.run_bind_eq_ok,
    Prog.run_ofExcept_eq_ok] at hrun
  obtain ⟨tmOrder, w₁, hcreate, offerId, _, ⟨hitem, rfl⟩, acceptance, w₂, haccept, fulfillment, _,
    ⟨hfulfillment, rfl⟩, tickets, _, ⟨htickets, rfl⟩, -, w₃, -, stamp, w₄, -, order', w₅, hcall,
    -⟩ := hrun
  obtain ⟨hoffer, hkey⟩ := offer_returned hcreate hitem
  have hacceptance := acceptance_returned haccept hfulfillment htickets
  obtain ⟨hadd, -⟩ := callOrder_eq_ok.mp hcall
  exact ⟨(run_addDomainEvent_eq_ok hadd).1, hoffer, (UsableAcceptance.congr hkey).mp hacceptance⟩

/-- What fulfilment returns is decided where the event is raised. -/
lemma yields_fulfill {Q : Json × Order → Prop} (tm : TicketmasterAdapter) (order : Order)
    (plan : Plan) (hlast : ∀ tickets stamp, Prog.Yields Q (do
      let order ← callOrder
        (Order.addDomainEvent (.orderConfirmed stamp order.orderId tickets)) order
      return (tickets, order) : Service (Json × Order))) :
    (FulfillOrderService.fulfill tm order plan).Yields Q := by
  refine Prog.Yields.bind_right (fun tmOrder => ?_) _
  refine Prog.Yields.bind_right (fun offerId => ?_) _
  refine Prog.Yields.bind_right (fun acceptance => ?_) _
  refine Prog.Yields.bind_right (fun fulfillment => ?_) _
  refine Prog.Yields.bind_right (fun tickets => ?_) _
  refine Prog.Yields.bind_right (fun _ => ?_) _
  exact Prog.Yields.bind_right (fun stamp => hlast tickets stamp) _

/-- Fulfilment leaves the order's row as it is. -/
lemma fulfill_yields (tm : TicketmasterAdapter) (order : Order) (plan : Plan) :
    (FulfillOrderService.fulfill tm order plan).Yields fun result =>
      result.2.toOrderRow = order.toOrderRow := by
  refine yields_fulfill tm order plan fun tickets stamp => ?_
  refine (yields_callOrder fun _ hadd => run_addDomainEvent_eq_ok hadd).bind fun order' hrow => ?_
  exact hrow.2

end Fulfill

end TicketGenius
