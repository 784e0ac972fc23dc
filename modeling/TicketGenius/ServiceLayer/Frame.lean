import TicketGenius.ServiceLayer.Handlers

/-!
# What the handlers leave alone

Most of what a handler does is `Aside`: it reads rows, draws values, and sends Redis commands that
write no order's id.  Such a program changes no record and gives no order a hold (`World.Beside`),
whether it returns or raises.  The bodies of the handlers are all aside but for one operation, the
confirmation by the provider, and every change of a record is the commit's.
-/

namespace TicketGenius

open Framework Service

/-! ## Operations aside -/

/-- The value is no order's id. -/
def Redis.Value.NoId (value : Redis.Value) : Prop := ∀ u : UUID, value ≠ .text u.str

/-- Operations that leave the records alone and write no hold. -/
def Op.Aside : Op → Prop
  | .redis (.setNx _ value _) => value.NoId
  | .redis (.setex _ _ value) => value.NoId
  | .redis (.get _) | .redis (.delete _) => True
  | .ordersGet _ | .paymentsGetByOrderId _ | .plansGet _ | .uuid4 | .now | .rollback => True
  | .createPaymentIntent .. | .confirmPayment _ | .commit _ => False

/-- The records are the same, and no order has a hold it did not have. -/
structure World.Beside (w w' : World) : Prop where
  orders : w'.orders = w.orders
  payments : w'.payments = w.payments
  plans : w'.plans = w.plans
  intents : w'.intents = w.intents
  holds : ∀ key (u : UUID), w'.redis.Holds key u.str → w.redis.Holds key u.str

namespace World.Beside

lemma refl (w : World) : w.Beside w := ⟨rfl, rfl, rfl, rfl, fun _ _ => id⟩

lemma trans {w w' w'' : World} (h : w.Beside w') (h' : w'.Beside w'') : w.Beside w'' :=
  ⟨h'.orders.trans h.orders, h'.payments.trans h.payments, h'.plans.trans h.plans,
    h'.intents.trans h.intents, fun key u => h.holds key u ∘ h'.holds key u⟩

end World.Beside

/-- A key that was given a value without id, or none, holds no more than before. -/
lemma holds_of_update {s : Redis.Store} {key k : String} {entry : Option Redis.Entry} {u : UUID}
    (hentry : ∀ e, entry = some e → e.value.NoId)
    (h : Redis.Store.Holds (Function.update s key entry) k u.str) : s.Holds k u.str := by
  obtain ⟨ttl, h⟩ := h
  rcases eq_or_ne k key with rfl | hk
  · rw [Function.update_self] at h
    exact absurd rfl (hentry _ h u)
  · rw [Function.update_of_ne hk] at h
    exact ⟨ttl, h⟩

/-- **Frame lemma** for one operation. -/
lemma Op.Aside.handle {o : Op} (ho : o.Aside) (w : World) : w.Beside (World.handle o w).2 := by
  cases o with
  | redis c =>
    cases c with
    | setNx key value ttl =>
      by_cases hkey : w.redis key = none
      · refine ⟨rfl, rfl, rfl, rfl, fun k u hk => ?_⟩
        simp only [World.handle, Redis.execute_setNx_free hkey] at hk
        refine holds_of_update (fun e he => ?_) hk
        obtain rfl := Option.some.inj he
        exact ho
      · refine ⟨rfl, rfl, rfl, rfl, fun k u hk => ?_⟩
        simpa only [World.handle, Redis.execute_setNx_taken hkey] using hk
    | get key => exact .refl w
    | delete key =>
      exact ⟨rfl, rfl, rfl, rfl, fun k u hk => holds_of_update (fun _ he => by cases he) hk⟩
    | setex key ttl value =>
      refine ⟨rfl, rfl, rfl, rfl, fun k u hk => holds_of_update (fun e he => ?_) hk⟩
      obtain rfl := Option.some.inj he
      exact ho
  | ordersGet orderId => exact .refl w
  | paymentsGetByOrderId orderId => exact .refl w
  | plansGet planId => exact .refl w
  | createPaymentIntent amount metadata => exact ho.elim
  | confirmPayment paymentIntentId => exact ho.elim
  | uuid4 => exact ⟨rfl, rfl, rfl, rfl, fun _ _ => id⟩
  | now => exact ⟨rfl, rfl, rfl, rfl, fun _ _ => id⟩
  | commit changes => exact ho.elim
  | rollback => exact .refl w

/-- A program of such operations. -/
abbrev Service.Aside {α : Type} (p : Service α) : Prop := p.Uses Op.Aside

lemma Service.Aside.after {α : Type} {p : Service α} (hp : p.Aside) (w : World) :
    w.Beside (p.after World.handle w) :=
  hp.run_frame World.Beside.refl World.Beside.trans (fun _ w ho => ho.handle w) w

lemma Service.Aside.run_ok {α : Type} {p : Service α} (hp : p.Aside) {w w' : World} {a : α}
    (hrun : p.run World.handle w = .ok a w') : w.Beside w' := by
  rw [← Prog.after_of_ok _ hrun]
  exact hp.after w

lemma Service.Aside.run_error {α : Type} {p : Service α} (hp : p.Aside) {w w' : World}
    {e : PyError} (hrun : p.run World.handle w = .error e w') : w.Beside w' := by
  rw [← Prog.after_of_error _ hrun]
  exact hp.after w

/-! ## Programs aside -/

lemma noId_one : (Redis.Value.text "1").NoId := fun u h =>
  UUID.str_ne (by decide) u (Redis.Value.text.inj h)

lemma noId_json (document : Json) : (Redis.Value.json document).NoId := fun _ h => nomatch h

lemma aside_eventStamp : eventStamp.Aside := ⟨trivial, fun _ => ⟨trivial, fun _ => trivial⟩⟩

/-- The operations of a release. -/
def Op.Releases : Op → Prop
  | .redis (.get _) => True
  | .redis (.delete key) => ∃ planId seatId, key = seatHoldKey planId seatId
  | _ => False

lemma uses_releaseSeatHolds (redis : Bool) (planId : UUID) (seatIds : List String)
    (orderId : UUID) : (releaseSeatHolds redis planId seatIds orderId).Uses Op.Releases := by
  have hloop : (releaseLoop planId orderId seatIds).Uses Op.Releases := by
    induction seatIds with
    | nil => trivial
    | cons seatId seatIds ih =>
      refine Prog.Uses.bind (p := redisGet _) ⟨trivial, fun _ => trivial⟩ fun current => ?_
      split
      · exact ⟨⟨planId, seatId, rfl⟩, fun _ => ih⟩
      · exact ih
  unfold releaseSeatHolds
  split
  · exact hloop
  · trivial

lemma aside_checkPaymentIdempotency (redis : Bool) (paymentId : UUID) (idempotencyKey : String) :
    (checkPaymentIdempotency redis paymentId idempotencyKey).Aside := by
  unfold checkPaymentIdempotency
  split
  · exact ⟨noId_one, fun _ => trivial⟩
  · trivial

/-! ## Programs after the provider's answer -/

/-- What a handler does once the provider has answered: it finds the plan, fulfils the order or
releases its holds. -/
def Op.Settles : Op → Prop
  | .redis (.get _) | .plansGet _ | .uuid4 | .now => True
  | .redis (.setex key _ (.json _)) => ∃ rest, key = "tm:" ++ rest
  | .redis (.delete key) => ∃ planId seatId, key = seatHoldKey planId seatId
  | _ => False

lemma Op.Settles.aside {o : Op} (ho : o.Settles) : o.Aside := by
  cases o with
  | redis c =>
    cases c with
    | get key => trivial
    | delete key => trivial
    | setex key ttl value =>
      cases value with
      | json document => exact noId_json document
      | text s => exact ho.elim
    | setNx key value ttl => exact ho.elim
  | plansGet planId => trivial
  | uuid4 => trivial
  | now => trivial
  | _ => exact ho.elim

lemma Op.Releases.settles {o : Op} (ho : o.Releases) : o.Settles := by
  cases o with
  | redis c =>
    cases c with
    | get key => trivial
    | delete key => exact ho
    | _ => exact ho.elim
  | _ => exact ho.elim

lemma aside_releaseSeatHolds (redis : Bool) (planId : UUID) (seatIds : List String)
    (orderId : UUID) : (releaseSeatHolds redis planId seatIds orderId).Aside :=
  (uses_releaseSeatHolds ..).mono fun _ ho => ho.settles.aside

lemma uses_idempotently {redis : Bool} {cacheKey rest : String} {request : Service Json}
    (hkey : cacheKey = "tm:" ++ rest) (hrequest : request.Uses Op.Settles) :
    (idempotently redis cacheKey request).Uses Op.Settles := by
  have hstore : (idempotently.store cacheKey request).Uses Op.Settles :=
    hrequest.bind fun document => ⟨⟨rest, hkey⟩, fun _ => trivial⟩
  unfold idempotently
  split
  · refine Prog.Uses.bind (p := redisGet _) ⟨trivial, fun _ => trivial⟩ fun cached => ?_
    cases cached with
    | none => exact hstore
    | some value =>
      dsimp only
      split
      · exact Prog.uses_ofExcept _
      · exact hstore
  · exact hrequest

lemma uses_createOrder (tm : TicketmasterAdapter) (planId : String) (quantity : ℤ)
    (seatIds : List String) (idempotencyKey : String) :
    (tm.createOrder planId quantity seatIds idempotencyKey).Uses Op.Settles := by
  have hkey : "tm:offer:" ++ idempotencyKey = "tm:" ++ ("offer:" ++ idempotencyKey) := by
    rw [← String.append_assoc]
    rfl
  exact uses_idempotently hkey ⟨trivial, fun _ => trivial⟩

lemma uses_acceptOffer (tm : TicketmasterAdapter) (offerId : Json) (idempotencyKey : String)
    (seatIds : List String) :
    (tm.acceptOffer offerId idempotencyKey seatIds).Uses Op.Settles := by
  have hkey : "tm:accept:" ++ idempotencyKey = "tm:" ++ ("accept:" ++ idempotencyKey) := by
    rw [← String.append_assoc]
    rfl
  exact uses_idempotently hkey trivial

lemma uses_fulfill (tm : TicketmasterAdapter) (order : Order) (plan : Plan) :
    (FulfillOrderService.fulfill tm order plan).Uses Op.Settles := by
  refine (uses_createOrder ..).bind fun tmOrder => ?_
  refine (Prog.uses_ofExcept _).bind fun offerId => ?_
  refine (uses_acceptOffer ..).bind fun acceptance => ?_
  refine (Prog.uses_ofExcept _).bind fun fulfillment => ?_
  refine (Prog.uses_ofExcept _).bind fun tickets => ?_
  refine ((uses_releaseSeatHolds ..).mono fun _ ho => ho.settles).bind fun _ => ?_
  refine Prog.Uses.bind (p := eventStamp) ⟨trivial, fun _ => ⟨trivial, fun _ => trivial⟩⟩
    fun stamp => ?_
  exact (uses_callOrder ..).bind fun _ => trivial

lemma aside_fulfill (tm : TicketmasterAdapter) (order : Order) (plan : Plan) :
    (FulfillOrderService.fulfill tm order plan).Aside :=
  (uses_fulfill tm order plan).mono fun _ ho => ho.aside

end TicketGenius
