import TicketGenius.Properties.Confirmation
import TicketGenius.ServiceLayer.TransitionSpec
import TicketGenius.Framework.Run

/-!
# Selling a seat once

Runs of a shop with one plan.  An order acquires holds on its seats; if it got them it becomes
`PAYMENT_INITIATED` with an authorized payment; it is confirmed, or cancelled; and between any two
steps the lifetime of a key may end.  May a seat end up in two sold orders?

Nothing but its hold keeps a seat for an order.  A confirmation does not look whether the holds are
still there, and fulfilment releases them, after which nothing remembers that the seats are sold.
What saves a seat is that the order is confirmed while it holds it, and that nobody asks for it
afterwards (`Careful`): then a key of a sold seat never holds the id of another order, and this
carries the invariant.
-/

namespace TicketGenius.DoubleSale

open Framework Service OrderCommandHandler

/-! ## The shop -/

/-- The database, Redis and the provider, and the seats of each order whose acquisition returned
`True`. -/
structure Shop where
  world : World
  acquired : UUID → Option (List Seat)

/-- A shop whose orders have acquired nothing. -/
def Shop.open (w : World) : Shop := ⟨w, fun _ => none⟩

/-- An order with its seats reserved and its payment initiated and authorized, to be stored together
with its payment. -/
def initiate (planId orderId : UUID) (quantity : TicketQuantity) (totalAmount : Money)
    (attendeeInfo : AttendeeInfo) (seats : List Seat) : Service (Unit × List Change) := do
  let stamp ← eventStamp
  let created := Order.create orderId stamp planId quantity totalAmount attendeeInfo
  let reserved ← callOrder (Order.reserveSeats seats) created
  let (payment, _) ← createPaymentAndIntent reserved totalAmount
  let initiated ← callOrder (Order.initiatePayment payment.paymentId) reserved
  let authorized ← callPayment Payment.authorize payment
  return ((), [.insertOrder initiated.toOrderRow, .insertPayment authorized.toPaymentRow])

/-- The steps of the shop.  The handlers have Redis, and sessions of any kind. -/
inductive Step
  | acquire (orderId : UUID) (seats : List Seat)
  | initiate (orderId : UUID) (quantity : TicketQuantity) (totalAmount : Money)
      (attendeeInfo : AttendeeInfo)
  | confirm (session : Session) (cmd : ConfirmPaymentCommand)
  | cancel (session : Session) (cmd : CancelOrderCommand)
  | expire (key : String)

/-- One step.  An order is initiated once, with the seats it has acquired. -/
def Shop.step (planId : UUID) (shop : Shop) : Step → Shop
  | .acquire orderId seats =>
    match (TicketmasterAdapter.acquireSeatHolds ⟨true⟩ planId (seats.map Seat.text) orderId).run
        World.handle shop.world with
    | .ok true w => ⟨w, Function.update shop.acquired orderId (some seats)⟩
    | .ok false w | .error _ w => { shop with world := w }
  | .initiate orderId quantity totalAmount attendeeInfo =>
    match shop.acquired orderId, shop.world.orders.find orderId with
    | some seats, none =>
      { shop with
        world := (withUnitOfWork (DoubleSale.initiate planId orderId quantity totalAmount
          attendeeInfo seats)).after World.handle shop.world }
    | _, _ => shop
  | .confirm session cmd =>
    { shop with
      world := (handleConfirmPayment ⟨⟨true⟩, session⟩ cmd).after World.handle shop.world }
  | .cancel session cmd =>
    { shop with
      world := (handleCancelOrder ⟨⟨true⟩, session⟩ cmd).after World.handle shop.world }
  | .expire key =>
    { shop with world := { shop.world with redis := shop.world.redis.expire key } }

/-! ## Double sales -/

/-- The order is paid for. -/
def Sold (order : OrderRow) : Prop := order.status = .paid ∨ order.status = .fulfilled

/-- No seat belongs to two sold orders. -/
def NoDoubleSale (w : World) : Prop :=
  ∀ id id' order order' seat, w.orders.find id = some order → w.orders.find id' = some order' →
    Sold order → Sold order' → seat ∈ order.seats → seat ∈ order'.seats → id = id'

/-- An acquisition asks for no seat of a sold order, and an order is confirmed while it still holds
its seats. -/
def Careful (planId : UUID) (shop : Shop) : Step → Prop
  | .acquire _ seats => ∀ id order, shop.world.orders.find id = some order → Sold order →
      ∀ seat ∈ seats, seat.text ∉ order.seatTexts
  | .confirm _ cmd => ∀ order, shop.world.orders.find cmd.orderId = some order →
      order.status = .paymentInitiated →
      ∀ seat ∈ order.seats, shop.world.redis.Holds (seatHoldKey planId seat.text) order.orderId.str
  | .initiate .. | .cancel .. | .expire _ => True

/-! ## Frames -/

/-- No order has changed, and orders hold at most what they held before and `gained` allows. -/
structure Keeps (gained : String → UUID → Prop) (w w' : World) : Prop where
  orders : w'.orders = w.orders
  holds : ∀ key u, w'.redis.Holds key u.str → w.redis.Holds key u.str ∨ gained key u

section Frames

variable {gained : String → UUID → Prop} {w w' w'' : World}

lemma Keeps.refl (w : World) : Keeps gained w w := ⟨rfl, fun _ _ => .inl⟩

lemma Keeps.trans (h : Keeps gained w w') (h' : Keeps gained w' w'') : Keeps gained w w'' :=
  ⟨h'.orders.trans h.orders, fun key u hkey => (h'.holds key u hkey).elim (h.holds key u) .inr⟩

/-- A program of operations that keep the orders, however it ends. -/
lemma keeps_of_uses {α : Type} {P : Op → Prop} {p : Service α} (hp : p.Uses P)
    (hP : ∀ o w, P o → Keeps gained w (World.handle o w).2) (w : World) :
    Keeps gained w (p.after World.handle w) :=
  hp.run_frame Keeps.refl Keeps.trans hP w

end Frames

/-! ### Acquiring -/

/-- The holds an acquisition of these seats may give the order. -/
def Requested (planId orderId : UUID) (seatIds : List String) (key : String) (u : UUID) : Prop :=
  u = orderId ∧ ∃ seatId ∈ seatIds, key = seatHoldKey planId seatId

/-- The operations of such an acquisition. -/
def Acquires (planId orderId : UUID) (seatIds : List String) : Op → Prop
  | .redis (.setNx key value _) =>
    value = .text orderId.str ∧ ∃ seatId ∈ seatIds, key = seatHoldKey planId seatId
  | .redis (.delete _) => True
  | _ => False

section Acquire

variable {planId orderId : UUID} {seatIds : List String}

lemma uses_dropHolds (acquired : List String) :
    (dropHolds planId acquired).Uses (Acquires planId orderId seatIds) := by
  induction acquired with
  | nil => trivial
  | cons seatId acquired ih => exact ⟨trivial, fun _ => ih⟩

lemma uses_acquireLoop (acquired requested : List String) (h : requested ⊆ seatIds) :
    (acquireLoop planId orderId acquired requested).Uses (Acquires planId orderId seatIds) := by
  induction requested generalizing acquired with
  | nil => trivial
  | cons seatId requested ih =>
    rw [List.cons_subset] at h
    refine ⟨⟨rfl, seatId, h.1, rfl⟩, fun b => ?_⟩
    cases b with
    | true => exact ih (acquired ++ [seatId]) h.2
    | false => exact (uses_dropHolds acquired).bind fun _ => trivial

lemma keeps_acquires (o : Op) (w : World) (ho : Acquires planId orderId seatIds o) :
    Keeps (Requested planId orderId seatIds) w (World.handle o w).2 := by
  cases o with
  | redis c =>
    cases c with
    | setNx key value ttl =>
      obtain ⟨rfl, hkey⟩ := ho
      by_cases hfree : w.redis key = none
      · refine ⟨rfl, fun k u hk => ?_⟩
        simp only [World.handle, Redis.execute_setNx_free hfree] at hk
        obtain ⟨ttl', hk⟩ := hk
        rcases eq_or_ne k key with rfl | hne
        · rw [Function.update_self] at hk
          simp only [Option.some.injEq, Redis.Entry.mk.injEq, Redis.Value.text.injEq,
            UUID.str_inj] at hk
          exact .inr ⟨hk.1.symm, hkey⟩
        · rw [Function.update_of_ne hne] at hk
          exact .inl ⟨ttl', hk⟩
      · refine ⟨rfl, fun k u hk => .inl ?_⟩
        simpa only [World.handle, Redis.execute_setNx_taken hfree] using hk
    | delete key =>
      exact ⟨rfl, fun k u hk => .inl (holds_of_update (fun _ he => by cases he) hk)⟩
    | get key => exact ho.elim
    | setex key ttl value => exact ho.elim
  | _ => exact ho.elim

end Acquire

/-! ### Initiating -/

/-- Operations that touch neither Redis nor records. -/
def Draws : Op → Prop
  | .uuid4 | .now | .createPaymentIntent .. => True
  | _ => False

lemma keeps_draws (gained : String → UUID → Prop) (o : Op) (w : World) (ho : Draws o) :
    Keeps gained w (World.handle o w).2 := by
  cases o with
  | uuid4 => exact ⟨rfl, fun _ _ => .inl⟩
  | now => exact ⟨rfl, fun _ _ => .inl⟩
  | createPaymentIntent amount metadata => exact ⟨rfl, fun _ _ => .inl⟩
  | _ => exact ho.elim

section Initiate

variable (planId orderId : UUID) (quantity : TicketQuantity) (totalAmount : Money)
  (attendeeInfo : AttendeeInfo) (seats : List Seat)

lemma uses_initiate :
    (initiate planId orderId quantity totalAmount attendeeInfo seats).Uses Draws := by
  refine Prog.Uses.bind (p := eventStamp) ⟨trivial, fun _ => ⟨trivial, fun _ => trivial⟩⟩ ?_
  intro stamp
  refine (uses_callOrder ..).bind fun reserved => ?_
  refine Prog.Uses.bind (p := createPaymentAndIntent _ _)
    ⟨trivial, fun _ => ⟨trivial, fun _ => trivial⟩⟩ fun (payment, _) => ?_
  refine (uses_callOrder ..).bind fun initiated => ?_
  exact (uses_callPayment ..).bind fun _ => trivial

/-- What is stored when an order is initiated. -/
lemma yields_initiate :
    (initiate planId orderId quantity totalAmount attendeeInfo seats).Yields fun result =>
      ∃ order payment, result.2 = [.insertOrder order, .insertPayment payment] ∧
        order.orderId = orderId ∧ ¬ Sold order := by
  refine Prog.Yields.bind_right (fun stamp => ?_) _
  dsimp only
  rw [callOrder, Order.run_reserveSeats, if_pos (by rfl)]
  by_cases hlength : (seats.length : ℤ) = quantity.value
  · rw [if_pos (by exact hlength), Prog.pure_bind_eq]
    refine Prog.Yields.bind_right (fun pair => ?_) _
    obtain ⟨payment, intent⟩ := pair
    dsimp only
    rw [callOrder, Order.run_initiatePayment, if_pos (by rfl), Prog.pure_bind_eq]
    refine Prog.Yields.bind_right (fun authorized => ?_) _
    exact ⟨_, _, rfl, rfl, by simp [Sold]⟩
  · rw [if_neg (by exact hlength)]
    trivial

/-- Initiating an order stores an order that is not sold, or nothing, and gives no holds. -/
lemma initiate_after (w : World) :
    ∃ w₁, Keeps (fun _ _ => False) w w₁ ∧
      let w' := (withUnitOfWork (initiate planId orderId quantity totalAmount attendeeInfo
        seats)).after World.handle w
      w'.redis = w₁.redis ∧
        (w'.orders = w₁.orders ∨
          ∃ order, w'.orders = w₁.orders.put order ∧ order.orderId = orderId ∧ ¬ Sold order) := by
  have hkeeps := keeps_of_uses
    (uses_initiate planId orderId quantity totalAmount attendeeInfo seats)
    (keeps_draws fun _ _ => False) w
  refine ⟨_, hkeeps, ?_⟩
  dsimp only
  rw [Prog.after, Prog.after, run_withUnitOfWork]
  cases hrun : (initiate planId orderId quantity totalAmount attendeeInfo seats).run
      World.handle w with
  | error e w' => exact ⟨rfl, .inl rfl⟩
  | ok result w' =>
    obtain ⟨u, changes⟩ := result
    obtain ⟨order, payment, hchanges, hid, hsold⟩ := (yields_initiate ..).of_run hrun
    simp only at hchanges
    subst hchanges
    exact ⟨rfl, .inr ⟨order, rfl, hid, hsold⟩⟩

end Initiate

/-! ## The invariant -/

/-- No seat is sold twice, and the key of a sold seat holds no other order's id. -/
structure Sound (planId : UUID) (w : World) : Prop where
  disjoint : NoDoubleSale w
  exclusive : ∀ id order, w.orders.find id = some order → Sold order →
    ∀ seat ∈ order.seats, ∀ u : UUID,
      w.redis.Holds (seatHoldKey planId seat.text) u.str → u = id

lemma text_mem_seatTexts {order : OrderRow} {seat : Seat} (h : seat ∈ order.seats) :
    seat.text ∈ order.seatTexts := List.mem_map_of_mem h

section Preservation

variable {planId : UUID} {w w' : World}

/-- Orders do not change, and no new hold is on a sold seat. -/
lemma Sound.keeps {gained : String → UUID → Prop} (hs : Sound planId w) (h : Keeps gained w w')
    (hgained : ∀ id order, w.orders.find id = some order → Sold order → ∀ seat ∈ order.seats,
      ∀ u, ¬ gained (seatHoldKey planId seat.text) u) : Sound planId w' := by
  refine ⟨?_, ?_⟩
  · intro id id' order order' seat hfind hfind' hsold hsold' hseat hseat'
    rw [h.orders] at hfind hfind'
    exact hs.disjoint id id' order order' seat hfind hfind' hsold hsold' hseat hseat'
  · intro id order hfind hsold seat hseat u hholds
    rw [h.orders] at hfind
    rcases h.holds _ u hholds with hbefore | hnew
    · exact hs.exclusive id order hfind hsold seat hseat u hbefore
    · exact absurd hnew (hgained id order hfind hsold seat hseat u)

/-- Orders do not change, and no holds are gained. -/
lemma Sound.mono (hs : Sound planId w) (horders : w'.orders = w.orders)
    (hholds : ∀ key (u : UUID), w'.redis.Holds key u.str → w.redis.Holds key u.str) :
    Sound planId w' := by
  have hkeeps : Keeps (fun _ _ => False) w w' :=
    ⟨horders, fun key u hkey => .inl (hholds key u hkey)⟩
  exact hs.keeps hkeeps (by simp)

/-- A row that is not sold is filed. -/
lemma Sound.put_unsold (hs : Sound planId w) {order : OrderRow} (hsold : ¬ Sold order)
    (horders : w'.orders = w.orders.put order)
    (hholds : ∀ key (u : UUID), w'.redis.Holds key u.str → w.redis.Holds key u.str) :
    Sound planId w' := by
  have hold : ∀ id found, w'.orders.find id = some found → Sold found →
      w.orders.find id = some found := by
    intro id found hfind hfound
    rw [horders] at hfind
    rcases eq_or_ne id order.orderId with rfl | hid
    · rw [Table.find_put_self, Option.some.injEq] at hfind
      exact absurd (hfind ▸ hfound) hsold
    · rwa [Table.find_put_of_ne _ hid] at hfind
  refine ⟨?_, ?_⟩
  · intro id id' found found' seat hfind hfind' hfound hfound'
    exact hs.disjoint id id' found found' seat (hold _ _ hfind hfound) (hold _ _ hfind' hfound')
      hfound hfound'
  · intro id found hfind hfound seat hseat u hkey
    exact hs.exclusive id found (hold _ _ hfind hfound) hfound seat hseat u (hholds _ u hkey)

/-- An order that holds its seats is sold. -/
lemma Sound.put_sold (hs : Sound planId w) {order sold : OrderRow}
    (hid : sold.orderId = order.orderId) (hseats : sold.seats = order.seats)
    (hheld : ∀ seat ∈ order.seats,
      w.redis.Holds (seatHoldKey planId seat.text) order.orderId.str)
    (horders : w'.orders = w.orders.put sold)
    (hholds : ∀ key (u : UUID), w'.redis.Holds key u.str → w.redis.Holds key u.str) :
    Sound planId w' := by
  -- a sold order of the new state is the one just sold, or was sold before
  have hcases : ∀ id found, w'.orders.find id = some found →
      (id = order.orderId ∧ found = sold) ∨ w.orders.find id = some found := by
    intro id found hfound
    rw [horders] at hfound
    rcases eq_or_ne id sold.orderId with rfl | hne
    · rw [Table.find_put_self, Option.some.injEq] at hfound
      exact .inl ⟨hid, hfound.symm⟩
    · rw [Table.find_put_of_ne _ hne] at hfound
      exact .inr hfound
  -- a seat of another sold order cannot be held by this one
  have hapart : ∀ id found seat, w.orders.find id = some found → Sold found →
      seat ∈ found.seats → seat ∈ order.seats → id = order.orderId := by
    intro id found seat hfound hsold hseat hseat'
    exact (hs.exclusive id found hfound hsold seat hseat _ (hheld seat hseat')).symm
  refine ⟨?_, ?_⟩
  · intro id id' found found' seat hfound hfound' hsold hsold' hseat hseat'
    rcases hcases id found hfound with ⟨rfl, rfl⟩ | hbefore
    · rcases hcases id' found' hfound' with ⟨rfl, rfl⟩ | hbefore'
      · rfl
      · exact (hapart id' found' seat hbefore' hsold' hseat' (hseats ▸ hseat)).symm
    · rcases hcases id' found' hfound' with ⟨rfl, rfl⟩ | hbefore'
      · exact hapart id found seat hbefore hsold hseat (hseats ▸ hseat')
      · exact hs.disjoint id id' found found' seat hbefore hbefore' hsold hsold' hseat hseat'
  · intro id found hfound hsold seat hseat u hkey
    rcases hcases id found hfound with ⟨rfl, rfl⟩ | hbefore
    · rw [hseats] at hseat
      exact UUID.str_inj.mp ((hholds _ u hkey).unique (hheld seat hseat))
    · exact hs.exclusive id found hbefore hsold seat hseat u (hholds _ u hkey)

end Preservation

/-! ## Steps and runs -/

/-- The end of a lifetime gives no holds. -/
lemma holds_of_expire {s : Redis.Store} {key k t : String} (h : (s.expire key).Holds k t) :
    s.Holds k t := by
  unfold Redis.Store.expire at h
  split at h
  · obtain ⟨ttl, h⟩ := h
    rcases eq_or_ne k key with rfl | hk
    · rw [Function.update_self] at h
      cases h
    · rw [Function.update_of_ne hk] at h
      exact ⟨ttl, h⟩
  · exact h

/-- An acquisition that asks for no sold seat. -/
lemma sound_acquire {planId : UUID} {shop : Shop} (hs : Sound planId shop.world) (orderId : UUID)
    (seats : List Seat)
    (hcareful : ∀ id order, shop.world.orders.find id = some order → Sold order →
      ∀ seat ∈ seats, seat.text ∉ order.seatTexts) :
    Sound planId (shop.step planId (.acquire orderId seats)).world := by
  have hworld : (shop.step planId (.acquire orderId seats)).world =
      (TicketmasterAdapter.acquireSeatHolds ⟨true⟩ planId (seats.map Seat.text) orderId).after
        World.handle shop.world := by
    rw [Shop.step, Prog.after]
    cases (TicketmasterAdapter.acquireSeatHolds ⟨true⟩ planId (seats.map Seat.text) orderId).run
        World.handle shop.world with
    | ok acquired w => cases acquired <;> rfl
    | error e w => rfl
  have huses : (TicketmasterAdapter.acquireSeatHolds ⟨true⟩ planId (seats.map Seat.text)
      orderId).Uses (Acquires planId orderId (seats.map Seat.text)) :=
    uses_acquireLoop [] _ (List.Subset.refl _)
  rw [hworld]
  refine hs.keeps (keeps_of_uses huses keeps_acquires shop.world) ?_
  rintro id order hfind hsold seat hseat u ⟨-, seatId, hrequested, hkey⟩
  obtain ⟨requested, hmem, rfl⟩ := List.mem_map.mp hrequested
  have htext : seat.text = requested.text := seatHoldKey_injective planId hkey
  exact hcareful id order hfind hsold requested hmem (htext ▸ text_mem_seatTexts hseat)

/-- A confirmation of an order that holds its seats, if it is to be confirmed at all. -/
lemma sound_confirm {planId : UUID} {w : World} (hs : Sound planId w)
    (self : OrderCommandHandler) (cmd : ConfirmPaymentCommand)
    (hcareful : ∀ order, w.orders.find cmd.orderId = some order →
      order.status = .paymentInitiated → ∀ seat ∈ order.seats,
        w.redis.Holds (seatHoldKey planId seat.text) order.orderId.str) :
    Sound planId ((self.handleConfirmPayment cmd).after World.handle w) := by
  cases hrun : (self.handleConfirmPayment cmd).run World.handle w with
  | ok result w' =>
    obtain ⟨order, payment, intent, time, hcharges, hcompletable, hconfirmed⟩ := confirm_ok hrun
    have hfind := hcharges.reaches.findOrder
    rw [Prog.after_of_ok _ hrun]
    exact hs.put_sold (show (paidRow order).orderId = order.orderId from rfl) rfl
      (hcareful order hfind hcompletable.initiated) hconfirmed.orders hconfirmed.holds
  | error e w' =>
    rw [Prog.after_of_error _ hrun]
    rcases confirm_error hrun with hbeside | ⟨_, _, _, _, -, hreported⟩
    · exact hs.mono hbeside.orders hbeside.holds
    · exact hs.mono hreported.orders hreported.holds

/-- A cancellation. -/
lemma sound_cancel {planId : UUID} {w : World} (hs : Sound planId w)
    (self : OrderCommandHandler) (cmd : CancelOrderCommand) :
    Sound planId ((self.handleCancelOrder cmd).after World.handle w) := by
  cases hrun : (self.handleCancelOrder cmd).run World.handle w with
  | ok u w' =>
    obtain ⟨order, -, -, -, hcancelled⟩ := cancel_ok hrun
    rw [Prog.after_of_ok _ hrun]
    have hunsold : ¬ Sold (cancelledRow order) := by simp [Sold, cancelledRow]
    exact hs.put_unsold hunsold hcancelled.orders hcancelled.holds
  | error e w' =>
    have hbeside := cancel_error hrun
    rw [Prog.after_of_error _ hrun]
    exact hs.mono hbeside.orders hbeside.holds

/-- **Step lemma.**  Careful steps keep the invariant. -/
theorem sound_step {planId : UUID} (shop : Shop) (step : Step) (hs : Sound planId shop.world)
    (hcareful : Careful planId shop step) : Sound planId (shop.step planId step).world := by
  cases step with
  | acquire orderId seats => exact sound_acquire hs orderId seats hcareful
  | confirm session cmd => exact sound_confirm hs _ cmd hcareful
  | cancel session cmd => exact sound_cancel hs _ cmd
  | expire key => exact hs.mono rfl fun _ _ => holds_of_expire
  | initiate orderId quantity totalAmount attendeeInfo =>
    unfold Shop.step
    dsimp only
    split
    · next seats hacquired hnew =>
      obtain ⟨w₁, hkeeps, hredis, horders⟩ := initiate_after planId orderId quantity totalAmount
        attendeeInfo seats shop.world
      have hs₁ : Sound planId w₁ := hs.keeps hkeeps fun _ _ _ _ _ _ _ => id
      rcases horders with hsame | ⟨order, hput, -, hsold⟩
      · exact hs₁.mono hsame fun key u hkey => by rwa [hredis] at hkey
      · exact hs₁.put_unsold hsold hput fun key u hkey => by rwa [hredis] at hkey
    · exact hs

/-- **No double sale in careful runs.**  In every state of a run from a shop without orders, in
which no acquisition asks for a seat that is sold and every order is confirmed while it holds its
seats, no seat belongs to two sold orders. -/
theorem no_double_sale (planId : UUID) (w : World) (steps : List Step)
    (hw : ∀ id, w.orders.find id = none)
    (hcareful : Guarded (Shop.step planId) (Careful planId) (.open w) steps) :
    NoDoubleSale (run (Shop.step planId) (.open w) steps).world := by
  have hinit : Sound planId (Shop.open w).world := by
    refine ⟨?_, ?_⟩
    · intro id id' order order' seat hfind
      simp only [Shop.open, hw] at hfind
      cases hfind
    · intro id order hfind
      simp only [Shop.open, hw] at hfind
      cases hfind
  have hsound := hcareful.invariant (I := fun shop => Sound planId shop.world)
    (fun shop step hs hstep => sound_step shop step hs hstep) hinit
  exact hsound.disjoint

/-! ### Two buyers of one seat -/

/-- A world with one plan, in which UUIDs alternate. -/
def market : World :=
  { Purchase.onePlan with
    entropy := ⟨fun n => if n % 2 = 0 then .nil else .max, fun _ => ⟨0⟩⟩ }

/-- What an order does to buy the seat of `seatedOrder`. -/
def buy (orderId : UUID) (paymentIntentId : String) : List Step :=
  [.acquire orderId Confirmation.seatedOrder.seats,
    .initiate orderId ⟨1, TicketQuantity.one_bounds⟩ (Money.euros 10)
      Confirmation.waitingOrder.attendeeInfo,
    .confirm (Confirmation.handlerWith (some [])).session ⟨orderId, paymentIntentId, ""⟩]

/-- The shop after one purchase of the seat. -/
def buyOnce : List Step := buy .nil "pi_test_000000000000000000000000"

/-- The shop after another one. -/
def buyTwice : List Step := buyOnce ++ buy .max "pi_test_ffffffffffffffffffffffff"

/-- One purchase is careful. -/
theorem bought_once : NoDoubleSale (run (Shop.step .nil) (.open market) buyOnce).world := by
  refine no_double_sale .nil market buyOnce (fun _ => rfl) ⟨?_, trivial, ?_, trivial⟩
  · intro id order hfind
    cases hfind
  · intro order hfind _ seat hseat
    let shop := run (Shop.step .nil) (.open market) (buyOnce.take 2)
    have hrow : (shop.world.orders.find .nil).map (fun order => (order.orderId, order.seats)) =
        some (.nil, Confirmation.seatedOrder.seats) := by decide +kernel
    have hheld : shop.world.redis.Holds (seatHoldKey .nil "A-1-1") UUID.nil.str := ⟨some 600, rfl⟩
    change shop.world.orders.find .nil = some order at hfind
    rw [hfind, Option.map_some, Option.some.injEq, Prod.mk.injEq] at hrow
    rw [hrow.2] at hseat
    rw [hrow.1]
    obtain rfl := List.mem_singleton.mp hseat
    exact hheld

/-- The second purchase sells the seat again: fulfilment of the first has released its hold. -/
theorem seat_sold_twice :
    ¬ ∀ planId w steps, (∀ id, w.orders.find id = none) →
      NoDoubleSale (run (Shop.step planId) (.open w) steps).world := by
  intro h
  have hsale := h .nil market buyTwice fun _ => rfl
  let shop := run (Shop.step .nil) (.open market) buyTwice
  have hrow : ∀ id, id = UUID.nil ∨ id = UUID.max →
      (shop.world.orders.find id).map (fun order => (order.status, order.seats)) =
        some (.paid, Confirmation.seatedOrder.seats) := by
    rintro id (rfl | rfl)
    · decide +kernel
    · decide +kernel
  have hsold : ∀ id, id = UUID.nil ∨ id = UUID.max → ∃ order, shop.world.orders.find id =
      some order ∧ Sold order ∧ order.seats = Confirmation.seatedOrder.seats := by
    intro id hid
    obtain ⟨order, hfind, hvalues⟩ := Option.map_eq_some_iff.mp (hrow id hid)
    rw [Prod.mk.injEq] at hvalues
    exact ⟨order, hfind, .inl hvalues.1, hvalues.2⟩
  obtain ⟨first, hfirst, hsoldFirst, hseatsFirst⟩ := hsold .nil (.inl rfl)
  obtain ⟨second, hsecond, hsoldSecond, hseatsSecond⟩ := hsold .max (.inr rfl)
  have hsame := hsale .nil .max first second ⟨⟨"A", "1", "1", by decide, by decide, by decide⟩⟩
    hfirst hsecond hsoldFirst hsoldSecond (by simp [hseatsFirst, Confirmation.seatedOrder])
    (by simp [hseatsSecond, Confirmation.seatedOrder])
  exact UUID.nil_ne_max hsame

end TicketGenius.DoubleSale
