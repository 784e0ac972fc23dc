import TicketGenius.Properties.InterleavedCommands
import TicketGenius.Properties.Tickets

/-!
# One order, one set of tickets

The provider's answers to `create_order` and `accept_offer` are kept in Redis under the order's
keys, so that a repeated confirmation gets the same tickets.  Looking for an answer and keeping one
are two commands, and an answer expires after a day; so two confirmations of one order may both make
one.  They make the same: in every interleaving of commands, whatever keys expire or are purged
meanwhile, an acceptance that is kept for an order is the one that its row and the row of its plan
determine (`tickets_settled`).

The tickets' ids come from the plan and the order's id, and the seat from the order's row, and none
of these ever changes.  The contract of a handler is therefore laid beside the one for the columns
that never change, whose invariant says what an order's row is when it is read.
-/

namespace TicketGenius.Workers

open Framework Service OrderCommandHandler

/-! ## Answers -/

/-- What happens to the world: a command, or a key of Redis goes, because its lifetime is over or
somebody deletes it. -/
inductive Event
  | serve (job : Job)
  | forget (key : String)

def Event.program : Event → Service Unit
  | .serve job => job.program
  | .forget key => redisDelete key

/-- The world after some turns. -/
def worldAfterEvents {ι : Type} [DecidableEq ι] (w : World) (turns : List (Turn ι Event)) : World :=
  (run (Threads.turn World.handle Event.program) (Threads.idle w ()) turns).shared

/-- The order under an id and its plan. -/
structure Bought (w : World) (orderId : UUID) (order : OrderRow) (plan : Plan) : Prop where
  findOrder : w.orders.find orderId = some order
  findPlan : w.plans.find order.planId = some plan

lemma Bought.unique {w : World} {orderId : UUID} {order order' : OrderRow} {plan plan' : Plan}
    (h : Bought w orderId order plan) (h' : Bought w orderId order' plan') :
    order' = order ∧ plan' = plan := by
  obtain rfl : order' = order := Option.some.inj (h'.findOrder.symm.trans h.findOrder)
  exact ⟨rfl, Option.some.inj (h'.findPlan.symm.trans h.findPlan)⟩

/-- The acceptance of an order. -/
def acceptanceOf (orderId : UUID) (order : OrderRow) (plan : Plan) : Json :=
  TicketmasterAdapter.acceptance (.str (Tickets.offerText plan orderId)) order.seatTexts

/-- A value may be kept under a key: if the key is an order's, it is the answer for the order. -/
structure IsAnswer (w : World) (key : String) (value : Redis.Value) : Prop where
  offer : ∀ orderId, key = offerKey orderId → ∃ order plan document,
    Bought w orderId order plan ∧ value = .json document ∧ Tickets.IsOffer plan orderId document
  acceptance : ∀ orderId, key = acceptKey orderId → ∃ order plan,
    Bought w orderId order plan ∧ value = .json (acceptanceOf orderId order plan)

/-- All values that are kept may be. -/
def Settled (w : World) (s : Redis.Store) : Prop :=
  ∀ key entry, s key = some entry → IsAnswer w key entry.value

/-- Handlers keep such values and find such values, and they find the rows of the world `w` but for
the columns transitions are about. -/
def answers (w : World) : Contract service Unit where
  pre _ o :=
    match o with
    | .redis (.setNx key value _) => IsAnswer w key value
    | .redis (.setex key _ value) => IsAnswer w key value
    | _ => True
  allows _ o reply :=
    match o, reply with
    | .redis (.get key), found => ∀ value ∈ found, IsAnswer w key value
    | .ordersGet orderId, found => ∀ row ∈ found, row.orderId = orderId ∧
        ∃ order, w.orders.find orderId = some order ∧ fixedOrder row = fixedOrder order
    | .plansGet planId, found => found = w.plans.find planId
    | _, _ => True
  next _ _ _ := ()

/-! ## What is kept stays settled -/

section Store

variable {w : World} {s : Redis.Store}

lemma Settled.put (h : Settled w s) {key : String} {entry : Redis.Entry}
    (hentry : IsAnswer w key entry.value) : Settled w (Function.update s key (some entry)) := by
  intro k e he
  rcases eq_or_ne k key with rfl | hk
  · rw [Function.update_self] at he
    exact Option.some.inj he ▸ hentry
  · rw [Function.update_of_ne hk] at he
    exact h k e he

lemma Settled.forget (h : Settled w s) (key : String) :
    Settled w (Function.update s key none) := by
  intro k e he
  rcases eq_or_ne k key with rfl | hk
  · rw [Function.update_self] at he
    cases he
  · rw [Function.update_of_ne hk] at he
    exact h k e he

lemma Settled.execute (h : Settled w s) {c : Redis.Command}
    (hpre : (answers w).pre () (.redis c)) : Settled w (Redis.execute c s).2 := by
  cases c with
  | setNx key value ttl =>
    by_cases hfree : s key = none
    · rw [Redis.execute_setNx_free hfree]
      exact h.put hpre
    · rw [Redis.execute_setNx_taken hfree]
      exact h
  | get key => exact h
  | delete key => exact h.forget key
  | setex key ttl value => exact h.put hpre

end Store

/-- The row agrees with the world's in the columns that never change. -/
abbrev SameOrder (w : World) (row : OrderRow) : Prop :=
  (w.orders.find row.orderId).map fixedOrder = some (fixedOrder row)

abbrev SamePayment (w : World) (row : PaymentRow) : Prop :=
  (w.payments.find row.orderId).map fixedPayment = some (fixedPayment row)

/-- The columns that never change, and beside them the answers that are kept. -/
lemma sound_answers (w : World) :
    Prog.SoundOn World.handle ((rowContract (SameOrder w) (SamePayment w)).both (answers w))
      (fun _ => ((), ()))
      fun w' => (Rows (SameOrder w) (SamePayment w) w' ∧ SameKeys w w') ∧ Settled w w'.redis := by
  have hrecords := (rowInvariant_fixed w).sound w
  refine Prog.SoundOn.both hrecords ?_
  rintro o w' ⟨hrows, hkeys⟩ hsettled hpre
  refine ⟨?_, rfl, ?_⟩
  · cases o with
    | redis c =>
      cases c with
      | get key =>
        intro value hvalue
        obtain ⟨entry, hentry, rfl⟩ := Option.mem_map.mp hvalue
        exact hsettled key entry hentry
      | _ => trivial
    | ordersGet orderId =>
      intro row hrow
      have hid : row.orderId = orderId := w'.orders.keyed _ _ hrow
      have hfixed : (w.orders.find row.orderId).map fixedOrder = some (fixedOrder row) :=
        hrows.orders orderId row hrow
      rw [hid] at hfixed
      obtain ⟨order, horder, heq⟩ := Option.map_eq_some_iff.mp hfixed
      exact ⟨hid, order, horder, heq.symm⟩
    | plansGet planId => exact congrArg (·.find planId) hkeys.plans
    | _ => trivial
  · cases o with
    | redis c => exact hsettled.execute hpre
    | commit changes =>
      have hredis := (World.foldl_apply_frame changes w').1
      rw [← hredis] at hsettled
      exact hsettled
    | _ => exact hsettled

/-! ## Handlers keep only answers -/

/-- Operations that keep no answer. -/
def KeepsNone : Op → Prop
  | .redis (.setNx key _ _) | .redis (.setex key _ _) =>
    ∀ orderId, key ≠ offerKey orderId ∧ key ≠ acceptKey orderId
  | _ => True

lemma isAnswer_of_ne {w : World} {key : String} {value : Redis.Value}
    (hkey : ∀ orderId, key ≠ offerKey orderId ∧ key ≠ acceptKey orderId) :
    IsAnswer w key value where
  offer orderId heq := absurd heq (hkey orderId).1
  acceptance orderId heq := absurd heq (hkey orderId).2

lemma covers_keepsNone : Covers KeepsNone where
  commit _ := trivial
  rollback := trivial
  ordersGet _ := trivial
  paymentsGetByOrderId _ := trivial
  builds o ho := by
    cases o with
    | redis c => exact ho.elim
    | _ => trivial
  releases o ho := by
    cases o with
    | redis c =>
      cases c with
      | setNx key value ttl => exact ho.elim
      | setex key ttl value => exact ho.elim
      | _ => trivial
    | _ => trivial

section Wp

variable {w : World} {α : Type}

/-- A program of such operations. -/
lemma wp_keepsNone {p : Service α} (hp : p.Uses KeepsNone) {Q : Except PyError α → Unit → Prop}
    (hQ : ∀ r, Q r ()) : p.wp (answers w) Q () := by
  refine hp.wp (fun o ho => ?_) (fun _ _ _ => rfl) hQ
  cases o with
  | redis c =>
    cases c with
    | setNx key value ttl => exact isAnswer_of_ne ho
    | setex key ttl value => exact isAnswer_of_ne ho
    | _ => trivial
  | _ => trivial

/-- An idempotent request answers with a document that satisfies `P`, if its key can only hold such
documents and the request makes one. -/
lemma wp_idempotently {P : Json → Prop} {redis : Bool} {cacheKey : String} {request : Service Json}
    (hkept : ∀ value, IsAnswer w cacheKey value → ∃ document, value = .json document ∧ P document)
    (hkeep : ∀ document, P document → IsAnswer w cacheKey (.json document))
    (hrequest : request.wp (answers w) (fun r _ => ∀ made ∈ r.toOption, P made) ()) :
    (idempotently redis cacheKey request).wp (answers w)
      (fun r _ => ∀ document ∈ r.toOption, P document) () := by
  have hstore : (idempotently.store cacheKey request).wp (answers w)
      (fun r _ => ∀ document ∈ r.toOption, P document) () := by
    rw [idempotently.store, Prog.wp_bind]
    refine Prog.wp_mono (fun r _ hmade => ?_) hrequest
    cases r with
    | error e => exact fun made hmade => absurd hmade (Option.not_mem_none made)
    | ok made =>
      have hP : P made := hmade made rfl
      refine ⟨hkeep made hP, fun _ _ => ?_⟩
      intro document hdocument
      exact Option.some.inj hdocument ▸ hP
  unfold idempotently
  split
  · refine ⟨trivial, fun found hfound => ?_⟩
    cases found with
    | none => exact hstore
    | some value =>
      obtain ⟨document, rfl, hP⟩ := hkept value (hfound value rfl)
      intro document' hdocument'
      exact Option.some.inj hdocument' ▸ hP
  · exact hrequest

/-! ## Fulfilment -/

section Fulfilment

variable {order : Order} {row : OrderRow} {plan : Plan} (tm : TicketmasterAdapter)

lemma wp_createOrder (hbought : Bought w order.orderId row plan) :
    (tm.createOrder plan.tmPlanId order.quantity.value order.seatTexts
      ("order_" ++ order.orderId.str)).wp (answers w)
        (fun r _ => ∀ document ∈ r.toOption, Tickets.IsOffer plan order.orderId document) () := by
  refine wp_idempotently (fun value hvalue => ?_) (fun document hdocument => ⟨?_, ?_⟩) ?_
  · obtain ⟨row', plan', document, hbought', rfl, hdocument⟩ := hvalue.offer order.orderId rfl
    obtain ⟨rfl, rfl⟩ := hbought.unique hbought'
    exact ⟨document, rfl, hdocument⟩
  · intro orderId hkey
    obtain rfl := Tickets.offerKey_inj.mp hkey
    exact ⟨row, plan, document, hbought, rfl, hdocument⟩
  · exact fun orderId hkey => absurd hkey.symm (acceptKey_ne_offerKey _ _)
  · refine ⟨trivial, fun time _ => ?_⟩
    intro made hmade
    exact ⟨_, _, _, (Option.some.inj hmade).symm⟩

lemma wp_acceptOffer (hbought : Bought w order.orderId row plan)
    (hseats : order.seats = row.seats) :
    (tm.acceptOffer (.str (Tickets.offerText plan order.orderId))
      ("accept_" ++ order.orderId.str) order.seatTexts).wp (answers w)
        (fun r _ => ∀ document ∈ r.toOption, document = acceptanceOf order.orderId row plan)
        () := by
  have hmade : TicketmasterAdapter.acceptance (.str (Tickets.offerText plan order.orderId))
      order.seatTexts = acceptanceOf order.orderId row plan := by
    rw [acceptanceOf, OrderRow.seatTexts, OrderRow.seatTexts, hseats]
  refine wp_idempotently (fun value hvalue => ?_) (fun document hdocument => ⟨?_, ?_⟩) ?_
  · obtain ⟨row', plan', hbought', rfl⟩ := hvalue.acceptance order.orderId rfl
    obtain ⟨rfl, rfl⟩ := hbought.unique hbought'
    exact ⟨_, rfl, rfl⟩
  · exact fun orderId hkey => absurd hkey (acceptKey_ne_offerKey _ _)
  · intro orderId hkey
    obtain rfl := Tickets.acceptKey_inj.mp hkey
    exact ⟨row, plan, hbought, by rw [hdocument]⟩
  · intro document hdocument
    rw [← Option.some.inj hdocument]
    exact hmade

/-- What comes after the acceptance keeps nothing. -/
lemma wp_deliver (order : Order) (tickets : Json) :
    (Tickets.deliver tm order tickets).wp (answers w) (fun _ _ => True) () := by
  refine wp_keepsNone ((Tickets.uses_deliver tm order tickets).mono fun o ho => ?_)
    fun _ => trivial
  rcases ho with ho | rfl | rfl
  · exact covers_keepsNone.releases o ho
  · trivial
  · trivial

/-- **A fulfilment** of an order that was bought keeps its own answers and no others. -/
lemma wp_fulfill (hbought : Bought w order.orderId row plan) (hseats : order.seats = row.seats) :
    (FulfillOrderService.fulfill tm order plan).wp (answers w) (fun _ _ => True) () := by
  rw [Tickets.fulfill_eq, Tickets.purchase, Prog.wp_bind, Prog.wp_bind]
  refine Prog.wp_mono (fun r _ hr => ?_) (wp_createOrder tm hbought)
  cases r with
  | error e => trivial
  | ok document =>
    obtain ⟨quantity, seatIds, time, rfl⟩ := hr document rfl
    have hitem : (TicketmasterAdapter.offer plan.tmPlanId quantity seatIds
        ("order_" ++ order.orderId.str) time).item "offer_id" =
      .ok (.str (Tickets.offerText plan order.orderId)) := rfl
    dsimp only
    rw [hitem, Prog.ofExcept_ok_bind, Prog.wp_bind]
    refine Prog.wp_mono (fun r _ _ => ?_) (wp_acceptOffer tm hbought hseats)
    cases r with
    | error e => trivial
    | ok document =>
      refine Prog.wp_ofExcept_bind (fun fulfillment _ => ?_) fun _ => trivial
      refine Prog.wp_ofExcept_bind (fun tickets _ => ?_) fun _ => trivial
      exact wp_deliver tm order tickets

end Fulfilment

/-! ## Commands -/

lemma keepsNone_checkPaymentIdempotency (redis : Bool) (paymentId : UUID)
    (idempotencyKey : String) :
    (checkPaymentIdempotency redis paymentId idempotencyKey).Uses KeepsNone := by
  unfold checkPaymentIdempotency
  split
  · refine ⟨fun orderId => ⟨?_, ?_⟩, fun _ => trivial⟩
    · exact (offerKey_ne_paymentConfirmKey orderId paymentId idempotencyKey).symm
    · exact (acceptKey_ne_paymentConfirmKey orderId paymentId idempotencyKey).symm
  · trivial

variable {self : OrderCommandHandler}

lemma wp_completePayment {order : Order} {row : OrderRow} (payment : Payment)
    (intent : PaymentIntent) (hrow : w.orders.find order.orderId = some row)
    (hfixed : fixedOrder order.toOrderRow = fixedOrder row) :
    (self.completePayment order payment intent).wp (answers w) (fun _ _ => True) () := by
  have hcolumns : order.planId = row.planId ∧ order.seats = row.seats := by
    simp only [fixedOrder, OrderRow.mk.injEq] at hfixed
    obtain ⟨-, hplan, -, -, -, -, -, hseats, -⟩ := hfixed
    exact ⟨hplan, hseats⟩
  rw [completePayment, Prog.wp_bind]
  refine wp_callPayment (fun paid _ => ?_) fun _ => trivial
  dsimp only
  rw [Prog.wp_bind]
  refine wp_callOrder (fun confirmed hconfirmed => ?_) fun _ => trivial
  obtain ⟨-, hpaid, -⟩ := run_confirm_eq_ok hconfirmed
  have hid : confirmed.orderId = order.orderId := (congrArg OrderRow.orderId hpaid :)
  have hplanId : confirmed.planId = row.planId :=
    (congrArg OrderRow.planId hpaid :).trans hcolumns.1
  have hseats : confirmed.seats = row.seats := (congrArg OrderRow.seats hpaid :).trans hcolumns.2
  refine ⟨trivial, fun found hfound => ?_⟩
  cases found with
  | none => trivial
  | some plan =>
    have hbought : Bought w confirmed.orderId row plan := by
      refine ⟨hid ▸ hrow, ?_⟩
      rw [← hplanId]
      exact hfound.symm
    show (FulfillOrderService.fulfill self.tm confirmed plan >>= _).wp _ _ _
    rw [Prog.wp_bind]
    refine Prog.wp_mono (fun r _ _ => ?_) (wp_fulfill self.tm hbought hseats)
    cases r <;> trivial

lemma wp_handleConfirmPayment (cmd : ConfirmPaymentCommand) :
    (self.handleConfirmPayment cmd).wp (answers w) (fun _ _ => True) () := by
  refine wp_unitOfWork (fun _ => trivial) (wp_getOrder trivial fun row hrow => ?_)
  refine wp_getPayment trivial fun payment _ => ?_
  refine Prog.wp_mono (Q := fun _ _ => True) (fun r _ _ => by cases r <;> trivial) ?_
  obtain ⟨hid, order, hfind, hfixed⟩ := hrow row rfl
  rw [Prog.wp_bind]
  refine wp_keepsNone (keepsNone_checkPaymentIdempotency ..) fun first => ?_
  rcases first with e | _ | _
  · trivial
  · trivial
  · show ((confirmPayment cmd.paymentIntentId >>= Prog.ofExcept) >>= _).wp _ _ _
    rw [bind_assoc]
    refine ⟨trivial, fun answer _ => Prog.wp_ofExcept_bind (fun intent _ => ?_) fun _ => trivial⟩
    unfold settlePayment
    split
    · refine wp_keepsNone ((uses_callPayment ..).bind fun _ => ?_) fun _ => trivial
      exact (covers_keepsNone.releaseSeatHolds ..).bind fun _ => trivial
    · exact wp_completePayment _ intent (hid.symm ▸ hfind) hfixed

/-- **Every event keeps answers only.** -/
theorem wp_event (event : Event) : event.program.wp (answers w) (fun _ _ => True) () := by
  cases event with
  | forget key => exact ⟨trivial, fun _ _ => trivial⟩
  | serve job =>
    have hcommand : (job.command.program job.handler).wp (answers w) (fun _ _ => True) () := by
      obtain ⟨handler, command⟩ := job
      cases command with
      | create cmd => exact wp_keepsNone (covers_keepsNone.create cmd) fun _ => trivial
      | confirm cmd => exact wp_handleConfirmPayment cmd
      | cancel cmd => exact wp_keepsNone (covers_keepsNone.cancel cmd) fun _ => trivial
      | refund cmd => exact wp_keepsNone (covers_keepsNone.refund cmd) fun _ => trivial
    show (job.command.program job.handler >>= _).wp _ _ _
    rw [Prog.wp_bind]
    refine Prog.wp_mono (fun r _ _ => ?_) hcommand
    cases r <;> trivial

end Wp

/-- An event keeps to the contract about rows too. -/
lemma wp_event_rows (w : World) (event : Event) :
    event.program.wp (rowContract (SameOrder w) (SamePayment w)) (fun _ _ => True) () := by
  cases event with
  | forget key => exact ⟨fun changes h => (nomatch h), fun _ _ => trivial⟩
  | serve job =>
    exact wp_program rowContract_grants fun orderId _ => (rowInvariant_fixed w).serves orderId

variable {ι : Type} [DecidableEq ι]

/-- **One order, one set of tickets.**  From a world in which nothing is kept for any order, in
every interleaving of commands and of keys that go: an acceptance that is kept for an order is the
one that the order's row and its plan's determined at the start. -/
theorem tickets_settled (w : World)
    (hnew : ∀ orderId, w.redis (offerKey orderId) = none ∧ w.redis (acceptKey orderId) = none)
    (turns : List (Turn ι Event)) (orderId : UUID) (entry : Redis.Entry)
    (hentry : (worldAfterEvents w turns).redis (acceptKey orderId) = some entry) :
    ∃ order plan, w.orders.find orderId = some order ∧ w.plans.find order.planId = some plan ∧
      entry.value = .json (acceptanceOf orderId order plan) := by
  have hsettled : Settled w w.redis := by
    intro key entry hkey
    refine ⟨fun orderId heq => ?_, fun orderId heq => ?_⟩
    · rw [heq, (hnew orderId).1] at hkey
      cases hkey
    · rw [heq, (hnew orderId).2] at hkey
      cases hkey
  have hrows : Rows (SameOrder w) (SamePayment w) w := by
    refine ⟨fun orderId row hrow => ?_, fun orderId row hrow => ?_⟩
    · rw [SameOrder, w.orders.keyed _ _ hrow, hrow, Option.map_some]
    · rw [SamePayment, w.payments.keyed _ _ hrow, hrow, Option.map_some]
  have hprogram (event : Event) :
      event.program.wp ((rowContract (SameOrder w) (SamePayment w)).both (answers w))
        (fun _ _ => True) ((), ()) :=
    Prog.wp_mono (fun _ _ _ => trivial) (Prog.wp_both (wp_event_rows w event) (wp_event event))
  have hrun := Threads.invariant_of_contract (sound_answers w) hprogram
    ⟨⟨hrows, fun _ => Iff.rfl, fun _ => Iff.rfl, rfl⟩, hsettled⟩ () turns
  obtain ⟨order, plan, hbought, hvalue⟩ := (hrun.2 _ entry hentry).acceptance orderId rfl
  exact ⟨order, plan, hbought.findOrder, hbought.findPlan, hvalue⟩

/-! ### A race -/

/-- Confirmations of one order under two idempotency keys. -/
def confirmUnder (idempotencyKey : String) : Event :=
  .serve ⟨Confirmation.handlerWith (some []), .confirm ⟨.nil, "pi_own", idempotencyKey⟩⟩

/-- Two workers, operation by operation. -/
def confirmationRace : List (Turn Bool Event) :=
  [.begin false (confirmUnder "first"), .begin true (confirmUnder "second")] ++
    (List.replicate 12 [.exec false, .exec true]).flatten

/-- Both find nothing and make an acceptance. -/
theorem tickets_settled_race :
    ∃ entry, (worldAfterEvents (Confirmation.waiting .authorized) confirmationRace).redis
        (acceptKey .nil) = some entry ∧
      ∃ order plan, (Confirmation.waiting .authorized).orders.find .nil = some order ∧
        (Confirmation.waiting .authorized).plans.find order.planId = some plan ∧
        entry.value = .json (acceptanceOf .nil order plan) := by
  have hkept : ((worldAfterEvents (Confirmation.waiting .authorized) confirmationRace).redis
      (acceptKey .nil)).isSome = true := by decide +kernel
  obtain ⟨entry, hentry⟩ := Option.isSome_iff_exists.mp hkept
  exact ⟨entry, hentry, tickets_settled _ (fun _ => ⟨rfl, rfl⟩) confirmationRace .nil entry hentry⟩

end TicketGenius.Workers
