import TicketGenius.Properties.Support.Transactions

/-!
# Concurrent requests on one order

Two handler transactions that read the same rows and both accept them both commit, and the second
one overwrites what the first one did: `OptimisticLockError` is raised by `update`, which no handler
calls.  No update is lost as long as no two of the requests are acceptable, or only confirmations
under one idempotency key are, of which Redis lets one through.

## Main results

* `Start.wp_program`: each program respects its contract, whatever the others do.
* `no_lost_update`: every run.
-/

namespace TicketGenius.LostUpdate

open Framework Service OrderCommandHandler

/-! ## The property -/

section Property

variable {ι : Type} [DecidableEq ι]

/-- A transaction that is about to read a row does so before any other has committed. -/
def ReadsEarly (id : UUID) (c : Transactions ι) (i : ι) : Prop :=
  ∀ o k, c.thread i = .op o k → ReadsRow id o → ∀ j, j ≠ i → c.thread j ≠ .pure ()

/-- At most one transaction has committed, the rows are those its request makes of the rows all
transactions have read, and another one that comes to commit will raise. -/
structure NoLostUpdate (id : UUID) (order : OrderRow) (payment : PaymentRow)
    (requests : ι → Request) (c : Transactions ι) : Prop where
  one : ∀ i j, c.thread i = .pure () → c.thread j = .pure () → i = j
  untouched : (∀ i, c.thread i ≠ .pure ()) → c.shared.Stored id order payment
  moved : ∀ i, c.thread i = .pure () → ∃ order' payment',
    Transition (requests i) order payment order' payment' ∧ c.shared.Stored id order' payment' ∧
      order'.version = order.version + 1
  refused : ∀ i j changes k, i ≠ j → c.thread i = .pure () → c.thread j = .op (.commit changes) k →
    ∃ entityType entityId w', (c.thread j).run World.handle c.shared =
      .error (.domain (optimisticLockError entityType entityId)) w'

end Property

/-! ## Programs under contract -/

/-- A transaction has committed if it returns, and has not if it raises. -/
def Ends {α : Type} : Except PyError α → TransactionView → Prop
  | .ok _, γ => γ.committed = true
  | .error _, γ => γ.committed = false

/-- Operations that leave the view alone and need nothing of it but that nothing is committed. -/
def Quiet (o : Op) : Prop := o.Releases ∨ o = .uuid4 ∨ o = .now

lemma quiet_releaseSeatHolds (redis : Bool) (planId : UUID) (seatIds : List String)
    (orderId : UUID) : (releaseSeatHolds redis planId seatIds orderId).Uses Quiet :=
  (uses_releaseSeatHolds ..).mono fun _ ho => .inl ho

lemma quiet_requestOffer (planId : String) (quantity : ℤ) (seatIds : List String)
    (idempotencyKey : String) :
    (TicketmasterAdapter.requestOffer planId quantity seatIds idempotencyKey).Uses Quiet :=
  ⟨.inr (.inr rfl), fun _ => trivial⟩

lemma quiet_eventStamp : eventStamp.Uses Quiet :=
  ⟨.inr (.inl rfl), fun _ => ⟨.inr (.inr rfl), fun _ => trivial⟩⟩

namespace Start

variable {ι : Type} {s : Start ι} {i : ι} {γ : TransactionView} {α β : Type}

/-- A quiet program may end in any way. -/
lemma wp_quiet {p : Service α} (hp : p.Uses Quiet) (hidle : γ.committed = false)
    {Q : Except PyError α → TransactionView → Prop} (hQ : ∀ r, Q r γ) :
    p.wp (s.contract i) Q γ := by
  have hpre : ∀ o, Quiet o → (s.contract i).pre γ o := by
    rintro o (ho | rfl | rfl)
    · refine ⟨hidle, ?_⟩
      cases o with
      | redis c =>
        cases c with
        | get key => trivial
        | delete key => exact ho
        | _ => exact ho.elim
      | _ => exact ho.elim
    · exact ⟨hidle, trivial⟩
    · exact ⟨hidle, trivial⟩
  have hnext : ∀ o r, Quiet o → (s.contract i).next γ o r = γ := by
    rintro o r (ho | rfl | rfl)
    · cases o with
      | redis c =>
        cases c with
        | get key => rfl
        | delete key => rfl
        | _ => exact ho.elim
      | _ => exact ho.elim
    · rfl
    · rfl
  exact hp.wp hpre hnext hQ

/-- What the body of a unit of work has to achieve: nothing is committed yet, and what it returns
may be. -/
def Commits (s : Start ι) (i : ι) : Except PyError (α × List Change) → TransactionView → Prop
  | .ok (_, changes), γ => (s.contract i).pre γ (.commit changes)
  | .error _, γ => γ.committed = false

lemma wp_withUnitOfWork {body : Service (α × List Change)}
    (hbody : body.wp (s.contract i) (s.Commits i) γ) :
    (withUnitOfWork body).wp (s.contract i) Ends γ := by
  rw [withUnitOfWork, Prog.wp_onRaise, Prog.wp_bind]
  refine Prog.wp_mono (fun r γ' hr => ?_) hbody
  rcases r with e | ⟨result, changes⟩
  · exact ⟨⟨hr, trivial⟩, fun _ _ => hr⟩
  · exact ⟨hr, fun _ _ => rfl⟩

/-! ### Steps of the handlers -/

section Steps

variable {Q : Except PyError β → TransactionView → Prop}

lemma wp_callOrder_bind {method : OrderM Unit} {order : Order} {f : Order → Service β}
    (hok : ∀ order', method.run order = .ok () order' → (f order').wp (s.contract i) Q γ)
    (herror : ∀ e, Q (.error e) γ) : (callOrder method order >>= f).wp (s.contract i) Q γ := by
  rw [Prog.wp_bind]
  exact wp_callOrder hok herror

lemma wp_callPayment_bind {method : PaymentM Unit} {payment : Payment} {f : Payment → Service β}
    (hok : ∀ payment', method.run payment = .ok () payment' → (f payment').wp (s.contract i) Q γ)
    (herror : ∀ e, Q (.error e) γ) :
    (callPayment method payment >>= f).wp (s.contract i) Q γ := by
  rw [Prog.wp_bind]
  exact wp_callPayment hok herror

lemma wp_getOrder (handler : OrderCommandHandler) (hidle : γ.committed = false)
    {f : OrderRow → Service β}
    (hok : handler.session.Loads s.order → (f s.order).wp (s.contract i) Q γ)
    (herror : ∀ e, Q (.error e) γ) : (handler.getOrder s.id >>= f).wp (s.contract i) Q γ := by
  rw [getOrder, bind_assoc, ordersGet, Prog.wp_perform_bind]
  refine ⟨⟨hidle, trivial⟩, fun (found : Option OrderRow) hfound => ?_⟩
  obtain rfl := hfound rfl
  refine Prog.wp_ofExcept_bind (fun loaded hload => ?_) herror
  obtain ⟨hloads, rfl⟩ := Session.load_eq_ok hload
  exact hok hloads

lemma wp_getPayment (hidle : γ.committed = false) {f : PaymentRow → Service β}
    (hok : (f s.payment).wp (s.contract i) Q γ) :
    (getPayment s.id >>= f).wp (s.contract i) Q γ := by
  rw [getPayment, bind_assoc, paymentsGetByOrderId, Prog.wp_perform_bind]
  refine ⟨⟨hidle, trivial⟩, fun (found : Option PaymentRow) hfound => ?_⟩
  obtain rfl := hfound rfl
  exact hok

lemma wp_getPlan (hidle : γ.committed = false) {planId : UUID} {f : Plan → Service β}
    (hok : ∀ plan, s.world.plans.find planId = some plan → (f plan).wp (s.contract i) Q γ)
    (herror : ∀ e, Q (.error e) γ) : (getPlan planId >>= f).wp (s.contract i) Q γ := by
  rw [getPlan, bind_assoc, plansGet, Prog.wp_perform_bind]
  refine ⟨⟨hidle, trivial⟩, fun (found : Option Plan) hfound => ?_⟩
  rcases found with _ | plan
  · exact herror _
  · exact hok plan hfound.symm

lemma wp_quiet_bind {p : Service α} (hp : p.Uses Quiet) (hidle : γ.committed = false)
    {f : α → Service β} (hok : ∀ a, (f a).wp (s.contract i) Q γ) (herror : ∀ e, Q (.error e) γ) :
    (p >>= f).wp (s.contract i) Q γ := by
  rw [Prog.wp_bind]
  refine wp_quiet hp hidle fun r => ?_
  rcases r with e | a
  · exact herror e
  · exact hok a

/-- An idempotency key has not been used at the start if it can be set, and has been claimed
then. -/
lemma wp_checkPaymentIdempotency {redis : Bool} {key : String}
    (hclaim : claim s.payment (s.requests i) =
      if redis then some (paymentConfirmKey s.payment.paymentId key) else none)
    {f : Bool → Service β}
    (hfirst : (redis = true →
        s.world.redis (paymentConfirmKey s.payment.paymentId key) = none) →
      (f true).wp (s.contract i) Q ⟨claim s.payment (s.requests i), false⟩)
    (hagain : (f false).wp (s.contract i) Q ⟨none, false⟩) :
    (checkPaymentIdempotency redis s.payment.paymentId key >>= f).wp (s.contract i) Q
      ⟨none, false⟩ := by
  cases redis with
  | false =>
    rw [hclaim] at hfirst
    exact hfirst fun hredis => nomatch hredis
  | true =>
    rw [if_pos rfl] at hclaim
    rw [checkPaymentIdempotency, if_pos rfl, redisSetNx, Prog.wp_perform_bind]
    refine ⟨⟨rfl, rfl, hclaim⟩, fun (set : Bool) hset => ?_⟩
    cases set with
    | true =>
      rw [hclaim] at hfirst
      exact hfirst fun _ => hset rfl
    | false => exact hagain

/-- The provider is asked, and may have taken the money within its limit only. -/
lemma wp_confirmPayment (hidle : γ.committed = false) {paymentIntentId : String}
    {f : PaymentIntent → Service β}
    (hok : ∀ intent intent', s.world.intents.find paymentIntentId = some intent →
      (intent'.status = .succeeded → ¬ PaymentSimulatorAdapter.limit < intent.amount.amount) →
      (f intent').wp (s.contract i) Q γ)
    (herror : ∀ e, Q (.error e) γ) :
    ((confirmPayment paymentIntentId >>= Prog.ofExcept) >>= f).wp (s.contract i) Q γ := by
  rw [bind_assoc, confirmPayment, Prog.wp_perform_bind]
  refine ⟨⟨hidle, trivial⟩, fun (answer : Except PyError PaymentIntent) hanswer => ?_⟩
  refine Prog.wp_ofExcept_bind (fun intent' hintent' => ?_) herror
  obtain ⟨intent, hfind, hlimit⟩ := hanswer intent' hintent'
  exact hok intent intent' hfind hlimit

end Steps

/-! ### Fulfilment -/

/-- What is kept under a key, if anything, is a document in `R`. -/
def Readable (R : Json → Prop) (redis : Bool) (store : Redis.Store) (key : String) : Prop :=
  ∀ value, cachedValue redis store key = some value →
    ∃ document, jsonLoads value = .ok document ∧ R document

lemma readable_of_none {R : Json → Prop} {redis : Bool} {store : Redis.Store} {key : String}
    (h : cachedValue redis store key = none) : Readable R redis store key := by
  intro value hvalue
  rw [h] at hvalue
  cases hvalue

section Fulfill

variable {Q : Except PyError β → TransactionView → Prop}

/-- What an idempotent request needs of the view that makes it. -/
structure Cached (s : Start ι) (i : ι) (γ : TransactionView) (R : Json → Prop) (key : String) :
    Prop where
  idle : γ.committed = false
  get : ∀ found : Option Redis.Value, (s.contract i).allows γ (.redis (.get key)) found →
    Readable R true s.world.redis key ∨ found = (s.world.redis key).map Redis.Entry.value
  setex : Readable R true s.world.redis key →
    ∀ ttl value, (s.contract i).pre γ (.redis (.setex key ttl value))

/-- An idempotent request answers with what was kept at the start, unless that was a document in
`R` or nothing; so if the answer is in `R`, then what was kept is. -/
lemma wp_idempotently {R : Json → Prop} {redis : Bool} {key : String} {request : Service Json}
    (hcached : s.Cached i γ R key) (hrequest : request.Uses Quiet) {f : Json → Service β}
    (hok : ∀ document, (R document → Readable R redis s.world.redis key) →
      (f document).wp (s.contract i) Q γ)
    (herror : ∀ e, Q (.error e) γ) :
    (idempotently redis key request >>= f).wp (s.contract i) Q γ := by
  cases redis with
  | false =>
    exact wp_quiet_bind hrequest hcached.idle
      (fun document => hok document fun _ => readable_of_none rfl) herror
  | true =>
    have hstore : Readable R true s.world.redis key →
        (idempotently.store key request >>= f).wp (s.contract i) Q γ := by
      intro hreadable
      rw [idempotently.store, bind_assoc]
      refine wp_quiet_bind hrequest hcached.idle (fun document => ?_) herror
      rw [bind_assoc, redisSetex, Prog.wp_perform_bind]
      exact ⟨hcached.setex hreadable _ _, fun _ _ => hok document fun _ => hreadable⟩
    unfold idempotently
    rw [if_pos rfl, bind_assoc, redisGet, Prog.wp_perform_bind]
    refine ⟨⟨hcached.idle, trivial⟩, fun (found : Option Redis.Value) hfound => ?_⟩
    have hsame := hcached.get found hfound
    rcases found with _ | cached
    · refine hstore (hsame.elim (fun h => h) fun hkept => readable_of_none ?_)
      simp [cachedValue, ← hkept]
    · by_cases htruthy : cached.truthy = true
      · simp only [htruthy, if_true]
        refine Prog.wp_ofExcept_bind (fun document hloads => ?_) herror
        refine hok document fun hR => hsame.elim (fun h => h) fun hkept value hvalue => ?_
        simp only [cachedValue, if_true, ← hkept, Option.filter_some, htruthy,
          Option.some.injEq] at hvalue
        exact ⟨document, hvalue ▸ hloads, hR⟩
      · simp only [htruthy, Bool.false_eq_true, if_false]
        refine hstore (hsame.elim (fun h => h) fun hkept => readable_of_none ?_)
        simp [cachedValue, ← hkept, htruthy]

/-- The documents an offer's id can be read from. -/
def OffersId (document : Json) : Prop := ∃ offerId, document.item "offer_id" = .ok offerId

/-- The documents tickets can be read from. -/
def ListsTickets (document : Json) : Prop :=
  ∃ fulfillment tickets, document.getD "fulfillment" (.obj []) = .ok fulfillment ∧
    fulfillment.getD "tickets" (.arr []) = .ok tickets

lemma readable_offer_iff {redis : Bool} {store : Redis.Store} {orderId : UUID} :
    Readable OffersId redis store (offerKey orderId) ↔ UsableOffer redis store orderId := by
  simp only [Readable, OffersId, UsableOffer, exists_and_left]

lemma readable_acceptance_iff {redis : Bool} {store : Redis.Store} {orderId : UUID} :
    Readable ListsTickets redis store (acceptKey orderId) ↔
      UsableAcceptance redis store orderId := by
  simp only [Readable, ListsTickets, UsableAcceptance, exists_and_left]

lemma cached_offer (s : Start ι) (i : ι) (hidle : γ.committed = false) :
    s.Cached i γ OffersId (offerKey s.id) where
  idle := hidle
  get := by
    intro found hfound
    rw [readable_offer_iff]
    exact hfound.1 rfl
  setex := by
    intro hreadable ttl value
    rw [readable_offer_iff] at hreadable
    exact ⟨hidle, fun _ => hreadable, fun h => absurd h.symm (acceptKey_ne_offerKey _ _)⟩

lemma cached_acceptance (s : Start ι) (i : ι) (hidle : γ.committed = false) :
    s.Cached i γ ListsTickets (acceptKey s.id) where
  idle := hidle
  get := by
    intro found hfound
    rw [readable_acceptance_iff]
    exact hfound.2 rfl
  setex := by
    intro hreadable ttl value
    rw [readable_acceptance_iff] at hreadable
    exact ⟨hidle, fun h => absurd h (acceptKey_ne_offerKey _ _), fun _ => hreadable⟩

/-- **Fulfilment** returns only what the order's documents of the start allow. -/
lemma wp_fulfill (tm : TicketmasterAdapter) {order : Order} (hid : order.orderId = s.id)
    (plan : Plan) (hidle : γ.committed = false) {f : Json × Order → Service β}
    (hok : ∀ tickets order', order'.toOrderRow = order.toOrderRow → order.domainEvents ≠ none →
      UsableOffer tm.redis s.world.redis s.id → UsableAcceptance tm.redis s.world.redis s.id →
      (f (tickets, order')).wp (s.contract i) Q γ)
    (herror : ∀ e, Q (.error e) γ) :
    (FulfillOrderService.fulfill tm order plan >>= f).wp (s.contract i) Q γ := by
  have hoffer := cached_offer s i hidle
  have hacceptance := cached_acceptance s i hidle
  have hpure : ∀ document, (.pure document : Service Json).Uses Quiet := fun _ => trivial
  simp only [FulfillOrderService.fulfill, bind_assoc]
  rw [hid]
  refine wp_idempotently hoffer (quiet_requestOffer ..) (fun tmOrder hoffered => ?_) herror
  refine Prog.wp_ofExcept_bind (fun offerId hofferId => ?_) herror
  refine wp_idempotently hacceptance (hpure _) (fun acceptance haccepted => ?_) herror
  refine Prog.wp_ofExcept_bind (fun fulfillment hfulfillment => ?_) herror
  refine Prog.wp_ofExcept_bind (fun tickets htickets => ?_) herror
  refine wp_quiet_bind (quiet_releaseSeatHolds ..) hidle (fun _ => ?_) herror
  refine wp_quiet_bind quiet_eventStamp hidle (fun stamp => ?_) herror
  refine wp_callOrder_bind (fun order' horder' => ?_) herror
  obtain ⟨hevents, hrow⟩ := run_addDomainEvent_eq_ok horder'
  exact hok tickets order' hrow hevents (readable_offer_iff.mp (hoffered ⟨offerId, hofferId⟩))
    (readable_acceptance_iff.mp (haccepted ⟨fulfillment, tickets, hfulfillment, htickets⟩))

end Fulfill

/-! ### The three handlers -/

section Handlers

variable {handler : OrderCommandHandler}

/-- An update of the order that was read files its new row. -/
lemma files_updateOrder {order' : OrderRow} (hid : order'.orderId = s.order.orderId) :
    s.Files [.updateOrder s.order order'] order' s.payment := by
  intro w hstored
  have hkey : s.order.orderId = s.id := w.orders.keyed _ _ hstored.1
  have hupdate := World.apply_updateOrder (hkey ▸ hstored.1) hid
  rw [List.foldl_cons, List.foldl_nil, hupdate]
  exact ⟨Table.find_put_of_key _ (hid.trans hkey), hstored.2⟩

/-- An update of both rows that were read files both new rows. -/
lemma files_updates {order' : OrderRow} {payment' : PaymentRow}
    (horder : order'.orderId = s.order.orderId)
    (hpayment : payment'.paymentId = s.payment.paymentId)
    (hof : payment'.orderId = s.payment.orderId) :
    s.Files [.updateOrder s.order order', .updatePayment s.payment payment'] order' payment' := by
  intro w hstored
  have hkey : s.order.orderId = s.id := w.orders.keyed _ _ hstored.1
  have hpaymentKey : s.payment.orderId = s.id := w.payments.keyed _ _ hstored.2
  rw [World.apply_updates (hkey ▸ hstored.1) (hpaymentKey ▸ hstored.2) horder hpayment hof]
  exact hstored.put horder hof rfl rfl

/-- **A cancellation** commits only what was acceptable at the start. -/
theorem wp_cancelBody {cmd : CancelOrderCommand} (hrequest : s.requests i = .cancel handler cmd) :
    (handler.cancelBody cmd).wp (s.contract i) (s.Commits i) ⟨none, false⟩ := by
  have hid : cmd.orderId = s.id := by
    rw [← s.about i, hrequest]
    rfl
  have herror : ∀ e : PyError, s.Commits i (.error e : Except PyError (Unit × List Change))
      ⟨none, false⟩ := fun _ => rfl
  rw [cancelBody, hid]
  refine wp_getOrder handler rfl (fun _ => ?_) herror
  refine wp_quiet_bind (quiet_releaseSeatHolds ..) rfl (fun _ => ?_) herror
  refine wp_quiet_bind quiet_eventStamp rfl (fun stamp => ?_) herror
  refine wp_callOrder_bind (fun order' hcancel => ?_) herror
  obtain ⟨hcancellable, hevents, hrow⟩ := run_cancel_eq_ok hcancel
  rw [Session.instanceOfOrder_toOrderRow] at hcancellable hrow
  refine ⟨rfl, ?_, ?_, cancelledRow s.order, s.payment, ?_, ?_⟩
  · rw [hrequest]
    rfl
  · rw [hrequest]
    exact ⟨hcancellable, hevents⟩
  · rw [hrequest]
    exact .cancel handler cmd _ _ hcancellable
  · rw [hrow]
    exact files_updateOrder rfl

/-- **A refund** commits only what was acceptable at the start. -/
theorem wp_refundBody {cmd : RefundOrderCommand} (hrequest : s.requests i = .refund handler cmd) :
    (handler.refundBody cmd).wp (s.contract i) (s.Commits i) ⟨none, false⟩ := by
  have hid : cmd.orderId = s.id := by
    rw [← s.about i, hrequest]
    rfl
  have herror : ∀ e : PyError, s.Commits i (.error e : Except PyError (Unit × List Change))
      ⟨none, false⟩ := fun _ => rfl
  rw [refundBody, hid]
  refine wp_getOrder handler rfl (fun hloads => ?_) herror
  refine wp_getPayment rfl ?_
  refine wp_callPayment_bind (fun payment' hrepay => ?_) herror
  refine wp_callOrder_bind (fun order' hrefund => ?_) herror
  obtain ⟨hcaptured, hpaymentRow⟩ := run_repay_eq_ok hrepay
  obtain ⟨hrefundable, horderRow⟩ := run_refund_eq_ok hrefund
  rw [Session.instanceOfOrder_toOrderRow] at hrefundable horderRow
  rw [Session.instanceOfPayment_toPaymentRow] at hpaymentRow
  refine ⟨rfl, ?_, ?_, refundedRow s.order, repaidRow s.payment cmd.amount, ?_, ?_⟩
  · rw [hrequest]
    rfl
  · rw [hrequest]
    exact ⟨hloads, hrefundable, hcaptured⟩
  · rw [hrequest]
    exact .refund handler cmd _ _ hloads hrefundable hcaptured
  · rw [horderRow, hpaymentRow]
    exact files_updates rfl rfl rfl

/-- Once the provider has taken the money, a confirmation commits only if it finds what it further
needs. -/
lemma wp_completePayment {cmd : ConfirmPaymentCommand} {intent : PaymentIntent}
    (hrequest : s.requests i = .confirm handler cmd)
    (haccept : handler.Completable s.world (handler.session.instanceOfOrder s.order)
        (handler.session.instanceOfPayment s.payment) →
      Acceptable s.world s.order s.payment (s.requests i)) :
    (handler.completePayment (handler.session.instanceOfOrder s.order)
      (handler.session.instanceOfPayment s.payment) intent).wp (s.contract i) (s.Commits i)
      ⟨claim s.payment (s.requests i), false⟩ := by
  have herror : ∀ e : PyError, s.Commits i
      (.error e : Except PyError (PaymentConfirmedResult × List Change))
      ⟨claim s.payment (s.requests i), false⟩ := fun _ => rfl
  have hkey : s.order.orderId = s.id := s.world.orders.keyed _ _ s.stored.1
  rw [completePayment]
  refine wp_callPayment_bind (fun payment' hcapture => ?_) herror
  refine wp_callOrder_bind (fun order' hconfirm => ?_) herror
  obtain ⟨hauthorized, hpaymentRow⟩ := run_capture_eq_ok hcapture
  obtain ⟨hinitiated, horderRow, hinstance⟩ := run_confirm_eq_ok hconfirm
  rw [Session.instanceOfPayment_toPaymentRow] at hauthorized hpaymentRow
  rw [Session.instanceOfOrder_toOrderRow] at hinitiated horderRow
  have horderId : order'.orderId = s.id := by
    rw [horderRow]
    exact hkey
  refine wp_getPlan rfl (fun plan hplan => ?_) herror
  refine wp_fulfill handler.tm horderId plan rfl
    (fun tickets fulfilled hrow hevents hoffer hacceptance => ?_) herror
  rw [horderRow] at hplan hrow
  rw [hinstance] at hevents
  rw [← hkey] at hoffer hacceptance
  refine ⟨rfl, rfl, ?_, paidRow s.order, capturedRow s.payment intent, ?_, ?_⟩
  · exact haccept ⟨hauthorized, hinitiated, Option.ne_none_iff_exists'.mpr ⟨plan, hplan⟩, hevents,
      hoffer, hacceptance⟩
  · rw [hrequest]
    exact .confirm handler cmd _ _ intent hinitiated hauthorized
  · rw [hrow, hpaymentRow]
    exact files_updates rfl rfl rfl

/-- **A confirmation** commits only what was acceptable at the start, and only if it has set its
idempotency key. -/
theorem wp_confirmBody {cmd : ConfirmPaymentCommand}
    (hrequest : s.requests i = .confirm handler cmd) :
    (handler.confirmBody cmd).wp (s.contract i) (s.Commits i) ⟨none, false⟩ := by
  have hid : cmd.orderId = s.id := by
    rw [← s.about i, hrequest]
    rfl
  have hclaim : claim s.payment (s.requests i) =
      if handler.tm.redis then
        some (paymentConfirmKey s.payment.paymentId (confirmationKey cmd s.payment.paymentId))
      else none := by
    rw [hrequest]
    rfl
  rw [confirmBody, hid]
  refine wp_getOrder handler rfl (fun _ => ?_) fun _ => rfl
  refine wp_getPayment rfl ?_
  refine wp_checkPaymentIdempotency hclaim (fun hunused => ?_) rfl
  have herror : ∀ e : PyError, s.Commits i
      (.error e : Except PyError (PaymentConfirmedResult × List Change))
      ⟨claim s.payment (s.requests i), false⟩ := fun _ => rfl
  refine wp_confirmPayment rfl (fun intent intent' hfind hlimit => ?_) herror
  rw [settlePayment]
  by_cases hsucceeded : intent'.status = .succeeded
  · rw [if_neg (not_not_intro hsucceeded)]
    refine wp_completePayment hrequest fun hcompletable => ?_
    rw [hrequest]
    exact ⟨intent, hfind, hlimit hsucceeded, hunused, hcompletable⟩
  · rw [if_pos hsucceeded, declinePayment]
    refine wp_callPayment_bind (fun _ _ => ?_) herror
    exact wp_quiet_bind (quiet_releaseSeatHolds ..) rfl (fun _ => rfl) herror

end Handlers

/-- **Every program** commits only what its contract lets it commit. -/
theorem wp_program (s : Start ι) (i : ι) :
    (s.requests i).program.wp (s.contract i) Ends ⟨none, false⟩ := by
  rcases hrequest : s.requests i with ⟨handler, cmd⟩ | ⟨handler, cmd⟩ | ⟨handler, cmd⟩
  · rw [Request.program, Prog.wp_bind]
    refine Prog.wp_mono (fun r γ' hr => ?_) (wp_withUnitOfWork (wp_confirmBody hrequest))
    rcases r with e | result
    · exact hr
    · exact hr
  · exact wp_withUnitOfWork (wp_cancelBody hrequest)
  · exact wp_withUnitOfWork (wp_refundBody hrequest)

/-! ## Runs -/

/-- The views before anything has happened are accurate. -/
lemma accurate_start (s : Start ι) : s.Accurate (fun _ => ⟨none, false⟩) s.world where
  plans := rfl
  intents := fun _ intent hfind => ⟨intent, hfind, rfl⟩
  offer := .inr rfl
  acceptance := .inr rfl
  used := fun _ _ hused => hused
  claimed := fun _ _ hkey => nomatch hkey
  apart := fun _ _ _ hkey => nomatch hkey
  one := fun _ _ hi => nomatch hi
  untouched := fun _ => s.stored
  moved := fun _ hi => nomatch hi

/-- A transaction has committed exactly if it has returned. -/
lemma committed_iff {s : Start ι} {c : Pool service ι PyError Unit World TransactionView}
    (hc : c.Sound s.contract s.Accurate fun _ => Ends) (i : ι) :
    (c.view i).committed = true ↔ c.thread i = .pure () := by
  have hmeets := hc.meets i
  constructor
  · intro hcommitted
    rcases hthread : c.thread i with u | e | ⟨o, k⟩
    · rfl
    · rw [hthread] at hmeets
      have hidle : (c.view i).committed = false := hmeets
      rw [hcommitted] at hidle
      cases hidle
    · rw [hthread] at hmeets
      have hidle : (c.view i).committed = false := hmeets.1.1
      rw [hcommitted] at hidle
      cases hidle
  · intro hthread
    rw [hthread] at hmeets
    exact hmeets

end Start

section Runs

variable {ι : Type} [DecidableEq ι] {w : World} {id : UUID} {order : OrderRow}
  {payment : PaymentRow} {requests : ι → Request}

/-- **No update is lost in any run** of transactions on one order that read early, if no two of the
requests are both acceptable at the start, or only under one idempotency key. -/
theorem no_lost_update (hstored : w.Stored id order payment)
    (habout : ∀ i, (requests i).orderId = id)
    (hconflict : ∀ i j, i ≠ j → ¬ Conflict w order payment (requests i) (requests j))
    {schedule : List ι}
    (hschedule : Guarded (Threads.exec World.handle) (ReadsEarly id) (start w requests) schedule) :
    NoLostUpdate id order payment requests
      (run (Threads.exec World.handle) (start w requests) schedule) := by
  let s : Start ι := ⟨w, id, order, payment, requests, hstored, habout⟩
  have hinit : Pool.Sound s.contract s.Accurate (fun _ => Ends)
      ⟨start w requests, fun _ => ⟨none, false⟩⟩ := ⟨s.accurate_start, fun i => s.wp_program i⟩
  have hmay : ∀ (c : Pool service ι PyError Unit World TransactionView) i,
      c.Sound s.contract s.Accurate (fun _ => Ends) → ReadsEarly id c.toThreads i →
        ∀ o k, c.thread i = .op o k → s.May c.view i o := by
    intro c i hc hearly o k hthread hreads j hj
    rw [← Bool.not_eq_true, Start.committed_iff hc]
    exact hearly o k hthread hreads j hj
  obtain ⟨γ, hsound⟩ :=
    (s.views_accurate hconflict).run_sound hmay ⟨_, hinit⟩ hschedule
  have hcommitted := Start.committed_iff hsound
  refine ⟨fun i j hi hj => ?_, fun hnone => ?_, fun i hi => ?_, fun i j changes k hij hi hj => ?_⟩
  · exact hsound.accurate.one i j ((hcommitted i).mpr hi) ((hcommitted j).mpr hj)
  · refine hsound.accurate.untouched fun i => ?_
    rw [← Bool.not_eq_true, hcommitted]
    exact hnone i
  · obtain ⟨-, -, order', payment', hmove, hstored'⟩ :=
      hsound.accurate.moved i ((hcommitted i).mpr hi)
    exact ⟨order', payment', hmove, hstored', hmove.version⟩
  · -- Under the contract there is no such transaction.
    have hmeets := hsound.meets j
    rw [hj] at hmeets
    have hidle := hsound.accurate.alone hconflict hmeets.1 i
    rw [(hcommitted i).mpr hi] at hidle
    cases hidle

end Runs

/-! ### Two transactions on a paid order -/

/-- As long as neither of two transactions has returned, both may read. -/
lemma readsEarly_of_neither {id : UUID} {c : Transactions Bool} (i : Bool)
    (hfirst : c.thread false ≠ .pure ()) (hsecond : c.thread true ≠ .pure ()) :
    ReadsEarly id c i := by
  intro o k _ _ j _
  cases j with
  | false => exact hfirst
  | true => exact hsecond

/-- A refund against a cancellation. -/
def refundOrCancel : Bool → Request
  | false => Coherence.refundOf 10
  | true => .cancel (Confirmation.handlerWith none) ⟨.nil, "changed my mind"⟩

/-- The cancellation reads the order, the refund goes to its end, the cancellation goes on. -/
theorem refund_against_cancel : NoLostUpdate .nil (paidRow Confirmation.waitingOrder)
    (Confirmation.waitingPayment .captured) refundOrCancel
    (run (Threads.exec World.handle) (start Coherence.paidFor refundOrCancel)
      [true, false, false, false, true]) := by
  have hnot : ¬ Cancellable (paidRow Confirmation.waitingOrder) := by
    rintro (h | h | h)
    · cases h
    · cases h
    · cases h
  refine no_lost_update ⟨rfl, rfl⟩ ?_ ?_ ⟨readsEarly_of_neither _ nofun nofun,
    readsEarly_of_neither _ nofun nofun, readsEarly_of_neither _ nofun nofun,
    readsEarly_of_neither _ nofun nofun, ?_, trivial⟩
  · rintro (_ | _)
    · rfl
    · rfl
  · rintro (_ | _) (_ | _) hij ⟨hfirst, hsecond, -⟩
    · exact hij rfl
    · exact hnot hsecond.1
    · exact hnot hfirst.1
    · exact hij rfl
  · intro o k hthread hreads
    obtain ⟨rfl, -⟩ := Prog.op.inj hthread
    exact hreads.elim

/-- A refund against another. -/
def refundTwice : Bool → Request
  | false => Coherence.refundOf 10
  | true => Coherence.refundOf 5

/-- **Both refunds commit** when both read before either commits. -/
theorem update_lost : ¬ ∀ (w : World) (id : UUID) (order : OrderRow) (payment : PaymentRow)
    (requests : Bool → Request) (schedule : List Bool), w.Stored id order payment →
    (∀ i, (requests i).orderId = id) →
    Guarded (Threads.exec World.handle) (ReadsEarly id) (start w requests) schedule →
    NoLostUpdate id order payment requests
      (run (Threads.exec World.handle) (start w requests) schedule) := by
  intro h
  have hstored : Coherence.paidFor.Stored .nil (paidRow Confirmation.waitingOrder)
    (Confirmation.waitingPayment .captured) := ⟨rfl, rfl⟩
  have habout : ∀ i, (refundTwice i).orderId = .nil := by
    rintro (_ | _)
    · rfl
    · rfl
  have hlost := h _ _ _ _ refundTwice [false, false, true, true, false, true] hstored habout
    ⟨readsEarly_of_neither _ nofun nofun, readsEarly_of_neither _ nofun nofun,
      readsEarly_of_neither _ nofun nofun, readsEarly_of_neither _ nofun nofun,
      readsEarly_of_neither _ nofun nofun, ?_, trivial⟩
  · cases hlost.one false true rfl rfl
  · intro o k hthread hreads
    obtain ⟨rfl, -⟩ := Prog.op.inj hthread
    exact hreads.elim

end TicketGenius.LostUpdate
