import TicketGenius.Framework.Interleaving
import TicketGenius.Properties.Coherence

/-!
# Transactions and their views

Transactions on one order, interleaved operation by operation.  Since the mappers declare no version
column, the `UPDATE` of a commit tests nothing, and whatever two transactions have read, both can
commit.

The argument is made transaction by transaction.  A contract says which replies a transaction may
get, and that it commits only if its request was acceptable at the start (`Acceptable`, `contract`).
`Accurate` ties the views of the transactions to the shared world, and `views_accurate` says that
one operation of one transaction keeps them accurate, as long as no two of the requests are in
conflict.
-/

namespace TicketGenius.LostUpdate

open Framework Service OrderCommandHandler

variable {ι : Type} [DecidableEq ι]

/-! ## Transactions -/

/-- Transactions in progress, sharing the world. -/
abbrev Transactions (ι : Type) := Threads service ι PyError Unit World

/-- Each transaction serves a request. -/
def start (w : World) (requests : ι → Request) : Transactions ι where
  shared := w
  thread := fun i => (requests i).program

/-- The operation reads a row of the order. -/
def ReadsRow (id : UUID) : Op → Prop
  | .ordersGet orderId | .paymentsGetByOrderId orderId => orderId = id
  | _ => False

/-! ## Acceptable requests -/

/-- The request would be served in this world, with these rows. -/
def Acceptable (w : World) (order : OrderRow) (payment : PaymentRow) : Request → Prop
  | .confirm handler cmd => ∃ intent, w.intents.find cmd.paymentIntentId = some intent ∧
      ¬ PaymentSimulatorAdapter.limit < intent.amount.amount ∧
      (handler.tm.redis = true →
        w.redis (paymentConfirmKey payment.paymentId (confirmationKey cmd payment.paymentId)) =
          none) ∧
      handler.Completable w (handler.session.instanceOfOrder order)
        (handler.session.instanceOfPayment payment)
  | .cancel handler _ => Cancellable order ∧
      (handler.session.instanceOfOrder order).domainEvents ≠ none
  | .refund handler _ => handler.session.Loads order ∧ Refundable order ∧
      payment.status = .captured

/-- The key a request sets so that it is served once. -/
def claim (payment : PaymentRow) : Request → Option String
  | .confirm handler cmd =>
    if handler.tm.redis then
      some (paymentConfirmKey payment.paymentId (confirmationKey cmd payment.paymentId))
    else none
  | .cancel _ _ | .refund _ _ => none

/-- Two requests are acceptable and do not set the same key. -/
def Conflict (w : World) (order : OrderRow) (payment : PaymentRow) (r r' : Request) : Prop :=
  Acceptable w order payment r ∧ Acceptable w order payment r' ∧
    ∀ key, claim payment r = some key → claim payment r' ≠ some key

/-! ## Views -/

/-- What a transaction has done: the key it has set, and whether it has committed. -/
structure TransactionView where
  claimed : Option String
  committed : Bool

/-- Where all transactions start: the world, and the rows of the order. -/
structure Start (ι : Type) where
  world : World
  id : UUID
  order : OrderRow
  payment : PaymentRow
  requests : ι → Request
  stored : world.Stored id order payment
  about : ∀ i, (requests i).orderId = id

namespace Start

variable (s : Start ι)

/-- What a commit files over the rows that were read. -/
def Files (changes : List Change) (order' : OrderRow) (payment' : PaymentRow) : Prop :=
  ∀ w : World, w.Stored s.id s.order s.payment →
    (changes.foldl World.apply w).Stored s.id order' payment'

/-- The contract of one transaction. -/
def contract (i : ι) : Contract service TransactionView where
  pre γ o := γ.committed = false ∧
    match o with
    | .redis (.setNx key _ _) => γ.claimed = none ∧ claim s.payment (s.requests i) = some key
    | .redis (.delete key) => ∃ planId seatId, key = seatHoldKey planId seatId
    | .redis (.setex key _ _) =>
      (key = offerKey s.id → UsableOffer true s.world.redis s.id) ∧
      (key = acceptKey s.id → UsableAcceptance true s.world.redis s.id)
    | .commit changes => γ.claimed = claim s.payment (s.requests i) ∧
        Acceptable s.world s.order s.payment (s.requests i) ∧
        ∃ order' payment', Transition (s.requests i) s.order s.payment order' payment' ∧
          s.Files changes order' payment'
    | .createPaymentIntent .. => False
    | _ => True
  allows _ o reply :=
    match o, reply with
    | .ordersGet orderId, found => orderId = s.id → found = some s.order
    | .paymentsGetByOrderId orderId, found => orderId = s.id → found = some s.payment
    | .plansGet planId, found => found = s.world.plans.find planId
    | .confirmPayment paymentIntentId, answer => ∀ intent', answer = .ok intent' →
        ∃ intent, s.world.intents.find paymentIntentId = some intent ∧
          (intent'.status = .succeeded →
            ¬ PaymentSimulatorAdapter.limit < intent.amount.amount)
    | .redis (.setNx key _ _), set => set = true → s.world.redis key = none
    | .redis (.get key), found =>
      (key = offerKey s.id → UsableOffer true s.world.redis s.id ∨
        found = (s.world.redis key).map Redis.Entry.value) ∧
      (key = acceptKey s.id → UsableAcceptance true s.world.redis s.id ∨
        found = (s.world.redis key).map Redis.Entry.value)
    | _, _ => True
  next γ o reply :=
    match o, reply with
    | .redis (.setNx key _ _), set => if set then { γ with claimed := some key } else γ
    | .commit _, _ => { γ with committed := true }
    | _, _ => γ

/-- What the schedule lets a transaction do. -/
def May (γ : ι → TransactionView) (i : ι) (o : Op) : Prop :=
  ReadsRow s.id o → ∀ j, j ≠ i → (γ j).committed = false

/-- The views of the transactions are accurate in a world. -/
structure Accurate (γ : ι → TransactionView) (w : World) : Prop where
  plans : w.plans = s.world.plans
  intents : ∀ paymentIntentId intent, w.intents.find paymentIntentId = some intent →
    ∃ intent₀, s.world.intents.find paymentIntentId = some intent₀ ∧ intent₀.amount = intent.amount
  offer : UsableOffer true s.world.redis s.id ∨
    w.redis (offerKey s.id) = s.world.redis (offerKey s.id)
  acceptance : UsableAcceptance true s.world.redis s.id ∨
    w.redis (acceptKey s.id) = s.world.redis (acceptKey s.id)
  used : ∀ paymentId k, s.world.redis (paymentConfirmKey paymentId k) ≠ none →
    w.redis (paymentConfirmKey paymentId k) ≠ none
  claimed : ∀ i key, (γ i).claimed = some key → w.redis key ≠ none ∧
    claim s.payment (s.requests i) = some key
  apart : ∀ i j key, (γ i).claimed = some key → (γ j).claimed = some key → i = j
  one : ∀ i j, (γ i).committed = true → (γ j).committed = true → i = j
  untouched : (∀ i, (γ i).committed = false) → w.Stored s.id s.order s.payment
  moved : ∀ i, (γ i).committed = true →
    (γ i).claimed = claim s.payment (s.requests i) ∧
      Acceptable s.world s.order s.payment (s.requests i) ∧
      ∃ order' payment', Transition (s.requests i) s.order s.payment order' payment' ∧
        w.Stored s.id order' payment'

end Start

/-! ### Keys -/

/-- A claimed key is an idempotency key. -/
lemma eq_paymentConfirmKey_of_claim {payment : PaymentRow} {r : Request} {key : String}
    (h : claim payment r = some key) : ∃ paymentId k, key = paymentConfirmKey paymentId k := by
  cases r with
  | confirm handler cmd =>
    simp only [claim, Option.ite_none_right_eq_some, Option.some.injEq] at h
    exact ⟨_, _, h.2.symm⟩
  | cancel handler cmd => cases h
  | refund handler cmd => cases h

/-! ### Accuracy is kept -/

namespace Start

variable {s : Start ι} {γ : ι → TransactionView} {w w' : World} {i : ι}

omit [DecidableEq ι] in
/-- Nothing a view is about has changed. -/
lemma Accurate.of_eq (h : s.Accurate γ w) (hredis : w'.redis = w.redis)
    (horders : w'.orders = w.orders) (hpayments : w'.payments = w.payments)
    (hplans : w'.plans = w.plans) (hintents : w'.intents = w.intents) : s.Accurate γ w' where
  plans := hplans.trans h.plans
  intents := hintents ▸ h.intents
  offer := hredis ▸ h.offer
  acceptance := hredis ▸ h.acceptance
  used := hredis ▸ h.used
  claimed := hredis ▸ h.claimed
  apart := h.apart
  one := h.one
  untouched := fun hall => (h.untouched hall).of_eq horders hpayments
  moved := fun i hi => by
    obtain ⟨hclaim, hacceptable, order', payment', hmove, hstored⟩ := h.moved i hi
    exact ⟨hclaim, hacceptable, order', payment', hmove, hstored.of_eq horders hpayments⟩

omit [DecidableEq ι] in
/-- Redis has changed, but no idempotency key has gone, and the documents kept for the order are
the same or usable. -/
lemma Accurate.redis (h : s.Accurate γ w) (redis : Redis.Store)
    (hoffer : UsableOffer true s.world.redis s.id ∨
      redis (offerKey s.id) = w.redis (offerKey s.id))
    (hacceptance : UsableAcceptance true s.world.redis s.id ∨
      redis (acceptKey s.id) = w.redis (acceptKey s.id))
    (hkeys : ∀ paymentId k, w.redis (paymentConfirmKey paymentId k) ≠ none →
      redis (paymentConfirmKey paymentId k) ≠ none) :
    s.Accurate γ { w with redis := redis } where
  plans := h.plans
  intents := h.intents
  offer := by
    rcases hoffer with husable | hsame
    · exact .inl husable
    · exact h.offer.imp_right hsame.trans
  acceptance := by
    rcases hacceptance with husable | hsame
    · exact .inl husable
    · exact h.acceptance.imp_right hsame.trans
  used := fun paymentId k hused => hkeys paymentId k (h.used paymentId k hused)
  claimed := by
    intro i key hkey
    obtain ⟨hset, hclaim⟩ := h.claimed i key hkey
    obtain ⟨paymentId, k, rfl⟩ := eq_paymentConfirmKey_of_claim hclaim
    exact ⟨hkeys paymentId k hset, hclaim⟩
  apart := h.apart
  one := h.one
  untouched := h.untouched
  moved := h.moved

lemma committed_update_claimed (γ : ι → TransactionView) (i j : ι) (key : Option String) :
    (Function.update γ i { γ i with claimed := key } j).committed = (γ j).committed := by
  rcases eq_or_ne j i with rfl | hj
  · rw [Function.update_self]
  · rw [Function.update_of_ne hj]

lemma claimed_update_committed (γ : ι → TransactionView) (i j : ι) (committed : Bool) :
    (Function.update γ i { γ i with committed := committed } j).claimed = (γ j).claimed := by
  rcases eq_or_ne j i with rfl | hj
  · rw [Function.update_self]
  · rw [Function.update_of_ne hj]

/-- Who has claimed a key when one more key has been. -/
lemma claimed_update_claimed {key key' : String} {j : ι}
    (h : (Function.update γ i { γ i with claimed := some key } j).claimed = some key') :
    (j = i ∧ key' = key) ∨ (γ j).claimed = some key' := by
  rcases eq_or_ne j i with rfl | hj
  · rw [Function.update_self, Option.some.injEq] at h
    exact .inl ⟨rfl, h.symm⟩
  · rw [Function.update_of_ne hj] at h
    exact .inr h

/-- A transaction has set its idempotency key. -/
lemma Accurate.claim (h : s.Accurate γ w) {key : String}
    (hclaim : LostUpdate.claim s.payment (s.requests i) = some key)
    (hset : w.redis key ≠ none) (hidle : (γ i).committed = false)
    (hothers : ∀ j, (γ j).claimed ≠ some key) :
    s.Accurate (Function.update γ i { γ i with claimed := some key }) w where
  plans := h.plans
  intents := h.intents
  offer := h.offer
  acceptance := h.acceptance
  used := h.used
  claimed := by
    intro j key' hkey'
    rcases claimed_update_claimed hkey' with ⟨rfl, rfl⟩ | hbefore
    · exact ⟨hset, hclaim⟩
    · exact h.claimed j key' hbefore
  apart := by
    intro j j' key' hkey hkey'
    rcases claimed_update_claimed hkey with ⟨rfl, rfl⟩ | hbefore
    · rcases claimed_update_claimed hkey' with ⟨rfl, -⟩ | hbefore'
      · rfl
      · exact absurd hbefore' (hothers j')
    · rcases claimed_update_claimed hkey' with ⟨rfl, rfl⟩ | hbefore'
      · exact absurd hbefore (hothers j)
      · exact h.apart j j' key' hbefore hbefore'
  one := by
    intro j j' hj hj'
    rw [committed_update_claimed] at hj hj'
    exact h.one j j' hj hj'
  untouched := by
    intro hall
    refine h.untouched fun j => ?_
    rw [← hall j, committed_update_claimed]
  moved := by
    intro j hj
    rw [committed_update_claimed] at hj
    have hne : j ≠ i := by
      rintro rfl
      rw [hidle] at hj
      cases hj
    rw [Function.update_of_ne hne]
    exact h.moved j hj

/-- A transaction has committed, before any other. -/
lemma Accurate.commit (h : s.Accurate γ w) (hothers : ∀ j, (γ j).committed = false)
    (hclaim : (γ i).claimed = LostUpdate.claim s.payment (s.requests i))
    (hacceptable : Acceptable s.world s.order s.payment (s.requests i))
    {order' : OrderRow} {payment' : PaymentRow}
    (hmove : Transition (s.requests i) s.order s.payment order' payment')
    (hstored : w'.Stored s.id order' payment') (hredis : w'.redis = w.redis)
    (hplans : w'.plans = w.plans) (hintents : w'.intents = w.intents) :
    s.Accurate (Function.update γ i { γ i with committed := true }) w' := by
  have honly : ∀ j, (Function.update γ i { γ i with committed := true } j).committed = true →
      j = i := by
    intro j hj
    by_contra hne
    rw [Function.update_of_ne hne, hothers j] at hj
    cases hj
  refine ⟨hplans.trans h.plans, hintents ▸ h.intents, hredis ▸ h.offer, hredis ▸ h.acceptance,
    hredis ▸ h.used, ?_, ?_, ?_, ?_, ?_⟩
  · intro j key hkey
    rw [claimed_update_committed] at hkey
    rw [hredis]
    exact h.claimed j key hkey
  · intro j j' key hkey hkey'
    rw [claimed_update_committed] at hkey hkey'
    exact h.apart j j' key hkey hkey'
  · intro j j' hj hj'
    rw [honly j hj, honly j' hj']
  · intro hall
    have hi := hall i
    rw [Function.update_self] at hi
    cases hi
  · intro j hj
    obtain rfl := honly j hj
    rw [claimed_update_committed]
    exact ⟨hclaim, hacceptable, order', payment', hmove, hstored⟩

/-- A view goes on as it is. -/
lemma Accurate.same (h : s.Accurate γ w) (i : ι) :
    s.Accurate (Function.update γ i (γ i)) w := by
  rwa [Function.update_eq_self]

omit [DecidableEq ι] in
/-- The provider has answered, and keeps the amounts of its intents. -/
lemma Accurate.answered (h : s.Accurate γ w) (paymentIntentId : String) :
    s.Accurate γ (World.handle (.confirmPayment paymentIntentId) w).2 where
  plans := h.plans
  intents := by
    intro id' intent' hfind
    simp only [World.handle, PaymentSimulatorAdapter.confirmPayment] at hfind
    rcases hold : w.intents.find paymentIntentId with _ | intent
    · simp only [hold] at hfind
      exact h.intents id' intent' hfind
    · simp only [hold] at hfind
      have hkey := w.intents.keyed _ _ hold
      rcases eq_or_ne id' paymentIntentId with rfl | hne
      · obtain ⟨intent₀, hfind₀, hamount⟩ := h.intents id' intent hold
        have hattempt := Table.find_put_self w.intents
          (PaymentSimulatorAdapter.attempt intent w.entropy.now.1.timestamp)
        rw [PaymentSimulatorAdapter.attempt_id, hkey, hfind, Option.some.injEq] at hattempt
        exact ⟨intent₀, hfind₀, by
          rw [hattempt, PaymentSimulatorAdapter.attempt_amount, hamount]⟩
      · rw [Table.find_put_of_ne] at hfind
        · exact h.intents id' intent' hfind
        · rwa [PaymentSimulatorAdapter.attempt_id, hkey]
  offer := h.offer
  acceptance := h.acceptance
  used := h.used
  claimed := h.claimed
  apart := h.apart
  one := h.one
  untouched := h.untouched
  moved := h.moved

omit [DecidableEq ι] in
/-- The answer of the provider succeeds only within its limit. -/
lemma Accurate.answer (h : s.Accurate γ w) {paymentIntentId : String} {intent' : PaymentIntent}
    (hanswer : (World.handle (.confirmPayment paymentIntentId) w).1 = .ok intent') :
    ∃ intent, s.world.intents.find paymentIntentId = some intent ∧
      (intent'.status = .succeeded → ¬ PaymentSimulatorAdapter.limit < intent.amount.amount) := by
  simp only [World.handle, PaymentSimulatorAdapter.confirmPayment] at hanswer
  rcases hfind : w.intents.find paymentIntentId with _ | intent
  · simp only [hfind] at hanswer
    cases hanswer
  · simp only [hfind] at hanswer
    obtain rfl := Except.ok.inj hanswer
    obtain ⟨intent₀, hfind₀, hamount⟩ := h.intents _ _ hfind
    refine ⟨intent₀, hfind₀, fun hsucceeded hlimit => ?_⟩
    rw [hamount] at hlimit
    rw [PaymentSimulatorAdapter.attempt_status, if_pos hlimit] at hsucceeded
    cases hsucceeded

omit [DecidableEq ι] in
/-- A key that is neither of the two documents of the order and no idempotency key in use may be
written. -/
lemma Accurate.write (h : s.Accurate γ w) {key : String} (entry : Option Redis.Entry)
    (hoffer : UsableOffer true s.world.redis s.id ∨ offerKey s.id ≠ key)
    (hacceptance : UsableAcceptance true s.world.redis s.id ∨ acceptKey s.id ≠ key)
    (hkeys : entry = none → ∀ paymentId k, paymentConfirmKey paymentId k ≠ key) :
    s.Accurate γ { w with redis := Function.update w.redis key entry } := by
  refine h.redis _ ?_ ?_ fun paymentId k hused => ?_
  · exact hoffer.imp_right fun hne => Function.update_of_ne hne _ _
  · exact hacceptance.imp_right fun hne => Function.update_of_ne hne _ _
  · rcases eq_or_ne (paymentConfirmKey paymentId k) key with heq | hne
    · rw [heq, Function.update_self]
      exact fun hnone => hkeys hnone paymentId k heq
    · rwa [Function.update_of_ne hne]

/-- A transaction that sets its idempotency key claims it, if it is the first. -/
lemma Accurate.setNx (h : s.Accurate γ w) {key : String}
    (hclaim : LostUpdate.claim s.payment (s.requests i) = some key)
    (hidle : (γ i).committed = false) (value : Redis.Value) (ttl : ℕ) :
    (s.contract i).allows (γ i) (.redis (.setNx key value ttl))
        (World.handle (.redis (.setNx key value ttl)) w).1 ∧
      s.Accurate (Function.update γ i ((s.contract i).next (γ i) (.redis (.setNx key value ttl))
        (World.handle (.redis (.setNx key value ttl)) w).1))
        (World.handle (.redis (.setNx key value ttl)) w).2 := by
  obtain ⟨paymentId, k, rfl⟩ := eq_paymentConfirmKey_of_claim hclaim
  by_cases hfree : w.redis (paymentConfirmKey paymentId k) = none
  · have hunset : s.world.redis (paymentConfirmKey paymentId k) = none := by
      by_contra hused
      exact h.used _ _ hused hfree
    have hothers : ∀ j, (γ j).claimed ≠ some (paymentConfirmKey paymentId k) := by
      intro j hj
      exact (h.claimed j _ hj).1 hfree
    have hwrite := h.write (some ⟨value, some ttl⟩)
      (.inr (offerKey_ne_paymentConfirmKey s.id paymentId k))
      (.inr (acceptKey_ne_paymentConfirmKey s.id paymentId k)) (fun hnone => nomatch hnone)
    have hset : Function.update w.redis (paymentConfirmKey paymentId k) (some ⟨value, some ttl⟩)
        (paymentConfirmKey paymentId k) ≠ none := by
      rw [Function.update_self]
      exact Option.some_ne_none _
    simp only [World.handle, Redis.execute_setNx_free hfree, contract, if_true, true_implies]
    exact ⟨hunset, hwrite.claim hclaim hset hidle hothers⟩
  · simp only [World.handle, Redis.execute_setNx_taken hfree, contract, Bool.false_eq_true,
      if_false, false_implies, true_and]
    exact h.same i

omit [DecidableEq ι] in
/-- A transaction that may commit is the first to. -/
lemma Accurate.alone (h : s.Accurate γ w)
    (hconflict : ∀ i j, i ≠ j →
      ¬ Conflict s.world s.order s.payment (s.requests i) (s.requests j))
    {changes : List Change} (hpre : (s.contract i).pre (γ i) (.commit changes)) (j : ι) :
    (γ j).committed = false := by
  obtain ⟨hidle, hclaim, hacceptable, -⟩ := hpre
  by_contra hj
  rw [Bool.not_eq_false] at hj
  have hij : i ≠ j := by
    rintro rfl
    rw [hidle] at hj
    cases hj
  obtain ⟨hclaimed, hacceptable', -⟩ := h.moved j hj
  refine hconflict i j hij ⟨hacceptable, hacceptable', fun key hkey hkey' => hij ?_⟩
  exact h.apart i j key (hclaim.trans hkey) (hclaimed.trans hkey')

/-- **One operation of one transaction** keeps every view accurate. -/
theorem views_accurate (hconflict : ∀ i j, i ≠ j →
    ¬ Conflict s.world s.order s.payment (s.requests i) (s.requests j)) :
    Views World.handle s.contract s.Accurate s.May := by
  intro γ w i o hacc hpre hmay
  have hidle : (γ i).committed = false := hpre.1
  have huncommitted : ReadsRow s.id o → ∀ j, (γ j).committed = false := by
    intro hreads j
    rcases eq_or_ne j i with rfl | hj
    · exact hidle
    · exact hmay hreads j hj
  cases o with
  | redis c =>
    cases c with
    | setNx key value ttl => exact hacc.setNx hpre.2.2 hidle value ttl
    | get key =>
      refine ⟨⟨?_, ?_⟩, hacc.same i⟩
      · rintro rfl
        refine hacc.offer.imp_right fun hsame => ?_
        show (w.redis _).map Redis.Entry.value = _
        rw [hsame]
      · rintro rfl
        refine hacc.acceptance.imp_right fun hsame => ?_
        show (w.redis _).map Redis.Entry.value = _
        rw [hsame]
    | delete key =>
      obtain ⟨-, planId, seatId, rfl⟩ := hpre
      have hwrite := hacc.write none (.inr (seatHoldKey_ne_offerKey planId seatId s.id).symm)
        (.inr (seatHoldKey_ne_acceptKey planId seatId s.id).symm)
        fun _ paymentId k => (seatHoldKey_ne_paymentConfirmKey planId seatId paymentId k).symm
      exact ⟨trivial, hwrite.same i⟩
    | setex key ttl value =>
      obtain ⟨-, hoffer, hacceptance⟩ := hpre
      have hwrite := hacc.write (some ⟨value, some ttl⟩)
        (or_iff_not_imp_right.mpr fun heq => hoffer (not_not.mp heq).symm)
        (or_iff_not_imp_right.mpr fun heq => hacceptance (not_not.mp heq).symm)
        (fun hnone => nomatch hnone)
      exact ⟨trivial, hwrite.same i⟩
  | ordersGet orderId =>
    refine ⟨?_, hacc.same i⟩
    rintro rfl
    exact (hacc.untouched (huncommitted rfl)).1
  | paymentsGetByOrderId orderId =>
    refine ⟨?_, hacc.same i⟩
    rintro rfl
    exact (hacc.untouched (huncommitted rfl)).2
  | plansGet planId =>
    refine ⟨?_, hacc.same i⟩
    show w.plans.find planId = s.world.plans.find planId
    rw [hacc.plans]
  | createPaymentIntent amount metadata => exact hpre.2.elim
  | confirmPayment paymentIntentId =>
    exact ⟨fun intent' hanswer => hacc.answer hanswer, (hacc.answered paymentIntentId).same i⟩
  | uuid4 =>
    have hdrawn : s.Accurate γ (World.handle .uuid4 w).2 := hacc.of_eq rfl rfl rfl rfl rfl
    exact ⟨trivial, hdrawn.same i⟩
  | now =>
    have hdrawn : s.Accurate γ (World.handle .now w).2 := hacc.of_eq rfl rfl rfl rfl rfl
    exact ⟨trivial, hdrawn.same i⟩
  | commit changes =>
    have hothers := hacc.alone hconflict hpre
    obtain ⟨-, hclaim, hacceptable, order', payment', hmove, hfiles⟩ := hpre
    obtain ⟨hredis, hplans, hintents⟩ := World.foldl_apply_frame changes w
    exact ⟨trivial, hacc.commit hothers hclaim hacceptable hmove
      (hfiles w (hacc.untouched hothers)) hredis hplans hintents⟩
  | rollback => exact ⟨trivial, hacc.same i⟩

end Start

end TicketGenius.LostUpdate
