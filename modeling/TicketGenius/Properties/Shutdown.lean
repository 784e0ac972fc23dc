import TicketGenius.Properties.Coherence

/-!
# Shutting down in the middle of a command

A termination signal finds the handler of a command after some of its operations, and
`MessageBus.shutdown` works on the handler's own session.  `flush_outbox` ends in
`session.commit()`, so the rows of the order and the payment are written as the instances are at
that moment.

The rows stay as they were exactly if no operation before the signal has given an attribute of the
loaded order or payment another value, or if the unit of work has collected events before, which
stop the flush (`unharmed_iff`).  The argument follows the instances in the
session (`Consistent`, `contract`): an instance that has left the values it was loaded with does not
come back to them, because each method sets a status that its guard does not admit.
-/

namespace TicketGenius.Shutdown

open Framework Service OrderCommandHandler

/-! ## A signal -/

/-- The world after a signal that comes when the handler has performed `n` operations.  Its unit of
work has a closed session, and may have collected events in earlier transactions. -/
def interrupted (tm : TicketmasterAdapter) (command : OrderCommand) (w : World)
    (domainEvents : List DomainEvent) (n : ℕ) : World :=
  let reached := (command.steps ⟨tm, .new⟩).cut InFlight.handle n (w, .empty)
  reached.2.shutdown domainEvents reached.1

/-- The committed orders and payments are those before the command. -/
def Unharmed (tm : TicketmasterAdapter) (command : OrderCommand) (w : World)
    (domainEvents : List DomainEvent) (n : ℕ) : Prop :=
  (interrupted tm command w domainEvents n).orders = w.orders ∧
    (interrupted tm command w domainEvents n).payments = w.payments

/-- The operation changes a stored attribute of an instance, or adds an instance. -/
def Alters : (service.withSilent Mutation).Op → Prop
  | .inl _ => False
  | .inr (.order before after) => after.toOrderRow ≠ before.toOrderRow
  | .inr (.payment before after) => after.toPaymentRow ≠ before.toPaymentRow
  | .inr (.addOrder _) | .inr (.addPayment _) => True

/-! ## Tracked instances -/

section Track

variable {ι ρ : Type} {row : ι → ρ} {slot : Option (ρ × ι)} {before after : ι}

/-- The tracked instance differs from the row it was loaded with. -/
def Altered (row : ι → ρ) (slot : Option (ρ × ι)) : Prop :=
  ∃ old current, slot = some (old, current) ∧ row current ≠ old

/-- The assignment is to the tracked instance, and does not bring the loaded values back. -/
def Continues (row : ι → ρ) (slot : Option (ρ × ι)) (before after : ι) : Prop :=
  ∀ old current, slot = some (old, current) →
    current = before ∧ (row before ≠ old → row after ≠ old)

lemma track_eq_some {old : ρ} {current : ι}
    (h : track row before after slot = some (old, current)) :
    current = after ∧ (slot = none ∧ old = row before ∨ ∃ earlier, slot = some (old, earlier)) := by
  rcases slot with _ | ⟨old', earlier⟩
  · cases h
    exact ⟨rfl, .inl ⟨rfl, rfl⟩⟩
  · cases h
    exact ⟨rfl, .inr ⟨earlier, rfl⟩⟩

/-- What holds of a tracked instance and its row holds after an assignment, if it does when the
instance is tracked first and the assignment keeps it. -/
lemma tracked_track {P : ρ → ι → Prop} (hcontinues : Continues row slot before after)
    (hslot : ∀ old current, slot = some (old, current) → P old current)
    (hfirst : slot = none → P (row before) after) (hkept : ∀ old, P old before → P old after) :
    ∀ old current, track row before after slot = some (old, current) → P old current := by
  intro old current htrack
  obtain ⟨rfl, ⟨hnone, rfl⟩ | ⟨earlier, hsome⟩⟩ := track_eq_some htrack
  · exact hfirst hnone
  · obtain ⟨rfl, -⟩ := hcontinues old earlier hsome
    exact hkept old (hslot old earlier hsome)

lemma altered_track (h : Continues row slot before after) :
    Altered row (track row before after slot) ↔ Altered row slot ∨ row after ≠ row before := by
  rcases slot with _ | ⟨old, current⟩
  · constructor
    · rintro ⟨_, _, ⟨⟩, hne⟩
      exact .inr hne
    · rintro (⟨_, _, ⟨⟩, -⟩ | hne)
      exact ⟨_, _, rfl, hne⟩
  · obtain ⟨rfl, hkept⟩ := h old current rfl
    constructor
    · rintro ⟨_, _, ⟨⟩, hne⟩
      by_cases hcurrent : row current = old
      · refine .inr ?_
        rw [hcurrent]
        exact hne
      · exact .inl ⟨_, _, rfl, hcurrent⟩
    · rintro (⟨_, _, ⟨⟩, hne⟩ | hne)
      · exact ⟨_, _, rfl, hkept hne⟩
      · by_cases hcurrent : row current = old
        · refine ⟨_, _, rfl, ?_⟩
          rw [← hcurrent]
          exact hne
        · exact ⟨_, _, rfl, hkept hcurrent⟩

/-- A column in which the instance differs from the loaded row. -/
lemma continues_of_ne {γ : Type} (column : ρ → γ)
    (hcurrent : ∀ old current, slot = some (old, current) → current = before)
    (hne : ∀ old current, slot = some (old, current) → column (row after) ≠ column old) :
    Continues row slot before after := by
  intro old current hslot
  refine ⟨hcurrent old current hslot, fun _ hback => ?_⟩
  exact hne old current hslot (congrArg column hback)

end Track

/-! ## The session of a handler -/

/-- The tracked instances were loaded from the committed rows, and nothing has been added. -/
structure Consistent (w : World) (s : InFlight) : Prop where
  order : ∀ old current, s.order = some (old, current) → w.orders.find old.orderId = some old ∧
    current.orderId = old.orderId ∧ current.domainEvents = none
  payment : ∀ old current, s.payment = some (old, current) →
    w.payments.find old.orderId = some old ∧ current.paymentId = old.paymentId ∧
      current.orderId = old.orderId
  newOrders : s.newOrders = []
  newPayments : s.newPayments = []

/-- A tracked instance differs from the row it was loaded with. -/
def AnyAltered (s : InFlight) : Prop :=
  Altered Order.toOrderRow s.order ∨ Altered Payment.toPaymentRow s.payment

/-- No instance of a handler has an event. -/
lemma pendingEvents_eq {w : World} {s : InFlight} (h : Consistent w s) : s.pendingEvents = [] := by
  unfold InFlight.pendingEvents
  rw [h.newOrders]
  rcases horder : s.order with _ | ⟨old, current⟩
  · rfl
  · simp [(h.order old current horder).2.2]

/-- The row of a tracked instance is put over the one it was loaded with. -/
def written {κ ρ ι : Type} {key : ρ → κ} [DecidableEq κ] (row : ι → ρ) (t : Table κ ρ key) :
    Option (ρ × ι) → Table κ ρ key
  | none => t
  | some (_, current) => t.put (row current)

/-- The rows a shutdown leaves. -/
lemma shutdown_eq {w w' : World} {s : InFlight} (h : Consistent w s)
    (horders : w'.orders = w.orders) (hpayments : w'.payments = w.payments) :
    (s.shutdown [] w').orders = written Order.toOrderRow w.orders s.order ∧
      (s.shutdown [] w').payments = written Payment.toPaymentRow w.payments s.payment := by
  have hpayment : ∀ w'' : World, w''.payments = w.payments →
      ((s.payment.toList.map fun changed =>
        Change.updatePayment changed.1 changed.2.toPaymentRow).foldl World.apply w'').orders =
          w''.orders ∧
      ((s.payment.toList.map fun changed =>
        Change.updatePayment changed.1 changed.2.toPaymentRow).foldl World.apply w'').payments =
          written Payment.toPaymentRow w.payments s.payment := by
    intro w'' hw''
    rcases hslot : s.payment with _ | ⟨old, current⟩
    · exact ⟨rfl, hw''⟩
    · obtain ⟨hfind, hid, hof⟩ := h.payment old current hslot
      rw [← hw''] at hfind
      simp only [Option.toList_some, List.map_cons, List.map_nil, List.foldl_cons, List.foldl_nil,
        World.apply_updatePayment hfind hid hof, hw'']
      exact ⟨trivial, rfl⟩
  rw [InFlight.shutdown, InFlight.flushOutbox, List.nil_append, if_pos (pendingEvents_eq h),
    InFlight.changes, h.newOrders, h.newPayments]
  simp only [List.map_nil, List.nil_append, List.foldl_append]
  rcases hslot : s.order with _ | ⟨old, current⟩
  · obtain ⟨hfirst, hsecond⟩ := hpayment w' hpayments
    exact ⟨hfirst.trans horders, hsecond⟩
  · obtain ⟨hfind, hid, -⟩ := h.order old current hslot
    rw [← horders] at hfind
    simp only [Option.toList_some, List.map_cons, List.map_nil, List.foldl_cons, List.foldl_nil,
      World.apply_updateOrder hfind hid]
    obtain ⟨hfirst, hsecond⟩ :=
      hpayment { w' with orders := w'.orders.put current.toOrderRow } hpayments
    exact ⟨hfirst.trans (by rw [← horders]; rfl), hsecond⟩

/-- Putting the row of a tracked instance makes a difference exactly if it is altered. -/
lemma written_eq_iff {κ ρ ι : Type} {key : ρ → κ} [DecidableEq κ] {row : ι → ρ}
    {t : Table κ ρ key} {slot : Option (ρ × ι)}
    (h : ∀ old current, slot = some (old, current) → t.find (key old) = some old ∧
      key (row current) = key old) :
    written row t slot = t ↔ ¬ Altered row slot := by
  rcases slot with _ | ⟨old, current⟩
  · exact iff_of_true rfl (by rintro ⟨_, _, ⟨⟩, -⟩)
  · obtain ⟨hfind, hkey⟩ := h old current rfl
    rw [written, Table.put_eq_self_iff, hkey, hfind, Option.some.injEq]
    constructor
    · rintro hsame ⟨_, _, ⟨⟩, hne⟩
      exact hne hsame.symm
    · intro hnot
      by_contra hne
      exact hnot ⟨old, current, rfl, fun hsame => hne hsame.symm⟩

/-- **What a shutdown writes.**  The rows stay exactly if no tracked instance is altered. -/
lemma shutdown_rows {w w' : World} {s : InFlight} (h : Consistent w s)
    (horders : w'.orders = w.orders) (hpayments : w'.payments = w.payments) :
    ((s.shutdown [] w').orders = w.orders ∧ (s.shutdown [] w').payments = w.payments) ↔
      ¬ AnyAltered s := by
  obtain ⟨hfirst, hsecond⟩ := shutdown_eq h horders hpayments
  rw [hfirst, hsecond, AnyAltered, not_or, written_eq_iff, written_eq_iff]
  · intro old current hslot
    obtain ⟨hfind, -, hof⟩ := h.payment old current hslot
    exact ⟨hfind, hof⟩
  · intro old current hslot
    obtain ⟨hfind, hid, -⟩ := h.order old current hslot
    exact ⟨hfind, hid⟩

/-! ## The contract -/

/-- Operations that commit nothing. -/
def Op.NoCommit : Op → Prop
  | .commit _ => False
  | _ => True

/-- What the bodies keep to, given the committed rows. -/
def contract (w : World) : Contract (service.withSilent Mutation) InFlight where
  pre s
    | .inl o => Op.NoCommit o
    | .inr (.order before after) => Continues Order.toOrderRow s.order before after ∧
        (s.order = none → w.orders.find before.orderId = some before.toOrderRow) ∧
        after.orderId = before.orderId ∧ after.domainEvents = none
    | .inr (.payment before after) => Continues Payment.toPaymentRow s.payment before after ∧
        (s.payment = none → w.payments.find before.orderId = some before.toPaymentRow) ∧
        after.paymentId = before.paymentId ∧ after.orderId = before.orderId
    | .inr (.addOrder _) | .inr (.addPayment _) => False
  allows _
    | .inl (.ordersGet orderId), row => row = w.orders.find orderId
    | .inl (.paymentsGetByOrderId orderId), row => row = w.payments.find orderId
    | _, _ => True
  next s
    | .inl _, _ => s
    | .inr m, _ => s.record m

/-- The records are the committed ones, and the session is consistent with them. -/
structure Reached (w : World) (s : World × InFlight) : Prop where
  orders : s.1.orders = w.orders
  payments : s.1.payments = w.payments
  consistent : Consistent w s.2

lemma reached_start (w : World) : Reached w (w, .empty) where
  orders := rfl
  payments := rfl
  consistent := ⟨fun _ _ h => (nomatch h), fun _ _ h => (nomatch h), rfl, rfl⟩

lemma handle_rows {o : Op} (ho : Op.NoCommit o) (w : World) :
    (World.handle o w).2.orders = w.orders ∧ (World.handle o w).2.payments = w.payments := by
  cases o with
  | commit changes => exact ho.elim
  | _ => exact ⟨rfl, rfl⟩

section Sound

variable {w : World} {s : World × InFlight}

/-- An assignment to the order. -/
lemma Consistent.record_order {t : InFlight} {before after : Order} (h : Consistent w t)
    (hpre : (contract w).pre t (.inr (.order before after))) :
    Consistent w (t.record (.order before after)) := by
  obtain ⟨hcontinues, hloaded, hid, hevents⟩ := hpre
  refine ⟨?_, h.payment, h.newOrders, h.newPayments⟩
  apply tracked_track hcontinues h.order
  · exact fun hnone => ⟨hloaded hnone, hid, hevents⟩
  · rintro old ⟨hfind, hbefore, -⟩
    exact ⟨hfind, hid.trans hbefore, hevents⟩

/-- An assignment to the payment. -/
lemma Consistent.record_payment {t : InFlight} {before after : Payment} (h : Consistent w t)
    (hpre : (contract w).pre t (.inr (.payment before after))) :
    Consistent w (t.record (.payment before after)) := by
  obtain ⟨hcontinues, hloaded, hid, hof⟩ := hpre
  refine ⟨h.order, ?_, h.newOrders, h.newPayments⟩
  apply tracked_track hcontinues h.payment
  · exact fun hnone => ⟨hloaded hnone, hid, hof⟩
  · rintro old ⟨hfind, hbefore, hbefore'⟩
    exact ⟨hfind, hid.trans hbefore, hof.trans hbefore'⟩

/-- **The contract is sound**: what it allows gets the replies it foresees, and moves the session as
it says. -/
lemma reached_sound : Prog.SoundOn InFlight.handle (contract w) Prod.snd (Reached w) := by
  intro o s h ho
  cases o with
  | inl o =>
    obtain ⟨horders, hpayments⟩ := handle_rows ho s.1
    refine ⟨?_, rfl, horders.trans h.orders, hpayments.trans h.payments, h.consistent⟩
    cases o with
    | ordersGet orderId => exact congrArg (fun t => t.find orderId) h.orders
    | paymentsGetByOrderId orderId => exact congrArg (fun t => t.find orderId) h.payments
    | _ => trivial
  | inr m =>
    cases m with
    | order before after =>
      exact ⟨trivial, rfl, h.orders, h.payments, h.consistent.record_order ho⟩
    | payment before after =>
      exact ⟨trivial, rfl, h.orders, h.payments, h.consistent.record_payment ho⟩
    | addOrder order => exact ho.elim
    | addPayment payment => exact ho.elim

/-- An instance is altered after an operation if one was before or the operation alters one. -/
lemma altered_handle (o : (service.withSilent Mutation).Op) (s : World × InFlight)
    (ho : (contract w).pre s.2 o) :
    AnyAltered (InFlight.handle o s).2.2 ↔ AnyAltered s.2 ∨ Alters o := by
  cases o with
  | inl o => exact (or_iff_left id).symm
  | inr m =>
    cases m with
    | order before after => exact (or_congr_left (altered_track ho.1)).trans or_right_comm
    | payment before after => exact (or_congr_right (altered_track ho.1)).trans or_assoc.symm
    | addOrder order => exact ho.elim
    | addPayment payment => exact ho.elim

end Sound

/-! ## The bodies keep to the contract -/

/-- What is left of a body keeps to the contract. -/
def Safe {α : Type} (w : World) (p : Steps α) (s : InFlight) : Prop :=
  p.wp (contract w) (fun _ _ => True) s

section Safe

variable {α β : Type} {w : World} {s : InFlight}

lemma safe_quiet {p : Service β} (hp : p.Uses Op.NoCommit) {f : β → Steps α}
    (hf : ∀ b, Safe w (f b) s) : Safe w (p.lift >>= f) s := by
  refine Prog.wp_lift_bind (hp.wp (fun _ ho => ho) (fun _ _ _ => rfl) fun r => ?_)
  cases r with
  | ok b => exact hf b
  | error e => trivial

lemma safe_neverReturns {p : Service β} (hp : p.Uses Op.NoCommit) (hnever : p.NeverReturns)
    (f : β → Steps α) : Safe w (p.lift >>= f) s :=
  Prog.wp_lift_bind (hp.wp_yields hnever (fun _ ho => ho) (fun _ _ _ => rfl)
    (fun _ hb => hb.elim) fun _ => trivial)

lemma safe_getOrder {self : OrderCommandHandler} {orderId : UUID} {f : OrderRow → Steps α}
    (hf : ∀ row, w.orders.find orderId = some row → Safe w (f row) s) :
    Safe w ((self.getOrder orderId).lift >>= f) s := by
  refine Prog.wp_lift_bind ⟨trivial, fun reply hreply => ?_⟩
  cases reply with
  | none => trivial
  | some row =>
    refine Prog.wp_ofExcept (fun loaded hload => ?_) fun _ => trivial
    obtain ⟨-, rfl⟩ := Session.load_eq_ok hload
    exact hf loaded hreply.symm

lemma safe_getPayment {orderId : UUID} {f : PaymentRow → Steps α}
    (hf : ∀ row, w.payments.find orderId = some row → Safe w (f row) s) :
    Safe w ((getPayment orderId).lift >>= f) s := by
  refine Prog.wp_lift_bind ⟨trivial, fun reply hreply => ?_⟩
  cases reply with
  | none => trivial
  | some row => exact hf row hreply.symm

/-! ### Methods -/

/-- The order was loaded, has no event list, and nothing has been assigned to it. -/
structure Untouched (w : World) (s : InFlight) (order : Order) : Prop where
  slot : s.order = none
  stored : w.orders.find order.orderId = some order.toOrderRow
  events : order.domainEvents = none

lemma safe_moveOrder {order : Order} (h : Untouched w s order) {status : OrderStatus}
    (hne : status ≠ order.status) {f : Order → Steps α}
    (hf : ∀ moved s', moved.domainEvents = none → Safe w (f moved) s') :
    Safe w (moveOrder status order >>= f) s := by
  rcases s with ⟨slot, payment, newOrders, newPayments⟩
  obtain ⟨rfl, hstored, hevents⟩ := h
  have hfirst : Continues Order.toOrderRow none order
      { order with status := status, statusLoaded := false } := fun _ _ hslot => nomatch hslot
  refine ⟨⟨hfirst, fun _ => hstored, rfl, hevents⟩, fun _ _ => ⟨⟨?_, ?_, rfl, hevents⟩,
    fun _ _ => hf _ _ hevents⟩⟩
  · apply continues_of_ne OrderRow.status
    · rintro _ _ ⟨⟩
      rfl
    · rintro _ _ ⟨⟩
      exact hne
  · intro hslot
    cases hslot

/-- The payment was loaded, and nothing has been assigned to its status. -/
structure Pristine (w : World) (s : InFlight) (payment : Payment) : Prop where
  current : ∀ old current, s.payment = some (old, current) →
    current = payment ∧ old.status = payment.status
  stored : s.payment = none → w.payments.find payment.orderId = some payment.toPaymentRow

lemma safe_movePayment {payment : Payment} (h : Pristine w s payment) {status : PaymentStatus}
    (hne : status ≠ payment.status) {f : Payment → Steps α}
    (hf : ∀ moved s', s'.order = s.order → Safe w (f moved) s') :
    Safe w (movePayment status payment >>= f) s := by
  refine ⟨⟨?_, h.stored, rfl, rfl⟩, fun _ _ => ⟨⟨?_, ?_, rfl, rfl⟩, fun _ _ => hf _ _ rfl⟩⟩
  · apply continues_of_ne PaymentRow.status
    · exact fun old current hslot => (h.current old current hslot).1
    · intro old current hslot
      rw [(h.current old current hslot).2]
      exact hne
  · apply continues_of_ne PaymentRow.status
    · intro old current hslot
      exact (track_eq_some hslot).1
    · intro old current hslot
      obtain ⟨-, ⟨-, rfl⟩ | ⟨earlier, hsome⟩⟩ := track_eq_some hslot
      · exact hne
      · rw [(h.current old earlier hsome).2]
        exact hne
  · intro hslot
    cases hslot

/-- Confirming a payment and refunding an order are a guard and a move. -/
lemma safe_guardedMove {action : String} {allowed : List OrderStatus} {order : Order}
    (h : Untouched w s order) {status : OrderStatus} (hnot : status ∉ allowed)
    {f : Order → Steps α} (hf : ∀ moved s', moved.domainEvents = none → Safe w (f moved) s') :
    Safe w (((callOrder (Order.requireStatus action allowed) order).lift >>= moveOrder status) >>=
      f) s := by
  rw [bind_assoc]
  refine wp_orderGuard (fun hstatus => ?_) fun _ => trivial
  exact safe_moveOrder h (ne_of_mem_of_not_mem hstatus hnot).symm hf

/-- A cancellation raises after its two assignments, because there is no event list. -/
lemma safe_cancelOrder {order : Order} (h : Untouched w s order) (reason : String)
    (stamp : EventStamp) (f : Order → Steps α) :
    Safe w (cancelOrder reason stamp order >>= f) s := by
  rw [cancelOrder, bind_assoc]
  refine wp_orderGuard (fun hstatus => ?_) fun _ => trivial
  rw [bind_assoc]
  refine safe_moveOrder h (ne_of_mem_of_not_mem hstatus (by decide)).symm fun moved s' hevents => ?_
  rw [callOrder, Order.run_addDomainEvent_none moved hevents]
  trivial

lemma safe_failPayment {payment : Payment} (h : Pristine w s payment) {f : Payment → Steps α}
    (hf : ∀ moved s', s'.order = s.order → Safe w (f moved) s') :
    Safe w (failPayment payment >>= f) s := by
  rw [failPayment, bind_assoc]
  refine wp_paymentGuard (fun hstatus => ?_) fun _ => trivial
  exact safe_movePayment h (ne_of_mem_of_not_mem hstatus (by decide)).symm hf

lemma safe_refundPayment {payment : Payment} (h : Pristine w s payment) (amount : Option Money)
    {f : Payment → Steps α} (hf : ∀ moved s', s'.order = s.order → Safe w (f moved) s') :
    Safe w (refundPayment amount payment >>= f) s := by
  rw [refundPayment, bind_assoc]
  refine wp_paymentGuard (fun hstatus => safe_movePayment h ?_ hf) fun _ => trivial
  refine (ne_of_mem_of_not_mem hstatus ?_).symm
  split <;> decide

/-- The reference of the provider is assigned before the status. -/
lemma safe_capturePayment {payment : Payment} (hslot : s.payment = none)
    (hstored : w.payments.find payment.orderId = some payment.toPaymentRow) (providerRef : String)
    {f : Payment → Steps α} (hf : ∀ moved s', s'.order = s.order → Safe w (f moved) s') :
    Safe w (capturePayment providerRef payment >>= f) s := by
  rw [capturePayment, bind_assoc]
  refine wp_paymentGuard (fun hstatus => ?_) fun _ => trivial
  have hfirst : Continues Payment.toPaymentRow s.payment payment
      { payment with providerRef := some providerRef } := by
    intro old current hsome
    rw [hslot] at hsome
    cases hsome
  refine ⟨⟨hfirst, fun _ => hstored, rfl, rfl⟩, fun _ _ => ?_⟩
  have hpristine : Pristine w (s.record (.payment payment
      { payment with providerRef := some providerRef }))
      { payment with providerRef := some providerRef } := by
    refine ⟨fun old current hsome => ?_, fun hnone => by cases hnone⟩
    obtain ⟨rfl, ⟨-, rfl⟩ | ⟨earlier, hsome⟩⟩ := track_eq_some hsome
    · exact ⟨rfl, rfl⟩
    · rw [hslot] at hsome
      cases hsome
  exact safe_movePayment hpristine (ne_of_mem_of_not_mem hstatus (by decide)).symm hf

end Safe

/-! ### Bodies -/

lemma Op.Aside.noCommit {o : Op} (ho : o.Aside) : Op.NoCommit o := by
  cases o with
  | commit changes => exact ho.elim
  | _ => trivial

lemma noCommit_getPlan (planId : UUID) : (getPlan planId).Uses Op.NoCommit := by
  refine Prog.Uses.bind (p := plansGet _) ⟨trivial, fun _ => trivial⟩ fun plan => ?_
  cases plan <;> trivial

/-- Fulfilling an order without an event list raises at the end. -/
lemma fulfill_neverReturns (tm : TicketmasterAdapter) {order : Order} (plan : Plan)
    (hevents : order.domainEvents = none) :
    (FulfillOrderService.fulfill tm order plan).NeverReturns := by
  refine yields_fulfill tm order plan fun tickets stamp => ?_
  refine Prog.NeverReturns.bind_left ?_ _
  rw [callOrder, Order.run_addDomainEvent_none order hevents]
  trivial

/-- What is done to build a purchase commits nothing. -/
lemma noCommit_buildPurchase (self : OrderCommandHandler) (cmd : CreateOrderCommand) :
    (self.buildPurchase cmd).Uses Op.NoCommit := by
  refine (Purchase.uses_buildPurchase self cmd).mono fun o ho => ?_
  cases o with
  | commit changes => exact ho.elim
  | _ => trivial

section Bodies

variable {w : World} (tm : TicketmasterAdapter)

/-- An order that a new session loads. -/
lemma untouched_loaded {orderId : UUID} {row : OrderRow} (hrow : w.orders.find orderId = some row) :
    Untouched w .empty (Session.new.instanceOfOrder row) where
  slot := rfl
  stored := by
    show w.orders.find row.orderId = some row
    rw [w.orders.keyed _ _ hrow, hrow]
  events := rfl

lemma pristine_loaded {orderId : UUID} {row : PaymentRow}
    (hrow : w.payments.find orderId = some row) :
    Pristine w .empty (Session.new.instanceOfPayment row) where
  current := fun _ _ h => nomatch h
  stored := fun _ => by
    show w.payments.find row.orderId = some row
    rw [w.payments.keyed _ _ hrow, hrow]

lemma safe_createSteps (cmd : CreateOrderCommand) :
    Safe w (createSteps ⟨tm, .new⟩ cmd) .empty :=
  safe_neverReturns (noCommit_buildPurchase _ cmd) (Purchase.buildPurchase_neverReturns _ cmd) _

lemma safe_cancelSteps (cmd : CancelOrderCommand) :
    Safe w (cancelSteps ⟨tm, .new⟩ cmd) .empty := by
  refine safe_getOrder fun row hrow => ?_
  refine safe_quiet ((aside_releaseSeatHolds ..).mono fun _ ho => Op.Aside.noCommit ho) fun _ => ?_
  refine safe_quiet (aside_eventStamp.mono fun _ ho => Op.Aside.noCommit ho) fun stamp => ?_
  exact safe_cancelOrder (untouched_loaded hrow) cmd.reason stamp _

lemma safe_refundSteps (cmd : RefundOrderCommand) :
    Safe w (refundSteps ⟨tm, .new⟩ cmd) .empty := by
  refine safe_getOrder fun row hrow => safe_getPayment fun paymentRow hpaymentRow => ?_
  refine safe_refundPayment (pristine_loaded hpaymentRow) cmd.amount fun repaid s hs => ?_
  have huntouched := untouched_loaded hrow
  exact safe_guardedMove ⟨hs, huntouched.stored, huntouched.events⟩ (by decide)
    fun _ _ _ => trivial

lemma safe_declineSteps {payment : Payment} (h : Pristine w .empty payment) {α : Type}
    (order : Order) (intent : PaymentIntent) :
    Safe w (declineSteps ⟨tm, .new⟩ order payment intent : Steps α) .empty := by
  refine safe_failPayment h fun _ _ _ => ?_
  exact safe_quiet ((aside_releaseSeatHolds ..).mono fun _ ho => Op.Aside.noCommit ho)
    fun _ => trivial

lemma safe_completeSteps {order : Order} {payment : Payment} (h : Untouched w .empty order)
    (hstored : w.payments.find payment.orderId = some payment.toPaymentRow)
    (intent : PaymentIntent) :
    Safe w (completeSteps ⟨tm, .new⟩ order payment intent) .empty := by
  refine safe_capturePayment rfl hstored _ fun paid s hs => ?_
  refine safe_guardedMove ⟨hs, h.stored, h.events⟩ (by decide) fun confirmed s' hevents => ?_
  refine safe_quiet (noCommit_getPlan _) fun plan => ?_
  rw [fulfillSteps, bind_assoc]
  exact safe_neverReturns ((aside_fulfill ..).mono fun _ ho => Op.Aside.noCommit ho)
    (fulfill_neverReturns tm plan hevents) _

lemma safe_confirmSteps (cmd : ConfirmPaymentCommand) :
    Safe w (confirmSteps ⟨tm, .new⟩ cmd) .empty := by
  refine safe_getOrder fun row hrow => safe_getPayment fun paymentRow hpaymentRow => ?_
  refine safe_quiet ((aside_checkPaymentIdempotency ..).mono fun _ ho => Op.Aside.noCommit ho)
    fun first => ?_
  cases first with
  | false => trivial
  | true =>
    refine safe_quiet (Prog.Uses.bind (p := confirmPayment _) ⟨trivial, fun _ => trivial⟩
      fun reply => Prog.uses_ofExcept reply) fun intent => ?_
    have hpristine := pristine_loaded hpaymentRow
    unfold settleSteps
    split
    · exact safe_declineSteps tm hpristine _ intent
    · exact safe_completeSteps tm (untouched_loaded hrow) (hpristine.stored rfl) intent

end Bodies

/-- **Every body keeps to the contract.** -/
theorem safe_steps (tm : TicketmasterAdapter) (command : OrderCommand) (w : World) :
    Safe w (command.steps ⟨tm, .new⟩) .empty := by
  cases command with
  | create cmd => exact safe_createSteps tm cmd
  | confirm cmd => exact safe_confirmSteps tm cmd
  | cancel cmd => exact safe_cancelSteps tm cmd
  | refund cmd => exact safe_refundSteps tm cmd

/-! ## The result -/

/-- **The state a signal finds**: nothing has been committed, and an instance is altered if one of
the operations before altered one. -/
lemma reached_cut (tm : TicketmasterAdapter) (command : OrderCommand) (w : World) (n : ℕ) :
    Reached w ((command.steps ⟨tm, .new⟩).cut InFlight.handle n (w, .empty)) ∧
      (AnyAltered ((command.steps ⟨tm, .new⟩).cut InFlight.handle n (w, .empty)).2 ↔
        ∃ e ∈ ((command.steps ⟨tm, .new⟩).trace InFlight.handle (w, .empty)).take n,
          Alters e.1) := by
  have hhandle : ∀ o (s : World × InFlight), Reached w s → (contract w).pre s.2 o →
      (AnyAltered (InFlight.handle o s).2.2 ↔ AnyAltered s.2 ∨ Alters o) :=
    fun o s _ ho => altered_handle o s ho
  have hsafe : (command.steps ⟨tm, .new⟩).wp (contract w) (fun _ _ => True)
      (Prod.snd (w, InFlight.empty)) := safe_steps tm command w
  have hstart : ¬ AnyAltered InFlight.empty := by
    rintro (⟨_, _, ⟨⟩, -⟩ | ⟨_, _, ⟨⟩, -⟩)
  obtain ⟨hreached, hiff⟩ := Prog.cut_iff reached_sound hhandle n hsafe (reached_start w)
  rw [or_iff_right hstart] at hiff
  exact ⟨hreached, hiff⟩

/-- **A shutdown in the middle of a command** leaves the orders and payments as they were exactly if
the unit of work has events from before, which nothing can write, or no operation before the signal
has altered an instance. -/
theorem unharmed_iff (tm : TicketmasterAdapter) (command : OrderCommand) (w : World)
    (domainEvents : List DomainEvent) (n : ℕ) :
    Unharmed tm command w domainEvents n ↔ domainEvents ≠ [] ∨
      ∀ e ∈ ((command.steps ⟨tm, .new⟩).trace InFlight.handle (w, .empty)).take n,
        ¬ Alters e.1 := by
  obtain ⟨hreached, hiff⟩ := reached_cut tm command w n
  rw [Unharmed, interrupted]
  cases domainEvents with
  | nil =>
    rw [shutdown_rows hreached.consistent hreached.orders hreached.payments, hiff, not_exists,
      or_iff_right (fun hne => hne rfl)]
    exact forall_congr' fun e => not_and
  | cons event earlier =>
    have hnothing : ∀ s w', InFlight.shutdown (event :: earlier) s w' = w' := by
      intro s w'
      rw [InFlight.shutdown, InFlight.flushOutbox, List.cons_append,
        if_neg (List.cons_ne_nil _ _)]
    rw [hnothing]
    exact iff_of_true ⟨hreached.orders, hreached.payments⟩ (.inl (List.cons_ne_nil _ _))

/-! ### Half a refund -/

/-- The refund of a paid order, interrupted between `payment.refund()` and `order.refund()`. -/
def halfRefunded : World :=
  interrupted ⟨true⟩ (.refund ⟨.nil, none⟩) Coherence.paidFor [] 4

/-- **A half-done refund is committed**: the payment is refunded, and its order still paid. -/
theorem half_done_refund_committed :
    ¬ ∀ (tm : TicketmasterAdapter) (command : OrderCommand) (w : World)
      (domainEvents : List DomainEvent) (n : ℕ), Unharmed tm command w domainEvents n := by
  intro h
  have hkept : halfRefunded.payments = Coherence.paidFor.payments := (h _ _ _ [] 4).2
  have hrefunded : (halfRefunded.payments.find .nil).map PaymentRow.status = some .refunded := by
    decide +kernel
  rw [hkept] at hrefunded
  revert hrefunded
  decide

/-- The order of the half-done refund is the paid one. -/
example : halfRefunded.orders.find .nil = Coherence.paidFor.orders.find .nil := rfl

end TicketGenius.Shutdown
