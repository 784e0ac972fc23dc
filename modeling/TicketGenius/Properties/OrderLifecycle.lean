import TicketGenius.Domain.Order
import TicketGenius.Framework.Run

/-!
# The life of an order

An order built by `Order.create` receives any sequence of method calls, in any order and with any
arguments, and some of the calls raise.  `Lifecycle` says what holds of the order at every moment:
its version counts the successful calls, its seat list and its payment link go with its status, and
its event list tells exactly which of the two closing transitions, if any, it has made.

The run keeps beside the order the calls that succeeded.  The order itself does not remember them;
they are what "fulfill succeeded" refers to.

`Lifecycle` is not inductive as it stands: that `fulfill` adds the first `OrderConfirmed` rests on
no `fulfill` having succeeded while the order is `PAID`.  `Invariant` says the same with the event
list tied to the status by `Closing`, and is preserved call by call.

## Main results

* `Call.run_cases`: what one call can do.
* `Invariant.step`: one call preserves the invariant, whether it succeeds or raises.
* `order_lifecycle`: every run of calls.
-/

namespace TicketGenius.OrderLifecycle

open Framework

/-! ## Calls -/

/-- A call of a method of `Order`.  The stamp is what the event of the call draws. -/
inductive Call
  | reserveSeats (seats : List Seat)
  | initiatePayment (paymentId : UUID)
  | confirmPayment
  | fulfill (tickets : Json) (stamp : EventStamp)
  | cancel (reason : String) (stamp : EventStamp)
  | refund

namespace Call

/-- The method called. -/
def method : Call → OrderM Unit
  | .reserveSeats seats => Order.reserveSeats seats
  | .initiatePayment paymentId => Order.initiatePayment paymentId
  | .confirmPayment => Order.confirmPayment
  | .fulfill tickets stamp => Order.fulfill tickets stamp
  | .cancel reason stamp => Order.cancel reason stamp
  | .refund => Order.refund

/-- The call is a call of `fulfill`. -/
def isFulfill : Call → Bool
  | .fulfill .. => true
  | _ => false

/-- The call is a call of one of the two methods that add an event. -/
def Emits : Call → Prop
  | .fulfill .. => True
  | .cancel .. => True
  | _ => False

/-- The guard of the method. -/
def Accepted (o : Order) : Call → Prop
  | .reserveSeats seats => o.status = .pending ∧ (seats.length : ℤ) = o.quantity.value
  | .initiatePayment _ => o.status = .seatsReserved
  | .confirmPayment => o.status = .paymentInitiated
  | .fulfill .. => o.status = .paid
  | .cancel .. => o.status = .pending ∨ o.status = .seatsReserved ∨ o.status = .paymentInitiated
  | .refund => o.status = .paid ∨ o.status = .fulfilled

/-- The order after a successful call. -/
def effect (o : Order) : Call → Order
  | .reserveSeats seats => { o with
      seats := seats, status := .seatsReserved, statusLoaded := false, version := o.version + 1 }
  | .initiatePayment paymentId => { o with
      paymentId := some paymentId, status := .paymentInitiated, statusLoaded := false
      version := o.version + 1 }
  | .confirmPayment => { o with
      status := .paid, statusLoaded := false, version := o.version + 1 }
  | .fulfill tickets stamp => { o with
      status := .fulfilled, statusLoaded := false, version := o.version + 1
      domainEvents := o.domainEvents.map (· ++ [.orderConfirmed stamp o.orderId tickets]) }
  | .cancel reason stamp => { o with
      status := .cancelled, statusLoaded := false, version := o.version + 1
      domainEvents := o.domainEvents.map (· ++ [.orderCancelled stamp o.orderId reason]) }
  | .refund => { o with
      status := .refunded, statusLoaded := false, version := o.version + 1 }

/-- An accepted call that emits nothing does the same with and without an event list. -/
lemma run_quiet {o : Order} {c : Call} (hc : Accepted o c) (hquiet : ¬ c.Emits) :
    c.method.run o = .ok () (effect o c) := by
  cases c with
  | reserveSeats seats => rw [method, Order.run_reserveSeats, if_pos hc.1, if_pos hc.2]; rfl
  | initiatePayment paymentId => rw [method, Order.run_initiatePayment]; exact if_pos hc
  | confirmPayment => rw [method, Order.run_confirmPayment]; exact if_pos hc
  | fulfill tickets stamp => exact absurd trivial hquiet
  | cancel reason stamp => exact absurd trivial hquiet
  | refund => rw [method, Order.run_refund]; exact if_pos hc

/-- A call whose guard is not met raises `ValueError` and leaves the instance as it was. -/
lemma run_refused (c : Call) {o : Order} (hc : ¬ Accepted o c) :
    ∃ message, c.method.run o = .error (.valueError message) o := by
  cases c with
  | reserveSeats seats =>
    rw [method, Order.run_reserveSeats]
    by_cases hstatus : o.status = .pending
    · have hlen : ¬ (seats.length : ℤ) = o.quantity.value := fun hlen => hc ⟨hstatus, hlen⟩
      exact ⟨_, by rw [if_pos hstatus, if_neg hlen]⟩
    · exact ⟨_, if_neg hstatus⟩
  | initiatePayment paymentId =>
    rw [method, Order.run_initiatePayment]
    exact ⟨_, if_neg hc⟩
  | confirmPayment =>
    rw [method, Order.run_confirmPayment]
    exact ⟨_, if_neg hc⟩
  | fulfill tickets stamp =>
    have hstatus : ¬ o.status = .paid := hc
    exact ⟨_, by simp [method, Order.fulfill, Order.run_requireStatus, hstatus, Order.refusal]; rfl⟩
  | cancel reason stamp =>
    have hstatus : ¬ (o.status = .pending ∨ o.status = .seatsReserved ∨
      o.status = .paymentInitiated) := hc
    exact ⟨_, by simp [method, Order.cancel, Order.run_requireStatus, hstatus, Order.refusal]; rfl⟩
  | refund =>
    rw [method, Order.run_refund]
    exact ⟨_, if_neg hc⟩

/-- **What one call can do** to an order that carries its event list: succeed with its whole
effect when its guard is met, and otherwise raise without touching the order. -/
theorem run_cases (c : Call) {o : Order} (hevents : o.domainEvents ≠ none) :
    (Accepted o c ∧ c.method.run o = .ok () (effect o c)) ∨
      (¬ Accepted o c ∧ ∃ e, c.method.run o = .error e o) := by
  obtain ⟨events, hevents⟩ := Option.ne_none_iff_exists'.mp hevents
  by_cases hc : Accepted o c
  · refine .inl ⟨hc, ?_⟩
    cases c with
    | fulfill tickets stamp =>
      have hstatus : o.status = .paid := hc
      rw [method, Order.run_fulfill hevents, if_pos hstatus, effect, hevents]
      rfl
    | cancel reason stamp =>
      have hstatus : o.status = .pending ∨ o.status = .seatsReserved ∨
        o.status = .paymentInitiated := hc
      rw [method, Order.run_cancel hevents, if_pos hstatus, effect, hevents]
      rfl
    | _ => exact run_quiet hc id
  · obtain ⟨message, hrun⟩ := run_refused c hc
    exact .inr ⟨hc, _, hrun⟩

end Call

/-! ## Runs -/

/-- An order and the calls on it that succeeded so far. -/
structure History where
  order : Order
  succeeded : List Call

/-- One more call; a call that raises leaves the order as the method left it. -/
def History.step (h : History) (c : Call) : History :=
  match c.method.run h.order with
  | .ok _ order => ⟨order, h.succeeded ++ [c]⟩
  | .error _ order => ⟨order, h.succeeded⟩

/-- The history of a run of calls on `start`. -/
def history (start : Order) (calls : List Call) : History :=
  run History.step ⟨start, []⟩ calls

/-! ## The invariant -/

/-- The seat list goes with the status. -/
def SeatsMatch (o : Order) : Prop :=
  match o.status with
  | .pending => o.seats = []
  | .cancelled => o.seats = [] ∨ (o.seats.length : ℤ) = o.quantity.value
  | _ => (o.seats.length : ℤ) = o.quantity.value

/-- The payment link goes with the status. -/
def PaymentMatch (o : Order) : Prop :=
  match o.status with
  | .pending | .seatsReserved => o.paymentId = none
  | .cancelled => True
  | _ => o.paymentId ≠ none

/-- The events after `OrderCreated`: none while the order is open, `OrderConfirmed` from
`fulfill` on, or `OrderCancelled`. -/
inductive Closing (o : Order) (succeeded : List Call) : List DomainEvent → Prop
  | none (hstatus : o.status ≠ .fulfilled ∧ o.status ≠ .cancelled)
      (hcalls : ∀ c ∈ succeeded, c.isFulfill = false) : Closing o succeeded []
  | confirmed (stamp : EventStamp) (tickets : Json)
      (hstatus : o.status = .fulfilled ∨ o.status = .refunded)
      (hcalls : ∃ c ∈ succeeded, c.isFulfill = true) :
      Closing o succeeded [.orderConfirmed stamp o.orderId tickets]
  | cancelled (stamp : EventStamp) (reason : String) (hstatus : o.status = .cancelled)
      (hcalls : ∀ c ∈ succeeded, c.isFulfill = false) :
      Closing o succeeded [.orderCancelled stamp o.orderId reason]

/-- The fields no method assigns to are those of `start`. -/
def SameOrder (start o : Order) : Prop :=
  o.orderId = start.orderId ∧ o.planId = start.planId ∧ o.quantity = start.quantity ∧
    o.totalAmount = start.totalAmount ∧ o.attendeeInfo = start.attendeeInfo

/-- What one call preserves. -/
structure Invariant (start : Order) (created : DomainEvent) (h : History) : Prop where
  same : SameOrder start h.order
  version : h.order.version = 1 + h.succeeded.length
  seats : SeatsMatch h.order
  payment : PaymentMatch h.order
  closing : ∃ closing, h.order.domainEvents = some (created :: closing) ∧
    Closing h.order h.succeeded closing

namespace Invariant

variable {start : Order} {created : DomainEvent} {h : History}

lemma events_ne_none (hinv : Invariant start created h) : h.order.domainEvents ≠ none := by
  obtain ⟨closing, hevents, -⟩ := hinv.closing
  simp [hevents]

/-- While the order is neither fulfilled nor closed, nothing follows `OrderCreated`. -/
lemma nothing_closed (hinv : Invariant start created h) (hfulfilled : h.order.status ≠ .fulfilled)
    (hcancelled : h.order.status ≠ .cancelled) (hrefunded : h.order.status ≠ .refunded) :
    h.order.domainEvents = some [created] ∧ ∀ c ∈ h.succeeded, c.isFulfill = false := by
  obtain ⟨closing, hevents, hclosing⟩ := hinv.closing
  cases hclosing with
  | none _ hcalls => exact ⟨hevents, hcalls⟩
  | confirmed _ _ hstatus _ =>
    rcases hstatus with hstatus | hstatus
    · exact absurd hstatus hfulfilled
    · exact absurd hstatus hrefunded
  | cancelled _ _ hstatus _ => exact absurd hstatus hcancelled

/-- One more call that is no `fulfill`. -/
lemma none_fulfills {succeeded : List Call} (hcalls : ∀ c ∈ succeeded, c.isFulfill = false)
    {c : Call} (hc : c.isFulfill = false) : ∀ c' ∈ succeeded ++ [c], c'.isFulfill = false := by
  intro c' hmem
  rcases List.mem_append.mp hmem with hmem | hmem
  · exact hcalls c' hmem
  · rwa [List.mem_singleton.mp hmem]

/-- A successful call preserves the invariant. -/
lemma succeed (hinv : Invariant start created h) {c : Call} (hc : c.Accepted h.order) :
    Invariant start created ⟨c.effect h.order, h.succeeded ++ [c]⟩ := by
  have hsame := hinv.same
  have hversion : h.order.version + 1 = 1 + ((h.succeeded ++ [c]).length : ℤ) := by
    rw [hinv.version, List.length_append, List.length_singleton]
    push_cast
    omega
  have hseats := hinv.seats
  have hpayment := hinv.payment
  cases c with
  | reserveSeats seats =>
    obtain ⟨hstatus, hlen⟩ := hc
    obtain ⟨hevents, hcalls⟩ := hinv.nothing_closed (by simp [hstatus]) (by simp [hstatus])
      (by simp [hstatus])
    refine ⟨hsame, hversion, hlen, ?_, [], hevents,
      .none (by simp [Call.effect]) (none_fulfills hcalls rfl)⟩
    simpa [PaymentMatch, hstatus, Call.effect] using hpayment
  | initiatePayment paymentId =>
    have hstatus : h.order.status = .seatsReserved := hc
    obtain ⟨hevents, hcalls⟩ := hinv.nothing_closed (by simp [hstatus]) (by simp [hstatus])
      (by simp [hstatus])
    refine ⟨hsame, hversion, ?_, ?_, [], hevents,
      .none (by simp [Call.effect]) (none_fulfills hcalls rfl)⟩
    · simpa [SeatsMatch, hstatus, Call.effect] using hseats
    · simp [PaymentMatch, Call.effect]
  | confirmPayment =>
    have hstatus : h.order.status = .paymentInitiated := hc
    obtain ⟨hevents, hcalls⟩ := hinv.nothing_closed (by simp [hstatus]) (by simp [hstatus])
      (by simp [hstatus])
    refine ⟨hsame, hversion, ?_, ?_, [], hevents,
      .none (by simp [Call.effect]) (none_fulfills hcalls rfl)⟩
    · simpa [SeatsMatch, hstatus, Call.effect] using hseats
    · simpa [PaymentMatch, hstatus, Call.effect] using hpayment
  | fulfill tickets stamp =>
    have hstatus : h.order.status = .paid := hc
    obtain ⟨hevents, -⟩ := hinv.nothing_closed (by simp [hstatus]) (by simp [hstatus])
      (by simp [hstatus])
    refine ⟨hsame, hversion, ?_, ?_, _, ?_, .confirmed stamp tickets (.inl rfl) ?_⟩
    · simpa [SeatsMatch, hstatus, Call.effect] using hseats
    · simpa [PaymentMatch, hstatus, Call.effect] using hpayment
    · simp [Call.effect, hevents]
    · exact ⟨_, List.mem_append_right _ (List.mem_singleton_self _), rfl⟩
  | cancel reason stamp =>
    obtain ⟨hevents, hcalls⟩ := hinv.nothing_closed
      (by rcases hc with h | h | h <;> simp [h]) (by rcases hc with h | h | h <;> simp [h])
      (by rcases hc with h | h | h <;> simp [h])
    refine ⟨hsame, hversion, ?_, trivial, _, ?_,
      .cancelled stamp reason rfl (none_fulfills hcalls rfl)⟩
    · rcases hc with hstatus | hstatus | hstatus <;>
        simp only [SeatsMatch, hstatus] at hseats <;> simp [SeatsMatch, Call.effect, hseats]
    · simp [Call.effect, hevents]
  | refund =>
    obtain ⟨closing, hevents, hclosing⟩ := hinv.closing
    refine ⟨hsame, hversion, ?_, ?_, closing, hevents, ?_⟩
    · rcases hc with hstatus | hstatus <;> simpa [SeatsMatch, hstatus, Call.effect] using hseats
    · rcases hc with hstatus | hstatus <;>
        simpa [PaymentMatch, hstatus, Call.effect] using hpayment
    · cases hclosing with
      | none _ hcalls =>
        exact .none (by simp [Call.effect]) (none_fulfills hcalls rfl)
      | confirmed stamp tickets _ hcalls =>
        obtain ⟨c, hmem, hfulfill⟩ := hcalls
        exact .confirmed stamp tickets (.inr rfl) ⟨c, List.mem_append_left _ hmem, hfulfill⟩
      | cancelled _ _ hcancelled _ =>
        rcases hc with hstatus | hstatus <;> simp [hstatus] at hcancelled

/-- **Step lemma.**  A call preserves the invariant, whether it succeeds or raises. -/
theorem step (hinv : Invariant start created h) (c : Call) :
    Invariant start created (h.step c) := by
  rcases c.run_cases hinv.events_ne_none with ⟨hc, hrun⟩ | ⟨-, e, hrun⟩
  · rw [History.step, hrun]
    exact hinv.succeed hc
  · rw [History.step, hrun]
    exact hinv

end Invariant

lemma invariant_create (orderId : UUID) (stamp : EventStamp) (planId : UUID)
    (quantity : TicketQuantity) (totalAmount : Money) (attendeeInfo : AttendeeInfo) :
    let start := Order.create orderId stamp planId quantity totalAmount attendeeInfo
    Invariant start (.orderCreated stamp orderId planId quantity.value totalAmount
      attendeeInfo.name attendeeInfo.email attendeeInfo.phone) ⟨start, []⟩ where
  same := ⟨rfl, rfl, rfl, rfl, rfl⟩
  version := rfl
  seats := rfl
  payment := rfl
  closing := ⟨[], rfl, .none (by simp [Order.create]) (by simp)⟩

/-! ## Whole runs -/

/-- A payment link, once set, survives every call. -/
lemma paymentId_step {start : Order} {created : DomainEvent} {h : History}
    (hinv : Invariant start created h) {p : UUID} (hp : h.order.paymentId = some p) (c : Call) :
    (h.step c).order.paymentId = some p := by
  rcases c.run_cases hinv.events_ne_none with ⟨hc, hrun⟩ | ⟨-, e, hrun⟩
  · rw [History.step, hrun]
    cases c with
    | initiatePayment paymentId =>
      have hstatus : h.order.status = .seatsReserved := hc
      have hnone := hinv.payment
      simp [PaymentMatch, hstatus, hp] at hnone
    | _ => exact hp
  · rw [History.step, hrun]
    exact hp

/-- What holds of an order at every moment of its life. -/
structure Lifecycle (start : Order) (created : DomainEvent) (h : History) : Prop where
  same : SameOrder start h.order
  version : h.order.version = 1 + h.succeeded.length
  seats : SeatsMatch h.order
  payment : PaymentMatch h.order
  /-- `OrderCreated` comes first; at most one event follows, which is an `OrderConfirmed` exactly
  if `fulfill` succeeded and an `OrderCancelled` exactly if the order is cancelled. -/
  events : ∃ closing, h.order.domainEvents = some (created :: closing) ∧ closing.length ≤ 1 ∧
    (∀ e ∈ closing, e.isConfirmed = true ∨ e.isCancelled = true) ∧
    ((∃ e ∈ closing, e.isConfirmed = true) ↔ ∃ c ∈ h.succeeded, c.isFulfill = true) ∧
    ((∃ e ∈ closing, e.isCancelled = true) ↔ h.order.status = .cancelled)
  /-- A call that raises leaves every field and the event list unchanged. -/
  raising : ∀ (c : Call) (e : PyError) (left : Order),
    c.method.run h.order = .error e left → left = h.order
  /-- `CANCELLED` and `REFUNDED` accept no further call. -/
  terminal : h.order.status = .cancelled ∨ h.order.status = .refunded →
    ∀ c : Call, ∃ e, c.method.run h.order = .error e h.order

lemma Invariant.lifecycle {start : Order} {created : DomainEvent} {h : History}
    (hinv : Invariant start created h) : Lifecycle start created h where
  same := hinv.same
  version := hinv.version
  seats := hinv.seats
  payment := hinv.payment
  events := by
    obtain ⟨closing, hevents, hclosing⟩ := hinv.closing
    refine ⟨closing, hevents, ?_⟩
    cases hclosing with
    | none hstatus hcalls => simpa [hstatus] using hcalls
    | confirmed stamp tickets hstatus hcalls =>
      rcases hstatus with hstatus | hstatus <;>
        simpa [DomainEvent.isConfirmed, DomainEvent.isCancelled, hstatus] using hcalls
    | cancelled stamp reason hstatus hcalls =>
      simpa [DomainEvent.isConfirmed, DomainEvent.isCancelled, hstatus] using hcalls
  raising := by
    intro c e left hleft
    rcases c.run_cases hinv.events_ne_none with ⟨-, hrun⟩ | ⟨-, e', hrun⟩
    · rw [hrun] at hleft
      cases hleft
    · rw [hrun] at hleft
      cases hleft
      rfl
  terminal := by
    intro hstatus c
    rcases c.run_cases hinv.events_ne_none with ⟨hc, -⟩ | ⟨-, he⟩
    · rcases hstatus with hstatus | hstatus <;> cases c <;> simp [Call.Accepted, hstatus] at hc
    · exact he

/-- **The life of an order.**  After every run of calls on an order built by `Order.create`, the
order is as `Lifecycle` says, and a payment link it has is the one it keeps in every longer
run. -/
theorem order_lifecycle (orderId : UUID) (stamp : EventStamp) (planId : UUID)
    (quantity : TicketQuantity) (totalAmount : Money) (attendeeInfo : AttendeeInfo)
    (calls : List Call) :
    let start := Order.create orderId stamp planId quantity totalAmount attendeeInfo
    let created := DomainEvent.orderCreated stamp orderId planId quantity.value totalAmount
      attendeeInfo.name attendeeInfo.email attendeeInfo.phone
    Lifecycle start created (history start calls) ∧
      ∀ (p : UUID) (more : List Call), (history start calls).order.paymentId = some p →
        (history start (calls ++ more)).order.paymentId = some p := by
  intro start created
  have hstart : Invariant start created ⟨start, []⟩ := invariant_create ..
  have hinv : Invariant start created (history start calls) :=
    run_invariant (fun _ c hinv => hinv.step c) hstart calls
  refine ⟨hinv.lifecycle, fun p more hp => ?_⟩
  rw [history, run_append]
  have hboth := run_invariant
    (I := fun h => Invariant start created h ∧ h.order.paymentId = some p)
    (fun _ c hI => ⟨hI.1.step c, paymentId_step hI.1 hI.2 c⟩) ⟨hinv, hp⟩ more
  exact hboth.2

end TicketGenius.OrderLifecycle
