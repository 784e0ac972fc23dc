import TicketGenius.Domain.Events

/-!
# The `Order` aggregate

`Order` of `domain/models.py`.  A mapped aggregate is a row of its table (the fields the mapper
knows) plus what only the Python instance has.  Two facts about instances matter to the methods.

* The event list `_domain_events` is created by `__init__`.  SQLAlchemy builds the instances it
  loads without calling `__init__`, so a loaded instance has no such list and `add_domain_event`
  raises `AttributeError` there: `domainEvents` is `none`.
* The `status` of a loaded instance is the plain string of its column until a method assigns to it.
  It compares equal to the member of the enumeration, and is shown differently in a message.

The methods are state transformers over the instance.  One that raises returns the instance as it
left it, which is not always the instance it was given.
-/

namespace TicketGenius

/-! ## Rows and instances -/

inductive OrderStatus
  | pending
  | seatsReserved
  | paymentInitiated
  | paid
  | fulfilled
  | cancelled
  | refunded
deriving DecidableEq

/-- The text of a status in the database. -/
def OrderStatus.value : OrderStatus → String
  | .pending => "PENDING"
  | .seatsReserved => "SEATS_RESERVED"
  | .paymentInitiated => "PAYMENT_INITIATED"
  | .paid => "PAID"
  | .fulfilled => "FULFILLED"
  | .cancelled => "CANCELLED"
  | .refunded => "REFUNDED"

/-- The fields of `Order` that the mapper stores. -/
structure OrderRow where
  orderId : UUID
  planId : UUID
  quantity : TicketQuantity
  totalAmount : Money
  attendeeInfo : AttendeeInfo
  status : OrderStatus
  paymentId : Option UUID
  seats : List Seat
  version : ℤ
deriving DecidableEq

/-- An instance of `Order`. -/
structure Order extends OrderRow where
  domainEvents : Option (List DomainEvent)
  statusLoaded : Bool

/-! ## Methods -/

abbrev OrderM := EStateM PyError Order

namespace Order

/-- `f"{self.status}"`. -/
def statusText (self : Order) : String :=
  if self.statusLoaded then self.status.value else "OrderStatus." ++ self.status.value

/-- `add_domain_event`. -/
def addDomainEvent (event : DomainEvent) : OrderM Unit := do
  match (← get).domainEvents with
  | none => throw (.noAttribute "Order" "_domain_events")
  | some events => modify fun self => { self with domainEvents := some (events ++ [event]) }

/-- The guard all transitions start with. -/
def requireStatus (action : String) (allowed : List OrderStatus) : OrderM Unit := do
  let self ← get
  if self.status ∉ allowed then
    throw (.valueError s!"Cannot {action} in status {self.statusText}")

/-- The assignment to `status` and `version` all transitions make. -/
def moveTo (status : OrderStatus) : OrderM Unit :=
  modify fun self =>
    { self with status := status, statusLoaded := false, version := self.version + 1 }

/-- `Order.create`, as the class has it.  With the mappers of `adapters/orm.py` loaded, the
constructor does not come to its end: their composite for `seats` asks the value for its columns,
which a list cannot give, and the assignment raises `InvalidRequestError`. -/
def create (orderId : UUID) (stamp : EventStamp) (planId : UUID) (quantity : TicketQuantity)
    (totalAmount : Money) (attendeeInfo : AttendeeInfo) : Order where
  orderId := orderId
  planId := planId
  quantity := quantity
  totalAmount := totalAmount
  attendeeInfo := attendeeInfo
  status := .pending
  paymentId := none
  seats := []
  version := 1
  domainEvents := some [.orderCreated stamp orderId planId quantity.value totalAmount
    attendeeInfo.name attendeeInfo.email attendeeInfo.phone]
  statusLoaded := false

/-- `reserve_seats`. -/
def reserveSeats (seats : List Seat) : OrderM Unit := do
  requireStatus "reserve seats" [.pending]
  let self ← get
  if (seats.length : ℤ) ≠ self.quantity.value then
    throw (.valueError s!"Expected {self.quantity.value} seats, got {seats.length}")
  set { self with seats := seats }
  moveTo .seatsReserved

/-- `initiate_payment`. -/
def initiatePayment (paymentId : UUID) : OrderM Unit := do
  requireStatus "initiate payment" [.seatsReserved]
  modify fun self => { self with paymentId := some paymentId }
  moveTo .paymentInitiated

/-- `confirm_payment`. -/
def confirmPayment : OrderM Unit := do
  requireStatus "confirm payment" [.paymentInitiated]
  moveTo .paid

/-- `fulfill`. -/
def fulfill (tickets : Json) (stamp : EventStamp) : OrderM Unit := do
  requireStatus "fulfill" [.paid]
  moveTo .fulfilled
  addDomainEvent (.orderConfirmed stamp (← get).orderId tickets)

/-- `cancel`. -/
def cancel (reason : String) (stamp : EventStamp) : OrderM Unit := do
  requireStatus "cancel" [.pending, .seatsReserved, .paymentInitiated]
  moveTo .cancelled
  addDomainEvent (.orderCancelled stamp (← get).orderId reason)

/-- `refund`. -/
def refund : OrderM Unit := do
  requireStatus "refund" [.paid, .fulfilled]
  moveTo .refunded

/-! ## Specifications -/

/-- The exception of a transition that is refused in the present status. -/
def refusal (action : String) (self : Order) : PyError :=
  .valueError s!"Cannot {action} in status {self.statusText}"

section Specifications

variable (self : Order)

lemma run_requireStatus (action : String) (allowed : List OrderStatus) :
    (requireStatus action allowed).run self =
      if self.status ∈ allowed then .ok () self else .error (refusal action self) self := by
  by_cases h : self.status ∈ allowed
  · simp [requireStatus, h]
  · simp [requireStatus, refusal, h]

@[simp] lemma run_moveTo (status : OrderStatus) :
    (moveTo status).run self =
      .ok () { self with status := status, statusLoaded := false, version := self.version + 1 } :=
  rfl

lemma run_addDomainEvent_some {events : List DomainEvent} (h : self.domainEvents = some events)
    (event : DomainEvent) :
    (addDomainEvent event).run self =
      .ok () { self with domainEvents := some (events ++ [event]) } := by
  simp [addDomainEvent, h]

lemma run_addDomainEvent_none (h : self.domainEvents = none) (event : DomainEvent) :
    (addDomainEvent event).run self = .error (.noAttribute "Order" "_domain_events") self := by
  simp [addDomainEvent, h]

lemma run_reserveSeats (seats : List Seat) :
    (reserveSeats seats).run self =
      if self.status = .pending then
        if (seats.length : ℤ) = self.quantity.value then
          .ok () { self with
            seats := seats, status := .seatsReserved, statusLoaded := false
            version := self.version + 1 }
        else .error (.valueError
          s!"Expected {self.quantity.value} seats, got {seats.length}") self
      else .error (refusal "reserve seats" self) self := by
  by_cases h : self.status = .pending
  · by_cases hlen : (seats.length : ℤ) = self.quantity.value
    · simp [reserveSeats, run_requireStatus, h, hlen]
    · simp [reserveSeats, run_requireStatus, h, hlen]
  · simp [reserveSeats, run_requireStatus, h]

lemma run_initiatePayment (paymentId : UUID) :
    (initiatePayment paymentId).run self =
      if self.status = .seatsReserved then
        .ok () { self with
          paymentId := some paymentId, status := .paymentInitiated, statusLoaded := false
          version := self.version + 1 }
      else .error (refusal "initiate payment" self) self := by
  by_cases h : self.status = .seatsReserved
  · simp [initiatePayment, run_requireStatus, h]
  · simp [initiatePayment, run_requireStatus, h]

lemma run_confirmPayment :
    confirmPayment.run self =
      if self.status = .paymentInitiated then
        .ok () { self with status := .paid, statusLoaded := false, version := self.version + 1 }
      else .error (refusal "confirm payment" self) self := by
  by_cases h : self.status = .paymentInitiated
  · simp [confirmPayment, run_requireStatus, h]
  · simp [confirmPayment, run_requireStatus, h]

lemma run_refund :
    refund.run self =
      if self.status = .paid ∨ self.status = .fulfilled then
        .ok () { self with status := .refunded, statusLoaded := false, version := self.version + 1 }
      else .error (refusal "refund" self) self := by
  by_cases h : self.status = .paid ∨ self.status = .fulfilled
  · simp [refund, run_requireStatus, h]
  · simp [refund, run_requireStatus, h]

end Specifications

/-- On an instance that carries its event list, `fulfill` is atomic. -/
lemma run_fulfill {self : Order} {events : List DomainEvent}
    (hevents : self.domainEvents = some events) (tickets : Json) (stamp : EventStamp) :
    (fulfill tickets stamp).run self =
      if self.status = .paid then
        .ok () { self with
          status := .fulfilled, statusLoaded := false, version := self.version + 1
          domainEvents := some (events ++ [.orderConfirmed stamp self.orderId tickets]) }
      else .error (refusal "fulfill" self) self := by
  by_cases h : self.status = .paid
  · simp [fulfill, run_requireStatus, run_addDomainEvent_some, h, hevents]
  · simp [fulfill, run_requireStatus, h]

/-- On an instance that carries its event list, `cancel` is atomic. -/
lemma run_cancel {self : Order} {events : List DomainEvent}
    (hevents : self.domainEvents = some events) (reason : String) (stamp : EventStamp) :
    (cancel reason stamp).run self =
      if self.status = .pending ∨ self.status = .seatsReserved ∨
          self.status = .paymentInitiated then
        .ok () { self with
          status := .cancelled, statusLoaded := false, version := self.version + 1
          domainEvents := some (events ++ [.orderCancelled stamp self.orderId reason]) }
      else .error (refusal "cancel" self) self := by
  by_cases h : self.status = .pending ∨ self.status = .seatsReserved ∨
      self.status = .paymentInitiated
  · simp [cancel, run_requireStatus, run_addDomainEvent_some, h, hevents]
  · simp [cancel, run_requireStatus, h]

/-- On an instance without an event list, `cancel` raises whatever the status is. -/
lemma run_cancel_loaded {self : Order} (hevents : self.domainEvents = none) (reason : String)
    (stamp : EventStamp) :
    ∃ e left, (cancel reason stamp).run self = .error e left := by
  by_cases h : self.status = .pending ∨ self.status = .seatsReserved ∨
      self.status = .paymentInitiated
  · simp [cancel, run_requireStatus, run_addDomainEvent_none, h, hevents]
  · simp [cancel, run_requireStatus, h]

end Order

end TicketGenius
