import TicketGenius.Domain.Events

/-!
# The event classes

All classes of `domain/events.py`, with what reflection shows of their instances.  Each class is a
dataclass of its own, without a base class: `@dataclass(frozen=True, slots=True)` with the same four
fields in front.  An instance of a class with slots keeps its fields in them, and has no `__dict__`.

`DomainEvent` has those events an aggregate raises; `DomainEvent.toEvent` finds them here.  Nothing
depends on what a `datetime` is, so its type is a parameter `τ`.
-/

namespace TicketGenius

/-- The fields every event begins with. -/
structure EventHeader (τ : Type) where
  eventId : UUID
  occurredAt : τ
  correlationId : Option UUID
  causationId : Option UUID

/-- An event of some class. -/
inductive Event (τ : Type)
  | domainEvent (header : EventHeader τ)
  | orderCreated (header : EventHeader τ) (orderId planId : UUID) (quantity : ℤ)
      (totalAmount : Money) (attendeeName attendeeEmail : String) (attendeePhone : Option String)
  | paymentInitiated (header : EventHeader τ) (orderId paymentId : UUID)
      (provider intentId : String)
  | paymentConfirmed (header : EventHeader τ) (orderId paymentId : UUID) (providerRef : String)
  | paymentFailed (header : EventHeader τ) (orderId paymentId : UUID) (reason : String)
  | orderConfirmed (header : EventHeader τ) (orderId : UUID) (tickets : Json)
  | orderCancelled (header : EventHeader τ) (orderId : UUID) (reason : String)

/-- The header of an event that has been built with the two defaults that are drawn. -/
def EventStamp.header (self : EventStamp) : EventHeader DateTime :=
  ⟨self.eventId, self.occurredAt, none, none⟩

/-- An event of an order among all events. -/
def DomainEvent.toEvent : DomainEvent → Event DateTime
  | .orderCreated stamp orderId planId quantity totalAmount name email phone =>
    .orderCreated stamp.header orderId planId quantity totalAmount name email phone
  | .orderConfirmed stamp orderId tickets => .orderConfirmed stamp.header orderId tickets
  | .orderCancelled stamp orderId reason => .orderCancelled stamp.header orderId reason

/-! ## Classes -/

/-- The classes. -/
inductive EventClass
  | domainEvent
  | orderCreated
  | paymentInitiated
  | paymentConfirmed
  | paymentFailed
  | orderConfirmed
  | orderCancelled
deriving DecidableEq

/-- `cls.__name__` -/
def EventClass.name : EventClass → String
  | .domainEvent => "DomainEvent"
  | .orderCreated => "OrderCreated"
  | .paymentInitiated => "PaymentInitiated"
  | .paymentConfirmed => "PaymentConfirmed"
  | .paymentFailed => "PaymentFailed"
  | .orderConfirmed => "OrderConfirmed"
  | .orderCancelled => "OrderCancelled"

/-- The arguments of the decorator `dataclass`. -/
structure DataclassOptions where
  frozen : Bool
  slots : Bool

/-- How a class is decorated: they all are in the same way. -/
def EventClass.options (_ : EventClass) : DataclassOptions := ⟨true, true⟩

/-- The names of the fields every event begins with. -/
def headerNames : List String := ["event_id", "occurred_at", "correlation_id", "causation_id"]

/-- The names of the fields a class declares. -/
def EventClass.fieldNames : EventClass → List String
  | .domainEvent => headerNames
  | .orderCreated =>
    headerNames ++ ["order_id", "plan_id", "quantity", "total_amount", "attendee_name",
      "attendee_email", "attendee_phone"]
  | .paymentInitiated => headerNames ++ ["order_id", "payment_id", "provider", "intent_id"]
  | .paymentConfirmed => headerNames ++ ["order_id", "payment_id", "provider_ref"]
  | .paymentFailed => headerNames ++ ["order_id", "payment_id", "reason"]
  | .orderConfirmed => headerNames ++ ["order_id", "tickets"]
  | .orderCancelled => headerNames ++ ["order_id", "reason"]

/-- `type(event)` -/
def Event.cls {τ : Type} : Event τ → EventClass
  | .domainEvent .. => .domainEvent
  | .orderCreated .. => .orderCreated
  | .paymentInitiated .. => .paymentInitiated
  | .paymentConfirmed .. => .paymentConfirmed
  | .paymentFailed .. => .paymentFailed
  | .orderConfirmed .. => .orderConfirmed
  | .orderCancelled .. => .orderCancelled

/-! ## Fields -/

/-- What a field of an event holds. -/
inductive EventValue (τ : Type)
  | none
  | uuid (id : UUID)
  | datetime (t : τ)
  | money (amount : Money)
  | int (n : ℤ)
  | str (s : String)
  /-- A list of dicts, as a document. -/
  | tickets (document : Json)

/-- A value that may be `None`. -/
def EventValue.optional {τ α : Type} (value : α → EventValue τ) : Option α → EventValue τ
  | .none => .none
  | some a => value a

/-- The fields of the header. -/
def EventHeader.fields {τ : Type} (self : EventHeader τ) : Dict (EventValue τ) :=
  [("event_id", .uuid self.eventId), ("occurred_at", .datetime self.occurredAt),
    ("correlation_id", .optional .uuid self.correlationId),
    ("causation_id", .optional .uuid self.causationId)]

/-- The declared fields of an event, with their values. -/
def Event.fields {τ : Type} : Event τ → Dict (EventValue τ)
  | .domainEvent header => header.fields
  | .orderCreated header orderId planId quantity totalAmount name email phone =>
    header.fields ++ [("order_id", .uuid orderId), ("plan_id", .uuid planId),
      ("quantity", .int quantity), ("total_amount", .money totalAmount),
      ("attendee_name", .str name), ("attendee_email", .str email),
      ("attendee_phone", .optional .str phone)]
  | .paymentInitiated header orderId paymentId provider intentId =>
    header.fields ++ [("order_id", .uuid orderId), ("payment_id", .uuid paymentId),
      ("provider", .str provider), ("intent_id", .str intentId)]
  | .paymentConfirmed header orderId paymentId providerRef =>
    header.fields ++ [("order_id", .uuid orderId), ("payment_id", .uuid paymentId),
      ("provider_ref", .str providerRef)]
  | .paymentFailed header orderId paymentId reason =>
    header.fields ++ [("order_id", .uuid orderId), ("payment_id", .uuid paymentId),
      ("reason", .str reason)]
  | .orderConfirmed header orderId tickets =>
    header.fields ++ [("order_id", .uuid orderId), ("tickets", .tickets tickets)]
  | .orderCancelled header orderId reason =>
    header.fields ++ [("order_id", .uuid orderId), ("reason", .str reason)]

lemma Event.names_fields {τ : Type} (self : Event τ) :
    self.fields.map Prod.fst = self.cls.fieldNames := by
  cases self <;> rfl

/-- `event.__dict__` -/
def Event.dict {τ : Type} (self : Event τ) : Except PyError (Dict (EventValue τ)) :=
  if self.cls.options.slots then .error (.noAttribute self.cls.name "__dict__")
  else .ok self.fields

end TicketGenius
