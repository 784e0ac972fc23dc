import TicketGenius.Domain.ValueObjects

/-!
# Domain events

The events of `domain/events.py` an aggregate raises.  Every event starts with the same four
fields; `event_id` and `occurred_at` are drawn when the event is built, the other two are never
set.
-/

namespace TicketGenius

/-- What the default factories of an event draw. -/
structure EventStamp where
  eventId : UUID
  occurredAt : DateTime
deriving DecidableEq

inductive DomainEvent
  | orderCreated (stamp : EventStamp) (orderId planId : UUID) (quantity : ℤ) (totalAmount : Money)
      (attendeeName attendeeEmail : String) (attendeePhone : Option String)
  | orderConfirmed (stamp : EventStamp) (orderId : UUID) (tickets : Json)
  | orderCancelled (stamp : EventStamp) (orderId : UUID) (reason : String)

namespace DomainEvent

/-- The event is an `OrderConfirmed`. -/
def isConfirmed : DomainEvent → Bool
  | orderConfirmed .. => true
  | _ => false

/-- The event is an `OrderCancelled`. -/
def isCancelled : DomainEvent → Bool
  | orderCancelled .. => true
  | _ => false

end DomainEvent

end TicketGenius
