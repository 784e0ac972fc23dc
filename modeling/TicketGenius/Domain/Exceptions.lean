import TicketGenius.Language.Json
import TicketGenius.Language.Python

/-!
# Exceptions

`domain/exceptions.py` roots the errors of the domain in `DomainException`: a message, a code from
`ErrorCode` and a dict of details.  Each subclass computes the three from its own arguments, and
keeps here its own constructor.  `PyError` adds the exceptions the modelled functions raise without
naming them: those of the interpreter, of `decimal`, `json` and SQLAlchemy, and what the adapters
define for themselves, the payment adapter's `PaymentNotFoundError` and `RetryableError`, which are
no domain exceptions.
-/

namespace TicketGenius

/-! ## Domain exceptions -/

/-- The codes of `ErrorCode` the modelled exceptions carry, and the one `OptimisticLockError`
writes out by itself. -/
inductive ErrorCode
  | planNotFound
  | orderNotFound
  | orderInsufficientInventory
  | orderSeatMismatch
  | paymentNotFound
  | paymentDeclined
  | idempotencyKeyUsed
  | providerError
  | providerRateLimited
  | providerAuthenticationFailed
  | optimisticLockError
deriving DecidableEq

/-- The text of a code. -/
def ErrorCode.value : ErrorCode → String
  | .planNotFound => "PLAN_NOT_FOUND"
  | .orderNotFound => "ORDER_NOT_FOUND"
  | .orderInsufficientInventory => "ORDER_INSUFFICIENT_INVENTORY"
  | .orderSeatMismatch => "ORDER_SEAT_MISMATCH"
  | .paymentNotFound => "PAYMENT_NOT_FOUND"
  | .paymentDeclined => "PAYMENT_DECLINED"
  | .idempotencyKeyUsed => "IDEMPOTENCY_KEY_USED"
  | .providerError => "PROVIDER_ERROR"
  | .providerRateLimited => "PROVIDER_RATE_LIMITED"
  | .providerAuthenticationFailed => "PROVIDER_AUTHENTICATION_FAILED"
  | .optimisticLockError => "OPTIMISTIC_LOCK_ERROR"

/-- An instance of a subclass of `DomainException`; each subclass has its own code, so the code
also names the class. -/
structure DomainException where
  message : String
  code : ErrorCode
  details : List (String × Json)

/-- `PlanNotFoundError(plan_id)`. -/
def planNotFoundError (planId : String) : DomainException :=
  ⟨s!"Plan {planId} not found", .planNotFound, []⟩

/-- `OrderNotFoundError(order_id)`. -/
def orderNotFoundError (orderId : String) : DomainException :=
  ⟨s!"Order {orderId} not found", .orderNotFound, []⟩

/-- `InsufficientInventoryError(plan_id, requested, available)`. -/
def insufficientInventoryError (planId : String) (requested available : ℤ) : DomainException :=
  ⟨s!"Insufficient inventory for plan {planId}: requested {requested}, available {available}",
    .orderInsufficientInventory,
    [("plan_id", .str planId), ("requested", .int requested), ("available", .int available)]⟩

/-- `SeatMismatchError(expected, got)`. -/
def seatMismatchError (expected got : ℤ) : DomainException :=
  ⟨s!"Seat mismatch: expected {expected} seats, got {got}", .orderSeatMismatch,
    [("expected", .int expected), ("got", .int got)]⟩

/-- `PaymentNotFoundError(payment_id)`.  The handlers pass a whole sentence as the id. -/
def paymentNotFoundError (paymentId : String) : DomainException :=
  ⟨s!"Payment {paymentId} not found", .paymentNotFound, []⟩

/-- `PaymentDeclinedError(payment_id, reason)`. -/
def paymentDeclinedError (paymentId reason : String) : DomainException :=
  ⟨s!"Payment {paymentId} declined: {reason}", .paymentDeclined,
    [("payment_id", .str paymentId), ("reason", .str reason)]⟩

/-- `IdempotencyKeyUsedError(key)`. -/
def idempotencyKeyUsedError (key : String) : DomainException :=
  ⟨s!"Idempotency key {key} already used", .idempotencyKeyUsed, [("key", .str key)]⟩

/-- `ProviderError(provider, message)`. -/
def providerError (provider message : String) : DomainException :=
  ⟨s!"Provider {provider} error: {message}", .providerError,
    [("provider", .str provider), ("message", .str message)]⟩

/-- `ProviderRateLimitedError(provider, retry_after)`. -/
def providerRateLimitedError (provider : String) (retryAfter : ℤ) : DomainException :=
  ⟨s!"Provider {provider} rate limited", .providerRateLimited,
    [("provider", .str provider), ("retry_after", .int retryAfter)]⟩

/-- `ProviderAuthenticationError(provider)`. -/
def providerAuthenticationError (provider : String) : DomainException :=
  ⟨s!"Provider {provider} authentication failed", .providerAuthenticationFailed,
    [("provider", .str provider)]⟩

/-- `OptimisticLockError(entity_type, entity_id)`. -/
def optimisticLockError (entityType entityId : String) : DomainException :=
  ⟨s!"{entityType} {entityId} was modified by another transaction", .optimisticLockError,
    [("entity_type", .str entityType), ("entity_id", .str entityId)]⟩

/-! ## All exceptions -/

/-- The exceptions the modelled functions raise. -/
inductive PyError
  | valueError (message : String)
  | attributeError (message : String)
  | nameError (name : String)
  | keyError (key : String)
  | indexError (message : String)
  | typeError (message : String)
  | jsonDecodeError
  | decimalOverflow
  | overflowError (message : String)
  | intentNotFound (message : String)
  | pendingRollbackError
  | staleDataError
  | retryableError (message : String)
  | domain (e : DomainException)

/-- `'cls' object has no attribute 'name'`. -/
def PyError.noAttribute (cls name : String) : PyError :=
  .attributeError s!"'{cls}' object has no attribute '{name}'"

end TicketGenius
