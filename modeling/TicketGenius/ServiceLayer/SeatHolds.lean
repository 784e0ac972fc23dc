import TicketGenius.ServiceLayer.Operations

/-!
# Seat holds

`service_layer/seat_holds.py`, and the copy of `acquire_seat_holds` that `TicketmasterAdapter`
has.  The two copies differ in how they write the same constants, so both are `acquireHolds`.

A hold is a Redis key with the id of the order under it.  It is set with `SET NX EX`, one seat
after the other; when a seat is taken, the keys set so far are deleted without a look at what they
hold.  A release reads each key and deletes it if it holds the order's own id, in two commands.
-/

namespace TicketGenius

open Service

/-! ## Keys -/

def seatHoldTtl : ℕ := 600

def paymentConfirmTtl : ℕ := 86400

/-- `f"SEAT_HOLD:{plan_id}:{seat_id}"` -/
def seatHoldKey (planId : UUID) (seatId : String) : String :=
  "SEAT_HOLD:" ++ (planId.str ++ (":" ++ seatId))

/-- `f"payment_confirm:{payment_id}:{idempotency_key}"` -/
def paymentConfirmKey (paymentId : UUID) (idempotencyKey : String) : String :=
  "payment_confirm:" ++ (paymentId.str ++ (":" ++ idempotencyKey))

/-! ## Acquiring -/

/-- Deletes the keys of seats, whatever they hold. -/
def dropHolds (planId : UUID) : List String → Service Unit
  | [] => return ()
  | seatId :: seatIds => do
    redisDelete (seatHoldKey planId seatId)
    dropHolds planId seatIds

/-- The acquire loop, with the seats acquired so far. -/
def acquireLoop (planId orderId : UUID) : List String → List String → Service Bool
  | _, [] => return true
  | acquired, seatId :: seatIds => do
    if ← redisSetNx (seatHoldKey planId seatId) (.text orderId.str) seatHoldTtl then
      acquireLoop planId orderId (acquired ++ [seatId]) seatIds
    else
      dropHolds planId acquired
      return false

/-- The body of both copies of `acquire_seat_holds`; without Redis there is nothing to hold. -/
def acquireHolds (redis : Bool) (planId : UUID) (seatIds : List String) (orderId : UUID) :
    Service Bool :=
  if redis then acquireLoop planId orderId [] seatIds else return true

/-- `seat_holds.acquire_seat_holds`. -/
def acquireSeatHolds (redis : Bool) (planId : UUID) (seatIds : List String) (orderId : UUID) :
    Service Bool :=
  acquireHolds redis planId seatIds orderId

/-! ## Releasing -/

/-- The release loop. -/
def releaseLoop (planId orderId : UUID) : List String → Service Unit
  | [] => return ()
  | seatId :: seatIds => do
    let current ← redisGet (seatHoldKey planId seatId)
    if current.any (Redis.Value.eqText orderId.str) then
      redisDelete (seatHoldKey planId seatId)
    releaseLoop planId orderId seatIds

/-- `release_seat_holds`. -/
def releaseSeatHolds (redis : Bool) (planId : UUID) (seatIds : List String) (orderId : UUID) :
    Service Unit :=
  if redis then releaseLoop planId orderId seatIds else return ()

/-! ## Idempotency of a confirmation -/

/-- `check_payment_idempotency`. -/
def checkPaymentIdempotency (redis : Bool) (paymentId : UUID) (idempotencyKey : String) :
    Service Bool :=
  if redis then
    redisSetNx (paymentConfirmKey paymentId idempotencyKey) (.text "1") paymentConfirmTtl
  else return true

end TicketGenius
