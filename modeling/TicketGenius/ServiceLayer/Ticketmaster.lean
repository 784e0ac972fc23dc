import TicketGenius.Domain.Documents
import TicketGenius.ServiceLayer.SeatHolds

/-!
# The Ticketmaster adapter

The methods of `TicketmasterAdapter` that ordering calls.  No request leaves the process: creating
and accepting an offer build their answer themselves, and keep it in Redis under an idempotency key
so that a repeated call returns the same answer.  Whatever lies under that key is taken for such an
answer, so the callers read it as any JSON document.
-/

namespace TicketGenius

open Service

/-! ## Offers -/

/-- A `TicketmasterAdapter`, with or without a Redis client. -/
structure TicketmasterAdapter where
  redis : Bool

def idempotencyTtl : ℕ := 86400

/-- The document under an idempotency key if there is one, and otherwise a new document, which is
put there. -/
def idempotently (redis : Bool) (cacheKey : String) (request : Service Json) : Service Json := do
  if redis then
    match ← redisGet cacheKey with
    | some cached =>
      if cached.truthy then Framework.Prog.ofExcept (jsonLoads cached)
      else store
    | none => store
  else request
where
  /-- Makes the request and keeps its answer. -/
  store : Service Json := do
    let result ← request
    redisSetex cacheKey idempotencyTtl (.json result)
    return result

namespace TicketmasterAdapter

/-- The answer to `create_order`, made at `time`. -/
def offer (planId : String) (quantity : ℤ) (seatIds : List String) (idempotencyKey : String)
    (time : ℤ) : Json :=
  .obj [("id", .str s!"tm_order_{planId}_{time}"),
    ("status", .str "CREATED"),
    ("offer_id", .str ("offer_" ++ planId ++ "_" ++ slice 8 idempotencyKey)),
    ("quantity", .int quantity),
    ("seat_ids", .arr (seatIds.map .str))]

/-- The answer to `accept_offer`, with one ticket whatever the number of seats is. -/
def acceptance (offerId : Json) (seatIds : List String) : Json :=
  let offerText := offerId.format
  .obj [("id", offerId),
    ("status", .str "ACCEPTED"),
    ("fulfillment", .obj [("tickets", .arr ((List.range 1).map fun i => .obj [
      ("id", .str s!"ticket_{offerText}_{i}"),
      ("seat_id", .str (seatIds.getD i s!"GA-{i}")),
      ("barcode", .str s!"BC-{offerText}-{i}")]))])]

/-- The simulated request of `create_order`. -/
def requestOffer (planId : String) (quantity : ℤ) (seatIds : List String)
    (idempotencyKey : String) : Service Json := do
  let time ← now
  return offer planId quantity seatIds idempotencyKey time.timestamp

/-- `create_order`. -/
def createOrder (tm : TicketmasterAdapter) (planId : String) (quantity : ℤ)
    (seatIds : List String) (idempotencyKey : String) : Service Json :=
  idempotently tm.redis ("tm:offer:" ++ idempotencyKey)
    (requestOffer planId quantity seatIds idempotencyKey)

/-- `accept_offer`. -/
def acceptOffer (tm : TicketmasterAdapter) (offerId : Json) (idempotencyKey : String)
    (seatIds : List String) : Service Json :=
  idempotently tm.redis ("tm:accept:" ++ idempotencyKey) (.pure (acceptance offerId seatIds))

/-- `acquire_seat_holds`. -/
def acquireSeatHolds (tm : TicketmasterAdapter) (planId : UUID) (seatIds : List String)
    (orderId : UUID) : Service Bool :=
  acquireHolds tm.redis planId seatIds orderId

end TicketmasterAdapter

end TicketGenius
