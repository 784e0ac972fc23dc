import TicketGenius.ServiceLayer.Ticketmaster

/-!
# Fulfilment

`FulfillOrderService.fulfill`: an offer is created and accepted, the holds of the order are
released, and `OrderConfirmed` is raised on the order.  The order's status stays as it is; nothing
calls `Order.fulfill`.
-/

namespace TicketGenius

open Framework Service

/-- `[f"{s.section}-{s.row}-{s.number}" for s in order.seats]` -/
def OrderRow.seatTexts (order : OrderRow) : List String := order.seats.map Seat.text

/-- `fulfill`, with the order as it is left. -/
def FulfillOrderService.fulfill (tm : TicketmasterAdapter) (order : Order) (plan : Plan) :
    Service (Json × Order) := do
  let tmOrder ← tm.createOrder plan.tmPlanId order.quantity.value order.seatTexts
    ("order_" ++ order.orderId.str)
  let offerId ← Prog.ofExcept (tmOrder.item "offer_id")
  let acceptance ← tm.acceptOffer offerId ("accept_" ++ order.orderId.str) order.seatTexts
  let fulfillment ← Prog.ofExcept (acceptance.getD "fulfillment" (.obj []))
  let tickets ← Prog.ofExcept (fulfillment.getD "tickets" (.arr []))
  releaseSeatHolds tm.redis order.planId order.seatTexts order.orderId
  let stamp ← eventStamp
  let order ← callOrder (Order.addDomainEvent (.orderConfirmed stamp order.orderId tickets)) order
  return (tickets, order)

end TicketGenius
