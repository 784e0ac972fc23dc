import TicketGenius.Domain.Order

/-!
# Commands

The commands of `service_layer/commands.py` that change an order, and their results.
-/

namespace TicketGenius

structure CreateOrderCommand where
  planId : UUID
  quantity : ℤ
  attendeeInfo : AttendeeInfo
  seatIds : Option (List SeatId)

structure ConfirmPaymentCommand where
  orderId : UUID
  paymentIntentId : String
  idempotencyKey : String

structure CancelOrderCommand where
  orderId : UUID
  reason : String

structure RefundOrderCommand where
  orderId : UUID
  amount : Option Money

structure OrderCreatedResult where
  orderId : UUID
  paymentIntentId : String
  clientSecret : String
  status : OrderStatus

structure PaymentConfirmedResult where
  orderId : UUID
  paymentId : UUID
  status : OrderStatus
  providerRef : String

end TicketGenius
