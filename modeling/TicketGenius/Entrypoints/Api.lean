import TicketGenius.ServiceLayer.Commands

/-!
# The HTTP routes

Routes of `entrypoints/api.py`, after pydantic has validated the body of the request: what they make
of it is a command.
-/

namespace TicketGenius

/-! ## Schemas -/

/-- `MoneySchema` -/
structure MoneySchema where
  amount : Decimal
  currency : String

/-- `RefundOrderRequest`, without the reason, which no handler reads. -/
structure RefundOrderRequest where
  amount : Option MoneySchema

/-- `Currency(value)` -/
def Currency.make : String → Except PyError Currency
  | "EUR" => .ok .eur
  | "USD" => .ok .usd
  | "GBP" => .ok .gbp
  | value => .error (.valueError (Json.quote value ++ " is not a valid Currency"))

/-- A currency is made of its value. -/
@[simp] lemma Currency.make_value (currency : Currency) :
    Currency.make currency.value = .ok currency := by
  cases currency <;> rfl

/-! ## Routes -/

namespace Api

/-- The command `refund_order` passes to the bus. -/
def refundOrder (orderId : UUID) (data : RefundOrderRequest) : Except PyError RefundOrderCommand :=
  match data.amount with
  | none => return { orderId := orderId, amount := none }
  | some amount => do
    let money ← Money.make amount.amount (← Currency.make amount.currency)
    return { orderId := orderId, amount := some money }

end Api

end TicketGenius
