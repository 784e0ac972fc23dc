import TicketGenius.Domain.ValueObjects
import TicketGenius.Framework.Table

/-!
# The payment simulator

`PaymentSimulatorAdapter` of `adapters/payment.py` keeps its intents in a dict.  The dict lives in
the process and takes no part in a database transaction: what a method did to it stays done.
-/

namespace TicketGenius

/-- `intent.status`. -/
inductive IntentStatus
  | requiresPaymentMethod
  | failed
  | succeeded
deriving DecidableEq

structure PaymentIntent where
  id : String
  clientSecret : String
  status : IntentStatus
  amount : Money
  metadata : Dict String
deriving DecidableEq

/-- `self._intents`. -/
abbrev Intents := Framework.Table String PaymentIntent PaymentIntent.id

namespace PaymentSimulatorAdapter

/-- `create_payment_intent`.  The two UUIDs are those it draws. -/
def createPaymentIntent (intents : Intents) (amount : Money) (metadata : Dict String)
    (uuid₁ uuid₂ : UUID) : PaymentIntent × Intents :=
  let intentId := "pi_test_" ++ slice 24 uuid₁.hex
  let clientSecret := intentId ++ "_secret_" ++ slice 16 uuid₂.hex
  let intent : PaymentIntent :=
    { id := intentId, clientSecret := clientSecret, status := .requiresPaymentMethod
      amount := amount, metadata := metadata }
  (intent, intents.put intent)

/-- The limit above which the simulator declines. -/
def limit : Decimal := 100

/-- The intent after an attempt to confirm it at `time`. -/
def attempt (intent : PaymentIntent) (time : ℤ) (paymentMethod : String := "pm_card_visa") :
    PaymentIntent :=
  if limit < intent.amount.amount then
    { intent with
      status := .failed
      metadata := intent.metadata.set "failure_reason" "amount_exceeds_limit" }
  else
    { intent with
      status := .succeeded
      metadata := (intent.metadata.set "payment_method" paymentMethod).set "captured_at"
        (toString time) }

/-- `confirm_payment`, called at `time`. -/
def confirmPayment (intents : Intents) (paymentIntentId : String) (time : ℤ)
    (paymentMethod : String := "pm_card_visa") : Except PyError PaymentIntent × Intents :=
  match intents.find paymentIntentId with
  | none => (.error (.intentNotFound s!"Payment intent {paymentIntentId} not found"), intents)
  | some intent =>
    let intent' := attempt intent time paymentMethod
    (.ok intent', intents.put intent')

@[simp] lemma attempt_id (intent : PaymentIntent) (time : ℤ) (paymentMethod : String) :
    (attempt intent time paymentMethod).id = intent.id := by
  unfold attempt
  split <;> rfl

@[simp] lemma attempt_amount (intent : PaymentIntent) (time : ℤ) (paymentMethod : String) :
    (attempt intent time paymentMethod).amount = intent.amount := by
  unfold attempt
  split <;> rfl

lemma attempt_status (intent : PaymentIntent) (time : ℤ) (paymentMethod : String) :
    (attempt intent time paymentMethod).status =
      if limit < intent.amount.amount then .failed else .succeeded := by
  unfold attempt
  split <;> rfl

end PaymentSimulatorAdapter

end TicketGenius
