import TicketGenius.Domain.Events

/-!
# The `Payment` aggregate

`Payment` of `domain/models.py`, with the same division into row and instance as `Order`.  No
method of `Payment` raises an event, so the instance keeps no event list here.
-/

namespace TicketGenius

/-! ## Rows and instances -/

inductive PaymentStatus
  | created
  | authorized
  | captured
  | failed
  | refunded
  | partiallyRefunded
deriving DecidableEq

/-- The text of a status in the database. -/
def PaymentStatus.value : PaymentStatus → String
  | .created => "CREATED"
  | .authorized => "AUTHORIZED"
  | .captured => "CAPTURED"
  | .failed => "FAILED"
  | .refunded => "REFUNDED"
  | .partiallyRefunded => "PARTIALLY_REFUNDED"

/-- The fields of `Payment` that the mapper stores. -/
structure PaymentRow where
  paymentId : UUID
  orderId : UUID
  amount : Money
  provider : String
  status : PaymentStatus
  providerRef : Option String
  intentId : Option String
  version : ℤ
deriving DecidableEq

/-- A refund of `amount` refunds the whole payment. -/
def PaymentRow.refundsAll (self : PaymentRow) : Option Money → Prop
  | none => True
  | some amount => self.amount.amount ≤ amount.amount

instance (self : PaymentRow) : DecidablePred self.refundsAll
  | none => inferInstanceAs (Decidable True)
  | some amount => inferInstanceAs (Decidable (self.amount.amount ≤ amount.amount))

/-- An instance of `Payment`. -/
structure Payment extends PaymentRow where
  statusLoaded : Bool

/-! ## Methods -/

abbrev PaymentM := EStateM PyError Payment

namespace Payment

/-- `f"{self.status}"`. -/
def statusText (self : Payment) : String :=
  if self.statusLoaded then self.status.value else "PaymentStatus." ++ self.status.value

/-- The guard all transitions start with. -/
def requireStatus (action : String) (allowed : List PaymentStatus) : PaymentM Unit := do
  let self ← get
  if self.status ∉ allowed then
    throw (.valueError s!"Cannot {action} in status {self.statusText}")

/-- The assignment to `status` and `version` all transitions make. -/
def moveTo (status : PaymentStatus) : PaymentM Unit :=
  modify fun self =>
    { self with status := status, statusLoaded := false, version := self.version + 1 }

/-- `Payment.create`. -/
def create (paymentId orderId : UUID) (amount : Money) (provider intentId : String) :
    Payment where
  paymentId := paymentId
  orderId := orderId
  amount := amount
  provider := provider
  status := .created
  providerRef := none
  intentId := some intentId
  version := 1
  statusLoaded := false

/-- `authorize`, which no handler calls. -/
def authorize : PaymentM Unit := do
  requireStatus "authorize" [.created]
  moveTo .authorized

/-- `capture`. -/
def capture (providerRef : String) : PaymentM Unit := do
  requireStatus "capture" [.authorized]
  modify fun self => { self with providerRef := some providerRef }
  moveTo .captured

/-- `fail`; the reason is not kept. -/
def fail (_reason : String) : PaymentM Unit := do
  requireStatus "fail" [.created, .authorized]
  moveTo .failed

/-- `refund`. -/
def refund (amount : Option Money) : PaymentM Unit := do
  requireStatus "refund" [.captured]
  let self ← get
  moveTo (if self.refundsAll amount then .refunded else .partiallyRefunded)

/-! ## Specifications -/

/-- The exception of a transition that is refused in the present status. -/
def refusal (action : String) (self : Payment) : PyError :=
  .valueError s!"Cannot {action} in status {self.statusText}"

section Specifications

variable (self : Payment)

lemma run_requireStatus (action : String) (allowed : List PaymentStatus) :
    (requireStatus action allowed).run self =
      if self.status ∈ allowed then .ok () self else .error (refusal action self) self := by
  by_cases h : self.status ∈ allowed
  · simp [requireStatus, h]
  · simp [requireStatus, refusal, h]

@[simp] lemma run_moveTo (status : PaymentStatus) :
    (moveTo status).run self =
      .ok () { self with status := status, statusLoaded := false, version := self.version + 1 } :=
  rfl

lemma run_authorize :
    authorize.run self =
      if self.status = .created then
        .ok () { self with
          status := .authorized, statusLoaded := false, version := self.version + 1 }
      else .error (refusal "authorize" self) self := by
  by_cases h : self.status = .created
  · simp [authorize, run_requireStatus, h]
  · simp [authorize, run_requireStatus, h]

lemma run_capture (providerRef : String) :
    (capture providerRef).run self =
      if self.status = .authorized then
        .ok () { self with
          providerRef := some providerRef, status := .captured, statusLoaded := false
          version := self.version + 1 }
      else .error (refusal "capture" self) self := by
  by_cases h : self.status = .authorized
  · simp [capture, run_requireStatus, h]
  · simp [capture, run_requireStatus, h]

lemma run_fail (reason : String) :
    (fail reason).run self =
      if self.status = .created ∨ self.status = .authorized then
        .ok () { self with status := .failed, statusLoaded := false, version := self.version + 1 }
      else .error (refusal "fail" self) self := by
  by_cases h : self.status = .created ∨ self.status = .authorized
  · simp [fail, run_requireStatus, h]
  · simp [fail, run_requireStatus, h]

lemma run_refund (amount : Option Money) :
    (refund amount).run self =
      if self.status = .captured then
        .ok () { self with
          status := if self.refundsAll amount then .refunded else .partiallyRefunded
          statusLoaded := false, version := self.version + 1 }
      else .error (refusal "refund" self) self := by
  by_cases h : self.status = .captured
  · simp [refund, run_requireStatus, h]
  · simp [refund, run_requireStatus, h]

end Specifications

end Payment

end TicketGenius
