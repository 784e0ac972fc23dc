import TicketGenius.Domain.Payment
import TicketGenius.Framework.Run
import TicketGenius.Language.ExactDecimal

/-!
# The ledger of refunds

A captured payment receives any sequence of calls of `refund`.  The ledger keeps, beside the
payment, what the accepted calls gave back, in hundredths and with the currency of the call.

`refund` compares the bare number it is given with the captured number, and only to tell a full
refund from a partial one.  It accepts a larger number, and it accepts any currency.  Both refunds
of a payment are its first accepted call, since an accepted call leaves a status that refuses all
others; so a run keeps the books exactly if its first amount does.
-/

namespace TicketGenius.RefundLedger

open Framework

/-! ## The books -/

/-- What one accepted call gave back. -/
structure Entry where
  hundredths : ℤ
  currency : Currency

/-- A payment with the refunds accepted so far. -/
structure Ledger where
  payment : Payment
  entries : List Entry

/-- The value of an amount, in hundredths of its unit. -/
def hundredths (m : Money) : ℤ := m.amount.scaled (-2)

namespace Ledger

/-- The sum of all refunds, whatever their currencies are. -/
def total (l : Ledger) : ℤ := (l.entries.map Entry.hundredths).sum

/-- What a call with this amount asks for; no amount stands for all that is left. -/
def entry (l : Ledger) : Option Money → Entry
  | none => ⟨hundredths l.payment.amount - l.total, l.payment.amount.currency⟩
  | some amount => ⟨hundredths amount, amount.currency⟩

/-- One more call. -/
def step (l : Ledger) (amount : Option Money) : Ledger :=
  match (Payment.refund amount).run l.payment with
  | .ok _ payment => ⟨payment, l.entries ++ [l.entry amount]⟩
  | .error _ payment => ⟨payment, l.entries⟩

/-- The ledger when nothing has been refunded. -/
def opening (payment : Payment) : Ledger := ⟨payment, []⟩

end Ledger

/-- **The law of one call.**  If it is accepted, its amount is in the currency of the payment, the
total is still covered, and the status tells whether all is refunded; if it raises, status and
version are as before. -/
def Lawful (l : Ledger) (amount : Option Money) : Prop :=
  match (Payment.refund amount).run l.payment with
  | .ok _ payment =>
    let l' : Ledger := ⟨payment, l.entries ++ [l.entry amount]⟩
    (l.entry amount).currency = l.payment.amount.currency ∧
      l'.total ≤ hundredths l.payment.amount ∧
      payment.status =
        if l'.total = hundredths l.payment.amount then .refunded else .partiallyRefunded
  | .error _ payment =>
    payment.status = l.payment.status ∧ payment.version = l.payment.version

/-- An amount the payment covers, in its currency. -/
def Within (payment : Payment) : Option Money → Prop
  | none => True
  | some amount =>
    amount.currency = payment.amount.currency ∧ amount.amount ≤ payment.amount.amount

/-! ## One call -/

section Call

variable {l : Ledger} (amount : Option Money)

/-- A payment that is not captured refuses every refund. -/
lemma refused (h : l.payment.status ≠ .captured) :
    l.step amount = l ∧ Lawful l amount := by
  have hrun : (Payment.refund amount).run l.payment =
      .error (Payment.refusal "refund" l.payment) l.payment := by
    rw [Payment.run_refund, if_neg h]
  refine ⟨?_, ?_⟩
  · rw [Ledger.step, hrun]
  · rw [Lawful, hrun]
    exact ⟨rfl, rfl⟩

/-- The status an accepted refund leaves. -/
def statusAfter (payment : Payment) (amount : Option Money) : PaymentStatus :=
  if payment.refundsAll amount then .refunded else .partiallyRefunded

lemma run_refund_captured {payment : Payment} (h : payment.status = .captured) :
    (Payment.refund amount).run payment = .ok () { payment with
      status := statusAfter payment amount, statusLoaded := false
      version := payment.version + 1 } := by
  rw [Payment.run_refund, if_pos h]
  rfl

lemma statusAfter_ne_captured (payment : Payment) : statusAfter payment amount ≠ .captured := by
  unfold statusAfter
  split
  · simp
  · simp

/-- After one accepted refund the payment is not captured any more. -/
lemma step_not_captured (h : l.payment.status = .captured) :
    (l.step amount).payment.status ≠ .captured := by
  rw [Ledger.step, run_refund_captured amount h]
  exact statusAfter_ne_captured amount l.payment

end Call

/-- The comparison `refund` makes, in hundredths. -/
lemma refundsAll_some_iff (payment : Payment) (amount : Money) :
    payment.refundsAll (some amount) ↔ hundredths payment.amount ≤ hundredths amount :=
  Decimal.le_iff (not_lt.mp payment.amount.places) (not_lt.mp amount.places)

/-- **The first call is lawful exactly if its amount is covered**, and in the right currency. -/
theorem lawful_opening_iff {payment : Payment} (h : payment.status = .captured)
    (amount : Option Money) :
    Lawful (Ledger.opening payment) amount ↔ Within payment amount := by
  have hrun := run_refund_captured amount h
  cases amount with
  | none =>
    have hall : payment.refundsAll none := trivial
    simp [Lawful, Ledger.opening, Ledger.entry, Ledger.total, Within, hrun, statusAfter, hall]
  | some amount =>
    have hcovered : amount.amount ≤ payment.amount.amount ↔
        hundredths amount ≤ hundredths payment.amount :=
      Decimal.le_iff (not_lt.mp amount.places) (not_lt.mp payment.amount.places)
    have hlaw : Lawful (Ledger.opening payment) (some amount) ↔
        amount.currency = payment.amount.currency ∧
          hundredths amount ≤ hundredths payment.amount ∧
          statusAfter payment (some amount) =
            if hundredths amount = hundredths payment.amount then .refunded
            else .partiallyRefunded := by
      simp [Lawful, Ledger.opening, Ledger.entry, Ledger.total, hrun]
    rw [hlaw, Within, hcovered]
    constructor
    · rintro ⟨hcurrency, hle, -⟩
      exact ⟨hcurrency, hle⟩
    · rintro ⟨hcurrency, hle⟩
      refine ⟨hcurrency, hle, ?_⟩
      have hfull : payment.refundsAll (some amount) ↔
          hundredths amount = hundredths payment.amount := by
        rw [refundsAll_some_iff]
        omega
      unfold statusAfter
      exact if_congr hfull rfl rfl

/-! ## Runs -/

/-- **A run of refunds is lawful exactly if its first amount is within the captured one.** -/
theorem lawful_iff (payment : Payment) (hcaptured : payment.status = .captured)
    (amounts : List (Option Money)) :
    Guarded Ledger.step Lawful (Ledger.opening payment) amounts ↔
      ∀ amount ∈ amounts.head?, Within payment amount := by
  cases amounts with
  | nil => simp
  | cons amount amounts =>
    -- The calls after the first meet a payment that refuses them.
    have hrest : Guarded Ledger.step Lawful ((Ledger.opening payment).step amount) amounts := by
      apply Guarded.of_invariant (I := fun l => l.payment.status ≠ .captured)
      · intro l a hl
        rwa [(refused a hl).1]
      · intro l a hl
        exact (refused a hl).2
      · exact step_not_captured amount hcaptured
    have hfirst := lawful_opening_iff hcaptured amount
    rw [List.head?_cons, Guarded, hfirst]
    simp [hrest]

/-! ### Twenty euros of ten -/

/-- A captured payment of ten euros. -/
def tenEuros : Payment where
  paymentId := .nil
  orderId := .nil
  amount := Money.euros 10
  provider := "simulator"
  status := .captured
  providerRef := some "pi_1"
  intentId := some "pi_1"
  version := 3
  statusLoaded := true

/-- A refund of half of it keeps the books, also when it is tried twice. -/
theorem half_refund_lawful :
    Guarded Ledger.step Lawful (Ledger.opening tenEuros)
      [some (Money.euros 5), some (Money.euros 5)] := by
  apply (lawful_iff tenEuros rfl _).mpr
  rintro amount hamount
  obtain rfl : some (Money.euros 5) = amount := Option.some.inj hamount
  exact ⟨rfl, by decide⟩

/-- A refund of twenty is accepted. -/
theorem over_refund_accepted :
    ¬ ∀ (payment : Payment) (amounts : List (Option Money)), payment.status = .captured →
      Guarded Ledger.step Lawful (Ledger.opening payment) amounts := by
  intro h
  have hlawful := (h tenEuros [some (Money.euros 20)] rfl).1
  have hwithin : Within tenEuros (some (Money.euros 20)) :=
    (lawful_opening_iff rfl (some (Money.euros 20))).mp hlawful
  have hle := hwithin.2
  revert hle
  decide

end TicketGenius.RefundLedger
