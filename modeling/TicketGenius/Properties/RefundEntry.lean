import TicketGenius.Cli.Commands
import TicketGenius.Entrypoints.Api
import TicketGenius.Properties.Catalogue
import TicketGenius.ServiceLayer.TransitionSpec

/-!
# Two ways to ask for a refund

An operator asks for a refund on the command line and a client over HTTP, both with a text that
denotes an amount in euros.  Their commands should carry the same `Money`.  The route carries the
amount; `create_refund` takes it to cents and then calls them euros, so it carries a hundred times
the amount.

`statuses_agree_iff` is what becomes of a payment: for amounts up to a hundredth of it the two
commands still agree that the refund is a partial one.
-/

namespace TicketGenius.RefundEntry

open Framework OrderCommandHandler

/-! ## The property -/

/-- The text denotes the amount, which is positive and has at most two decimals. -/
structure Denotes (lib : StandardLibrary) (text : String) (amount : Decimal) : Prop where
  decimal : lib.decimal text = .ok amount
  positive : 0 < amount
  places : ∃ n : ℤ, amount.toRat * 100 = n

/-- The command asks to refund exactly that many euros of the order. -/
structure Refunds (cmd : RefundOrderCommand) (orderId : UUID) (amount : Decimal) : Prop where
  orderId : cmd.orderId = orderId
  money : ∃ money, cmd.amount = some money ∧ money.currency = .eur ∧ money.amount.NumEq amount

/-- The status of the payment of an order, if there is one, after the command has been handled. -/
def statusAfter (handler : OrderCommandHandler) (cmd : RefundOrderCommand) (w : World)
    (orderId : UUID) : Option PaymentStatus :=
  (((handler.handleRefundOrder cmd).after World.handle w).payments.find orderId).map
    PaymentRow.status

/-- The body of a request to refund that many euros. -/
def request (amount : Decimal) : RefundOrderRequest := ⟨some ⟨amount, Currency.eur.value⟩⟩

/-- Both entry points refund the amount, and leave the same statuses. -/
def MeanTheSame (lib : StandardLibrary) (orderId : UUID) (text : String) (amount : Decimal) :
    Prop :=
  ∃ cli http, Cli.createRefund lib orderId text = .ok cli ∧
    Api.refundOrder orderId (request amount) = .ok http ∧
    Refunds cli orderId amount ∧ Refunds http orderId amount ∧
    ∀ handler w id, statusAfter handler cli w id = statusAfter handler http w id

/-! ## The two commands -/

section Commands

variable {lib : StandardLibrary} {text : String} {amount : Decimal}

lemma Denotes.toRat_pos (h : Denotes lib text amount) : 0 < amount.toRat := by
  have hpositive := (Decimal.lt_iff_toRat 0 amount).mp h.positive
  rwa [Decimal.toRat_zero] at hpositive

/-- A whole number that is not negative, as `Money`. -/
lemma exists_money {n : ℤ} (hn : 0 ≤ n) :
    ∃ money, Money.make (.ofInt n) .eur = .ok money ∧ money.amount = .ofInt n ∧
      money.currency = .eur := by
  have hneg : ¬ Decimal.ofInt n < 0 := by
    rw [Decimal.lt_iff_toRat, Decimal.toRat_ofInt, Decimal.toRat_zero, not_lt]
    exact_mod_cast hn
  have hplaces : ¬ (Decimal.ofInt n).exp < -2 := by
    show ¬ (0 : ℤ) < -2
    omega
  exact ⟨⟨.ofInt n, .eur, hneg, hplaces⟩, Money.make_eq_ok.mpr ⟨rfl, rfl⟩, rfl, rfl⟩

/-- **The command line refunds a hundred times the amount.** -/
theorem createRefund_hundredfold (h : Denotes lib text amount) (orderId : UUID) :
    ∃ money, Cli.createRefund lib orderId text = .ok ⟨orderId, some money⟩ ∧
      money.currency = .eur ∧ money.amount.toRat = 100 * amount.toRat := by
  obtain ⟨n, hn⟩ := h.places
  have hnonneg : 0 ≤ n := by
    have hpos := h.toRat_pos
    have hcents : (0 : ℚ) ≤ n := by
      rw [← hn]
      positivity
    exact_mod_cast hcents
  obtain ⟨money, hmake, hamount, hcurrency⟩ := exists_money hnonneg
  refine ⟨money, ?_, hcurrency, ?_⟩
  · have hfloat : lib.float text = .ok amount.toRat := by rw [StandardLibrary.float, h.decimal]
    have hcents : Money.make (.ofInt (truncate (amount.toRat * 100))) .eur = .ok money := by
      rw [hn, truncate_intCast, hmake]
    simp only [Cli.createRefund, Except.bind_eq_ok]
    exact ⟨_, hfloat, money, hcents, rfl⟩
  · rw [hamount, Decimal.toRat_ofInt, ← hn, mul_comm]

/-- The route refunds the amount, if it is written with at most two decimals. -/
theorem refundOrder_exact (h : 0 < amount) (hplaces : -2 ≤ amount.exp) (orderId : UUID) :
    ∃ money, Api.refundOrder orderId (request amount) = .ok ⟨orderId, some money⟩ ∧
      money.amount = amount ∧ money.currency = .eur := by
  have hneg : ¬ amount < 0 := by
    rw [Decimal.lt_iff_toRat] at h ⊢
    exact h.asymm
  refine ⟨⟨amount, .eur, hneg, by omega⟩, ?_, rfl, rfl⟩
  have hmake : Money.make amount .eur = .ok ⟨amount, .eur, hneg, by omega⟩ :=
    Money.make_eq_ok.mpr ⟨rfl, rfl⟩
  simp only [Api.refundOrder, request, Except.bind_eq_ok]
  exact ⟨_, Currency.make_value .eur, _, hmake, rfl⟩

/-- **The entry points never mean the same.** -/
theorem never_meanTheSame (h : Denotes lib text amount) (orderId : UUID) :
    ¬ MeanTheSame lib orderId text amount := by
  rintro ⟨cli, http, hcli, -, hrefunds, -⟩
  obtain ⟨money, hcreate, -, hvalue⟩ := createRefund_hundredfold h orderId
  rw [hcreate] at hcli
  cases hcli
  obtain ⟨money', hmoney, -, hequal⟩ := hrefunds.money
  cases hmoney
  rw [Decimal.numEq_iff_toRat, hvalue] at hequal
  have hpositive := h.toRat_pos
  linarith

/-! ## What becomes of a payment -/

section Payment

variable {handler : OrderCommandHandler} {w : World} {order : OrderRow} {payment : PaymentRow}

/-- The status a refund leaves, where it is allowed. -/
lemma statusAfter_of_allowed (cmd : RefundOrderCommand)
    (horder : w.orders.find cmd.orderId = some order) (hloads : handler.session.Loads order)
    (hpayment : w.payments.find cmd.orderId = some payment) (hrefundable : Refundable order)
    (hcaptured : payment.status = .captured) :
    statusAfter handler cmd w cmd.orderId =
      some (if payment.refundsAll cmd.amount then .refunded else .partiallyRefunded) := by
  obtain ⟨u, w', hrun⟩ :=
    handler.refund_returns horder hloads hpayment hrefundable hcaptured
  obtain ⟨_, payment', _, -, hpayment', -, -, hrefunded⟩ := handler.refund_ok hrun
  rw [hpayment] at hpayment'
  cases hpayment'
  have hkey : payment.orderId = cmd.orderId := w.payments.keyed _ _ hpayment
  rw [statusAfter, Prog.after_of_ok _ hrun, hrefunded.payments,
    Table.find_put_of_key (r := repaidRow payment cmd.amount) _ hkey]
  rfl

/-- **When a payment tells the difference**: if it is more than the amount, and at most a hundred
times as much, a partial refund becomes a full one. -/
theorem statuses_agree_iff (h : Denotes lib text amount) (hplaces : -2 ≤ amount.exp)
    {orderId : UUID} (horder : w.orders.find orderId = some order)
    (hloads : handler.session.Loads order)
    (hpayment : w.payments.find orderId = some payment) (hrefundable : Refundable order)
    (hcaptured : payment.status = .captured) :
    ∃ cli http, Cli.createRefund lib orderId text = .ok cli ∧
      Api.refundOrder orderId (request amount) = .ok http ∧
      (statusAfter handler cli w orderId = statusAfter handler http w orderId ↔
        ¬ (amount.toRat < payment.amount.amount.toRat ∧
          payment.amount.amount.toRat ≤ 100 * amount.toRat)) := by
  obtain ⟨dear, hcli, -, hdear⟩ := createRefund_hundredfold h orderId
  obtain ⟨plain, hhttp, hexact, -⟩ := refundOrder_exact h.positive hplaces orderId
  refine ⟨_, _, hcli, hhttp, ?_⟩
  rw [statusAfter_of_allowed ⟨orderId, some dear⟩ horder hloads hpayment hrefundable hcaptured,
    statusAfter_of_allowed ⟨orderId, some plain⟩ horder hloads hpayment hrefundable hcaptured]
  have hfull : payment.refundsAll (some dear) ↔
      payment.amount.amount.toRat ≤ 100 * amount.toRat := by
    rw [← hdear, ← Decimal.le_iff_toRat]
    rfl
  have hpartial : payment.refundsAll (some plain) ↔
      payment.amount.amount.toRat ≤ amount.toRat := by
    rw [← hexact, ← Decimal.le_iff_toRat]
    rfl
  have hpositive := h.toRat_pos
  simp only [hfull, hpartial]
  by_cases hlow : payment.amount.amount.toRat ≤ amount.toRat
  · have hhigh : payment.amount.amount.toRat ≤ 100 * amount.toRat := by linarith
    simp [hlow, hhigh]
  · by_cases hhigh : payment.amount.amount.toRat ≤ 100 * amount.toRat
    · simp [hlow, hhigh, not_le.mp hlow]
    · simp [hlow, hhigh]

end Payment

end Commands

/-! ### Twelve euros and fifty cents -/

/-- The standard library, on one more text. -/
def readsAmount : StandardLibrary :=
  { Catalogue.standardLibrary with
    decimal := fun text =>
      if text = "12.50" then .ok ⟨false, 1250, -2⟩ else Catalogue.standardLibrary.decimal text }

lemma denotes_amount : Denotes readsAmount "12.50" ⟨false, 1250, -2⟩ where
  decimal := rfl
  positive := by decide
  places := by
    refine ⟨1250, ?_⟩
    norm_num [Decimal.toRat]

/-- The command line refunds 1250 euros. -/
theorem amount_hundredfold :
    ¬ ∀ lib orderId text amount, Denotes lib text amount → MeanTheSame lib orderId text amount := by
  intro h
  obtain ⟨cli, http, hcli, -, hrefunds, -⟩ := h readsAmount .nil "12.50" _ denotes_amount
  obtain ⟨money, hcreate, -, hvalue⟩ := createRefund_hundredfold denotes_amount .nil
  rw [hcreate] at hcli
  cases hcli
  obtain ⟨money', hmoney, -, hequal⟩ := hrefunds.money
  cases hmoney
  rw [Decimal.numEq_iff_toRat, hvalue] at hequal
  norm_num [Decimal.toRat] at hequal

theorem amount_never_meanTheSame : ¬ MeanTheSame readsAmount .nil "12.50" ⟨false, 1250, -2⟩ :=
  never_meanTheSame denotes_amount .nil

end TicketGenius.RefundEntry
