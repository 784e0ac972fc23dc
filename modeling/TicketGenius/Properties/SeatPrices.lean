import TicketGenius.Properties.Purchase

/-!
# The price of a set of seats

`calculate_total_for_seats` should add up the prices of its seats, so that neither their order nor
how they are grouped matters, and seats of sections without a price cost what general admission
does.  Its first line needs the name `Decimal`, which `domain/models.py` does not import at module
level, so there is no total for any list, the empty one included.

An amount is counted in hundredths, of which a `Money` has whole ones.
-/

namespace TicketGenius.SeatPrices

/-! ## What a seat costs -/

/-- The price of a seat: that of its section if the table has one, and `min_price` otherwise. -/
def price (plan : Plan) (seat : Seat) : ℤ :=
  (plan.seatPricesJson.lookup seat.seatId.section).getD (plan.minPrice.amount.scaled (-2))

/-- No seat is in a section with a price. -/
def Unpriced (plan : Plan) (seats : List Seat) : Prop :=
  ∀ seat ∈ seats, plan.seatPricesJson.lookup seat.seatId.section = none

/-- `calculate_total_for_seats` returns that many hundredths of a euro. -/
def Totals (plan : Plan) (seats : List Seat) (hundredths : ℤ) : Prop :=
  ∃ total, plan.calculateTotalForSeats seats = .ok total ∧ total.currency = .eur ∧
    total.amount.scaled (-2) = hundredths

/-- The law of the total. -/
structure AddsUp (plan : Plan) (seats : List Seat) : Prop where
  sum : Totals plan seats (seats.map (price plan)).sum
  permuted : ∀ seats', seats'.Perm seats → ∃ n, Totals plan seats n ∧ Totals plan seats' n
  appended : ∀ seats', ∃ n n', Totals plan seats n ∧ Totals plan seats' n' ∧
    Totals plan (seats ++ seats') (n + n')
  generalAdmission : Unpriced plan seats → ∃ admission,
    plan.minPrice.mul seats.length = .ok admission ∧
      Totals plan seats (admission.amount.scaled (-2))

/-! ## There is no total -/

lemma not_totals (plan : Plan) (seats : List Seat) (hundredths : ℤ) :
    ¬ Totals plan seats hundredths := by
  rintro ⟨total, htotal, -⟩
  rw [plan.calculateTotalForSeats_eq] at htotal
  cases htotal

/-- **No set of seats has a price**, whatever the plan charges: neither the sum of its seats nor any
other. -/
theorem never_addsUp (plan : Plan) (seats : List Seat) :
    ¬ AddsUp plan seats ∧ ∀ hundredths, ¬ Totals plan seats hundredths :=
  ⟨fun h => not_totals _ _ _ h.sum, not_totals plan seats⟩

/-- Two seats side by side. -/
def pair : List Seat :=
  [⟨⟨"Stalls", "F", "11", by decide, by decide, by decide⟩⟩,
    ⟨⟨"Stalls", "F", "12", by decide, by decide, by decide⟩⟩]

/-- Two seats at ten euros each, without any section prices. -/
theorem pair_without_price :
    ¬ ∀ plan seats, plan.minPrice.currency = .eur → AddsUp plan seats := by
  intro h
  exact not_totals _ _ _ (h Purchase.concert pair rfl).sum

end TicketGenius.SeatPrices
