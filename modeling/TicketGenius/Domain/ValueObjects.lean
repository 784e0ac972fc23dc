import TicketGenius.Domain.Exceptions
import TicketGenius.Language.Decimal
import TicketGenius.Language.Split

/-!
# Value objects

The dataclasses of `domain/value_objects.py`.  What a `__post_init__` checks is a field of the
structure, so a value that exists has passed the check; `make` is the checking constructor, with
the exceptions of the source.
-/

namespace TicketGenius

/-! ## Money -/

inductive Currency
  | eur
  | usd
  | gbp
deriving DecidableEq

/-- `currency.value` -/
def Currency.value : Currency → String
  | .eur => "EUR"
  | .usd => "USD"
  | .gbp => "GBP"

/-- A non-negative amount with at most two decimal places, in a currency. -/
structure Money where
  amount : Decimal
  currency : Currency
  not_negative : ¬ amount < 0
  places : ¬ amount.exp < -2
deriving DecidableEq

namespace Money

/-- `Money(amount, currency)`. -/
def make (amount : Decimal) (currency : Currency) : Except PyError Money :=
  if hneg : amount < 0 then .error (.valueError "Money amount cannot be negative")
  else if hplaces : amount.exp < -2 then
    .error (.valueError "Money amount cannot have more than 2 decimal places")
  else .ok ⟨amount, currency, hneg, hplaces⟩

lemma make_eq_ok {amount : Decimal} {currency : Currency} {money : Money} :
    make amount currency = .ok money ↔ money.amount = amount ∧ money.currency = currency := by
  unfold make
  constructor
  · intro h
    split at h
    · cases h
    · split at h
      · cases h
      · cases h
        exact ⟨rfl, rfl⟩
  · rintro ⟨rfl, rfl⟩
    rw [dif_neg money.not_negative, dif_neg money.places]

/-- A whole number of euros. -/
def euros (n : ℕ) : Money where
  amount := Decimal.ofInt n
  currency := .eur
  not_negative := by
    change ¬ (Decimal.ofInt n).scaled 0 < (Decimal.ofInt 0).scaled 0
    have hn : ¬ (n : ℤ) < 0 := by omega
    simp [Decimal.scaled, Decimal.ofInt, hn]
  places := by
    change ¬ (0 : ℤ) < -2
    decide

/-- The result of a computation with `Decimal`s, or `decimal.Overflow`. -/
def ofArith (amount : Option Decimal) (currency : Currency) : Except PyError Money :=
  match amount with
  | none => .error .decimalOverflow
  | some amount => make amount currency

/-- `self + other`. -/
def add (self other : Money) : Except PyError Money :=
  if self.currency ≠ other.currency then
    .error (.valueError "Cannot add Money with different currencies")
  else ofArith (self.amount.add other.amount) self.currency

/-- `self * factor`. -/
def mul (self : Money) (factor : ℤ) : Except PyError Money :=
  ofArith (self.amount.mul (Decimal.ofInt factor)) self.currency

end Money

/-! ## Seats -/

/-- A seat identifier `section-row-number`. -/
structure SeatId where
  «section» : String
  row : String
  number : String
  section_ne : «section» ≠ ""
  row_ne : row ≠ ""
  number_ne : number ≠ ""
deriving DecidableEq

/-- `SeatId(section, row, number)`. -/
def SeatId.make (sec row number : String) : Except PyError SeatId :=
  if h : sec ≠ "" ∧ row ≠ "" ∧ number ≠ "" then .ok ⟨sec, row, number, h.1, h.2.1, h.2.2⟩
  else .error (.valueError "SeatId section, row, and number are required")

/-- `str(seat_id)` -/
def SeatId.str (self : SeatId) : String :=
  self.section ++ "-" ++ self.row ++ "-" ++ self.number

/-- `SeatId.from_string(s)` -/
def SeatId.fromString (s : String) : Except PyError SeatId :=
  match splitText '-' s with
  | [sec, row, number] => SeatId.make sec row number
  | _ => .error (.valueError s!"Invalid SeatId format: {s}. Expected 'section-row-number'")

lemma SeatId.str_eq_joinText (self : SeatId) :
    self.str = joinText '-' [self.section, self.row, self.number] := by
  rw [← String.toList_inj]
  simp [SeatId.str, joinText, List.intercalate]

lemma SeatId.make_eq_ok {sec row number : String} {seatId : SeatId} :
    SeatId.make sec row number = .ok seatId ↔
      seatId.section = sec ∧ seatId.row = row ∧ seatId.number = number := by
  unfold SeatId.make
  constructor
  · intro h
    split at h
    · cases h
      exact ⟨rfl, rfl, rfl⟩
    · cases h
  · rintro ⟨rfl, rfl, rfl⟩
    exact dif_pos ⟨seatId.section_ne, seatId.row_ne, seatId.number_ne⟩

/-- `seat_id.to_seat()`, which the handlers call and the class does not define. -/
def SeatId.toSeat (_ : SeatId) : Except PyError α := .error (.noAttribute "SeatId" "to_seat")

structure Seat where
  seatId : SeatId
deriving DecidableEq

/-- `Seat.from_string(s)` -/
def Seat.fromString (s : String) : Except PyError Seat := do
  return ⟨← SeatId.fromString s⟩

/-- `str(seat)`: a seat has a `__repr__` only, which shows `str(seat_id)`. -/
def Seat.str (self : Seat) : String := "Seat(seat_id=" ++ self.seatId.str ++ ")"

/-- `f"{s.section}-{s.row}-{s.number}"`. -/
def Seat.text (s : Seat) : String :=
  s.seatId.section ++ "-" ++ s.seatId.row ++ "-" ++ s.seatId.number

/-! ## Dates -/

/-- `a >= b`. -/
def PyDateTime.ge : PyDateTime → PyDateTime → Except PyError Bool
  | .aware a, .aware b => .ok (decide (b.micros ≤ a.micros))
  | .naive a, .naive b => .ok (decide (b.micros ≤ a.micros))
  | _, _ => .error (.typeError "can't compare offset-naive and offset-aware datetimes")

lemma PyDateTime.ge_self (t : PyDateTime) : t.ge t = .ok true := by
  cases t with
  | aware t => simp [PyDateTime.ge]
  | naive t => simp [PyDateTime.ge]

/-- A start before an end, in a named time zone.  The name is what the provider sent, whatever its
type is. -/
structure DateRange where
  start : PyDateTime
  «end» : PyDateTime
  timezone : Json
  ordered : start.ge «end» = .ok false
  zoned : timezone.truthy = true

/-- `DateRange(start, end, timezone)`. -/
def DateRange.make (start stop : PyDateTime) (timezone : Json) : Except PyError DateRange :=
  match hge : start.ge stop with
  | .error e => .error e
  | .ok true => .error (.valueError "DateRange start must be before end")
  | .ok false =>
    if hzone : timezone.truthy = true then .ok ⟨start, stop, timezone, hge, hzone⟩
    else .error (.valueError "DateRange timezone is required")

lemma DateRange.make_eq_ok {start stop : PyDateTime} {timezone : Json} {range : DateRange} :
    DateRange.make start stop timezone = .ok range ↔
      range.start = start ∧ range.end = stop ∧ range.timezone = timezone := by
  unfold DateRange.make
  constructor
  · intro h
    split at h
    · cases h
    · cases h
    · split at h
      · cases h
        exact ⟨rfl, rfl, rfl⟩
      · cases h
  · rintro ⟨rfl, rfl, rfl⟩
    split
    · next e hge => exact nomatch range.ordered.symm.trans hge
    · next hge => exact nomatch range.ordered.symm.trans hge
    · exact dif_pos range.zoned

/-! ## Quantity and attendee -/

/-- A number of tickets between 1 and 8. -/
structure TicketQuantity where
  value : ℤ
  bounds : 1 ≤ value ∧ value ≤ 8
deriving DecidableEq

lemma TicketQuantity.one_bounds : (1 : ℤ) ≤ 1 ∧ (1 : ℤ) ≤ 8 := by decide

/-- `TicketQuantity(value)`. -/
def TicketQuantity.make (value : ℤ) : Except PyError TicketQuantity :=
  if h : 1 ≤ value ∧ value ≤ 8 then .ok ⟨value, h⟩
  else .error (.valueError "TicketQuantity must be between 1 and 8")

/-- A named attendee with an email address. -/
structure AttendeeInfo where
  name : String
  email : String
  phone : Option String
  name_given : isBlank name = false
  email_valid : '@' ∈ email.toList
deriving DecidableEq

/-- `AttendeeInfo(name, email, phone)`. -/
def AttendeeInfo.make (name email : String) (phone : Option String) :
    Except PyError AttendeeInfo :=
  if hname : isBlank name = false then
    if hemail : '@' ∈ email.toList then .ok ⟨name, email, phone, hname, hemail⟩
    else .error (.valueError "Valid attendee email is required")
  else .error (.valueError "Attendee name is required")

end TicketGenius
