import TicketGenius.Domain.ValueObjects

/-!
# The mapping of prices and seats to their columns

`_money_composite` of `adapters/orm.py` maps a `Money` to two columns, an `Integer` called
`…_cents` and a currency.  SQLAlchemy writes what the value's own `__composite_values__` returns
and rebuilds the value by calling the composite's callable on the columns.  The function
`_make_money` carries an attribute `__composite_values__` too, which nothing calls.

`_seats_composite` maps the seats of an order to one column of JSON.  It has two functions for the
two directions, of which it hands SQLAlchemy the reading one.
-/

namespace TicketGenius

/-- `Money.__composite_values__` -/
def Money.compositeValues (self : Money) : Decimal × Currency := (self.amount, self.currency)

/-- `_make_money` -/
def makeMoney (cents : ℤ) (curr : Currency) : Except PyError Money :=
  Money.ofArith ((Decimal.ofInt cents).div 100) curr

/-- `int(amount * 100)`, which `SqlAlchemyPlanRepository.update` puts into a `…_cents` column. -/
def Money.cents (self : Money) : Except PyError ℤ :=
  match self.amount.mul 100 with
  | none => .error .decimalOverflow
  | some d => .ok d.toInt

/-! ## Seats -/

/-- `Seat.__init__() got an unexpected keyword argument 'key'`. -/
def Seat.unexpectedKeyword (key : String) : PyError :=
  .typeError s!"Seat.__init__() got an unexpected keyword argument '{key}'"

/-- `Seat(**kwargs)`, for values that come from a document.  The class has the one field `seat_id`,
and no such value is a `SeatId`. -/
def Seat.ofKeywords (kwargs : List (String × Json)) : Except PyError Seat :=
  match kwargs.find? (·.1 != "seat_id") with
  | some (key, _) => .error (Seat.unexpectedKeyword key)
  | none =>
    if kwargs.isEmpty then
      .error (.typeError "Seat.__init__() missing 1 required positional argument: 'seat_id'")
    else .error (.valueError "Seat must have a SeatId")

/-- `Seat(**s)`, for a document. -/
def Seat.ofDocument : Json → Except PyError Seat
  | .obj kwargs => Seat.ofKeywords kwargs
  | s => .error (.typeError
      s!"domain.value_objects.Seat() argument after ** must be a mapping, not {s.typeName}")

/-- What `for s in document` goes through. -/
def Json.iterate : Json → Except PyError (List Json)
  | .arr items => .ok items
  | .obj fields => .ok (fields.map fun (key, _) => .str key)
  | .str s => .ok (s.toList.map fun c => .str (String.singleton c))
  | document => .error (.typeError s!"'{document.typeName}' object is not iterable")

/-- `_make_seats` -/
def makeSeats (seatsJson : Json) : Except PyError (List Seat) :=
  if !seatsJson.truthy then .ok []
  else do (← seatsJson.iterate).mapM Seat.ofDocument

/-- The entry of `_seats_to_json` for a seat. -/
def Seat.toJson (self : Seat) : Json :=
  .obj [("section", .str self.seatId.section), ("row", .str self.seatId.row),
    ("number", .str self.seatId.number)]

/-- `_seats_to_json` -/
def seatsToJson (seats : List Seat) : Json :=
  if seats.isEmpty then .null else .arr (seats.map Seat.toJson)

/-- A seat is refused for its first keyword. -/
lemma ofDocument_toJson (seat : Seat) :
    Seat.ofDocument seat.toJson = .error (Seat.unexpectedKeyword "section") := by
  have hsection : ("section" != "seat_id") = true := by decide
  simp only [Seat.toJson, Seat.ofDocument, Seat.ofKeywords, List.find?_cons, hsection]

/-- An order with a seat cannot be loaded. -/
lemma makeSeats_seatsToJson_cons (seat : Seat) (seats : List Seat) :
    makeSeats (seatsToJson (seat :: seats)) = .error (Seat.unexpectedKeyword "section") := by
  change ((seat :: seats).map Seat.toJson).mapM Seat.ofDocument = _
  rw [List.map_cons, List.mapM_cons, ofDocument_toJson]
  rfl

/-! ## The database -/

/-- The largest value of an `Integer` column. -/
def integerMax : ℤ := 2147483647

/-- An `Integer` column, as a function from the numbers written to it, stores the nearest
integer. -/
def RoundsToNearest (store : Decimal → ℤ) : Prop :=
  ∀ d : Decimal, -2 ≤ d.exp → |100 * store d - d.scaled (-2)| ≤ 50

/-- The cast of a `numeric` to an `integer`: halves go away from zero. -/
def castToInteger (d : Decimal) : ℤ :=
  let magnitude := d.coeff * 10 ^ d.exp.toNat
  let unit := 10 ^ (-d.exp).toNat
  (if d.negative then -1 else 1) * ((2 * magnitude + unit) / (2 * unit) : ℕ)

end TicketGenius
