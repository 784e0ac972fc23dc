import TicketGenius.Adapters.Orm
import TicketGenius.Domain.Plan
import TicketGenius.Framework.Raises

/-!
# The seats of a stored order

`_seats_to_json` writes a seat as its section, row and number, and `_make_seats` calls `Seat` with
what was written as keywords.  But `Seat` has the one field `seat_id`, so no call of it succeeds:
`_make_seats` reads nothing but the empty list (`makeSeats_eq_ok_iff`), and nothing but the empty
list survives its storage (`survives_iff`).
-/

namespace TicketGenius.SeatStorage

/-- What was encoded is decoded to the same seats in the same order. -/
def Survives (seats : List Seat) : Prop := makeSeats (seatsToJson seats) = .ok seats

/-! ## Reading -/

/-- No document is the arguments of a seat. -/
lemma ofDocument_raises (document : Json) : ∃ e, Seat.ofDocument document = .error e := by
  unfold Seat.ofDocument
  split
  · unfold Seat.ofKeywords
    split
    · exact ⟨_, rfl⟩
    · split <;> exact ⟨_, rfl⟩
  · exact ⟨_, rfl⟩

/-- A document that counts as true has something to go through. -/
lemma iterate_ne_nil {document : Json} (htruthy : document.truthy = true) :
    document.iterate ≠ .ok [] := by
  cases document with
  | arr items =>
    intro h
    rw [Except.ok.inj h] at htruthy
    cases htruthy
  | obj fields =>
    intro h
    rw [List.map_eq_nil_iff.mp (Except.ok.inj h)] at htruthy
    cases htruthy
  | str s =>
    intro h
    have hempty : s = "" := by simpa using Except.ok.inj h
    rw [hempty] at htruthy
    cases htruthy
  | null | bool b | int n | float r =>
    intro h
    cases h

/-- **What a column of seats is read as**: nothing but the empty list. -/
theorem makeSeats_eq_ok_iff {seatsJson : Json} {seats : List Seat} :
    makeSeats seatsJson = .ok seats ↔ seatsJson.truthy = false ∧ seats = [] := by
  unfold makeSeats
  cases htruthy : seatsJson.truthy with
  | false =>
    constructor
    · intro h
      cases h
      exact ⟨rfl, rfl⟩
    · rintro ⟨-, rfl⟩
      rfl
  | true =>
    simp only [Bool.not_true, Bool.false_eq_true, if_false, Bool.true_eq_false, false_and,
      iff_false, Except.bind_eq_ok, Framework.mapM_eq_ok_of_raises ofDocument_raises]
    rintro ⟨documents, hiterate, rfl, -⟩
    exact iterate_ne_nil htruthy hiterate

/-! ## Storing -/

/-- **Seats survive their storage** exactly if there are none. -/
theorem survives_iff (seats : List Seat) : Survives seats ↔ seats = [] := by
  unfold Survives
  constructor
  · intro h
    exact (makeSeats_eq_ok_iff.mp h).2
  · rintro rfl
    exact makeSeats_eq_ok_iff.mpr ⟨rfl, rfl⟩

/-- Seat 5 in row 10 of section A. -/
def seatA105 : Seat := ⟨⟨"A", "10", "5", by decide, by decide, by decide⟩⟩

/-- It is not read back. -/
theorem seat_lost : ¬ ∀ seats, Survives seats := by
  intro h
  have hread := h [seatA105]
  rw [Survives, makeSeats_seatsToJson_cons] at hread
  cases hread

end TicketGenius.SeatStorage
