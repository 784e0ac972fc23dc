import TicketGenius.Properties.SeatText

/-!
# The seat parser

`SeatId.from_string` splits a text at its dashes and leaves the check of the parts to the
constructor.  Together they accept exactly the texts of the form `section-row-number`
(`parses_exactly`): two dashes, and three parts that are not empty.  What was accepted is the text
of the result, so no two texts denote one seat.
-/

namespace TicketGenius.SeatParsing

open SeatText

/-- A text with exactly two dashes, before, between and behind which there is something. -/
structure IsSeatText (s : String) : Prop where
  dashes : s.toList.count '-' = 2
  parts : ∃ sec row number, s = sec ++ "-" ++ row ++ "-" ++ number ∧
    sec ≠ "" ∧ row ≠ "" ∧ number ≠ ""

/-- A parser of seats accepts exactly the texts of the form, with results that have these texts
(`text`), and raises `ValueError` on any other text. -/
structure ParsesExactly {α : Type} (parse : String → Except PyError α) (text : α → String) :
    Prop where
  accepts_iff : ∀ s, (∃ a, parse s = .ok a) ↔ IsSeatText s
  roundTrip : ∀ s a, parse s = .ok a → text a = s
  distinct : ∀ s t a b, parse s = .ok a → parse t = .ok b → s ≠ t → a ≠ b
  refuses : ∀ s, ¬ IsSeatText s → ∃ message, parse s = .error (.valueError message)

/-! ## Accepted texts -/

/-- The text of an identifier without dashes has the form. -/
lemma isSeatText_str {seatId : SeatId} (h : DashFree seatId) : IsSeatText seatId.str where
  dashes := (dashFree_iff_count seatId).mp h
  parts := ⟨seatId.section, seatId.row, seatId.number, rfl, seatId.section_ne, seatId.row_ne,
    seatId.number_ne⟩

/-- A text of the form is that of an identifier without dashes, which is read from it. -/
lemma exists_fromString {s : String} (h : IsSeatText s) :
    ∃ seatId, SeatId.fromString s = .ok seatId := by
  obtain ⟨sec, row, number, hs, hsec, hrow, hnumber⟩ := h.parts
  let seatId : SeatId := ⟨sec, row, number, hsec, hrow, hnumber⟩
  have htext : seatId.str = s := hs.symm
  have hfree : DashFree seatId := by
    rw [dashFree_iff_count, htext]
    exact h.dashes
  exact ⟨seatId, htext ▸ hfree.fromString_str⟩

lemma fromString_ok_iff (s : String) :
    (∃ seatId, SeatId.fromString s = .ok seatId) ↔ IsSeatText s := by
  constructor
  · rintro ⟨seatId, hread⟩
    obtain ⟨hfree, htext⟩ := dashFree_of_fromString hread
    rw [← htext]
    exact isSeatText_str hfree
  · exact exists_fromString

/-! ## Refused texts -/

/-- The constructor raises nothing but `ValueError`. -/
lemma make_eq_error {sec row number : String} {e : PyError}
    (h : SeatId.make sec row number = .error e) : ∃ message, e = .valueError message := by
  unfold SeatId.make at h
  split at h
  · cases h
  · exact ⟨_, (Except.error.inj h).symm⟩

/-- Nor does the parser. -/
lemma fromString_eq_error {s : String} {e : PyError} (h : SeatId.fromString s = .error e) :
    ∃ message, e = .valueError message := by
  unfold SeatId.fromString at h
  split at h
  · exact make_eq_error h
  · exact ⟨_, (Except.error.inj h).symm⟩

lemma fromString_refuses {s : String} (h : ¬ IsSeatText s) :
    ∃ message, SeatId.fromString s = .error (.valueError message) := by
  cases hread : SeatId.fromString s with
  | ok seatId => exact absurd ((fromString_ok_iff s).mp ⟨seatId, hread⟩) h
  | error e =>
    obtain ⟨message, rfl⟩ := fromString_eq_error hread
    exact ⟨message, rfl⟩

/-! ## The two parsers -/

/-- A seat is read where its identifier is. -/
lemma seat_fromString_eq_ok {s : String} {seat : Seat} :
    Seat.fromString s = .ok seat ↔ SeatId.fromString s = .ok seat.seatId := by
  unfold Seat.fromString
  rw [Except.bind_eq_ok]
  constructor
  · rintro ⟨seatId, hread, hseat⟩
    cases hseat
    exact hread
  · exact fun hread => ⟨seat.seatId, hread, rfl⟩

lemma seat_fromString_eq_error {s : String} {e : PyError} (h : SeatId.fromString s = .error e) :
    Seat.fromString s = .error e := by
  rw [Seat.fromString, h]
  rfl

/-- Different texts have different results, where a result has the text it was read from. -/
lemma distinct_of_roundTrip {α : Type} {parse : String → Except PyError α} {text : α → String}
    (hround : ∀ s a, parse s = .ok a → text a = s) (s t : String) (a b : α)
    (hs : parse s = .ok a) (ht : parse t = .ok b) (hne : s ≠ t) : a ≠ b := by
  rintro rfl
  exact hne ((hround s a hs).symm.trans (hround t a ht))

/-- **The seat parsers accept exactly their format**, the one of identifiers and the one of seats,
which are shown with the text of their identifier. -/
theorem parses_exactly :
    ParsesExactly SeatId.fromString SeatId.str ∧
      ParsesExactly Seat.fromString (fun seat => seat.seatId.str) ∧
      ∀ s seat, Seat.fromString s = .ok seat → seat.str = "Seat(seat_id=" ++ s ++ ")" := by
  have hround : ∀ s seatId, SeatId.fromString s = .ok seatId → seatId.str = s :=
    fun s seatId hread => (dashFree_of_fromString hread).2
  have hseat : ∀ s seat, Seat.fromString s = .ok seat → seat.seatId.str = s :=
    fun s seat hread => hround s seat.seatId (seat_fromString_eq_ok.mp hread)
  refine ⟨⟨fromString_ok_iff, hround, distinct_of_roundTrip hround, fun s => fromString_refuses⟩,
    ⟨fun s => ?_, hseat, distinct_of_roundTrip hseat, fun s h => ?_⟩, fun s seat hread => ?_⟩
  · rw [← fromString_ok_iff]
    constructor
    · rintro ⟨seat, hread⟩
      exact ⟨seat.seatId, seat_fromString_eq_ok.mp hread⟩
    · rintro ⟨seatId, hread⟩
      exact ⟨⟨seatId⟩, seat_fromString_eq_ok.mpr hread⟩
  · obtain ⟨message, hread⟩ := fromString_refuses h
    exact ⟨message, seat_fromString_eq_error hread⟩
  · rw [Seat.str, hseat s seat hread]

end TicketGenius.SeatParsing
