import TicketGenius.ServiceLayer.SeatHoldSpec

/-!
# The text of a seat identifier

`str(seat_id)` joins section, row and number with dashes, and `SeatId.from_string` splits the text
at its dashes.  The constructor lets the three have dashes themselves: such an identifier is not
read back from its text, and may share it with another one.
-/

namespace TicketGenius.SeatText

/-- No part of the identifier has a dash. -/
def DashFree (s : SeatId) : Prop := ∀ part ∈ [s.section, s.row, s.number], '-' ∉ part.toList

/-- The identifier is read back from its text, and no other seat of a plan has its hold key. -/
structure SurvivesText (s : SeatId) : Prop where
  roundTrip : SeatId.fromString s.str = .ok s
  unshared : ∀ planId (t : SeatId),
    seatHoldKey planId (Seat.text ⟨t⟩) = seatHoldKey planId (Seat.text ⟨s⟩) → t = s

/-- Reading a text finds the three parts that are split at the dashes. -/
lemma fromString_eq_ok {text : String} {s : SeatId} :
    SeatId.fromString text = .ok s ↔ splitText '-' text = [s.section, s.row, s.number] := by
  unfold SeatId.fromString
  constructor
  · intro h
    split at h
    · next sec row number hsplit =>
      obtain ⟨rfl, rfl, rfl⟩ := SeatId.make_eq_ok.mp h
      exact hsplit
    · cases h
  · intro h
    simp only [h]
    exact SeatId.make_eq_ok.mpr ⟨rfl, rfl, rfl⟩

/-- An identifier that is read from a text has no dashes, and has that text. -/
lemma dashFree_of_fromString {text : String} {s : SeatId} (h : SeatId.fromString text = .ok s) :
    DashFree s ∧ s.str = text := by
  have hsplit := fromString_eq_ok.mp h
  refine ⟨fun part hpart => ?_, ?_⟩
  · rw [← hsplit] at hpart
    exact notMem_of_mem_splitText hpart
  · rw [s.str_eq_joinText, ← hsplit, joinText_splitText]

lemma DashFree.fromString_str {s : SeatId} (h : DashFree s) : SeatId.fromString s.str = .ok s := by
  rw [fromString_eq_ok, s.str_eq_joinText]
  exact splitText_joinText h (List.cons_ne_nil _ _)

/-- The dashes of a text are the two that join the parts, and those of the parts. -/
lemma count_str (s : SeatId) :
    s.str.toList.count '-' = 2 +
      ((s.section.toList.count '-' + s.row.toList.count '-') + s.number.toList.count '-') := by
  have hdash : "-".toList.count '-' = 1 := rfl
  simp only [SeatId.str, String.toList_append, List.count_append, hdash]
  omega

lemma dashFree_iff_count (s : SeatId) : DashFree s ↔ s.str.toList.count '-' = 2 := by
  rw [count_str]
  simp only [DashFree, List.forall_mem_cons, List.not_mem_nil, false_implies, implies_true,
    and_true, ← List.count_eq_zero]
  omega

/-- An identifier without dashes is the only one with its text. -/
lemma DashFree.eq_of_str_eq {s t : SeatId} (h : DashFree s) (htext : t.str = s.str) : t = s := by
  have ht : DashFree t := by
    rw [dashFree_iff_count, htext]
    exact (dashFree_iff_count s).mp h
  have hread : SeatId.fromString t.str = .ok t := ht.fromString_str
  rw [htext, h.fromString_str] at hread
  exact (Except.ok.inj hread).symm

/-- **Exactly the identifiers without dashes survive their text.** -/
theorem survivesText_iff (s : SeatId) : SurvivesText s ↔ DashFree s := by
  constructor
  · exact fun h => (dashFree_of_fromString h.roundTrip).1
  · intro h
    refine ⟨h.fromString_str, fun planId t hkey => h.eq_of_str_eq ?_⟩
    exact seatHoldKey_injective planId hkey

/-! ### Two seats with one text -/

/-- Row `4`, number `1-3`. -/
def lastDash : SeatId := ⟨"Balcony", "4", "1-3", by decide, by decide, by decide⟩

/-- Row `4-1`, number `3`. -/
def middleDash : SeatId := ⟨"Balcony", "4-1", "3", by decide, by decide, by decide⟩

/-- Both have the text `Balcony-4-1-3`, which is no seat's when it is read. -/
theorem shared_text : ¬ ∀ s, SurvivesText s := by
  intro h
  have hsame : lastDash = middleDash := (h middleDash).unshared .nil lastDash rfl
  have hrow : lastDash.row = middleDash.row := by rw [hsame]
  revert hrow
  decide

end TicketGenius.SeatText
