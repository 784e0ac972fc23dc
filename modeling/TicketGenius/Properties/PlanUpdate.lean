import TicketGenius.Properties.Catalogue

/-!
# Updating a plan and inserting it

`update_plan_from_ticketmaster` and `Plan.from_ticketmaster` read the same payload.  The update
assigns every field the insertion derives but one: the date range.  So the two agree exactly if the
plan already has the dates of the payload.
-/

namespace TicketGenius.PlanUpdate

open Catalogue

/-- An updated plan agrees with a new one on what the provider determines, and is the next version
of the old one. -/
structure AgreesWithInsert (old updated inserted : Plan) : Prop where
  name : updated.name = inserted.name
  url : updated.url = inserted.url
  imageUrl : updated.imageUrl = inserted.imageUrl
  dateRange : updated.dateRange = inserted.dateRange
  venueName : updated.venueName = inserted.venueName
  venueCity : updated.venueCity = inserted.venueCity
  venueState : updated.venueState = inserted.venueState
  minPrice : updated.minPrice = inserted.minPrice
  maxPrice : updated.maxPrice = inserted.maxPrice
  tmLastModified : updated.tmLastModified = inserted.tmLastModified
  planId : updated.planId = old.planId
  version : updated.version = old.version + 1

/-- The update returns, with a plan that agrees with the new one. -/
def UpdatesLikeInsert (lib : StandardLibrary) (tmData : Json) (old inserted : Plan)
    (now : DateTime) : Prop :=
  ∃ updated, (updatePlanFromTicketmaster lib tmData now).run old = .ok () updated ∧
    AgreesWithInsert old updated inserted

variable {lib : StandardLibrary} {tmData : Json} {old inserted : Plan} {time : DateTime}

/-- What the update assigns is what the insertion has. -/
lemma agreesWithInsert_refreshed (hdates : old.dateRange = inserted.dateRange) (now : DateTime) :
    AgreesWithInsert old (old.refreshed inserted now) inserted where
  name := rfl
  url := rfl
  imageUrl := rfl
  dateRange := hdates
  venueName := rfl
  venueCity := rfl
  venueState := rfl
  minPrice := rfl
  maxPrice := rfl
  tmLastModified := rfl
  planId := rfl
  version := rfl

/-- **The update agrees with the insertion** exactly if the plan has the dates of the payload. -/
theorem updatesLikeInsert_iff (hinsert : Plan.fromTicketmaster lib tmData time = .ok inserted)
    (old : Plan) (now : DateTime) :
    UpdatesLikeInsert lib tmData old inserted now ↔ lib.dateRange tmData = .ok old.dateRange := by
  have hupdate : (updatePlanFromTicketmaster lib tmData now).run old =
      .ok () (old.refreshed inserted now) :=
    run_updatePlanFromTicketmaster (describes_of_fromTicketmaster hinsert).1 now
  have hrange := dateRange_of_fromTicketmaster hinsert
  constructor
  · rintro ⟨updated, hrun, hagrees⟩
    rw [hupdate] at hrun
    cases hrun
    rw [hrange]
    exact congrArg Except.ok hagrees.dateRange.symm
  · intro hdates
    rw [hrange] at hdates
    exact ⟨_, hupdate, agreesWithInsert_refreshed (Except.ok.inj hdates).symm now⟩

/-! ### A postponed concert -/

lemma madrid_zoned : (Json.str "Europe/Madrid").truthy = true := rfl

/-- The dates the concert had before it was postponed to June. -/
def januaryDates : DateRange where
  start := .aware ⟨1736931600000000⟩
  «end» := .aware ⟨1736942400000000⟩
  timezone := .str "Europe/Madrid"
  ordered := rfl
  zoned := madrid_zoned

lemma dateRange_concertEvent_ne : standardLibrary.dateRange concertEvent ≠ .ok januaryDates := by
  intro h
  have hstart : (match standardLibrary.dateRange concertEvent with
      | .ok range => decide (range.start = januaryDates.start)
      | .error _ => true) = false := by decide +kernel
  rw [h] at hstart
  revert hstart
  decide

/-- The stored plan keeps its dates, whatever it is apart from them. -/
theorem postponed_keeps_dates :
    ¬ ∀ lib tmData time inserted (old : Plan) now, old.tmPlanId = inserted.tmPlanId →
      Plan.fromTicketmaster lib tmData time = .ok inserted →
      UpdatesLikeInsert lib tmData old inserted now := by
  intro h
  obtain ⟨inserted, hinsert⟩ := converts_concertEvent.at ⟨0⟩
  let old : Plan := { inserted with dateRange := januaryDates }
  obtain ⟨updated, hrun, hagrees⟩ := h standardLibrary concertEvent ⟨0⟩ inserted old ⟨0⟩ rfl hinsert
  have hupdate : (updatePlanFromTicketmaster standardLibrary concertEvent ⟨0⟩).run old =
      .ok () (old.refreshed inserted ⟨0⟩) :=
    run_updatePlanFromTicketmaster (describes_of_fromTicketmaster hinsert).1 ⟨0⟩
  rw [hupdate] at hrun
  cases hrun
  have hsame : januaryDates = inserted.dateRange := hagrees.dateRange
  exact dateRange_concertEvent_ne (hsame ▸ dateRange_of_fromTicketmaster hinsert)

/-- A plan is updated like it was inserted. -/
theorem concert_updatesLikeInsert : ∃ inserted,
    UpdatesLikeInsert standardLibrary concertEvent inserted inserted ⟨0⟩ := by
  obtain ⟨inserted, hinsert⟩ := converts_concertEvent.at ⟨0⟩
  exact ⟨inserted, (updatesLikeInsert_iff hinsert inserted ⟨0⟩).mpr
    (dateRange_of_fromTicketmaster hinsert)⟩

end TicketGenius.PlanUpdate
