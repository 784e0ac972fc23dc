import TicketGenius.Domain.Plan
import TicketGenius.Framework.Table

/-!
# Reading plans

`SqlAlchemyPlanReadRepository.get_plan`, with the dataclasses of `domain/repositories.py` it and the
search return.  `PlanDetail` inherits the three fields about the start, which the repository does
not pass.
-/

namespace TicketGenius

/-- `PlanBase`; the prices before they are made floats. -/
structure PlanBase where
  planId : UUID
  name : Json
  url : Json
  imageUrl : Json
  startDate : Json
  startTime : Json
  timezone : Json
  venueName : Json
  venueCity : Json
  venueState : Json
  minPrice : Decimal
  maxPrice : Decimal
  currency : String

/-- `PlanSummary` -/
structure PlanSummary extends PlanBase

/-- `PlanDetail` -/
structure PlanDetail extends PlanBase where
  dateRange : DateRange
  seatMap : List Json

/-- The call of `PlanDetail` in `get_plan`, which lacks arguments. -/
def detailOf (_plan : Plan) : Except PyError PlanDetail :=
  .error (.typeError ("PlanDetail.__init__() missing 3 required positional arguments: " ++
    "'start_date', 'start_time', and 'timezone'"))

/-- `SqlAlchemyPlanReadRepository.get_plan` -/
def getPlanDetail (plans : Framework.Table UUID Plan Plan.planId) (planId : UUID) :
    Except PyError (Option PlanDetail) :=
  match plans.find planId with
  | none => .ok none
  | some plan => some <$> detailOf plan

end TicketGenius
