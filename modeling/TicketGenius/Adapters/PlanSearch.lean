import TicketGenius.Adapters.OrderRead
import TicketGenius.Adapters.PlanRead
import TicketGenius.Framework.Like

/-!
# Searching the stored plans

`SqlAlchemyPlanReadRepository.search_plans`, and the query it sends.  The search text goes into the
pattern of an `ILIKE` as it is, so that a wildcard in it is one; how the database makes letters
small and reads a text as a timestamp are parameters.
-/

namespace TicketGenius

open Framework

/-! ## Rows -/

/-- A row of `plans`, with what its composites check. -/
structure StoredPlan where
  planId : UUID
  name : String
  url : String
  imageUrl : Option String
  startDate : DateTime
  endDate : DateTime
  timezone : String
  venueName : String
  venueCity : String
  venueState : String
  minPrice : Money
  maxPrice : Money
  ordered : startDate < endDate
  zoned : timezone ≠ ""

/-- `t.strftime("%H:%M")` -/
def DateTime.hourMinute (t : DateTime) : String :=
  String.ofList ((t.isoformat.toList.drop 11).take 5)

/-- The summary `search_plans` makes of a row. -/
def StoredPlan.summary (p : StoredPlan) : PlanSummary where
  planId := p.planId
  name := .str p.name
  url := .str p.url
  imageUrl := p.imageUrl.elim .null .str
  startDate := .str p.startDate.isoformat
  startTime := .str p.startDate.hourMinute
  timezone := .str p.timezone
  venueName := .str p.venueName
  venueCity := .str p.venueCity
  venueState := .str p.venueState
  minPrice := p.minPrice.amount
  maxPrice := p.maxPrice.amount
  currency := p.minPrice.currency.value

/-- The fields of `PlanSearchQuery` that `search_plans` reads. -/
structure PlanSearchQuery where
  query : Option String
  dateFrom : Option String
  dateTo : Option String
  cursor : Option String
  limit : ℤ

/-! ## The query -/

/-- `name ILIKE '%text%'` -/
def ilikeAnywhere (lower : Char → Char) (text name : String) : Bool :=
  Like.accepts (Like.parse (('%' :: (text.toList ++ ['%'])).map lower)) (name.toList.map lower)

section Query

variable [LinearOrder UUID] (lower : Char → Char) (json : JsonCodec)
  (timestamp : Json → Option DateTime)

/-- `(start_date, id)`, compared in this order. -/
def StoredPlan.sortKey (p : StoredPlan) : DateTime ×ₗ UUID := toLex (p.startDate, p.planId)

/-- The condition `start_date < t OR start_date = t AND id < i`. -/
def StoredPlan.before (t : DateTime) (i : UUID) (p : StoredPlan) : Bool :=
  p.startDate < t || (p.startDate == t && p.planId < i)

/-- `ORDER BY start_date DESC, id DESC` -/
def orderByStartDesc (rows : List StoredPlan) : List StoredPlan :=
  rows.insertionSort fun a b => b.sortKey ≤ a.sortKey

/-- The value of a filter that is set, given how the database reads it. -/
def filterValue (given : Option String) : Option (Option DateTime) :=
  match given with
  | none => some none
  | some text => if text = "" then some none else (timestamp (.str text)).map some

/-- The conditions on the name and the start. -/
def StoredPlan.selected (query : Option String) (since till : Option DateTime) (p : StoredPlan) :
    Bool :=
  (query.elim true fun text => text == "" || ilikeAnywhere lower text p.name) &&
    (since.elim true fun t => t ≤ p.startDate) && till.elim true fun t => p.startDate ≤ t

/-- The rows of the page `search_plans` reads; `none` if the database refuses the query. -/
def searchPlanRows (plans : List StoredPlan) (q : PlanSearchQuery) : Option (List StoredPlan) := do
  let since ← filterValue timestamp q.dateFrom
  let till ← filterValue timestamp q.dateTo
  let matching := plans.filter (·.selected lower q.query since till)
  if q.limit < 0 then none
  else match applyCursorFilter json q.cursor with
    | none => some ((orderByStartDesc matching).take q.limit.toNat)
    | some (cursorId, cursorSortKey) => (timestamp cursorSortKey).map fun t =>
      (orderByStartDesc (matching.filter (·.before t cursorId))).take q.limit.toNat

/-- `search_plans` -/
def SqlAlchemyPlanReadRepository.searchPlans (plans : List StoredPlan) (q : PlanSearchQuery) :
    Option (List PlanSummary) :=
  (searchPlanRows lower json timestamp plans q).map (·.map StoredPlan.summary)

end Query

end TicketGenius
