import TicketGenius.Adapters.OrderRead
import TicketGenius.Adapters.PlanRead

/-!
# Queries

`QueryHandler` of `service_layer/handlers.py`.  Its `with` blocks change nothing.  The coordinates
and prices of a search are only handed on to the port, so what a float is does not matter here.
-/

namespace TicketGenius

structure ListOrdersQuery where
  customerEmail : String
  cursor : Option String
  limit : ℤ

/-- `QueryHandler.handle_list_orders` -/
def handleListOrders [LinearOrder UUID] (json : JsonCodec) (timestamp : Json → Option DateTime)
    (orders : List StoredOrder) (query : ListOrdersQuery) : Option (List OrderSummary) :=
  listOrders json timestamp orders query.customerEmail query.cursor query.limit

/-! ## Single rows -/

structure GetOrderQuery where
  orderId : UUID

structure GetPlanQuery where
  planId : UUID

/-- `QueryHandler.handle_get_order` -/
def handleGetOrder (orders : List StoredOrder) (query : GetOrderQuery) : Option OrderSummary :=
  (orders.find? (·.orderId = query.orderId)).map StoredOrder.summary

/-- `QueryHandler.handle_get_plan` -/
def handleGetPlan (plans : Framework.Table UUID Plan Plan.planId) (query : GetPlanQuery) :
    Except PyError (Option PlanDetail) :=
  getPlanDetail plans query.planId

/-! ## Searching -/

/-- A search, over floats `F`. -/
structure SearchPlansQuery (F : Type) where
  query : Option String
  lat : Option F
  lon : Option F
  radiusKm : Option ℤ
  dateFrom : Option String
  dateTo : Option String
  minPrice : Option F
  maxPrice : Option F
  cursor : Option String
  limit : ℤ

/-- The keyword arguments of `PlanSearchPort.search_plans`. -/
structure SearchArguments (F : Type) where
  query : Option String
  lat : Option F
  lon : Option F
  radiusKm : Option ℤ
  dateFrom : Option String
  dateTo : Option String
  minPrice : Option F
  maxPrice : Option F
  page : ℤ
  size : ℤ

/-- What `handle_search_plans` asks the port for. -/
def SearchPlansQuery.arguments {F : Type} (self : SearchPlansQuery F) : SearchArguments F where
  query := self.query
  lat := self.lat
  lon := self.lon
  radiusKm := self.radiusKm
  dateFrom := self.dateFrom
  dateTo := self.dateTo
  minPrice := self.minPrice
  maxPrice := self.maxPrice
  page := 0
  size := self.limit

structure PlanSearchResult where
  plans : List PlanSummary
  cursor : Option String
  hasMore : Bool

/-- The `PlanSummary(…)` of one event.  The name is not imported, and it is evaluated before the
arguments are. -/
def summaryOfEvent (_event : Json) : Except PyError PlanSummary := .error (.nameError "PlanSummary")

/-- `QueryHandler.handle_search_plans` -/
def handleSearchPlans {F : Type} (search : SearchArguments F → Except PyError (List Json))
    (query : SearchPlansQuery F) : Except PyError PlanSearchResult := do
  let events ← search query.arguments
  let plans ← events.mapM summaryOfEvent
  return ⟨plans, none, (events.length : ℤ) = query.limit⟩

end TicketGenius
