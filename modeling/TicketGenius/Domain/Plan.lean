import TicketGenius.Domain.Documents
import TicketGenius.Domain.ValueObjects

/-!
# The `Plan` aggregate

`Plan` of `domain/models.py`.  The dataclass does not check the types its fields are annotated with,
so the fields that `from_ticketmaster` copies from the payload are documents here, and `None` is
`Json.null`.

The module uses the name `Decimal` in the methods about section prices and imports it only inside
`from_ticketmaster`, so elsewhere the name is unbound.
-/

namespace TicketGenius

structure Plan where
  planId : UUID
  tmPlanId : String
  name : Json
  url : Json
  imageUrl : Json
  dateRange : DateRange
  venueName : Json
  venueCity : Json
  venueState : Json
  minPrice : Money
  maxPrice : Money
  lastSyncedAt : Option DateTime
  tmLastModified : PyDateTime
  version : ℤ
  seatPricesJson : List (String × ℤ)

namespace Plan

/-! ## Section prices -/

/-- The name `Decimal` at module level, as a constructor from `int`. -/
def nameDecimal : Except PyError (ℤ → Decimal) := .error (.nameError "Decimal")

/-- `seat_prices`. -/
def seatPrices (self : Plan) : Except PyError (List (String × Money)) :=
  self.seatPricesJson.mapM fun (sec, priceCents) => do
    let decimal ← nameDecimal
    return (sec, ← Money.ofArith ((decimal priceCents).div 100) .eur)

/-- `get_seat_price`. -/
def getSeatPrice (self : Plan) (seat : Seat) : Except PyError Money := do
  match (← self.seatPrices).lookup seat.seatId.section with
  | some sectionPrice => return sectionPrice
  | none => return self.minPrice

/-- `calculate_total_for_seats`. -/
def calculateTotalForSeats (self : Plan) (seats : List Seat) : Except PyError Money := do
  let decimal ← nameDecimal
  let zero ← Money.make (decimal 0) self.minPrice.currency
  seats.foldlM (fun total seat => do total.add (← self.getSeatPrice seat)) zero

lemma calculateTotalForSeats_eq (self : Plan) (seats : List Seat) :
    self.calculateTotalForSeats seats = .error (.nameError "Decimal") := rfl

end Plan

/-! ## Payloads of the provider -/

/-- What the standard library makes of a text: `datetime.fromisoformat(text)`, `Decimal(text)` and
`uuid5(NAMESPACE_URL, text)`.  A text that denotes no finite number gives no `Decimal` here, because
`Money` refuses the others too. -/
structure StandardLibrary where
  fromisoformat : String → Except PyError PyDateTime
  decimal : String → Except PyError Decimal
  uuid5 : String → UUID

section Payload

variable (lib : StandardLibrary) (tmData : Json)

/-- `datetime.fromisoformat(value.replace("Z", "+00:00"))` -/
def StandardLibrary.timestamp (value : Json) : Except PyError PyDateTime :=
  match value with
  | .str s => lib.fromisoformat (String.ofList
      (s.toList.flatMap fun c => if c = 'Z' then "+00:00".toList else [c]))
  | value => .error (.noAttribute value.typeName "replace")

/-- `Money(Decimal(str(price_range.get(key, 0))), Currency.EUR)` -/
def StandardLibrary.price (priceRange : Json) (key : String) : Except PyError Money := do
  let value ← priceRange.getD key (.int 0)
  Money.make (← lib.decimal value.format) .eur

namespace Json

/-- `tm_data.get("priceRanges", [{}])[0]` -/
def priceRange : Except PyError Json := do
  (← tmData.getD "priceRanges" (.arr [.obj []])).first

/-- `tm_data["images"][0]["url"] if tm_data.get("images") else None` -/
def imageUrl : Except PyError Json := do
  if (← tmData.getD "images" .null).truthy then
    (← (← tmData.item "images").first).item "url"
  else return .null

/-- `tm_data["_embedded"]["venues"][0]` -/
def venue : Except PyError Json := do
  (← (← tmData.item "_embedded").item "venues").first

/-- `tm_data["_embedded"]["venues"][0]["name"]` -/
def venueName : Except PyError Json := do
  (← tmData.venue).item "name"

/-- `tm_data["_embedded"]["venues"][0]["city"]["name"]` -/
def venueCity : Except PyError Json := do
  (← (← tmData.venue).item "city").item "name"

/-- `tm_data["_embedded"]["venues"][0]["state"]["name"]` -/
def venueState : Except PyError Json := do
  (← (← tmData.venue).item "state").item "name"

end Json

/-- `datetime.fromisoformat(tm_data["lastUpdated"].replace("Z", "+00:00"))` -/
def StandardLibrary.lastUpdated : Except PyError PyDateTime := do
  lib.timestamp (← tmData.item "lastUpdated")

/-- The `DateRange(…)` of `from_ticketmaster`, by itself. -/
def StandardLibrary.dateRange : Except PyError DateRange := do
  let dates ← tmData.item "dates"
  let startStr ← (← dates.item "start").item "dateTime"
  let endStr ← (← dates.getD "end" (.obj [])).getD "dateTime" startStr
  let timezone ← dates.item "timezone"
  let start ← lib.timestamp startStr
  let stop ← lib.timestamp endStr
  DateRange.make start stop timezone

/-- `Plan(…)`, given by its fields besides the id.  The column of the id is text: the database does
not compare it with an id of another type, which is refused here at once. -/
def Plan.make (tmPlanId : Json) (fields : String → Plan) : Except PyError Plan :=
  if !tmPlanId.truthy then .error (.valueError "tm_plan_id is required")
  else match tmPlanId with
    | .str id => .ok (fields id)
    | _ => .error (.typeError "tm_plan_id is no text")

/-- The arguments that `Plan.from_ticketmaster`, called at `now`, gives the constructor: the id, and
the plan that has the other ones. -/
def Plan.arguments (now : DateTime) : Except PyError (Json × (String → Plan)) := do
  let dates ← tmData.item "dates"
  let startStr ← (← dates.item "start").item "dateTime"
  let endStr ← (← dates.getD "end" (.obj [])).getD "dateTime" startStr
  let timezone ← dates.item "timezone"
  let start ← lib.timestamp startStr
  let stop ← lib.timestamp endStr
  let priceRange ← tmData.priceRange
  let minPrice ← lib.price priceRange "min"
  let maxPrice ← lib.price priceRange "max"
  let id ← tmData.item "id"
  let planId := lib.uuid5 ("ticketmaster.com/events/" ++ id.format)
  let name ← tmData.item "name"
  let url ← tmData.item "url"
  let imageUrl ← tmData.imageUrl
  let dateRange ← DateRange.make start stop timezone
  let venueName ← tmData.venueName
  let venueCity ← tmData.venueCity
  let venueState ← tmData.venueState
  let tmLastModified ← lib.lastUpdated tmData
  return (id, fun tmPlanId => {
    planId := planId
    tmPlanId := tmPlanId
    name := name
    url := url
    imageUrl := imageUrl
    dateRange := dateRange
    venueName := venueName
    venueCity := venueCity
    venueState := venueState
    minPrice := minPrice
    maxPrice := maxPrice
    lastSyncedAt := some now
    tmLastModified := tmLastModified
    version := 1
    seatPricesJson := [] })

/-- `Plan.from_ticketmaster`, called at `now`. -/
def Plan.fromTicketmaster (now : DateTime) : Except PyError Plan := do
  let (id, fields) ← Plan.arguments lib tmData now
  Plan.make id fields

/-- What is known of a payload and a plan that was made of it. -/
structure Describes (plan : Plan) : Prop where
  tmPlanId : tmData.item "id" = .ok (.str plan.tmPlanId)
  name : tmData.item "name" = .ok plan.name
  url : tmData.item "url" = .ok plan.url
  imageUrl : tmData.imageUrl = .ok plan.imageUrl
  venueName : tmData.venueName = .ok plan.venueName
  venueCity : tmData.venueCity = .ok plan.venueCity
  venueState : tmData.venueState = .ok plan.venueState
  prices : ∃ priceRange, tmData.priceRange = .ok priceRange ∧
    lib.price priceRange "min" = .ok plan.minPrice ∧ lib.price priceRange "max" = .ok plan.maxPrice
  tmLastModified : lib.lastUpdated tmData = .ok plan.tmLastModified

variable {lib tmData}

lemma Except.bind_eq_ok {ε α β : Type} {x : Except ε α} {f : α → Except ε β} {b : β} :
    (x >>= f) = .ok b ↔ ∃ a, x = .ok a ∧ f a = .ok b := by
  cases x with
  | ok a =>
    constructor
    · exact fun h => ⟨a, rfl, h⟩
    · rintro ⟨_, ⟨⟩, h⟩
      exact h
  | error e =>
    constructor
    · intro h
      cases h
    · rintro ⟨_, ⟨⟩, -⟩

lemma Plan.make_eq_ok {id : Json} {fields : String → Plan} {plan : Plan}
    (h : Plan.make id fields = .ok plan) :
    ∃ tmPlanId, id = .str tmPlanId ∧ plan = fields tmPlanId := by
  unfold Plan.make at h
  split at h
  · cases h
  · cases id with
    | str tmPlanId => exact ⟨tmPlanId, rfl, (Except.ok.inj h).symm⟩
    | _ => cases h

lemma Plan.map_make (f : Plan → Plan) (id : Json) (fields : String → Plan) :
    f <$> Plan.make id fields = Plan.make id fun tmPlanId => f (fields tmPlanId) := by
  unfold Plan.make
  split
  · rfl
  · split <;> rfl

lemma Plan.make_str {id : String} (hid : id ≠ "") (fields : String → Plan) :
    Plan.make (.str id) fields = .ok (fields id) := by
  have htruthy : (Json.str id).truthy = true := by simpa [Json.truthy] using hid
  rw [Plan.make, htruthy]
  rfl

/-- **What `from_ticketmaster` returns**: the new plan the payload describes, with the payload's
dates, synced now. -/
theorem fromTicketmaster_eq_ok {now : DateTime} {plan : Plan} :
    Plan.fromTicketmaster lib tmData now = .ok plan ↔
      Describes lib tmData plan ∧ lib.dateRange tmData = .ok plan.dateRange ∧
        plan.tmPlanId ≠ "" ∧ plan.planId = lib.uuid5 ("ticketmaster.com/events/" ++ plan.tmPlanId) ∧
        plan.lastSyncedAt = some now ∧ plan.version = 1 ∧ plan.seatPricesJson = [] := by
  constructor
  · intro h
    simp only [Plan.fromTicketmaster, Plan.arguments, bind_assoc, pure_bind,
      Except.bind_eq_ok] at h
    obtain ⟨dates, hdates, first, hfirst, startStr, hstartStr, last, hlast, endStr, hendStr,
      timezone, hzone, start, hstart, stop, hstop, priceRange, hpriceRange, minPrice, hmin,
      maxPrice, hmax, id, hid, name, hname, url, hurl, imageUrl, himage, dateRange, hrange,
      venueName, hvenueName, venueCity, hvenueCity, venueState, hvenueState, tmLastModified,
      hmodified, hmake⟩ := h
    obtain ⟨tmPlanId, rfl, rfl⟩ := Plan.make_eq_ok hmake
    refine ⟨⟨hid, hname, hurl, himage, hvenueName, hvenueCity, hvenueState,
      ⟨priceRange, hpriceRange, hmin, hmax⟩, hmodified⟩, ?_, ?_, rfl, rfl, rfl, rfl⟩
    · simp only [StandardLibrary.dateRange, Except.bind_eq_ok]
      exact ⟨dates, hdates, first, hfirst, startStr, hstartStr, last, hlast, endStr, hendStr,
        timezone, hzone, start, hstart, stop, hstop, hrange⟩
    · rintro rfl
      cases hmake
  · rintro ⟨hdescribes, hrange, hne, hplanId, hsynced, hversion, hseats⟩
    simp only [StandardLibrary.dateRange, Except.bind_eq_ok] at hrange
    obtain ⟨dates, hdates, first, hfirst, startStr, hstartStr, last, hlast, endStr, hendStr,
      timezone, hzone, start, hstart, stop, hstop, hrange⟩ := hrange
    obtain ⟨priceRange, hpriceRange, hmin, hmax⟩ := hdescribes.prices
    simp only [Plan.fromTicketmaster, Plan.arguments, bind_assoc, pure_bind,
      Except.bind_eq_ok]
    refine ⟨dates, hdates, first, hfirst, startStr, hstartStr, last, hlast, endStr, hendStr,
      timezone, hzone, start, hstart, stop, hstop, priceRange, hpriceRange, plan.minPrice, hmin,
      plan.maxPrice, hmax, .str plan.tmPlanId, hdescribes.tmPlanId, plan.name, hdescribes.name,
      plan.url, hdescribes.url, plan.imageUrl, hdescribes.imageUrl, plan.dateRange, hrange,
      plan.venueName, hdescribes.venueName, plan.venueCity, hdescribes.venueCity, plan.venueState,
      hdescribes.venueState, plan.tmLastModified, hdescribes.tmLastModified, ?_⟩
    rw [Plan.make_str hne, Json.format, ← hplanId, ← hsynced, ← hversion, ← hseats]

/-- In particular the payload describes the plan, which is new, and synced now. -/
theorem describes_of_fromTicketmaster {now : DateTime} {plan : Plan}
    (h : Plan.fromTicketmaster lib tmData now = .ok plan) :
    Describes lib tmData plan ∧ plan.lastSyncedAt = some now ∧ plan.version = 1 := by
  obtain ⟨hdescribes, -, -, -, hsynced, hversion, -⟩ := fromTicketmaster_eq_ok.mp h
  exact ⟨hdescribes, hsynced, hversion⟩

/-- The dates of the plan are those of the payload. -/
lemma dateRange_of_fromTicketmaster {now : DateTime} {plan : Plan}
    (h : Plan.fromTicketmaster lib tmData now = .ok plan) :
    lib.dateRange tmData = .ok plan.dateRange :=
  (fromTicketmaster_eq_ok.mp h).2.1

/-- Whether a payload can be converted does not depend on the time. -/
theorem fromTicketmaster_now (now now' : DateTime) :
    Plan.fromTicketmaster lib tmData now' =
      (fun plan => { plan with lastSyncedAt := some now' }) <$>
        Plan.fromTicketmaster lib tmData now := by
  simp only [Plan.fromTicketmaster, Plan.arguments, bind_assoc, pure_bind, map_bind, Plan.map_make]

end Payload

end TicketGenius
