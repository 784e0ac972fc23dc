import TicketGenius.Properties.Catalogue

/-!
# Which events can be ingested

`Event` lists the parts of a well-formed payload, the optional ones as options, and `Carries` says
that a document has these parts, whatever else it has.  `from_ticketmaster` has a fallback for each
optional part.  Two of them do not work: without an end date the start date is taken, which
`DateRange` refuses, and an empty list of price ranges has no first element.

`ingested_iff` says that nothing else is refused, except for negative prices.
-/

namespace TicketGenius.Ingestion

/-! ## Well-formed payloads -/

/-- `document[key]`, if there is such a thing. -/
def find (document : Json) (key : String) : Option Json :=
  match document with
  | .obj fields => fields.lookup key
  | _ => none

/-- `document[key₁][key₂]…`, if there is such a thing. -/
def path (document : Json) (keys : List String) : Option Json := keys.foldlM find document

/-- The price ranges of a payload: none, an empty list, or a list whose first element may have a
minimum and a maximum. -/
inductive PriceRanges
  | absent
  | empty
  | first (min max : Option Decimal)

/-- The parts of a well-formed payload. -/
structure Event where
  id : String
  name : String
  url : String
  image : Option String
  start : PyDateTime
  stop : Option PyDateTime
  timezone : String
  venueName : String
  venueCity : String
  venueState : String
  priceRanges : PriceRanges
  lastUpdated : PyDateTime
  given : ∀ text ∈ [id, name, url, timezone], text ≠ ""
  ordered : ∀ t ∈ stop, start.ge t = .ok false

section Carries

variable (lib : StandardLibrary) (tmData : Json) (event : Event)

/-- There is a timestamp in ISO form, with a `Z` or without one. -/
def HasTimestamp (keys : List String) (t : PyDateTime) : Prop :=
  ∃ text, path tmData keys = some (.str text) ∧ text ≠ "" ∧ lib.timestamp (.str text) = .ok t

/-- The price under a key is a number with at most two decimals, if it is there. -/
def HasPrice (range : Json) (key : String) : Option Decimal → Prop
  | none => find range key = none
  | some price => ∃ value, find range key = some value ∧ lib.decimal value.format = .ok price ∧
      ¬ price.exp < -2

/-- The document has the parts of the event. -/
structure Carries : Prop where
  id : path tmData ["id"] = some (.str event.id)
  name : path tmData ["name"] = some (.str event.name)
  url : path tmData ["url"] = some (.str event.url)
  image : match event.image with
    | none => ∀ images, path tmData ["images"] = some images → images.truthy = false
    | some url => ∃ image images, path tmData ["images"] = some (.arr (image :: images)) ∧
        path image ["url"] = some (.str url)
  start : HasTimestamp lib tmData ["dates", "start", "dateTime"] event.start
  stop : match event.stop with
    | none => path tmData ["dates", "end"] = none
    | some t => HasTimestamp lib tmData ["dates", "end", "dateTime"] t
  timezone : path tmData ["dates", "timezone"] = some (.str event.timezone)
  venue : ∃ venue venues, path tmData ["_embedded", "venues"] = some (.arr (venue :: venues)) ∧
    path venue ["name"] = some (.str event.venueName) ∧
    path venue ["city", "name"] = some (.str event.venueCity) ∧
    path venue ["state", "name"] = some (.str event.venueState)
  priceRanges : match event.priceRanges with
    | .absent => path tmData ["priceRanges"] = none
    | .empty => path tmData ["priceRanges"] = some (.arr [])
    | .first min max => ∃ fields ranges,
        path tmData ["priceRanges"] = some (.arr (.obj fields :: ranges)) ∧
        HasPrice lib (.obj fields) "min" min ∧ HasPrice lib (.obj fields) "max" max
  lastUpdated : HasTimestamp lib tmData ["lastUpdated"] event.lastUpdated

end Carries

/-- The given minimum. -/
def Event.minPrice (event : Event) : Option Decimal :=
  match event.priceRanges with
  | .first min _ => min
  | _ => none

/-- The given maximum. -/
def Event.maxPrice (event : Event) : Option Decimal :=
  match event.priceRanges with
  | .first _ max => max
  | _ => none

/-- The event can be ingested, with fallbacks for the optional parts it does not have. -/
def Ingested (lib : StandardLibrary) (tmData : Json) (event : Event) (now : DateTime) : Prop :=
  ∃ plan, Plan.fromTicketmaster lib tmData now = .ok plan ∧
    plan.dateRange.start = event.start ∧ (∀ t ∈ event.stop, plan.dateRange.end = t) ∧
    plan.imageUrl = (event.image.elim .null .str) ∧
    plan.minPrice.amount = event.minPrice.getD 0 ∧ plan.maxPrice.amount = event.maxPrice.getD 0

/-! ## Reading the parts -/

section Reading

variable {document value : Json} {key : String} {keys : List String}

lemma item_of_find (h : find document key = some value) : document.item key = .ok value := by
  unfold find at h
  split at h
  · next fields => simp only [Json.item, h]
  · cases h

lemma getD_of_find (h : find document key = some value) (default : Json) :
    document.getD key default = .ok value := by
  unfold find at h
  split at h
  · next fields => simp only [Json.getD, h, Option.getD_some]
  · cases h

/-- The default is for objects without the key. -/
lemma getD_of_find_none {other : String} {there : Json} (hobject : find document other = some there)
    (h : find document key = none) (default : Json) : document.getD key default = .ok default := by
  unfold find at hobject h
  split at hobject
  · next fields => simp only [Json.getD, h, Option.getD_none]
  · cases hobject

lemma path_cons (document : Json) (key : String) (keys : List String) :
    path document (key :: keys) = (find document key).bind fun next => path next keys := rfl

lemma path_singleton (document : Json) (key : String) :
    path document [key] = find document key := by
  rw [path_cons]
  cases find document key <;> rfl

/-- A longer path begins with a shorter one. -/
lemma exists_find_of_path (h : path document (key :: keys) = some value) :
    ∃ next, find document key = some next ∧ path next keys = some value :=
  Option.bind_eq_some_iff.mp h

end Reading

section Parts

variable {lib : StandardLibrary} {tmData : Json} {event : Event}

lemma ok_bind {ε α β : Type} (a : α) (f : α → Except ε β) : (Except.ok a >>= f) = f a := rfl

/-! ### The dates -/

/-- The time zone and the start are in the same part of the payload; the end, if it has one, too. -/
lemma Carries.dateRange_eq (h : Carries lib tmData event) :
    lib.dateRange tmData =
      DateRange.make event.start (event.stop.getD event.start) (.str event.timezone) := by
  obtain ⟨text, hpath, -, htime⟩ := h.start
  obtain ⟨dates, hdates, hrest⟩ := exists_find_of_path hpath
  obtain ⟨first, hfirst, htext⟩ := exists_find_of_path hrest
  rw [path_singleton] at htext
  have hzone := h.timezone
  rw [path_cons, hdates, Option.bind_some, path_singleton] at hzone
  have hend : ∃ last endStr, dates.getD "end" (.obj []) = .ok last ∧
      last.getD "dateTime" (.str text) = .ok endStr ∧
      lib.timestamp endStr = .ok (event.stop.getD event.start) := by
    have hstop := h.stop
    split at hstop
    · next hnone =>
      rw [path_cons, hdates, Option.bind_some, path_singleton] at hstop
      exact ⟨.obj [], .str text, getD_of_find_none hzone hstop _, rfl, by rw [hnone]; exact htime⟩
    · next t hsome =>
      obtain ⟨endText, hendPath, -, hendTime⟩ := hstop
      rw [path_cons, hdates, Option.bind_some] at hendPath
      obtain ⟨last, hlast, hendText⟩ := exists_find_of_path hendPath
      rw [path_singleton] at hendText
      exact ⟨last, .str endText, getD_of_find hlast _, getD_of_find hendText _,
        by rw [hsome]; exact hendTime⟩
  obtain ⟨last, endStr, hlast, hendStr, hendTime⟩ := hend
  simp only [StandardLibrary.dateRange, item_of_find hdates, item_of_find hfirst,
    item_of_find htext, item_of_find hzone, hlast, hendStr, htime, hendTime, ok_bind]

/-- There is a date range exactly if there is an end date. -/
lemma Carries.dateRange_eq_ok (h : Carries lib tmData event) (range : DateRange) :
    lib.dateRange tmData = .ok range ↔ range.start = event.start ∧
      event.stop = some range.end ∧ range.timezone = .str event.timezone := by
  rw [h.dateRange_eq, DateRange.make_eq_ok]
  refine and_congr_right fun hstart => and_congr_left fun _ => ?_
  cases event.stop with
  | none =>
    -- The fallback for the end is the start, and no range ends where it starts.
    refine iff_of_false (fun hend => ?_) nofun
    have hself : range.start.ge range.start = .ok false := by
      have hordered := range.ordered
      rwa [hend, Option.getD_none, ← hstart] at hordered
    rw [PyDateTime.ge_self] at hself
    cases hself
  | some t => rw [Option.getD_some, Option.some.injEq, eq_comm]

lemma exists_dateRange (event : Event) {t : PyDateTime} (hstop : event.stop = some t) :
    ∃ range : DateRange, range.start = event.start ∧ range.end = t ∧
      range.timezone = .str event.timezone := by
  have hzone : (Json.str event.timezone).truthy = true := by
    simpa [Json.truthy] using event.given event.timezone (by simp)
  exact ⟨⟨event.start, t, .str event.timezone, event.ordered t hstop, hzone⟩, rfl, rfl, rfl⟩

/-! ### The prices -/

/-- A price that is not there is zero. -/
lemma HasPrice.price_eq {fields : List (String × Json)} {key : String} {price : Option Decimal}
    (h : HasPrice lib (.obj fields) key price) (hzero : lib.decimal "0" = .ok 0) :
    lib.price (.obj fields) key = Money.make (price.getD 0) .eur := by
  have hformat : (Json.int 0).format = "0" := rfl
  cases price with
  | none =>
    have hlookup : fields.lookup key = none := h
    simp only [StandardLibrary.price, Json.getD, hlookup, Option.getD_none, ok_bind, hformat, hzero]
  | some price =>
    obtain ⟨value, hvalue, hdecimal, -⟩ := h
    simp only [StandardLibrary.price, getD_of_find hvalue, ok_bind, hdecimal, Option.getD_some]

/-- The payload is an object, which has an id. -/
lemma Carries.find_id (h : Carries lib tmData event) :
    find tmData "id" = some (.str event.id) :=
  (path_singleton tmData "id").symm.trans h.id

/-- The first price range has the given prices. -/
lemma Carries.priceRange (h : Carries lib tmData event) (hranges : event.priceRanges ≠ .empty) :
    ∃ fields, tmData.priceRange = .ok (.obj fields) ∧
      HasPrice lib (.obj fields) "min" event.minPrice ∧
      HasPrice lib (.obj fields) "max" event.maxPrice := by
  have hhere := h.priceRanges
  split at hhere
  · next habsent =>
    rw [path_singleton] at hhere
    refine ⟨[], ?_, ?_, ?_⟩
    · simp only [Json.priceRange, getD_of_find_none h.find_id hhere, ok_bind, Json.first]
    · simp only [Event.minPrice, habsent]
      rfl
    · simp only [Event.maxPrice, habsent]
      rfl
  · next hempty => exact absurd hempty hranges
  · next min max hfirst =>
    obtain ⟨fields, ranges, hlist, hmin, hmax⟩ := hhere
    rw [path_singleton] at hlist
    refine ⟨fields, ?_, ?_, ?_⟩
    · simp only [Json.priceRange, getD_of_find hlist, ok_bind, Json.first]
    · simpa only [Event.minPrice, hfirst] using hmin
    · simpa only [Event.maxPrice, hfirst] using hmax

/-- An empty list has no first element. -/
lemma Carries.priceRange_empty (h : Carries lib tmData event)
    (hempty : event.priceRanges = .empty) (range : Json) : tmData.priceRange ≠ .ok range := by
  have hhere := h.priceRanges
  simp only [hempty, path_singleton] at hhere
  simp [Json.priceRange, getD_of_find hhere, ok_bind, Json.first]

/-! ### The other parts -/

lemma Carries.imageUrl (h : Carries lib tmData event) :
    tmData.imageUrl = .ok (event.image.elim .null .str) := by
  have hhere := h.image
  simp only [path_singleton] at hhere
  split at hhere
  · next hnone =>
    cases hfind : find tmData "images" with
    | none =>
      simp only [Json.imageUrl, getD_of_find_none h.find_id hfind, ok_bind, Json.truthy, hnone]
      rfl
    | some images =>
      simp only [Json.imageUrl, getD_of_find hfind, ok_bind, hhere images hfind, hnone]
      rfl
  · next url hsome =>
    obtain ⟨image, images, hfind, hurl⟩ := hhere
    simp only [Json.imageUrl, getD_of_find hfind, item_of_find hfind, ok_bind, Json.truthy,
      Json.first, item_of_find hurl, hsome]
    rfl

lemma Carries.venue_eq (h : Carries lib tmData event) :
    tmData.venueName = .ok (.str event.venueName) ∧ tmData.venueCity = .ok (.str event.venueCity) ∧
      tmData.venueState = .ok (.str event.venueState) := by
  obtain ⟨venue, venues, hvenues, hname, hcity, hstate⟩ := h.venue
  obtain ⟨embedded, hembedded, hlist⟩ := exists_find_of_path hvenues
  obtain ⟨city, hcity, hcityName⟩ := exists_find_of_path hcity
  obtain ⟨state, hstate, hstateName⟩ := exists_find_of_path hstate
  rw [path_singleton] at hlist hname hcityName hstateName
  have hvenue : tmData.venue = .ok venue := by
    simp only [Json.venue, item_of_find hembedded, ok_bind, item_of_find hlist, Json.first]
  refine ⟨?_, ?_, ?_⟩
  · simp only [Json.venueName, hvenue, ok_bind, item_of_find hname]
  · simp only [Json.venueCity, hvenue, ok_bind, item_of_find hcity, item_of_find hcityName]
  · simp only [Json.venueState, hvenue, ok_bind, item_of_find hstate, item_of_find hstateName]

lemma Carries.lastUpdated_eq (h : Carries lib tmData event) :
    lib.lastUpdated tmData = .ok event.lastUpdated := by
  obtain ⟨text, hpath, -, htime⟩ := h.lastUpdated
  rw [path_singleton] at hpath
  simp only [StandardLibrary.lastUpdated, item_of_find hpath, ok_bind, htime]

end Parts

/-! ## The result -/

section Result

variable {lib : StandardLibrary} {tmData : Json} {event : Event}

/-- A given price that is not negative has at most two decimals, so it is an amount of money. -/
lemma HasPrice.exists_money {range : Json} {key : String} {price : Option Decimal}
    (h : HasPrice lib range key price) (hnonneg : ∀ p ∈ price, ¬ p < 0) :
    ∃ money : Money, money.amount = price.getD 0 ∧ money.currency = .eur := by
  cases price with
  | none => exact ⟨⟨0, .eur, by decide, by decide⟩, rfl, rfl⟩
  | some p =>
    obtain ⟨value, -, -, hplaces⟩ := h
    exact ⟨⟨p, .eur, hnonneg p rfl, hplaces⟩, rfl, rfl⟩

/-- What can be ingested has an end date, a price range to read, and no negative price. -/
lemma Carries.of_ingested (h : Carries lib tmData event) {now : DateTime}
    (hingested : Ingested lib tmData event now) :
    event.stop ≠ none ∧ event.priceRanges ≠ .empty ∧
      (∀ price ∈ event.minPrice, ¬ price < 0) ∧ ∀ price ∈ event.maxPrice, ¬ price < 0 := by
  obtain ⟨plan, hplan, -, -, -, hmin, hmax⟩ := hingested
  obtain ⟨hdescribes, hrange, -⟩ := fromTicketmaster_eq_ok.mp hplan
  obtain ⟨-, hstop, -⟩ := (h.dateRange_eq_ok plan.dateRange).mp hrange
  obtain ⟨range, hfirst, -, -⟩ := hdescribes.prices
  refine ⟨by simp [hstop], fun hempty => h.priceRange_empty hempty range hfirst, ?_, ?_⟩
  · intro price hprice
    have hnonneg := plan.minPrice.not_negative
    rwa [hmin, Option.mem_def.mp hprice] at hnonneg
  · intro price hprice
    have hnonneg := plan.maxPrice.not_negative
    rwa [hmax, Option.mem_def.mp hprice] at hnonneg

/-- The plan of an event, given the dates and the prices it is read with. -/
def Event.plan (event : Event) (lib : StandardLibrary) (dateRange : DateRange)
    (minPrice maxPrice : Money) (now : DateTime) : Plan where
  planId := lib.uuid5 ("ticketmaster.com/events/" ++ event.id)
  tmPlanId := event.id
  name := .str event.name
  url := .str event.url
  imageUrl := event.image.elim .null .str
  dateRange := dateRange
  venueName := .str event.venueName
  venueCity := .str event.venueCity
  venueState := .str event.venueState
  minPrice := minPrice
  maxPrice := maxPrice
  lastSyncedAt := some now
  tmLastModified := event.lastUpdated
  version := 1
  seatPricesJson := []

/-- The payload describes that plan. -/
lemma Carries.describes_plan (h : Carries lib tmData event) {range : Json}
    (hfirst : tmData.priceRange = .ok range) {minPrice maxPrice : Money}
    (hmin : lib.price range "min" = .ok minPrice) (hmax : lib.price range "max" = .ok maxPrice)
    (dateRange : DateRange) (now : DateTime) :
    Describes lib tmData (event.plan lib dateRange minPrice maxPrice now) := by
  obtain ⟨hvenueName, hvenueCity, hvenueState⟩ := h.venue_eq
  have hname := h.name
  have hurl := h.url
  rw [path_singleton] at hname hurl
  exact {
    tmPlanId := item_of_find h.find_id
    name := item_of_find hname
    url := item_of_find hurl
    imageUrl := h.imageUrl
    venueName := hvenueName
    venueCity := hvenueCity
    venueState := hvenueState
    prices := ⟨range, hfirst, hmin, hmax⟩
    tmLastModified := h.lastUpdated_eq }

/-- **A well-formed event can be ingested** exactly if it has an end date, its price ranges are not
an empty list, and no given price is negative. -/
theorem ingested_iff (hzero : lib.decimal "0" = .ok 0) (h : Carries lib tmData event)
    (now : DateTime) :
    Ingested lib tmData event now ↔ event.stop ≠ none ∧ event.priceRanges ≠ .empty ∧
      (∀ price ∈ event.minPrice, ¬ price < 0) ∧ ∀ price ∈ event.maxPrice, ¬ price < 0 := by
  refine ⟨h.of_ingested, ?_⟩
  rintro ⟨hstop, hranges, hminNonneg, hmaxNonneg⟩
  obtain ⟨t, hstop⟩ := Option.ne_none_iff_exists'.mp hstop
  obtain ⟨range, hstart, hend, hzone⟩ := exists_dateRange event hstop
  obtain ⟨fields, hfirst, hmin, hmax⟩ := h.priceRange hranges
  obtain ⟨minPrice, hminAmount, hminEur⟩ := hmin.exists_money hminNonneg
  obtain ⟨maxPrice, hmaxAmount, hmaxEur⟩ := hmax.exists_money hmaxNonneg
  have hminPrice : lib.price (.obj fields) "min" = .ok minPrice := by
    rw [hmin.price_eq hzero]
    exact Money.make_eq_ok.mpr ⟨hminAmount, hminEur⟩
  have hmaxPrice : lib.price (.obj fields) "max" = .ok maxPrice := by
    rw [hmax.price_eq hzero]
    exact Money.make_eq_ok.mpr ⟨hmaxAmount, hmaxEur⟩
  have hdescribes := h.describes_plan hfirst hminPrice hmaxPrice range now
  have hdates : lib.dateRange tmData = .ok range :=
    (h.dateRange_eq_ok range).mpr ⟨hstart, hend ▸ hstop, hzone⟩
  have hgiven : event.id ≠ "" := event.given event.id (by simp)
  refine ⟨event.plan lib range minPrice maxPrice now,
    fromTicketmaster_eq_ok.mpr ⟨hdescribes, hdates, hgiven, rfl, rfl, rfl, rfl⟩,
    hstart, ?_, rfl, hminAmount, hmaxAmount⟩
  rw [hstop]
  rintro _ ⟨⟩
  exact hend

end Result

/-! ### A concert without an end -/

open Catalogue

/-- The payload of a concert whose end is not announced. -/
def openEndedEvent : Json := .obj [
  ("id", .str "G5v0Z9"),
  ("name", .str "Concert"),
  ("url", .str "https://www.ticketmaster.com/event/G5v0Z9"),
  ("dates", .obj [
    ("start", .obj [("dateTime", .str "2025-06-01T18:00:00Z")]),
    ("timezone", .str "Europe/Madrid")]),
  ("lastUpdated", .str "2025-01-15T09:00:00Z"),
  ("_embedded", .obj [("venues", .arr [.obj [
    ("name", .str "Palacio de los Deportes"),
    ("city", .obj [("name", .str "Madrid")]),
    ("state", .obj [("name", .str "Madrid")])]])])]

/-- Its parts. -/
def openEnded : Event where
  id := "G5v0Z9"
  name := "Concert"
  url := "https://www.ticketmaster.com/event/G5v0Z9"
  image := none
  start := .aware ⟨1748800800000000⟩
  stop := none
  timezone := "Europe/Madrid"
  venueName := "Palacio de los Deportes"
  venueCity := "Madrid"
  venueState := "Madrid"
  priceRanges := .absent
  lastUpdated := .aware ⟨1736931600000000⟩
  given := by decide
  ordered := nofun

/-- The parts of the concert with its end. -/
def concert : Event := { openEnded with
  stop := some (.aware ⟨1748811600000000⟩)
  ordered := by
    rintro _ ⟨⟩
    rfl }

lemma timestamp_start :
    standardLibrary.timestamp (.str "2025-06-01T18:00:00Z") = .ok (.aware ⟨1748800800000000⟩) := by
  rfl

lemma timestamp_lastUpdated :
    standardLibrary.timestamp (.str "2025-01-15T09:00:00Z") = .ok (.aware ⟨1736931600000000⟩) := by
  rfl

lemma timestamp_end :
    standardLibrary.timestamp (.str "2025-06-01T21:00:00Z") = .ok (.aware ⟨1748811600000000⟩) := by
  rfl

lemma carries_openEnded : Carries standardLibrary openEndedEvent openEnded where
  id := rfl
  name := rfl
  url := rfl
  image := fun _ h => nomatch h
  start := ⟨_, rfl, by decide, timestamp_start⟩
  stop := rfl
  timezone := rfl
  venue := ⟨_, _, rfl, rfl, rfl, rfl⟩
  priceRanges := rfl
  lastUpdated := ⟨_, rfl, by decide, timestamp_lastUpdated⟩

lemma carries_concert : Carries standardLibrary concertEvent concert where
  id := rfl
  name := rfl
  url := rfl
  image := fun _ h => nomatch h
  start := ⟨_, rfl, by decide, timestamp_start⟩
  stop := ⟨_, rfl, by decide, timestamp_end⟩
  timezone := rfl
  venue := ⟨_, _, rfl, rfl, rfl, rfl⟩
  priceRanges := rfl
  lastUpdated := ⟨_, rfl, by decide, timestamp_lastUpdated⟩

/-- The fallback for the end is refused. -/
theorem openEnded_refused :
    ¬ ∀ lib tmData event now, lib.decimal "0" = .ok 0 → Carries lib tmData event →
      (∀ price ∈ event.minPrice, ¬ price < 0) → (∀ price ∈ event.maxPrice, ¬ price < 0) →
      Ingested lib tmData event now := by
  intro h
  obtain ⟨plan, hplan, -⟩ := h standardLibrary openEndedEvent openEnded ⟨0⟩ rfl carries_openEnded
    nofun nofun
  have hrange := dateRange_of_fromTicketmaster hplan
  have hstop := ((carries_openEnded.dateRange_eq_ok plan.dateRange).mp hrange).2.1
  cases hstop

/-- With its end, the concert is ingested. -/
theorem concert_ingested : Ingested standardLibrary concertEvent concert ⟨0⟩ :=
  (ingested_iff rfl carries_concert ⟨0⟩).mpr ⟨nofun, nofun, nofun, nofun⟩

end TicketGenius.Ingestion
