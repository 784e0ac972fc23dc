import TicketGenius.Properties.Catalogue
import TicketGenius.ServiceLayer.Queries

/-!
# What a search shows

`handle_search_plans` makes a summary of each event the port returns.  Its summaries should be those
of the plans a synchronization makes of the same events.  The handler does not import the class of
a summary, so it has a result for the empty list only.
-/

namespace TicketGenius.SearchSummaries

open Catalogue

/-- The summary shows the plan. -/
structure SameAs (summary : PlanSummary) (plan : Plan) : Prop where
  planId : summary.planId = plan.planId
  name : summary.name = plan.name
  url : summary.url = plan.url
  imageUrl : summary.imageUrl = plan.imageUrl
  timezone : summary.timezone = plan.dateRange.timezone
  venueName : summary.venueName = plan.venueName
  venueCity : summary.venueCity = plan.venueCity
  venueState : summary.venueState = plan.venueState
  minPrice : summary.minPrice.NumEq plan.minPrice.amount
  maxPrice : summary.maxPrice.NumEq plan.maxPrice.amount
  currency : summary.currency = plan.minPrice.currency.value ∧
    summary.currency = plan.maxPrice.currency.value

section Property

variable {F : Type} (lib : StandardLibrary)
  (search : SearchArguments F → Except PyError (List Json)) (query : SearchPlansQuery F)

/-- The search returns a summary for each of the events, in order, that shows the event's plan. -/
def ShowsPlans (events : List Json) (now : DateTime) : Prop :=
  ∃ result, handleSearchPlans search query = .ok result ∧
    List.Forall₂ (fun summary event => ∃ plan,
      Plan.fromTicketmaster lib event now = .ok plan ∧ SameAs summary plan) result.plans events

variable {lib search query}

lemma handleSearchPlans_nil (hsearch : search query.arguments = .ok []) :
    handleSearchPlans search query = .ok ⟨[], none, (0 : ℤ) = query.limit⟩ := by
  rw [handleSearchPlans, hsearch]
  rfl

/-- The first event raises. -/
lemma handleSearchPlans_cons {event : Json} {events : List Json}
    (hsearch : search query.arguments = .ok (event :: events)) :
    handleSearchPlans search query = .error (.nameError "PlanSummary") := by
  rw [handleSearchPlans, hsearch]
  rfl

/-- **A search shows the plans** exactly if there is none to show, whether the events can be
converted or not. -/
theorem showsPlans_iff {events : List Json} (hsearch : search query.arguments = .ok events)
    (now : DateTime) :
    ShowsPlans lib search query events now ↔ events = [] := by
  cases events with
  | nil => exact iff_of_true ⟨_, handleSearchPlans_nil hsearch, .nil⟩ rfl
  | cons event events =>
    refine iff_of_false ?_ (List.cons_ne_nil event events)
    rintro ⟨result, hresult, -⟩
    rw [handleSearchPlans_cons hsearch] at hresult
    cases hresult

end Property

/-! ### A concert -/

/-- A search for up to twenty plans. -/
def anyPlan : SearchPlansQuery ℚ where
  query := none
  lat := none
  lon := none
  radiusKm := none
  dateFrom := none
  dateTo := none
  minPrice := none
  maxPrice := none
  cursor := none
  limit := 20

/-- The concert can be converted, and the search for it raises. -/
theorem concert_not_shown :
    ¬ ∀ lib (search : SearchArguments ℚ → Except PyError (List Json)) query events now,
      search query.arguments = .ok events → (∀ event ∈ events, Converts lib event) →
      ShowsPlans lib search query events now := by
  intro h
  obtain ⟨result, hresult, -⟩ := h standardLibrary (fun _ => .ok [concertEvent]) anyPlan
    [concertEvent] ⟨0⟩ rfl fun event hevent => List.mem_singleton.mp hevent ▸ converts_concertEvent
  rw [handleSearchPlans_cons rfl] at hresult
  cases hresult

/-- What the search does not show is a list with the concert in it. -/
theorem nothing_shown :
    ¬ ShowsPlans standardLibrary (fun _ => .ok [concertEvent]) anyPlan [concertEvent] ⟨0⟩ := by
  rw [showsPlans_iff rfl ⟨0⟩]
  exact List.cons_ne_nil _ _

end TicketGenius.SearchSummaries
