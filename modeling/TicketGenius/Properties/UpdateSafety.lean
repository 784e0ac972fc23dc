import TicketGenius.Properties.Catalogue

/-!
# No plan is left half-updated

`update_plan_from_ticketmaster` assigns one field after the other and may raise between two of them.
Everything it reads of a payload has been read by `Plan.from_ticketmaster` too, so after a
conversion the update does not raise (`UpdatesWhole`).  `handle_sync_plans` converts every event
before it updates a plan; it is therefore the program in which an update is a single assignment
(`handleSyncPlans_eq`), and none of its exceptions comes out of an update (`SyncsWhole`).
-/

namespace TicketGenius.UpdateSafety

open Framework

/-! ## Conversions -/

/-- `Plan.from_ticketmaster` returns, for an id of any type: the constructor refuses none but an
empty one. -/
def Accepts (lib : StandardLibrary) (tmData : Json) (now : DateTime) : Prop :=
  ∃ id fields, Plan.arguments lib tmData now = .ok (id, fields) ∧ id.truthy = true

section Conversions

variable {lib : StandardLibrary} {tmData : Json} {now : DateTime}

/-- What the model makes a plan of is accepted. -/
lemma accepts_of_ok {plan : Plan} (h : Plan.fromTicketmaster lib tmData now = .ok plan) :
    Accepts lib tmData now := by
  rw [Plan.fromTicketmaster, Except.bind_eq_ok] at h
  obtain ⟨⟨id, fields⟩, harguments, hmake⟩ := h
  refine ⟨id, fields, harguments, ?_⟩
  by_contra hfalse
  simp only [Plan.make, Bool.not_eq_true _ |>.mp hfalse, Bool.not_false, if_true] at hmake
  cases hmake

/-- The arguments are what an update reads, whatever the id is. -/
lemma provides_of_arguments {id : Json} {fields : String → Plan}
    (h : Plan.arguments lib tmData now = .ok (id, fields)) (tmPlanId : String) :
    Provides lib tmData (fields tmPlanId) := by
  simp only [Plan.arguments, Except.bind_eq_ok] at h
  obtain ⟨dates, hdates, first, hfirst, startStr, hstartStr, last, hlast, endStr, hendStr,
    timezone, hzone, start, hstart, stop, hstop, priceRange, hpriceRange, minPrice, hmin,
    maxPrice, hmax, id', hid, name, hname, url, hurl, imageUrl, himage, dateRange, hrange,
    venueName, hvenueName, venueCity, hvenueCity, venueState, hvenueState, tmLastModified,
    hmodified, hreturn⟩ := h
  cases hreturn
  exact ⟨hname, hurl, himage, hvenueName, hvenueCity, hvenueState,
    ⟨priceRange, hpriceRange, hmin, hmax⟩, hmodified⟩

end Conversions

/-- An update with a payload that can be converted returns, and has assigned all fields. -/
structure UpdatesWhole (lib : StandardLibrary) (tmData : Json) (time : DateTime) : Prop where
  returns : Accepts lib tmData time → ∀ existing now, ∃ updated,
    (updatePlanFromTicketmaster lib tmData now).run existing = .ok () updated
  complete : ∀ fetched, Plan.fromTicketmaster lib tmData time = .ok fetched → ∀ existing now,
    (updatePlanFromTicketmaster lib tmData now).run existing =
      .ok () (existing.refreshed fetched now)

/-- **The update follows the conversion.** -/
theorem updatesWhole (lib : StandardLibrary) (tmData : Json) (time : DateTime) :
    UpdatesWhole lib tmData time where
  returns := by
    rintro ⟨id, fields, harguments, -⟩ existing now
    exact ⟨_, (provides_of_arguments harguments "").run_update existing now⟩
  complete := by
    intro fetched hfetched existing now
    exact (describes_of_fromTicketmaster hfetched).1.provides.run_update existing now

/-! ## The handler with whole updates -/

section Handler

open Sync

variable (lib : StandardLibrary) (cmd : SyncPlansCommand)

/-- The body of the inner loop, where an update is one assignment. -/
def wholeSyncEvent (event : Json) : Sync Bool := do
  let time ← now
  let plan ← Prog.ofExcept (Plan.fromTicketmaster lib event time)
  let existing ← getByTmId plan.tmPlanId >>= Prog.ofExcept
  match existing with
  | none => do
    add plan
    return true
  | some existing => do
    if ← isFresh cmd existing then return false
    else
      assign (existing.refreshed plan (← now))
      return true

/-- The inner loop. -/
def wholeSyncEvents : List Json → ℕ → Sync ℕ
  | [], synced => return synced
  | event :: events, synced => do
    if ← wholeSyncEvent lib cmd event then wholeSyncEvents events (synced + 1)
    else wholeSyncEvents events synced

/-- The outer loop. -/
def wholeSyncPages : ℕ → ℕ → ℕ → Sync (Option ℕ)
  | 0, _, _ => return none
  | fuel + 1, page, synced => do
    let events ← searchPlans page pageSize >>= Prog.ofExcept
    if events.isEmpty then return some synced
    else
      let synced ← wholeSyncEvents lib cmd events synced
      if events.length < pageSize then return some synced
      else wholeSyncPages fuel (page + 1) synced

variable {lib} in
/-- An update after the conversion is one assignment. -/
lemma updateExisting_eq {event : Json} {time : DateTime} {plan : Plan}
    (hplan : Plan.fromTicketmaster lib event time = .ok plan) (existing : Plan) :
    updateExisting lib existing event =
      now >>= fun time => assign (existing.refreshed plan time) := by
  unfold updateExisting
  congr 1
  funext now
  rw [(updatesWhole lib event time).complete plan hplan existing now]

lemma syncEvent_eq (event : Json) : syncEvent lib cmd event = wholeSyncEvent lib cmd event := by
  unfold syncEvent wholeSyncEvent
  congr 1
  funext time
  cases hplan : Plan.fromTicketmaster lib event time with
  | error e => rfl
  | ok plan =>
    rw [Prog.ofExcept_ok_bind, Prog.ofExcept_ok_bind]
    refine bind_congr fun existing => ?_
    cases existing with
    | none => rfl
    | some existing =>
      refine bind_congr fun fresh => ?_
      cases fresh with
      | true => rfl
      | false =>
        change updateExisting lib existing event >>= (fun _ => pure true) =
          now >>= fun time => assign (existing.refreshed plan time) >>= fun _ => pure true
        rw [updateExisting_eq hplan]
        exact bind_assoc _ _ _

lemma syncEvents_eq (events : List Json) (synced : ℕ) :
    syncEvents lib cmd events synced = wholeSyncEvents lib cmd events synced := by
  induction events generalizing synced with
  | nil => rfl
  | cons event events ih => simp only [syncEvents, wholeSyncEvents, syncEvent_eq, ih]

/-- **The handler is the program with whole updates**, operation by operation, whatever the replies
of its environment are. -/
theorem handleSyncPlans_eq (fuel : ℕ) :
    handleSyncPlans lib cmd fuel = wholeSyncPages lib cmd fuel 0 0 := by
  have hpages : ∀ page synced,
      syncPages lib cmd fuel page synced = wholeSyncPages lib cmd fuel page synced := by
    induction fuel with
    | zero => exact fun _ _ => rfl
    | succ fuel ih =>
      intro page synced
      simp only [syncPages, wholeSyncPages, syncEvents_eq, ih]
  exact hpages 0 0

/-! ## Exceptions -/

/-- The operation assigns to a plan. -/
def IsAssign : SyncOp → Prop
  | .assign _ => True
  | _ => False

lemma noRaiseAfter_isFresh (existing : Plan) (last : Prop) :
    (isFresh cmd existing).NoRaiseAfter (S := syncing) IsAssign last := by
  unfold isFresh
  split
  · exact fun _ => trivial
  · trivial

/-- An event raises only before its plan is stored. -/
lemma noRaiseAfter_wholeSyncEvent (event : Json) (last : Prop) :
    (wholeSyncEvent lib cmd event).NoRaiseAfter (S := syncing) IsAssign last := by
  -- the clock is read first, so what comes before the event does not matter
  intro time
  refine Prog.noRaiseAfter_ofExcept_bind id _ fun plan => ?_
  intro reply
  refine Prog.noRaiseAfter_ofExcept_bind id _ fun existing => ?_
  cases existing with
  | none => exact fun _ => trivial
  | some existing =>
    refine (noRaiseAfter_isFresh cmd existing _).bind fun fresh last => ?_
    cases fresh with
    | true => trivial
    | false => exact fun _ _ => trivial

lemma noRaiseAfter_wholeSyncEvents (events : List Json) (synced : ℕ) (last : Prop) :
    (wholeSyncEvents lib cmd events synced).NoRaiseAfter (S := syncing) IsAssign last := by
  induction events generalizing synced last with
  | nil => trivial
  | cons event events ih =>
    refine (noRaiseAfter_wholeSyncEvent lib cmd event last).bind fun stored last => ?_
    cases stored with
    | true => exact ih (synced + 1) last
    | false => exact ih synced last

lemma noRaiseAfter_wholeSyncPages (fuel page synced : ℕ) (last : Prop) :
    (wholeSyncPages lib cmd fuel page synced).NoRaiseAfter (S := syncing) IsAssign last := by
  induction fuel generalizing page synced last with
  | zero => trivial
  | succ fuel ih =>
    intro reply
    refine Prog.noRaiseAfter_ofExcept_bind id _ fun events => ?_
    by_cases hempty : events.isEmpty
    · rw [if_pos hempty]
      trivial
    · rw [if_neg hempty]
      refine (noRaiseAfter_wholeSyncEvents lib cmd events synced _).bind fun synced last => ?_
      split
      · trivial
      · exact ih (page + 1) synced last

/-- A synchronization updates plans as a whole: it is the program that does so, and where it raises,
in any environment, the last thing it has done is no assignment to a plan. -/
structure SyncsWhole (fuel : ℕ) : Prop where
  whole : handleSyncPlans lib cmd fuel = wholeSyncPages lib cmd fuel 0 0
  unbroken : ∀ {σ : Type} (h : Handler syncing σ) (s s' : σ) (e : PyError),
    (handleSyncPlans lib cmd fuel).run h s = .error e s' →
      ∀ performed ∈ ((handleSyncPlans lib cmd fuel).trace h s).getLast?, ¬ IsAssign performed.1

theorem syncsWhole (fuel : ℕ) : SyncsWhole lib cmd fuel where
  whole := handleSyncPlans_eq lib cmd fuel
  unbroken := by
    intro σ h s s' e hrun
    rw [handleSyncPlans_eq] at hrun ⊢
    exact ((noRaiseAfter_wholeSyncPages lib cmd fuel 0 0 False).of_run hrun).2

end Handler

/-- **No plan is left half-updated**, neither by an update with a payload that was converted nor by
a synchronization. -/
theorem never_half_updated (lib : StandardLibrary) :
    (∀ tmData time, UpdatesWhole lib tmData time) ∧ ∀ cmd fuel, SyncsWhole lib cmd fuel :=
  ⟨updatesWhole lib, syncsWhole lib⟩

/-- A concert's plan is updated as a whole. -/
theorem concert_updatesWhole :
    Accepts Catalogue.standardLibrary Catalogue.concertEvent ⟨0⟩ ∧
      UpdatesWhole Catalogue.standardLibrary Catalogue.concertEvent ⟨0⟩ := by
  obtain ⟨plan, hplan⟩ := Catalogue.converts_concertEvent.at ⟨0⟩
  exact ⟨accepts_of_ok hplan,
    (never_half_updated Catalogue.standardLibrary).1 Catalogue.concertEvent ⟨0⟩⟩

end TicketGenius.UpdateSafety
