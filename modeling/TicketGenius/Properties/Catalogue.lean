import TicketGenius.ServiceLayer.PlanSync

/-!
# Synchronizing a whole catalogue

The provider cuts a list of events into pages, and a repository that finds what was added earlier
takes the plans.  A synchronization then goes through the list once, in order, whatever its length
is.  `moment` is the state in which the event at an index is met; whether the event is skipped there
is read off the run of the inner loop's body (`skipped`).

`Covers` says what the returned number counts and which plans there are afterwards.  Its proof
follows the catalogue with `Progress`, which speaks of the first events only.
-/

namespace TicketGenius.Catalogue

open Framework

/-! ## The property -/

/-- `search_plans(page, size)` returns `catalogue[page*size : (page+1)*size]`. -/
def Paged (provider : Provider) (catalogue : List Json) : Prop :=
  ∀ page size, provider page size = .ok ((catalogue.drop (page * size)).take size)

/-- `Plan.from_ticketmaster(event)` succeeds. -/
def Converts (lib : StandardLibrary) (event : Json) : Prop :=
  ∃ time plan, Plan.fromTicketmaster lib event time = .ok plan

/-- The provider's id of an event. -/
def eventId (event : Json) : Option String :=
  match event.item "id" with
  | .ok (.str id) => some id
  | _ => none

section Property

variable (lib : StandardLibrary) (cmd : SyncPlansCommand) (provider : Provider)
  (catalogue : List Json) (start : SyncState (List Plan))

/-- The state after the first `i` events. -/
def moment (i : ℕ) : SyncState (List Plan) :=
  (syncEvents lib cmd (catalogue.take i) 0).after (SyncState.handle provider planList) start

/-- The event at `i` is skipped. -/
def skipped (i : ℕ) : Bool :=
  match catalogue[i]? with
  | none => false
  | some event =>
    match (syncEvent lib cmd event).run (SyncState.handle provider planList)
        (moment lib cmd provider catalogue start i) with
    | .ok false _ => true
    | _ => false

/-- There is an event at `i`, it is not skipped, and it has the id. -/
def Stores (i : ℕ) (id : String) : Prop :=
  ∃ event, catalogue[i]? = some event ∧ skipped lib cmd provider catalogue start i = false ∧
    eventId event = some id

/-- A synchronization that returns `n` and ends in `final` has covered the catalogue. -/
structure Covers (n : ℕ) (final : SyncState (List Plan)) : Prop where
  processed : final = moment lib cmd provider catalogue start catalogue.length
  skipped_iff : ∀ i event id, catalogue[i]? = some event → eventId event = some id →
    (skipped lib cmd provider catalogue start i = true ↔ cmd.staleOnly = true ∧
      ∃ existing ∈ (moment lib cmd provider catalogue start i).plans, existing.tmPlanId = id ∧
        existing.SyncedWithinDay ((moment lib cmd provider catalogue start i).clock 1))
  counted : n =
    (List.range catalogue.length).countP fun i => !skipped lib cmd provider catalogue start i
  unique : (final.plans.map Plan.tmPlanId).Nodup
  present : ∀ id, id ∈ final.plans.map Plan.tmPlanId ↔
    id ∈ start.plans.map Plan.tmPlanId ∨ ∃ i, Stores lib cmd provider catalogue start i id
  unchanged : ∀ plan, (∀ i, ¬ Stores lib cmd provider catalogue start i plan.tmPlanId) →
    (plan ∈ final.plans ↔ plan ∈ start.plans)
  refreshed : ∀ plan ∈ final.plans, ∀ i event, catalogue[i]? = some event →
    Stores lib cmd provider catalogue start i plan.tmPlanId →
    (∀ j > i, ¬ Stores lib cmd provider catalogue start j plan.tmPlanId) → Describes lib event plan

/-! ## The first events -/

/-- What is known after the first `i` events, when the plans are those of `t`. -/
structure Progress (i : ℕ) (t : PlanTable) : Prop where
  run : (syncEvents lib cmd (catalogue.take i) 0).run (SyncState.handle provider planList) start =
    .ok ((List.range i).countP fun j => !skipped lib cmd provider catalogue start j)
      (moment lib cmd provider catalogue start i)
  lists : Table.Lists (moment lib cmd provider catalogue start i).plans t
  present : ∀ id, t.find id ≠ none ↔
    id ∈ start.plans.map Plan.tmPlanId ∨ ∃ j < i, Stores lib cmd provider catalogue start j id
  unchanged : ∀ id, (∀ j < i, ¬ Stores lib cmd provider catalogue start j id) →
    t.find id = (Table.ofList Plan.tmPlanId start.plans).find id
  refreshed : ∀ j < i, ∀ event id, catalogue[j]? = some event →
    Stores lib cmd provider catalogue start j id →
    (∀ k < i, j < k → ¬ Stores lib cmd provider catalogue start k id) →
    ∃ plan, t.find id = some plan ∧ Describes lib event plan

end Property

variable {lib : StandardLibrary} {cmd : SyncPlansCommand} {provider : Provider}
  {catalogue : List Json} {start : SyncState (List Plan)}

lemma eventId_of_describes {event : Json} {plan : Plan} (h : Describes lib event plan) :
    eventId event = some plan.tmPlanId := by
  simp only [eventId, h.tmPlanId]

/-- Conversion succeeds at every time. -/
lemma Converts.at {event : Json} (h : Converts lib event) (now : DateTime) :
    ∃ plan, Plan.fromTicketmaster lib event now = .ok plan := by
  obtain ⟨time, plan, hplan⟩ := h
  refine ⟨{ plan with lastSyncedAt := some now }, ?_⟩
  rw [fromTicketmaster_now time now, hplan]
  rfl

lemma progress_zero (hnodup : (start.plans.map Plan.tmPlanId).Nodup) :
    Progress lib cmd provider catalogue start 0 (Table.ofList Plan.tmPlanId start.plans) where
  run := rfl
  lists := Table.lists_ofList hnodup
  present := by
    intro id
    rw [(Table.lists_ofList hnodup).find_ne_none_iff]
    simp
  unchanged := fun _ _ => rfl
  refreshed := by
    intro j hj
    omega

section Step

variable {i : ℕ} {t : PlanTable} {event : Json}

/-- The state after one more event. -/
lemma moment_succ (h : Progress lib cmd provider catalogue start i t)
    (hevent : catalogue[i]? = some event) {stored : Bool} {s' : SyncState (List Plan)}
    (hrun : (syncEvent lib cmd event).run (SyncState.handle provider planList)
      (moment lib cmd provider catalogue start i) = .ok stored s') :
    moment lib cmd provider catalogue start (i + 1) = s' ∧
      skipped lib cmd provider catalogue start i = !stored ∧
      (syncEvents lib cmd (catalogue.take (i + 1)) 0).run (SyncState.handle provider planList)
        start = .ok ((List.range (i + 1)).countP fun j =>
          !skipped lib cmd provider catalogue start j) s' := by
  have hskipped : skipped lib cmd provider catalogue start i = !stored := by
    simp only [skipped, hevent, hrun]
    cases stored <;> rfl
  have hall : (syncEvents lib cmd (catalogue.take (i + 1)) 0).run
      (SyncState.handle provider planList) start = .ok ((List.range (i + 1)).countP fun j =>
        !skipped lib cmd provider catalogue start j) s' := by
    have htake : catalogue.take (i + 1) = catalogue.take i ++ [event] := by
      rw [List.take_add_one, hevent]
      rfl
    rw [htake, syncEvents_append, Prog.run_bind_ok _ _ h.run, syncEvents,
      Prog.run_bind_ok _ _ hrun, List.range_succ, List.countP_append, List.countP_singleton,
      hskipped]
    cases stored <;> rfl
  exact ⟨Prog.after_of_ok _ hall, hskipped, hall⟩

/-- Whether an event stores an id is decided before the next one. -/
lemma exists_lt_succ_stores {id : String} :
    (∃ j < i + 1, Stores lib cmd provider catalogue start j id) ↔
      (∃ j < i, Stores lib cmd provider catalogue start j id) ∨
        Stores lib cmd provider catalogue start i id := by
  constructor
  · rintro ⟨j, hj, hstores⟩
    rcases Nat.lt_succ_iff_lt_or_eq.mp hj with hlt | rfl
    · exact .inl ⟨j, hlt, hstores⟩
    · exact .inr hstores
  · rintro (⟨j, hj, hstores⟩ | hstores)
    · exact ⟨j, by omega, hstores⟩
    · exact ⟨i, by omega, hstores⟩

/-- A skipped event changes nothing. -/
lemma Progress.skip (h : Progress lib cmd provider catalogue start i t)
    (hevent : catalogue[i]? = some event) {s' : SyncState (List Plan)}
    (hrun : (syncEvent lib cmd event).run (SyncState.handle provider planList)
      (moment lib cmd provider catalogue start i) = .ok false s')
    (hlists : Table.Lists s'.plans t) :
    Progress lib cmd provider catalogue start (i + 1) t := by
  obtain ⟨hmoment, hskipped, hall⟩ := moment_succ h hevent hrun
  have hnot : ∀ id, ¬ Stores lib cmd provider catalogue start i id := by
    rintro id ⟨event', -, hkept, -⟩
    rw [hskipped] at hkept
    cases hkept
  rw [← hmoment] at hall hlists
  refine ⟨hall, hlists, ?_, ?_, ?_⟩
  · intro id
    rw [h.present id, exists_lt_succ_stores, or_iff_left (hnot id)]
  · exact fun id hid => h.unchanged id fun j hj => hid j (by omega)
  · intro j hj event' id hevent' hstores hlast
    rcases Nat.lt_succ_iff_lt_or_eq.mp hj with hlt | rfl
    · exact h.refreshed j hlt event' id hevent' hstores fun k hk => hlast k (by omega)
    · exact absurd hstores (hnot id)

/-- An event that is not skipped stores a plan it describes. -/
lemma Progress.store (h : Progress lib cmd provider catalogue start i t)
    (hevent : catalogue[i]? = some event) {s' : SyncState (List Plan)}
    (hrun : (syncEvent lib cmd event).run (SyncState.handle provider planList)
      (moment lib cmd provider catalogue start i) = .ok true s') {stored : Plan}
    (hlists : Table.Lists s'.plans (t.put stored)) (hdescribes : Describes lib event stored) :
    Progress lib cmd provider catalogue start (i + 1) (t.put stored) := by
  obtain ⟨hmoment, hskipped, hall⟩ := moment_succ h hevent hrun
  have hid := eventId_of_describes hdescribes
  have hstores : ∀ id, Stores lib cmd provider catalogue start i id ↔ id = stored.tmPlanId := by
    intro id
    constructor
    · rintro ⟨event', hevent', -, hid'⟩
      rw [hevent] at hevent'
      cases hevent'
      rw [hid] at hid'
      exact (Option.some.inj hid').symm
    · rintro rfl
      exact ⟨event, hevent, hskipped, hid⟩
  rw [← hmoment] at hall hlists
  refine ⟨hall, hlists, ?_, ?_, ?_⟩
  · intro id
    rw [exists_lt_succ_stores, hstores, ← or_assoc, ← h.present id]
    by_cases hkey : id = stored.tmPlanId
    · simp [hkey]
    · simp [t.find_put_of_ne hkey, hkey]
  · intro id hnone
    have hkey : id ≠ stored.tmPlanId := fun hkey => hnone i (by omega) ((hstores id).mpr hkey)
    rw [t.find_put_of_ne hkey]
    exact h.unchanged id fun j hj => hnone j (by omega)
  · intro j hj event' id hevent' hstored hlast
    rcases Nat.lt_succ_iff_lt_or_eq.mp hj with hlt | rfl
    · have hkey : id ≠ stored.tmPlanId :=
        fun hkey => hlast i (by omega) hlt ((hstores id).mpr hkey)
      rw [t.find_put_of_ne hkey]
      exact h.refreshed j hlt event' id hevent' hstored fun k hk => hlast k (by omega)
    · rw [hevent] at hevent'
      cases hevent'
      exact ⟨stored, t.find_put_of_key ((hstores id).mp hstored).symm, hdescribes⟩

/-- **One more event**, and when it is skipped. -/
lemma Progress.succ (h : Progress lib cmd provider catalogue start i t)
    (hevent : catalogue[i]? = some event) (hconverts : Converts lib event) :
    (∃ t', Progress lib cmd provider catalogue start (i + 1) t') ∧
      ∃ plan, Describes lib event plan ∧
        (skipped lib cmd provider catalogue start i = true ↔ Recent cmd t plan.tmPlanId
          ((moment lib cmd provider catalogue start i).clock 1)) := by
  obtain ⟨plan, hplan⟩ := hconverts.at ((moment lib cmd provider catalogue start i).clock 0)
  have hdescribes := (describes_of_fromTicketmaster hplan).1
  rcases run_syncEvent provider refines_planList h.lists lib cmd event with
    ⟨e, herror, -⟩ | ⟨plan', s', hplan', hrecent, hrun, hlists, -⟩ |
    ⟨plan', s', stored, hplan', hrecent, hrun, hlists, -, hstored, -⟩
  · rw [hplan] at herror
    cases herror
  · rw [hplan] at hplan'
    cases hplan'
    have hskipped := (moment_succ h hevent hrun).2.1
    exact ⟨⟨t, h.skip hevent hrun hlists⟩, plan, hdescribes, iff_of_true hskipped hrecent⟩
  · rw [hplan] at hplan'
    cases hplan'
    have hskipped := (moment_succ h hevent hrun).2.1
    refine ⟨⟨t.put stored, h.store hevent hrun hlists hstored⟩, plan, hdescribes, ?_⟩
    exact iff_of_false (by simp [hskipped]) hrecent

end Step

/-- **Every prefix of the catalogue.** -/
theorem exists_progress (cmd : SyncPlansCommand) (provider : Provider)
    (hnodup : (start.plans.map Plan.tmPlanId).Nodup)
    (hconverts : ∀ event ∈ catalogue, Converts lib event) :
    ∀ i ≤ catalogue.length, ∃ t, Progress lib cmd provider catalogue start i t := by
  intro i
  induction i with
  | zero => exact fun _ => ⟨_, progress_zero hnodup⟩
  | succ i ih =>
    intro hi
    obtain ⟨t, h⟩ := ih (by omega)
    have hevent := List.getElem?_eq_getElem (show i < catalogue.length by omega)
    exact (h.succ hevent (hconverts _ (List.getElem_mem _))).1

/-- The plan of an event is fresh, in terms of the list. -/
lemma recent_iff {plans : List Plan} {t : PlanTable} (h : Table.Lists plans t) (id : String)
    (time : DateTime) : Recent cmd t id time ↔ cmd.staleOnly = true ∧
      ∃ existing ∈ plans, existing.tmPlanId = id ∧ existing.SyncedWithinDay time := by
  simp only [Recent, h.find_eq_some_iff, and_assoc]

/-- **The whole catalogue.** -/
theorem covers (hnodup : (start.plans.map Plan.tmPlanId).Nodup)
    (hconverts : ∀ event ∈ catalogue, Converts lib event) :
    Covers lib cmd provider catalogue start
      ((List.range catalogue.length).countP fun i => !skipped lib cmd provider catalogue start i)
      (moment lib cmd provider catalogue start catalogue.length) := by
  have hlt : ∀ {i event}, catalogue[i]? = some event → i < catalogue.length := fun hevent =>
    (List.getElem?_eq_some_iff.mp hevent).1
  obtain ⟨t, h⟩ := exists_progress cmd provider hnodup hconverts catalogue.length le_rfl
  refine ⟨rfl, ?_, rfl, h.lists.nodup, ?_, ?_, ?_⟩
  · intro i event id hevent hid
    obtain ⟨t', h'⟩ := exists_progress cmd provider hnodup hconverts i (hlt hevent).le
    obtain ⟨-, plan, hdescribes, hiff⟩ := h'.succ hevent
      (hconverts event (List.mem_of_getElem? hevent))
    have hsame : plan.tmPlanId = id := by
      rw [eventId_of_describes hdescribes] at hid
      exact Option.some.inj hid
    rw [hiff, hsame, recent_iff h'.lists]
  · intro id
    rw [← h.lists.find_ne_none_iff, h.present id]
    refine or_congr_right ⟨fun ⟨i, _, hstores⟩ => ⟨i, hstores⟩, ?_⟩
    rintro ⟨i, event, hevent, hstores⟩
    exact ⟨i, hlt hevent, event, hevent, hstores⟩
  · intro plan hnone
    have hsame := h.unchanged plan.tmPlanId fun j _ => hnone j
    rw [h.lists.mem, hsame, (Table.lists_ofList hnodup).mem]
  · intro plan hplan i event hevent hstores hlast
    obtain ⟨plan', hplan', hdescribes⟩ := h.refreshed i (hlt hevent) event plan.tmPlanId hevent
      hstores fun j _ hj => hlast j hj
    rw [(h.lists.mem plan).mp hplan] at hplan'
    cases hplan'
    exact hdescribes

/-! ## Pages -/

/-- The pages of a catalogue deliver it, if there are enough of them. -/
lemma delivered_paged (hpaged : Paged provider catalogue) (fuel page : ℕ)
    (hstart : page * pageSize ≤ catalogue.length)
    (henough : catalogue.length < (page + fuel) * pageSize) :
    delivered provider fuel page = catalogue.drop (page * pageSize) ∧
      delivery provider fuel page = .finished := by
  induction fuel generalizing page with
  | zero =>
    rw [Nat.add_zero] at henough
    omega
  | succ fuel ih =>
    have hlength : ((catalogue.drop (page * pageSize)).take pageSize).length =
        min pageSize (catalogue.length - page * pageSize) := by
      rw [List.length_take, List.length_drop]
    have hnext : (page + 1) * pageSize = page * pageSize + pageSize := Nat.succ_mul page pageSize
    rw [delivered, delivery, hpaged page pageSize]
    by_cases hshort : ((catalogue.drop (page * pageSize)).take pageSize).length < pageSize
    · have hrest : (catalogue.drop (page * pageSize)).length ≤ pageSize := by
        rw [List.length_drop]
        omega
      simp only [if_pos hshort]
      exact ⟨List.take_of_length_le hrest, trivial⟩
    · simp only [if_neg hshort]
      have henough' : catalogue.length < (page + 1 + fuel) * pageSize := by
        rwa [show page + 1 + fuel = page + (fuel + 1) by omega]
      obtain ⟨hdelivered, hdelivery⟩ := ih (page + 1) (by omega) henough'
      refine ⟨?_, hdelivery⟩
      rw [hdelivered, hnext, ← List.drop_drop, List.take_append_drop]

/-- With enough pages allowed, the handler goes through the catalogue and returns its count. -/
lemma run_handleSyncPlans {σ : Type} (repository : PlanRepository σ)
    (hpaged : Paged provider catalogue) {fuel : ℕ} (hfuel : catalogue.length < fuel * pageSize)
    (s : SyncState σ) :
    (handleSyncPlans lib cmd fuel).run (SyncState.handle provider repository) s =
      (syncEvents lib cmd catalogue 0 >>= fun synced => return some synced).run
        (SyncState.handle provider repository) s := by
  have hstart : 0 * pageSize ≤ catalogue.length := by omega
  have henough : catalogue.length < (0 + fuel) * pageSize := by rwa [Nat.zero_add]
  obtain ⟨hdelivered, hdelivery⟩ := delivered_paged hpaged fuel 0 hstart henough
  rw [handleSyncPlans, run_syncPages, hdelivered, hdelivery, Nat.zero_mul, List.drop_zero]
  rfl

/-- **A synchronization covers the catalogue**: with unique ids before, and enough pages allowed, it
returns, and has stored the last of the events with an id that it did not skip. -/
theorem catalogue_covered (hnodup : (start.plans.map Plan.tmPlanId).Nodup)
    (hpaged : Paged provider catalogue) (hconverts : ∀ event ∈ catalogue, Converts lib event)
    {fuel : ℕ} (hfuel : catalogue.length < fuel * pageSize) :
    ∃ n final, (handleSyncPlans lib cmd fuel).run (SyncState.handle provider planList) start =
        .ok (some n) final ∧ Covers lib cmd provider catalogue start n final := by
  obtain ⟨t, h⟩ := exists_progress cmd provider hnodup hconverts catalogue.length le_rfl
  refine ⟨_, _, ?_, covers hnodup hconverts⟩
  have hrun := h.run
  rw [List.take_length] at hrun
  rw [run_handleSyncPlans planList hpaged hfuel, Prog.run_bind_ok _ _ hrun]
  rfl

/-! ### One event twice -/

/-- The payload of a concert, without prices. -/
def concertEvent : Json := .obj [
  ("id", .str "G5v0Z9"),
  ("name", .str "Concert"),
  ("url", .str "https://www.ticketmaster.com/event/G5v0Z9"),
  ("dates", .obj [
    ("start", .obj [("dateTime", .str "2025-06-01T18:00:00Z")]),
    ("end", .obj [("dateTime", .str "2025-06-01T21:00:00Z")]),
    ("timezone", .str "Europe/Madrid")]),
  ("lastUpdated", .str "2025-01-15T09:00:00Z"),
  ("_embedded", .obj [("venues", .arr [.obj [
    ("name", .str "Palacio de los Deportes"),
    ("city", .obj [("name", .str "Madrid")]),
    ("state", .obj [("name", .str "Madrid")])]])])]

/-- The noon of a day in January. -/
def noon : DateTime := ⟨1736942400000000⟩

/-- The standard library, on the texts of that payload. -/
def standardLibrary : StandardLibrary where
  fromisoformat
    | "2025-06-01T18:00:00+00:00" => .ok (.aware ⟨1748800800000000⟩)
    | "2025-06-01T21:00:00+00:00" => .ok (.aware ⟨1748811600000000⟩)
    | "2025-01-15T09:00:00+00:00" => .ok (.aware ⟨1736931600000000⟩)
    | text => .error (.valueError ("Invalid isoformat string: '" ++ text ++ "'"))
  decimal
    | "0" => .ok (.ofInt 0)
    | _ => .error (.valueError "decimal.ConversionSyntax")
  uuid5 _ := ⟨"ad7fdc11-066a-5aed-9e39-071dbf535387", by decide⟩

lemma converts_concertEvent : Converts standardLibrary concertEvent := by
  have hok : (Plan.fromTicketmaster standardLibrary concertEvent ⟨0⟩).toBool = true := by
    decide +kernel
  cases hplan : Plan.fromTicketmaster standardLibrary concertEvent ⟨0⟩ with
  | ok plan => exact ⟨⟨0⟩, plan, hplan⟩
  | error e =>
    rw [hplan] at hok
    cases hok

/-- A page holds both, and the second finds the plan of the first. -/
theorem concert_covered : ∃ n final,
    (handleSyncPlans standardLibrary ⟨none, true⟩ 1).run
        (SyncState.handle (fun page size =>
          .ok (([concertEvent, concertEvent].drop (page * size)).take size)) planList)
        ⟨[], fun _ => ⟨1736931600000000⟩⟩ = .ok (some n) final ∧
      Covers standardLibrary ⟨none, true⟩
        (fun page size => .ok (([concertEvent, concertEvent].drop (page * size)).take size))
        [concertEvent, concertEvent] ⟨[], fun _ => ⟨1736931600000000⟩⟩ n final := by
  have hnodup : (([] : List Plan).map Plan.tmPlanId).Nodup := List.nodup_nil
  refine catalogue_covered hnodup (fun _ _ => rfl) ?_ (by decide)
  intro event hevent
  have hconcert : event = concertEvent := by simpa using hevent
  rw [hconcert]
  exact converts_concertEvent

end TicketGenius.Catalogue
