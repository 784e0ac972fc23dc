import TicketGenius.Adapters.SessionView
import TicketGenius.Domain.Plan

/-!
# Stored plans

`update_plan_from_ticketmaster` of `adapters/ticketmaster.py`, and the repository of plans.

A repository hands out an instance, and what is assigned to the instance afterwards is the
repository's.  `PlanRepository` has the three operations a synchronization needs; what they are for
is a table of plans with their provider's ids as keys (`Refines`).  Two repositories refine it: a
list of plans, and `SqlAlchemyPlanRepository` over the session of a unit of work, whose queries
flush, so that they find what was added before.
-/

namespace TicketGenius

open Framework

/-! ## Updating a plan -/

abbrev PlanM := EStateM PyError Plan

/-- `update_plan_from_ticketmaster`, called at `now`.  The last branch of the source is for a plan
without a dict of section prices. -/
def updatePlanFromTicketmaster (lib : StandardLibrary) (tmData : Json) (now : DateTime) :
    PlanM Unit := do
  let name ← MonadExcept.ofExcept (tmData.item "name")
  modify fun plan => { plan with name := name }
  let url ← MonadExcept.ofExcept (tmData.item "url")
  modify fun plan => { plan with url := url }
  let imageUrl ← MonadExcept.ofExcept tmData.imageUrl
  modify fun plan => { plan with imageUrl := imageUrl }
  let venueName ← MonadExcept.ofExcept tmData.venueName
  modify fun plan => { plan with venueName := venueName }
  let venueCity ← MonadExcept.ofExcept tmData.venueCity
  modify fun plan => { plan with venueCity := venueCity }
  let venueState ← MonadExcept.ofExcept tmData.venueState
  modify fun plan => { plan with venueState := venueState }
  let priceRange ← MonadExcept.ofExcept tmData.priceRange
  let minPrice ← MonadExcept.ofExcept (lib.price priceRange "min")
  modify fun plan => { plan with minPrice := minPrice }
  let maxPrice ← MonadExcept.ofExcept (lib.price priceRange "max")
  modify fun plan => { plan with maxPrice := maxPrice }
  modify fun plan => { plan with lastSyncedAt := some now }
  let tmLastModified ← MonadExcept.ofExcept (lib.lastUpdated tmData)
  modify fun plan => { plan with tmLastModified := tmLastModified }
  modify fun plan => { plan with version := plan.version + 1 }

/-- A plan after an update, given what `from_ticketmaster` makes of the same payload. -/
def Plan.refreshed (self fetched : Plan) (now : DateTime) : Plan :=
  { self with
    name := fetched.name
    url := fetched.url
    imageUrl := fetched.imageUrl
    venueName := fetched.venueName
    venueCity := fetched.venueCity
    venueState := fetched.venueState
    minPrice := fetched.minPrice
    maxPrice := fetched.maxPrice
    lastSyncedAt := some now
    tmLastModified := fetched.tmLastModified
    version := self.version + 1 }

/-- What an update reads from a payload, as the fields of a plan. -/
structure Provides (lib : StandardLibrary) (tmData : Json) (plan : Plan) : Prop where
  name : tmData.item "name" = .ok plan.name
  url : tmData.item "url" = .ok plan.url
  imageUrl : tmData.imageUrl = .ok plan.imageUrl
  venueName : tmData.venueName = .ok plan.venueName
  venueCity : tmData.venueCity = .ok plan.venueCity
  venueState : tmData.venueState = .ok plan.venueState
  prices : ∃ priceRange, tmData.priceRange = .ok priceRange ∧
    lib.price priceRange "min" = .ok plan.minPrice ∧ lib.price priceRange "max" = .ok plan.maxPrice
  tmLastModified : lib.lastUpdated tmData = .ok plan.tmLastModified

section Update

variable {lib : StandardLibrary} {tmData : Json} {plan fetched : Plan}

@[simp] lemma run_ofExcept_ok {α : Type} (a : α) :
    (MonadExcept.ofExcept (.ok a) : PlanM α).run plan = .ok a plan := rfl

/-- An update that can read what it needs assigns every field. -/
lemma Provides.run_update (h : Provides lib tmData fetched) (plan : Plan) (now : DateTime) :
    (updatePlanFromTicketmaster lib tmData now).run plan = .ok () (plan.refreshed fetched now) := by
  obtain ⟨priceRange, hpriceRange, hmin, hmax⟩ := h.prices
  simp [updatePlanFromTicketmaster, Plan.refreshed, h.name, h.url, h.imageUrl, h.venueName,
    h.venueCity, h.venueState, hpriceRange, hmin, hmax, h.tmLastModified]

lemma Describes.provides (h : Describes lib tmData fetched) : Provides lib tmData fetched :=
  { h with }

/-- A payload that can be converted can also be used for an update. -/
lemma run_updatePlanFromTicketmaster (h : Describes lib tmData fetched) (now : DateTime) :
    (updatePlanFromTicketmaster lib tmData now).run plan = .ok () (plan.refreshed fetched now) :=
  h.provides.run_update plan now

/-- The updated plan is described by the payload. -/
lemma Describes.refreshed (h : Describes lib tmData fetched)
    (hid : plan.tmPlanId = fetched.tmPlanId) (now : DateTime) :
    Describes lib tmData (plan.refreshed fetched now) :=
  { h with tmPlanId := h.tmPlanId.trans (by rw [← hid]; rfl) }

end Update

/-! ## Repositories -/

/-- Plans by the provider's id. -/
abbrev PlanTable := Table String Plan Plan.tmPlanId

/-- A plan that the table does not have, or has in an older version. -/
def PlanTable.Newer (t : PlanTable) (plan : Plan) : Prop :=
  ∀ old, t.find plan.tmPlanId = some old → old.version < plan.version

/-- No plan is lost, and none goes back to an older version. -/
def PlanTable.Grows (t t' : PlanTable) : Prop :=
  ∀ id plan, t.find id = some plan → ∃ plan', t'.find id = some plan' ∧ plan.version ≤ plan'.version

lemma PlanTable.grows_refl (t : PlanTable) : t.Grows t :=
  fun _ plan hplan => ⟨plan, hplan, le_rfl⟩

lemma PlanTable.Grows.trans {t₀ t t' : PlanTable} (h : t₀.Grows t) (h' : t.Grows t') :
    t₀.Grows t' := by
  intro id plan hplan
  obtain ⟨between, hbetween, hfirst⟩ := h id plan hplan
  obtain ⟨plan', hplan', hsecond⟩ := h' id between hbetween
  exact ⟨plan', hplan', hfirst.trans hsecond⟩

lemma PlanTable.Newer.grows {t : PlanTable} {plan : Plan} (hnewer : t.Newer plan) :
    PlanTable.Grows t (t.put plan) := by
  intro id old hold
  by_cases hid : id = plan.tmPlanId
  · have hlt := hnewer old (by rw [← hid, hold])
    exact ⟨plan, t.find_put_of_key hid.symm, hlt.le⟩
  · exact ⟨old, by rw [t.find_put_of_ne hid, hold], le_rfl⟩

/-- What has been stored once stays visible: the table never is what it was. -/
lemma PlanTable.Newer.ne {t₀ t t' : PlanTable} {plan : Plan} (hnewer : t.Newer plan)
    (hbefore : t₀.Grows t) (hafter : PlanTable.Grows (t.put plan) t') : t' ≠ t₀ := by
  rintro rfl
  obtain ⟨later, hlater, hle⟩ := hafter plan.tmPlanId plan (t.find_put_self plan)
  obtain ⟨old, hold, hle'⟩ := hbefore plan.tmPlanId later hlater
  have hlt := hnewer old hold
  omega

/-- A repository of plans, as the state `σ` it works on. -/
structure PlanRepository (σ : Type) where
  /-- `plans.get_by_tm_id(tm_plan_id)` -/
  getByTmId : String → σ → Except PyError (Option Plan) × σ
  /-- `plans.add(plan)` -/
  add : Plan → σ → σ
  /-- What assignments to the attributes of an instance that was handed out make of it. -/
  assign : Plan → σ → σ

/-- The repository stores a table: it finds a plan if the table has one, and takes plans that are
new to the table and newer versions of plans it has handed out. -/
structure PlanRepository.Refines {σ : Type} (repository : PlanRepository σ)
    (Rep : σ → PlanTable → Prop) : Prop where
  getByTmId : ∀ {s t} id, Rep s t →
    (repository.getByTmId id s).1 = .ok (t.find id) ∧ Rep (repository.getByTmId id s).2 t
  add : ∀ {s t} plan, Rep s t → t.find plan.tmPlanId = none →
    Rep (repository.add plan s) (t.put plan)
  assign : ∀ {s t} {plan plan' : Plan}, Rep s t → t.find plan'.tmPlanId = some plan →
    plan.version < plan'.version →
    Rep (repository.assign plan' (repository.getByTmId plan'.tmPlanId s).2) (t.put plan')

/-! ### A list of plans -/

/-- The repository that keeps plans in a list. -/
def planList : PlanRepository (List Plan) where
  getByTmId id plans := (.ok (plans.find? (·.tmPlanId = id)), plans)
  add plan plans := plans ++ [plan]
  assign plan plans := plans.map fun p => if p.tmPlanId = plan.tmPlanId then plan else p

/-- A list without two plans of one id stores the table of its plans. -/
theorem refines_planList : planList.Refines Table.Lists where
  getByTmId := by
    intro plans t id h
    exact ⟨congrArg Except.ok (h.find?_eq id), h⟩
  add := by
    intro plans t plan h hnew
    exact h.append hnew
  assign := by
    intro plans t plan plan' h hold _
    refine h.map hold ?_ ?_
    · rw [if_pos (t.keyed _ _ hold)]
    · exact fun other hother => if_neg hother

/-! ### The session of a unit of work -/

section Session

variable {ε ρ : Type}

/-- `SqlAlchemyPlanRepository`, with the unit of work whose session it uses. -/
def sqlAlchemyPlanRepository : PlanRepository (SqlAlchemyUnitOfWork String Plan ε ρ) where
  getByTmId id uow :=
    match uow.session.query uow.database id with
    | none => (.error .pendingRollbackError, uow)
    | some session =>
      (.ok ((session.instances.find? (·.key = id)).map Instance.value),
        { uow with session := session })
  add plan uow := { uow with session := uow.session.add plan.tmPlanId plan }
  assign plan uow := { uow with session := uow.session.assign plan.tmPlanId plan }

/-- A database in which every plan lies under its id. -/
structure PlanDatabase (ρ : Type) where
  statements : List (Statement String Plan ρ)
  keyed : ∀ id plan, rowOf id statements = some plan → plan.tmPlanId = id

/-- The committed plans. -/
def PlanDatabase.table (database : PlanDatabase ρ) : PlanTable :=
  ⟨fun id => rowOf id database.statements, database.keyed⟩

/-- The unit of work has committed nothing, its session shows the table, and a rollback would undo
something exactly if the table is no longer the committed one. -/
structure Uncommitted (database : PlanDatabase ρ) (uow : SqlAlchemyUnitOfWork String Plan ε ρ)
    (t : PlanTable) : Prop where
  committed : uow.database = database.statements
  shows : uow.session.Shows database.statements t.find
  grows : database.table.Grows t
  pending : uow.session.Pending ↔ t ≠ database.table

lemma uncommitted_create (database : PlanDatabase ρ) :
    Uncommitted database (.create database.statements : SqlAlchemyUnitOfWork String Plan ε ρ)
      database.table where
  committed := rfl
  shows := OrmSession.shows_empty database.statements
  grows := PlanTable.grows_refl _
  pending := by simp [OrmSession.Pending, SqlAlchemyUnitOfWork.create, OrmSession.empty]

/-- What a query of the repository does. -/
lemma Uncommitted.query {database : PlanDatabase ρ} {uow : SqlAlchemyUnitOfWork String Plan ε ρ}
    {t : PlanTable} (h : Uncommitted database uow t) (id : String) :
    ∃ session, sqlAlchemyPlanRepository.getByTmId id uow =
        (.ok (t.find id), { uow with session := session }) ∧
      (session.instances.find? (·.key = id)).map Instance.value = t.find id ∧
      Uncommitted database { uow with session := session } t := by
  obtain ⟨session, hquery, hshows, hvalue⟩ := h.shows.query id
  refine ⟨session, ?_, hvalue, ?_⟩
  · have hquery' := hquery
    rw [← h.committed] at hquery'
    simp only [sqlAlchemyPlanRepository, hquery', hvalue]
  · exact ⟨h.committed, hshows, h.grows, (OrmSession.pending_query hquery).trans h.pending⟩

/-- **The repository of a unit of work** stores the table its session shows. -/
theorem refines_sqlAlchemyPlanRepository (database : PlanDatabase ρ) :
    (sqlAlchemyPlanRepository (ε := ε)).Refines (Uncommitted database) where
  getByTmId := by
    intro uow t id h
    obtain ⟨session, hget, -, hafter⟩ := h.query id
    rw [hget]
    exact ⟨rfl, hafter⟩
  add := by
    intro uow t plan h hnew
    have hnewer : t.Newer plan := by
      intro old hold
      rw [hnew] at hold
      cases hold
    have hchanged := hnewer.ne h.grows (PlanTable.grows_refl _)
    exact ⟨h.committed, h.shows.add hnew plan, h.grows.trans hnewer.grows,
      iff_of_true (OrmSession.pending_add ..) hchanged⟩
  assign := by
    intro uow t plan plan' h hold hversion
    obtain ⟨session, hget, hvalue, hafter⟩ := h.query plan'.tmPlanId
    rw [hget]
    rw [hold] at hvalue
    obtain ⟨o, hfind, -⟩ := Option.map_eq_some_iff.mp hvalue
    have hkey : o.key = plan'.tmPlanId := by simpa using List.find?_some hfind
    have hnewer : t.Newer plan' := by
      intro old hold'
      rw [hold] at hold'
      cases hold'
      exact hversion
    have hchanged := hnewer.ne h.grows (PlanTable.grows_refl _)
    have hpending : (session.assign plan'.tmPlanId plan').Pending := by
      rw [← hkey]
      exact OrmSession.pending_assign (List.mem_of_find?_eq_some hfind) plan'
    exact ⟨h.committed, hafter.shows.assign hfind plan', h.grows.trans hnewer.grows,
      iff_of_true hpending hchanged⟩

end Session

end TicketGenius
