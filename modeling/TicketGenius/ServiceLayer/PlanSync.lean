import TicketGenius.Adapters.Plans
import TicketGenius.Framework.Program

/-!
# Synchronizing plans

`PlanCommandHandler` of `service_layer/handlers.py`.  The loop asks the provider for page after page
until one is empty or short, so nothing bounds it but the provider; the model counts the pages it
may still ask for and returns `none` when it has to stop.  The handler does not enter its unit of
work: no commit and no rollback belongs to the body.

Pages play no part in what happens to an event.  `run_syncPages` splits a run into the events that
were delivered, in their order, and the way the delivery ended.
-/

namespace TicketGenius

open Framework

structure SyncPlansCommand where
  since : Option DateTime
  staleOnly : Bool

/-! ## Operations -/

/-- The operations of the handler. -/
inductive SyncOp
  /-- `self._tm.search_plans(page=page, size=size)` -/
  | searchPlans (page size : ℕ)
  /-- `self._uow.plans.get_by_tm_id` -/
  | getByTmId (tmPlanId : String)
  /-- `self._uow.plans.add` -/
  | add (plan : Plan)
  /-- Assignments to the attributes of a plan. -/
  | assign (plan : Plan)
  /-- `datetime.now(UTC)` -/
  | now

/-- What an operation returns. -/
@[reducible]
def SyncOp.Reply : SyncOp → Type
  | .searchPlans .. => Except PyError (List Json)
  | .getByTmId _ => Except PyError (Option Plan)
  | .add _ => Unit
  | .assign _ => Unit
  | .now => DateTime

/-- The signature of the handler. -/
@[reducible]
def syncing : Signature := ⟨SyncOp, SyncOp.Reply⟩

abbrev Sync (α : Type) : Type := Prog syncing PyError α

/-- What the handler works on: a repository's state and the clock. -/
structure SyncState (σ : Type) where
  plans : σ
  clock : ℕ → DateTime

/-- The state after some clock readings. -/
def SyncState.tick {σ : Type} (n : ℕ) (s : SyncState σ) : SyncState σ :=
  { s with clock := fun i => s.clock (i + n) }

/-- What the provider delivers: a page of some size, as a list of documents. -/
abbrev Provider := ℕ → ℕ → Except PyError (List Json)

/-- What an operation does. -/
def SyncState.handle {σ : Type} (provider : Provider) (repository : PlanRepository σ) :
    Handler syncing (SyncState σ)
  | .searchPlans page size, s => (provider page size, s)
  | .getByTmId id, s =>
    ((repository.getByTmId id s.plans).1, { s with plans := (repository.getByTmId id s.plans).2 })
  | .add plan, s => ((), { s with plans := repository.add plan s.plans })
  | .assign plan, s => ((), { s with plans := repository.assign plan s.plans })
  | .now, s => (s.clock 0, s.tick 1)

namespace Sync

def searchPlans (page size : ℕ) : Sync (Except PyError (List Json)) :=
  Prog.perform (S := syncing) (SyncOp.searchPlans page size)

def getByTmId (tmPlanId : String) : Sync (Except PyError (Option Plan)) :=
  Prog.perform (S := syncing) (SyncOp.getByTmId tmPlanId)

def add (plan : Plan) : Sync Unit := Prog.perform (S := syncing) (SyncOp.add plan)

def assign (plan : Plan) : Sync Unit := Prog.perform (S := syncing) (SyncOp.assign plan)

def now : Sync DateTime := Prog.perform (S := syncing) SyncOp.now

end Sync

/-! ## The handler -/

/-- 24 hours, in microseconds. -/
def staleThreshold : ℤ := 24 * 3600 * 1000000

/-- The plan has been synced less than 24 hours before `time`. -/
def Plan.SyncedWithinDay (self : Plan) (time : DateTime) : Prop :=
  ∃ synced, self.lastSyncedAt = some synced ∧ time.micros - synced.micros < staleThreshold

instance (self : Plan) (time : DateTime) : Decidable (self.SyncedWithinDay time) :=
  match h : self.lastSyncedAt with
  | none => .isFalse (by rintro ⟨synced, hsynced, -⟩; rw [h] at hsynced; cases hsynced)
  | some synced =>
    decidable_of_iff (time.micros - synced.micros < staleThreshold)
      (by simp [Plan.SyncedWithinDay, h])

section Handler

open Sync

variable (lib : StandardLibrary) (cmd : SyncPlansCommand)

/-- The condition of `continue`, for a plan that exists. -/
def isFresh (existing : Plan) : Sync Bool :=
  match cmd.staleOnly, existing.lastSyncedAt with
  | true, some synced => do
    let age := (← now).micros - synced.micros
    return age < staleThreshold
  | _, _ => return false

/-- `self._tm.update_plan_from_ticketmaster(existing, event)`.  If it raises, the attributes
assigned before keep their new values. -/
def updateExisting (existing : Plan) (event : Json) : Sync Unit := do
  let time ← now
  match (updatePlanFromTicketmaster lib event time).run existing with
  | .ok _ plan => assign plan
  | .error e plan => do
    assign plan
    Prog.raise e

/-- The body of the inner loop, which returns whether `synced` goes up. -/
def syncEvent (event : Json) : Sync Bool := do
  let time ← now
  let plan ← Prog.ofExcept (Plan.fromTicketmaster lib event time)
  let existing ← getByTmId plan.tmPlanId >>= Prog.ofExcept
  match existing with
  | none => do
    add plan
    return true
  | some existing => do
    if ← isFresh cmd existing then return false
    else
      updateExisting lib existing event
      return true

/-- The inner loop. -/
def syncEvents : List Json → ℕ → Sync ℕ
  | [], synced => return synced
  | event :: events, synced => do
    if ← syncEvent lib cmd event then syncEvents events (synced + 1)
    else syncEvents events synced

/-- `size`. -/
def pageSize : ℕ := 100

/-- The outer loop, for at most `fuel` pages. -/
def syncPages : ℕ → ℕ → ℕ → Sync (Option ℕ)
  | 0, _, _ => return none
  | fuel + 1, page, synced => do
    let events ← searchPlans page pageSize >>= Prog.ofExcept
    if events.isEmpty then return some synced
    else
      let synced ← syncEvents lib cmd events synced
      if events.length < pageSize then return some synced
      else syncPages fuel (page + 1) synced

/-- `handle_sync_plans`, for at most `fuel` pages. -/
def handleSyncPlans (fuel : ℕ) : Sync (Option ℕ) := syncPages lib cmd fuel 0 0

end Handler

/-! ## One event -/

/-- The event is skipped: only stale plans are wanted, and its plan is fresh at `time`. -/
def Recent (cmd : SyncPlansCommand) (t : PlanTable) (id : String) (time : DateTime) : Prop :=
  cmd.staleOnly = true ∧ ∃ existing, t.find id = some existing ∧ existing.SyncedWithinDay time

section Event

variable {σ : Type} {lib : StandardLibrary} {cmd : SyncPlansCommand} (provider : Provider)
  (repository : PlanRepository σ) {existing fetched : Plan} {event : Json}

lemma run_isFresh_true {s : SyncState σ} (hstale : cmd.staleOnly = true)
    (hsynced : existing.SyncedWithinDay (s.clock 0)) :
    (isFresh cmd existing).run (SyncState.handle provider repository) s = .ok true (s.tick 1) := by
  obtain ⟨synced, hlast, hage⟩ := hsynced
  have htrue : decide ((s.clock 0).micros - synced.micros < staleThreshold) = true :=
    decide_eq_true hage
  simp only [isFresh, hstale, hlast]
  show (EStateM.Result.ok (decide ((s.clock 0).micros - synced.micros < staleThreshold))
    (s.tick 1) : EStateM.Result PyError (SyncState σ) Bool) = _
  rw [htrue]

lemma run_isFresh_false {s : SyncState σ}
    (h : ¬ (cmd.staleOnly = true ∧ existing.SyncedWithinDay (s.clock 0))) :
    ∃ n, (isFresh cmd existing).run (SyncState.handle provider repository) s =
      .ok false (s.tick n) := by
  unfold isFresh
  split
  · next synced hstale hlast =>
    have hold : ¬ (s.clock 0).micros - synced.micros < staleThreshold :=
      fun hage => h ⟨hstale, synced, hlast, hage⟩
    refine ⟨1, ?_⟩
    show (EStateM.Result.ok (decide ((s.clock 0).micros - synced.micros < staleThreshold))
      (s.tick 1) : EStateM.Result PyError (SyncState σ) Bool) = _
    rw [decide_eq_false hold]
  · exact ⟨0, rfl⟩

lemma run_updateExisting (s : SyncState σ) (h : Describes lib event fetched) :
    (updateExisting lib existing event).run (SyncState.handle provider repository) s =
      .ok () { s.tick 1 with
        plans := repository.assign (existing.refreshed fetched (s.clock 0)) s.plans } := by
  show (match (updatePlanFromTicketmaster lib event (s.clock 0)).run existing with
    | .ok _ plan => Sync.assign plan
    | .error e plan => do
      Sync.assign plan
      Prog.raise e : Sync Unit).run _ (s.tick 1) = _
  rw [run_updatePlanFromTicketmaster h]
  rfl

lemma run_syncEvent_error {s : SyncState σ} {e : PyError}
    (hplan : Plan.fromTicketmaster lib event (s.clock 0) = .error e) :
    (syncEvent lib cmd event).run (SyncState.handle provider repository) s =
      .error e (s.tick 1) := by
  show (Prog.ofExcept (Plan.fromTicketmaster lib event (s.clock 0)) >>= _ : Sync Bool).run _
    (s.tick 1) = _
  rw [hplan]
  rfl

/-- The state after the event has been converted and its plan looked up. -/
def SyncState.lookedUp (repository : PlanRepository σ) (id : String) (s : SyncState σ) :
    SyncState σ :=
  { s.tick 1 with plans := (repository.getByTmId id s.plans).2 }

/-- An event that is converted goes on with the lookup of its plan. -/
lemma run_syncEvent_ok {s : SyncState σ}
    (hplan : Plan.fromTicketmaster lib event (s.clock 0) = .ok fetched) :
    (syncEvent lib cmd event).run (SyncState.handle provider repository) s =
      (Prog.ofExcept (repository.getByTmId fetched.tmPlanId s.plans).1 >>= fun
        | none => do
          Sync.add fetched
          return true
        | some existing => do
          if ← isFresh cmd existing then return false
          else
            updateExisting lib existing event
            return true : Sync Bool).run (SyncState.handle provider repository)
              (s.lookedUp repository fetched.tmPlanId) := by
  show (Prog.ofExcept (Plan.fromTicketmaster lib event (s.clock 0)) >>= _ : Sync Bool).run _
    (s.tick 1) = _
  rw [hplan]
  rfl

/-- An existing plan that is not fresh is refreshed, at a reading of the clock. -/
lemma run_syncEvent_stale {s : SyncState σ} (hdescribes : Describes lib event fetched)
    (hstale : ¬ (cmd.staleOnly = true ∧ existing.SyncedWithinDay (s.clock 0))) :
    ∃ n s', (do
        if ← isFresh cmd existing then return false
        else
          updateExisting lib existing event
          return true : Sync Bool).run (SyncState.handle provider repository) s = .ok true s' ∧
      s'.plans = repository.assign (existing.refreshed fetched (s.clock n)) s.plans ∧
      s'.clock = (s.tick (n + 1)).clock := by
  obtain ⟨n, hfresh⟩ := run_isFresh_false provider repository hstale
  have hupdate : (updateExisting lib existing event).run _ (s.tick n) = _ :=
    run_updateExisting provider repository (s.tick n) hdescribes
  have hfirst : (s.tick n).clock 0 = s.clock n := congrArg s.clock (Nat.zero_add n)
  refine ⟨n, { (s.tick n).tick 1 with
    plans := repository.assign (existing.refreshed fetched ((s.tick n).clock 0)) s.plans },
    ?_, by rw [hfirst], ?_⟩
  · rw [Prog.run_bind_ok _ _ hfresh]
    exact Prog.run_bind_ok _ _ hupdate
  · funext i
    exact congrArg s.clock (by omega)

/-! ### The table after an event -/

section Table

variable {t : PlanTable} {id : String} {time : DateTime}

lemma recent_iff_of_some (h : t.find id = some existing) :
    Recent cmd t id time ↔ cmd.staleOnly = true ∧ existing.SyncedWithinDay time := by
  simp only [Recent, h, Option.some.injEq, exists_eq_left']

lemma newer_of_none (h : t.find fetched.tmPlanId = none) : t.Newer fetched := by
  intro old hold
  rw [h] at hold
  cases hold

/-- A refreshed plan keeps its key, and has a version that the table does not have. -/
lemma newer_refreshed (h : t.find fetched.tmPlanId = some existing) :
    (existing.refreshed fetched time).tmPlanId = fetched.tmPlanId ∧
      t.Newer (existing.refreshed fetched time) := by
  have hid : existing.tmPlanId = fetched.tmPlanId := t.keyed _ _ h
  refine ⟨hid, fun old hold => ?_⟩
  have hsame : t.find existing.tmPlanId = some old := hold
  rw [hid, h] at hsame
  cases hsame
  exact Int.lt_succ existing.version

/-- What is stored of a fetched plan at `time`, given the plan that is there. -/
def Plan.storedOver (fetched : Plan) (time : DateTime) : Option Plan → Plan
  | none => fetched
  | some existing => existing.refreshed fetched time

/-- It has the key of the fetched plan, the event describes it, and its version is new. -/
lemma storedOver_spec (hdescribes : Describes lib event fetched) (t : PlanTable) (time : DateTime) :
    (fetched.storedOver time (t.find fetched.tmPlanId)).tmPlanId = fetched.tmPlanId ∧
      Describes lib event (fetched.storedOver time (t.find fetched.tmPlanId)) ∧
      t.Newer (fetched.storedOver time (t.find fetched.tmPlanId)) := by
  cases hfound : t.find fetched.tmPlanId with
  | none => exact ⟨rfl, hdescribes, newer_of_none hfound⟩
  | some existing =>
    have hnew : (existing.refreshed fetched time).tmPlanId = fetched.tmPlanId ∧
      t.Newer (existing.refreshed fetched time) := newer_refreshed hfound
    exact ⟨hnew.1, hdescribes.refreshed (t.keyed _ _ hfound) time, hnew.2⟩

end Table

variable {repository}

/-- An event that is converted and not skipped: its plan is added, or the plan that is there is
refreshed at some reading of the clock. -/
lemma run_syncEvent_stores {Rep : σ → PlanTable → Prop} (hrefines : repository.Refines Rep)
    {s : SyncState σ} {t : PlanTable} (hRep : Rep s.plans t)
    (hplan : Plan.fromTicketmaster lib event (s.clock 0) = .ok fetched)
    (hrecent : ¬ Recent cmd t fetched.tmPlanId (s.clock 1)) :
    ∃ i n s', (syncEvent lib cmd event).run (SyncState.handle provider repository) s =
        .ok true s' ∧
      Rep s'.plans (t.put (fetched.storedOver (s.clock i) (t.find fetched.tmPlanId))) ∧
      s'.clock = (s.tick n).clock := by
  obtain ⟨hdescribes, -, -⟩ := describes_of_fromTicketmaster hplan
  obtain ⟨hreply, hRep'⟩ := hrefines.getByTmId fetched.tmPlanId hRep
  rw [run_syncEvent_ok provider repository hplan, hreply, Prog.ofExcept_ok_bind]
  cases hfound : t.find fetched.tmPlanId with
  | none => exact ⟨0, 1, _, rfl, hrefines.add fetched hRep' hfound, rfl⟩
  | some existing =>
    rw [recent_iff_of_some hfound] at hrecent
    obtain ⟨i, s', hstore, hplans, hclock⟩ :=
      run_syncEvent_stale provider repository (s := s.lookedUp repository fetched.tmPlanId)
        hdescribes hrecent
    have hnew : (existing.refreshed fetched (s.clock (i + 1))).tmPlanId = fetched.tmPlanId ∧
      t.Newer (existing.refreshed fetched (s.clock (i + 1))) := newer_refreshed hfound
    have hold : t.find (existing.refreshed fetched (s.clock (i + 1))).tmPlanId = some existing := by
      rw [hnew.1, hfound]
    have hassigned := hrefines.assign hRep hold (Int.lt_succ existing.version)
    rw [hnew.1] at hassigned
    refine ⟨i + 1, i + 2, s', hstore, ?_, hclock⟩
    rw [hplans]
    exact hassigned

/-- **What an event does.**  It cannot be converted; or it is skipped, after two clock readings; or
its plan is stored, in a version that is new to the table. -/
theorem run_syncEvent {Rep : σ → PlanTable → Prop} (hrefines : repository.Refines Rep)
    {s : SyncState σ} {t : PlanTable} (hRep : Rep s.plans t) (lib : StandardLibrary)
    (cmd : SyncPlansCommand) (event : Json) :
    (∃ e, Plan.fromTicketmaster lib event (s.clock 0) = .error e ∧
      (syncEvent lib cmd event).run (SyncState.handle provider repository) s =
        .error e (s.tick 1)) ∨
    (∃ plan s', Plan.fromTicketmaster lib event (s.clock 0) = .ok plan ∧
      Recent cmd t plan.tmPlanId (s.clock 1) ∧
      (syncEvent lib cmd event).run (SyncState.handle provider repository) s = .ok false s' ∧
      Rep s'.plans t ∧ s'.clock = (s.tick 2).clock) ∨
    (∃ plan s' stored, Plan.fromTicketmaster lib event (s.clock 0) = .ok plan ∧
      ¬ Recent cmd t plan.tmPlanId (s.clock 1) ∧
      (syncEvent lib cmd event).run (SyncState.handle provider repository) s = .ok true s' ∧
      Rep s'.plans (t.put stored) ∧ stored.tmPlanId = plan.tmPlanId ∧
      Describes lib event stored ∧ t.Newer stored) := by
  cases hplan : Plan.fromTicketmaster lib event (s.clock 0) with
  | error e => exact .inl ⟨e, rfl, run_syncEvent_error provider repository hplan⟩
  | ok plan =>
    right
    by_cases hrecent : Recent cmd t plan.tmPlanId (s.clock 1)
    · obtain ⟨hstale, existing, hfound, hsynced⟩ := id hrecent
      obtain ⟨hreply, hRep'⟩ := hrefines.getByTmId plan.tmPlanId hRep
      let s₁ := s.lookedUp repository plan.tmPlanId
      have hfresh := run_isFresh_true provider repository (s := s₁) hstale hsynced
      refine .inl ⟨plan, s₁.tick 1, rfl, hrecent, ?_, hRep', rfl⟩
      rw [run_syncEvent_ok provider repository hplan, hreply, Prog.ofExcept_ok_bind, hfound]
      exact Prog.run_bind_ok _ _ hfresh
    · obtain ⟨hdescribes, -, -⟩ := describes_of_fromTicketmaster hplan
      obtain ⟨i, n, s', hrun, hRep', -⟩ := run_syncEvent_stores provider hrefines hRep hplan hrecent
      obtain ⟨hid, hstored, hnewer⟩ := storedOver_spec hdescribes t (s.clock i)
      exact .inr ⟨plan, s', _, rfl, hrecent, hrun, hRep', hid, hstored, hnewer⟩

end Event

/-! ## Pages -/

/-- How the pages end: with a short one, with an exception of the provider, or not yet. -/
inductive Delivery
  | finished
  | failed (e : PyError)
  | unfinished

section Pages

variable (provider : Provider)

/-- The events of all pages from some page on, of at most `fuel` pages. -/
def delivered : ℕ → ℕ → List Json
  | 0, _ => []
  | fuel + 1, page =>
    match provider page pageSize with
    | .error _ => []
    | .ok events =>
      if events.length < pageSize then events else events ++ delivered fuel (page + 1)

/-- How these pages end. -/
def delivery : ℕ → ℕ → Delivery
  | 0, _ => .unfinished
  | fuel + 1, page =>
    match provider page pageSize with
    | .error e => .failed e
    | .ok events => if events.length < pageSize then .finished else delivery fuel (page + 1)

/-- What the handler does with its count at the end. -/
def Delivery.conclude (synced : ℕ) : Delivery → Sync (Option ℕ)
  | .finished => .pure (some synced)
  | .failed e => .raise e
  | .unfinished => .pure none

variable (lib : StandardLibrary) (cmd : SyncPlansCommand)

lemma syncEvents_append (first second : List Json) (synced : ℕ) :
    syncEvents lib cmd (first ++ second) synced =
      syncEvents lib cmd first synced >>= syncEvents lib cmd second := by
  induction first generalizing synced with
  | nil => rfl
  | cons event first ih =>
    rw [List.cons_append, syncEvents, syncEvents, bind_assoc]
    congr 1
    funext stored
    cases stored with
    | true => exact ih (synced + 1)
    | false => exact ih synced

/-- **Pages make no difference.**  A run goes through the delivered events one by one, and then ends
as the delivery did. -/
theorem run_syncPages {σ : Type} (repository : PlanRepository σ) (fuel page synced : ℕ)
    (s : SyncState σ) :
    (syncPages lib cmd fuel page synced).run (SyncState.handle provider repository) s =
      (syncEvents lib cmd (delivered provider fuel page) synced >>= fun synced =>
        (delivery provider fuel page).conclude synced).run
          (SyncState.handle provider repository) s := by
  induction fuel generalizing page synced s with
  | zero => rfl
  | succ fuel ih =>
    show ((Prog.ofExcept (provider page pageSize) >>= _ : Sync (Option ℕ))).run _ s = _
    rw [delivered, delivery]
    cases provider page pageSize with
    | error e => rfl
    | ok events =>
      rw [Prog.ofExcept_ok_bind]
      by_cases hempty : events.isEmpty
      · have hnil : events = [] := List.isEmpty_iff.mp hempty
        subst hnil
        rfl
      · rw [if_neg hempty]
        by_cases hshort : events.length < pageSize
        · simp only [hshort, if_true]
          rfl
        · simp only [hshort, if_false]
          rw [syncEvents_append, bind_assoc, Prog.run_bind, Prog.run_bind]
          cases (syncEvents lib cmd events synced).run (SyncState.handle provider repository) s with
          | ok synced' s' => exact ih (page + 1) synced' s'
          | error e s' => rfl

/-- The pages end without another change. -/
lemma after_syncPages {σ : Type} (repository : PlanRepository σ) (fuel page synced : ℕ)
    (s : SyncState σ) :
    (syncPages lib cmd fuel page synced).after (SyncState.handle provider repository) s =
      (syncEvents lib cmd (delivered provider fuel page) synced).after
        (SyncState.handle provider repository) s := by
  rw [Prog.after, Prog.after, run_syncPages, Prog.run_bind]
  cases (syncEvents lib cmd (delivered provider fuel page) synced).run
      (SyncState.handle provider repository) s with
  | ok synced s' => cases delivery provider fuel page <;> rfl
  | error e s' => rfl

end Pages

end TicketGenius
