import TicketGenius.Properties.Catalogue

/-!
# What a synchronization commits

`handle_sync_plans` does not enter its unit of work, and nothing else commits the session: the
container makes a unit of work for each handler.  So the plans a run stores stay in the session,
whether the run returns or raises.

`Transactional` is what one transaction around the run would guarantee.  The run does so exactly if
it stores nothing (`transactional_iff`), which is decided by the committed plans and by the clock:
every event is skipped, up to the first that cannot be converted (`AllSkipped`).
-/

namespace TicketGenius.PlanDurability

open Framework Catalogue

variable {ε ρ : Type}

/-! ## The property -/

/-- A run that returns has committed what the session shows, and a run that raises has committed
nothing and left nothing pending. -/
def Transactional (database : PlanDatabase ρ) :
    EStateM.Result PyError (SyncState (SqlAlchemyUnitOfWork String Plan ε ρ)) (Option ℕ) → Prop
  | .ok (some _) s => ∀ id, rowOf id s.plans.database = s.plans.session.shown s.plans.database id
  | .ok none _ => True
  | .error _ s => s.plans.database = database.statements ∧ ¬ s.plans.session.Pending

/-- The run of `handle_sync_plans` with a new unit of work, for at most `fuel` pages. -/
def sync (lib : StandardLibrary) (cmd : SyncPlansCommand) (provider : Provider)
    (database : PlanDatabase ρ) (clock : ℕ → DateTime) (fuel : ℕ) :
    EStateM.Result PyError (SyncState (SqlAlchemyUnitOfWork String Plan ε ρ)) (Option ℕ) :=
  (handleSyncPlans lib cmd fuel).run (SyncState.handle provider sqlAlchemyPlanRepository)
    ⟨.create database.statements, clock⟩

/-- The run returns or raises, before it has asked for too many pages. -/
def Ends (result : EStateM.Result PyError (SyncState (SqlAlchemyUnitOfWork String Plan ε ρ))
    (Option ℕ)) : Prop :=
  ∀ s, result ≠ .ok none s

/-- All events are skipped, up to the first that cannot be converted, and the clock is read twice
for each. -/
def AllSkipped (lib : StandardLibrary) (cmd : SyncPlansCommand) (t : PlanTable) :
    (ℕ → DateTime) → List Json → Prop
  | _, [] => True
  | clock, event :: events =>
    match Plan.fromTicketmaster lib event (clock 0) with
    | .error _ => True
    | .ok plan => Recent cmd t plan.tmPlanId (clock 1) ∧
        AllSkipped lib cmd t (fun i => clock (i + 2)) events

/-! ## The events of a run -/

/-- **What the events do**: the table grows, and is the same in the end exactly if all of them are
skipped. -/
theorem uncommitted_after_syncEvents (lib : StandardLibrary) (cmd : SyncPlansCommand)
    (provider : Provider) {database : PlanDatabase ρ} (events : List Json) (synced : ℕ)
    {s : SyncState (SqlAlchemyUnitOfWork String Plan ε ρ)} {t : PlanTable}
    (h : Uncommitted database s.plans t) :
    ∃ t', Uncommitted database ((syncEvents lib cmd events synced).after
        (SyncState.handle provider sqlAlchemyPlanRepository) s).plans t' ∧
      t.Grows t' ∧ (t' = t ↔ AllSkipped lib cmd t s.clock events) := by
  induction events generalizing synced s t with
  | nil => exact ⟨t, h, t.grows_refl, iff_of_true rfl trivial⟩
  | cons event events ih =>
    rw [syncEvents, AllSkipped]
    rcases run_syncEvent provider (refines_sqlAlchemyPlanRepository database) h lib cmd event with
      ⟨e, herror, hrun⟩ | ⟨plan, s', hplan, hrecent, hrun, h', hclock⟩ |
      ⟨plan, s', stored, hplan, hrecent, hrun, h', -, -, hnewer⟩
    · rw [Prog.after_of_error _ (Prog.run_bind_error _ _ hrun), herror]
      exact ⟨t, h, t.grows_refl, iff_of_true rfl trivial⟩
    · obtain ⟨t', hafter, hgrows, hiff⟩ := ih synced h'
      rw [Prog.after_bind_ok _ _ hrun, hplan]
      refine ⟨t', hafter, hgrows, ?_⟩
      rw [hiff, hclock]
      exact (and_iff_right hrecent).symm
    · obtain ⟨t', hafter, hgrows, -⟩ := ih (synced + 1) h'
      rw [Prog.after_bind_ok _ _ hrun, hplan]
      refine ⟨t', hafter, hnewer.grows.trans hgrows, ?_⟩
      exact iff_of_false (hnewer.ne t.grows_refl hgrows) fun hall => hrecent hall.1

/-! ## The result -/

section Result

variable {lib : StandardLibrary} {cmd : SyncPlansCommand} {provider : Provider}
  {database : PlanDatabase ρ} {clock : ℕ → DateTime} {fuel : ℕ}

/-- What the session shows is committed exactly if the table is the committed one. -/
lemma forall_shown_iff {uow : SqlAlchemyUnitOfWork String Plan ε ρ} {t : PlanTable}
    (h : Uncommitted database uow t) :
    (∀ id, rowOf id uow.database = uow.session.shown uow.database id) ↔ t = database.table := by
  have hshown : ∀ id, uow.session.shown database.statements id = t.find id := h.shows.shown_eq
  rw [h.committed]
  constructor
  · intro hall
    ext1
    funext id
    exact ((hall id).trans (hshown id)).symm
  · rintro rfl id
    exact (hshown id).symm

/-- A run that raises has left the committed plans and nothing pending. -/
lemma nothing_pending_iff {uow : SqlAlchemyUnitOfWork String Plan ε ρ} {t : PlanTable}
    (h : Uncommitted database uow t) :
    uow.database = database.statements ∧ ¬ uow.session.Pending ↔ t = database.table := by
  rw [and_iff_right h.committed, h.pending, not_not]

/-- **A run is one transaction** exactly if it stores nothing. -/
theorem transactional_iff
    (hends : Ends (sync lib cmd provider database clock fuel :
      EStateM.Result PyError (SyncState (SqlAlchemyUnitOfWork String Plan ε ρ)) (Option ℕ))) :
    Transactional database (sync lib cmd provider database clock fuel :
      EStateM.Result PyError (SyncState (SqlAlchemyUnitOfWork String Plan ε ρ)) (Option ℕ)) ↔
      AllSkipped lib cmd database.table clock (delivered provider fuel 0) := by
  let start : SyncState (SqlAlchemyUnitOfWork String Plan ε ρ) :=
    ⟨.create database.statements, clock⟩
  obtain ⟨t, h, -, hiff⟩ := uncommitted_after_syncEvents lib cmd provider
    (delivered provider fuel 0) 0 (s := start) (uncommitted_create database)
  rw [sync, handleSyncPlans, run_syncPages] at hends ⊢
  rw [← hiff]
  cases hrun : (syncEvents lib cmd (delivered provider fuel 0) 0).run
      (SyncState.handle provider sqlAlchemyPlanRepository) start with
  | error e s =>
    rw [Prog.after_of_error _ hrun] at h
    rw [Prog.run_bind_error _ _ hrun]
    exact nothing_pending_iff h
  | ok n s =>
    rw [Prog.after_of_ok _ hrun] at h
    rw [Prog.run_bind_ok _ _ hrun] at hends ⊢
    cases hdelivery : delivery provider fuel 0 with
    | finished => exact forall_shown_iff h
    | failed e => exact nothing_pending_iff h
    | unfinished =>
      rw [hdelivery] at hends
      exact absurd rfl (hends s)

end Result

/-! ### One event -/

/-- A provider with one event. -/
def oneEvent : Provider := fun page size => .ok (([concertEvent].drop (page * size)).take size)

/-- A database without plans. -/
def noPlans : PlanDatabase Unit := ⟨[], fun _ _ h => nomatch h⟩

/-- A synchronization of that event into that database. -/
def syncConcert :
    EStateM.Result PyError (SyncState (SqlAlchemyUnitOfWork String Plan Unit Unit)) (Option ℕ) :=
  sync standardLibrary ⟨none, false⟩ oneEvent noPlans (fun _ => noon) 1

/-- The run returns or raises. -/
def hasEnded : EStateM.Result PyError (SyncState (SqlAlchemyUnitOfWork String Plan Unit Unit))
    (Option ℕ) → Bool
  | .ok none _ => false
  | _ => true

/-- The run returns, and the concert is in the session and not in the database. -/
def onlyInSession : EStateM.Result PyError (SyncState (SqlAlchemyUnitOfWork String Plan Unit Unit))
    (Option ℕ) → Bool
  | .ok (some _) s => (s.plans.session.shown s.plans.database "G5v0Z9").isSome &&
      (rowOf "G5v0Z9" s.plans.database).isNone
  | _ => false

lemma ends_syncConcert : Ends syncConcert := by
  have hreturns : hasEnded syncConcert = true := by decide +kernel
  intro s hs
  rw [hs] at hreturns
  cases hreturns

/-- The event is stored, and nothing is committed. -/
theorem syncConcert_not_transactional : ¬ Transactional noPlans syncConcert := by
  obtain ⟨plan, hplan⟩ := converts_concertEvent.at noon
  intro hconcert
  have hskipped := (transactional_iff ends_syncConcert).mp hconcert
  have hdelivered : delivered oneEvent 1 0 = [concertEvent] := rfl
  rw [hdelivered, AllSkipped, hplan] at hskipped
  cases hskipped.1.1

/-- The plan is in the session and not in the database. -/
theorem concert_not_committed :
    ¬ ∀ lib cmd provider (database : PlanDatabase Unit) clock fuel,
      Transactional database (sync lib cmd provider database clock fuel :
        EStateM.Result PyError (SyncState (SqlAlchemyUnitOfWork String Plan Unit Unit))
          (Option ℕ)) := by
  intro h
  have hconcert : Transactional noPlans syncConcert :=
    h standardLibrary ⟨none, false⟩ oneEvent noPlans (fun _ => noon) 1
  have hstored : onlyInSession syncConcert = true := by decide +kernel
  cases hrun : syncConcert with
  | error e s =>
    rw [hrun] at hstored
    cases hstored
  | ok n s =>
    cases n with
    | none =>
      rw [hrun] at hstored
      cases hstored
    | some n =>
      rw [hrun] at hstored hconcert
      have hrow := hconcert "G5v0Z9"
      simp only [onlyInSession, Bool.and_eq_true, Option.isSome_iff_ne_none,
        Option.isNone_iff_eq_none] at hstored
      exact hstored.1 (hrow.symm.trans hstored.2)

end TicketGenius.PlanDurability
