import TicketGenius.Cli.Commands
import TicketGenius.Properties.Dispatching
import TicketGenius.Properties.Purchase

/-!
# What the stale synchronization's dry run says

`sync_stale --dry-run` lists the stored plans that are older than the threshold.  Without
`--dry-run` the command it passes on has no threshold: the handler takes the plans that were not
synced within a day, and the bus does not even call the handler.

`truthful_iff` says when the dry run tells the truth: passed through the bus, if it lists nothing;
passed to the handler, if every stored plan is older than the threshold exactly if it is due.
-/

namespace TicketGenius.StaleSync

open Framework Catalogue MessageBus Cli

variable {F S σ : Type}

/-! ## The property -/

/-- Afterwards the repository finds a newer version of the plan. -/
def Resynchronised (d : Deployment F S σ) (plan : Plan) (s : S) : Prop :=
  ∃ plan', (d.repository.getByTmId plan.tmPlanId (d.sync s).plans).1 = .ok (some plan') ∧
    plan.version < plan'.version

/-- **The dry run tells the truth**: it lists the stored plans that the run without `--dry-run`
synchronizes again. -/
def Truthful (d : Deployment F S σ) (now : DateTime) (stored : S → List Plan)
    (handleCommand : Command → Call S) (thresholdHours : ℤ) (s : S) : Prop :=
  ∃ count plans, (syncStale now stored handleCommand thresholdHours true s).1 =
      .ok (.wouldSync count thresholdHours plans) ∧
    ∀ plan ∈ stored s, stalePlan plan ∈ plans ↔
      Resynchronised d plan (syncStale now stored handleCommand thresholdHours false s).2

/-- What both runs start from: a repository with the stored plans, a clock that stands still, and a
provider with a catalogue. -/
structure Setting (d : Deployment F S σ) (Rep : σ → PlanTable → Prop) (now : DateTime)
    (stored : S → List Plan) (catalogue : List Json) (s : S) : Prop where
  refines : d.repository.Refines Rep
  lists : ∃ t, Rep (d.sync s).plans t ∧ Table.Lists (stored s) t
  sync_withSync : ∀ t, d.sync (d.withSync t s) = t
  clock : ∀ i, (d.sync s).clock i = now
  paged : Paged d.provider catalogue
  enough : catalogue.length < d.fuel * pageSize

/-- There is a datetime so many hours ago. -/
def Representable (now : DateTime) (hours : ℤ) : Prop :=
  |hours / 24| ≤ 999999999 ∧ DateTime.min.micros ≤ now.micros - hours * hour ∧
    now.micros - hours * hour ≤ DateTime.max.micros

/-- The plan was synced more than so many hours ago. -/
def OlderThan (now : DateTime) (hours : ℤ) (plan : Plan) : Prop :=
  ∃ synced, plan.lastSyncedAt = some synced ∧ hours * hour < now.micros - synced.micros

/-- The events before the first that cannot be converted. -/
def readable (lib : StandardLibrary) (now : DateTime) (catalogue : List Json) : List Json :=
  catalogue.takeWhile fun event => (Plan.fromTicketmaster lib event now).toBool

/-- The plan was not synced within a day, and an event of it is reached. -/
def Due (lib : StandardLibrary) (now : DateTime) (catalogue : List Json) (plan : Plan) : Prop :=
  ¬ plan.SyncedWithinDay now ∧ ∃ event ∈ readable lib now catalogue,
    eventId event = some plan.tmPlanId

/-! ## The dry run -/

section DryRun

variable {now : DateTime} {hours : ℤ} {stored : List Plan}

/-- The threshold of the dry run. -/
lemma threshold_eq_ok {threshold : DateTime} :
    (timedelta hours >>= now.sub) = .ok threshold ↔
      Representable now hours ∧ threshold = ⟨now.micros - hours * hour⟩ := by
  simp only [Except.bind_eq_ok, timedelta_eq_ok, DateTime.sub_eq_ok, Representable]
  constructor
  · rintro ⟨delta, ⟨hdays, rfl⟩, hrange, hthreshold⟩
    exact ⟨⟨hdays, hrange⟩, hthreshold⟩
  · rintro ⟨⟨hdays, hrange⟩, hthreshold⟩
    exact ⟨_, ⟨hdays, rfl⟩, hrange, hthreshold⟩

lemma syncedBefore_iff (plan : Plan) :
    plan.syncedBefore ⟨now.micros - hours * hour⟩ = true ↔ OlderThan now hours plan := by
  unfold Plan.syncedBefore OlderThan
  cases plan.lastSyncedAt with
  | none => simp
  | some synced =>
    simp only [decide_eq_true_eq, Option.some.injEq, exists_eq_left']
    omega

/-- What the dry run lists, if there is such a threshold. -/
lemma wouldSync_of_representable (h : Representable now hours) :
    wouldSync now hours stored =
      .ok (.wouldSync (stored.filter (·.syncedBefore ⟨now.micros - hours * hour⟩)).length hours
        ((stored.filter (·.syncedBefore ⟨now.micros - hours * hour⟩)).map stalePlan)) := by
  rw [wouldSync, ← bind_assoc, threshold_eq_ok.mpr ⟨h, rfl⟩]
  rfl

/-- A stored plan is recognized by what is shown of it. -/
lemma stalePlan_mem_iff {t : PlanTable} (hlists : Table.Lists stored t) {plan : Plan}
    (hplan : plan ∈ stored) (p : Plan → Bool) :
    stalePlan plan ∈ (stored.filter p).map stalePlan ↔ p plan = true := by
  constructor
  · intro hmem
    obtain ⟨other, hother, hshown⟩ := List.mem_map.mp hmem
    obtain ⟨hstored, hp⟩ := List.mem_filter.mp hother
    have hid : other.tmPlanId = plan.tmPlanId := congrArg StalePlan.tmPlanId hshown
    rwa [hlists.eq_of_key_eq hplan hstored hid.symm]
  · intro hp
    exact List.mem_map_of_mem (List.mem_filter.mpr ⟨hplan, hp⟩)

/-- **When the dry run tells the truth** about which plans something happens to. -/
theorem exists_listed_iff {t : PlanTable} (hlists : Table.Lists stored t) (Happens : Plan → Prop) :
    (∃ count plans, wouldSync now hours stored = .ok (.wouldSync count hours plans) ∧
        ∀ plan ∈ stored, stalePlan plan ∈ plans ↔ Happens plan) ↔
      Representable now hours ∧ ∀ plan ∈ stored, OlderThan now hours plan ↔ Happens plan := by
  constructor
  · rintro ⟨count, plans, hlisted, hiff⟩
    have hrepresentable : Representable now hours := by
      rw [wouldSync, ← bind_assoc] at hlisted
      obtain ⟨threshold, hthreshold, -⟩ := Except.bind_eq_ok.mp hlisted
      exact (threshold_eq_ok.mp hthreshold).1
    refine ⟨hrepresentable, fun plan hplan => ?_⟩
    rw [wouldSync_of_representable hrepresentable] at hlisted
    obtain ⟨-, -, rfl⟩ := SyncStaleOutput.wouldSync.inj (Except.ok.inj hlisted)
    rw [← hiff plan hplan, stalePlan_mem_iff hlists hplan, syncedBefore_iff]
  · rintro ⟨hrepresentable, hiff⟩
    refine ⟨_, _, wouldSync_of_representable hrepresentable, fun plan hplan => ?_⟩
    rw [← hiff plan hplan, stalePlan_mem_iff hlists hplan, syncedBefore_iff]

end DryRun

/-! ## The run -/

/-- The command of the run. -/
def staleCommand : Command := .syncPlans { since := none, staleOnly := true }

/-- What the run leaves is what the command does. -/
lemma syncStale_state (now : DateTime) (stored : S → List Plan) (handleCommand : Command → Call S)
    (hours : ℤ) (s : S) :
    (syncStale now stored handleCommand hours false s).2 = (handleCommand staleCommand s).2 := by
  unfold syncStale staleCommand
  rcases handleCommand (.syncPlans { since := none, staleOnly := true }) s with ⟨result | e, s'⟩
  · rfl
  · rfl

/-! ### Through the bus -/

section Bus

variable {d : Deployment F S σ} {Rep : σ → PlanTable → Prop} {now : DateTime}
  {stored : S → List Plan} {catalogue : List Json} {s : S}

/-- Nothing happens to the plans of a state that is left alone. -/
lemma Setting.not_resynchronised (h : Setting d Rep now stored catalogue s) {plan : Plan}
    (hplan : plan ∈ stored s) : ¬ Resynchronised d plan s := by
  obtain ⟨t, hRep, hlists⟩ := h.lists
  rintro ⟨plan', hfound, hversion⟩
  rw [(h.refines.getByTmId plan.tmPlanId hRep).1, (hlists.mem plan).mp hplan] at hfound
  obtain rfl := Option.some.inj (Except.ok.inj hfound)
  omega

/-- The bus raises and leaves the state alone. -/
lemma syncStale_bus (handlers : Handlers F S) (hours : ℤ) :
    (syncStale now stored handlers.handleCommand hours false s).2 = s := by
  obtain ⟨rest, hbus⟩ := Dispatching.handle_eq handlers (.command staleCommand) s
  rw [syncStale_state]
  exact congrArg Prod.snd hbus

/-- **Through the bus** the dry run tells the truth if it lists nothing. -/
theorem truthful_bus_iff (h : Setting d Rep now stored catalogue s) (handlers : Handlers F S)
    (hours : ℤ) :
    Truthful d now stored handlers.handleCommand hours s ↔
      Representable now hours ∧ ∀ plan ∈ stored s, ¬ OlderThan now hours plan := by
  obtain ⟨t, -, hlists⟩ := h.lists
  refine (exists_listed_iff hlists _).trans ?_
  refine and_congr_right fun _ => forall₂_congr fun plan hplan => ?_
  rw [syncStale_bus]
  exact iff_false_right (h.not_resynchronised hplan)

end Bus

/-! ### Past the bus -/

section Handler

variable {lib : StandardLibrary} {now : DateTime} {event : Json} {events : List Json}

lemma due_cons_of_error {e : PyError} (hevent : Plan.fromTicketmaster lib event now = .error e)
    (plan : Plan) : ¬ Due lib now (event :: events) plan := by
  rintro ⟨-, event', hreached, -⟩
  rw [readable, List.takeWhile_cons, hevent] at hreached
  cases hreached

lemma due_cons_of_ok {fetched : Plan} (hevent : Plan.fromTicketmaster lib event now = .ok fetched)
    (plan : Plan) :
    Due lib now (event :: events) plan ↔
      ¬ plan.SyncedWithinDay now ∧ fetched.tmPlanId = plan.tmPlanId ∨ Due lib now events plan := by
  have hid : eventId event = some fetched.tmPlanId :=
    eventId_of_describes (describes_of_fromTicketmaster hevent).1
  have hreached : readable lib now (event :: events) = event :: readable lib now events := by
    rw [readable, List.takeWhile_cons, hevent]
    rfl
  simp only [Due, hreached, List.mem_cons, exists_eq_or_imp, hid, Option.some.injEq, and_or_left]

/-- A clock that stands still goes on doing so. -/
lemma clock_after {α : Type} (provider : Provider) (repository : PlanRepository σ) (p : Sync α)
    {s : SyncState σ} (hclock : ∀ i, s.clock i = now) :
    ∀ i, (p.after (SyncState.handle provider repository) s).clock i = now := by
  let Still : SyncState σ → SyncState σ → Prop := fun s s' =>
    (∀ i, s.clock i = now) → ∀ i, s'.clock i = now
  have hframe : Still s (p.after (SyncState.handle provider repository) s) := by
    refine (Prog.uses_true p).run_frame (fun _ h => h) (fun h h' hs => h' (h hs)) ?_ s
    intro o s _ hs
    cases o with
    | now => exact fun i => hs (i + 1)
    | _ => exact hs
  exact hframe hclock

/-- The table has a newer version of the plan. -/
def HasNewer (t : PlanTable) (plan : Plan) : Prop :=
  ∃ plan', t.find plan.tmPlanId = some plan' ∧ plan.version < plan'.version

lemma not_hasNewer {t : PlanTable} {plan : Plan} (h : t.find plan.tmPlanId = some plan) :
    ¬ HasNewer t plan := by
  rintro ⟨plan', hplan', hversion⟩
  rw [h] at hplan'
  obtain rfl := Option.some.inj hplan'
  omega

/-- A newer version stays there, or gives way to one that is newer still. -/
lemma HasNewer.grows {t t' : PlanTable} {plan : Plan} (h : HasNewer t plan) (hgrows : t.Grows t') :
    HasNewer t' plan := by
  obtain ⟨between, hbetween, hversion⟩ := h
  obtain ⟨plan', hplan', hle⟩ := hgrows _ between hbetween
  exact ⟨plan', hplan', by omega⟩

/-- Whether the event of a stored plan is skipped. -/
lemma recent_iff_syncedWithinDay {t : PlanTable} {plan : Plan} {id : String}
    (since : Option DateTime) (h : t.find plan.tmPlanId = some plan) (hid : id = plan.tmPlanId) :
    Recent ⟨since, true⟩ t id now ↔ plan.SyncedWithinDay now := by
  rw [hid, recent_iff_of_some h]
  exact and_iff_right rfl

/-- **The plans that get a newer version** are those that are due. -/
theorem hasNewer_after_syncEvents {Rep : σ → PlanTable → Prop} {repository : PlanRepository σ}
    (hrefines : repository.Refines Rep) (lib : StandardLibrary) (provider : Provider)
    (since : Option DateTime) (events : List Json) (synced : ℕ) {s : SyncState σ} {t : PlanTable}
    (hRep : Rep s.plans t) (hclock : ∀ i, s.clock i = now) :
    ∃ t', Rep ((syncEvents lib ⟨since, true⟩ events synced).after
        (SyncState.handle provider repository) s).plans t' ∧ t.Grows t' ∧
      ∀ plan, t.find plan.tmPlanId = some plan → (HasNewer t' plan ↔ Due lib now events plan) := by
  induction events generalizing synced s t with
  | nil =>
    refine ⟨t, hRep, t.grows_refl, fun plan hplan => iff_of_false (not_hasNewer hplan) ?_⟩
    rintro ⟨-, event, hevent, -⟩
    cases hevent
  | cons event events ih =>
    rw [syncEvents]
    have hstill := clock_after provider repository (syncEvent lib ⟨since, true⟩ event) hclock
    rcases run_syncEvent provider hrefines hRep lib ⟨since, true⟩ event with
      ⟨e, herror, hrun⟩ | ⟨fetched, s', hfetched, hrecent, hrun, hRep', -⟩ |
      ⟨fetched, s', fresh, hfetched, hrecent, hrun, hRep', hid, -, hnewer⟩
    · rw [hclock] at herror
      rw [Prog.after_of_error _ (Prog.run_bind_error _ _ hrun)]
      exact ⟨t, hRep, t.grows_refl, fun plan hplan =>
        iff_of_false (not_hasNewer hplan) (due_cons_of_error herror plan)⟩
    · rw [hclock] at hfetched hrecent
      rw [Prog.after_of_ok _ hrun] at hstill
      obtain ⟨t', hafter, hgrows, hiff⟩ := ih synced hRep' hstill
      rw [Prog.after_bind_ok _ _ hrun]
      refine ⟨t', hafter, hgrows, fun plan hplan => ?_⟩
      have hskipped : ¬ (¬ plan.SyncedWithinDay now ∧ fetched.tmPlanId = plan.tmPlanId) := by
        rintro ⟨hold, hsame⟩
        exact hold ((recent_iff_syncedWithinDay since hplan hsame).mp hrecent)
      rw [hiff plan hplan, due_cons_of_ok hfetched, or_iff_right hskipped]
    · rw [hclock] at hfetched hrecent
      rw [Prog.after_of_ok _ hrun] at hstill
      obtain ⟨t', hafter, hgrows, hiff⟩ := ih (synced + 1) hRep' hstill
      rw [Prog.after_bind_ok _ _ hrun]
      refine ⟨t', hafter, hnewer.grows.trans hgrows, fun plan hplan => ?_⟩
      rw [due_cons_of_ok hfetched]
      by_cases hsame : fetched.tmPlanId = plan.tmPlanId
      · have hstored : HasNewer (t.put fresh) plan :=
          ⟨fresh, t.find_put_of_key (hid.trans hsame), hnewer plan (by rw [hid, hsame, hplan])⟩
        have hold : ¬ plan.SyncedWithinDay now := fun hwithin =>
          hrecent ((recent_iff_syncedWithinDay since hplan hsame).mpr hwithin)
        exact iff_of_true (hstored.grows hgrows) (.inl ⟨hold, hsame⟩)
      · have hother : (t.put fresh).find plan.tmPlanId = some plan := by
          rw [t.find_put_of_ne (by rw [hid]; exact Ne.symm hsame), hplan]
        rw [hiff plan hother, or_iff_right fun h => hsame h.2]

/-- The pages end without another change. -/
lemma after_handleSyncPlans {catalogue : List Json} {provider : Provider}
    (hpaged : Paged provider catalogue) (repository : PlanRepository σ) (cmd : SyncPlansCommand)
    {fuel : ℕ} (hfuel : catalogue.length < fuel * pageSize) (s : SyncState σ) :
    (handleSyncPlans lib cmd fuel).after (SyncState.handle provider repository) s =
      (syncEvents lib cmd catalogue 0).after (SyncState.handle provider repository) s := by
  rw [Prog.after, Prog.after, run_handleSyncPlans repository hpaged hfuel, Prog.run_bind]
  cases (syncEvents lib cmd catalogue 0).run (SyncState.handle provider repository) s <;> rfl

variable {d : Deployment F S σ} {Rep : σ → PlanTable → Prop} {stored : S → List Plan}
  {catalogue : List Json} {s : S}

/-- The handler leaves what its run leaves, whether it returns or raises. -/
lemma syncStale_handler (d : Deployment F S σ) (hours : ℤ) (s : S) :
    (syncStale now stored d.command hours false s).2 =
      d.withSync ((handleSyncPlans d.lib ⟨none, true⟩ d.fuel).after
        (SyncState.handle d.provider d.repository) (d.sync s)) s := by
  rw [syncStale_state, Prog.after]
  show (d.callPlanHandler ⟨none, true⟩ s).2 = _
  unfold Deployment.callPlanHandler
  cases (handleSyncPlans d.lib ⟨none, true⟩ d.fuel).run (SyncState.handle d.provider d.repository)
    (d.sync s) <;> rfl

/-- **Past the bus** the dry run tells the truth if its threshold and that of the handler agree on
every stored plan. -/
theorem truthful_handler_iff (h : Setting d Rep now stored catalogue s) (hours : ℤ) :
    Truthful d now stored d.command hours s ↔
      Representable now hours ∧
        ∀ plan ∈ stored s, OlderThan now hours plan ↔ Due d.lib now catalogue plan := by
  obtain ⟨t, hRep, hlists⟩ := h.lists
  obtain ⟨t', hafter, -, hiff⟩ :=
    hasNewer_after_syncEvents h.refines d.lib d.provider none catalogue 0 hRep h.clock
  refine (exists_listed_iff hlists _).trans ?_
  refine and_congr_right fun _ => forall₂_congr fun plan hplan => ?_
  have hnewer : Resynchronised d plan (syncStale now stored d.command hours false s).2 ↔
      HasNewer t' plan := by
    rw [Resynchronised, syncStale_handler, h.sync_withSync,
      after_handleSyncPlans h.paged d.repository _ h.enough,
      (h.refines.getByTmId plan.tmPlanId hafter).1]
    simp only [HasNewer, Except.ok.injEq]
  rw [hnewer, hiff plan ((hlists.mem plan).mp hplan)]

end Handler

/-! ## Both -/

/-- **When the dry run tells the truth**: of the run as it is, which ends at the bus, and of the run
as it would be if the bus called the handler. -/
theorem truthful_iff [LinearOrder UUID] {d : Deployment F S σ} {Rep : σ → PlanTable → Prop}
    {now : DateTime} {stored : S → List Plan} {catalogue : List Json} {s : S}
    (misdirected : PyClass → List (PyObject F) → Call S)
    (h : Setting d Rep now stored catalogue s) (hours : ℤ) :
    (Truthful d now stored (d.handlers misdirected).handleCommand hours s ↔
      Representable now hours ∧ ∀ plan ∈ stored s, ¬ OlderThan now hours plan) ∧
    (Truthful d now stored d.command hours s ↔
      Representable now hours ∧
        ∀ plan ∈ stored s, OlderThan now hours plan ↔ Due d.lib now catalogue plan) :=
  ⟨truthful_bus_iff h _ hours, truthful_handler_iff h hours⟩

/-! ### Two hours -/

/-- A concert that was synced two hours before noon. -/
def concertPlan : Plan :=
  { Purchase.concert with
    tmPlanId := "G5v0Z9"
    lastSyncedAt := some ⟨noon.micros - 2 * hour⟩ }

/-- The application, with that concert in the provider's catalogue. -/
def concerts : Deployment ℚ (World × SyncState (List Plan)) (List Plan) :=
  { Dispatching.application with
    provider := fun page size => .ok (([concertEvent].drop (page * size)).take size) }

def storedPlans (s : World × SyncState (List Plan)) : List Plan := s.2.plans

/-- The concert is stored, and it is noon. -/
def oneConcert : World × SyncState (List Plan) := (World.empty, ⟨[concertPlan], fun _ => noon⟩)

lemma setting_oneConcert :
    Setting concerts Table.Lists noon storedPlans [concertEvent] oneConcert where
  refines := refines_planList
  lists := ⟨Table.ofList Plan.tmPlanId [concertPlan],
    Table.lists_ofList (List.nodup_singleton _), Table.lists_ofList (List.nodup_singleton _)⟩
  sync_withSync _ := rfl
  clock _ := rfl
  paged _ _ := rfl
  enough := by decide

lemma olderThan_concertPlan_iff (hours : ℤ) : OlderThan noon hours concertPlan ↔ hours < 2 := by
  simp only [OlderThan, concertPlan, Option.some.injEq, exists_eq_left', hour]
  omega

/-- The dry run lists the concert, and the run leaves it alone, before the bus and past it. -/
theorem two_hours_untruthful :
    (∀ plan ∈ storedPlans oneConcert, ∃ event ∈ [concertEvent],
      Converts concerts.lib event ∧ eventId event = some plan.tmPlanId) ∧
    (∀ handlers : Handlers ℚ (World × SyncState (List Plan)),
      ¬ Truthful concerts noon storedPlans handlers.handleCommand 1 oneConcert) ∧
    ¬ Truthful concerts noon storedPlans concerts.command 1 oneConcert := by
  have hmem : concertPlan ∈ storedPlans oneConcert := List.mem_singleton_self _
  have holder : OlderThan noon 1 concertPlan := (olderThan_concertPlan_iff 1).mpr (by decide)
  refine ⟨?_, ?_, ?_⟩
  · intro plan hplan
    obtain rfl := List.mem_singleton.mp hplan
    exact ⟨concertEvent, List.mem_singleton_self _, converts_concertEvent, rfl⟩
  · intro handlers htruthful
    exact ((truthful_bus_iff setting_oneConcert handlers 1).mp htruthful).2 _ hmem holder
  · intro htruthful
    have hiff := ((truthful_handler_iff setting_oneConcert 1).mp htruthful).2 _ hmem
    exact (hiff.mp holder).1 (by decide)

section Example

attribute [local instance] Pagination.idsByText

/-- With a threshold of a day both leave it alone. -/
theorem a_day_truthful :
    Truthful concerts noon storedPlans
        (concerts.handlers fun _ _ s => (.ok .none, s)).handleCommand 24 oneConcert ∧
      Truthful concerts noon storedPlans concerts.command 24 oneConcert := by
  obtain ⟨hbus, hhandler⟩ := truthful_iff (fun _ _ s => (.ok .none, s)) setting_oneConcert 24
  have hrepresentable : Representable noon 24 := by
    unfold Representable
    decide
  have hyoung : ∀ plan ∈ storedPlans oneConcert, ¬ OlderThan noon 24 plan := by
    intro plan hplan
    obtain rfl := List.mem_singleton.mp hplan
    rw [olderThan_concertPlan_iff]
    decide
  refine ⟨hbus.mpr ⟨hrepresentable, hyoung⟩, hhandler.mpr ⟨hrepresentable, ?_⟩⟩
  intro plan hplan
  refine iff_of_false (hyoung plan hplan) fun hdue => hdue.1 ?_
  obtain rfl := List.mem_singleton.mp hplan
  decide

end Example

end TicketGenius.StaleSync
