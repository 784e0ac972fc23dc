import TicketGenius.Framework.Journal
import TicketGenius.Properties.Catalogue

/-!
# Synchronizing again and again

A round is one run of `handle_sync_plans`, with a command, a provider and a clock of its own.  The
provider may have changed since the last round, and it may fail; an event that cannot be converted
ends the round.

Over any number of rounds the stored plans are a journal of the events that were stored, replayed on
the plans that were there.  `Syncs` and `Course` are the rounds as steps of a table of plans;
`exists_course` says that a repository which refines a table takes such steps.  What becomes of a
plan is then read off the journal (`rounds_replayed`): an update sets what the provider says of an
event, but not its dates, its plan id and its prices per section, which are those of the event that
was stored first.  Rounds with `stale_only` within a day store an event at most once
(`stored_once`).
-/

namespace TicketGenius.Resync

open Framework Catalogue

/-! ## Rounds -/

/-- One run of `handle_sync_plans`. -/
structure Round where
  cmd : SyncPlansCommand
  provider : Provider
  fuel : ℕ
  clock : ℕ → DateTime

/-- The readings of the rounds' clocks. -/
def readings (rounds : List Round) : Set DateTime :=
  {time | ∃ round ∈ rounds, ∃ i, round.clock i = time}

/-- `Plan.from_ticketmaster(event)` succeeds, which does not depend on the time. -/
def convertible (lib : StandardLibrary) (event : Json) : Bool :=
  (Plan.fromTicketmaster lib event ⟨0⟩).toBool

lemma range_clock_subset (round : Round) (rounds : List Round) :
    Set.range round.clock ⊆ readings (round :: rounds) := by
  rintro _ ⟨i, rfl⟩
  exact ⟨round, List.mem_cons_self, i, rfl⟩

lemma readings_subset_cons (round : Round) (rounds : List Round) :
    readings rounds ⊆ readings (round :: rounds) := by
  rintro _ ⟨other, hother, i, rfl⟩
  exact ⟨other, List.mem_cons_of_mem _ hother, i, rfl⟩

/-- The events with an id. -/
def eventsOf (id : String) (events : List Json) : List Json :=
  events.filter fun event => eventId event = some id

section Rounds

variable (lib : StandardLibrary) {σ : Type} (repository : PlanRepository σ)

/-- Those of the events that a run of the inner loop counts. -/
def storedEvents (cmd : SyncPlansCommand) (provider : Provider) :
    List Json → SyncState σ → List Json
  | [], _ => []
  | event :: events, s =>
    match (syncEvent lib cmd event).run (SyncState.handle provider repository) s with
    | .ok true s' => event :: storedEvents cmd provider events s'
    | .ok false s' => storedEvents cmd provider events s'
    | .error _ _ => []

namespace Round

variable (round : Round)

/-- What the provider delivers. -/
def events : List Json := delivered round.provider round.fuel 0

/-- The events before the first that cannot be converted. -/
def converted : List Json := round.events.takeWhile (convertible lib)

/-- The plans after the round. -/
def after (plans : σ) : σ :=
  ((handleSyncPlans lib round.cmd round.fuel).after (SyncState.handle round.provider repository)
    ⟨plans, round.clock⟩).plans

/-- The events the round stores. -/
def stored (plans : σ) : List Json :=
  storedEvents lib repository round.cmd round.provider round.events ⟨plans, round.clock⟩

end Round

/-- The plans after several rounds. -/
def after : List Round → σ → σ
  | [], plans => plans
  | round :: rounds, plans => after rounds (round.after lib repository plans)

/-- The events several rounds store. -/
def stored : List Round → σ → List Json
  | [], _ => []
  | round :: rounds, plans =>
    round.stored lib repository plans ++ stored rounds (round.after lib repository plans)

/-- The events several rounds convert. -/
def converted (rounds : List Round) : List Json := rounds.flatMap (Round.converted lib)

end Rounds

/-- What events with one id, stored one after the other, make of the plan with this id. -/
def Replayed (lib : StandardLibrary) (rounds : List Round) (events : List Json)
    (before after : Option Plan) : Prop :=
  match events with
  | [] => after = before
  | first :: rest => ∃ plan, after = some plan ∧
      (∀ last, (first :: rest).getLast? = some last → Describes lib last plan) ∧
      (∃ time ∈ readings rounds, plan.lastSyncedAt = some time) ∧
      match before with
      | none => plan.version = rest.length + 1 ∧ lib.dateRange first = .ok plan.dateRange ∧
          plan.planId = lib.uuid5 ("ticketmaster.com/events/" ++ plan.tmPlanId) ∧
          plan.seatPricesJson = []
      | some old => plan.version = old.version + (rest.length + 1) ∧
          plan.dateRange = old.dateRange ∧ plan.planId = old.planId ∧
          plan.seatPricesJson = old.seatPricesJson

/-! ## Writes -/

/-- An event, converted at one time and stored at another. -/
structure PlanWrite (lib : StandardLibrary) where
  event : Json
  fetchedAt : DateTime
  fetched : Plan
  converts : Plan.fromTicketmaster lib event fetchedAt = .ok fetched
  time : DateTime

/-- A write adds its plan or refreshes the plan that is there. -/
def planWriting (lib : StandardLibrary) : Writing (PlanWrite lib) Plan.tmPlanId where
  target w := w.fetched.tmPlanId
  apply w row := w.fetched.storedOver w.time row
  key_apply := by
    intro w row hrow
    cases row with
    | none => rfl
    | some existing => exact hrow existing rfl

section Writes

variable {lib : StandardLibrary} (w : PlanWrite lib)

lemma PlanWrite.describes : Describes lib w.event w.fetched :=
  (describes_of_fromTicketmaster w.converts).1

lemma PlanWrite.eventId_event : eventId w.event = some w.fetched.tmPlanId :=
  eventId_of_describes w.describes

/-- A plan that was written is synced at one of the write's two times. -/
lemma PlanWrite.lastSyncedAt_apply (row : Option Plan) :
    ((planWriting lib).apply w row).lastSyncedAt = some w.fetchedAt ∨
      ((planWriting lib).apply w row).lastSyncedAt = some w.time := by
  cases row with
  | none => exact .inl (describes_of_fromTicketmaster w.converts).2.1
  | some existing => exact .inr rfl

lemma PlanWrite.provides_apply (row : Option Plan) :
    Provides lib w.event ((planWriting lib).apply w row) := by
  cases row with
  | none => exact w.describes.provides
  | some existing => exact { w.describes.provides with }

end Writes

/-! ## Rounds as steps of a table -/

/-- A run of the inner loop, as the writes it makes to a table.  All times are readings. -/
inductive Syncs (lib : StandardLibrary) (cmd : SyncPlansCommand) (times : Set DateTime) :
    List Json → PlanTable → List (PlanWrite lib) → PlanTable → Prop
  | done (t : PlanTable) : Syncs lib cmd times [] t [] t
  | failed (t : PlanTable) {event : Json} {events : List Json}
      (h : convertible lib event = false) :
      Syncs lib cmd times (event :: events) t [] t
  | skip {t t' : PlanTable} {event : Json} {events : List Json} {journal : List (PlanWrite lib)}
      {plan : Plan} {time : DateTime} (hdescribes : Describes lib event plan)
      (hconverts : convertible lib event = true)
      (hrecent : Recent cmd t plan.tmPlanId time) (htime : time ∈ times)
      (hrest : Syncs lib cmd times events t journal t') :
      Syncs lib cmd times (event :: events) t journal t'
  | store {t t' : PlanTable} {events : List Json} {journal : List (PlanWrite lib)}
      {time : DateTime} (w : PlanWrite lib) (hrecent : ¬ Recent cmd t w.fetched.tmPlanId time)
      (htime : time ∈ times) (hfetched : w.fetchedAt ∈ times) (hwritten : w.time ∈ times)
      (hrest : Syncs lib cmd times events ((planWriting lib).write t w) journal t') :
      Syncs lib cmd times (w.event :: events) t (w :: journal) t'

/-- Several rounds. -/
inductive Course (lib : StandardLibrary) :
    List Round → PlanTable → List (PlanWrite lib) → PlanTable → Prop
  | nil (t : PlanTable) : Course lib [] t [] t
  | cons {round : Round} {rounds : List Round} {t t₁ t₂ : PlanTable}
      {first second : List (PlanWrite lib)}
      (hround : Syncs lib round.cmd (Set.range round.clock) round.events t first t₁)
      (hrest : Course lib rounds t₁ second t₂) :
      Course lib (round :: rounds) t (first ++ second) t₂

section Refinement

variable {lib : StandardLibrary} {cmd : SyncPlansCommand}

lemma convertible_eq (event : Json) (now : DateTime) :
    convertible lib event = (Plan.fromTicketmaster lib event now).toBool := by
  rw [convertible, fromTicketmaster_now now ⟨0⟩]
  cases Plan.fromTicketmaster lib event now <;> rfl

lemma convertible_of_ok {event : Json} {now : DateTime} {plan : Plan}
    (h : Plan.fromTicketmaster lib event now = .ok plan) : convertible lib event = true := by
  rw [convertible_eq event now, h]
  rfl

lemma not_convertible_of_error {event : Json} {now : DateTime} {e : PyError}
    (h : Plan.fromTicketmaster lib event now = .error e) : convertible lib event = false := by
  rw [convertible_eq event now, h]
  rfl

lemma PlanWrite.convertible_event (w : PlanWrite lib) : convertible lib w.event = true :=
  convertible_of_ok w.converts

lemma Syncs.mono {times times' : Set DateTime} {events : List Json} {t t' : PlanTable}
    {journal : List (PlanWrite lib)} (h : Syncs lib cmd times events t journal t')
    (hsubset : times ⊆ times') : Syncs lib cmd times' events t journal t' := by
  induction h with
  | done t => exact .done t
  | failed t hfailed => exact .failed t hfailed
  | skip hdescribes hconverts hrecent htime _ ih =>
    exact .skip hdescribes hconverts hrecent (hsubset htime) ih
  | store w hrecent htime hfetched hwritten _ ih =>
    exact .store w hrecent (hsubset htime) (hsubset hfetched) (hsubset hwritten) ih

variable {σ : Type} {repository : PlanRepository σ} {Rep : σ → PlanTable → Prop}
  (provider : Provider)

/-- The readings after some of them are readings. -/
lemma range_clock_tick {s s' : SyncState σ} {n : ℕ} (h : s'.clock = (s.tick n).clock) :
    Set.range s'.clock ⊆ Set.range s.clock := by
  rw [h]
  rintro _ ⟨i, rfl⟩
  exact ⟨i + n, rfl⟩

variable (lib cmd) in
/-- **The inner loop** takes such steps. -/
theorem exists_syncs (hrefines : repository.Refines Rep) (events : List Json) (synced : ℕ)
    {s : SyncState σ} {t : PlanTable} (hRep : Rep s.plans t) :
    ∃ journal t', Syncs lib cmd (Set.range s.clock) events t journal t' ∧
      journal.map PlanWrite.event = storedEvents lib repository cmd provider events s ∧
      Rep ((syncEvents lib cmd events synced).after
        (SyncState.handle provider repository) s).plans t' := by
  induction events generalizing synced s t with
  | nil => exact ⟨[], t, .done t, rfl, hRep⟩
  | cons event events ih =>
    rcases run_syncEvent provider hrefines hRep lib cmd event with
      ⟨e, herror, hrun⟩ | ⟨plan, s', hplan, hrecent, hrun, hRep', hclock⟩ |
      ⟨plan, -, -, hplan, hrecent, -⟩
    · refine ⟨[], t, .failed t (not_convertible_of_error herror), ?_, ?_⟩
      · rw [storedEvents, hrun]
        rfl
      · rw [syncEvents, Prog.after_of_error _ (Prog.run_bind_error _ _ hrun)]
        exact hRep
    · obtain ⟨journal, t', hsyncs, hevents, hafter⟩ := ih synced hRep'
      refine ⟨journal, t', .skip (describes_of_fromTicketmaster hplan).1 (convertible_of_ok hplan)
        hrecent ⟨1, rfl⟩ (hsyncs.mono (range_clock_tick hclock)), ?_, ?_⟩
      · rw [storedEvents, hrun]
        exact hevents
      · rw [syncEvents, Prog.after_bind_ok _ _ hrun]
        exact hafter
    · obtain ⟨i, n, s', hrun, hRep', hclock⟩ :=
        run_syncEvent_stores provider hrefines hRep hplan hrecent
      let w : PlanWrite lib := ⟨event, s.clock 0, plan, hplan, s.clock i⟩
      have hwritten : Rep s'.plans ((planWriting lib).write t w) := hRep'
      obtain ⟨journal, t', hsyncs, hevents, hafter⟩ := ih (synced + 1) hwritten
      refine ⟨w :: journal, t', .store w hrecent ⟨1, rfl⟩ ⟨0, rfl⟩ ⟨i, rfl⟩
        (hsyncs.mono (range_clock_tick hclock)), ?_, ?_⟩
      · rw [storedEvents, hrun]
        exact congrArg (List.cons event) hevents
      · rw [syncEvents, Prog.after_bind_ok _ _ hrun]
        exact hafter

variable (lib) in
/-- A round takes such steps. -/
lemma Round.exists_syncs (hrefines : repository.Refines Rep) (round : Round) {plans : σ}
    {t : PlanTable} (hRep : Rep plans t) :
    ∃ journal t', Syncs lib round.cmd (Set.range round.clock) round.events t journal t' ∧
      journal.map PlanWrite.event = round.stored lib repository plans ∧
      Rep (round.after lib repository plans) t' := by
  have hstart : Rep (⟨plans, round.clock⟩ : SyncState σ).plans t := hRep
  obtain ⟨journal, t', hsyncs, hevents, hafter⟩ :=
    Resync.exists_syncs lib round.cmd round.provider hrefines round.events 0 hstart
  refine ⟨journal, t', hsyncs, hevents, ?_⟩
  rw [Round.after, handleSyncPlans, after_syncPages]
  exact hafter

variable (lib) in
/-- **Rounds** are a course. -/
theorem exists_course (hrefines : repository.Refines Rep) (rounds : List Round) {plans : σ}
    {t : PlanTable} (hRep : Rep plans t) :
    ∃ journal t', Course lib rounds t journal t' ∧
      journal.map PlanWrite.event = stored lib repository rounds plans ∧
      Rep (after lib repository rounds plans) t' := by
  induction rounds generalizing plans t with
  | nil => exact ⟨[], t, .nil t, rfl, hRep⟩
  | cons round rounds ih =>
    obtain ⟨first, t₁, hround, hfirst, hRep₁⟩ := round.exists_syncs lib hrefines hRep
    obtain ⟨second, t₂, hrest, hsecond, hRep₂⟩ := ih hRep₁
    refine ⟨first ++ second, t₂, .cons hround hrest, ?_, hRep₂⟩
    rw [List.map_append, hfirst, hsecond]
    rfl

end Refinement

/-! ## What becomes of a plan -/

section Journal

variable {lib : StandardLibrary} {cmd : SyncPlansCommand} {times : Set DateTime}
  {events : List Json} {rounds : List Round} {t t' : PlanTable} {journal : List (PlanWrite lib)}

lemma Syncs.replay (h : Syncs lib cmd times events t journal t') :
    t' = (planWriting lib).replay t journal := by
  induction h with
  | done t => rfl
  | failed t hfailed => rfl
  | skip _ _ _ _ _ ih => exact ih
  | store w _ _ _ _ _ ih => rw [Writing.replay_cons, ih]

lemma Syncs.times_mem (h : Syncs lib cmd times events t journal t') :
    ∀ w ∈ journal, w.fetchedAt ∈ times ∧ w.time ∈ times := by
  induction h with
  | done t => simp
  | failed t hfailed => simp
  | skip _ _ _ _ _ ih => exact ih
  | store w _ _ hfetched hwritten _ ih => simpa using ⟨⟨hfetched, hwritten⟩, ih⟩

lemma Syncs.sublist (h : Syncs lib cmd times events t journal t') :
    (journal.map PlanWrite.event).Sublist (events.takeWhile (convertible lib)) := by
  induction h with
  | done t => simp
  | failed t hfailed => simp [hfailed]
  | skip _ hconverts _ _ _ ih =>
    rw [List.takeWhile_cons_of_pos hconverts]
    exact ih.cons _
  | store w _ _ _ _ _ ih =>
    rw [List.takeWhile_cons_of_pos w.convertible_event, List.map_cons]
    exact ih.cons_cons _

/-- Without `stale_only` nothing is skipped. -/
lemma Syncs.all_stored (h : Syncs lib cmd times events t journal t')
    (hcmd : cmd.staleOnly = false) :
    journal.map PlanWrite.event = events.takeWhile (convertible lib) := by
  induction h with
  | done t => simp
  | failed t hfailed => simp [hfailed]
  | skip _ _ hrecent _ _ _ =>
    rw [hrecent.1] at hcmd
    cases hcmd
  | store w _ _ _ _ _ ih => rw [List.takeWhile_cons_of_pos w.convertible_event, List.map_cons, ih]

lemma Course.replay (h : Course lib rounds t journal t') :
    t' = (planWriting lib).replay t journal := by
  induction h with
  | nil t => rfl
  | cons hround _ ih => rw [Writing.replay_append, ← hround.replay, ih]

lemma Course.times_mem (h : Course lib rounds t journal t') :
    ∀ w ∈ journal, w.fetchedAt ∈ readings rounds ∧ w.time ∈ readings rounds := by
  induction h with
  | nil t => simp
  | @cons round rounds _ _ _ _ _ hround _ ih =>
    have hfirst := range_clock_subset round rounds
    have hothers := readings_subset_cons round rounds
    intro w hw
    rcases List.mem_append.mp hw with hw | hw
    · exact (hround.times_mem w hw).imp (fun h => hfirst h) fun h => hfirst h
    · exact (ih w hw).imp (fun h => hothers h) fun h => hothers h

lemma Course.sublist (h : Course lib rounds t journal t') :
    (journal.map PlanWrite.event).Sublist (converted lib rounds) := by
  induction h with
  | nil t => simp
  | cons hround _ ih =>
    rw [List.map_append]
    exact hround.sublist.append ih

lemma Course.all_stored (h : Course lib rounds t journal t')
    (hcmds : ∀ round ∈ rounds, round.cmd.staleOnly = false) :
    journal.map PlanWrite.event = converted lib rounds := by
  induction h with
  | nil t => rfl
  | cons hround _ ih =>
    rw [List.map_append, hround.all_stored (hcmds _ List.mem_cons_self),
      ih fun round hround => hcmds round (List.mem_cons_of_mem _ hround)]
    rfl

/-- The writes to a plan are those of its events. -/
lemma map_event_filter (journal : List (PlanWrite lib)) (id : String) :
    (journal.filter fun w => (planWriting lib).target w = id).map PlanWrite.event =
      eventsOf id (journal.map PlanWrite.event) := by
  have htarget (w : PlanWrite lib) :
      (planWriting lib).target w = id ↔ eventId w.event = some id := by
    rw [w.eventId_event, Option.some.injEq]
    rfl
  rw [eventsOf, List.filter_map]
  exact congrArg _ (List.filter_congr fun w _ => decide_eq_decide.mpr (htarget w))

/-- A write counts the version of a plan that is there up by one. -/
lemma version_apply (w : PlanWrite lib) (r : Plan) :
    ((planWriting lib).apply w (some r)).version = r.version + 1 := rfl

/-- The last write sets what the provider says of an event. -/
lemma rowAfter_last {last : PlanWrite lib} (hlast : journal.getLast? = some last)
    (before : Option Plan) :
    ∃ plan, (planWriting lib).rowAfter journal before = some plan ∧
      Provides lib last.event plan ∧
      (plan.lastSyncedAt = some last.fetchedAt ∨ plan.lastSyncedAt = some last.time) :=
  Writing.rowAfter_getLast
    (P := fun w plan => Provides lib w.event plan ∧
      (plan.lastSyncedAt = some w.fetchedAt ∨ plan.lastSyncedAt = some w.time))
    (fun w row => ⟨w.provides_apply row, w.lastSyncedAt_apply row⟩) hlast

/-- The rest is counted, or kept from the plan that was there. -/
lemma rowAfter_old {old plan : Plan}
    (h : (planWriting lib).rowAfter journal (some old) = some plan) :
    plan.version = old.version + journal.length ∧ plan.dateRange = old.dateRange ∧
      plan.planId = old.planId ∧ plan.seatPricesJson = old.seatPricesJson :=
  ⟨Writing.rowAfter_count version_apply h,
    Writing.rowAfter_kept (f := Plan.dateRange) (fun _ _ => rfl) h,
    Writing.rowAfter_kept (f := Plan.planId) (fun _ _ => rfl) h,
    Writing.rowAfter_kept (f := Plan.seatPricesJson) (fun _ _ => rfl) h⟩

/-- A new plan keeps it from its first event. -/
lemma rowAfter_new {w : PlanWrite lib} {rest : List (PlanWrite lib)} {plan : Plan}
    (h : (planWriting lib).rowAfter (w :: rest) none = some plan) :
    plan.version = rest.length + 1 ∧ lib.dateRange w.event = .ok plan.dateRange ∧
      plan.planId = lib.uuid5 ("ticketmaster.com/events/" ++ w.fetched.tmPlanId) ∧
      plan.seatPricesJson = [] := by
  have hrest : (planWriting lib).rowAfter rest (some w.fetched) = some plan := h
  obtain ⟨hversion, hdates, hplanId, hprices⟩ := rowAfter_old hrest
  obtain ⟨-, hrange, -, hplanId', -, hversion', hprices'⟩ := fromTicketmaster_eq_ok.mp w.converts
  refine ⟨?_, hrange.trans (congrArg _ hdates.symm), hplanId.trans hplanId',
    hprices.trans hprices'⟩
  rw [hversion, hversion']
  omega

/-- **Writes to one plan**: what each sets, what it keeps and what it counts. -/
lemma replayed (id : String) (htarget : ∀ w ∈ journal, (planWriting lib).target w = id)
    (htimes : ∀ w ∈ journal, w.fetchedAt ∈ readings rounds ∧ w.time ∈ readings rounds)
    {before after : Option Plan} (hafter : (planWriting lib).rowAfter journal before = after)
    (hkey : ∀ plan, after = some plan → plan.tmPlanId = id) :
    Replayed lib rounds (journal.map PlanWrite.event) before after := by
  cases journal with
  | nil => exact hafter.symm
  | cons w rest =>
    obtain ⟨last, hlast⟩ := Option.isSome_iff_exists.mp
      (List.getLast?_isSome.mpr (List.cons_ne_nil w rest))
    have hmem : last ∈ w :: rest := List.mem_of_getLast? hlast
    obtain ⟨plan, hplan, hprovides, hsynced⟩ := rowAfter_last hlast before
    rw [hafter] at hplan
    subst hplan
    have hid : plan.tmPlanId = id := hkey plan rfl
    refine ⟨plan, rfl, ?_, ?_, ?_⟩
    · intro event hevent
      rw [← List.map_cons, List.getLast?_map, hlast] at hevent
      cases hevent
      refine { hprovides with tmPlanId := ?_ }
      rw [hid, ← htarget last hmem]
      exact last.describes.tmPlanId
    · rcases hsynced with hsynced | hsynced
      · exact ⟨_, (htimes last hmem).1, hsynced⟩
      · exact ⟨_, (htimes last hmem).2, hsynced⟩
    · rw [List.length_map]
      cases before with
      | none =>
        have hfirst : w.fetched.tmPlanId = plan.tmPlanId :=
          (htarget w List.mem_cons_self).trans hid.symm
        have hnew := rowAfter_new hafter
        rwa [hfirst] at hnew
      | some old =>
        have hold := rowAfter_old hafter
        rwa [List.length_cons, Nat.cast_add, Nat.cast_one] at hold

end Journal

/-- **Any number of rounds**, with any commands, providers and clocks: the plans are those that were
there, with the stored events replayed on them. -/
theorem rounds_replayed (lib : StandardLibrary) {σ : Type} {repository : PlanRepository σ}
    {Rep : σ → PlanTable → Prop} (hrefines : repository.Refines Rep) (rounds : List Round)
    {plans : σ} {t : PlanTable} (hRep : Rep plans t) :
    (stored lib repository rounds plans).Sublist (converted lib rounds) ∧
    ((∀ round ∈ rounds, round.cmd.staleOnly = false) →
      stored lib repository rounds plans = converted lib rounds) ∧
    ∃ t', Rep (after lib repository rounds plans) t' ∧ ∀ id,
      Replayed lib rounds (eventsOf id (stored lib repository rounds plans)) (t.find id)
        (t'.find id) := by
  obtain ⟨journal, t', hcourse, hstored, hafter⟩ := exists_course lib hrefines rounds hRep
  rw [← hstored]
  refine ⟨hcourse.sublist, hcourse.all_stored, t', hafter, fun id => ?_⟩
  rw [← map_event_filter]
  refine replayed id ?_ ?_ ?_ fun plan hplan => t'.keyed id plan hplan
  · intro w hw
    simpa using (List.mem_filter.mp hw).2
  · exact fun w hw => hcourse.times_mem w (List.mem_filter.mp hw).1
  · rw [hcourse.replay, Writing.find_replay]

/-! ### A concert in two rounds -/

/-- Two rounds over one concert, an hour apart. -/
def concertRounds (staleOnly : Bool) : List Round := [
  ⟨⟨none, staleOnly⟩, fun _ _ => .ok [concertEvent], 1, fun _ => ⟨1736931600000000⟩⟩,
  ⟨⟨none, staleOnly⟩, fun _ _ => .ok [concertEvent], 1, fun _ => ⟨1736935200000000⟩⟩]

lemma eventsOf_converted_concertRounds (staleOnly : Bool) :
    converted standardLibrary (concertRounds staleOnly) = [concertEvent, concertEvent] ∧
      eventsOf "G5v0Z9" [concertEvent, concertEvent] = [concertEvent, concertEvent] := by
  have hconvertible : convertible standardLibrary concertEvent = true := by decide +kernel
  have hid : eventId concertEvent = some "G5v0Z9" := by decide
  constructor
  · simp [converted, concertRounds, Round.converted, Round.events, delivered, pageSize,
      hconvertible]
  · simp [eventsOf, hid]

/-- Both rounds store the concert. -/
theorem rounds_replayed_concert : ∃ t' : PlanTable,
    Table.Lists (after standardLibrary planList (concertRounds false) []) t' ∧
      ∃ plan, t'.find "G5v0Z9" = some plan ∧ plan.version = 2 := by
  have hempty : Table.Lists [] (Table.ofList Plan.tmPlanId []) := Table.lists_ofList List.nodup_nil
  obtain ⟨-, hall, t', hlists, hreplayed⟩ :=
    rounds_replayed standardLibrary refines_planList (concertRounds false) hempty
  obtain ⟨hconverted, hevents⟩ := eventsOf_converted_concertRounds false
  have hconcert := hreplayed "G5v0Z9"
  rw [hall (by simp [concertRounds]), hconverted, hevents] at hconcert
  obtain ⟨plan, hplan, -, -, hversion, -⟩ := hconcert
  exact ⟨t', hlists, plan, hplan, hversion⟩

/-! ## Once a day -/

/-- The plan with the id has been synced less than a day before all of the times. -/
def Fresh (times : Set DateTime) (t : PlanTable) (id : String) : Prop :=
  ∃ old, t.find id = some old ∧ ∀ time ∈ times, old.SyncedWithinDay time

/-- At none of the times the plan with the id has been synced less than a day before. -/
def Due (times : Set DateTime) (t : PlanTable) (id : String) : Prop :=
  ∀ old, t.find id = some old → ∀ time ∈ times, ¬ old.SyncedWithinDay time

/-- The number of writes to a plan: none, or one that makes a plan fresh. -/
inductive Once (times : Set DateTime) (id : String) (t t' : PlanTable) : ℕ → Prop
  | unwritten (hsame : t'.find id = t.find id) : Once times id t t' 0
  | written (hbefore : ¬ Fresh times t id) (hafter : Fresh times t' id) : Once times id t t' 1

section Once

variable {lib : StandardLibrary} {cmd : SyncPlansCommand} {times : Set DateTime} {id : String}
  {events : List Json} {rounds : List Round} {t t₁ t' : PlanTable}
  {journal : List (PlanWrite lib)}

lemma fresh_congr (h : t'.find id = t.find id) : Fresh times t' id ↔ Fresh times t id := by
  rw [Fresh, Fresh, h]

lemma due_congr (h : t'.find id = t.find id) : Due times t' id ↔ Due times t id := by
  rw [Due, Due, h]

lemma Once.trans {m n : ℕ} (hfirst : Once times id t t₁ m) (hsecond : Once times id t₁ t' n) :
    Once times id t t' (m + n) := by
  cases hfirst with
  | unwritten hsame =>
    cases hsecond with
    | unwritten hsame' => exact .unwritten (hsame'.trans hsame)
    | written hbefore hafter => exact .written (mt (fresh_congr hsame).mpr hbefore) hafter
  | written hbefore hbetween =>
    cases hsecond with
    | unwritten hsame' => exact .written hbefore ((fresh_congr hsame').mpr hbetween)
    | written hbefore' _ => exact absurd hbetween hbefore'

/-- A fresh plan is skipped. -/
lemma Fresh.recent {time : DateTime} (h : Fresh times t id) (hcmd : cmd.staleOnly = true)
    (htime : time ∈ times) : Recent cmd t id time := by
  obtain ⟨old, hold, hsynced⟩ := h
  exact ⟨hcmd, old, hold, hsynced time htime⟩

/-- What is written within a day of all the times is fresh. -/
lemma fresh_write (hday : ∀ time ∈ times, ∀ time' ∈ times,
      time.micros - time'.micros < staleThreshold)
    {w : PlanWrite lib} (hfetched : w.fetchedAt ∈ times) (hwritten : w.time ∈ times) :
    Fresh times ((planWriting lib).write t w) w.fetched.tmPlanId := by
  refine ⟨_, (planWriting lib).find_write_self t w, fun time htime => ?_⟩
  rcases w.lastSyncedAt_apply (t.find w.fetched.tmPlanId) with hsynced | hsynced
  · exact ⟨_, hsynced, hday time htime _ hfetched⟩
  · exact ⟨_, hsynced, hday time htime _ hwritten⟩

lemma eventsOf_cons (id : String) (w : PlanWrite lib) (events : List Json) :
    eventsOf id (w.event :: events) =
      if w.fetched.tmPlanId = id then w.event :: eventsOf id events else eventsOf id events := by
  rw [eventsOf, List.filter_cons, w.eventId_event]
  simp [eventsOf]

/-- **One round** writes a plan at most once, and never a fresh one. -/
lemma Syncs.once (h : Syncs lib cmd times events t journal t') (hcmd : cmd.staleOnly = true)
    {day : Set DateTime} (htimes : times ⊆ day) (hday : ∀ time ∈ day, ∀ time' ∈ day,
      time.micros - time'.micros < staleThreshold) (id : String) :
    Once day id t t' (eventsOf id (journal.map PlanWrite.event)).length := by
  induction h with
  | done t => exact .unwritten rfl
  | failed t hfailed => exact .unwritten rfl
  | skip _ _ _ _ _ ih => exact ih
  | @store t t' _ _ time w hrecent htime hfetched hwritten _ ih =>
    rw [List.map_cons, eventsOf_cons]
    by_cases hid : w.fetched.tmPlanId = id
    · subst hid
      have hbefore : ¬ Fresh day t w.fetched.tmPlanId := fun hfresh =>
        hrecent (hfresh.recent hcmd (htimes htime))
      have hafter : Fresh day ((planWriting lib).write t w) w.fetched.tmPlanId :=
        fresh_write hday (htimes hfetched) (htimes hwritten)
      rw [if_pos rfl, List.length_cons, Nat.add_comm]
      exact .trans (.written hbefore hafter) ih
    · have hsame : ((planWriting lib).write t w).find id = t.find id :=
        (planWriting lib).find_write_of_ne t (Ne.symm hid)
      rw [if_neg hid, ← Nat.zero_add (List.length _)]
      exact .trans (.unwritten hsame) ih

/-- A plan that is due is written if an event with its id is converted. -/
lemma Syncs.writes_due (h : Syncs lib cmd times events t journal t') (hdue : Due times t id)
    (hnone : eventsOf id (journal.map PlanWrite.event) = []) :
    eventsOf id (events.takeWhile (convertible lib)) = [] := by
  induction h with
  | done t => rfl
  | failed t hfailed =>
    rw [List.takeWhile_cons_of_neg (by simpa using hfailed)]
    rfl
  | skip hdescribes hconverts hrecent htime _ ih =>
    rw [List.takeWhile_cons_of_pos hconverts, eventsOf, List.filter_cons_of_neg]
    · exact ih hdue hnone
    · rw [eventId_of_describes hdescribes, decide_eq_true_iff, Option.some.injEq]
      rintro rfl
      obtain ⟨-, old, hold, hsynced⟩ := hrecent
      exact hdue old hold _ htime hsynced
  | @store t t' _ _ time w hrecent htime hfetched hwritten _ ih =>
    rw [List.map_cons, eventsOf_cons] at hnone
    by_cases hid : w.fetched.tmPlanId = id
    · rw [if_pos hid] at hnone
      exact absurd hnone (List.cons_ne_nil _ _)
    · rw [if_neg hid] at hnone
      have hsame : ((planWriting lib).write t w).find id = t.find id :=
        (planWriting lib).find_write_of_ne t (Ne.symm hid)
      rw [List.takeWhile_cons_of_pos w.convertible_event, eventsOf_cons, if_neg hid]
      exact ih ((due_congr hsame).mpr hdue) hnone

lemma Course.once (h : Course lib rounds t journal t')
    (hcmds : ∀ round ∈ rounds, round.cmd.staleOnly = true) {day : Set DateTime}
    (htimes : readings rounds ⊆ day) (hday : ∀ time ∈ day, ∀ time' ∈ day,
      time.micros - time'.micros < staleThreshold) (id : String) :
    Once day id t t' (eventsOf id (journal.map PlanWrite.event)).length := by
  induction h with
  | nil t => exact .unwritten rfl
  | @cons round rounds _ _ _ _ _ hround _ ih =>
    have hone := hround.once (hcmds _ List.mem_cons_self)
      ((range_clock_subset round rounds).trans htimes) hday id
    have hrest := ih (fun other hother => hcmds other (List.mem_cons_of_mem _ hother))
      ((readings_subset_cons round rounds).trans htimes)
    rw [List.map_append, eventsOf, List.filter_append, List.length_append]
    exact hone.trans hrest

/-- What no event of a round is stored under stays as it is. -/
lemma Syncs.find_eq (h : Syncs lib cmd times events t journal t')
    (hnone : eventsOf id (journal.map PlanWrite.event) = []) : t'.find id = t.find id := by
  rw [← map_event_filter, List.map_eq_nil_iff] at hnone
  rw [h.replay, Writing.find_replay, hnone, Writing.rowAfter_nil]

lemma Course.writes_due (h : Course lib rounds t journal t') {day : Set DateTime}
    (htimes : readings rounds ⊆ day) (hdue : Due day t id)
    (hnone : eventsOf id (journal.map PlanWrite.event) = []) :
    eventsOf id (converted lib rounds) = [] := by
  induction h with
  | nil t => rfl
  | @cons round rounds _ _ _ _ _ hround _ ih =>
    rw [List.map_append, eventsOf, List.filter_append, List.append_eq_nil_iff] at hnone
    have hdueRound : Due (Set.range round.clock) _ id := fun old hold time htime =>
      hdue old hold time (htimes (range_clock_subset round rounds htime))
    have hfirst := hround.writes_due hdueRound hnone.1
    have hsecond := ih ((readings_subset_cons round rounds).trans htimes)
      ((due_congr (hround.find_eq hnone.1)).mpr hdue) hnone.2
    rw [converted, List.flatMap_cons, eventsOf, List.filter_append, List.append_eq_nil_iff]
    exact ⟨hfirst, hsecond⟩

end Once

/-- **Rounds within a day**, all with `stale_only`: each plan is stored at most once, not at all if
it was synced within the day, and if it was not, exactly when one of its events is converted. -/
theorem stored_once (lib : StandardLibrary) {σ : Type} {repository : PlanRepository σ}
    {Rep : σ → PlanTable → Prop} (hrefines : repository.Refines Rep) {rounds : List Round}
    (hcmds : ∀ round ∈ rounds, round.cmd.staleOnly = true)
    (hday : ∀ time ∈ readings rounds, ∀ time' ∈ readings rounds,
      time.micros - time'.micros < staleThreshold)
    {plans : σ} {t : PlanTable} (hRep : Rep plans t) (id : String) :
    (eventsOf id (stored lib repository rounds plans)).length ≤ 1 ∧
    (Fresh (readings rounds) t id → eventsOf id (stored lib repository rounds plans) = []) ∧
    (Due (readings rounds) t id → (eventsOf id (stored lib repository rounds plans) = [] ↔
      eventsOf id (converted lib rounds) = [])) := by
  obtain ⟨journal, t', hcourse, hstored, -⟩ := exists_course lib hrefines rounds hRep
  rw [← hstored]
  have honce := hcourse.once hcmds subset_rfl hday id
  refine ⟨?_, ?_, fun hdue => ⟨hcourse.writes_due subset_rfl hdue, fun hnone => ?_⟩⟩
  · generalize (eventsOf id (journal.map PlanWrite.event)).length = n at honce
    cases honce with
    | unwritten _ => omega
    | written _ _ => omega
  · intro hfresh
    rw [← List.length_eq_zero_iff]
    generalize (eventsOf id (journal.map PlanWrite.event)).length = n at honce
    cases honce with
    | unwritten _ => rfl
    | written hbefore _ => exact absurd hfresh hbefore
  · have hsublist : (eventsOf id (journal.map PlanWrite.event)).Sublist
        (eventsOf id (converted lib rounds)) := hcourse.sublist.filter _
    rw [hnone] at hsublist
    exact List.sublist_nil.mp hsublist

/-- Only the first of the two rounds stores the concert. -/
theorem stored_once_concert :
    (eventsOf "G5v0Z9" (stored standardLibrary planList (concertRounds true) [])).length = 1 := by
  have hempty : Table.Lists [] (Table.ofList Plan.tmPlanId []) := Table.lists_ofList List.nodup_nil
  have hcmds : ∀ round ∈ concertRounds true, round.cmd.staleOnly = true := by simp [concertRounds]
  have hday : ∀ time ∈ readings (concertRounds true), ∀ time' ∈ readings (concertRounds true),
      time.micros - time'.micros < staleThreshold := by
    rintro _ ⟨round, hround, i, rfl⟩ _ ⟨round', hround', i', rfl⟩
    simp only [concertRounds, List.mem_cons, List.not_mem_nil, or_false] at hround hround'
    rcases hround with rfl | rfl <;> rcases hround' with rfl | rfl <;> simp [staleThreshold]
  obtain ⟨honce, -, hdue⟩ :=
    stored_once standardLibrary refines_planList hcmds hday hempty "G5v0Z9"
  obtain ⟨hconverted, hevents⟩ := eventsOf_converted_concertRounds true
  have hnone : Due (readings (concertRounds true)) (Table.ofList Plan.tmPlanId []) "G5v0Z9" := by
    intro old hold
    cases hold
  have hstored := mt (hdue hnone).mp (by rw [hconverted, hevents]; exact List.cons_ne_nil _ _)
  have hpos := List.length_pos_iff.mpr hstored
  omega

end TicketGenius.Resync
