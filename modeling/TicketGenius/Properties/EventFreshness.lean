import TicketGenius.Properties.Support.EventSteps

/-!
# Events after a webhook

The provider announces that an event has changed, and `handle_plan_updated_webhook` deletes the
event and every cached response.  From then on `get_plan` never returns for this event what the
provider sent before (`webhook_refreshes`), whatever is asked and cached and invalidated in between;
calls follow one another here, and while a sweep goes on others may let keys expire and write under
keys of their own.

Two caches are in play, and only one of them is keyed by the event.  A response lies under the hash
of its request, so nothing tells which responses are about the event: the sweep has to take them
all, and a response that is left would be copied into the event cache by the next call.  The
invariant `Fresh` is therefore about all search keys and one event key.

An event lies under its own id (`labelled_run`): what `get_cached_event` returns for an id is an
event that has it.  `invalidate_all_event_cache` leaves no event that nobody has cached meanwhile,
and nothing else is gone (`invalidateAll_exact`).
-/

namespace TicketGenius.EventFreshness

open Framework Redis ResponseCache

/-! ## Freshness -/

/-- Whatever the caches have that can be returned for the event was received at `n` or later. -/
structure Fresh (adapter : HttpAdapter) (provided : Provided) (n : ℕ) (eventId : String)
    (s : HttpState) : Prop where
  later : n ≤ s.received
  sourced : adapter.redis = true → ∀ key, (IsSearchKey key ∨ key = eventKey eventId) →
    ∀ entry, s.redis key = some entry →
      ∃ body, entry.value = .json body ∧ ReceivedIn provided n s.received body

namespace Fresh

variable {lib : TextLibrary} {adapter : HttpAdapter} {provided : Provided} {n : ℕ}
  {eventId : String} {s s' : HttpState}

/-- Entries have gone, and others have come under other keys. -/
lemma shrink (h : Fresh adapter provided n eventId s) (hshrinks : Shrinks s s') :
    Fresh adapter provided n eventId s' := by
  refine ⟨hshrinks.received ▸ h.later, fun hcaching key hkey entry hentry => ?_⟩
  rw [hshrinks.received]
  exact h.sourced hcaching key hkey entry (hshrinks.of_entry (isCacheKey_of_or hkey) hentry)

/-- A body has been put under a key. -/
lemma put (h : Fresh adapter provided n eventId s) {body : Json}
    (hbody : ReceivedIn provided n s.received body) (key : String) (ttl : Option ℕ) :
    Fresh adapter provided n eventId
      { s with redis := Function.update s.redis key (some ⟨.json body, ttl⟩) } := by
  refine ⟨h.later, fun hcaching key' hkey' entry hentry => ?_⟩
  rcases eq_or_ne key' key with rfl | hne
  · simp only [Function.update_self, Option.some.injEq] at hentry
    subst hentry
    exact ⟨body, rfl, hbody⟩
  · simp only [Function.update_of_ne hne] at hentry
    exact h.sourced hcaching key' hkey' entry hentry

/-- A call that finds something has a client. -/
lemma redis_of_hit {c : RequestCall} {value : Value} (h : adapter.hit lib c s = some value) :
    adapter.redis = true := by
  unfold HttpAdapter.hit at h
  split at h
  · next key hkey =>
    unfold HttpAdapter.cacheKeyOf at hkey
    split at hkey
    · next hcaching => exact (Bool.and_eq_true_iff.mp hcaching).2
    · cases hkey
  · cases h

/-- A call serves a body that is fresh, or receives one. -/
lemma request (h : Fresh adapter provided n eventId s) (lib : TextLibrary) (c : RequestCall)
    (hs' : (adapter.makeRequest lib c).after (HttpState.handle provided) s = s') :
    Fresh adapter provided n eventId s' ∧
      ∀ body, (adapter.makeRequest lib c).result (HttpState.handle provided) s = .ok body →
        ReceivedIn provided n s'.received body := by
  have hreceived := received_le_after provided (adapter.makeRequest lib c) s
  rcases call_cases lib adapter provided c s with
    ⟨value, hhit, hsame, hresult⟩ | ⟨hfetches, hresult⟩
  · obtain rfl : s = s' := hsame.symm.trans hs'
    rw [hresult]
    refine ⟨h, fun body hbody => ?_⟩
    obtain ⟨entry, hentry, hvalue⟩ := entry_of_hit hhit
    obtain ⟨body', hbody', hsourced⟩ := h.sourced (redis_of_hit hhit) _
      (.inl (isSearchKey_keyOf lib adapter c)) entry hentry
    rw [← hvalue, hbody'] at hbody
    obtain rfl := Except.ok.inj hbody
    exact hsourced
  · rw [hs'] at hfetches hreceived
    rw [hresult]
    have hsource : ∀ body, HttpAdapter.fetched lib provided s = .ok body →
        ReceivedIn provided n s'.received body := by
      intro body hbody
      obtain ⟨k, hlow, hhigh, hsuccess⟩ := hfetches.source body hbody
      exact ⟨k, h.later.trans hlow, hhigh, hsuccess⟩
    refine ⟨⟨h.later.trans hreceived, fun hcaching key hkey entry hentry => ?_⟩, hsource⟩
    have hkept : ∀ entry, s.redis key = some entry →
        ∃ body, entry.value = .json body ∧ ReceivedIn provided n s'.received body := by
      intro entry hentry
      obtain ⟨body, hvalue, hbody⟩ := h.sourced hcaching key hkey entry hentry
      exact ⟨body, hvalue, hbody.mono le_rfl hreceived⟩
    rcases hfetches.store with hsame | ⟨body, hbody, -, -, hwrites⟩
    · exact hkept entry (hsame ▸ hentry)
    · rw [hwrites] at hentry
      rcases eq_or_ne key (keyOf lib adapter c) with rfl | hne
      · rw [Function.update_self, Option.some.injEq] at hentry
        subst hentry
        exact ⟨body, rfl, hsource body hbody⟩
      · rw [Function.update_of_ne hne] at hentry
        exact hkept entry hentry

/-- The event of a request that has brought one is cached. -/
lemma cachedAs (h : Fresh adapter provided n eventId s) {event : Json}
    (hevent : ReceivedIn provided n s.received event) :
    Fresh adapter provided n eventId (EventFreshness.cachedAs adapter event s) := by
  unfold EventFreshness.cachedAs
  split
  · exact h.put hevent _ _
  · exact h

lemma cachedAs_received (adapter : HttpAdapter) (event : Json) (s : HttpState) :
    (EventFreshness.cachedAs adapter event s).received = s.received := by
  unfold EventFreshness.cachedAs
  split <;> rfl

lemma afterRequest {outcome : Except PyError Json} (h : Fresh adapter provided n eventId s)
    (hevent : ∀ event, outcome = .ok event → ReceivedIn provided n s.received event) :
    Fresh adapter provided n eventId (EventFreshness.afterRequest adapter outcome s) ∧
      (EventFreshness.afterRequest adapter outcome s).received = s.received := by
  cases outcome with
  | error e => exact ⟨h, rfl⟩
  | ok event => exact ⟨h.cachedAs (hevent event rfl), cachedAs_received adapter event s⟩

/-- What the event cache has for the event is fresh. -/
lemma of_cachedEvent (h : Fresh adapter provided n eventId s) {event : Json}
    (hcached : cachedEvent adapter eventId s = .ok (some event)) :
    ReceivedIn provided n s.received event := by
  obtain ⟨hcaching, entry, hentry, hload⟩ := entry_of_cachedEvent hcached
  obtain ⟨body, hbody, hreceived⟩ := h.sourced hcaching _ (.inr rfl) entry hentry
  rw [hbody] at hload
  obtain rfl := Except.ok.inj hload
  exact hreceived

/-- **`get_plan` keeps the caches fresh**, for whatever plan it is called, and what it returns for
the event is fresh. -/
lemma getPlan (h : Fresh adapter provided n eventId s) (lib : TextLibrary) (planId : String)
    (hs' : (adapter.getPlan lib planId).after (HttpState.handle provided) s = s') :
    Fresh adapter provided n eventId s' ∧
      ∀ event, planId = eventId →
        (adapter.getPlan lib planId).result (HttpState.handle provided) s = .ok (some event) →
          ReceivedIn provided n s'.received event := by
  rcases getPlan_cases lib adapter provided planId s with ⟨hsame, hcached⟩ | ⟨hafter, hresult⟩
  · obtain rfl : s = s' := hsame.symm.trans hs'
    refine ⟨h, ?_⟩
    rintro event rfl hevent
    exact h.of_cachedEvent (hcached event hevent)
  · obtain ⟨heffect, hevents⟩ := fetchPlan_effect lib adapter provided planId s
    obtain ⟨hrequest, hbodies⟩ := h.request lib (HttpAdapter.planCall planId) rfl
    obtain ⟨hfresh, hreceived⟩ := hrequest.afterRequest hbodies
    obtain rfl := (hafter.trans heffect).symm.trans hs'
    refine ⟨hfresh, fun event _ hevent => ?_⟩
    rw [hreceived]
    exact hbodies event (hevents event (hresult ▸ hevent))

/-- **Every quiet step** keeps the caches fresh. -/
lemma step (h : Fresh adapter provided n eventId s) (lib : TextLibrary) {a : Step}
    (hquiet : a.Quiet) :
    Fresh adapter provided n eventId (EventFreshness.step lib adapter provided s a) := by
  rcases step_cases lib adapter provided s hquiet with ⟨planId, rfl⟩ | ⟨c, rfl⟩ | hshrinks
  · exact (h.getPlan lib planId rfl).1
  · exact (h.request lib c rfl).1
  · exact h.shrink hshrinks

lemma run (h : Fresh adapter provided n eventId s) (lib : TextLibrary) {steps : List Step}
    (hquiet : ∀ a ∈ steps, a.Quiet) :
    Fresh adapter provided n eventId
      (Framework.run (EventFreshness.step lib adapter provided) s steps) := by
  induction steps generalizing s with
  | nil => exact h
  | cons a steps ih =>
    obtain ⟨ha, hsteps⟩ := List.forall_mem_cons.mp hquiet
    exact ih (h.step lib ha) hsteps

end Fresh

/-! ## The webhook -/

/-- A sweep over the responses that others leave in peace, and that comes to its end with every scan
as promised. -/
structure Swept (env : Environment String Store) (rounds : ℕ) (s : Store) : Prop where
  quiet : Quiet env
  ends : SweepEnds env rounds s
  complete : SweepComplete env "tm:search:" rounds s

/-- No response is left. -/
lemma Swept.clears {env : Environment String Store} {rounds : ℕ} {s : Store}
    (h : Swept env rounds s) {key : String} (hkey : IsSearchKey key) :
    sweepStore env rounds s key = none := by
  have hspares : env.Spares Store.Has key := by
    intro n t hhas
    rcases h.quiet n t key (.inl hkey) with hsame | hgone
    · rwa [Store.Has, hsame] at hhas
    · exact (hhas hgone).elim
  exact not_not.mp (sweep_clears deletes_dropAll h.complete h.ends hkey hspares)

section Webhook

variable {adapter : HttpAdapter} {provided : Provided} {eventId : String}
  {env : Environment String Store} {rounds : ℕ} {s : HttpState}

/-- **A webhook leaves nothing** that could be returned for the event. -/
lemma fresh_webhook
    (hswept : adapter.redis = true →
      Swept env rounds (Function.update s.redis (eventKey eventId) none)) :
    Fresh adapter provided s.received eventId
      (adapter.handlePlanUpdatedWebhook provided eventId env rounds s) := by
  cases hcaching : adapter.redis with
  | false =>
    have hsame : adapter.handlePlanUpdatedWebhook provided eventId env rounds s = s := by
      simp only [HttpAdapter.handlePlanUpdatedWebhook, HttpAdapter.invalidateEventCache, hcaching]
      rfl
    rw [hsame]
    refine ⟨le_rfl, fun htrue => ?_⟩
    rw [hcaching] at htrue
    cases htrue
  | true =>
    let without : HttpState := { s with redis := Function.update s.redis (eventKey eventId) none }
    have hsweep : adapter.handlePlanUpdatedWebhook provided eventId env rounds s =
        { without with redis := sweepStore env rounds without.redis } := by
      simp only [HttpAdapter.handlePlanUpdatedWebhook, HttpAdapter.invalidateEventCache, hcaching]
      rfl
    have hshrinks := Shrinks.sweepStore (hswept hcaching).quiet rounds without
    rw [hsweep]
    refine ⟨le_rfl, fun _ key hkey entry hentry => ?_⟩
    rcases hkey with hsearch | rfl
    · cases ((hswept hcaching).clears hsearch).symm.trans hentry
    · have hthere : Function.update s.redis (eventKey eventId) none (eventKey eventId) =
          some entry := hshrinks.of_entry (isCacheKey_of_or (.inr rfl)) hentry
      rw [Function.update_self] at hthere
      cases hthere

end Webhook

/-- Everything about an event, and every response, is from the `n`th response on. -/
structure Refreshed (lib : TextLibrary) (adapter : HttpAdapter) (provided : Provided) (n : ℕ)
    (eventId : String) (s : HttpState) : Prop where
  getPlan : ∀ event,
    (adapter.getPlan lib eventId).result (HttpState.handle provided) s = .ok (some event) →
      ReceivedIn provided n
        ((adapter.getPlan lib eventId).after (HttpState.handle provided) s).received event
  getCachedEvent : ∀ event,
    (adapter.getCachedEvent eventId).result (HttpState.handle provided) s = .ok (some event) →
      ReceivedIn provided n s.received event
  makeRequest : ∀ c body,
    (adapter.makeRequest lib c).result (HttpState.handle provided) s = .ok body →
      ReceivedIn provided n
        ((adapter.makeRequest lib c).after (HttpState.handle provided) s).received body

lemma Fresh.refreshed {adapter : HttpAdapter} {provided : Provided} {n : ℕ} {eventId : String}
    {s : HttpState} (h : Fresh adapter provided n eventId s) (lib : TextLibrary) :
    Refreshed lib adapter provided n eventId s where
  getPlan event hresult := (h.getPlan lib eventId rfl).2 event rfl hresult
  getCachedEvent event hresult := by
    rw [Prog.result_of_ended _ (run_getCachedEvent adapter provided eventId s)] at hresult
    exact h.of_cachedEvent hresult
  makeRequest c body hresult := (h.request lib c rfl).2 body hresult

/-- **Nothing old comes back** after a webhook. -/
theorem webhook_refreshes (lib : TextLibrary) (adapter : HttpAdapter) (provided : Provided)
    (eventId : String) (env : Environment String Store) (rounds : ℕ) (s : HttpState)
    (hswept : adapter.redis = true →
      Swept env rounds (Function.update s.redis (eventKey eventId) none))
    (steps : List Step) (hquiet : ∀ a ∈ steps, a.Quiet) :
    Refreshed lib adapter provided s.received eventId
      (run (step lib adapter provided) s (.webhook eventId env rounds :: steps)) :=
  ((fresh_webhook hswept).run lib hquiet).refreshed lib

/-! ### A response and an event that change -/

/-- Others write under a key of their own, and the scan finds the one response there is. -/
def oneResponse : Environment String Store :=
  oneBatch (fun s => Function.update s "catalog:plans" (some ⟨.text "3", none⟩)) "tm:search:e5f1"

/-- The event as the provider sent it once. -/
def outdated : Json := .obj [("id", .str "G5v"), ("name", .str "Opera")]

/-- The event lies in both caches. -/
def bothCaches : Store :=
  Function.update (Function.update (fun _ => none) "tm:search:e5f1"
    (some ⟨.json outdated, some searchTtl⟩)) (eventKey "G5v") (some ⟨.json outdated, some eventTtl⟩)

lemma quiet_oneResponse : Quiet oneResponse := by
  intro n s key hkey
  refine .inl (Function.update_of_ne ?_ ..)
  rintro rfl
  exact absurd hkey (by decide)

lemma swept_oneResponse :
    Swept oneResponse 1 (Function.update bothCaches (eventKey "G5v") none) where
  quiet := quiet_oneResponse
  ends := rfl
  complete := by
    refine sweepComplete_oneBatch (by decide) fun key _ hother => ?_
    by_cases hevent : key = eventKey "G5v"
    · rw [hevent, Function.update_self]
    · rw [Function.update_of_ne hevent, bothCaches, Function.update_of_ne hevent,
        Function.update_of_ne hother]

/-- The event is asked for again and again. -/
theorem webhook_refreshes_event :
    Refreshed .sample ⟨"client", true⟩ ResponseCache.counting 0 "G5v"
      (run (step .sample ⟨"client", true⟩ ResponseCache.counting)
        ⟨bothCaches, .make 5 5 0, 0, 0⟩
        [.webhook "G5v" oneResponse 1, .getPlan "G5v", .expire (eventKey "G5v"),
          .getPlan "G5v"]) := by
  refine webhook_refreshes _ _ _ _ _ _ ⟨bothCaches, .make 5 5 0, 0, 0⟩
    (fun _ => swept_oneResponse) _ ?_
  simp [Step.Quiet]

/-! ## What lies under an id -/

/-- What lies under the key of an id is an event that has it. -/
def Labelled (s : HttpState) : Prop :=
  ∀ eventId entry, s.redis (eventKey eventId) = some entry →
    ∃ event, entry.value = .json event ∧ labelOf event = some eventId

namespace Labelled

variable {lib : TextLibrary} {adapter : HttpAdapter} {provided : Provided} {s s' : HttpState}

lemma eventKey_injective {eventId eventId' : String} (h : eventKey eventId = eventKey eventId') :
    eventId = eventId' := by
  have hlists := congrArg String.toList h
  rw [eventKey, eventKey, String.toList_append, String.toList_append] at hlists
  exact String.toList_inj.mp (List.append_cancel_left hlists)

/-- The key of an event is not that of a response. -/
lemma not_isSearchKey_eventKey (eventId : String) : ¬ IsSearchKey (eventKey eventId) := by
  rintro ⟨rest, hrest⟩
  rw [eventKey, String.toList_append] at hrest
  cases hrest

lemma shrink (h : Labelled s) (hshrinks : Shrinks s s') : Labelled s' :=
  fun eventId entry hentry =>
    h eventId entry (hshrinks.of_entry (.inr (matchesStar_eventKey eventId)) hentry)

/-- A call writes no event. -/
lemma request (h : Labelled s) (lib : TextLibrary) (adapter : HttpAdapter) (provided : Provided)
    (c : RequestCall) :
    Labelled ((adapter.makeRequest lib c).after (HttpState.handle provided) s) := by
  intro eventId entry hentry
  refine h eventId entry ?_
  rcases call_cases lib adapter provided c s with ⟨-, -, hsame, -⟩ | ⟨hfetches, -⟩
  · rwa [hsame] at hentry
  · rcases hfetches.store with hsame | ⟨body, -, -, -, hwrites⟩
    · rwa [hsame] at hentry
    · have hne : eventKey eventId ≠ keyOf lib adapter c := by
        intro heq
        exact not_isSearchKey_eventKey eventId (heq ▸ isSearchKey_keyOf lib adapter c)
      rwa [hwrites, Function.update_of_ne hne] at hentry

/-- An event is cached under the id it has. -/
lemma afterRequest (h : Labelled s) (adapter : HttpAdapter) (outcome : Except PyError Json) :
    Labelled (EventFreshness.afterRequest adapter outcome s) := by
  cases outcome with
  | error e => exact h
  | ok event =>
    intro eventId entry hentry
    rw [EventFreshness.afterRequest, cachedAs] at hentry
    split at hentry
    · next label _ hlabel =>
      by_cases hown : eventId = label
      · subst hown
        simp only [Function.update_self, Option.some.injEq] at hentry
        subst hentry
        exact ⟨event, rfl, hlabel⟩
      · have hne : eventKey eventId ≠ eventKey label := fun heq => hown (eventKey_injective heq)
        simp only [Function.update_of_ne hne] at hentry
        exact h eventId entry hentry
    · exact h eventId entry hentry

/-- **Every quiet step** keeps the events under their ids. -/
lemma step (h : Labelled s) (lib : TextLibrary) (adapter : HttpAdapter) (provided : Provided)
    {a : Step} (hquiet : a.Quiet) : Labelled (EventFreshness.step lib adapter provided s a) := by
  rcases step_cases lib adapter provided s hquiet with ⟨planId, rfl⟩ | ⟨c, rfl⟩ | hshrinks
  · rw [EventFreshness.step]
    rcases getPlan_cases lib adapter provided planId s with ⟨hsame, -⟩ | ⟨hafter, -⟩
    · rwa [hsame]
    · rw [hafter, (fetchPlan_effect lib adapter provided planId s).1]
      exact (h.request lib adapter provided _).afterRequest adapter _
  · exact h.request lib adapter provided c
  · exact h.shrink hshrinks

lemma run (h : Labelled s) (lib : TextLibrary) (adapter : HttpAdapter) (provided : Provided)
    {steps : List Step} (hquiet : ∀ a ∈ steps, a.Quiet) :
    Labelled (Framework.run (EventFreshness.step lib adapter provided) s steps) := by
  induction steps generalizing s with
  | nil => exact h
  | cons a steps ih =>
    obtain ⟨ha, hsteps⟩ := List.forall_mem_cons.mp hquiet
    exact ih (h.step lib adapter provided ha) hsteps

/-- What the event cache has for an id. -/
lemma of_cachedEvent (h : Labelled s) {eventId : String} {event : Json}
    (hcached : cachedEvent adapter eventId s = .ok (some event)) :
    labelOf event = some eventId := by
  obtain ⟨-, entry, hentry, hload⟩ := entry_of_cachedEvent hcached
  obtain ⟨event', hvalue, hlabel⟩ := h eventId entry hentry
  rw [hvalue] at hload
  obtain rfl := Except.ok.inj hload
  exact hlabel

end Labelled

/-- What `get_cached_event` returns for an id is an event that has it, and that has been received
from the `n`th response on. -/
def OwnEvents (adapter : HttpAdapter) (provided : Provided) (n : ℕ) (s : HttpState) : Prop :=
  ∀ eventId event,
    (adapter.getCachedEvent eventId).result (HttpState.handle provided) s = .ok (some event) →
      labelOf event = some eventId ∧ ReceivedIn provided n s.received event

/-- **An event lies under its own id** in every run that starts with empty caches. -/
theorem labelled_run (lib : TextLibrary) (adapter : HttpAdapter) (provided : Provided)
    (start : HttpState) (hempty : ∀ key, IsCacheKey key → start.redis key = none)
    (steps : List Step) (hquiet : ∀ a ∈ steps, a.Quiet) :
    OwnEvents adapter provided start.received
      (run (step lib adapter provided) start steps) := by
  intro eventId event hresult
  have hlabelled : Labelled start := by
    intro id entry hentry
    rw [hempty _ (isCacheKey_of_or (.inr rfl))] at hentry
    cases hentry
  have hfresh : Fresh adapter provided start.received eventId start := by
    refine ⟨le_rfl, fun _ key hkey entry hentry => ?_⟩
    rw [hempty key (isCacheKey_of_or hkey)] at hentry
    cases hentry
  rw [Prog.result_of_ended _ (run_getCachedEvent adapter provided eventId _)] at hresult
  exact ⟨(hlabelled.run lib adapter provided hquiet).of_cachedEvent hresult,
    (hfresh.run lib hquiet).of_cachedEvent hresult⟩

/-- Two plans, one of them announced as changed. -/
theorem labelled_run_of_plans :
    OwnEvents ⟨"client", true⟩ ResponseCache.counting 0
      (run (step .sample ⟨"client", true⟩ ResponseCache.counting)
        ⟨fun _ => none, .make 5 5 0, 0, 0⟩
        [.getPlan "G5v", .getPlan "K8x", .webhook "G5v" oneResponse 1, .getPlan "G5v"]) := by
  refine labelled_run _ _ _ ⟨fun _ => none, .make 5 5 0, 0, 0⟩ (fun _ _ => rfl) _ ?_
  simp [Step.Quiet, quiet_oneResponse]

/-! ## All events at once -/

/-- **The events are gone**, and nothing else. -/
structure Emptied (env : Environment String Store) (s s' : Store) : Prop where
  gone : ∀ key, MatchesStar "tm:event:" key → env.Spares Store.Has key → s' key = none
  kept : ∀ key, ¬ MatchesStar "tm:event:" key → (∀ n t, env.others n t key = t key) →
    s' key = s key

theorem invalidateAll_exact (adapter : HttpAdapter) (env : Environment String Store) (rounds : ℕ)
    (s : HttpState) (hredis : adapter.redis = true)
    (hcomplete : SweepComplete env "tm:event:" rounds s.redis)
    (hends : SweepEnds env rounds s.redis) :
    Emptied env s.redis (adapter.invalidateAllEventCache env rounds s).redis := by
  have hsweep : (adapter.invalidateAllEventCache env rounds s).redis =
      sweepStore env rounds s.redis := by
    rw [HttpAdapter.invalidateAllEventCache, if_pos hredis]
  rw [hsweep]
  refine ⟨fun key hmatches hspares => ?_, fun key hother hothers => ?_⟩
  · exact not_not.mp (sweep_clears deletes_dropAll hcomplete hends hmatches hspares)
  · refine after_unchanged (f := fun t : Store => t key) (P := fun keys => key ∉ keys) hothers ?_ ?_
    · exact fun keys t hkey => if_neg hkey
    · intro keys hkeys hkey
      exact hother (sweep_deletes_matching deletes_dropAll hcomplete hkeys key hkey)

/-- Another client keeps caching one event, and the scan finds the other. -/
def cachingClient : Environment String Store :=
  oneBatch (fun s => Function.update s (eventKey "K8x") (some ⟨.json .null, some eventTtl⟩))
    (eventKey "G5v")

def oneEvent : Store :=
  Function.update (fun _ => none) (eventKey "G5v") (some ⟨.json .null, some eventTtl⟩)

theorem invalidateAll_exact_caching :
    Emptied cachingClient oneEvent
      (HttpAdapter.invalidateAllEventCache ⟨"client", true⟩ cachingClient 1
        ⟨oneEvent, .make 5 5 0, 0, 0⟩).redis := by
  have hcomplete : SweepComplete cachingClient "tm:event:" 1 oneEvent :=
    sweepComplete_oneBatch (matchesStar_eventKey "G5v") fun k _ hk => Function.update_of_ne hk ..
  exact invalidateAll_exact _ _ _ ⟨oneEvent, .make 5 5 0, 0, 0⟩ rfl hcomplete rfl

end TicketGenius.EventFreshness
