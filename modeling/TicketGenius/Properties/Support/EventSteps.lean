import TicketGenius.Adapters.EventCache
import TicketGenius.Properties.ResponseCache

/-!
# Steps on the two caches

What happens to the response cache and the event cache, one step after another, and what a step is:
a call of `get_plan`, any other request, or a loss of entries (`step_cases`).  `get_plan` itself is
a look into the event cache (`getPlan_cases`), a request, and a write under the id that the event
has (`fetchPlan_effect`).
-/

namespace TicketGenius.EventFreshness

open Framework Redis ResponseCache

/-! ## Runs -/

/-- A key of one of the two caches. -/
def IsCacheKey (key : String) : Prop := IsSearchKey key ∨ MatchesStar "tm:event:" key

instance (key : String) : Decidable (IsCacheKey key) :=
  inferInstanceAs (Decidable (_ ∨ _))

/-- While a sweep goes on, others do no more to the caches than let keys expire. -/
def Quiet (env : Environment String Store) : Prop :=
  ∀ n s key, IsCacheKey key → env.others n s key = s key ∨ env.others n s key = none

/-- What happens to the caches. -/
inductive Step
  /-- `get_plan` -/
  | getPlan (planId : String)
  /-- Any other call of `_make_request`. -/
  | request (c : RequestCall)
  /-- `handle_plan_updated_webhook` -/
  | webhook (eventId : String) (env : Environment String Store) (rounds : ℕ)
  /-- `invalidate_all_event_cache` -/
  | invalidateAll (env : Environment String Store) (rounds : ℕ)
  /-- `invalidate_event_cache` -/
  | invalidateEvent (eventId : String)
  /-- The lifetime of a key ends. -/
  | expire (key : String)
  /-- Another part of the program sets or deletes a key of its own. -/
  | write (key : String) (entry : Option Entry)

/-- A step with a sweep is quiet if its environment is. -/
def Step.Quiet : Step → Prop
  | .webhook _ env _ | .invalidateAll env _ => EventFreshness.Quiet env
  | _ => True

section Step

variable (lib : TextLibrary) (adapter : HttpAdapter) (provided : Provided)

/-- One step. -/
def step (s : HttpState) : Step → HttpState
  | .getPlan planId => (adapter.getPlan lib planId).after (HttpState.handle provided) s
  | .request c => (adapter.makeRequest lib c).after (HttpState.handle provided) s
  | .webhook eventId env rounds => adapter.handlePlanUpdatedWebhook provided eventId env rounds s
  | .invalidateAll env rounds => adapter.invalidateAllEventCache env rounds s
  | .invalidateEvent eventId =>
    (adapter.invalidateEventCache eventId).after (HttpState.handle provided) s
  | .expire key => { s with redis := Function.update s.redis key none }
  | .write key entry =>
    if IsCacheKey key then s else { s with redis := Function.update s.redis key entry }

end Step

/-- A response with success and this body has been received, not before `lo`. -/
def ReceivedIn (provided : Provided) (lo hi : ℕ) (body : Json) : Prop :=
  ∃ k, lo ≤ k ∧ k < hi ∧ (provided.script k).IsSuccess ∧ (provided.script k).body = some body

lemma ReceivedIn.mono {provided : Provided} {lo lo' hi hi' : ℕ} {body : Json}
    (h : ReceivedIn provided lo hi body) (hlo : lo' ≤ lo) (hhi : hi ≤ hi') :
    ReceivedIn provided lo' hi' body := by
  obtain ⟨k, hlow, hhigh, hbody⟩ := h
  exact ⟨k, hlo.trans hlow, hhigh.trans_le hhi, hbody⟩

/-! ## What the steps are made of -/

section Parts

variable {lib : TextLibrary} {adapter : HttpAdapter} {provided : Provided} {s : HttpState}

/-- Responses are only ever received. -/
lemma received_le_after {α : Type} (provided : Provided) (p : Http α) (s : HttpState) :
    s.received ≤ (p.after (HttpState.handle provided) s).received := by
  refine (p.uses_true).run_frame (R := fun s s' => s.received ≤ s'.received)
    (fun _ => le_rfl) (fun h h' => h.trans h') (fun o s _ => ?_) s
  cases o with
  | request method path params => exact Nat.le_succ _
  | _ => exact le_rfl

/-- What the event cache has for an id. -/
def cachedEvent (adapter : HttpAdapter) (eventId : String) (s : HttpState) :
    Except PyError (Option Json) :=
  if adapter.redis then
    match ((s.redis (eventKey eventId)).map Entry.value).filter Value.truthy with
    | none => .ok none
    | some cached => (jsonLoads cached).map some
  else .ok none

lemma run_getCachedEvent (adapter : HttpAdapter) (provided : Provided) (eventId : String)
    (s : HttpState) :
    (adapter.getCachedEvent eventId).run (HttpState.handle provided) s =
      Prog.ended (cachedEvent adapter eventId s) s := by
  unfold HttpAdapter.getCachedEvent cachedEvent
  by_cases hredis : adapter.redis = true
  · rw [if_pos hredis, if_pos hredis]
    have hget : (Http.redisGet (eventKey eventId)).run (HttpState.handle provided) s =
        .ok ((s.redis (eventKey eventId)).map Entry.value) s := rfl
    rw [Prog.run_bind_ok _ _ hget]
    rcases (s.redis (eventKey eventId)).map Entry.value with _ | cached
    · rfl
    · by_cases htruthy : cached.truthy = true
      · simp only [htruthy, if_true, Option.filter_some]
        cases jsonLoads cached <;> rfl
      · simp only [htruthy, Option.filter_some]
        rfl
  · rw [if_neg hredis, if_neg hredis]
    rfl

/-- An event that is found is loaded from its entry. -/
lemma entry_of_cachedEvent {eventId : String} {event : Json}
    (h : cachedEvent adapter eventId s = .ok (some event)) :
    adapter.redis = true ∧ ∃ entry, s.redis (eventKey eventId) = some entry ∧
      jsonLoads entry.value = .ok event := by
  unfold cachedEvent at h
  split at h
  · next hcaching =>
    split at h
    · cases h
    · next cached hcached =>
      obtain ⟨hmap, -⟩ := Option.filter_eq_some_iff.mp hcached
      obtain ⟨entry, hentry, rfl⟩ := Option.map_eq_some_iff.mp hmap
      refine ⟨hcaching, entry, hentry, ?_⟩
      cases hload : jsonLoads entry.value with
      | error e =>
        rw [hload] at h
        cases h
      | ok loaded =>
        rw [hload] at h
        obtain rfl := Option.some.inj (Except.ok.inj h)
        rfl
  · cases h

/-- The id under which an event is kept, if it is. -/
def labelOf (event : Json) : Option String :=
  match event.getD "id" .null with
  | .ok eventId => if eventId.truthy then some eventId.format else none
  | .error _ => none

/-- The state after `_cache_event`, whether it returns or raises. -/
def cachedAs (adapter : HttpAdapter) (event : Json) (s : HttpState) : HttpState :=
  match adapter.redis, labelOf event with
  | true, some label =>
    { s with redis := Function.update s.redis (eventKey label) (some ⟨.json event, some eventTtl⟩) }
  | _, _ => s

lemma after_cacheEvent (event : Json) (s : HttpState) :
    (adapter.cacheEvent event).after (HttpState.handle provided) s = cachedAs adapter event s := by
  unfold HttpAdapter.cacheEvent cachedAs labelOf
  cases adapter.redis with
  | false => rfl
  | true =>
    rw [if_pos rfl]
    rcases event.getD "id" .null with e | eventId
    · rfl
    · rw [Prog.ofExcept_ok_bind]
      by_cases htruthy : eventId.truthy = true
      · simp only [if_pos htruthy]
        rfl
      · simp only [if_neg htruthy]
        rfl

/-- What `get_plan` leaves when its request has ended. -/
def afterRequest (adapter : HttpAdapter) (outcome : Except PyError Json) (s : HttpState) :
    HttpState :=
  match outcome with
  | .ok event => cachedAs adapter event s
  | .error _ => s

lemma after_usePlan (outcome : Except PyError Json) (s : HttpState) :
    (adapter.usePlan outcome).after (HttpState.handle provided) s =
      afterRequest adapter outcome s := by
  cases outcome with
  | ok event =>
    rw [afterRequest, ← after_cacheEvent ]
    exact Prog.after_bind_pure _ s (adapter.cacheEvent event) fun _ => some event
  | error e =>
    cases e with
    | domain e =>
      show (if e.code = .planNotFound then return none else .raise (.domain e) :
        Http (Option Json)).after _ s = s
      split <;> rfl
    | _ => rfl

/-- Only a request that has brought a document returns one. -/
lemma yields_usePlan (outcome : Except PyError Json) :
    (adapter.usePlan outcome).Yields fun found => ∀ event, found = some event →
      outcome = .ok event := by
  cases outcome with
  | ok response =>
    have hreturn : ∀ _ : Unit, (.pure (some response) : Http (Option Json)).Yields fun found =>
        ∀ event, found = some event → (.ok response : Except PyError Json) = .ok event := by
      rintro - event ⟨⟩
      rfl
    exact Prog.Yields.bind_right hreturn _
  | error e =>
    cases e with
    | domain e =>
      show (if e.code = .planNotFound then return none else .raise (.domain e) :
        Http (Option Json)).Yields _
      split
      · rintro event ⟨⟩
      · trivial
    | _ => trivial

/-- **What `get_plan` does** when the cache has nothing: the request, and then the event it has
brought is cached. -/
lemma fetchPlan_effect (lib : TextLibrary) (adapter : HttpAdapter) (provided : Provided)
    (planId : String) (s : HttpState) :
    let request := adapter.makeRequest lib (HttpAdapter.planCall planId)
    (adapter.fetchPlan lib planId).after (HttpState.handle provided) s =
        afterRequest adapter (request.result (HttpState.handle provided) s)
          (request.after (HttpState.handle provided) s) ∧
      ∀ event, (adapter.fetchPlan lib planId).result (HttpState.handle provided) s =
        .ok (some event) → request.result (HttpState.handle provided) s = .ok event := by
  intro request
  have hrun := Prog.run_attempt (HttpState.handle provided) s request
  refine ⟨?_, fun event hresult => ?_⟩
  · rw [HttpAdapter.fetchPlan, Prog.after_bind_ok _ _ hrun, after_usePlan]
  · rw [HttpAdapter.fetchPlan, Prog.result_bind_ok _ _ hrun] at hresult
    have hyields := (yields_usePlan _).of_run (Prog.run_of_result _ hresult)
    exact hyields event rfl

/-- **What `get_plan` does**: it returns what the event cache has, or does what it does when that
has nothing. -/
lemma getPlan_cases (lib : TextLibrary) (adapter : HttpAdapter) (provided : Provided)
    (planId : String) (s : HttpState) :
    ((adapter.getPlan lib planId).after (HttpState.handle provided) s = s ∧
      ∀ event, (adapter.getPlan lib planId).result (HttpState.handle provided) s =
        .ok (some event) → cachedEvent adapter planId s = .ok (some event)) ∨
    ((adapter.getPlan lib planId).after (HttpState.handle provided) s =
        (adapter.fetchPlan lib planId).after (HttpState.handle provided) s ∧
      (adapter.getPlan lib planId).result (HttpState.handle provided) s =
        (adapter.fetchPlan lib planId).result (HttpState.handle provided) s) := by
  have hrun := run_getCachedEvent adapter provided planId s
  cases hcached : cachedEvent adapter planId s with
  | error e =>
    rw [hcached] at hrun
    have herror : (adapter.getPlan lib planId).run (HttpState.handle provided) s = .error e s :=
      Prog.run_bind_error _ _ hrun
    refine .inl ⟨Prog.after_of_error _ herror, fun event hresult => ?_⟩
    rw [Prog.result, herror] at hresult
    cases hresult
  | ok found =>
    rw [hcached] at hrun
    rw [HttpAdapter.getPlan, Prog.after_bind_ok _ _ hrun, Prog.result_bind_ok _ _ hrun]
    cases found with
    | none => exact .inr ⟨rfl, rfl⟩
    | some event =>
      rw [HttpAdapter.serveOrFetch]
      split
      · refine .inl ⟨rfl, ?_⟩
        rintro _ ⟨⟩
        rfl
      · exact .inr ⟨rfl, rfl⟩

end Parts

/-! ## Steps by which the caches only lose -/

lemma matchesStar_eventKey (eventId : String) : MatchesStar "tm:event:" (eventKey eventId) := by
  rw [eventKey, MatchesStar, String.toList_append]
  exact List.prefix_append _ _

lemma isCacheKey_of_or {key eventId : String} (h : IsSearchKey key ∨ key = eventKey eventId) :
    IsCacheKey key := by
  refine h.imp_right ?_
  rintro rfl
  exact matchesStar_eventKey eventId

/-- Nothing is received, and keys of the caches only disappear. -/
structure Shrinks (s s' : HttpState) : Prop where
  received : s'.received = s.received
  redis : ∀ key, IsCacheKey key → s'.redis key = s.redis key ∨ s'.redis key = none

namespace Shrinks

variable {s s' s'' : HttpState}

lemma refl (s : HttpState) : Shrinks s s := ⟨rfl, fun _ _ => .inl rfl⟩

lemma trans (h : Shrinks s s') (h' : Shrinks s' s'') : Shrinks s s'' := by
  refine ⟨h'.received.trans h.received, fun key hkey => ?_⟩
  rcases h'.redis key hkey with hsame | hgone
  · rw [hsame]
    exact h.redis key hkey
  · exact .inr hgone

/-- An entry that is left was there. -/
lemma of_entry (h : Shrinks s s') {key : String} (hkey : IsCacheKey key) {entry : Entry}
    (hentry : s'.redis key = some entry) : s.redis key = some entry := by
  rcases h.redis key hkey with hsame | hgone
  · rwa [hsame] at hentry
  · rw [hgone] at hentry
    cases hentry

lemma update (s : HttpState) {key : String} {entry : Option Entry}
    (h : IsCacheKey key → entry = none) :
    Shrinks s { s with redis := Function.update s.redis key entry } := by
  refine ⟨rfl, fun key' hkey' => ?_⟩
  rcases eq_or_ne key' key with rfl | hne
  · exact .inr ((Function.update_self ..).trans (h hkey'))
  · exact .inl (Function.update_of_ne hne ..)

/-- A sweep while others are quiet. -/
lemma sweepStore {env : Environment String Store} (henv : Quiet env) (rounds : ℕ)
    (s : HttpState) : Shrinks s { s with redis := sweepStore env rounds s.redis } := by
  refine ⟨rfl, fun key hkey => ?_⟩
  let Loses : Store × ℕ → Store × ℕ → Prop := fun t t' => t'.1 key = t.1 key ∨ t'.1 key = none
  have htrans : ∀ {t t' t'' : Store × ℕ}, Loses t t' → Loses t' t'' → Loses t t'' := by
    rintro t t' t'' h (hsame | hgone)
    · exact h.imp hsame.trans hsame.trans
    · exact .inr hgone
  refine (Prog.uses_true _).run_frame (R := Loses) (fun _ => .inl rfl) htrans ?_ (s.redis, 0)
  rintro (cursor | keys) ⟨store, time⟩ -
  · exact henv time store key hkey
  · show (env.others time store).dropAll keys key = _ ∨ (env.others time store).dropAll keys key = _
    unfold Store.dropAll
    split
    · exact .inr rfl
    · exact henv time store key hkey

/-- `invalidate_event_cache` -/
lemma invalidateEvent (adapter : HttpAdapter) (provided : Provided) (eventId : String)
    (s : HttpState) :
    Shrinks s ((adapter.invalidateEventCache eventId).after (HttpState.handle provided) s) := by
  unfold HttpAdapter.invalidateEventCache
  split
  · exact update s fun _ => rfl
  · exact refl s

/-- `handle_plan_updated_webhook` -/
lemma webhook (adapter : HttpAdapter) (provided : Provided) (eventId : String)
    {env : Environment String Store} (henv : Quiet env) (rounds : ℕ) (s : HttpState) :
    Shrinks s (adapter.handlePlanUpdatedWebhook provided eventId env rounds s) := by
  have hevent := invalidateEvent adapter provided eventId s
  unfold HttpAdapter.handlePlanUpdatedWebhook
  split
  · exact hevent.trans (sweepStore henv rounds _)
  · exact hevent

end Shrinks

/-- **Every other step than a call** only takes entries from the caches. -/
lemma step_cases (lib : TextLibrary) (adapter : HttpAdapter) (provided : Provided) (s : HttpState)
    {a : Step} (hquiet : a.Quiet) :
    (∃ planId, a = .getPlan planId) ∨ (∃ c, a = .request c) ∨
      Shrinks s (step lib adapter provided s a) := by
  refine or_assoc.mp (or_iff_not_imp_left.mpr fun hcall => ?_)
  cases a with
  | getPlan planId => exact (hcall (.inl ⟨planId, rfl⟩)).elim
  | request c => exact (hcall (.inr ⟨c, rfl⟩)).elim
  | webhook eventId env rounds => exact .webhook adapter provided eventId hquiet rounds s
  | invalidateAll env rounds =>
    rw [step, HttpAdapter.invalidateAllEventCache]
    split
    · exact .sweepStore hquiet rounds s
    · exact .refl s
  | invalidateEvent eventId => exact .invalidateEvent adapter provided eventId s
  | expire key => exact .update s fun _ => rfl
  | write key entry =>
    rw [step]
    split
    · exact .refl s
    · next hother => exact .update s fun hkey => (hother hkey).elim

/-! ### A scan with one batch -/

/-- Others do something, and the scan finds one key. -/
def oneBatch (others : Store → Store) (key : String) : Environment String Store :=
  ⟨fun _ => others, fun _ _ _ => (0, [key])⟩

/-- That is as promised if there is no other key that matches. -/
lemma sweepComplete_oneBatch {others : Store → Store} {start key : String} {s : Store}
    (hkey : MatchesStar start key) (honly : ∀ k, MatchesStar start k → k ≠ key → s k = none) :
    SweepComplete (oneBatch others key) start 1 s := by
  let first : (o : SweepOp String) × o.Reply := ⟨.scan 0, (0, [key])⟩
  let second : (o : SweepOp String) × o.Reply := ⟨.delete [key], ()⟩
  have htrace : (sweep 1 0 : Prog (sweeping String) PyError Bool).trace
      ((oneBatch others key).handle fun keys s => s.dropAll keys) (s, 0) = [first, second] := rfl
  refine ⟨fun e he k hk => ?_, fun _ k hmatches _ hthere => ?_⟩
  · rw [htrace, List.mem_pair] at he
    rcases he with rfl | rfl
    · obtain rfl := List.mem_singleton.mp hk
      exact hkey
    · cases hk
  · rw [htrace]
    refine ⟨first, List.mem_cons_self, List.mem_singleton.mpr ?_⟩
    by_contra hother
    exact hthere 0 (honly k hmatches hother)

end TicketGenius.EventFreshness
