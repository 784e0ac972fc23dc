import TicketGenius.Adapters.CacheKey
import TicketGenius.Framework.Run

/-!
# What the response cache serves

Calls of `_make_request` follow one another, and in between entries of the cache expire or are
invalidated, and other parts of the program write under their own keys.  No failure is ever cached
or served: a call sends at most three requests, writes at most the body of a response with success
to a `GET` of its own, and returns a body that it got itself or that an earlier call got and left
there for the same request (`honest`).

The invariant is `Sourced`: every entry under a search key was left by an earlier call, and that key
has not been forgotten since.
-/

namespace TicketGenius.ResponseCache

open Framework

/-! ## Runs -/

/-- What happens to the cache. -/
inductive Step
  /-- `_make_request` is called. -/
  | call (c : RequestCall)
  /-- The lifetime of a key ends, or the key is invalidated. -/
  | forget (key : String)
  /-- Another part of the program sets or deletes a key of its own. -/
  | write (key : String) (entry : Option Redis.Entry)

/-- A key of the response cache. -/
def IsSearchKey (key : String) : Prop := "tm:search:".toList <+: key.toList

instance (key : String) : Decidable (IsSearchKey key) :=
  inferInstanceAs (Decidable (_ <+: _))

section Property

variable (lib : TextLibrary) (adapter : HttpAdapter) (provided : Provided)

/-- One step. -/
def step (s : HttpState) : Step → HttpState
  | .call c => (adapter.makeRequest lib c).after (HttpState.handle provided) s
  | .forget key => { s with redis := Function.update s.redis key none }
  | .write key entry =>
    if IsSearchKey key then s else { s with redis := Function.update s.redis key entry }

variable (start : HttpState) (steps : List Step)

/-- The state before the step at `i`. -/
def stateAt (i : ℕ) : HttpState := run (step lib adapter provided) start (steps.take i)

/-- The key under which a call looks and writes. -/
def keyOf (c : RequestCall) : String := lib.cacheKey c.method c.path (adapter.sentParams c)

/-- The step at `i` receives a response with success and this body. -/
def Received (i : ℕ) (body : Json) : Prop :=
  ∃ k, (stateAt lib adapter provided start steps i).received ≤ k ∧
    k < (stateAt lib adapter provided start steps (i + 1)).received ∧
    (provided.script k).IsSuccess ∧ (provided.script k).body = some body

/-- The store of the step after `i` is that before, with the body under the key of the call. -/
def Writes (i : ℕ) (c : RequestCall) (body : Json) : Prop :=
  (stateAt lib adapter provided start steps (i + 1)).redis =
    Function.update (stateAt lib adapter provided start steps i).redis (keyOf lib adapter c)
      (some ⟨.json body, some searchTtl⟩)

/-- The step at `i` is a `GET` that receives the body with success and stores it. -/
structure Stored (i : ℕ) (c : RequestCall) (body : Json) : Prop where
  called : steps[i]? = some (.call c)
  get : c.method = "GET"
  useCache : c.useCache = true
  received : Received lib adapter provided start steps i body
  writes : Writes lib adapter provided start steps i c body

/-- The key is not forgotten by a step between two others. -/
def Kept (key : String) (j i : ℕ) : Prop := ∀ k, j < k → k < i → steps[k]? ≠ some (.forget key)

/-- The same method, path and parameters, up to their order and the api key. -/
structure SameRequest (c c' : RequestCall) : Prop where
  method : c.method = c'.method
  path : c.path = c'.path
  params : c.params.Same c'.params

/-- **No failure is cached or served.** -/
structure Honest : Prop where
  bounded : ∀ i c, steps[i]? = some (.call c) →
    (stateAt lib adapter provided start steps (i + 1)).received ≤
      (stateAt lib adapter provided start steps i).received + 3
  asked : ∀ i c, steps[i]? = some (.call c) → ∀ event ∈ (adapter.makeRequest lib c).trace
      (HttpState.handle provided) (stateAt lib adapter provided start steps i),
    ∀ method path params, event.1 = .request method path params →
      method = c.method ∧ path = c.path ∧ params = adapter.sentParams c
  written : ∀ i c, steps[i]? = some (.call c) →
    (stateAt lib adapter provided start steps (i + 1)).redis =
        (stateAt lib adapter provided start steps i).redis ∨
      ∃ body, Stored lib adapter provided start steps i c body
  returned : ∀ i c body, steps[i]? = some (.call c) →
    (adapter.makeRequest lib c).result (HttpState.handle provided)
        (stateAt lib adapter provided start steps i) = .ok body →
      Received lib adapter provided start steps i body ∨
        ∃ j < i, ∃ c', SameRequest c' c ∧ Stored lib adapter provided start steps j c' body ∧
          Kept steps (keyOf lib adapter c) j i

/-- The digests of the texts that are hashed in the run collide nowhere. -/
def CollisionFree : Prop :=
  ∀ c c', .call c ∈ steps → .call c' ∈ steps → keyOf lib adapter c = keyOf lib adapter c' →
    keyText c.method c.path (adapter.sentParams c) =
      keyText c'.method c'.path (adapter.sentParams c')

/-- Every entry of the cache was left by an earlier call, and its key not forgotten since. -/
def Sourced (i : ℕ) : Prop :=
  ∀ key entry, IsSearchKey key →
    (stateAt lib adapter provided start steps i).redis key = some entry →
    ∃ j < i, ∃ c body, Stored lib adapter provided start steps j c body ∧
      keyOf lib adapter c = key ∧ entry = ⟨.json body, some searchTtl⟩ ∧ Kept steps key j i

end Property

/-! ## One call -/

section Call

variable {lib : TextLibrary} {adapter : HttpAdapter} {provided : Provided} {c : RequestCall}
  {s : HttpState}

/-- What a call leaves that goes out. -/
structure Fetches (lib : TextLibrary) (adapter : HttpAdapter) (provided : Provided)
    (c : RequestCall) (s s' : HttpState) : Prop where
  bounded : s'.received ≤ s.received + 3
  source : ∀ body, HttpAdapter.fetched lib provided s = .ok body →
    ∃ k, s.received ≤ k ∧ k < s'.received ∧ (provided.script k).IsSuccess ∧
      (provided.script k).body = some body
  store : s'.redis = s.redis ∨ ∃ body, HttpAdapter.fetched lib provided s = .ok body ∧
    c.method = "GET" ∧ c.useCache = true ∧
      s'.redis = Function.update s.redis (keyOf lib adapter c) (some ⟨.json body, some searchTtl⟩)

/-- The key under which a call looks, if it does. -/
lemma cacheKeyOf_eq_some {key : String} (h : adapter.cacheKeyOf lib c = some key) :
    key = keyOf lib adapter c ∧ c.useCache = true := by
  unfold HttpAdapter.cacheKeyOf at h
  split at h
  · next hcaching =>
    rw [Bool.and_eq_true] at hcaching
    exact ⟨(Option.some.inj h).symm, hcaching.1⟩
  · cases h

lemma received_remember (outcome : Except PyError Json) :
    (adapter.remember lib c outcome s).received = s.received := by
  unfold HttpAdapter.remember
  split
  · unfold HttpAdapter.cached
    split
    · split <;> rfl
    · rfl
  · rfl

/-- What is remembered is a body, under the key of the call. -/
lemma redis_remember (outcome : Except PyError Json) :
    (adapter.remember lib c outcome s).redis = s.redis ∨
      ∃ body, outcome = .ok body ∧ c.method = "GET" ∧ c.useCache = true ∧
        (adapter.remember lib c outcome s).redis =
          Function.update s.redis (keyOf lib adapter c) (some ⟨.json body, some searchTtl⟩) := by
  cases outcome with
  | error e => exact .inl rfl
  | ok body =>
    rw [HttpAdapter.remember, HttpAdapter.cached]
    cases hkey : adapter.cacheKeyOf lib c with
    | none => exact .inl rfl
    | some key =>
      obtain ⟨rfl, huse⟩ := cacheKeyOf_eq_some hkey
      by_cases hget : c.method = "GET"
      · refine .inr ⟨body, rfl, hget, huse, ?_⟩
        simp only [if_pos hget]
      · refine .inl ?_
        simp only [if_neg hget]

lemma fetches_afterFetch (lib : TextLibrary) (adapter : HttpAdapter) (provided : Provided)
    (c : RequestCall) (s : HttpState) :
    Fetches lib adapter provided c s (adapter.afterFetch lib provided c s) := by
  have hreceived : (adapter.afterFetch lib provided c s).received = s.received +
      (lib.answer provided.script s.received (List.range maxRetries)).1 := by
    rw [HttpAdapter.afterFetch, received_remember]
  refine ⟨?_, ?_, ?_⟩
  · have hle := lib.answer_le provided.script s.received (List.range maxRetries)
    have hmax : (List.range maxRetries).length = 3 := rfl
    omega
  · intro body hbody
    rw [hreceived]
    exact lib.answer_ok hbody
  · exact redis_remember _

/-- **What a call does**: it serves what the cache has, or goes out. -/
theorem call_cases (lib : TextLibrary) (adapter : HttpAdapter) (provided : Provided)
    (c : RequestCall) (s : HttpState) :
    (∃ value, adapter.hit lib c s = some value ∧
      (adapter.makeRequest lib c).after (HttpState.handle provided) s = s ∧
      (adapter.makeRequest lib c).result (HttpState.handle provided) s = jsonLoads value) ∨
    (Fetches lib adapter provided c s
        ((adapter.makeRequest lib c).after (HttpState.handle provided) s) ∧
      (adapter.makeRequest lib c).result (HttpState.handle provided) s =
        HttpAdapter.fetched lib provided s) := by
  cases hhit : adapter.hit lib c s with
  | some value =>
    have hrun := adapter.run_of_hit lib provided c hhit
    exact .inl ⟨value, rfl, Prog.after_of_ended _ hrun, Prog.result_of_ended _ hrun⟩
  | none =>
    have hrun := adapter.run_of_miss lib provided c hhit
    rw [Prog.after_of_ended _ hrun, Prog.result_of_ended _ hrun]
    exact .inr ⟨fetches_afterFetch lib adapter provided c s, rfl⟩

/-- A document that is served lies under the key of the call. -/
lemma entry_of_hit {value : Redis.Value} (h : adapter.hit lib c s = some value) :
    ∃ entry, s.redis (keyOf lib adapter c) = some entry ∧ entry.value = value := by
  unfold HttpAdapter.hit at h
  split at h
  · next key hkey =>
    obtain ⟨rfl, -⟩ := cacheKeyOf_eq_some hkey
    obtain ⟨hvalue, -⟩ := Option.filter_eq_some_iff.mp h
    exact Option.map_eq_some_iff.mp hvalue
  · cases h

/-! ### What a call asks for -/

/-- A request with the method, the path and the parameters of the call, or no request. -/
def AsksFor (adapter : HttpAdapter) (c : RequestCall) (o : HttpOp) : Prop :=
  ∀ method path params, o = .request method path params →
    method = c.method ∧ path = c.path ∧ params = adapter.sentParams c

lemma uses_sleep (seconds : ℚ) : (Http.sleep seconds).Uses (AsksFor adapter c) := by
  unfold Http.sleep
  split
  · trivial
  · refine ⟨?_, fun _ => trivial⟩
    rintro _ _ _ ⟨⟩

lemma uses_cacheResponse (body : Json) :
    (adapter.cacheResponse lib c body).Uses (AsksFor adapter c) := by
  unfold HttpAdapter.cacheResponse
  split
  · split
    · refine ⟨?_, fun _ => trivial⟩
      rintro _ _ _ ⟨⟩
    · trivial
  · trivial

lemma uses_useResponse {again : Http Json} (hagain : again.Uses (AsksFor adapter c))
    (attempt : ℕ) (response : Response) :
    (adapter.useResponse lib c attempt response again).Uses (AsksFor adapter c) := by
  have hsleep : ∀ seconds, (Http.sleep seconds >>= fun _ => again).Uses (AsksFor adapter c) :=
    fun seconds => (uses_sleep seconds).bind fun _ => hagain
  unfold HttpAdapter.useResponse
  split
  · exact (Prog.uses_ofExcept _).bind fun _ => hsleep _
  · split
    · exact hsleep _
    · split
      · exact (Prog.uses_ofExcept _).bind fun body =>
          (uses_cacheResponse body).bind fun _ => trivial
      · split
        · split
          · exact hsleep _
          · trivial
        · trivial

lemma uses_attemptRequests (attempts : List ℕ) :
    (adapter.attemptRequests lib c attempts).Uses (AsksFor adapter c) := by
  induction attempts with
  | nil => trivial
  | cons attempt attempts ih =>
    refine Prog.Uses.bind (p := Http.request c.method c.path (adapter.sentParams c)) ?_ ?_
    · refine ⟨?_, fun _ => trivial⟩
      rintro _ _ _ ⟨⟩
      exact ⟨rfl, rfl, rfl⟩
    · exact fun response => uses_useResponse ih attempt response

lemma uses_fetch : (adapter.fetch lib c).Uses (AsksFor adapter c) := by
  refine Prog.Uses.bind (p := Http.consume) ⟨?_, fun _ => trivial⟩ fun waitTime => ?_
  · rintro _ _ _ ⟨⟩
  · split
    · exact (uses_sleep _).bind fun _ => uses_attemptRequests _
    · exact uses_attemptRequests _

/-- **A call asks for its own method, path and parameters.** -/
theorem uses_makeRequest : (adapter.makeRequest lib c).Uses (AsksFor adapter c) := by
  unfold HttpAdapter.makeRequest
  split
  · exact uses_fetch
  · next key _ =>
    refine Prog.Uses.bind (p := Http.redisGet key) ⟨?_, fun _ => trivial⟩ fun found => ?_
    · rintro _ _ _ ⟨⟩
    · split
      · exact uses_fetch
      · split
        · exact Prog.uses_ofExcept _
        · exact uses_fetch

end Call

/-! ## A run -/

section Run

variable (lib : TextLibrary) (adapter : HttpAdapter) (provided : Provided) (start : HttpState)
  {steps : List Step} {i : ℕ} {c : RequestCall}

lemma stateAt_succ {a : Step} (h : steps[i]? = some a) :
    stateAt lib adapter provided start steps (i + 1) =
      step lib adapter provided (stateAt lib adapter provided start steps i) a := by
  rw [stateAt, List.take_add_one, h, run_append]
  rfl

/-- After the last step nothing happens. -/
lemma stateAt_succ_of_none (h : steps[i]? = none) :
    stateAt lib adapter provided start steps (i + 1) =
      stateAt lib adapter provided start steps i := by
  rw [stateAt, List.take_add_one, h, Option.toList_none, List.append_nil, stateAt]

lemma redis_forget (s : HttpState) (key : String) :
    (step lib adapter provided s (.forget key)).redis = Function.update s.redis key none := rfl

/-- The other parts of the program leave the cache alone. -/
lemma redis_write (s : HttpState) {key key' : String} (hkey : IsSearchKey key)
    (entry : Option Redis.Entry) :
    (step lib adapter provided s (.write key' entry)).redis key = s.redis key := by
  by_cases hsearch : IsSearchKey key'
  · rw [step, if_pos hsearch]
  · have hne : key ≠ key' := by
      rintro rfl
      exact hsearch hkey
    rw [step, if_neg hsearch]
    exact Function.update_of_ne hne ..

lemma isSearchKey_keyOf (c : RequestCall) : IsSearchKey (keyOf lib adapter c) := by
  rw [IsSearchKey, keyOf, TextLibrary.cacheKey, String.toList_append]
  exact List.prefix_append _ _

variable {lib adapter provided start}

/-- A step that is a call. -/
lemma call_step (h : steps[i]? = some (.call c)) :
    (∃ value, adapter.hit lib c (stateAt lib adapter provided start steps i) = some value ∧
      stateAt lib adapter provided start steps (i + 1) =
        stateAt lib adapter provided start steps i ∧
      (adapter.makeRequest lib c).result (HttpState.handle provided)
        (stateAt lib adapter provided start steps i) = jsonLoads value) ∨
    (Fetches lib adapter provided c (stateAt lib adapter provided start steps i)
        (stateAt lib adapter provided start steps (i + 1)) ∧
      (adapter.makeRequest lib c).result (HttpState.handle provided)
        (stateAt lib adapter provided start steps i) =
          HttpAdapter.fetched lib provided (stateAt lib adapter provided start steps i)) := by
  rw [stateAt_succ lib adapter provided start h]
  exact call_cases lib adapter provided c _

/-- What a call does to the store. -/
lemma redis_call (h : steps[i]? = some (.call c)) :
    (stateAt lib adapter provided start steps (i + 1)).redis =
        (stateAt lib adapter provided start steps i).redis ∨
      ∃ body, Stored lib adapter provided start steps i c body := by
  rcases call_step h with ⟨value, -, hsame, -⟩ | ⟨hfetches, -⟩
  · exact .inl (by rw [hsame])
  · rcases hfetches.store with hsame | ⟨body, hbody, hget, huse, hwrites⟩
    · exact .inl hsame
    · exact .inr ⟨body, h, hget, huse, hfetches.source body hbody, hwrites⟩

lemma Kept.succ {key : String} {j : ℕ} (h : Kept steps key j i)
    (hstep : steps[i]? ≠ some (.forget key)) : Kept steps key j (i + 1) := by
  intro k hj hk
  rcases Nat.lt_succ_iff_lt_or_eq.mp hk with hlt | rfl
  · exact h k hj hlt
  · exact hstep

lemma kept_self (key : String) : Kept steps key i (i + 1) := by
  intro k hi hk
  omega

/-- An entry that a step leaves alone stays sourced. -/
lemma Sourced.keep (h : Sourced lib adapter provided start steps i) {key : String}
    {entry : Redis.Entry} (hkey : IsSearchKey key)
    (hsame : (stateAt lib adapter provided start steps i).redis key = some entry)
    (hstep : steps[i]? ≠ some (.forget key)) :
    ∃ j < i + 1, ∃ c body, Stored lib adapter provided start steps j c body ∧
      keyOf lib adapter c = key ∧ entry = ⟨.json body, some searchTtl⟩ ∧
        Kept steps key j (i + 1) := by
  obtain ⟨j, hj, c, body, hstored, hof, hentry, hkept⟩ := h key entry hkey hsame
  exact ⟨j, by omega, c, body, hstored, hof, hentry, hkept.succ hstep⟩

/-- **One step** keeps every entry sourced. -/
lemma Sourced.succ (h : Sourced lib adapter provided start steps i) :
    Sourced lib adapter provided start steps (i + 1) := by
  intro key entry hkey hentry
  cases hstep : steps[i]? with
  | none =>
    rw [stateAt_succ_of_none lib adapter provided start hstep] at hentry
    exact h.keep hkey hentry (by simp [hstep])
  | some a =>
    cases a with
    | call c =>
      rcases redis_call hstep with hsame | ⟨body, hstored⟩
      · rw [hsame] at hentry
        exact h.keep hkey hentry (by simp [hstep])
      · rw [hstored.writes] at hentry
        by_cases hown : key = keyOf lib adapter c
        · subst hown
          rw [Function.update_self] at hentry
          exact ⟨i, by omega, c, body, hstored, rfl, (Option.some.inj hentry).symm, kept_self _⟩
        · rw [Function.update_of_ne hown] at hentry
          exact h.keep hkey hentry (by simp [hstep])
    | forget key' =>
      rw [stateAt_succ lib adapter provided start hstep, redis_forget] at hentry
      by_cases hown : key = key'
      · subst hown
        simp at hentry
      · rw [Function.update_of_ne hown] at hentry
        exact h.keep hkey hentry (by simpa [hstep] using Ne.symm hown)
    | write key' entry' =>
      rw [stateAt_succ lib adapter provided start hstep,
        redis_write lib adapter provided _ hkey] at hentry
      exact h.keep hkey hentry (by simp [hstep])

/-- **Every run** keeps every entry sourced. -/
theorem sourced (hempty : ∀ key, IsSearchKey key → start.redis key = none) (i : ℕ) :
    Sourced lib adapter provided start steps i := by
  induction i with
  | zero =>
    intro key entry hkey hentry
    rw [stateAt, List.take_zero, run_nil, hempty key hkey] at hentry
    cases hentry
  | succ i ih => exact ih.succ

/-- One key stands for one request. -/
lemma sameRequest_of_keyOf {c c' : RequestCall} (hfree : CollisionFree lib adapter steps)
    (hc : .call c ∈ steps) (hc' : .call c' ∈ steps) (hmethod : ':' ∉ c.method.toList)
    (hmethod' : ':' ∉ c'.method.toList) (h : keyOf lib adapter c = keyOf lib adapter c') :
    SameRequest c c' := by
  obtain ⟨hm, hp, hsame⟩ := (keyText_eq_iff hmethod hmethod').mp (hfree c c' hc hc' h)
  exact ⟨hm, hp, (Params.same_set_apikey _).mp hsame⟩

end Run

/-- **The cache is honest**, in every run that starts without entries in it. -/
theorem honest (lib : TextLibrary) (adapter : HttpAdapter) (provided : Provided)
    (start : HttpState) (steps : List Step)
    (hempty : ∀ key, IsSearchKey key → start.redis key = none)
    (hmethods : ∀ c, .call c ∈ steps → ':' ∉ c.method.toList)
    (hfree : CollisionFree lib adapter steps) : Honest lib adapter provided start steps where
  bounded := by
    intro i c hstep
    rcases call_step hstep with ⟨value, -, hsame, -⟩ | ⟨hfetches, -⟩
    · rw [hsame]
      omega
    · exact hfetches.bounded
  asked := by
    intro i c hstep event hevent
    exact uses_makeRequest.of_mem_trace _ _ hevent
  written := fun i c hstep => redis_call hstep
  returned := by
    intro i c body hstep hresult
    rcases call_step hstep with ⟨value, hhit, -, hserved⟩ | ⟨hfetches, hfetched⟩
    · rw [hserved] at hresult
      obtain ⟨entry, hentry, hvalue⟩ := entry_of_hit hhit
      obtain ⟨j, hj, c', body', hstored, hkey, hof, hkept⟩ :=
        sourced hempty i _ entry (isSearchKey_keyOf lib adapter c) hentry
      subst hof
      subst hvalue
      obtain rfl : body' = body := Except.ok.inj hresult
      have hc := List.mem_of_getElem? hstep
      have hc' := List.mem_of_getElem? hstored.called
      exact .inr ⟨j, hj, c', sameRequest_of_keyOf hfree hc' hc (hmethods c' hc') (hmethods c hc)
        hkey, hstored, hkept⟩
    · rw [hfetched] at hresult
      exact .inl (hfetches.source body hresult)

/-! ### A page twice -/

/-- A page of events. -/
def page (number : ℤ) : RequestCall :=
  ⟨"GET", "/e", ⟨[("page", .int number)], by simp⟩, true⟩

/-- Two pages, the first once more, and once more when its key is gone. -/
def steps : List Step :=
  [.call (page 0), .call (page 1), .call (page 0),
    .forget (keyOf .sample ⟨"client", true⟩ (page 0)), .call (page 0)]

/-- The provider counts its responses. -/
def counting : Provided :=
  ⟨fun _ => 0, fun i => ⟨200, none, some (.int i), ""⟩⟩

/-- Without the api key one parameter is left, whatever the order was. -/
lemma normalized_page (number : ℤ) :
    (HttpAdapter.sentParams ⟨"client", true⟩ (page number)).normalized =
      [("page", (Json.int number).format)] := by
  have hsorted := List.mergeSort_perm
    (HttpAdapter.sentParams ⟨"client", true⟩ (page number)).items fun a b => a.1 ≤ b.1
  have hkept := hsorted.filter fun kv : String × Json => kv.1 != "apikey"
  have hperm := hkept.map fun kv : String × Json => (kv.1, kv.2.format)
  exact List.perm_singleton.mp hperm

lemma keyText_page (number : ℤ) :
    keyText "GET" "/e" (HttpAdapter.sentParams ⟨"client", true⟩ (page number)) =
      "GET:/e:" ++ urlencode [("page", (Json.int number).format)] := by
  rw [keyText, normalized_page]
  rfl

/-- The keys of the two pages differ. -/
lemma keyOf_page_ne :
    keyOf .sample ⟨"client", true⟩ (page 0) ≠ keyOf .sample ⟨"client", true⟩ (page 1) := by
  have hkey : ∀ number : ℤ, keyOf .sample ⟨"client", true⟩ (page number) =
      "tm:search:" ++ slice 32 (TextLibrary.sample.sha256
        ("GET:/e:" ++ urlencode [("page", (Json.int number).format)])) :=
    fun number => congrArg (fun text => "tm:search:" ++ slice 32 (TextLibrary.sample.sha256 text))
      (keyText_page number)
  rw [hkey, hkey]
  decide +kernel

theorem pages_honest : Honest .sample ⟨"client", true⟩ counting
    ⟨fun _ => none, .make 5 5 0, 0, 0⟩ steps := by
  have hpage : ∀ c, .call c ∈ steps → c = page 0 ∨ c = page 1 := by
    intro c hc
    simpa [steps, or_comm] using hc
  refine honest _ _ _ _ _ (fun _ _ => rfl) ?_ ?_
  · intro c hc
    rcases hpage c hc with rfl | rfl <;> decide
  · intro c c' hc hc' hkey
    rcases hpage c hc with rfl | rfl <;> rcases hpage c' hc' with rfl | rfl
    · rfl
    · exact absurd hkey keyOf_page_ne
    · exact absurd hkey.symm keyOf_page_ne
    · rfl

end TicketGenius.ResponseCache
