import TicketGenius.Adapters.Redis
import TicketGenius.Adapters.TokenBucket
import TicketGenius.Domain.Exceptions
import TicketGenius.Framework.Program
import TicketGenius.Language.UrlEncode
import Mathlib.Data.String.Basic
import Mathlib.Tactic.Positivity

/-!
# Requests to the provider

`_make_request` of `adapters/ticketmaster.py`, with its cache, its rate limiter and its retries.
The access token is valid and the transport does not fail, so every request gets a response.

`answer` is what three attempts make of the responses, without the effects.  A call serves what the
cache has for it (`run_of_hit`), and otherwise does what `answer` says (`run_of_miss`).
-/

namespace TicketGenius

open Framework

/-! ## Parameters -/

/-- The parameters of a request: a dict, so no name occurs twice. -/
structure Params where
  items : Dict Json
  nodup : (items.map Prod.fst).Nodup

namespace Params

/-- `params or {}` -/
def empty : Params := ⟨[], List.nodup_nil⟩

lemma nodup_set {d : Dict Json} (h : (d.map Prod.fst).Nodup) (name : String) (value : Json) :
    ((d.set name value).map Prod.fst).Nodup := by
  unfold Dict.set
  by_cases hany : d.any (·.1 == name) = true
  · have hnames : (d.map fun kv => if kv.1 == name then (name, value) else kv).map Prod.fst =
        d.map Prod.fst := by
      rw [List.map_map]
      refine List.map_congr_left fun kv _ => ?_
      by_cases hkv : kv.1 = name
      · simp [hkv]
      · simp [hkv]
    rw [if_pos hany, hnames]
    exact h
  · rw [if_neg hany, List.map_append, List.nodup_append]
    refine ⟨h, by simp, ?_⟩
    intro key hkey key' hkey' heq
    simp only [List.map_cons, List.map_nil, List.mem_singleton] at hkey'
    obtain ⟨kv, hkv, rfl⟩ := List.mem_map.mp hkey
    rw [hkey'] at heq
    exact hany (List.any_eq_true.mpr ⟨kv, hkv, beq_iff_eq.mpr heq⟩)

/-- `params[name] = value` -/
def set (self : Params) (name : String) (value : Json) : Params :=
  ⟨self.items.set name value, nodup_set self.nodup name value⟩

/-- `{k: v for k, v in sorted(params.items()) if k != "apikey"}`, with the values as `urlencode`
renders them.  No two names are equal, so the values are never compared. -/
def normalized (self : Params) : List (String × String) :=
  ((self.items.mergeSort fun a b => a.1 ≤ b.1).filter (·.1 != "apikey")).map
    fun (name, value) => (name, value.format)

end Params

/-! ## Responses -/

/-- A response of the provider. -/
structure Response where
  status : ℕ
  /-- The header `Retry-After`. -/
  retryAfter : Option String
  /-- The body, if it is a JSON document. -/
  body : Option Json
  /-- The text of the `HTTPStatusError` of a response without success. -/
  errorText : String

namespace Response

/-- `raise_for_status()` does not raise. -/
def IsSuccess (self : Response) : Prop := 200 ≤ self.status ∧ self.status ≤ 299

instance (self : Response) : Decidable self.IsSuccess :=
  inferInstanceAs (Decidable (_ ∧ _))

/-- `response.json()` -/
def json (self : Response) : Except PyError Json :=
  match self.body with
  | some body => .ok body
  | none => .error .jsonDecodeError

end Response

/-- What the standard library makes of a text: `int(text)` and
`hashlib.sha256(text.encode()).hexdigest()`. -/
structure TextLibrary where
  int : String → Except PyError ℤ
  sha256 : String → String

/-- The library on the texts that occur in examples: the default of the header, and some requests
with their digests. -/
def TextLibrary.sample : TextLibrary where
  int text := if text = "60" then .ok 60 else .error (.valueError "invalid literal for int()")
  sha256
    | "GET:/events.json:page=0&size=20" =>
      "c00b4a1e5dff1be05504efb6d0a1e1ddfc0f25729ac9999194898f51b0fbaa71"
    | "GET:/e:page=0" =>
      "5ae8f5cc3a9c35fd3a51f1e9b5042acda89fa24615e3e6fd02b21b1b74e39bf1"
    | "GET:/e:page=1" =>
      "eafab6f3a042f38501b29741f7977e777ca123800fe6e2509633b3ff0eb4bcc8"
    | "GET:/events/G5v.json:" =>
      "a5df7de1c696b00d4b90e29d6d0d4c5b5f58ea83c4d11e0cf37010f6312ee320"
    | "GET:/events/K8x.json:" =>
      "5123657085cab45853a5e07808a90ff89e520df7548117ab5af1c3d39f6fbd5d"
    | text => text

/-- `int(response.headers.get("Retry-After", "60"))` -/
def TextLibrary.retryAfter (lib : TextLibrary) (response : Response) : Except PyError ℤ :=
  lib.int (response.retryAfter.getD "60")

/-! ## Operations -/

/-- The operations of a request. -/
inductive HttpOp
  /-- A command to Redis. -/
  | redis (c : Redis.Command)
  /-- `self._rate_limiter.consume()` -/
  | consume
  /-- `time.sleep(seconds)`, for a number that is not negative. -/
  | sleep (seconds : ℚ)
  /-- `self._http_client.request(method, path, params=params, …)` -/
  | request (method path : String) (params : Params)

/-- What an operation returns. -/
@[reducible]
def HttpOp.Reply : HttpOp → Type
  | .redis c => c.Reply
  | .consume => ℚ
  | .sleep _ => Unit
  | .request .. => Response

/-- The signature of a request. -/
@[reducible]
def requesting : Signature := ⟨HttpOp, HttpOp.Reply⟩

abbrev Http (α : Type) : Type := Prog requesting PyError α

/-- What a request works on, with how often the clock has been read and a response received. -/
structure HttpState where
  redis : Redis.Store
  bucket : TokenBucket
  readings : ℕ
  received : ℕ

/-- What is outside: the readings of the clock, and the responses. -/
structure Provided where
  clock : ℕ → ℚ
  script : ℕ → Response

/-- What an operation does. -/
def HttpState.handle (provided : Provided) : Handler requesting HttpState
  | .redis c, s => ((Redis.execute c s.redis).1, { s with redis := (Redis.execute c s.redis).2 })
  | .consume, s =>
    let (wait, bucket) := s.bucket.consume (provided.clock s.readings) 1
    (wait, { s with bucket := bucket, readings := s.readings + 1 })
  | .sleep _, s => ((), s)
  | .request .., s => (provided.script s.received, { s with received := s.received + 1 })

namespace Http

def redisGet (key : String) : Http (Option Redis.Value) :=
  Prog.perform (S := requesting) (HttpOp.redis (.get key))

def redisSetex (key : String) (ttl : ℕ) (value : Redis.Value) : Http Unit :=
  Prog.perform (S := requesting) (HttpOp.redis (.setex key ttl value))

def consume : Http ℚ := Prog.perform (S := requesting) HttpOp.consume

/-- `time.sleep(seconds)` -/
def sleep (seconds : ℚ) : Http Unit :=
  if seconds < 0 then .raise (.valueError "sleep length must be non-negative")
  else Prog.perform (S := requesting) (HttpOp.sleep seconds)

def request (method path : String) (params : Params) : Http Response :=
  Prog.perform (S := requesting) (HttpOp.request method path params)

end Http

/-! ## The adapter -/

/-- The part of a `TicketmasterAdapter` that requests use, with or without a Redis client. -/
structure HttpAdapter where
  clientId : String
  redis : Bool

/-- The arguments of `_make_request`. -/
structure RequestCall where
  method : String
  path : String
  params : Params
  useCache : Bool

/-- The text `_cache_key` hashes. -/
def keyText (method path : String) (params : Params) : String :=
  method ++ ":" ++ path ++ ":" ++ urlencode params.normalized

/-- `_cache_key` -/
def TextLibrary.cacheKey (lib : TextLibrary) (method path : String) (params : Params) : String :=
  "tm:search:" ++ slice 32 (lib.sha256 (keyText method path params))

/-- `_handle_http_error`, which raises in every case. -/
def TextLibrary.handleHttpError (lib : TextLibrary) (response : Response) : PyError :=
  if response.status = 404 then .domain (planNotFoundError "Plan not found")
  else if response.status = 401 then .domain (providerAuthenticationError "Ticketmaster")
  else if response.status = 429 then
    match lib.retryAfter response with
    | .ok retryAfter => .domain (providerRateLimitedError "Ticketmaster" retryAfter)
    | .error e => e
  else if 500 ≤ response.status then .retryableError "Server error"
  else .domain (providerError "Ticketmaster" response.errorText)

def maxRetries : ℕ := 3

def searchTtl : ℕ := 300

/-- `raise ProviderError("Ticketmaster", "Max retries exceeded")` -/
def retriesExceeded : PyError := .domain (providerError "Ticketmaster" "Max retries exceeded")

namespace HttpAdapter

open Http

variable (lib : TextLibrary) (self : HttpAdapter)

/-- The parameters that are sent, and of which the cache key is made. -/
def sentParams (call : RequestCall) : Params := call.params.set "apikey" (.str self.clientId)

/-- `cache_key` -/
def cacheKeyOf (call : RequestCall) : Option String :=
  if call.useCache && self.redis then
    some (lib.cacheKey call.method call.path (self.sentParams call))
  else none

/-- Caches the response to a `GET`. -/
def cacheResponse (call : RequestCall) (data : Json) : Http Unit :=
  match self.cacheKeyOf lib call with
  | some key => if call.method = "GET" then redisSetex key searchTtl (.json data) else return ()
  | none => return ()

/-- An attempt, from its response on; `again` is what follows `continue`. -/
def useResponse (call : RequestCall) (attempt : ℕ) (response : Response) (again : Http Json) :
    Http Json :=
  if response.status = 429 then do
    let retryAfter ← Prog.ofExcept (lib.retryAfter response)
    sleep (min retryAfter 60 : ℤ)
    again
  else if 500 ≤ response.status ∧ attempt < maxRetries - 1 then do
    sleep (2 ^ attempt)
    again
  else if response.IsSuccess then do
    let data ← Prog.ofExcept response.json
    self.cacheResponse lib call data
    return data
  else
    match lib.handleHttpError response with
    | .retryableError message =>
      if attempt < maxRetries - 1 then do
        sleep (2 ^ attempt)
        again
      else .raise (.retryableError message)
    | e => .raise e

/-- The loop over the attempts that are left. -/
def attemptRequests (call : RequestCall) : List ℕ → Http Json
  | [] => .raise retriesExceeded
  | attempt :: attempts => do
    let response ← request call.method call.path (self.sentParams call)
    self.useResponse lib call attempt response (attemptRequests call attempts)

/-- The requests, with the rate limiter before them. -/
def fetch (call : RequestCall) : Http Json := do
  let waitTime ← consume
  if 0 < waitTime then sleep waitTime
  self.attemptRequests lib call (List.range maxRetries)

/-- `_make_request` -/
def makeRequest (call : RequestCall) : Http Json :=
  match self.cacheKeyOf lib call with
  | none => self.fetch lib call
  | some key => do
    match ← redisGet key with
    | none => self.fetch lib call
    | some cached =>
      if cached.truthy then Prog.ofExcept (jsonLoads cached)
      else self.fetch lib call

end HttpAdapter

/-! ## What a call does -/

namespace TextLibrary

variable (lib : TextLibrary)

/-- How a response ends the call at an attempt, if it does. -/
def conclude (attempt : ℕ) (response : Response) : Option (Except PyError Json) :=
  if response.status = 429 then
    match lib.retryAfter response with
    | .ok retryAfter =>
      if retryAfter < 0 then some (.error (.valueError "sleep length must be non-negative"))
      else none
    | .error e => some (.error e)
  else if 500 ≤ response.status ∧ attempt < maxRetries - 1 then none
  else if response.IsSuccess then some response.json
  else some (.error (lib.handleHttpError response))

/-- How many of the responses, from some response on, the attempts that are left receive, and how
they end. -/
def answer (script : ℕ → Response) : ℕ → List ℕ → ℕ × Except PyError Json
  | _, [] => (0, .error retriesExceeded)
  | first, attempt :: attempts =>
    match lib.conclude attempt (script first) with
    | some outcome => (1, outcome)
    | none =>
      let (n, outcome) := answer script (first + 1) attempts
      (n + 1, outcome)

/-- An attempt that ends with a document got a response with success. -/
lemma conclude_ok {attempt : ℕ} {response : Response} {body : Json}
    (h : lib.conclude attempt response = some (.ok body)) :
    response.IsSuccess ∧ response.body = some body := by
  unfold conclude at h
  split at h
  · split at h
    · split at h
      · cases h
      · cases h
    · cases h
  · split at h
    · cases h
    · split at h
      · next hsuccess =>
        refine ⟨hsuccess, ?_⟩
        unfold Response.json at h
        cases hbody : response.body with
        | none =>
          rw [hbody] at h
          cases h
        | some body' =>
          rw [hbody] at h
          cases h
          rfl
      · cases h

/-- There are no more responses than attempts. -/
lemma answer_le (script : ℕ → Response) (first : ℕ) (attempts : List ℕ) :
    (lib.answer script first attempts).1 ≤ attempts.length := by
  induction attempts generalizing first with
  | nil => exact le_rfl
  | cons attempt attempts ih =>
    rw [answer, List.length_cons]
    cases lib.conclude attempt (script first) with
    | some outcome =>
      show 1 ≤ attempts.length + 1
      omega
    | none => exact Nat.succ_le_succ (ih (first + 1))

/-- **A document comes from a response with success.** -/
lemma answer_ok {script : ℕ → Response} {first : ℕ} {attempts : List ℕ} {body : Json}
    (h : (lib.answer script first attempts).2 = .ok body) :
    ∃ i, first ≤ i ∧ i < first + (lib.answer script first attempts).1 ∧
      (script i).IsSuccess ∧ (script i).body = some body := by
  induction attempts generalizing first with
  | nil => cases h
  | cons attempt attempts ih =>
    rw [answer] at h ⊢
    cases hconclude : lib.conclude attempt (script first) with
    | some outcome =>
      rw [hconclude] at h
      obtain rfl : outcome = .ok body := h
      obtain ⟨hsuccess, hbody⟩ := lib.conclude_ok hconclude
      exact ⟨first, le_rfl, Nat.lt_succ_self first, hsuccess, hbody⟩
    | none =>
      rw [hconclude] at h
      obtain ⟨i, hlow, hhigh, hsuccess, hbody⟩ := ih h
      refine ⟨i, by omega, ?_, hsuccess, hbody⟩
      show i < first + ((lib.answer script (first + 1) attempts).1 + 1)
      omega

/-- Only a server error makes `_handle_http_error` raise a `RetryableError`. -/
lemma server_error_of_retryable {response : Response} {message : String}
    (hlimited : response.status ≠ 429)
    (h : lib.handleHttpError response = .retryableError message) : 500 ≤ response.status := by
  unfold handleHttpError at h
  split at h
  · cases h
  · split at h
    · cases h
    · split at h
      · assumption
      · cases h

end TextLibrary

namespace HttpAdapter

variable (lib : TextLibrary) (self : HttpAdapter) (provided : Provided) (call : RequestCall)

/-- The state after the body of a response has been cached. -/
def cached (data : Json) (s : HttpState) : HttpState :=
  match self.cacheKeyOf lib call with
  | some key =>
    if call.method = "GET" then
      { s with redis := Function.update s.redis key (some ⟨.json data, some searchTtl⟩) }
    else s
  | none => s

/-- The state after an outcome, which is cached if it is a body. -/
def remember (outcome : Except PyError Json) (s : HttpState) : HttpState :=
  match outcome with
  | .ok data => self.cached lib call data s
  | .error _ => s

lemma run_cacheResponse (data : Json) (s : HttpState) :
    (self.cacheResponse lib call data).run (HttpState.handle provided) s =
      .ok () (self.cached lib call data s) := by
  unfold cacheResponse cached
  split
  · split <;> rfl
  · rfl

/-- A response with success is returned, and cached. -/
lemma run_success (outcome : Except PyError Json) (s : HttpState) :
    (do
      let data ← Prog.ofExcept outcome
      self.cacheResponse lib call data
      return data : Http Json).run (HttpState.handle provided) s =
      Prog.ended outcome (self.remember lib call outcome s) := by
  cases outcome with
  | error e => rfl
  | ok data =>
    rw [Prog.ofExcept_ok_bind]
    exact Prog.run_bind_ok _ _ (self.run_cacheResponse lib provided call data s)

/-- Sleeping changes nothing, if it is possible. -/
lemma run_sleep_bind {α : Type} {seconds : ℚ} (f : Unit → Http α) (s : HttpState) :
    (Http.sleep seconds >>= f).run (HttpState.handle provided) s =
      if seconds < 0 then .error (.valueError "sleep length must be non-negative") s
      else (f ()).run (HttpState.handle provided) s := by
  unfold Http.sleep
  split <;> rfl

/-- **What an attempt does** with its response: it ends the call, or goes on. -/
lemma run_useResponse (attempt : ℕ) (response : Response) (again : Http Json) (s : HttpState) :
    (self.useResponse lib call attempt response again).run (HttpState.handle provided) s =
      match lib.conclude attempt response with
      | some outcome => Prog.ended outcome (self.remember lib call outcome s)
      | none => again.run (HttpState.handle provided) s := by
  unfold useResponse TextLibrary.conclude
  by_cases hlimited : response.status = 429
  · rw [if_pos hlimited, if_pos hlimited]
    cases lib.retryAfter response with
    | error e => rfl
    | ok retryAfter =>
      have hsign : ((min retryAfter 60 : ℤ) : ℚ) < 0 ↔ retryAfter < 0 := by
        rw [Int.cast_lt_zero]
        omega
      rw [Prog.ofExcept_ok_bind, run_sleep_bind]
      by_cases hneg : retryAfter < 0
      · rw [if_pos (hsign.mpr hneg)]
        simp only [if_pos hneg]
        rfl
      · rw [if_neg (mt hsign.mp hneg)]
        simp only [if_neg hneg]
  · rw [if_neg hlimited, if_neg hlimited]
    by_cases hagain : 500 ≤ response.status ∧ attempt < maxRetries - 1
    · have hsign : ¬ (2 : ℚ) ^ attempt < 0 := not_lt.mpr (by positivity)
      rw [if_pos hagain, if_pos hagain, run_sleep_bind, if_neg hsign]
    · rw [if_neg hagain, if_neg hagain]
      by_cases hsuccess : response.IsSuccess
      · rw [if_pos hsuccess, if_pos hsuccess]
        exact self.run_success lib provided call response.json s
      · rw [if_neg hsuccess, if_neg hsuccess]
        split
        · next message herror =>
          -- A server error that is not retried comes from the last attempt.
          have hlast : ¬ attempt < maxRetries - 1 :=
            fun hlt => hagain ⟨lib.server_error_of_retryable hlimited herror, hlt⟩
          rw [if_neg hlast, herror]
          rfl
        · rfl

/-- **What the attempts do**: they end as the responses say, and have received these. -/
theorem run_attemptRequests (attempts : List ℕ) (s : HttpState) :
    (self.attemptRequests lib call attempts).run (HttpState.handle provided) s =
      Prog.ended (lib.answer provided.script s.received attempts).2
        (self.remember lib call (lib.answer provided.script s.received attempts).2
          { s with received := s.received +
              (lib.answer provided.script s.received attempts).1 }) := by
  induction attempts generalizing s with
  | nil => rfl
  | cons attempt attempts ih =>
    let s₁ : HttpState := { s with received := s.received + 1 }
    have hfirst := self.run_useResponse lib provided call attempt (provided.script s.received)
      (self.attemptRequests lib call attempts) s₁
    show (self.useResponse lib call attempt (provided.script s.received)
      (self.attemptRequests lib call attempts)).run _ s₁ = _
    rw [hfirst, TextLibrary.answer]
    cases lib.conclude attempt (provided.script s.received) with
    | some outcome => rfl
    | none =>
      have hcount : ∀ n, s.received + 1 + n = s.received + (n + 1) := by omega
      simp only [ih s₁, s₁, hcount]

/-- The state once the rate limiter has let the call pass. -/
def passed (s : HttpState) : HttpState :=
  { s with
    bucket := (s.bucket.consume (provided.clock s.readings) 1).2
    readings := s.readings + 1 }

lemma run_fetch (s : HttpState) :
    (self.fetch lib call).run (HttpState.handle provided) s =
      (self.attemptRequests lib call (List.range maxRetries)).run (HttpState.handle provided)
        (passed provided s) := by
  let waitTime := (s.bucket.consume (provided.clock s.readings) 1).1
  show (if 0 < waitTime then Http.sleep waitTime >>= fun _ => _ else _ : Http Json).run _
    (passed provided s) = _
  by_cases hwait : 0 < waitTime
  · rw [if_pos hwait, run_sleep_bind, if_neg hwait.asymm]
  · rw [if_neg hwait]

/-- What the cache has for a call, if the call looks there and finds something. -/
def hit (s : HttpState) : Option Redis.Value :=
  match self.cacheKeyOf lib call with
  | some key => ((s.redis key).map Redis.Entry.value).filter Redis.Value.truthy
  | none => none

/-- How a call that goes out ends. -/
def fetched (s : HttpState) : Except PyError Json :=
  (lib.answer provided.script s.received (List.range maxRetries)).2

/-- The state a call that goes out leaves. -/
def afterFetch (s : HttpState) : HttpState :=
  self.remember lib call (fetched lib provided s)
    { passed provided s with
      received := s.received +
        (lib.answer provided.script s.received (List.range maxRetries)).1 }

/-- A call that looks into the cache. -/
lemma run_looking {key : String} (hkey : self.cacheKeyOf lib call = some key) (s : HttpState) :
    (self.makeRequest lib call).run (HttpState.handle provided) s =
      (match (s.redis key).map Redis.Entry.value with
        | none => self.fetch lib call
        | some value =>
          if value.truthy then Prog.ofExcept (jsonLoads value) else self.fetch lib call
        : Http Json).run (HttpState.handle provided) s := by
  rw [makeRequest, hkey]
  rfl

/-- **A call that finds something** in the cache returns that. -/
theorem run_of_hit {s : HttpState} {value : Redis.Value} (h : self.hit lib call s = some value) :
    (self.makeRequest lib call).run (HttpState.handle provided) s =
      Prog.ended (jsonLoads value) s := by
  unfold hit at h
  split at h
  · next key hkey =>
    obtain ⟨hvalue, htruthy⟩ := Option.filter_eq_some_iff.mp h
    rw [run_looking lib self provided call hkey, hvalue]
    simp only [htruthy, if_true]
    exact Prog.run_ofExcept _ s (jsonLoads value)
  · cases h

/-- **A call that finds nothing** goes out. -/
theorem run_of_miss {s : HttpState} (h : self.hit lib call s = none) :
    (self.makeRequest lib call).run (HttpState.handle provided) s =
      Prog.ended (fetched lib provided s) (self.afterFetch lib provided call s) := by
  have hout : (self.fetch lib call).run (HttpState.handle provided) s =
      Prog.ended (fetched lib provided s) (self.afterFetch lib provided call s) := by
    rw [run_fetch, run_attemptRequests]
    rfl
  unfold hit at h
  split at h
  · next key hkey =>
    rw [run_looking lib self provided call hkey]
    cases hvalue : (s.redis key).map Redis.Entry.value with
    | none => exact hout
    | some value =>
      rw [hvalue] at h
      have hempty : ¬ value.truthy = true := by simpa [Option.filter] using h
      simp only [if_neg hempty]
      exact hout
  · next hkey =>
    rw [makeRequest, hkey]
    exact hout

end HttpAdapter

end TicketGenius
