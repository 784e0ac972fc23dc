import TicketGenius.Adapters.MakeRequest

/-!
# How failures of the provider surface

A call that goes out should return the body of the first response with success, or raise one of the
exceptions of the domain, which one depends on the response.  The response that decides is the first
that is neither a 429 nor a server error; if there is none among three, the retries are used up.

`_handle_http_error` marks a server error with a `RetryableError` of its own, and the loop raises
that again when the last attempt gets one.  The other exception from outside the domain is what
`time.sleep` raises for a negative `Retry-After`.
-/

namespace TicketGenius.ProviderFailures

open Framework

/-! ## The property -/

/-- The response asks for another attempt. -/
def Retryable (response : Response) : Prop := response.status = 429 ∨ 500 ≤ response.status

/-- The response at `i` is the first that does not. -/
structure Decides (script : ℕ → Response) (i : ℕ) : Prop where
  attempted : i < maxRetries
  before : ∀ j < i, Retryable (script j)
  final : ¬ Retryable (script i)

/-- A domain exception with one of the codes, that is, of one of the classes. -/
def RaisesOneOf (codes : List ErrorCode) (outcome : Except PyError Json) : Prop :=
  ∃ e, outcome = .error (.domain e) ∧ e.code ∈ codes

/-- How a call that goes out should end. -/
structure Surfaces (script : ℕ → Response) (outcome : Except PyError Json) : Prop where
  success : ∀ i body, Decides script i → (script i).IsSuccess → (script i).body = some body →
    outcome = .ok body
  notFound : ∀ i, Decides script i → (script i).status = 404 →
    RaisesOneOf [.planNotFound] outcome
  unauthorized : ∀ i, Decides script i → (script i).status = 401 →
    RaisesOneOf [.providerAuthenticationFailed] outcome
  failure : ∀ i, Decides script i → ¬ (script i).IsSuccess → (script i).status ≠ 404 →
    (script i).status ≠ 401 → RaisesOneOf [.providerError, .providerRateLimited] outcome
  exhausted : (∀ i < maxRetries, Retryable (script i)) →
    RaisesOneOf [.providerError, .providerRateLimited] outcome

/-- The bodies are JSON documents, and the headers `Retry-After` are numeric or absent. -/
structure WellFormed (lib : TextLibrary) (script : ℕ → Response) : Prop where
  json : ∀ i, (script i).IsSuccess → ∃ body, (script i).body = some body
  default : lib.int "60" = .ok 60
  numeric : ∀ i text, (script i).retryAfter = some text → ∃ n, lib.int text = .ok n

/-- The third attempt is not the first that could fail: it gets no server error after two responses
that ask for another attempt, and no such response asks for a negative pause. -/
structure Covered (lib : TextLibrary) (script : ℕ → Response) : Prop where
  last : ¬ ((∀ j < 2, Retryable (script j)) ∧ 500 ≤ (script 2).status)
  pause : ∀ i < maxRetries, (∀ j < i, Retryable (script j)) → (script i).status = 429 →
    ∀ n, lib.retryAfter (script i) = .ok n → 0 ≤ n

/-! ## One attempt -/

section Attempt

variable {lib : TextLibrary} {response : Response} {attempt : ℕ}

lemma conclude_of_final (h : ¬ Retryable response) :
    lib.conclude attempt response =
      some (if response.IsSuccess then response.json
        else .error (lib.handleHttpError response)) := by
  obtain ⟨hlimited, hserver⟩ := not_or.mp h
  have hagain : ¬ (500 ≤ response.status ∧ attempt < maxRetries - 1) := fun hagain =>
    hserver hagain.1
  rw [TextLibrary.conclude, if_neg hlimited, if_neg hagain]
  split <;> rfl

lemma conclude_of_limited (hlimited : response.status = 429) {n : ℤ}
    (hn : lib.retryAfter response = .ok n) :
    lib.conclude attempt response =
      if n < 0 then some (.error (.valueError "sleep length must be non-negative")) else none := by
  rw [TextLibrary.conclude, if_pos hlimited, hn]

lemma conclude_of_server (hserver : 500 ≤ response.status) (hattempt : attempt < maxRetries - 1) :
    lib.conclude attempt response = none := by
  rw [TextLibrary.conclude, if_neg (by omega), if_pos ⟨hserver, hattempt⟩]

lemma conclude_of_server_last (hserver : 500 ≤ response.status)
    (hattempt : ¬ attempt < maxRetries - 1) :
    lib.conclude attempt response = some (.error (.retryableError "Server error")) := by
  have hsuccess : ¬ response.IsSuccess := fun hsuccess => by
    have hhigh := hsuccess.2
    omega
  rw [TextLibrary.conclude, if_neg (by omega), if_neg fun hagain => hattempt hagain.2,
    if_neg hsuccess, TextLibrary.handleHttpError, if_neg (by omega), if_neg (by omega),
    if_neg (by omega), if_pos hserver]

end Attempt

/-! ## All attempts -/

section Attempts

variable {lib : TextLibrary} {script : ℕ → Response} {outcome : Except PyError Json}

/-- The first attempt that ends the call determines the outcome. -/
lemma answer_of_stop {n i first start : ℕ} (hi : i < n)
    (hbefore : ∀ j < i, lib.conclude (start + j) (script (first + j)) = none)
    (hstop : lib.conclude (start + i) (script (first + i)) = some outcome) :
    (lib.answer script first (List.range' start n)).2 = outcome := by
  induction n generalizing i first start with
  | zero => omega
  | succ n ih =>
    rw [List.range'_succ, TextLibrary.answer]
    cases i with
    | zero =>
      rw [Nat.add_zero, Nat.add_zero] at hstop
      rw [hstop]
    | succ i =>
      have hnone := hbefore 0 (by omega)
      rw [Nat.add_zero, Nat.add_zero] at hnone
      have hshift : ∀ k j, k + 1 + j = k + (j + 1) := by omega
      rw [hnone]
      refine ih (i := i) (by omega) ?_ ?_
      · intro j hj
        rw [hshift, hshift]
        exact hbefore (j + 1) (by omega)
      · rw [hshift, hshift]
        exact hstop

/-- If no attempt ends the call, the retries are used up. -/
lemma answer_of_none {n first start : ℕ}
    (hnone : ∀ j < n, lib.conclude (start + j) (script (first + j)) = none) :
    (lib.answer script first (List.range' start n)).2 = .error retriesExceeded := by
  induction n generalizing first start with
  | zero => rfl
  | succ n ih =>
    have hfirst := hnone 0 (by omega)
    rw [Nat.add_zero, Nat.add_zero] at hfirst
    have hshift : ∀ k j, k + 1 + j = k + (j + 1) := by omega
    rw [List.range'_succ, TextLibrary.answer, hfirst]
    refine ih fun j hj => ?_
    rw [hshift, hshift]
    exact hnone (j + 1) (by omega)

end Attempts

/-! ## The call -/

section Call

variable {lib : TextLibrary} {provided : Provided} {s : HttpState} {outcome : Except PyError Json}

/-- The responses a call gets that goes out now. -/
def responses (provided : Provided) (s : HttpState) (i : ℕ) : Response :=
  provided.script (s.received + i)

/-- Which of them end the call. -/
lemma fetched_of_stop {i : ℕ} (hi : i < maxRetries)
    (hbefore : ∀ j < i, lib.conclude j (responses provided s j) = none)
    (hstop : lib.conclude i (responses provided s i) = some outcome) :
    HttpAdapter.fetched lib provided s = outcome := by
  rw [HttpAdapter.fetched, List.range_eq_range']
  refine answer_of_stop hi ?_ ?_
  · intro j hj
    rw [Nat.zero_add]
    exact hbefore j hj
  · rw [Nat.zero_add]
    exact hstop

lemma fetched_of_none
    (hnone : ∀ j < maxRetries, lib.conclude j (responses provided s j) = none) :
    HttpAdapter.fetched lib provided s = .error retriesExceeded := by
  rw [HttpAdapter.fetched, List.range_eq_range']
  refine answer_of_none fun j hj => ?_
  rw [Nat.zero_add]
  exact hnone j hj

/-- `int()` reads the header, or its default. -/
lemma WellFormed.exists_retryAfter {script : ℕ → Response} (h : WellFormed lib script) (i : ℕ) :
    ∃ n, lib.retryAfter (script i) = .ok n := by
  cases hheader : (script i).retryAfter with
  | none => exact ⟨60, by rw [TextLibrary.retryAfter, hheader, Option.getD_none, h.default]⟩
  | some text =>
    obtain ⟨n, hn⟩ := h.numeric i text hheader
    exact ⟨n, by rw [TextLibrary.retryAfter, hheader, Option.getD_some, hn]⟩

/-- A response that asks for another attempt gets one. -/
lemma conclude_of_retryable {script : ℕ → Response} (h : WellFormed lib script) {i : ℕ}
    (hretry : Retryable (script i))
    (hpause : (script i).status = 429 → ∀ n, lib.retryAfter (script i) = .ok n → 0 ≤ n)
    (hlast : 500 ≤ (script i).status → i < maxRetries - 1) :
    lib.conclude i (script i) = none := by
  rcases hretry with hlimited | hserver
  · obtain ⟨n, hn⟩ := h.exists_retryAfter i
    rw [conclude_of_limited hlimited hn, if_neg (not_lt.mpr (hpause hlimited n hn))]
  · exact conclude_of_server hserver (hlast hserver)

/-- A claimed outcome is a body, or an exception of the domain. -/
lemma Surfaces.domain {script : ℕ → Response} (h : Surfaces script outcome)
    (hwell : WellFormed lib script) :
    (∃ body, outcome = .ok body) ∨ ∃ e, outcome = .error (.domain e) := by
  by_cases hall : ∀ i < maxRetries, Retryable (script i)
  · obtain ⟨e, he, -⟩ := h.exhausted hall
    exact .inr ⟨e, he⟩
  · push Not at hall
    classical
    let i := Nat.find hall
    obtain ⟨hi, hfinal⟩ := Nat.find_spec hall
    have hdecides : Decides script i := by
      refine ⟨hi, fun j hj => ?_, hfinal⟩
      by_contra hnot
      exact Nat.find_min hall hj ⟨hj.trans hi, hnot⟩
    by_cases hsuccess : (script i).IsSuccess
    · obtain ⟨body, hbody⟩ := hwell.json i hsuccess
      exact .inl ⟨body, h.success i body hdecides hsuccess hbody⟩
    · by_cases hfound : (script i).status = 404
      · obtain ⟨e, he, -⟩ := h.notFound i hdecides hfound
        exact .inr ⟨e, he⟩
      · by_cases hauthorized : (script i).status = 401
        · obtain ⟨e, he, -⟩ := h.unauthorized i hdecides hauthorized
          exact .inr ⟨e, he⟩
        · obtain ⟨e, he, -⟩ := h.failure i hdecides hsuccess hfound hauthorized
          exact .inr ⟨e, he⟩

/-- Under the condition, responses that ask for another attempt all get one. -/
lemma Covered.conclude_before (h : Covered lib (responses provided s))
    (hwell : WellFormed lib (responses provided s)) {i : ℕ} (hi : i ≤ maxRetries)
    (hretry : ∀ j < i, Retryable (responses provided s j)) :
    ∀ j < i, lib.conclude j (responses provided s j) = none := by
  intro j hj
  refine conclude_of_retryable hwell (hretry j hj) (h.pause j (by omega) fun k hk =>
    hretry k (by omega)) fun hserver => ?_
  by_contra hlast
  have hmax : maxRetries = 3 := rfl
  obtain rfl : j = 2 := by omega
  exact h.last ⟨fun k hk => hretry k (by omega), hserver⟩

lemma Covered.surfaces (h : Covered lib (responses provided s))
    (hwell : WellFormed lib (responses provided s)) :
    Surfaces (responses provided s) (HttpAdapter.fetched lib provided s) := by
  have hdecided : ∀ i, Decides (responses provided s) i →
      HttpAdapter.fetched lib provided s =
        if (responses provided s i).IsSuccess then (responses provided s i).json
        else .error (lib.handleHttpError (responses provided s i)) := by
    intro i hi
    exact fetched_of_stop hi.attempted (h.conclude_before hwell hi.attempted.le hi.before)
      (conclude_of_final hi.final)
  have hfailed : ∀ i, Decides (responses provided s) i →
      ¬ (responses provided s i).IsSuccess → HttpAdapter.fetched lib provided s =
        .error (lib.handleHttpError (responses provided s i)) := by
    intro i hi hsuccess
    rw [hdecided i hi, if_neg hsuccess]
  refine ⟨?_, ?_, ?_, ?_, ?_⟩
  · intro i body hi hsuccess hbody
    rw [hdecided i hi, if_pos hsuccess, Response.json, hbody]
  · intro i hi hstatus
    have hsuccess : ¬ (responses provided s i).IsSuccess := fun hsuccess => by
      have hhigh := hsuccess.2
      omega
    rw [hfailed i hi hsuccess, TextLibrary.handleHttpError, if_pos hstatus]
    exact ⟨_, rfl, List.mem_singleton_self _⟩
  · intro i hi hstatus
    have hsuccess : ¬ (responses provided s i).IsSuccess := fun hsuccess => by
      have hhigh := hsuccess.2
      omega
    rw [hfailed i hi hsuccess, TextLibrary.handleHttpError, if_neg (by omega), if_pos hstatus]
    exact ⟨_, rfl, List.mem_singleton_self _⟩
  · intro i hi hsuccess hfound hauthorized
    obtain ⟨hlimited, hserver⟩ := not_or.mp hi.final
    rw [hfailed i hi hsuccess, TextLibrary.handleHttpError, if_neg hfound, if_neg hauthorized,
      if_neg hlimited, if_neg hserver]
    exact ⟨_, rfl, List.mem_cons_self⟩
  · intro hall
    rw [fetched_of_none (h.conclude_before hwell le_rfl hall)]
    exact ⟨_, rfl, List.mem_cons_self⟩

/-- An outcome that is an exception from outside the domain is not the claimed one. -/
lemma Surfaces.false_of_error {script : ℕ → Response} {e : PyError}
    (h : Surfaces script (.error e)) (hwell : WellFormed lib script)
    (houtside : ∀ d, e ≠ .domain d) : False := by
  rcases h.domain hwell with ⟨body, hbody⟩ | ⟨d, hd⟩
  · cases hbody
  · exact houtside d (Except.error.inj hd)

/-- A negative pause is refused by `time.sleep`. -/
lemma Surfaces.pause
    (h : Surfaces (responses provided s) (HttpAdapter.fetched lib provided s))
    (hwell : WellFormed lib (responses provided s)) {i : ℕ} (hi : i < maxRetries)
    (hbefore : ∀ j < i, Retryable (responses provided s j))
    (hlimited : (responses provided s i).status = 429) {n : ℤ}
    (hn : lib.retryAfter (responses provided s i) = .ok n) : 0 ≤ n := by
  induction i using Nat.strong_induction_on generalizing n with
  | _ i ih =>
    -- The first negative pause ends the call.
    have hnone : ∀ j < i, lib.conclude j (responses provided s j) = none := by
      intro j hj
      have hmax : maxRetries = 3 := rfl
      refine conclude_of_retryable hwell (hbefore j hj) (fun hstatus m hm => ?_) fun _ => by omega
      exact ih j hj (by omega) (fun k hk => hbefore k (by omega)) hstatus hm
    by_contra hneg
    have hstop : lib.conclude i (responses provided s i) =
        some (.error (.valueError "sleep length must be non-negative")) := by
      rw [conclude_of_limited hlimited hn, if_pos (not_le.mp hneg)]
    rw [fetched_of_stop hi hnone hstop] at h
    exact h.false_of_error hwell fun d hd => nomatch hd

lemma Surfaces.covered
    (h : Surfaces (responses provided s) (HttpAdapter.fetched lib provided s))
    (hwell : WellFormed lib (responses provided s)) : Covered lib (responses provided s) := by
  have hpause : ∀ i < maxRetries, (∀ j < i, Retryable (responses provided s j)) →
      (responses provided s i).status = 429 → ∀ n,
      lib.retryAfter (responses provided s i) = .ok n → 0 ≤ n :=
    fun i hi hbefore hlimited n hn => h.pause hwell hi hbefore hlimited hn
  refine ⟨?_, hpause⟩
  rintro ⟨hretry, hserver⟩
  have hnone : ∀ j < 2, lib.conclude j (responses provided s j) = none := by
    intro j hj
    have hmax : maxRetries = 3 := rfl
    exact conclude_of_retryable hwell (hretry j hj)
      (hpause j (by omega) fun k hk => hretry k (by omega)) fun _ => by omega
  have hstop : lib.conclude 2 (responses provided s 2) =
      some (.error (.retryableError "Server error")) :=
    conclude_of_server_last hserver (by decide)
  rw [fetched_of_stop (by decide) hnone hstop] at h
  exact h.false_of_error hwell fun d hd => nomatch hd

end Call

/-- **Which failures surface as they should**, of a call that goes out. -/
theorem surfaces_iff (lib : TextLibrary) (adapter : HttpAdapter) (provided : Provided)
    (call : RequestCall) (s : HttpState) (hmiss : adapter.hit lib call s = none)
    (hwell : WellFormed lib (responses provided s)) :
    Surfaces (responses provided s)
        ((adapter.makeRequest lib call).result (HttpState.handle provided) s) ↔
      Covered lib (responses provided s) := by
  rw [Prog.result_of_ended _ (adapter.run_of_miss lib provided call hmiss)]
  exact ⟨fun h => h.covered hwell, fun h => h.surfaces hwell⟩

/-! ### Server errors -/

/-- A server error, without anything else. -/
def serverError : Response := ⟨503, none, none, "Server error '503 Service Unavailable'"⟩

/-- An empty page of events. -/
def emptyPage : Response := ⟨200, none, some (.obj []), ""⟩

/-- An adapter without Redis. -/
def plainAdapter : HttpAdapter := ⟨"client", false⟩

/-- A search for all events. -/
def anyEvents : RequestCall := ⟨"GET", "/events.json", .empty, true⟩

/-- Nothing has been asked for yet. -/
def fresh : HttpState := ⟨fun _ => none, .make 5 5 0, 0, 0⟩

/-- There are server errors only. -/
def failing : Provided := ⟨fun _ => 0, fun _ => serverError⟩

/-- There is one server error, and then a page. -/
def recovering : Provided := ⟨fun _ => 0, fun i => if i = 0 then serverError else emptyPage⟩

lemma wellFormed_failing : WellFormed .sample (responses failing fresh) where
  json _ hsuccess := absurd hsuccess (by decide : ¬ serverError.IsSuccess)
  default := rfl
  numeric _ _ hheader := nomatch hheader

/-- The marker itself comes out. -/
theorem three_server_errors :
    ¬ ∀ lib (adapter : HttpAdapter) provided call s, adapter.hit lib call s = none →
      WellFormed lib (responses provided s) →
      Surfaces (responses provided s)
        ((adapter.makeRequest lib call).result (HttpState.handle provided) s) := by
  intro h
  have hsurfaces := h .sample plainAdapter failing anyEvents fresh rfl wellFormed_failing
  have hserver : ∀ i, Retryable (responses failing fresh i) := fun i =>
    .inr (show 500 ≤ 503 by omega)
  obtain ⟨e, he, -⟩ := hsurfaces.exhausted fun i _ => hserver i
  have hmiss : plainAdapter.hit .sample anyEvents fresh = none := rfl
  rw [Prog.result_of_ended _ (plainAdapter.run_of_miss .sample failing anyEvents hmiss)] at he
  have hmarker : HttpAdapter.fetched .sample failing fresh =
    .error (.retryableError "Server error") := rfl
  rw [hmarker] at he
  cases he

/-- One server error is recovered from. -/
theorem one_server_error :
    Surfaces (responses recovering fresh) ((plainAdapter.makeRequest .sample anyEvents).result
      (HttpState.handle recovering) fresh) := by
  have hheader : ∀ i, (responses recovering fresh i).retryAfter = none := by
    intro i
    cases i <;> rfl
  have hstatus : ∀ i, (responses recovering fresh i).status ≠ 429 := by
    intro i
    cases i with
    | zero => decide
    | succ i =>
      show 200 ≠ 429
      omega
  refine (surfaces_iff .sample plainAdapter recovering anyEvents fresh rfl ⟨?_, rfl, ?_⟩).mpr
    ⟨?_, ?_⟩
  · intro i hsuccess
    cases i with
    | zero => exact absurd hsuccess (by decide)
    | succ i => exact ⟨.obj [], rfl⟩
  · intro i text htext
    rw [hheader] at htext
    cases htext
  · rintro ⟨-, hserver⟩
    exact absurd hserver (by decide)
  · exact fun i _ _ hlimited => absurd hlimited (hstatus i)

end TicketGenius.ProviderFailures
