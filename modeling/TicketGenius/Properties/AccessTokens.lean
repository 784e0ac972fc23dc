import TicketGenius.Adapters.AccessToken
import TicketGenius.Framework.Run
import Mathlib.Tactic.Linarith
import Mathlib.Tactic.NormNum

/-!
# Tokens are renewed in time

Calls of `_get_access_token` follow one another, and any of them may fail in any way.  A call that
does not go out returns the token of the last call that did, more than five minutes before its
lifetime ends; and no call goes out earlier than five minutes before the end of a lifetime it was
told (`tokens_renewed`).

A call can raise between the two assignments, and then the new token lies beside the lifetime of the
old one.  That does no harm as long as the old one has had its time, which is why the call went out;
but a call also goes out for an empty token, however long it is said to live.  So the provider must
not send one.
-/

namespace TicketGenius.AccessTokens

open Framework

/-! ## Runs -/

section Run

variable (float : String → ℚ) (exchanges : List Exchange)

/-- The cache after a call, whether it returns or raises. -/
def step (cache : TokenCache) (exchange : Exchange) : TokenCache :=
  match (getAccessToken float exchange).run cache with
  | .ok _ cache' => cache'
  | .error _ cache' => cache'

/-- The cache before the call at `i`. -/
def cacheAt (i : ℕ) : TokenCache := run (step float) .empty (exchanges.take i)

/-- The call at `i` goes out. -/
def Asks (i : ℕ) : Prop :=
  ∃ exchange, exchanges[i]? = some exchange ∧ ¬ (cacheAt float exchanges i).Serves exchange.asked

/-- The call at `i` returns a token. -/
def Returns (i : ℕ) (token : Json) : Prop :=
  ∃ exchange cache', exchanges[i]? = some exchange ∧
    (getAccessToken float exchange).run (cacheAt float exchanges i) = .ok token cache'

/-- The call at `i` has gone out and got a token that is said to live until some time. -/
def Fetched (i : ℕ) (token : Json) (expiry : ℚ) : Prop :=
  Asks float exchanges i ∧ ∃ exchange seconds, exchanges[i]? = some exchange ∧
    exchange.Grants float token seconds ∧ expiry = exchange.answered + seconds

/-- The readings of the clock go up, from zero, and no token is empty. -/
structure Ordinary : Prop where
  start : ∀ exchange ∈ exchanges, 0 ≤ exchange.asked
  during : ∀ exchange ∈ exchanges, exchange.asked ≤ exchange.answered
  between : exchanges.Pairwise fun a b => a.answered ≤ b.asked
  tokens : ∀ exchange ∈ exchanges, ∀ token seconds, exchange.Grants float token seconds →
    token.truthy = true

/-- **Tokens are renewed in time**, and not before. -/
structure Renewed : Prop where
  served : ∀ i token, Returns float exchanges i token → ¬ Asks float exchanges i →
    ∃ j < i, ∃ expiry, Fetched float exchanges j token expiry ∧
      (∀ exchange, exchanges[i]? = some exchange → exchange.asked < expiry - tokenBuffer) ∧
      ∀ k, j < k → k ≤ i → ¬ Asks float exchanges k
  fetched : ∀ i token, Returns float exchanges i token → Asks float exchanges i →
    ∃ expiry, Fetched float exchanges i token expiry
  spaced : ∀ j i token expiry, j < i → Fetched float exchanges j token expiry →
    Asks float exchanges i →
      ∀ exchange, exchanges[i]? = some exchange → expiry - tokenBuffer ≤ exchange.asked

/-- The token in the cache is that of the last call that went out, or its time is over. -/
def Current (i : ℕ) : Prop :=
  (∃ j < i, Fetched float exchanges j (cacheAt float exchanges i).accessToken
      (cacheAt float exchanges i).tokenExpiresAt ∧
    ∀ k, j < k → k < i → ¬ Asks float exchanges k) ∨
  (cacheAt float exchanges i).tokenExpiresAt = 0 ∨
  ∃ j < i, ∃ exchange, exchanges[j]? = some exchange ∧
    (cacheAt float exchanges i).tokenExpiresAt - tokenBuffer ≤ exchange.asked

end Run

/-! ## One call -/

section Calls

variable {float : String → ℚ} {exchanges : List Exchange} {i j : ℕ} {exchange : Exchange}

/-- A reply brings one token, with one lifetime. -/
lemma grants_unique {token token' : Json} {seconds seconds' : ℚ}
    (h : exchange.Grants float token seconds) (h' : exchange.Grants float token' seconds') :
    token = token' ∧ seconds = seconds' := by
  obtain ⟨tokenData, hdata, htoken, hseconds⟩ := h
  obtain ⟨tokenData', hdata', htoken', hseconds'⟩ := h'
  obtain rfl := Except.ok.inj (hdata.symm.trans hdata')
  exact ⟨Except.ok.inj (htoken.symm.trans htoken'), Except.ok.inj (hseconds.symm.trans hseconds')⟩

lemma cacheAt_succ (h : exchanges[i]? = some exchange) :
    cacheAt float exchanges (i + 1) = step float (cacheAt float exchanges i) exchange := by
  rw [cacheAt, List.take_add_one, h, run_append]
  rfl

lemma cacheAt_succ_of_none (h : exchanges[i]? = none) :
    cacheAt float exchanges (i + 1) = cacheAt float exchanges i := by
  rw [cacheAt, List.take_add_one, h, Option.toList_none, List.append_nil, cacheAt]

/-- A call that does not go out leaves the cache alone. -/
lemma cacheAt_succ_of_not_asks (h : ¬ Asks float exchanges i) :
    cacheAt float exchanges (i + 1) = cacheAt float exchanges i := by
  cases hexchange : exchanges[i]? with
  | none => exact cacheAt_succ_of_none hexchange
  | some exchange =>
    have hserves : (cacheAt float exchanges i).Serves exchange.asked := by
      by_contra hnot
      exact h ⟨exchange, hexchange, hnot⟩
    rw [cacheAt_succ hexchange, step, run_getAccessToken_of_serves float hserves]

/-- A call that goes out gets a token, or leaves the old lifetime. -/
lemma cacheAt_succ_of_asks (hexchange : exchanges[i]? = some exchange)
    (h : ¬ (cacheAt float exchanges i).Serves exchange.asked) :
    (∃ token seconds, exchange.Grants float token seconds ∧
      cacheAt float exchanges (i + 1) = ⟨token, exchange.answered + seconds⟩ ∧
      Returns float exchanges i token) ∨
    ((cacheAt float exchanges (i + 1)).tokenExpiresAt =
        (cacheAt float exchanges i).tokenExpiresAt ∧
      (∀ token seconds, ¬ exchange.Grants float token seconds) ∧
      ∀ token, ¬ Returns float exchanges i token) := by
  have hrun := run_getAccessToken_of_not float h
  have houtcome := fetchAccessToken_outcome float exchange (cacheAt float exchanges i)
  rw [cacheAt_succ hexchange, step]
  rw [← hrun] at houtcome
  cases hresult : (getAccessToken float exchange).run (cacheAt float exchanges i) with
  | ok token cache =>
    rw [hresult] at houtcome
    cases houtcome with
    | granted _ seconds hgrants =>
      exact .inl ⟨token, seconds, hgrants, rfl, exchange, _, hexchange, hresult⟩
  | error e cache =>
    rw [hresult] at houtcome
    cases houtcome with
    | failed _ accessToken hrefused =>
      refine .inr ⟨rfl, hrefused, fun token hreturns => ?_⟩
      obtain ⟨exchange', cache', hexchange', hok⟩ := hreturns
      obtain rfl := Option.some.inj (hexchange.symm.trans hexchange')
      rw [hresult] at hok
      cases hok

lemma not_serves_of_asks (h : Asks float exchanges i) (hexchange : exchanges[i]? = some exchange) :
    ¬ (cacheAt float exchanges i).Serves exchange.asked := by
  obtain ⟨exchange', hexchange', hnot⟩ := h
  obtain rfl := Option.some.inj (hexchange.symm.trans hexchange')
  exact hnot

/-- A later call begins at a later reading. -/
lemma Ordinary.asked_le (h : Ordinary float exchanges) {x y : Exchange} (hji : j < i)
    (hx : exchanges[j]? = some x) (hy : exchanges[i]? = some y) :
    x.answered ≤ y.asked ∧ x.asked ≤ y.asked := by
  obtain ⟨hj, hxj⟩ := List.getElem?_eq_some_iff.mp hx
  obtain ⟨hi, hyi⟩ := List.getElem?_eq_some_iff.mp hy
  have hbetween : x.answered ≤ y.asked := by
    have hpair := List.pairwise_iff_getElem.mp h.between j i hj hi hji
    rwa [hxj, hyi] at hpair
  exact ⟨hbetween, (h.during x (List.mem_of_getElem? hx)).trans hbetween⟩

end Calls

/-! ## A run -/

section Invariant

variable {float : String → ℚ} {exchanges : List Exchange} {i j : ℕ}

/-- **One call.** -/
lemma Current.succ (hordinary : Ordinary float exchanges) (h : Current float exchanges i) :
    Current float exchanges (i + 1) := by
  by_cases hasks : Asks float exchanges i
  · obtain ⟨exchange, hexchange, hnot⟩ := id hasks
    rcases cacheAt_succ_of_asks hexchange hnot with ⟨token, seconds, hgrants, hcache, -⟩ |
      ⟨hexpiry, -⟩
    · refine .inl ⟨i, Nat.lt_succ_self i, ?_, fun k hk hk' => by omega⟩
      rw [hcache]
      exact ⟨hasks, exchange, seconds, hexchange, hgrants, rfl⟩
    · -- the call went out because the old lifetime was over, or the old token was empty
      rw [Current, hexpiry]
      by_cases htruthy : (cacheAt float exchanges i).accessToken.truthy = true
      · have hover : (cacheAt float exchanges i).tokenExpiresAt - tokenBuffer ≤ exchange.asked :=
          not_lt.mp fun hlt => hnot ⟨htruthy, hlt⟩
        exact .inr (.inr ⟨i, Nat.lt_succ_self i, exchange, hexchange, hover⟩)
      · rcases h with ⟨j, hj, ⟨-, y, seconds, hy, hgrants, -⟩, -⟩ | hstart | ⟨j, hj, hover⟩
        · exact (htruthy (hordinary.tokens y (List.mem_of_getElem? hy) _ _ hgrants)).elim
        · exact .inr (.inl hstart)
        · exact .inr (.inr ⟨j, Nat.lt_succ_of_lt hj, hover⟩)
  · rw [Current, cacheAt_succ_of_not_asks hasks]
    rcases h with ⟨j, hj, hfetched, hlast⟩ | hstart | ⟨j, hj, hover⟩
    · refine .inl ⟨j, Nat.lt_succ_of_lt hj, hfetched, fun k hjk hk => ?_⟩
      rcases Nat.lt_succ_iff_lt_or_eq.mp hk with hlt | rfl
      · exact hlast k hjk hlt
      · exact hasks
    · exact .inr (.inl hstart)
    · exact .inr (.inr ⟨j, Nat.lt_succ_of_lt hj, hover⟩)

lemma current (hordinary : Ordinary float exchanges) (i : ℕ) : Current float exchanges i := by
  induction i with
  | zero => exact .inr (.inl rfl)
  | succ i ih => exact ih.succ hordinary

/-- A call that does not go out serves a token that is in time. -/
lemma served (hordinary : Ordinary float exchanges) {token : Json}
    (hreturns : Returns float exchanges i token) (hasks : ¬ Asks float exchanges i) :
    ∃ j < i, ∃ expiry, Fetched float exchanges j token expiry ∧
      (∀ exchange, exchanges[i]? = some exchange → exchange.asked < expiry - tokenBuffer) ∧
      ∀ k, j < k → k ≤ i → ¬ Asks float exchanges k := by
  obtain ⟨exchange, cache', hexchange, hok⟩ := hreturns
  have hserves : (cacheAt float exchanges i).Serves exchange.asked := by
    by_contra hnot
    exact hasks ⟨exchange, hexchange, hnot⟩
  rw [run_getAccessToken_of_serves float hserves] at hok
  obtain ⟨rfl, -⟩ := EStateM.Result.ok.inj hok
  have hintime := hserves.2
  rcases current hordinary i with ⟨j, hj, hfetched, hlast⟩ | hstart | ⟨j, hj, x, hx, hover⟩
  · refine ⟨j, hj, _, hfetched, fun exchange' hexchange' => ?_, fun k hjk hk => ?_⟩
    · obtain rfl := Option.some.inj (hexchange.symm.trans hexchange')
      exact hintime
    · rcases Nat.lt_or_eq_of_le hk with hlt | rfl
      · exact hlast k hjk hlt
      · exact hasks
  · have hzero := hordinary.start exchange (List.mem_of_getElem? hexchange)
    rw [hstart, tokenBuffer] at hintime
    linarith
  · have hle := (hordinary.asked_le hj hx hexchange).2
    linarith

/-- After a token has been fetched it is in the cache, until a call goes out that finds its lifetime
over. -/
lemma kept (hordinary : Ordinary float exchanges) {token : Json} {expiry : ℚ}
    (hfetched : Fetched float exchanges j token expiry) (hji : j < i) :
    cacheAt float exchanges i = ⟨token, expiry⟩ ∨
      ∃ k < i, ∃ exchange, exchanges[k]? = some exchange ∧
        expiry - tokenBuffer ≤ exchange.asked := by
  obtain ⟨hasks, y, seconds, hy, hgrants, rfl⟩ := hfetched
  have htruthy := hordinary.tokens y (List.mem_of_getElem? hy) token seconds hgrants
  induction i, hji using Nat.le_induction with
  | base =>
    rcases cacheAt_succ_of_asks hy (not_serves_of_asks hasks hy) with
      ⟨token', seconds', hgrants', hcache, -⟩ | ⟨-, hrefused, -⟩
    · obtain ⟨rfl, rfl⟩ := grants_unique hgrants hgrants'
      exact .inl hcache
    · exact (hrefused token seconds hgrants).elim
  | succ i hi ih =>
    rcases ih with hcache | ⟨k, hk, hover⟩
    · by_cases hasks' : Asks float exchanges i
      · obtain ⟨exchange, hexchange, hnot⟩ := hasks'
        rw [hcache] at hnot
        exact .inr ⟨i, Nat.lt_succ_self i, exchange, hexchange,
          not_lt.mp fun hlt => hnot ⟨htruthy, hlt⟩⟩
      · rw [cacheAt_succ_of_not_asks hasks']
        exact .inl hcache
    · exact .inr ⟨k, Nat.lt_succ_of_lt hk, hover⟩

end Invariant

/-- **Tokens are renewed in time**, and not before, in every run of calls. -/
theorem tokens_renewed (float : String → ℚ) (exchanges : List Exchange)
    (hordinary : Ordinary float exchanges) : Renewed float exchanges where
  served i token hreturns hasks := served hordinary hreturns hasks
  fetched := by
    intro i token hreturns hasks
    obtain ⟨exchange, hexchange, hnot⟩ := id hasks
    rcases cacheAt_succ_of_asks hexchange hnot with
      ⟨token', seconds, hgrants, -, hreturns'⟩ | ⟨-, -, hraises⟩
    · obtain ⟨x, cache, hx, hok⟩ := hreturns
      obtain ⟨x', cache', hx', hok'⟩ := hreturns'
      obtain rfl := Option.some.inj (hx.symm.trans hx')
      obtain ⟨rfl, -⟩ := EStateM.Result.ok.inj (hok.symm.trans hok')
      exact ⟨_, hasks, exchange, seconds, hexchange, hgrants, rfl⟩
    · exact (hraises token hreturns).elim
  spaced := by
    intro j i token expiry hji hfetched hasks exchange hexchange
    have hnot := not_serves_of_asks hasks hexchange
    rcases kept hordinary hfetched hji with hcache | ⟨k, hk, x, hx, hover⟩
    · obtain ⟨-, y, seconds, hy, hgrants, -⟩ := hfetched
      have htruthy := hordinary.tokens y (List.mem_of_getElem? hy) token seconds hgrants
      rw [hcache] at hnot
      exact not_lt.mp fun hlt => hnot ⟨htruthy, hlt⟩
    · exact hover.trans (hordinary.asked_le hk hx hexchange).2

/-! ### Two tokens -/

/-- The document of a token that lives an hour. -/
def hourly (token : String) : Json :=
  .obj [("access_token", .str token), ("expires_in", .int 3600)]

/-- A token is fetched and served, a renewal fails, and the next one does not. -/
def renewal : List Exchange :=
  [⟨0, .ok ⟨200, none, some (hourly "first"), ""⟩, 1⟩, ⟨100, .error (.transport "timed out"), 110⟩,
    ⟨3400, .error (.transport "timed out"), 3410⟩,
    ⟨3420, .ok ⟨200, none, some (hourly "second"), ""⟩, 3421⟩]

lemma truthy_of_hourly {text : String} (htext : text ≠ "") {exchange : Exchange}
    (hdata : exchange.tokenData = .ok (hourly text)) {token : Json} {seconds : ℚ}
    (hgrants : exchange.Grants (fun _ => 0) token seconds) : token.truthy = true := by
  obtain ⟨tokenData, hdata', htoken, -⟩ := hgrants
  obtain rfl := Except.ok.inj (hdata.symm.trans hdata')
  obtain rfl : .str text = token := Except.ok.inj htoken
  simpa [Json.truthy] using htext

theorem tokens_renewed_renewal : Renewed (fun _ => 0) renewal := by
  refine tokens_renewed _ renewal ⟨?_, ?_, ?_, ?_⟩
  · simp [renewal]
  · norm_num [renewal]
  · norm_num [renewal]
  · intro exchange hmem token seconds hgrants
    simp only [renewal, List.mem_cons, List.not_mem_nil, or_false] at hmem
    rcases hmem with rfl | rfl | rfl | rfl
    · have hfirst : "first" ≠ "" := by decide
      exact truthy_of_hourly hfirst rfl hgrants
    · obtain ⟨tokenData, hdata, -⟩ := hgrants
      cases hdata
    · obtain ⟨tokenData, hdata, -⟩ := hgrants
      cases hdata
    · have hsecond : "second" ≠ "" := by decide
      exact truthy_of_hourly hsecond rfl hgrants

end TicketGenius.AccessTokens
