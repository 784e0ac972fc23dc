import TicketGenius.Adapters.MakeRequest
import TicketGenius.Domain.Documents

/-!
# The access token

`_get_access_token` of `adapters/ticketmaster.py`: the two attributes that cache a token, and the
call that fills them.  The attributes are assigned one after the other, and what the provider sends
is not checked, so a call can raise when it has assigned the first and not the second.
-/

namespace TicketGenius

/-- `_access_token` and `_token_expires_at`. -/
structure TokenCache where
  accessToken : Json
  tokenExpiresAt : ℚ

/-- As `__init__` leaves them. -/
def TokenCache.empty : TokenCache := ⟨.null, 0⟩

/-- What `_get_access_token` can raise. -/
inductive TokenError
  /-- `httpx.post` raises. -/
  | transport (message : String)
  /-- `raise_for_status()` raises. -/
  | httpStatus (status : ℕ)
  | python (e : PyError)

/-- What a call meets: the reading of the clock at its beginning, the reply to `httpx.post`, and the
reading after it. -/
structure Exchange where
  asked : ℚ
  reply : Except TokenError Response
  answered : ℚ

/-- Five minutes. -/
def tokenBuffer : ℚ := 300

/-- A number as `time.time() + number` takes it, given what number a float is. -/
def Json.seconds (float : String → ℚ) : Json → Except PyError ℚ
  | .int n => .ok n
  | .bool b => .ok (if b then 1 else 0)
  | .float r => .ok (float r)
  | document => .error (.typeError
      s!"unsupported operand type(s) for +: 'float' and '{document.typeName}'")

/-- `token_data`: what `response.json()` returns, after `raise_for_status()`. -/
def Exchange.tokenData (self : Exchange) : Except TokenError Json := do
  let response ← self.reply
  unless response.IsSuccess do throw (.httpStatus response.status)
  response.json.mapError .python

/-- `token_data["access_token"]` -/
def Json.accessToken (tokenData : Json) : Except TokenError Json :=
  (tokenData.item "access_token").mapError .python

/-- `token_data.get("expires_in", 3600)`, as it is added to the time. -/
def Json.expiresIn (float : String → ℚ) (tokenData : Json) : Except TokenError ℚ :=
  (do (← tokenData.getD "expires_in" (.int 3600)).seconds float).mapError .python

/-- The second half of `_get_access_token`: a new token. -/
def fetchAccessToken (float : String → ℚ) (exchange : Exchange) :
    EStateM TokenError TokenCache Json := do
  let tokenData ← MonadExcept.ofExcept exchange.tokenData
  let accessToken ← MonadExcept.ofExcept tokenData.accessToken
  modify fun self => { self with accessToken := accessToken }
  let expiresIn ← MonadExcept.ofExcept (tokenData.expiresIn float)
  modify fun self => { self with tokenExpiresAt := exchange.answered + expiresIn }
  return (← get).accessToken

/-- The token is used as it is. -/
def TokenCache.Serves (self : TokenCache) (now : ℚ) : Prop :=
  self.accessToken.truthy = true ∧ now < self.tokenExpiresAt - tokenBuffer

instance (self : TokenCache) (now : ℚ) : Decidable (self.Serves now) :=
  inferInstanceAs (Decidable (_ ∧ _))

/-- `_get_access_token` -/
def getAccessToken (float : String → ℚ) (exchange : Exchange) :
    EStateM TokenError TokenCache Json := do
  if (← get).Serves exchange.asked then return (← get).accessToken
  else fetchAccessToken float exchange

/-! ## What a call does -/

/-- The reply brings a token, for so many seconds. -/
def Exchange.Grants (float : String → ℚ) (exchange : Exchange) (token : Json) (seconds : ℚ) :
    Prop :=
  ∃ tokenData, exchange.tokenData = .ok tokenData ∧ tokenData.accessToken = .ok token ∧
    tokenData.expiresIn float = .ok seconds

/-- What a new token can come to: it is cached with its lifetime, or the reply does not bring one
and the call raises, with the cache as it was or with a token beside the old lifetime. -/
inductive FetchOutcome (float : String → ℚ) (exchange : Exchange) (self : TokenCache) :
    EStateM.Result TokenError TokenCache Json → Prop
  | granted (token : Json) (seconds : ℚ) (grants : exchange.Grants float token seconds) :
      FetchOutcome float exchange self (.ok token ⟨token, exchange.answered + seconds⟩)
  | failed (e : TokenError) (accessToken : Json)
      (refused : ∀ token seconds, ¬ exchange.Grants float token seconds) :
      FetchOutcome float exchange self (.error e ⟨accessToken, self.tokenExpiresAt⟩)

section Outcome

variable (float : String → ℚ) (exchange : Exchange) (self : TokenCache)

@[simp] lemma TokenCache.run_ofExcept_ok {α : Type} (a : α) :
    (MonadExcept.ofExcept (.ok a) : EStateM TokenError TokenCache α).run self = .ok a self := rfl

@[simp] lemma TokenCache.run_ofExcept_error {α : Type} (e : TokenError) :
    (MonadExcept.ofExcept (.error e) : EStateM TokenError TokenCache α).run self = .error e self :=
  rfl

@[simp] lemma TokenCache.run_accessToken :
    (accessToken <$> get : EStateM TokenError TokenCache Json).run self =
      .ok self.accessToken self := rfl

lemma fetchAccessToken_outcome :
    FetchOutcome float exchange self ((fetchAccessToken float exchange).run self) := by
  rcases hdata : exchange.tokenData with e | tokenData
  · have hrun : (fetchAccessToken float exchange).run self = .error e self := by
      simp [fetchAccessToken, hdata]
    rw [hrun]
    refine .failed e self.accessToken fun token seconds hgrants => ?_
    obtain ⟨tokenData, hdata', -⟩ := hgrants
    rw [hdata] at hdata'
    cases hdata'
  · rcases htoken : tokenData.accessToken with e | token
    · have hrun : (fetchAccessToken float exchange).run self = .error e self := by
        simp [fetchAccessToken, hdata, htoken]
      rw [hrun]
      refine .failed e self.accessToken fun token seconds hgrants => ?_
      obtain ⟨tokenData', hdata', htoken', -⟩ := hgrants
      obtain rfl := Except.ok.inj (hdata.symm.trans hdata')
      rw [htoken] at htoken'
      cases htoken'
    · rcases hexpires : tokenData.expiresIn float with e | seconds
      · have hrun : (fetchAccessToken float exchange).run self =
            .error e ⟨token, self.tokenExpiresAt⟩ := by
          simp [fetchAccessToken, hdata, htoken, hexpires]
        rw [hrun]
        refine .failed e token fun token' seconds hgrants => ?_
        obtain ⟨tokenData', hdata', -, hexpires'⟩ := hgrants
        obtain rfl := Except.ok.inj (hdata.symm.trans hdata')
        rw [hexpires] at hexpires'
        cases hexpires'
      · have hrun : (fetchAccessToken float exchange).run self =
            .ok token ⟨token, exchange.answered + seconds⟩ := by
          simp [fetchAccessToken, hdata, htoken, hexpires]
        rw [hrun]
        exact .granted token seconds ⟨tokenData, hdata, htoken, hexpires⟩

variable {exchange self}

/-- A call that finds a token in time returns it. -/
lemma run_getAccessToken_of_serves (h : self.Serves exchange.asked) :
    (getAccessToken float exchange).run self = .ok self.accessToken self := by
  simp [getAccessToken, h]

lemma run_getAccessToken_of_not (h : ¬ self.Serves exchange.asked) :
    (getAccessToken float exchange).run self = (fetchAccessToken float exchange).run self := by
  simp [getAccessToken, h]

end Outcome

end TicketGenius
