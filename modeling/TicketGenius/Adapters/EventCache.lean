import TicketGenius.Adapters.MakeRequest
import TicketGenius.Domain.Documents
import TicketGenius.Framework.Sweep

/-!
# The event cache

`get_plan` of `adapters/ticketmaster.py` and the cache of single events under `tm:event:{id}`: what
puts an event there, and what invalidates it.  `invalidate_all_event_cache` and the second half of
`handle_plan_updated_webhook` are the same loop over `SCAN`, with another pattern; it works on the
database alone, while others use it.
-/

namespace TicketGenius

open Framework

/-! ## Keys -/

/-- `tm:event:{event_id}` -/
def eventKey (eventId : String) : String := "tm:event:" ++ eventId

/-- The pattern `prefix*` of `SCAN`, for a prefix without special characters. -/
def MatchesStar (start key : String) : Prop := start.toList <+: key.toList

instance (start key : String) : Decidable (MatchesStar start key) :=
  inferInstanceAs (Decidable (_ <+: _))

def eventTtl : ℕ := 300

/-! ## One event -/

namespace HttpAdapter

open Http

variable (lib : TextLibrary) (self : HttpAdapter)

/-- `_cache_event` -/
def cacheEvent (event : Json) : Http Unit :=
  if self.redis then do
    let eventId ← Prog.ofExcept (event.getD "id" .null)
    if eventId.truthy then redisSetex (eventKey eventId.format) eventTtl (.json event)
  else return ()

/-- `get_cached_event` -/
def getCachedEvent (eventId : String) : Http (Option Json) :=
  if self.redis then do
    match ← redisGet (eventKey eventId) with
    | none => return none
    | some cached =>
      if cached.truthy then do
        let event ← Prog.ofExcept (jsonLoads cached)
        return some event
      else return none
  else return none

/-- The arguments of `get_plan`'s request. -/
def planCall (planId : String) : RequestCall where
  method := "GET"
  path := "/events/" ++ planId ++ ".json"
  params := .empty
  useCache := true

/-- What `get_plan` makes of the outcome of its request: `PlanNotFoundError` is caught. -/
def usePlan : Except PyError Json → Http (Option Json)
  | .ok response => do
    self.cacheEvent response
    return some response
  | .error (.domain e) => if e.code = .planNotFound then return none else .raise (.domain e)
  | .error e => .raise e

/-- `get_plan` when the cache has nothing. -/
def fetchPlan (planId : String) : Http (Option Json) :=
  (self.makeRequest lib (planCall planId)).attempt >>= self.usePlan

/-- `if cached: return cached`, and otherwise the request. -/
def serveOrFetch (planId : String) : Option Json → Http (Option Json)
  | some event => if event.truthy then return some event else self.fetchPlan lib planId
  | none => self.fetchPlan lib planId

/-- `get_plan` -/
def getPlan (planId : String) : Http (Option Json) :=
  self.getCachedEvent planId >>= self.serveOrFetch lib planId

/-- `invalidate_event_cache` -/
def invalidateEventCache (eventId : String) : Http Unit :=
  if self.redis then Prog.perform (S := requesting) (.redis (.delete (eventKey eventId)))
  else return ()

end HttpAdapter

/-! ## All events -/

namespace Redis

/-- A key is in the database. -/
def Store.Has (s : Store) (key : String) : Prop := s key ≠ none

/-- `delete(*keys)` deletes exactly these. -/
lemma deletes_dropAll : Deletes Store.Has fun keys s => s.dropAll keys where
  has_delete := by
    intro keys s key
    by_cases hkey : key ∈ keys
    · simp [Store.Has, Store.dropAll, hkey]
    · simp [Store.Has, Store.dropAll, hkey]

/-- The database after a sweep, and whether the sweep has come to its end. -/
def sweepStore (env : Environment String Store) (rounds : ℕ) (s : Store) : Store :=
  ((sweep rounds 0 : Prog (sweeping String) PyError Bool).after
    (env.handle fun keys s => s.dropAll keys) (s, 0)).1

def SweepEnds (env : Environment String Store) (rounds : ℕ) (s : Store) : Prop :=
  (sweep rounds 0 : Prog (sweeping String) PyError Bool).result
    (env.handle fun keys s => s.dropAll keys) (s, 0) = .ok true

/-- The scans of a sweep keep the promise of `SCAN` for a pattern `start*`. -/
def SweepComplete (env : Environment String Store) (start : String) (rounds : ℕ) (s : Store) :
    Prop :=
  Complete env Store.Has (fun keys s => s.dropAll keys) (MatchesStar start)
    (sweep rounds 0 : Prog (sweeping String) PyError Bool) (s, 0)

end Redis

namespace HttpAdapter

open Redis

variable (self : HttpAdapter)

/-- `invalidate_all_event_cache`, with the database that others use meanwhile. -/
def invalidateAllEventCache (env : Environment String Store) (rounds : ℕ) (s : HttpState) :
    HttpState :=
  if self.redis then { s with redis := sweepStore env rounds s.redis } else s

/-- `handle_plan_updated_webhook`. -/
def handlePlanUpdatedWebhook (provided : Provided) (eventId : String)
    (env : Environment String Store) (rounds : ℕ) (s : HttpState) : HttpState :=
  let s := (self.invalidateEventCache eventId).after (HttpState.handle provided) s
  if self.redis then { s with redis := sweepStore env rounds s.redis } else s

end HttpAdapter

end TicketGenius
