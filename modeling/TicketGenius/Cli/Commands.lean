import TicketGenius.Language.Rational
import TicketGenius.ServiceLayer.MessageBus

/-!
# The commands of the command line

The commands of `cli/commands.py` that work on orders and plans: what they pass to the bus, and what
they print without it.
-/

namespace TicketGenius

/-- `float(text)`, read as exact. -/
def StandardLibrary.float (lib : StandardLibrary) (text : String) : Except PyError ℚ :=
  match lib.decimal text with
  | .ok d => .ok d.toRat
  | .error _ => .error (.valueError ("could not convert string to float: " ++ Json.quote text))

namespace Cli

/-! ## Refunds -/

/-- The command `create_refund` passes to the bus, without the reason, which no handler reads.
`Money` takes an `int` by way of `Decimal(str(amount))`. -/
def createRefund (lib : StandardLibrary) (orderId : UUID) (amount : String) :
    Except PyError RefundOrderCommand := do
  let money ← Money.make (.ofInt (truncate ((← lib.float amount) * 100))) .eur
  return { orderId := orderId, amount := some money }

end Cli

/-! ## Stale plans -/

/-- An hour, in microseconds. -/
def hour : ℤ := 3600 * 1000000

/-- `timedelta(hours=hours)`, in microseconds. -/
def timedelta (hours : ℤ) : Except PyError ℤ :=
  let days := hours / 24
  if |days| ≤ 999999999 then .ok (hours * hour)
  else if -2 ^ 31 ≤ days ∧ days < 2 ^ 31 then
    .error (.overflowError s!"days={days}; must have magnitude <= 999999999")
  else .error (.overflowError "Python int too large to convert to C int")

lemma timedelta_eq_ok {hours delta : ℤ} :
    timedelta hours = .ok delta ↔ |hours / 24| ≤ 999999999 ∧ delta = hours * hour := by
  unfold timedelta
  by_cases hdays : |hours / 24| ≤ 999999999
  · simp [hdays, eq_comm]
  · dsimp only
    rw [if_neg hdays]
    split <;> simp [hdays]

namespace DateTime

/-- `datetime.min` and `datetime.max`, in UTC. -/
def min : DateTime := ⟨-62135596800 * 1000000⟩

def max : DateTime := ⟨253402300800 * 1000000 - 1⟩

/-- `self - delta` -/
def sub (self : DateTime) (delta : ℤ) : Except PyError DateTime :=
  let micros := self.micros - delta
  if min.micros ≤ micros ∧ micros ≤ max.micros then .ok ⟨micros⟩
  else .error (.overflowError "date value out of range")

lemma sub_eq_ok {self result : DateTime} {delta : ℤ} :
    self.sub delta = .ok result ↔
      (min.micros ≤ self.micros - delta ∧ self.micros - delta ≤ max.micros) ∧
        result = ⟨self.micros - delta⟩ := by
  unfold sub
  by_cases hrange : min.micros ≤ self.micros - delta ∧ self.micros - delta ≤ max.micros
  · simp only [if_pos hrange, Except.ok.injEq, and_iff_right hrange, eq_comm]
  · dsimp only
    rw [if_neg hrange]
    simp only [hrange, false_and, reduceCtorEq]

end DateTime

/-- `Plan.last_synced_at < threshold`, as the database compares. -/
def Plan.syncedBefore (self : Plan) (threshold : DateTime) : Bool :=
  match self.lastSyncedAt with
  | some synced => synced.micros < threshold.micros
  | none => false

namespace Cli

open MessageBus

/-- A plan as `sync_stale` shows it. -/
structure StalePlan where
  planId : UUID
  tmPlanId : String
  name : Json
  lastSyncedAt : Option DateTime

/-- What `sync_stale` prints: the stale plans, what the bus returns, or the exception it raises. -/
inductive SyncStaleOutput
  | wouldSync (count : ℕ) (thresholdHours : ℤ) (plans : List StalePlan)
  | synced (result : Returned)
  | error (e : Raised)

def stalePlan (p : Plan) : StalePlan := ⟨p.planId, p.tmPlanId, p.name, p.lastSyncedAt⟩

/-- The dry run, given the stored plans. -/
def wouldSync (now : DateTime) (thresholdHours : ℤ) (stored : List Plan) :
    Except PyError SyncStaleOutput := do
  let threshold ← now.sub (← timedelta thresholdHours)
  let stalePlans := stored.filter (·.syncedBefore threshold)
  return .wouldSync stalePlans.length thresholdHours (stalePlans.map stalePlan)

/-- `sync_stale`, given the stored plans and `message_bus.handle_command`. -/
def syncStale {S : Type} (now : DateTime) (stored : S → List Plan)
    (handleCommand : Command → Call S) (thresholdHours : ℤ) (dryRun : Bool) (s : S) :
    Except PyError SyncStaleOutput × S :=
  if dryRun then (wouldSync now thresholdHours (stored s), s)
  else
    match handleCommand (.syncPlans { since := none, staleOnly := true }) s with
    | (.ok result, s') => (.ok (.synced result), s')
    | (.error e, s') => (.ok (.error e), s')

end Cli

end TicketGenius
