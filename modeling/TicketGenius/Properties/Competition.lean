import TicketGenius.Framework.Interleaving
import TicketGenius.Framework.TryLock
import TicketGenius.ServiceLayer.SeatHoldSpec
import TicketGenius.ServiceLayer.Ticketmaster

/-!
# Buyers who compete for seats

Any number of calls of `acquire_seat_holds` run at the same time, and Redis executes their commands
in any order.  No lifetime ends.  A call is a party of `Framework.TryLock` whose resources are the
keys of its seats: `SET NX` takes a key or finds it taken, and after the first taken one each `DEL`
gives a key back (`Runs.exec`).

The loop takes the seats in the order of the call, whatever that is.  So two calls that list the
same two seats in different orders can make each other return `False`.  Where the lists do not go in
a circle, one call returns `True`.

## Main results

* `Runs.exec`: one command of one call is one step of its party.
* `someone_wins`: every interleaving of calls that list their seats without a circle.
* `both_lose`: two calls that do not.
-/

namespace TicketGenius.Competition

open Framework Service

/-! ## Calls -/

/-- A call of one of the two copies of `acquire_seat_holds`, with Redis. -/
structure Call where
  adapter : Bool
  planId : UUID
  seatIds : List String
  orderId : UUID

namespace Call

/-- What the call runs. -/
def program (c : Call) : Service Bool :=
  if c.adapter then TicketmasterAdapter.acquireSeatHolds ⟨true⟩ c.planId c.seatIds c.orderId
  else acquireSeatHolds true c.planId c.seatIds c.orderId

/-- The keys of its seats, in the order of the call. -/
def keys (c : Call) : List String := seatHoldKeys c.planId c.seatIds

lemma program_eq (c : Call) : c.program = acquireLoop c.planId c.orderId [] c.seatIds := by
  unfold program
  split
  · rfl
  · rfl

end Call

/-- Some calls that are about to begin. -/
def start {ι : Type} (w : World) (calls : ι → Call) : Threads service ι PyError Bool World where
  shared := w
  thread := fun i => (calls i).program

/-! ## A call as a party -/

/-- The keys that are present. -/
def takenKeys (w : World) : Set String := {key | w.redis key ≠ none}

lemma takenKeys_set (w : World) (key : String) (entry : Redis.Entry) :
    takenKeys { w with redis := Function.update w.redis key (some entry) } =
      insert key (takenKeys w) := by
  ext k
  rcases eq_or_ne k key with rfl | hk
  · simp [takenKeys]
  · simp [takenKeys, hk]

lemma takenKeys_delete (w : World) (key : String) :
    takenKeys { w with redis := Function.update w.redis key none } = takenKeys w \ {key} := by
  ext k
  rcases eq_or_ne k key with rfl | hk
  · simp [takenKeys]
  · simp [takenKeys, hk]

/-- Where a program is in a call. -/
inductive Runs (planId orderId : UUID) : Service Bool → TryLock.Phase String → Prop
  | taking (acquired seatIds : List String) :
    Runs planId orderId (acquireLoop planId orderId acquired seatIds)
      (.taking (seatHoldKeys planId acquired) (seatHoldKeys planId seatIds))
  | backing (seatIds : List String) (blocked : String) :
    Runs planId orderId (dropHolds planId seatIds >>= fun _ => .pure false)
      (.backing (seatHoldKeys planId seatIds) blocked)

namespace Runs

variable {planId orderId : UUID} {p : Service Bool} {phase : TryLock.Phase String}

/-- The next command of the acquire loop. -/
lemma exec_acquireLoop (acquired : List String) (seatId : String) (seatIds : List String)
    (w : World) :
    (acquireLoop planId orderId acquired (seatId :: seatIds)).exec World.handle w =
      let reply := Redis.execute
        (.setNx (seatHoldKey planId seatId) (.text orderId.str) seatHoldTtl) w.redis
      (if reply.1 then acquireLoop planId orderId (acquired ++ [seatId]) seatIds
        else dropHolds planId acquired >>= fun _ => .pure false, { w with redis := reply.2 }) :=
  rfl

/-- **One command of a call** is one step of its party; a call that has returned does nothing. -/
theorem exec (h : Runs planId orderId p phase) (w : World) :
    p.exec World.handle w = (p, w) ∨
      ∃ phase', Runs planId orderId (p.exec World.handle w).1 phase' ∧
        phase.Step (takenKeys w) (takenKeys (p.exec World.handle w).2) phase' := by
  cases h with
  | taking acquired seatIds =>
    cases seatIds with
    | nil => exact .inl rfl
    | cons seatId seatIds =>
      refine .inr ?_
      rw [exec_acquireLoop]
      by_cases hfree : w.redis (seatHoldKey planId seatId) = none
      · rw [Redis.execute_setNx_free hfree, takenKeys_set]
        refine ⟨_, .taking (acquired ++ [seatId]) seatIds, ?_⟩
        rw [seatHoldKeys_append]
        exact .take _ _ _ (not_not.mpr hfree)
      · rw [Redis.execute_setNx_taken hfree]
        exact ⟨_, .backing acquired _, .block _ _ _ hfree⟩
  | backing seatIds blocked =>
    cases seatIds with
    | nil => exact .inl rfl
    | cons seatId seatIds =>
      have hexec : (dropHolds planId (seatId :: seatIds) >>= fun _ => .pure false).exec
          World.handle w = (dropHolds planId seatIds >>= fun _ => .pure false,
            { w with redis := Function.update w.redis (seatHoldKey planId seatId) none }) := rfl
      rw [hexec, takenKeys_delete]
      exact .inr ⟨_, .backing seatIds blocked, .back _ _ _⟩

/-- A call that has returned has taken all its keys, or given all back. -/
lemma finished {b : Bool} (h : Runs planId orderId (.pure b) phase) :
    phase.Finished ∧ (∀ taken, phase = .taking taken [] → b = true) := by
  generalize hp : (.pure b : Service Bool) = p at h
  cases h with
  | taking acquired seatIds =>
    cases seatIds with
    | nil => exact ⟨rfl, fun _ _ => Prog.pure.inj hp⟩
    | cons seatId seatIds => cases hp
  | backing seatIds blocked =>
    cases seatIds with
    | nil => exact ⟨rfl, fun _ h => by cases h⟩
    | cons seatId seatIds => cases hp

end Runs

/-! ## All calls -/

section Calls

variable {ι : Type} {calls : ι → Call}

/-- The threads are parties that want the keys of the calls. -/
structure Simulated (calls : ι → Call) (c : Threads service ι PyError Bool World)
    (parties : TryLock.Parties ι String) : Prop where
  invariant : TryLock.Invariant (fun i => (calls i).keys) parties
  taken : parties.taken = takenKeys c.shared
  runs : ∀ i, Runs (calls i).planId (calls i).orderId (c.thread i) (parties.phase i)

lemma simulated_start {w : World} (hfree : ∀ i, ∀ key ∈ (calls i).keys, w.redis key = none) :
    Simulated calls (start w calls)
      (.init (fun i => (calls i).keys) (takenKeys w)) where
  invariant := .init fun i key hkey hpresent => hpresent (hfree i key hkey)
  taken := rfl
  runs := by
    intro i
    show Runs _ _ (calls i).program _
    rw [Call.program_eq]
    exact .taking [] (calls i).seatIds

/-- **Step lemma.** -/
lemma Simulated.exec [DecidableEq ι] {c : Threads service ι PyError Bool World}
    {parties : TryLock.Parties ι String} (h : Simulated calls c parties) (i : ι) :
    ∃ parties', Simulated calls (c.exec World.handle i) parties' := by
  rcases (h.runs i).exec c.shared with hdone | ⟨phase', hruns, hstep⟩
  · have hsame : c.exec World.handle i = c := by
      rw [Threads.exec, hdone, Function.update_eq_self]
    rw [hsame]
    exact ⟨parties, h⟩
  · rw [← h.taken] at hstep
    refine ⟨_, h.invariant.step i hstep, rfl, ?_⟩
    intro j
    rcases eq_or_ne j i with rfl | hj
    · simpa [Threads.exec] using hruns
    · simpa [Threads.exec, hj] using h.runs j

/-- No circle of seats exists in which some call lists each before the next. -/
abbrev NoCircle (calls : ι → Call) : Prop := TryLock.Acyclic fun i => (calls i).keys

/-- **Competing buyers cannot all lose** if they do not list their seats in a circle: however the
commands of the calls are interleaved, when all have returned, one has returned `True`. -/
theorem someone_wins [DecidableEq ι] [Finite ι] [Nonempty ι] (calls : ι → Call)
    (hcircle : NoCircle calls) (w : World)
    (hfree : ∀ i, ∀ key ∈ (calls i).keys, w.redis key = none) (schedule : List ι)
    (hdone : ∀ i, ∃ b, (run (Threads.exec World.handle) (start w calls) schedule).thread i =
      .pure b) :
    ∃ i, (run (Threads.exec World.handle) (start w calls) schedule).thread i = .pure true := by
  obtain ⟨parties, hsim⟩ := run_invariant
    (I := fun c => ∃ parties, Simulated calls c parties)
    (fun c i ⟨_, h⟩ => h.exec i) ⟨_, simulated_start hfree⟩ schedule
  choose b hb using hdone
  have hruns : ∀ i, Runs (calls i).planId (calls i).orderId (.pure (b i)) (parties.phase i) := by
    intro i
    rw [← hb i]
    exact hsim.runs i
  obtain ⟨i, taken, hwon⟩ := TryLock.exists_won hcircle hsim.invariant fun i =>
    (hruns i).finished.1
  refine ⟨i, ?_⟩
  rw [hb i, (hruns i).finished.2 taken hwon]

end Calls

/-! ### Two buyers and two seats -/

/-- Buyer `b` wants the seats in this order. -/
def buyer (b : Bool) (seatIds : List String) : Call where
  adapter := true
  planId := .nil
  seatIds := seatIds
  orderId := if b then .max else .nil

/-- Both list `A` before `B`: the one that gets `A` wins. -/
theorem one_of_two_wins :
    let calls := fun b : Bool => buyer b ["A-1-1", "B-1-1"]
    ∃ b, (run (Threads.exec World.handle) (start World.empty calls)
      [true, false, true]).thread b = .pure true := by
  intro calls
  apply someone_wins calls
  · let rank : String → ℕ := fun key => if key = seatHoldKey .nil "A-1-1" then 0 else 1
    exact TryLock.acyclic_of_rank rank (by decide)
  · intro b key hkey
    rfl
  · intro b
    cases b with
    | false => exact ⟨false, rfl⟩
    | true => exact ⟨true, rfl⟩

/-- They list the two seats in different orders, and both return `False`. -/
theorem both_lose :
    ¬ ∀ (ι : Type) [DecidableEq ι] [Finite ι] [Nonempty ι] (calls : ι → Call) (w : World),
      (Function.Injective fun i => (calls i).orderId) →
      (∀ i, (calls i).seatIds ≠ [] ∧ (calls i).seatIds.Nodup) →
      (∀ i, ∀ key ∈ (calls i).keys, w.redis key = none) → ∀ schedule : List ι,
      (∀ i, ∃ b, (run (Threads.exec World.handle) (start w calls) schedule).thread i = .pure b) →
      ∃ i, (run (Threads.exec World.handle) (start w calls) schedule).thread i = .pure true := by
  intro h
  let calls := fun b : Bool => buyer b (if b then ["A-1-1", "B-1-1"] else ["B-1-1", "A-1-1"])
  have hlost : ∀ b, (run (Threads.exec World.handle) (start World.empty calls)
      [true, false, true, false, true, false]).thread b = .pure false := by
    intro b
    cases b with
    | false => rfl
    | true => rfl
  obtain ⟨b, hb⟩ := h Bool calls World.empty (by decide) (by decide) (fun _ _ _ => rfl)
    [true, false, true, false, true, false] fun b => ⟨false, hlost b⟩
  rw [hlost b] at hb
  cases hb

end TicketGenius.Competition
