import TicketGenius.ServiceLayer.SeatHoldSpec
import TicketGenius.ServiceLayer.Ticketmaster

/-!
# All or nothing

`acquire_seat_holds` and `release_seat_holds` as one client sees them that no one interrupts, on any
store.  The keys of a call may lie anywhere in the store already: under another order, under the
same order from an earlier call, or twice in the list of the call itself.
-/

namespace TicketGenius.AllOrNothing

open Framework

/-- Both copies of `acquire_seat_holds`, of an adapter that has the Redis client. -/
def acquireCopies (planId : UUID) (seatIds : List String) (orderId : UUID) : List (Service Bool) :=
  [acquireSeatHolds true planId seatIds orderId,
    TicketmasterAdapter.acquireSeatHolds ⟨true⟩ planId seatIds orderId]

/-- What holds of `acquire`, called for an order in the world `w`. -/
structure Exact (acquire : Service Bool) (planId : UUID) (seatIds : List String) (orderId : UUID)
    (w : World) : Prop where
  /-- It returns `True` exactly if the seats are distinct and none of their keys is present, with
  the keys put on top of the store; otherwise it returns `False`, and the store is the old one. -/
  acquires : acquire.run World.handle w =
    if seatIds.Nodup ∧ ∀ key ∈ seatIds.map (seatHoldKey planId), w.redis key = none then
      .ok true { w with
        redis := fun key =>
          if key ∈ seatIds.map (seatHoldKey planId) then some ⟨.text orderId.str, some 600⟩
          else w.redis key }
    else .ok false w
  /-- Releasing what it has acquired restores the store. -/
  restores : ∀ w', acquire.run World.handle w = .ok true w' →
    (releaseSeatHolds true planId seatIds orderId).run World.handle w' = .ok () w

lemma exact_acquireHolds (planId : UUID) (seatIds : List String) (orderId : UUID) (w : World) :
    Exact (acquireHolds true planId seatIds orderId) planId seatIds orderId w where
  acquires := run_acquireHolds seatIds
  restores := by
    intro w' hrun
    rw [run_acquireHolds] at hrun
    split at hrun
    · rename_i havailable
      obtain ⟨-, rfl⟩ := EStateM.Result.ok.inj hrun
      have hback := Redis.Store.release_putAll havailable.2 orderId.str (some seatHoldTtl)
      rw [releaseSeatHolds, if_pos rfl, run_releaseLoop seatIds, seatHold, hback]
    · cases hrun

/-- **Seat holds are acquired all or nothing and released exactly**, from every store and for every
list of seats. -/
theorem acquired_and_released (planId orderId : UUID) (seatIds : List String) (w : World) :
    (∀ acquire ∈ acquireCopies planId seatIds orderId, Exact acquire planId seatIds orderId w) ∧
      (releaseSeatHolds true planId seatIds orderId).run World.handle w =
        .ok () { w with
          redis := fun key =>
            if key ∈ seatIds.map (seatHoldKey planId) ∧ w.redis.Holds key orderId.str then none
            else w.redis key } := by
  refine ⟨?_, run_releaseLoop seatIds⟩
  intro acquire hmem
  have hboth : acquire = acquireHolds true planId seatIds orderId := by
    simpa [acquireCopies, acquireSeatHolds, TicketmasterAdapter.acquireSeatHolds] using hmem
  rw [hboth]
  exact exact_acquireHolds planId seatIds orderId w

end TicketGenius.AllOrNothing
