import TicketGenius.ServiceLayer.SeatHolds
import Mathlib.Data.List.Nodup

/-!
# Uninterrupted runs of the seat hold functions

What `acquire_seat_holds` and `release_seat_holds` do to the store when nobody else sends commands
in between.  The acquire loop sets keys one by one.  Its invariant is that the store is the first
one with the seats acquired so far put on top, all of them free there; so dropping them on the first
conflict leads back to the first store.
-/

namespace TicketGenius

open Framework Service

/-- The keys of some seats. -/
def seatHoldKeys (planId : UUID) (seatIds : List String) : List String :=
  seatIds.map (seatHoldKey planId)

/-- What an order puts under the key of a seat. -/
def seatHold (orderId : UUID) : Redis.Entry := ⟨.text orderId.str, some seatHoldTtl⟩

/-- The seats are pairwise distinct, and no one holds any of them. -/
abbrev Available (s : Redis.Store) (planId : UUID) (seatIds : List String) : Prop :=
  seatIds.Nodup ∧ ∀ key ∈ seatHoldKeys planId seatIds, s key = none

/-- Another seat of a plan has another key. -/
lemma seatHoldKey_injective (planId : UUID) : Function.Injective (seatHoldKey planId) := by
  intro seatId seatId' h
  simpa [seatHoldKey] using h

section Keys

variable {planId : UUID} {seatId : String} {seatIds : List String}

@[simp] lemma mem_seatHoldKeys :
    seatHoldKey planId seatId ∈ seatHoldKeys planId seatIds ↔ seatId ∈ seatIds :=
  List.mem_map_of_injective (seatHoldKey_injective planId)

lemma seatHoldKeys_append (seatIds' : List String) :
    seatHoldKeys planId (seatIds ++ seatIds') =
      seatHoldKeys planId seatIds ++ seatHoldKeys planId seatIds' :=
  List.map_append

end Keys

/-! ## Acquiring -/

section Acquire

variable {planId orderId : UUID} {w : World}

lemma run_dropHolds (seatIds : List String) :
    (dropHolds planId seatIds).run World.handle w =
      .ok () { w with redis := w.redis.dropAll (seatHoldKeys planId seatIds) } := by
  induction seatIds generalizing w with
  | nil => simp [dropHolds, seatHoldKeys]
  | cons seatId seatIds ih =>
    rw [dropHolds, Prog.run_bind_ok World.handle _ (run_redisDelete w _), ih,
      Redis.Store.dropAll_cons]
    rfl

/-- Inside the loop, the next key is free exactly if it was free before the call and is not among
those set so far. -/
lemma loop_free_iff {s : Redis.Store} {acquired : List String} (seatId : String)
    (hw : w.redis = s.putAll (seatHoldKeys planId acquired) (seatHold orderId)) :
    w.redis (seatHoldKey planId seatId) = none ↔
      seatId ∉ acquired ∧ s (seatHoldKey planId seatId) = none := by
  rw [hw, Redis.Store.putAll]
  by_cases hmem : seatId ∈ acquired
  · simp [hmem]
  · simp [hmem]

/-- One more seat. -/
lemma available_concat_iff {s : Redis.Store} {acquired : List String} {seatId : String}
    (hacquired : Available s planId acquired) :
    Available s planId (acquired ++ [seatId]) ↔
      seatId ∉ acquired ∧ s (seatHoldKey planId seatId) = none := by
  obtain ⟨hnodup, hfree⟩ := hacquired
  have hconcat : (acquired ++ [seatId]).Nodup ↔ seatId ∉ acquired := by
    rw [← List.concat_eq_append, List.nodup_concat]
    exact and_iff_left hnodup
  have hkeys : (∀ key ∈ seatHoldKeys planId (acquired ++ [seatId]), s key = none) ↔
      s (seatHoldKey planId seatId) = none := by
    rw [seatHoldKeys_append, List.forall_mem_append, and_iff_right hfree]
    exact List.forall_mem_singleton
  exact and_congr hconcat hkeys

/-- What is available together is available in part. -/
lemma Available.left {s : Redis.Store} {seatIds seatIds' : List String}
    (h : Available s planId (seatIds ++ seatIds')) : Available s planId seatIds := by
  obtain ⟨hnodup, hfree⟩ := h
  rw [seatHoldKeys_append, List.forall_mem_append] at hfree
  exact ⟨hnodup.of_append_left, hfree.1⟩

/-- **The acquire loop**, from a store in which the seats acquired so far lie on top of `s`. -/
theorem run_acquireLoop {s : Redis.Store} {acquired : List String} (seatIds : List String)
    (hacquired : Available s planId acquired)
    (hw : w.redis = s.putAll (seatHoldKeys planId acquired) (seatHold orderId)) :
    (acquireLoop planId orderId acquired seatIds).run World.handle w =
      if Available s planId (acquired ++ seatIds) then
        .ok true { w with
          redis := s.putAll (seatHoldKeys planId (acquired ++ seatIds)) (seatHold orderId) }
      else .ok false { w with redis := s } := by
  induction seatIds generalizing acquired w with
  | nil =>
    rw [List.append_nil, if_pos hacquired, ← hw]
    rfl
  | cons seatId seatIds ih =>
    have hiff := (loop_free_iff seatId hw).trans (available_concat_iff hacquired).symm
    have hstart : acquired ++ seatId :: seatIds = (acquired ++ [seatId]) ++ seatIds :=
      List.append_cons ..
    by_cases hfree : w.redis (seatHoldKey planId seatId) = none
    · have hset := run_redisSetNx w (seatHoldKey planId seatId) (.text orderId.str) seatHoldTtl
      rw [Redis.execute_setNx_free hfree] at hset
      rw [acquireLoop, Prog.run_bind_ok World.handle _ hset, if_pos rfl, hstart]
      refine ih (hiff.mp hfree) ?_
      rw [hw, seatHoldKeys_append]
      exact Redis.Store.putAll_concat ..
    · have hset := run_redisSetNx w (seatHoldKey planId seatId) (.text orderId.str) seatHoldTtl
      rw [Redis.execute_setNx_taken hfree] at hset
      have hnot : ¬ Available s planId (acquired ++ seatId :: seatIds) := by
        rw [hstart]
        exact fun h => hfree (hiff.mpr h.left)
      have hback : w.redis.dropAll (seatHoldKeys planId acquired) = s := by
        rw [hw]
        exact Redis.Store.dropAll_putAll hacquired.2 _
      rw [acquireLoop, Prog.run_bind_ok World.handle _ hset, if_neg Bool.false_ne_true,
        if_neg hnot, Prog.run_bind_ok World.handle _ (run_dropHolds acquired), hback]
      rfl

/-- **`acquire_seat_holds` takes all or nothing.** -/
theorem run_acquireHolds (seatIds : List String) :
    (acquireHolds true planId seatIds orderId).run World.handle w =
      if Available w.redis planId seatIds then
        .ok true { w with
          redis := w.redis.putAll (seatHoldKeys planId seatIds) (seatHold orderId) }
      else .ok false w := by
  have hstart : Available w.redis planId [] := ⟨List.nodup_nil, by simp [seatHoldKeys]⟩
  have hw : w.redis = w.redis.putAll (seatHoldKeys planId []) (seatHold orderId) :=
    (Redis.Store.putAll_nil ..).symm
  exact run_acquireLoop seatIds hstart hw

end Acquire

/-! ## Releasing -/

section Release

variable {planId orderId : UUID} {w : World}

/-- **`release_seat_holds` removes the order's own holds**, and nothing else. -/
theorem run_releaseLoop (seatIds : List String) :
    (releaseLoop planId orderId seatIds).run World.handle w =
      .ok () { w with
        redis := w.redis.release (seatHoldKeys planId seatIds) orderId.str } := by
  induction seatIds generalizing w with
  | nil => simp [releaseLoop, seatHoldKeys]
  | cons seatId seatIds ih =>
    rw [releaseLoop, Prog.run_bind_ok World.handle _ (run_redisGet w _)]
    by_cases hown : w.redis.Holds (seatHoldKey planId seatId) orderId.str
    · rw [if_pos (Redis.Store.holds_iff.mp hown),
        Prog.run_bind_ok World.handle _ (run_redisDelete w _), ih,
        Redis.Store.release_cons_of_holds _ hown]
      rfl
    · rw [if_neg (fun h => hown (Redis.Store.holds_iff.mpr h)), ih,
        Redis.Store.release_cons_of_not_holds _ hown]
      rfl

lemma run_releaseSeatHolds (redis : Bool) (seatIds : List String) :
    (releaseSeatHolds redis planId seatIds orderId).run World.handle w =
      .ok () (if redis then { w with
        redis := w.redis.release (seatHoldKeys planId seatIds) orderId.str } else w) := by
  cases redis with
  | false => rfl
  | true => exact run_releaseLoop seatIds

end Release

end TicketGenius
