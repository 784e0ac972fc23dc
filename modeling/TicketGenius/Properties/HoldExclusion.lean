import TicketGenius.Framework.Interleaving
import TicketGenius.ServiceLayer.Ticketmaster
import Mathlib.Data.List.Nodup
import Mathlib.Data.Set.Insert
import Mathlib.Data.Set.Lattice
import Mathlib.Order.CompletePartialOrder
import Mathlib.Order.Disjoint

/-!
# Mutual exclusion of seat holds

Any number of orders run `acquire_seat_holds` and `release_seat_holds`, each order one call after
the other, and Redis executes their commands one by one in any order.  No lifetime ends.

What an order knows of the store is its `HoldView`: the keys that hold its id (`mine`), those of
them it acquired with a call that returned `True` and has not begun to release (`held`), those the
present call has set and not deleted again (`fresh`), and those that held its id when the present
call started (`before`).  The contract of the order allows it to write its own id, and to delete
only keys of `mine` that are not `held`.  That is what the acquire loop and its compensation, and
the release loop with its `GET` before `DEL`, are shown to do (`wp_acquireLoop`,
`wp_releaseLoop`); that orders which do so never get in each other's way is `views_accurate`.

## Main results

* `views_accurate`: one command of one order keeps every order's view accurate.
* `Clients.Sound.step`: one step of the system.
* `hold_exclusion`: every run.
-/

namespace TicketGenius.HoldExclusion

open Framework Service

/-! ## Calls -/

/-- A call of one of the two functions. -/
inductive Call
  | acquire (planId : UUID) (seatIds : List String)
  | release (planId : UUID) (seatIds : List String)

/-- The keys of the seats of a call. -/
def Call.keys : Call → List String
  | .acquire planId seatIds => seatIds.map (seatHoldKey planId)
  | .release planId seatIds => seatIds.map (seatHoldKey planId)

/-- The call made by an order, with Redis; `release_seat_holds` returns nothing, here `true`. -/
def Call.program (orderId : UUID) : Call → Service Bool
  | .acquire planId seatIds => acquireSeatHolds true planId seatIds orderId
  | .release planId seatIds => do
    releaseSeatHolds true planId seatIds orderId
    return true

/-! ## Views -/

/-- What an order knows of the store. -/
structure HoldView where
  mine : Set String
  held : Set String
  fresh : Set String
  before : Set String

/-- The keys that hold the id of an order. -/
def ownKeys (s : Redis.Store) (orderId : UUID) : Set String := {k | s.Holds k orderId.str}

/-- What an order may do, and how its view goes on.  Beginning to release a key is reading it. -/
def contract (orderId : UUID) : Contract service HoldView where
  pre γ := fun
    | Op.redis (.setNx _ value _) => value = .text orderId.str
    | Op.redis (.get _) => True
    | Op.redis (.delete key) => key ∈ γ.mine ∧ key ∉ γ.held
    | _ => False
  allows γ := fun
    | Op.redis (.setNx key _ _) => fun (acquired : Bool) => acquired = true → key ∉ γ.mine
    | Op.redis (.get key) => fun (current : Option Redis.Value) =>
      current.any (Redis.Value.eqText orderId.str) = true ↔ key ∈ γ.mine
    | _ => fun _ => True
  next γ := fun
    | Op.redis (.setNx key _ _) => fun (acquired : Bool) =>
      if acquired then { γ with mine := insert key γ.mine, fresh := insert key γ.fresh } else γ
    | Op.redis (.get key) => fun _ => { γ with held := γ.held \ {key} }
    | Op.redis (.delete key) => fun _ =>
      { γ with mine := γ.mine \ {key}, fresh := γ.fresh \ {key} }
    | _ => fun _ => γ

/-- Every order knows its keys, and holds only such keys. -/
def Accurate (γ : UUID → HoldView) (w : World) : Prop :=
  ∀ i, (γ i).mine = ownKeys w.redis i ∧ (γ i).held ⊆ (γ i).mine

section Keys

variable {s : Redis.Store} {i j : UUID} {key : String}

lemma ownKeys_update_text (ttl : Option ℕ) :
    ownKeys (Function.update s key (some ⟨.text i.str, ttl⟩)) i = insert key (ownKeys s i) := by
  ext k
  rcases eq_or_ne k key with rfl | hk
  · simp [ownKeys, Redis.Store.Holds]
  · simp [ownKeys, Redis.Store.Holds, hk]

lemma ownKeys_update_other (hij : j ≠ i) (hkey : s key = none) (ttl : Option ℕ) :
    ownKeys (Function.update s key (some ⟨.text i.str, ttl⟩)) j = ownKeys s j := by
  ext k
  rcases eq_or_ne k key with rfl | hk
  · simp [ownKeys, Redis.Store.Holds, hkey, hij.symm]
  · simp [ownKeys, Redis.Store.Holds, hk]

lemma ownKeys_delete : ownKeys (Function.update s key none) i = ownKeys s i \ {key} := by
  ext k
  rcases eq_or_ne k key with rfl | hk
  · simp [ownKeys, Redis.Store.Holds]
  · simp [ownKeys, Redis.Store.Holds, hk]

/-- A key holds the id of one order at most. -/
lemma eq_of_mem_ownKeys (hi : key ∈ ownKeys s i) (hj : key ∈ ownKeys s j) : i = j :=
  UUID.str_inj.mp (Redis.Store.Holds.unique hi hj)

lemma any_eqText_iff :
    ((s key).map Redis.Entry.value).any (Redis.Value.eqText i.str) = true ↔
      key ∈ ownKeys s i :=
  Redis.Store.holds_iff.symm

end Keys

/-- Putting a view for order `i` keeps the views accurate, if the keys of the others stay. -/
lemma accurate_update {γ : UUID → HoldView} {w w' : World} {i : UUID} {γ' : HoldView}
    (hacc : Accurate γ w) (hmine : γ'.mine = ownKeys w'.redis i) (hheld : γ'.held ⊆ γ'.mine)
    (hothers : ∀ j, j ≠ i → ownKeys w'.redis j = ownKeys w.redis j) :
    Accurate (Function.update γ i γ') w' := by
  intro j
  rcases eq_or_ne j i with rfl | hj
  · simpa using ⟨hmine, hheld⟩
  · simpa [hj, hothers j hj] using hacc j

/-- **One command of one order** keeps every view accurate. -/
theorem views_accurate : Views World.handle contract Accurate fun _ _ _ => True := by
  intro γ w i o hacc hpre _
  obtain ⟨hmine, hheld⟩ := hacc i
  cases o with
  | redis c =>
    cases c with
    | setNx key value ttl =>
      obtain rfl : value = .text i.str := hpre
      by_cases hkey : w.redis key = none
      · have hreply := Redis.execute_setNx_free hkey (.text i.str) ttl
        have hnew : key ∉ ownKeys w.redis i := by simp [ownKeys, Redis.Store.Holds, hkey]
        simp only [World.handle, hreply, contract, if_true, true_implies]
        refine ⟨hmine ▸ hnew, accurate_update hacc ?_ ?_ fun j hj => ?_⟩
        · simp only [hmine, ownKeys_update_text]
        · exact hheld.trans (Set.subset_insert ..)
        · exact ownKeys_update_other hj hkey _
      · have hreply := Redis.execute_setNx_taken hkey (.text i.str) ttl
        simp only [World.handle, hreply, contract, Bool.false_eq_true, if_false, false_implies,
          true_and, Function.update_eq_self]
        exact hacc
    | get key =>
      refine ⟨?_, accurate_update hacc hmine ?_ fun _ _ => rfl⟩
      · simp only [contract, hmine]
        exact any_eqText_iff
      · exact Set.sdiff_subset.trans hheld
    | delete key =>
      obtain ⟨hkey, hnot⟩ : key ∈ (γ i).mine ∧ key ∉ (γ i).held := hpre
      refine ⟨trivial, accurate_update hacc ?_ ?_ fun j hj => ?_⟩
      · change (γ i).mine \ {key} = ownKeys (Function.update w.redis key none) i
        rw [hmine, ownKeys_delete]
      · exact Set.subset_sdiff_singleton hheld hnot
      · change ownKeys (Function.update w.redis key none) j = ownKeys w.redis j
        rw [ownKeys_delete]
        refine Set.sdiff_singleton_eq_self fun hmem => hj ?_
        exact eq_of_mem_ownKeys hmem (hmine ▸ hkey)
    | setex key ttl value => exact hpre.elim
  | _ => exact hpre.elim

/-! ## What a call does to the view of its order -/

/-- What holds when a call returns. -/
def Returns : Call → Bool → HoldView → Prop
  | .acquire planId seatIds, true, γ => γ.fresh = {k | k ∈ (Call.acquire planId seatIds).keys}
  | .acquire .., false, γ => γ.fresh = ∅ ∧ γ.mine = γ.before
  | .release .., _, _ => True

/-- The postcondition of a call: it does not raise. -/
def Post (c : Call) : Except PyError Bool → HoldView → Prop
  | .ok b, γ => Returns c b γ ∧ γ.fresh ⊆ γ.mine
  | .error _, _ => False

section Calls

variable {planId orderId : UUID} {acquired : List String} {seatId : String} {γ : HoldView}

/-- The view inside the acquire loop: the seats acquired so far are the fresh keys, none of them
held the order's id before, and they are all that has come to its keys. -/
structure Acquiring (planId : UUID) (acquired : List String) (γ : HoldView) : Prop where
  fresh : γ.fresh = {k | k ∈ acquired.map (seatHoldKey planId)}
  nodup : (acquired.map (seatHoldKey planId)).Nodup
  mine : γ.mine = γ.before ∪ γ.fresh
  new : Disjoint γ.before γ.fresh
  held : γ.held ⊆ γ.before

/-- Setting one more key. -/
lemma Acquiring.set (hγ : Acquiring planId acquired γ) (hkey : seatHoldKey planId seatId ∉ γ.mine) :
    Acquiring planId (acquired ++ [seatId])
      { γ with
        mine := insert (seatHoldKey planId seatId) γ.mine
        fresh := insert (seatHoldKey planId seatId) γ.fresh } := by
  obtain ⟨hfresh, hnodup, hmine, hnew, hheld⟩ := hγ
  rw [hmine, Set.mem_union, not_or] at hkey
  obtain ⟨hbefore, hnot⟩ := hkey
  refine ⟨?_, ?_, ?_, ?_, hheld⟩
  · ext k
    simp [hfresh, or_comm]
  · rw [hfresh] at hnot
    rw [List.map_append, List.nodup_append]
    refine ⟨hnodup, List.nodup_singleton _, fun k hk k' hk' hkk' => hnot ?_⟩
    rw [List.map_singleton, List.mem_singleton] at hk'
    rwa [Set.mem_ofPred_eq, ← hk', ← hkk']
  · simp only [hmine, Set.union_insert]
  · exact Set.disjoint_insert_right.mpr ⟨hbefore, hnew⟩

/-- Deleting the first of the keys. -/
lemma Acquiring.delete (hγ : Acquiring planId (seatId :: acquired) γ) :
    (seatHoldKey planId seatId ∈ γ.mine ∧ seatHoldKey planId seatId ∉ γ.held) ∧
      Acquiring planId acquired
        { γ with
          mine := γ.mine \ {seatHoldKey planId seatId}
          fresh := γ.fresh \ {seatHoldKey planId seatId} } := by
  obtain ⟨hfresh, hnodup, hmine, hnew, hheld⟩ := hγ
  have hkey : seatHoldKey planId seatId ∈ γ.fresh := by simp [hfresh]
  have hbefore : seatHoldKey planId seatId ∉ γ.before := fun h => hnew.le_bot ⟨h, hkey⟩
  rw [List.map_cons, List.nodup_cons] at hnodup
  refine ⟨⟨by simp [hmine, hkey], fun h => hbefore (hheld h)⟩, ?_, hnodup.2, ?_, ?_, hheld⟩
  · ext k
    have hne : k ∈ acquired.map (seatHoldKey planId) → k ≠ seatHoldKey planId seatId :=
      fun hmem heq => hnodup.1 (heq ▸ hmem)
    simp only [hfresh, List.map_cons, List.mem_cons, Set.mem_sdiff, Set.mem_ofPred_eq,
      Set.mem_singleton_iff]
    tauto
  · rw [hmine, Set.union_sdiff_distrib, Set.sdiff_singleton_eq_self hbefore]
  · exact hnew.mono_right Set.sdiff_subset

lemma wp_dropHolds {Q : Except PyError Unit → HoldView → Prop}
    (hQ : ∀ γ' : HoldView, γ'.fresh = ∅ → γ'.mine = γ'.before → Q (.ok ()) γ')
    (hγ : Acquiring planId acquired γ) :
    (dropHolds planId acquired).wp (contract orderId) Q γ := by
  induction acquired generalizing γ with
  | nil =>
    have hfresh : γ.fresh = ∅ := by simpa using hγ.fresh
    exact hQ γ hfresh (by rw [hγ.mine, hfresh, Set.union_empty])
  | cons seatId acquired ih =>
    obtain ⟨hpre, hγ'⟩ := hγ.delete
    rw [dropHolds, Prog.wp_bind]
    exact ⟨hpre, fun _ _ => ih hγ'⟩

/-- **The acquire loop** respects the contract, and leaves either every key of the call or none. -/
theorem wp_acquireLoop (seatIds : List String) (hγ : Acquiring planId acquired γ) :
    (acquireLoop planId orderId acquired seatIds).wp (contract orderId)
      (Post (.acquire planId (acquired ++ seatIds))) γ := by
  induction seatIds generalizing acquired γ with
  | nil =>
    have hsub : γ.fresh ⊆ γ.mine := hγ.mine ▸ Set.subset_union_right
    exact ⟨by simpa [Returns, Call.keys] using hγ.fresh, hsub⟩
  | cons seatId seatIds ih =>
    rw [acquireLoop, redisSetNx, Prog.wp_perform_bind]
    refine ⟨rfl, fun (set : Bool) hset => ?_⟩
    cases set with
    | true =>
      have hnext := ih (hγ.set (hset rfl))
      rw [List.append_assoc] at hnext
      exact hnext
    | false =>
      rw [if_neg Bool.false_ne_true, Prog.wp_bind]
      refine wp_dropHolds (fun γ' hfresh hmine => ?_) hγ
      exact ⟨⟨hfresh, hmine⟩, by simp [hfresh]⟩

/-- **The release loop** respects the contract: it deletes only keys it has just read its own id
from, and which it has thereby begun to release. -/
theorem wp_releaseLoop (seatIds : List String) {Q : Except PyError Unit → HoldView → Prop}
    (hQ : ∀ γ' : HoldView, γ'.fresh ⊆ γ'.mine → Q (.ok ()) γ') (hγ : γ.fresh ⊆ γ.mine) :
    (releaseLoop planId orderId seatIds).wp (contract orderId) Q γ := by
  induction seatIds generalizing γ with
  | nil => exact hQ γ hγ
  | cons seatId seatIds ih =>
    rw [releaseLoop, redisGet, Prog.wp_perform_bind]
    refine ⟨trivial, fun (current : Option Redis.Value) hcurrent => ?_⟩
    by_cases hown : current.any (Redis.Value.eqText orderId.str) = true
    · rw [if_pos hown, redisDelete, Prog.wp_perform_bind]
      refine ⟨⟨hcurrent.mp hown, fun h => h.2 rfl⟩, fun _ _ => ih ?_⟩
      exact Set.sdiff_subset_sdiff_left hγ
    · rw [if_neg hown]
      exact ih hγ

/-- A call, started with nothing fresh, meets its postcondition. -/
theorem wp_program (c : Call) (hfresh : γ.fresh = ∅) (hmine : γ.mine = γ.before)
    (hheld : γ.held ⊆ γ.mine) : (c.program orderId).wp (contract orderId) (Post c) γ := by
  cases c with
  | acquire planId seatIds =>
    have hγ : Acquiring planId [] γ :=
      ⟨by simp [hfresh], List.nodup_nil, by simp [hmine, hfresh], by simp [hfresh], hmine ▸ hheld⟩
    exact wp_acquireLoop seatIds hγ
  | release planId seatIds =>
    change (releaseLoop planId orderId seatIds >>= fun _ => .pure true).wp _ _ _
    rw [Prog.wp_bind]
    exact wp_releaseLoop seatIds (fun γ' hγ' => ⟨trivial, hγ'⟩) (by simp [hfresh])

end Calls

/-! ## The system -/

/-- Where an order is: it has a call in progress, or its last call, if any, has returned. -/
inductive Status
  | idle (returned : Option (Call × Bool))
  | calling (c : Call)

/-- All orders, their calls and the world they share. -/
structure Clients where
  pool : Pool service UUID PyError Bool World HoldView
  status : UUID → Status

/-- Before any call; the keys of an order are what the store happens to hold. -/
def Clients.init (w : World) : Clients where
  pool :=
    { shared := w
      thread := fun _ => .pure true
      view := fun i => ⟨ownKeys w.redis i, ∅, ∅, ownKeys w.redis i⟩ }
  status := fun _ => .idle none

/-- What can happen next: an order makes a call, Redis executes the next command of a call, or a
call returns to the order. -/
inductive Action
  | begin (i : UUID) (c : Call)
  | exec (i : UUID)
  | finish (i : UUID)

/-- The view when a call returns: an acquisition that returned `True` is held from now on. -/
def HoldView.returned (γ : HoldView) : Call → Bool → HoldView
  | .acquire planId seatIds, true =>
    { γ with held := γ.held ∪ {k | k ∈ (Call.acquire planId seatIds).keys} }
  | _, _ => γ

/-- One step; an action that is not possible does nothing. -/
def Clients.step (s : Clients) : Action → Clients
  | .begin i c =>
    match s.status i with
    | .idle _ =>
      { pool := s.pool.start i (c.program i)
          { s.pool.view i with fresh := ∅, before := (s.pool.view i).mine }
        status := Function.update s.status i (.calling c) }
    | .calling _ => s
  | .exec i => { s with pool := s.pool.exec World.handle contract i }
  | .finish i =>
    match s.status i, s.pool.thread i with
    | .calling c, .pure b =>
      { pool := s.pool.start i (.pure b) ((s.pool.view i).returned c b)
        status := Function.update s.status i (.idle (some (c, b))) }
    | _, _ => s

/-- What the thread of an order is to achieve; once its call has returned, what it has achieved. -/
def Status.post : Status → Except PyError Bool → HoldView → Prop
  | .calling c, r, γ => Post c r γ
  | .idle (some (.acquire .., false)), _, γ => γ.fresh = ∅ ∧ γ.mine = γ.before
  | .idle _, _, _ => True

/-- The invariant of the system. -/
structure Clients.Sound (s : Clients) : Prop where
  pool : s.pool.Sound contract Accurate fun i => (s.status i).post
  resting : ∀ i returned, s.status i = .idle returned → ∃ b, s.pool.thread i = .pure b

lemma Clients.sound_init (w : World) : (Clients.init w).Sound where
  pool := ⟨fun _ => ⟨rfl, Set.empty_subset _⟩, fun _ => trivial⟩
  resting := fun _ _ _ => ⟨true, rfl⟩

/-- What an order has achieved when its call has returned. -/
lemma post_returned {c : Call} {b : Bool} {γ : HoldView} (hreturns : Returns c b γ) :
    (Status.idle (some (c, b))).post (.ok b) (γ.returned c b) := by
  cases c with
  | release => trivial
  | acquire planId seatIds =>
    cases b with
    | true => trivial
    | false => exact hreturns

/-- An acquisition that returned `True` is held from now on, and holds. -/
lemma returned_held_subset {c : Call} {b : Bool} {γ : HoldView} (hreturns : Returns c b γ)
    (hfresh : γ.fresh ⊆ γ.mine) (hheld : γ.held ⊆ γ.mine) :
    (γ.returned c b).held ⊆ (γ.returned c b).mine := by
  cases c with
  | release => exact hheld
  | acquire planId seatIds =>
    cases b with
    | false => exact hheld
    | true =>
      have hreturns' : γ.fresh = _ := hreturns
      exact Set.union_subset hheld fun k hk => hfresh (hreturns' ▸ hk)

lemma returned_mine (c : Call) (b : Bool) (γ : HoldView) : (γ.returned c b).mine = γ.mine := by
  cases c <;> cases b <;> rfl

/-- **Step lemma.** -/
theorem Clients.Sound.step {s : Clients} (hs : s.Sound) (a : Action) : (s.step a).Sound := by
  cases a with
  | begin i c =>
    rcases hstatus : s.status i with returned | c'
    · simp only [Clients.step, hstatus]
      obtain ⟨hmine, hheld⟩ := hs.pool.accurate i
      refine ⟨hs.pool.start (accurate_update hs.pool.accurate hmine hheld fun _ _ => rfl)
        (fun j hj => by simp [hj]) ?_, fun j returned' hj => ?_⟩
      · simp only [Function.update_self]
        exact wp_program c rfl rfl hheld
      · rcases eq_or_ne j i with rfl | hji
        · simp at hj
        · simp only [Function.update_of_ne hji] at hj
          simpa [Pool.start, hji] using hs.resting j returned' hj
    · simpa only [Clients.step, hstatus] using hs
  | exec i =>
    refine ⟨hs.pool.exec views_accurate i fun _ _ _ => trivial, fun j returned hj => ?_⟩
    obtain ⟨b, hthread⟩ := hs.resting j returned hj
    rcases eq_or_ne j i with rfl | hji
    · exact ⟨b, by simp [Clients.step, Pool.exec, Threads.exec, hthread]⟩
    · exact ⟨b, by simp [Clients.step, Pool.exec, Threads.exec, hji, hthread]⟩
  | finish i =>
    rcases hstatus : s.status i with returned | c
    · simpa only [Clients.step, hstatus] using hs
    · have hmeets := hs.pool.meets i
      rw [hstatus] at hmeets
      cases hthread : s.pool.thread i with
      | raise e =>
        rw [hthread] at hmeets
        exact hmeets.elim
      | op o k => simpa only [Clients.step, hstatus, hthread] using hs
      | pure b =>
        rw [hthread] at hmeets
        obtain ⟨hreturns, hfresh⟩ := hmeets
        obtain ⟨hmine, hheld⟩ := hs.pool.accurate i
        simp only [Clients.step, hstatus, hthread]
        refine ⟨hs.pool.start (accurate_update hs.pool.accurate ?_ ?_ fun _ _ => rfl)
          (fun j hj => by simp [hj]) ?_, fun j returned hj => ?_⟩
        · rw [returned_mine, hmine]
        · exact returned_held_subset hreturns hfresh hheld
        · simp only [Function.update_self]
          exact post_returned hreturns
        · rcases eq_or_ne j i with rfl | hji
          · exact ⟨b, by simp [Pool.start]⟩
          · simp only [Function.update_of_ne hji] at hj
            simpa [Pool.start, hji] using hs.resting j returned hj

/-- **Mutual exclusion of seat holds.**  In every state of every run of any orders: a key of a seat
that an order has acquired with a call that returned `True`, and has not begun to release, holds
that order's id; no two orders have acquired a common seat in this way; and an order whose last call
was an acquisition that returned `False` finds its id under no key that this call set, only under
keys where it was before. -/
theorem hold_exclusion (w : World) (actions : List Action) :
    let s := run Clients.step (Clients.init w) actions
    (∀ i, ∀ key ∈ (s.pool.view i).held, s.pool.shared.redis.Holds key i.str) ∧
    (∀ i j, i ≠ j → Disjoint (s.pool.view i).held (s.pool.view j).held) ∧
    (∀ i planId seatIds, s.status i = .idle (some (.acquire planId seatIds, false)) →
      (s.pool.view i).fresh = ∅ ∧
        ∀ key, s.pool.shared.redis.Holds key i.str → key ∈ (s.pool.view i).before) := by
  intro s
  have hs : s.Sound := run_invariant (fun _ a hs => hs.step a) (Clients.sound_init w) actions
  have hheld : ∀ i, ∀ key ∈ (s.pool.view i).held, key ∈ ownKeys s.pool.shared.redis i := by
    intro i key hkey
    obtain ⟨hmine, hsub⟩ := hs.pool.accurate i
    exact hmine ▸ hsub hkey
  refine ⟨hheld, fun i j hij => ?_, fun i planId seatIds hstatus => ?_⟩
  · rw [Set.disjoint_left]
    exact fun key hi hj => hij (eq_of_mem_ownKeys (hheld i key hi) (hheld j key hj))
  · obtain ⟨b, hthread⟩ := hs.resting i _ hstatus
    have hmeets := hs.pool.meets i
    rw [hstatus, hthread] at hmeets
    obtain ⟨hfresh, hbefore⟩ := hmeets
    obtain ⟨hmine, -⟩ := hs.pool.accurate i
    refine ⟨hfresh, fun key hkey => ?_⟩
    rw [← hbefore, hmine]
    exact hkey

end TicketGenius.HoldExclusion
