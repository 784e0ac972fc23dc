import TicketGenius.Framework.Interleaving
import TicketGenius.Properties.HoldExclusion

/-!
# Who deletes a seat hold

Any number of calls of `acquire_seat_holds` and `release_seat_holds`, several of one order at once
if it likes, run command by command in any order, and between any two commands the lifetime of a
key may end.  When a call deletes a key, whose id is under it?

Neither loop looks at a key and deletes it in one command.  The compensation of an acquisition
relies on what its `SET NX` returned a while ago, and a release on its `GET`.  From then on, until
the deletion or the end of the call, the call *may still delete* the key (`MayDelete`); if the hold
expires in that window and another order sets the key, its hold is deleted.  That is the only way:
as long as no order sets a key that a call of another order may still delete (`Undisturbed`), each
deletion finds the key absent or with the id of its own order (`deletes_own`).
-/

namespace TicketGenius.HoldDeletion

open Framework Service HoldExclusion

/-! ## The system -/

/-- Calls in progress, each on behalf of an order, on one shared world. -/
structure Calls (ι : Type) where
  threads : Threads service ι PyError Bool World
  orderId : ι → UUID

/-- What can happen next: a call is made, the next command of a call is executed, or a lifetime
ends. -/
inductive Action (ι : Type)
  | begin (i : ι) (orderId : UUID) (c : Call)
  | exec (i : ι)
  | expire (key : String)

section System

variable {ι : Type} [DecidableEq ι]

/-- Before any call. -/
def Calls.init (w : World) (orderId : ι → UUID) : Calls ι where
  threads := ⟨w, fun _ => .pure true⟩
  orderId := orderId

/-- One step; a call is made only where the one before has ended. -/
def Calls.step (s : Calls ι) : Action ι → Calls ι
  | .begin i orderId c =>
    match s.threads.thread i with
    | .op .. => s
    | _ =>
      { threads :=
          { s.threads with thread := Function.update s.threads.thread i (c.program orderId) }
        orderId := Function.update s.orderId i orderId }
  | .exec i => { s with threads := s.threads.exec World.handle i }
  | .expire key =>
    { s with
      threads :=
        { s.threads with
          shared :=
            { s.threads.shared with redis := s.threads.shared.redis.expire key } } }

end System

/-! ## Deletions -/

/-- The key is absent or holds the id of the order. -/
def Owned (s : Redis.Store) (orderId : UUID) (key : String) : Prop :=
  s key = none ∨ s.Holds key orderId.str

/-- Every deletion that comes next finds the key absent or with the id of the order of its call. -/
def DeletesOwn {ι : Type} (s : Calls ι) : Prop :=
  ∀ i key k, s.threads.thread i = .op (Op.redis (.delete key)) k →
    Owned s.threads.shared.redis (s.orderId i) key

/-- The replies after which a program still relies on what it knew of the key: it has not read it,
nor set it. -/
def Unchecked (key : String) : (o : Op) → o.Reply → Prop
  | .redis (.get k) => fun _ => k ≠ key
  | .redis (.setNx k _ _) => fun (acquired : Bool) => k = key → acquired = false
  | _ => fun _ => True

/-- The program may delete the key without a command in between that reads it or sets it. -/
def MayDelete (key : String) (p : Service Bool) : Prop :=
  p.Reaches (fun o => o = Op.redis (.delete key)) (Unchecked key)

/-- The condition on a step: if it sets a free key, no call of another order may still delete that
key. -/
def Undisturbed {ι : Type} (s : Calls ι) : Action ι → Prop
  | .exec i => ∀ key value ttl k, s.threads.thread i = .op (Op.redis (.setNx key value ttl)) k →
      s.threads.shared.redis key = none →
        ∀ j, s.orderId j ≠ s.orderId i → ¬ MayDelete key (s.threads.thread j)
  | _ => True

/-! ## The two loops -/

/-- What the loops do at a command: they set keys to the order's own id, and after a `GET` that
does not find that id they do not delete the key unless they look again. -/
def Careful (orderId : UUID) : (o : Op) → (o.Reply → Service Bool) → Prop
  | .redis (.setNx _ value _), _ => value = .text orderId.str
  | .redis (.get key), k => ∀ current : Option Redis.Value,
      current.any (Redis.Value.eqText orderId.str) = false → ¬ MayDelete key (k current)
  | .redis (.delete _), _ => True
  | _, _ => False

section Loops

variable {planId orderId : UUID} {key : String}

lemma mayDelete_delete {k : Unit → Service Bool} {key' : String} :
    MayDelete key (.op (Op.redis (.delete key')) k) ↔ key' = key ∨ MayDelete key (k ()) := by
  constructor
  · rintro (heq | ⟨r, -, hrest⟩)
    · cases heq
      exact .inl rfl
    · exact .inr hrest
  · rintro (rfl | hrest)
    · exact .inl rfl
    · exact .inr ⟨(), trivial, hrest⟩

lemma mayDelete_get {k : Option Redis.Value → Service Bool} {key' : String} :
    MayDelete key (.op (Op.redis (.get key')) k) ↔
      key' ≠ key ∧ ∃ current, MayDelete key (k current) := by
  constructor
  · rintro (heq | ⟨current, hne, hrest⟩)
    · cases heq
    · exact ⟨hne, current, hrest⟩
  · rintro ⟨hne, current, hrest⟩
    exact .inr ⟨current, hne, hrest⟩

lemma mayDelete_setNx {k : Bool → Service Bool} {key' : String} {value : Redis.Value} {ttl : ℕ} :
    MayDelete key (.op (Op.redis (.setNx key' value ttl)) k) ↔
      MayDelete key (k false) ∨ key' ≠ key ∧ MayDelete key (k true) := by
  constructor
  · rintro (heq | ⟨acquired, hset, hrest⟩)
    · cases heq
    · cases (acquired : Bool) with
      | false => exact .inl hrest
      | true => exact .inr ⟨fun heq => absurd (hset heq) nofun, hrest⟩
  · rintro (hrest | ⟨hne, hrest⟩)
    · exact .inr ⟨false, fun _ => rfl, hrest⟩
    · exact .inr ⟨true, fun heq => (hne heq).elim, hrest⟩

/-- The compensation deletes the keys it was given. -/
lemma mem_of_mayDelete_dropHolds {acquired : List String} {b : Bool}
    (h : MayDelete key (dropHolds planId acquired >>= fun _ => .pure b)) :
    key ∈ acquired.map (seatHoldKey planId) := by
  induction acquired with
  | nil => exact h.elim
  | cons seatId acquired ih =>
    rw [List.map_cons, List.mem_cons]
    rcases mayDelete_delete.mp h with rfl | hrest
    · exact .inl rfl
    · exact .inr (ih hrest)

/-- The acquire loop deletes, without setting them once more, only keys it has set. -/
lemma mem_of_mayDelete_acquireLoop {acquired seatIds : List String}
    (h : MayDelete key (acquireLoop planId orderId acquired seatIds)) :
    key ∈ acquired.map (seatHoldKey planId) := by
  induction seatIds generalizing acquired with
  | nil => exact h.elim
  | cons seatId seatIds ih =>
    rcases mayDelete_setNx.mp h with hrest | ⟨hne, hrest⟩
    · exact mem_of_mayDelete_dropHolds hrest
    · have hmem := ih hrest
      rw [List.map_append, List.mem_append] at hmem
      rcases hmem with hold | hnew
      · exact hold
      · rw [List.map_singleton, List.mem_singleton] at hnew
        exact (hne hnew.symm).elim

/-- One round of the release loop, command by command. -/
lemma releaseLoop_cons (seatId : String) (seatIds : List String) :
    (releaseLoop planId orderId (seatId :: seatIds) >>= fun _ => (.pure true : Service Bool)) =
      .op (Op.redis (.get (seatHoldKey planId seatId))) fun (current : Option Redis.Value) =>
        if current.any (Redis.Value.eqText orderId.str) then
          .op (Op.redis (.delete (seatHoldKey planId seatId))) fun _ =>
            releaseLoop planId orderId seatIds >>= fun _ => .pure true
        else releaseLoop planId orderId seatIds >>= fun _ => .pure true := by
  let andReturn (p : Service Unit) : Service Bool := p >>= fun _ => .pure true
  refine congrArg (Prog.op _) (funext fun (current : Option Redis.Value) => ?_)
  by_cases hown : current.any (Redis.Value.eqText orderId.str) = true
  · rw [if_pos hown]
    exact congrArg andReturn (if_pos hown)
  · rw [if_neg hown]
    exact congrArg andReturn (if_neg hown)

/-- The release loop deletes no key it has not read first. -/
lemma not_mayDelete_releaseLoop (seatIds : List String) :
    ¬ MayDelete key (releaseLoop planId orderId seatIds >>= fun _ => .pure true) := by
  induction seatIds with
  | nil => exact fun h => h
  | cons seatId seatIds ih =>
    intro h
    rw [releaseLoop_cons] at h
    obtain ⟨hne, current, hrest⟩ := mayDelete_get.mp h
    by_cases hown : current.any (Redis.Value.eqText orderId.str) = true
    · rw [if_pos hown] at hrest
      rcases mayDelete_delete.mp hrest with heq | hrest'
      · exact hne heq
      · exact ih hrest'
    · rw [if_neg hown] at hrest
      exact ih hrest

/-- A call that has not started may delete nothing unchecked. -/
lemma not_mayDelete_program (c : Call) : ¬ MayDelete key (c.program orderId) := by
  cases c with
  | acquire planId seatIds => exact fun h => List.not_mem_nil (mem_of_mayDelete_acquireLoop h)
  | release planId seatIds => exact not_mayDelete_releaseLoop seatIds

/-! Every command of a call is careful. -/

lemma always_dropHolds (acquired : List String) (b : Bool) :
    (dropHolds planId acquired >>= fun _ => .pure b).Always (Careful orderId) := by
  induction acquired with
  | nil => trivial
  | cons seatId acquired ih => exact ⟨trivial, fun _ => ih⟩

lemma always_acquireLoop (acquired seatIds : List String) :
    (acquireLoop planId orderId acquired seatIds).Always (Careful orderId) := by
  induction seatIds generalizing acquired with
  | nil => trivial
  | cons seatId seatIds ih =>
    refine ⟨rfl, fun (set : Bool) => ?_⟩
    cases set with
    | false => exact always_dropHolds acquired false
    | true => exact ih (acquired ++ [seatId])

lemma always_releaseLoop (seatIds : List String) :
    (releaseLoop planId orderId seatIds >>= fun _ => .pure true).Always (Careful orderId) := by
  induction seatIds with
  | nil => trivial
  | cons seatId seatIds ih =>
    rw [releaseLoop_cons]
    refine ⟨fun current hother => ?_, fun (current : Option Redis.Value) => ?_⟩
    · simp only [hother, Bool.false_eq_true, if_false]
      exact not_mayDelete_releaseLoop seatIds
    · by_cases hown : current.any (Redis.Value.eqText orderId.str) = true
      · simp only [hown, if_true]
        exact ⟨trivial, fun _ => ih⟩
      · simp only [hown, Bool.false_eq_true, if_false]
        exact ih

lemma always_program (c : Call) : (c.program orderId).Always (Careful orderId) := by
  cases c with
  | acquire planId seatIds => exact always_acquireLoop [] seatIds
  | release planId seatIds => exact always_releaseLoop seatIds

end Loops

/-! ## The invariant -/

section Owned

variable {s : Redis.Store} {orderId : UUID} {key : String}

lemma owned_of_expire (key' : String) (h : Owned s orderId key) :
    Owned (s.expire key') orderId key := by
  unfold Redis.Store.expire
  split
  · rcases eq_or_ne key key' with rfl | hne
    · exact .inl (Function.update_self ..)
    · simpa [Owned, Redis.Store.Holds, hne] using h
  · exact h

lemma owned_update_of_ne {key' : String} (entry : Option Redis.Entry) (hne : key ≠ key')
    (h : Owned s orderId key) : Owned (Function.update s key' entry) orderId key := by
  simpa [Owned, Redis.Store.Holds, hne] using h

lemma owned_update_text (ttl : Option ℕ) :
    Owned (Function.update s key (some ⟨.text orderId.str, ttl⟩)) orderId key :=
  .inr ⟨ttl, Function.update_self ..⟩

lemma owned_delete (key' : String) (h : Owned s orderId key) :
    Owned (Function.update s key' none) orderId key := by
  rcases eq_or_ne key key' with rfl | hne
  · exact .inl (Function.update_self ..)
  · exact owned_update_of_ne none hne h

/-- A key whose value is the text of the order's id is its own. -/
lemma owned_of_any
    (h : ((s key).map Redis.Entry.value).any (Redis.Value.eqText orderId.str) = true) :
    Owned s orderId key :=
  .inr (any_eqText_iff.mp h)

end Owned

/-- The invariant: calls are careful, and what a call may still delete is its order's. -/
structure Calls.Sound {ι : Type} (s : Calls ι) : Prop where
  careful : ∀ i, (s.threads.thread i).Always (Careful (s.orderId i))
  owned : ∀ i key, MayDelete key (s.threads.thread i) →
    Owned s.threads.shared.redis (s.orderId i) key

section Step

variable {ι : Type} [DecidableEq ι]

omit [DecidableEq ι] in
lemma Calls.sound_init (w : World) (orderId : ι → UUID) : (Calls.init w orderId).Sound where
  careful := fun _ => trivial
  owned := fun _ _ h => h.elim

lemma Calls.Sound.begin {s : Calls ι} (hs : s.Sound) (i : ι) (orderId : UUID) (c : Call) :
    (s.step (.begin i orderId c)).Sound := by
  simp only [Calls.step]
  split
  · exact hs
  · refine ⟨fun j => ?_, fun j key hmay => ?_⟩
    · rcases eq_or_ne j i with rfl | hj
      · simpa using always_program c
      · simpa [hj] using hs.careful j
    · rcases eq_or_ne j i with rfl | hj
      · simp only [Function.update_self] at hmay
        exact (not_mayDelete_program c hmay).elim
      · simp only [Function.update_of_ne hj] at hmay ⊢
        exact hs.owned j key hmay

/-- One command of a call leaves it what it may delete, if it was so before. -/
lemma owned_of_exec {w : World} {orderId : UUID} {o : Op} {k : o.Reply → Service Bool}
    (hcareful : Careful orderId o k)
    (howned : ∀ key, MayDelete key (.op o k) → Owned w.redis orderId key) {key : String}
    (hmay : MayDelete key (k (World.handle o w).1)) :
    Owned (World.handle o w).2.redis orderId key := by
  rcases o with c | _ | _ | _ | _ | _ | _ | _ | _ | _
  · cases c with
    | setNx key' value ttl =>
      obtain rfl : value = .text orderId.str := hcareful
      by_cases hfree : w.redis key' = none
      · have hreply := Redis.execute_setNx_free hfree (.text orderId.str) ttl
        simp only [World.handle, hreply] at hmay ⊢
        rcases eq_or_ne key key' with rfl | hne
        · exact owned_update_text (some ttl)
        · exact owned_update_of_ne _ hne (howned key (mayDelete_setNx.mpr (.inr ⟨hne.symm, hmay⟩)))
      · have hreply := Redis.execute_setNx_taken hfree (.text orderId.str) ttl
        simp only [World.handle, hreply] at hmay ⊢
        exact howned key (mayDelete_setNx.mpr (.inl hmay))
    | get key' =>
      rcases eq_or_ne key' key with rfl | hne
      · by_cases hown : ((w.redis key').map Redis.Entry.value).any
            (Redis.Value.eqText orderId.str) = true
        · exact owned_of_any hown
        · exact (hcareful _ (Bool.eq_false_iff.mpr hown) hmay).elim
      · exact howned key (mayDelete_get.mpr ⟨hne, _, hmay⟩)
    | delete key' => exact owned_delete key' (howned key (mayDelete_delete.mpr (.inr hmay)))
    | setex key' ttl value => exact hcareful.elim
  all_goals exact hcareful.elim

/-- One command of a call leaves the others what they may delete, unless it sets such a key. -/
lemma owned_of_exec_other {w : World} {orderId orderId' : UUID} {o : Op}
    {k : o.Reply → Service Bool} (hcareful : Careful orderId o k) {key : String}
    (howned : Owned w.redis orderId' key)
    (hset : ∀ value ttl, o = Op.redis (.setNx key value ttl) → w.redis key = none →
      orderId' = orderId) :
    Owned (World.handle o w).2.redis orderId' key := by
  rcases o with c | _ | _ | _ | _ | _ | _ | _ | _ | _
  · cases c with
    | setNx key' value ttl =>
      obtain rfl : value = .text orderId.str := hcareful
      by_cases hfree : w.redis key' = none
      · have hreply := Redis.execute_setNx_free hfree (.text orderId.str) ttl
        simp only [World.handle, hreply]
        rcases eq_or_ne key key' with rfl | hne
        · rw [hset _ _ rfl hfree]
          exact owned_update_text (some ttl)
        · exact owned_update_of_ne _ hne howned
      · have hreply := Redis.execute_setNx_taken hfree (.text orderId.str) ttl
        simp only [World.handle, hreply]
        exact howned
    | get key' => exact howned
    | delete key' => exact owned_delete key' howned
    | setex key' ttl value => exact hcareful.elim
  all_goals exact hcareful.elim

lemma Calls.Sound.exec {s : Calls ι} (hs : s.Sound) (i : ι) (hstep : Undisturbed s (.exec i)) :
    (s.step (.exec i)).Sound := by
  have hcareful := hs.careful i
  have howned := hs.owned i
  cases hthread : s.threads.thread i with
  | pure b =>
    have hsame : Function.update s.threads.thread i (.pure b) = s.threads.thread := by
      rw [← hthread, Function.update_eq_self]
    simpa [Calls.step, Threads.exec, hthread, hsame] using hs
  | raise e =>
    have hsame : Function.update s.threads.thread i (.raise e) = s.threads.thread := by
      rw [← hthread, Function.update_eq_self]
    simpa [Calls.step, Threads.exec, hthread, hsame] using hs
  | op o k =>
    rw [hthread] at hcareful howned
    simp only [Calls.step, Threads.exec, hthread, Prog.exec]
    refine ⟨fun j => ?_, fun j key hmay => ?_⟩
    · rcases eq_or_ne j i with rfl | hj
      · simpa using hcareful.2 _
      · simpa [hj] using hs.careful j
    · rcases eq_or_ne j i with rfl | hj
      · simp only [Function.update_self] at hmay
        exact owned_of_exec hcareful.1 howned hmay
      · simp only [Function.update_of_ne hj] at hmay
        refine owned_of_exec_other hcareful.1 (hs.owned j key hmay) fun value ttl ho hfree => ?_
        subst ho
        by_contra hne
        exact hstep key value ttl k hthread hfree j hne hmay

/-- **Step lemma.** -/
theorem Calls.Sound.step {s : Calls ι} (hs : s.Sound) (a : Action ι) (ha : Undisturbed s a) :
    (s.step a).Sound := by
  cases a with
  | begin i orderId c => exact hs.begin i orderId c
  | exec i => exact hs.exec i ha
  | expire key => exact ⟨hs.careful, fun i key' hmay => owned_of_expire key (hs.owned i key' hmay)⟩

/-- **Only the owner deletes a hold**, in every state of every run in which no order sets a key that
a call of another order may still delete. -/
theorem deletes_own (w : World) (orderId : ι → UUID) (actions : List (Action ι))
    (hactions : Guarded Calls.step Undisturbed (Calls.init w orderId) actions) :
    DeletesOwn (run Calls.step (Calls.init w orderId) actions) := by
  have hsound : (run Calls.step (Calls.init w orderId) actions).Sound :=
    hactions.invariant (fun _ a hs ha => hs.step a ha) (Calls.sound_init w orderId)
  intro i key k hthread
  refine hsound.owned i key ?_
  rw [hthread]
  exact mayDelete_delete.mpr (.inl rfl)

end Step

/-! ## Two orders and the clock -/

/-- Two clients, one for each of two orders. -/
def client (i : Bool) : UUID := if i then .max else .nil

/-- One order holds a seat until the hold expires; the other then acquires the seat, and is about to
release it. -/
def handover : List (Action Bool) :=
  [.begin false .nil (.acquire .nil ["A"]), .exec false, .expire (seatHoldKey .nil "A"),
    .begin true .max (.acquire .nil ["A"]), .exec true,
    .begin true .max (.release .nil ["A"]), .exec true]

theorem deletes_own_handover :
    Guarded Calls.step Undisturbed (Calls.init .empty client) handover ∧
      DeletesOwn (run Calls.step (Calls.init .empty client) handover) := by
  have hguarded : Guarded Calls.step Undisturbed (Calls.init .empty client) handover := by
    refine ⟨trivial, ?_, trivial, trivial, ?_, trivial, nofun, trivial⟩
    · rintro key value ttl k - - (_ | _) hne hmay
      · exact hne rfl
      · exact hmay
    · rintro key value ttl k - - (_ | _) hne hmay
      · exact hmay
      · exact hne rfl
  exact ⟨hguarded, deletes_own .empty client handover hguarded⟩

/-- Two orders want the seats A and B, one in each order.  The first has set A; its hold expires,
and the second, which has B, sets A too.  Now the first fails at B, and rolls back. -/
def takeover : List (Action Bool) :=
  [.begin false .nil (.acquire .nil ["A", "B"]), .begin true .max (.acquire .nil ["B", "A"]),
    .exec true, .exec false, .expire (seatHoldKey .nil "A"), .exec true, .exec false]

/-- The rollback of an acquisition deletes the hold of another order. -/
theorem not_always_deletes_own :
    ¬ ∀ (w : World) (orderId : Bool → UUID) (actions : List (Action Bool)),
      DeletesOwn (run Calls.step (Calls.init w orderId) actions) := by
  intro h
  have howned := h .empty client takeover false (seatHoldKey .nil "A") _ rfl
  have hother : (run Calls.step (Calls.init .empty client) takeover).threads.shared.redis.Holds
      (seatHoldKey .nil "A") UUID.max.str := ⟨some 600, rfl⟩
  rcases howned with habsent | hheld
  · obtain ⟨ttl, hentry⟩ := hother
    rw [hentry] at habsent
    cases habsent
  · exact UUID.nil_ne_max (UUID.str_inj.mp (hheld.unique hother))

end TicketGenius.HoldDeletion
