import Mathlib.Data.Fintype.Card
import Mathlib.Data.List.Nodup
import Mathlib.Data.Set.Insert
import Mathlib.Logic.Relation

/-!
# Locking without waiting

Parties take resources, each in the order of its own list.  None of them waits: a party that meets a
taken resource gives back what it has, one after the other, and gives up.  So no party is ever
stuck, but all of them may give up.

That needs a circle.  A party is stopped by another one that has the resource in hand, and this one
either goes on or gives up in turn, at a resource it wants after the first (`Stops`, which no step
undoes).  If all give up, each was stopped by one that gave up later in its own list, and finitely
many of them come round: there are resources each of which some party wants before the next, up to
the first again.  Where the lists rule this out, one party gets all it wants (`exists_won`).
-/

namespace Framework.TryLock

variable {ι κ : Type*}

/-! ## One party -/

/-- Where a party is. -/
inductive Phase (κ : Type*)
  /-- It has taken some resources and wants the rest. -/
  | taking (taken rest : List κ)
  /-- It was blocked at a resource, and has some left to give back. -/
  | backing (rest : List κ) (blocked : κ)

namespace Phase

/-- What a party has. -/
def has : Phase κ → List κ
  | .taking taken _ => taken
  | .backing rest _ => rest

/-- A step of a party from a set of taken resources to another. -/
inductive Step (s : Set κ) : Phase κ → Set κ → Phase κ → Prop
  | take (k : κ) (taken rest : List κ) (hfree : k ∉ s) :
    Step s (.taking taken (k :: rest)) (insert k s) (.taking (taken ++ [k]) rest)
  | block (k : κ) (taken rest : List κ) (hk : k ∈ s) :
    Step s (.taking taken (k :: rest)) s (.backing taken k)
  | back (k : κ) (rest : List κ) (blocked : κ) :
    Step s (.backing (k :: rest) blocked) (s \ {k}) (.backing rest blocked)

/-- Nothing is left to do. -/
def Finished : Phase κ → Prop
  | .taking _ rest => rest = []
  | .backing rest _ => rest = []

/-- The phase of a party that wants the resources in `want`, in this order. -/
def Fits (want : List κ) : Phase κ → Prop
  | .taking taken rest => taken ++ rest = want
  | .backing rest blocked => ∀ k ∈ rest, [k, blocked].Sublist want

/-- The party has the resource, on its way or up to where it was blocked itself. -/
def Stops (want : List κ) (k : κ) : Phase κ → Prop
  | .taking taken _ => k ∈ taken
  | .backing _ blocked => [k, blocked].Sublist want

section Step

variable {want : List κ} {s s' : Set κ} {p p' : Phase κ} {k : κ}

/-- What a party has in hand, it stops. -/
lemma Fits.stops (hp : p.Fits want) (hk : k ∈ p.has) : p.Stops want k := by
  cases p with
  | taking taken rest => exact hk
  | backing rest blocked => exact hp k hk

/-- What comes before a resource in a list. -/
lemma pair_sublist {taken rest : List κ} (hk : k ∈ taken) (b : κ) :
    [k, b].Sublist (taken ++ b :: rest) := by
  have hleft : [k].Sublist taken := List.singleton_sublist.mpr hk
  have hright : [b].Sublist (b :: rest) := List.singleton_sublist.mpr (List.mem_cons_self ..)
  exact hleft.append hright

lemma Step.fits (hstep : Step s p s' p') (hp : p.Fits want) : p'.Fits want := by
  cases hstep with
  | take k taken rest hfree =>
    show (taken ++ [k]) ++ rest = want
    rw [List.append_assoc]
    exact hp
  | block k taken rest hk =>
    intro k' hk'
    rw [← show taken ++ k :: rest = want from hp]
    exact pair_sublist hk' k
  | back k rest blocked => exact fun k' hk' => hp k' (List.mem_cons_of_mem k hk')

/-- No step undoes a stop. -/
lemma Step.stops (hstep : Step s p s' p') (hp : p.Fits want) (hk : p.Stops want k) :
    p'.Stops want k := by
  cases hstep with
  | take k' taken rest hfree => exact List.mem_append_left _ hk
  | block k' taken rest hblocked =>
    show [k, k'].Sublist want
    rw [← show taken ++ k' :: rest = want from hp]
    exact pair_sublist hk k'
  | back k' rest blocked => exact hk

end Step

end Phase

/-! ## All parties -/

/-- The parties, and the resources that are taken. -/
structure Parties (ι κ : Type*) where
  taken : Set κ
  phase : ι → Phase κ

/-- Nobody has anything yet. -/
def Parties.init (wants : ι → List κ) (taken : Set κ) : Parties ι κ where
  taken := taken
  phase := fun i => .taking [] (wants i)

section Holdings

variable [DecidableEq ι] {wanted : Set κ} {has : ι → List κ} {taken : Set κ} {i : ι} {k : κ}

/-- Nobody has a resource twice, no two have the same one, and of the resources wanted by anyone
exactly those are taken that somebody has. -/
structure Holdings (wanted : Set κ) (has : ι → List κ) (taken : Set κ) : Prop where
  nodup : ∀ i, (has i).Nodup
  apart : ∀ i j k, k ∈ has i → k ∈ has j → i = j
  taken : ∀ k ∈ wanted, (k ∈ taken ↔ ∃ i, k ∈ has i)

/-- Taking a free resource. -/
lemma Holdings.take (h : Holdings wanted has taken) (hwanted : k ∈ wanted) (hfree : k ∉ taken) :
    Holdings wanted (Function.update has i (has i ++ [k])) (insert k taken) := by
  have hnobody : ∀ j, k ∉ has j := fun j hj => hfree ((h.taken k hwanted).mpr ⟨j, hj⟩)
  have hmem : ∀ j k', k' ∈ Function.update has i (has i ++ [k]) j ↔
      k' ∈ has j ∨ (j = i ∧ k' = k) := by
    intro j k'
    rcases eq_or_ne j i with rfl | hj
    · simp
    · simp [hj]
  refine ⟨?_, ?_, ?_⟩
  · intro j
    rcases eq_or_ne j i with rfl | hj
    · rw [Function.update_self, ← List.concat_eq_append, List.nodup_concat]
      exact ⟨hnobody j, h.nodup j⟩
    · rw [Function.update_of_ne hj]
      exact h.nodup j
  · intro j j' k' hj hj'
    rw [hmem] at hj hj'
    rcases hj with hj | ⟨rfl, rfl⟩
    · rcases hj' with hj' | ⟨rfl, rfl⟩
      · exact h.apart j j' k' hj hj'
      · exact absurd hj (hnobody j)
    · rcases hj' with hj' | ⟨rfl, -⟩
      · exact absurd hj' (hnobody j')
      · rfl
  · intro k' hk'
    simp only [hmem, Set.mem_insert_iff, h.taken k' hk', exists_or, exists_eq_left, or_comm]

/-- Giving one back. -/
lemma Holdings.back (h : Holdings wanted has taken) {rest : List κ} (hi : has i = k :: rest) :
    Holdings wanted (Function.update has i rest) (taken \ {k}) := by
  have hnodup := h.nodup i
  rw [hi, List.nodup_cons] at hnodup
  have hmine : k ∈ has i := hi ▸ List.mem_cons_self ..
  have hmem : ∀ j k', k' ∈ Function.update has i rest j ↔ k' ∈ has j ∧ k' ≠ k := by
    intro j k'
    rcases eq_or_ne j i with rfl | hj
    · rw [Function.update_self, hi, List.mem_cons]
      have hne : k' ∈ rest → k' ≠ k := fun hk' heq => hnodup.1 (heq ▸ hk')
      tauto
    · rw [Function.update_of_ne hj]
      have hne : k' ∈ has j → k' ≠ k := fun hk' heq => hj (h.apart j i k (heq ▸ hk') hmine)
      tauto
  refine ⟨?_, ?_, ?_⟩
  · intro j
    rcases eq_or_ne j i with rfl | hj
    · rw [Function.update_self]
      exact hnodup.2
    · rw [Function.update_of_ne hj]
      exact h.nodup j
  · intro j j' k' hj hj'
    exact h.apart j j' k' ((hmem j k').mp hj).1 ((hmem j' k').mp hj').1
  · intro k' hk'
    simp only [hmem, Set.mem_sdiff, Set.mem_singleton_iff, h.taken k' hk', exists_and_right]

end Holdings

/-- What holds while parties with these wishes take and give back. -/
structure Invariant (wants : ι → List κ) (c : Parties ι κ) : Prop where
  fits : ∀ i, (c.phase i).Fits (wants i)
  holdings : Holdings {k | ∃ i, k ∈ wants i} (fun i => (c.phase i).has) c.taken
  /-- A party that gave up was stopped. -/
  stopped : ∀ i rest b, c.phase i = .backing rest b → ∃ j, (c.phase j).Stops (wants j) b

namespace Invariant

variable {wants : ι → List κ} {c : Parties ι κ}

lemma init {taken : Set κ} (hfree : ∀ i, ∀ k ∈ wants i, k ∉ taken) :
    Invariant wants (Parties.init wants taken) where
  fits := fun _ => rfl
  holdings :=
    { nodup := fun _ => List.nodup_nil
      apart := fun _ _ _ hk => absurd hk List.not_mem_nil
      taken := by
        rintro k ⟨i, hk⟩
        simp [Parties.init, Phase.has, hfree i k hk] }
  stopped := fun _ _ _ h => by cases h

/-- A party that has given up after its step was stopped before it. -/
lemma stopped_of_step (hc : Invariant wants c) {i : ι} {s : Set κ} {p : Phase κ}
    (hstep : (c.phase i).Step c.taken s p) {rest : List κ} {b : κ} (hp : p = .backing rest b) :
    ∃ j, (c.phase j).Stops (wants j) b := by
  have hfits := hc.fits i
  generalize hphase : c.phase i = p₀ at hstep hfits
  generalize htaken : c.taken = s₀ at hstep
  cases hstep with
  | take k taken rest' hfree => cases hp
  | block k taken rest' hk =>
    obtain ⟨-, rfl⟩ := Phase.backing.inj hp
    have hwant : taken ++ k :: rest' = wants i := hfits
    have hwanted : k ∈ wants i := hwant ▸ List.mem_append_right taken (List.mem_cons_self ..)
    rw [← htaken, hc.holdings.taken k ⟨i, hwanted⟩] at hk
    obtain ⟨j, hj⟩ := hk
    exact ⟨j, (hc.fits j).stops hj⟩
  | back k rest' blocked =>
    obtain ⟨-, rfl⟩ := Phase.backing.inj hp
    exact hc.stopped i _ _ hphase

variable [DecidableEq ι]

/-- A step of one party moves the holdings along. -/
lemma holdings_step (hc : Invariant wants c) {i : ι} {s : Set κ} {p : Phase κ}
    (hstep : (c.phase i).Step c.taken s p) :
    Holdings {k | ∃ i, k ∈ wants i}
      (Function.update (fun j => (c.phase j).has) i p.has) s := by
  have hfits := hc.fits i
  generalize hphase : c.phase i = p₀ at hstep hfits
  generalize htaken : c.taken = s₀ at hstep
  have hhas : (c.phase i).has = p₀.has := by rw [hphase]
  have hholdings := hc.holdings
  rw [htaken] at hholdings
  cases hstep with
  | take k taken rest hfree =>
    have hwant : taken ++ k :: rest = wants i := hfits
    have hk : k ∈ wants i := hwant ▸ List.mem_append_right taken (List.mem_cons_self ..)
    have htake := hholdings.take (i := i) ⟨i, hk⟩ hfree
    rwa [show (c.phase i).has = taken from hhas] at htake
  | block k taken rest hk =>
    have hsame : Function.update (fun j => (c.phase j).has) i taken =
        fun j => (c.phase j).has := by
      rw [← show (c.phase i).has = taken from hhas]
      exact Function.update_eq_self i _
    rw [← hsame] at hholdings
    exact hholdings
  | back k rest blocked => exact hholdings.back hhas

/-- **Step lemma.** -/
theorem step (hc : Invariant wants c) (i : ι) {s : Set κ} {p : Phase κ}
    (hstep : (c.phase i).Step c.taken s p) :
    Invariant wants ⟨s, Function.update c.phase i p⟩ := by
  have hstops : ∀ j k, (c.phase j).Stops (wants j) k →
      (Function.update c.phase i p j).Stops (wants j) k := by
    intro j k hk
    rcases eq_or_ne j i with rfl | hj
    · rw [Function.update_self]
      exact hstep.stops (hc.fits j) hk
    · rwa [Function.update_of_ne hj]
  refine ⟨?_, ?_, ?_⟩
  · intro j
    show (Function.update c.phase i p j).Fits (wants j)
    rcases eq_or_ne j i with rfl | hj
    · rw [Function.update_self]
      exact hstep.fits (hc.fits j)
    · rw [Function.update_of_ne hj]
      exact hc.fits j
  · have hhas : (fun j => (Function.update c.phase i p j).has) =
        Function.update (fun j => (c.phase j).has) i p.has :=
      Function.comp_update Phase.has c.phase i p
    show Holdings _ (fun j => (Function.update c.phase i p j).has) s
    rw [hhas]
    exact hc.holdings_step hstep
  · intro j rest b hj
    change Function.update c.phase i p j = .backing rest b at hj
    -- Who has given up before was stopped before; who gives up now meets a resource somebody has.
    have hbefore : ∃ j', (c.phase j').Stops (wants j') b := by
      rcases eq_or_ne j i with rfl | hji
      · rw [Function.update_self] at hj
        exact hc.stopped_of_step hstep hj
      · rw [Function.update_of_ne hji] at hj
        exact hc.stopped j rest b hj
    obtain ⟨j', hj'⟩ := hbefore
    exact ⟨j', hstops j' b hj'⟩

end Invariant

/-! ## Circles -/

/-- Some party wants the first before the second. -/
def Before (wants : ι → List κ) (k k' : κ) : Prop := ∃ i, [k, k'].Sublist (wants i)

/-- There is no circle of resources each of which some party wants before the next. -/
def Acyclic (wants : ι → List κ) : Prop := ∀ k, ¬ Relation.TransGen (Before wants) k k

/-- An order in which all lists are ascending rules circles out. -/
lemma acyclic_of_rank {α : Type*} [Preorder α] {wants : ι → List κ} (rank : κ → α)
    (h : ∀ i, (wants i).Pairwise fun k k' => rank k < rank k') : Acyclic wants := by
  have hbefore : ∀ k k', Before wants k k' → rank k < rank k' := by
    rintro k k' ⟨i, hsub⟩
    exact List.pairwise_iff_forall_sublist.mp (h i) hsub
  have hchain : ∀ k k', Relation.TransGen (Before wants) k k' → rank k < rank k' := by
    intro k k' hk
    induction hk with
    | single hk => exact hbefore _ _ hk
    | tail _ hk ih => exact ih.trans (hbefore _ _ hk)
  exact fun k hk => lt_irrefl _ (hchain k k hk)

/-- **Not all parties give up**, unless their wishes go in a circle. -/
theorem exists_won [Finite ι] [Nonempty ι] {wants : ι → List κ} (hacyclic : Acyclic wants)
    {c : Parties ι κ} (hc : Invariant wants c) (hdone : ∀ i, (c.phase i).Finished) :
    ∃ i taken, c.phase i = .taking taken [] := by
  by_contra hnone
  -- Each party was blocked at a resource.
  have hblocked : ∀ i, ∃ b, c.phase i = .backing [] b := by
    intro i
    have hi := hdone i
    rcases hphase : c.phase i with ⟨taken, rest⟩ | ⟨rest, b⟩
    · rw [hphase] at hi
      obtain rfl : rest = [] := hi
      exact absurd ⟨i, taken, hphase⟩ hnone
    · rw [hphase] at hi
      obtain rfl : rest = [] := hi
      exact ⟨b, rfl⟩
  choose b hb using hblocked
  -- It was stopped by one that was blocked later.
  have hnext : ∀ i, ∃ j, Before wants (b i) (b j) := by
    intro i
    obtain ⟨j, hj⟩ := hc.stopped i [] (b i) (hb i)
    rw [hb j] at hj
    exact ⟨j, j, hj⟩
  let Later : ι → ι → Prop := fun i j => Relation.TransGen (Before wants) (b j) (b i)
  have htrans : IsTrans ι Later := ⟨fun _ _ _ hij hjk => hjk.trans hij⟩
  have hirrefl : Std.Irrefl Later := ⟨fun i hi => hacyclic (b i) hi⟩
  have hwf : WellFounded Later := Finite.wellFounded_of_trans_of_irrefl Later
  refine hwf.induction (C := fun _ => False) (Classical.arbitrary ι) ?_
  intro i hi
  obtain ⟨j, hj⟩ := hnext i
  exact hi j (.single hj)

end Framework.TryLock
