import Mathlib.Algebra.Order.Field.Basic
import Mathlib.Tactic.Linarith

/-!
# Rate limits

Events respect a rate limit when no interval of time has more of them than the capacity and what the
rate allows for its length.  Whether they do is decided by a bucket of tokens: it is full at first,
gains tokens at the rate, holds no more than the capacity, and gives one token to each event.
`respects_iff_serves` says that the bucket always has a whole token exactly for the events that
respect the limit.
-/

namespace Framework

section Count

variable {K : Type*} [LinearOrder K]

/-- How many of the moments lie between `a` and `b`. -/
def countBetween (a b : K) (times : List K) : ℕ := times.countP fun t => a ≤ t ∧ t ≤ b

variable {a b t : K} {times : List K}

lemma countBetween_cons_of_mem (ha : a ≤ t) (hb : t ≤ b) :
    countBetween a b (t :: times) = countBetween a b times + 1 := by
  simp [countBetween, ha, hb]

lemma countBetween_cons_of_not_mem (h : ¬ (a ≤ t ∧ t ≤ b)) :
    countBetween a b (t :: times) = countBetween a b times := by
  simp [countBetween, h]

lemma countBetween_le_cons (a b t : K) (times : List K) :
    countBetween a b times ≤ countBetween a b (t :: times) := by
  by_cases h : a ≤ t ∧ t ≤ b
  · rw [countBetween_cons_of_mem h.1 h.2]
    exact Nat.le_succ _
  · rw [countBetween_cons_of_not_mem h]

/-- Nothing happens before everything that happens. -/
lemma countBetween_eq_zero (h : ∀ t ∈ times, b < t) : countBetween a b times = 0 := by
  rw [countBetween, List.countP_eq_zero]
  intro t ht hmem
  have hbetween : a ≤ t ∧ t ≤ b := by simpa using hmem
  exact absurd hbetween.2 (not_le.mpr (h t ht))

/-- An interval may begin with the first moment. -/
lemma countBetween_from {a' : K} (ha : a ≤ a') (h : ∀ t ∈ times, a' ≤ t) :
    countBetween a b times = countBetween a' b times := by
  unfold countBetween
  refine List.countP_congr fun t ht => ?_
  simp [h t ht, ha.trans (h t ht)]

/-- Before the first of the moments there is none. -/
lemma countBetween_eq_zero_of_lt (h : ∀ s ∈ times, t ≤ s) (hb : b < t) :
    countBetween a b (t :: times) = 0 := by
  refine countBetween_eq_zero fun s hs => ?_
  rcases List.mem_cons.mp hs with rfl | hs
  · exact hb
  · exact hb.trans_le (h s hs)

/-- Up to `b` there is the first of the moments, and what follows it. -/
lemma countBetween_cons_of_le (h : ∀ s ∈ times, t ≤ s) (ha : a ≤ t) (hb : t ≤ b) :
    countBetween a b (t :: times) = countBetween t b times + 1 := by
  rw [countBetween_cons_of_mem ha hb, countBetween_from ha h]

end Count

variable {K : Type*} [Field K] [LinearOrder K]

/-- A capacity and a rate. -/
structure RateLimit (K : Type*) [Field K] [LinearOrder K] where
  capacity : K
  rate : K
  capacity_pos : 0 < capacity
  rate_pos : 0 < rate

namespace RateLimit

variable (l : RateLimit K)

/-- No interval has more of the moments than the limit allows. -/
def Respects (times : List K) : Prop :=
  ∀ a b, a ≤ b → (countBetween a b times : K) ≤ l.capacity + l.rate * (b - a)

/-! ## The bucket -/

/-- The tokens in the bucket after some time. -/
def fill (level elapsed : K) : K := min l.capacity (level + l.rate * elapsed)

/-- With `level` tokens at the moment `last`, the bucket has a whole token for each moment. -/
def Serves : K → K → List K → Prop
  | _, _, [] => True
  | level, last, t :: times =>
    1 ≤ l.fill level (t - last) ∧ Serves (l.fill level (t - last) - 1) t times

/-- What `level` tokens at the moment `last` are enough for. -/
structure Affords (level last : K) (times : List K) : Prop where
  soon : ∀ b, last ≤ b → (countBetween last b times : K) ≤ level + l.rate * (b - last)
  respects : l.Respects times

variable {l} {level last t : K} {times : List K}

lemma fill_le_capacity (level elapsed : K) : l.fill level elapsed ≤ l.capacity := min_le_left _ _

lemma fill_le (level elapsed : K) : l.fill level elapsed ≤ level + l.rate * elapsed :=
  min_le_right _ _

/-- A bucket that is not full has kept all it gained. -/
lemma fill_eq_of_lt {elapsed : K} (h : l.fill level elapsed < l.capacity) :
    l.fill level elapsed = level + l.rate * elapsed := by
  rcases min_choice l.capacity (level + l.rate * elapsed) with hfull | hpart
  · exact absurd h (not_lt.mpr hfull.ge)
  · exact hpart

variable [IsStrictOrderedRing K]

/-- The gain of some time is not negative. -/
lemma gain_nonneg (l : RateLimit K) {a b : K} (hab : a ≤ b) : 0 ≤ l.rate * (b - a) :=
  mul_nonneg l.rate_pos.le (sub_nonneg.mpr hab)

lemma affords_nil (hlevel : 0 ≤ level) : l.Affords level last [] where
  soon := by
    intro b hb
    simpa [countBetween] using add_nonneg hlevel (l.gain_nonneg hb)
  respects := by
    intro a b hab
    simpa [countBetween] using add_nonneg l.capacity_pos.le (l.gain_nonneg hab)

section Cons

variable (hlast : last ≤ t) (hfirst : ∀ s ∈ times, t ≤ s)

include hlast hfirst

/-- What is enough for all moments has a token for the first, and is then enough for the rest. -/
lemma Affords.uncons (h : l.Affords level last (t :: times)) :
    1 ≤ l.fill level (t - last) ∧ l.Affords (l.fill level (t - last) - 1) t times := by
  have hafter : ∀ b, t ≤ b →
      (countBetween t b times : K) + 1 ≤ l.fill level (t - last) + l.rate * (b - t) := by
    intro b hb
    have hpart := h.soon b (hlast.trans hb)
    have hfull := h.respects t b hb
    rw [countBetween_cons_of_le hfirst hlast hb, Nat.cast_add_one] at hpart
    rw [countBetween_cons_of_le hfirst le_rfl hb, Nat.cast_add_one] at hfull
    have hfill : (countBetween t b times : K) + 1 - l.rate * (b - t) ≤ l.fill level (t - last) :=
      le_min (by linarith) (by linarith)
    linarith
  refine ⟨?_, ⟨fun b hb => ?_, fun a b hab => ?_⟩⟩
  · have hhere := hafter t le_rfl
    have hnonneg : (0 : K) ≤ (countBetween t t times : K) := Nat.cast_nonneg _
    rw [sub_self, mul_zero, add_zero] at hhere
    linarith
  · have hhere := hafter b hb
    linarith
  · have hmono : (countBetween a b times : K) ≤ countBetween a b (t :: times) :=
      Nat.cast_le.mpr (countBetween_le_cons a b t times)
    exact hmono.trans (h.respects a b hab)

/-- Conversely, a token for the first moment and enough for the rest is enough for all. -/
lemma Affords.cons (hlevel : 0 ≤ level) (h : l.Affords (l.fill level (t - last) - 1) t times) :
    l.Affords level last (t :: times) := by
  refine ⟨fun b hb => ?_, fun a b hab => ?_⟩
  · rcases lt_or_ge b t with hbt | htb
    · rw [countBetween_eq_zero_of_lt hfirst hbt, Nat.cast_zero]
      exact add_nonneg hlevel (l.gain_nonneg hb)
    · have hhere := h.soon b htb
      have hfill := l.fill_le level (t - last)
      rw [countBetween_cons_of_le hfirst hlast htb, Nat.cast_add_one]
      linarith
  · rcases lt_or_ge b t with hbt | htb
    · rw [countBetween_eq_zero_of_lt hfirst hbt, Nat.cast_zero]
      exact add_nonneg l.capacity_pos.le (l.gain_nonneg hab)
    · rcases le_or_gt a t with hat | hta
      · have hhere := h.soon b htb
        have hfill := l.fill_le_capacity level (t - last)
        have hlonger := mul_le_mul_of_nonneg_left (sub_le_sub_left hat b) l.rate_pos.le
        rw [countBetween_cons_of_le hfirst hat htb, Nat.cast_add_one]
        linarith
      · rw [countBetween_cons_of_not_mem fun h => absurd h.1 (not_le.mpr hta)]
        exact h.respects a b hab

end Cons

/-- The first moment takes a token, and the rest goes on with what is left. -/
lemma affords_cons (hlevel : 0 ≤ level) (hsorted : (last :: t :: times).Pairwise (· ≤ ·)) :
    l.Affords level last (t :: times) ↔
      1 ≤ l.fill level (t - last) ∧ l.Affords (l.fill level (t - last) - 1) t times := by
  obtain ⟨hlater, hrest⟩ := List.pairwise_cons.mp hsorted
  obtain ⟨hfirst, -⟩ := List.pairwise_cons.mp hrest
  have hlast : last ≤ t := hlater t List.mem_cons_self
  constructor
  · exact fun h => h.uncons hlast hfirst
  · exact fun h => h.2.cons hlast hfirst hlevel

lemma affords_iff_serves (hlevel : 0 ≤ level) (hsorted : (last :: times).Pairwise (· ≤ ·)) :
    l.Affords level last times ↔ l.Serves level last times := by
  induction times generalizing level last with
  | nil => exact iff_of_true (affords_nil hlevel) trivial
  | cons t times ih =>
    rw [affords_cons hlevel hsorted, Serves]
    refine and_congr_right fun hone => ih (sub_nonneg.mpr hone) (List.pairwise_cons.mp hsorted).2

/-- **The bucket decides**: moments respect the limit exactly if a full bucket serves them. -/
theorem respects_iff_serves (hsorted : (last :: times).Pairwise (· ≤ ·)) :
    l.Respects times ↔ l.Serves l.capacity last times := by
  rw [← affords_iff_serves l.capacity_pos.le hsorted]
  refine ⟨fun h => ⟨fun b hb => h last b hb, h⟩, Affords.respects⟩

end RateLimit

end Framework
