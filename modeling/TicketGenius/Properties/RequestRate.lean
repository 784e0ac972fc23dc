import TicketGenius.Adapters.TokenBucket
import TicketGenius.Framework.Rate
import Mathlib.Tactic.FieldSimp
import Mathlib.Tactic.LinearCombination
import Mathlib.Tactic.Ring
import Mathlib.Data.List.Chain

/-!
# The rate of requests

A caller releases its request after the wait `consume` returned, and the next call comes later.
`consume` empties the bucket for a caller that has to wait, and goes on filling it while the caller
waits, so what the caller waits for is there twice: for it, and for the next one.

`respects_iff_timely` says for which calls that makes no difference: nobody has to wait before the
bucket has been full again, in an account that gives the tokens of a wait only to the caller that
waits (`Timely`).

## Main results

* `serves_iff_timely`: what the code's bucket and the account have in common.
* `respects_iff_timely`: the rate limit.
-/

namespace TicketGenius.RequestRate

open Framework

/-! ## Calls -/

/-- The moments at which the requests are released, for calls at some readings of the clock. -/
def releases : TokenBucket → List ℚ → List ℚ
  | _, [] => []
  | bucket, now :: readings =>
    (now + (bucket.consume now 1).1) :: releases (bucket.consume now 1).2 readings

/-- No call is made before `earliest`, and none before the request of the call before it is
released. -/
def Sequential : TokenBucket → ℚ → List ℚ → Prop
  | _, _, [] => True
  | bucket, earliest, now :: readings =>
    earliest ≤ now ∧
      Sequential (bucket.consume now 1).2 (now + (bucket.consume now 1).1) readings

instance (bucket : TokenBucket) (earliest : ℚ) (readings : List ℚ) :
    Decidable (Sequential bucket earliest readings) := by
  induction readings generalizing bucket earliest with
  | nil => exact .isTrue trivial
  | cons now readings ih => exact @instDecidableAnd _ _ inferInstance (ih _ _)

/-- Requests are released in the order of the calls. -/
lemma sorted_releases {bucket : TokenBucket} {earliest : ℚ} {readings : List ℚ}
    (hrate : 0 < bucket.refillRate) (h : Sequential bucket earliest readings) :
    (earliest :: releases bucket readings).Pairwise (· ≤ ·) := by
  rw [← List.isChain_iff_pairwise]
  induction readings generalizing bucket earliest with
  | nil => exact .singleton earliest
  | cons now readings ih =>
    have hwait := TokenBucket.wait_nonneg hrate now
    have hrate' : 0 < (bucket.consume now 1).2.refillRate := by
      rwa [TokenBucket.refillRate_consume]
    have hfirst : earliest ≤ now + (bucket.consume now 1).1 := by
      have hnow := h.1
      linarith
    exact .cons_cons hfirst (ih hrate' h.2)

/-! ## The account -/

/-- An account in which a caller that waits uses up what comes in while it waits.  There are `level`
tokens at the moment `last`, and `owed` says whether somebody has had to wait since the bucket was
full.  Nobody has to wait then. -/
def Timely (l : RateLimit ℚ) : Bool → ℚ → ℚ → List ℚ → Prop
  | _, _, _, [] => True
  | owed, level, last, now :: readings =>
    if 1 ≤ l.fill level (now - last) then
      Timely l (owed && l.fill level (now - last) != l.capacity)
        (l.fill level (now - last) - 1) now readings
    else
      owed = false ∧ Timely l true 0 (now + (1 - l.fill level (now - last)) / l.rate) readings

/-- The bucket of the code has what the account has, and too much if somebody had to wait. -/
structure Tracks (l : RateLimit ℚ) (owed : Bool) (level last : ℚ) (bucket : TokenBucket) :
    Prop where
  capacity : bucket.capacity = l.capacity
  refillRate : bucket.refillRate = l.rate
  excess : ∃ extra, bucket.tokens + (last - bucket.lastRefill) * l.rate = level + extra ∧
    if owed then 0 < extra else extra = 0

section Tracks

variable {l : RateLimit ℚ} {owed : Bool} {level last now : ℚ} {bucket : TokenBucket}

lemma tracks_make (l : RateLimit ℚ) (start : ℚ) :
    Tracks l false l.capacity start (TokenBucket.make l.capacity l.rate start) where
  capacity := rfl
  refillRate := rfl
  excess := ⟨0, by simp [TokenBucket.make], rfl⟩

/-- What the code finds in its bucket. -/
lemma Tracks.available (h : Tracks l owed level last bucket) (now : ℚ) :
    ∃ extra, (bucket.available now = min l.capacity (level + l.rate * (now - last) + extra)) ∧
      if owed then 0 < extra else extra = 0 := by
  obtain ⟨extra, hextra, howed⟩ := h.excess
  refine ⟨extra, ?_, howed⟩
  rw [TokenBucket.available, h.capacity, h.refillRate]
  congr 1
  linear_combination hextra

/-- Where nothing is owed, the code finds what the account has. -/
lemma Tracks.available_eq (h : Tracks l false level last bucket) (now : ℚ) :
    bucket.available now = l.fill level (now - last) := by
  obtain ⟨extra, havailable, howed⟩ := h.available now
  obtain rfl : extra = 0 := howed
  rw [havailable, add_zero, RateLimit.fill]

/-- Where something is owed and the account is not full, the code finds more than the account
has. -/
lemma Tracks.fill_lt_available (h : Tracks l true level last bucket)
    (hpart : l.fill level (now - last) < l.capacity) :
    l.fill level (now - last) < bucket.available now := by
  obtain ⟨extra, havailable, hextra⟩ := h.available now
  have hextra : 0 < extra := hextra
  have hfill := RateLimit.fill_eq_of_lt hpart
  rw [havailable]
  exact lt_min hpart (by linarith)

/-- The code never finds less than the account has, and both find a full bucket. -/
lemma Tracks.fill_le_available (h : Tracks l owed level last bucket) (now : ℚ) :
    l.fill level (now - last) ≤ bucket.available now := by
  cases owed with
  | false => exact (h.available_eq now).ge
  | true =>
    obtain ⟨extra, havailable, hextra⟩ := h.available now
    have hextra : 0 < extra := hextra
    rw [havailable]
    exact min_le_min_left _ (by linarith)

/-- Both find the same, or the code finds more, while the account is not full. -/
lemma Tracks.compare (h : Tracks l owed level last bucket)
    (hpart : l.fill level (now - last) < l.capacity) :
    if owed then l.fill level (now - last) < bucket.available now
    else bucket.available now = l.fill level (now - last) := by
  cases owed with
  | false => exact h.available_eq now
  | true => exact h.fill_lt_available hpart

/-- A caller that does not wait. -/
lemma Tracks.serve (h : Tracks l owed level last bucket)
    (hone : 1 ≤ l.fill level (now - last)) :
    bucket.consume now 1 =
        (0, { bucket with tokens := bucket.available now - 1, lastRefill := now }) ∧
      Tracks l (owed && l.fill level (now - last) != l.capacity)
        (l.fill level (now - last) - 1) now (bucket.consume now 1).2 := by
  have hle := h.fill_le_available now
  have hconsume := TokenBucket.consume_of_le (hone.trans hle)
  refine ⟨hconsume, ?_⟩
  rw [hconsume]
  refine ⟨h.capacity, h.refillRate, bucket.available now - l.fill level (now - last), ?_, ?_⟩
  · simp only [sub_self, zero_mul, add_zero]
    ring
  · have hcap : bucket.available now ≤ l.capacity := by
      rw [TokenBucket.available, h.capacity]
      exact min_le_left _ _
    rcases (RateLimit.fill_le_capacity level (now - last)).lt_or_eq with hpart | hfull
    · have hnotfull : (l.fill level (now - last) != l.capacity) = true := bne_iff_ne.mpr hpart.ne
      rw [hnotfull, Bool.and_true, sub_pos, sub_eq_zero]
      exact h.compare hpart
    · have hboth : bucket.available now = l.fill level (now - last) := by linarith
      simp [hfull, hboth]

/-- A caller that waits, when nothing was owed. -/
lemma Tracks.wait (h : Tracks l false level last bucket)
    (hless : l.fill level (now - last) < 1) :
    bucket.consume now 1 =
        ((1 - l.fill level (now - last)) / l.rate,
          { bucket with tokens := 0, lastRefill := now }) ∧
      Tracks l true 0 (now + (1 - l.fill level (now - last)) / l.rate)
        (bucket.consume now 1).2 := by
  have hconsume : bucket.consume now 1 =
      ((1 - l.fill level (now - last)) / l.rate,
        { bucket with tokens := 0, lastRefill := now }) := by
    rw [TokenBucket.consume_of_lt ((h.available_eq now).trans_lt hless), h.available_eq,
      h.refillRate]
  refine ⟨hconsume, ?_⟩
  rw [hconsume]
  refine ⟨h.capacity, h.refillRate, 1 - l.fill level (now - last), ?_, sub_pos.mpr hless⟩
  have hrate := l.rate_pos.ne'
  field_simp
  ring

/-- A caller that has to wait waits until the account has a token, if nothing was owed. -/
lemma fill_release (hcapacity : 1 ≤ l.capacity) (hless : l.fill level (now - last) < 1) :
    l.fill level (now + (1 - l.fill level (now - last)) / l.rate - last) = 1 := by
  have hfill := RateLimit.fill_eq_of_lt (hless.trans_le hcapacity)
  have hrate := l.rate_pos.ne'
  have hgain : level + l.rate * (now + (1 - l.fill level (now - last)) / l.rate - last) = 1 := by
    field_simp
    linarith
  rw [RateLimit.fill, hgain, min_eq_right hcapacity]

/-- And too short a time, if something was owed. -/
lemma Tracks.fill_release_lt (h : Tracks l true level last bucket) (hcapacity : 1 ≤ l.capacity)
    (hless : l.fill level (now - last) < 1) :
    l.fill level (now + (bucket.consume now 1).1 - last) < 1 := by
  have hpart := hless.trans_le hcapacity
  have hfill := RateLimit.fill_eq_of_lt hpart
  have hmore := h.fill_lt_available hpart
  refine lt_of_le_of_lt (RateLimit.fill_le level _) ?_
  rcases le_or_gt 1 (bucket.available now) with hone | hwait
  · rw [TokenBucket.consume_of_le hone, add_zero, ← hfill]
    exact hless
  · rw [TokenBucket.consume_of_lt hwait, h.refillRate]
    have hrate := l.rate_pos.ne'
    have hgain : l.rate * (now + (1 - bucket.available now) / l.rate - last) =
        l.rate * (now - last) + (1 - bucket.available now) := by
      field_simp
      ring
    show level + l.rate * (now + (1 - bucket.available now) / l.rate - last) < 1
    rw [hgain]
    linarith

end Tracks

/-! ## The result -/

variable {l : RateLimit ℚ}

/-- The releases of the code are within the account exactly if nobody has to wait while something is
owed. -/
theorem serves_iff_timely (hcapacity : 1 ≤ l.capacity) (readings : List ℚ) {owed : Bool}
    {level last : ℚ} {bucket : TokenBucket} (h : Tracks l owed level last bucket) :
    l.Serves level last (releases bucket readings) ↔ Timely l owed level last readings := by
  induction readings generalizing owed level last bucket with
  | nil => exact Iff.rfl
  | cons now readings ih =>
    rw [releases, RateLimit.Serves, Timely]
    rcases le_or_gt 1 (l.fill level (now - last)) with hone | hless
    · obtain ⟨hconsume, htracks⟩ := h.serve hone
      have hnow : now + (bucket.consume now 1).1 = now := by rw [hconsume, add_zero]
      rw [if_pos hone, hnow, and_iff_right hone]
      exact ih htracks
    · rw [if_neg (not_le.mpr hless)]
      cases owed with
      | false =>
        obtain ⟨hconsume, htracks⟩ := h.wait hless
        have hrelease := fill_release hcapacity hless
        have hwait : (bucket.consume now 1).1 = (1 - l.fill level (now - last)) / l.rate := by
          rw [hconsume]
        rw [hwait, hrelease, sub_self, and_iff_right le_rfl, and_iff_right rfl]
        exact ih htracks
      | true =>
        have hshort := h.fill_release_lt hcapacity hless
        refine iff_of_false (fun hserves => absurd hserves.1 (not_le.mpr hshort)) ?_
        rintro ⟨howed, -⟩
        cases howed

/-- **The rate limit** is respected exactly if the capacity is a whole token at least and the calls
are timely. -/
theorem respects_iff_timely (l : RateLimit ℚ) (start : ℚ) (readings : List ℚ)
    (h : Sequential (TokenBucket.make l.capacity l.rate start) start readings) :
    l.Respects (releases (TokenBucket.make l.capacity l.rate start) readings) ↔
      (readings ≠ [] → 1 ≤ l.capacity) ∧ Timely l false l.capacity start readings := by
  have hsorted := sorted_releases (show 0 < (TokenBucket.make l.capacity l.rate start).refillRate
    from l.rate_pos) h
  rw [RateLimit.respects_iff_serves hsorted]
  rcases le_or_gt 1 l.capacity with hcapacity | hsmall
  · rw [serves_iff_timely hcapacity readings (tracks_make l start)]
    exact (and_iff_right fun _ => hcapacity).symm
  · cases readings with
    | nil => exact iff_of_true trivial ⟨fun hne => absurd rfl hne, trivial⟩
    | cons now readings =>
      refine iff_of_false (fun hserves => ?_) fun hall => ?_
      · have hfull := RateLimit.fill_le_capacity (l := l) l.capacity
          (now + ((TokenBucket.make l.capacity l.rate start).consume now 1).1 - start)
        exact absurd (hserves.1.trans hfull) (not_le.mpr hsmall)
      · exact absurd (hall.1 (List.cons_ne_nil _ _)) (not_le.mpr hsmall)

/-! ### The limiter of the adapter -/

/-- `TokenBucket(capacity=5, refill_rate=5.0)` -/
def adapterLimit : RateLimit ℚ := ⟨5, 5, by decide, by decide⟩

/-- Six calls at once, and one more when the sixth request is released. -/
def sevenCalls : List ℚ := [0, 0, 0, 0, 0, 0, 1 / 5]

lemma sequential_sevenCalls : Sequential (TokenBucket.make 5 5 0) 0 sevenCalls := by
  decide +kernel

/-- Seven requests are released within a fifth of a second. -/
theorem seven_requests : ¬ ∀ (l : RateLimit ℚ) (start : ℚ) (readings : List ℚ),
    Sequential (TokenBucket.make l.capacity l.rate start) start readings →
    l.Respects (releases (TokenBucket.make l.capacity l.rate start) readings) := by
  intro h
  have hseven := h adapterLimit 0 sevenCalls sequential_sevenCalls 0 (1 / 5) (by decide +kernel)
  revert hseven
  decide +kernel

/-- Five calls at once and five a second later respect the limit. -/
theorem ten_requests :
    adapterLimit.Respects (releases (TokenBucket.make 5 5 0) [0, 0, 0, 0, 0, 1, 1, 1, 1, 1]) ↔
      ([0, 0, 0, 0, 0, 1, 1, 1, 1, (1 : ℚ)] ≠ [] → 1 ≤ adapterLimit.capacity) ∧
        Timely adapterLimit false adapterLimit.capacity 0 [0, 0, 0, 0, 0, 1, 1, 1, 1, 1] :=
  respects_iff_timely adapterLimit 0 _ (by decide +kernel)

end TicketGenius.RequestRate
