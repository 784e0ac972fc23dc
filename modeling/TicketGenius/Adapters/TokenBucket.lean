import Mathlib.Algebra.Order.Field.Rat

/-!
# The rate limiter

`TokenBucket` of `adapters/ticketmaster.py`, with exact numbers for its floats and for the readings
of `time.monotonic()`.
-/

namespace TicketGenius

structure TokenBucket where
  capacity : ℚ
  refillRate : ℚ
  tokens : ℚ
  lastRefill : ℚ

namespace TokenBucket

/-- `TokenBucket(capacity, refill_rate)`, made at `now`. -/
def make (capacity refillRate now : ℚ) : TokenBucket := ⟨capacity, refillRate, capacity, now⟩

/-- The tokens after the refill of `consume`. -/
def available (self : TokenBucket) (now : ℚ) : ℚ :=
  min self.capacity (self.tokens + (now - self.lastRefill) * self.refillRate)

/-- `consume(tokens)`, called at `now`: the time to wait, and the bucket afterwards. -/
def consume (self : TokenBucket) (now : ℚ) (tokens : ℕ) : ℚ × TokenBucket :=
  if tokens ≤ self.available now then
    (0, { self with tokens := self.available now - tokens, lastRefill := now })
  else
    ((tokens - self.available now) / self.refillRate,
      { self with tokens := 0, lastRefill := now })

section Consume

variable {self : TokenBucket} {now : ℚ}

lemma consume_of_le (h : 1 ≤ self.available now) :
    self.consume now 1 =
      (0, { self with tokens := self.available now - 1, lastRefill := now }) := by
  have hle : ((1 : ℕ) : ℚ) ≤ self.available now := by exact_mod_cast h
  rw [consume, if_pos hle, Nat.cast_one]

lemma consume_of_lt (h : self.available now < 1) :
    self.consume now 1 =
      ((1 - self.available now) / self.refillRate,
        { self with tokens := 0, lastRefill := now }) := by
  have hlt : ¬ ((1 : ℕ) : ℚ) ≤ self.available now := by exact_mod_cast not_le.mpr h
  rw [consume, if_neg hlt, Nat.cast_one]

/-- Nobody waits for a negative time. -/
lemma wait_nonneg (hrate : 0 < self.refillRate) (now : ℚ) : 0 ≤ (self.consume now 1).1 := by
  rcases le_or_gt 1 (self.available now) with h | h
  · rw [consume_of_le h]
  · rw [consume_of_lt h]
    exact div_nonneg (sub_nonneg.mpr h.le) hrate.le

lemma refillRate_consume (tokens : ℕ) :
    (self.consume now tokens).2.refillRate = self.refillRate := by
  unfold consume
  split <;> rfl

end Consume

end TokenBucket

end TicketGenius
