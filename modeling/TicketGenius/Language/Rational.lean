import TicketGenius.Language.ExactDecimal
import Mathlib.Algebra.Order.Field.Power
import Mathlib.Data.Rat.Cast.Order
import Mathlib.Tactic.FieldSimp

/-!
# Numbers as rationals

What a decimal is worth, as a rational, and `int()` of such a number.  Comparisons of decimals are
comparisons of these values.  A `float` is read as exact: it is a rational too.
-/

namespace TicketGenius

/-- `int(x)`: what is after the point is cut off. -/
def truncate (x : ℚ) : ℤ := x.num.tdiv x.den

@[simp] lemma truncate_intCast (n : ℤ) : truncate n = n := by
  simp [truncate]

namespace Decimal

/-- The value of a decimal. -/
def toRat (d : Decimal) : ℚ := (if d.negative then -1 else 1) * (d.coeff * 10 ^ d.exp)

/-- The value from its units. -/
lemma toRat_eq_scaled {d : Decimal} {e : ℤ} (he : e ≤ d.exp) :
    d.toRat = d.scaled e * 10 ^ e := by
  have hsplit : (10 : ℚ) ^ d.exp = 10 ^ (d.exp - e).toNat * 10 ^ e := by
    rw [← zpow_natCast, ← zpow_add₀ (by norm_num), Int.toNat_of_nonneg (by omega)]
    congr 1
    omega
  rw [toRat, scaled, hsplit]
  push_cast
  split <;> ring

section Compare

variable (a b : Decimal)

/-- The unit in which two decimals are compared. -/
lemma unit_pos : (0 : ℚ) < 10 ^ min a.exp b.exp := by positivity

lemma lt_iff_toRat : a < b ↔ a.toRat < b.toRat := by
  have hlt : a < b ↔ a.scaled (min a.exp b.exp) < b.scaled (min a.exp b.exp) := Iff.rfl
  rw [hlt, toRat_eq_scaled (min_le_left a.exp b.exp), toRat_eq_scaled (min_le_right a.exp b.exp),
    mul_lt_mul_iff_of_pos_right (unit_pos a b), Int.cast_lt]

lemma le_iff_toRat : a ≤ b ↔ a.toRat ≤ b.toRat := by
  have hle : a ≤ b ↔ a.scaled (min a.exp b.exp) ≤ b.scaled (min a.exp b.exp) := Iff.rfl
  rw [hle, toRat_eq_scaled (min_le_left a.exp b.exp), toRat_eq_scaled (min_le_right a.exp b.exp),
    mul_le_mul_iff_of_pos_right (unit_pos a b), Int.cast_le]

lemma numEq_iff_toRat : a.NumEq b ↔ a.toRat = b.toRat := by
  rw [NumEq, toRat_eq_scaled (min_le_left a.exp b.exp), toRat_eq_scaled (min_le_right a.exp b.exp),
    mul_left_inj' (unit_pos a b).ne', Int.cast_inj]

end Compare

@[simp] lemma toRat_ofInt (n : ℤ) : (ofInt n).toRat = n := by
  have hsign : (if n < 0 then (-1 : ℤ) else 1) * n.natAbs = n := by
    split <;> omega
  have hvalue : (ofInt n).toRat = (((if n < 0 then (-1 : ℤ) else 1) * n.natAbs : ℤ) : ℚ) := by
    simp only [toRat, ofInt, decide_eq_true_eq, zpow_zero, mul_one]
    push_cast
    split <;> simp
  rw [hvalue, hsign]

@[simp] lemma toRat_zero : (0 : Decimal).toRat = 0 := toRat_ofInt 0

end Decimal

end TicketGenius
