import TicketGenius.Language.Decimal
import Mathlib.Data.Nat.Digits.Defs
import Mathlib.Tactic.Positivity

/-!
# Decimal arithmetic that needs no rounding

An operation of the default context computes exactly and then rounds to 28 digits.  Where the exact
result has no more digits and a moderate exponent, the rounding returns it as it is (`fix_exact`).
Amounts of money in cents are such results: `mul_hundred` takes an amount to cents and
`div_hundred` takes cents to an amount.

The values are compared in hundredths, `d.scaled (-2)`, which is exact for the exponents a `Money`
may have.
-/

namespace TicketGenius.Decimal

/-! ## Rounding -/

lemma numDigits_le {n e : ℕ} (he : 0 < e) (h : n < 10 ^ e) : numDigits n ≤ e :=
  Nat.toDigits_length 10 n e he h

/-- A result of at most 28 digits is not rounded. -/
lemma fix_exact {d : Decimal} (hcoeff : d.coeff < 10 ^ prec) (hexp : d.exp + prec ≤ emax) :
    fix d = some d := by
  have hdigits : numDigits d.coeff ≤ prec := numDigits_le (by decide) hcoeff
  have hround : d.roundToPrec = d := if_pos hdigits
  have hbound : (numDigits d.coeff : ℤ) ≤ prec := by exact_mod_cast hdigits
  have hprec : (prec : ℤ) = 28 := rfl
  unfold fix
  rw [hround]
  by_cases hzero : d.coeff = 0
  · have hmin : min d.exp emax = d.exp := by omega
    show (if d.coeff = 0 then _ else _) = _
    rw [if_pos hzero, hmin]
  · have hsmall : ¬ emax < d.exp + numDigits d.coeff - 1 := by omega
    show (if d.coeff = 0 then _ else _) = _
    rw [if_neg hzero, if_neg hsmall]

/-! ## Values in hundredths -/

/-- Units of another size. -/
lemma scaled_mul {d : Decimal} {e e' : ℤ} (he : e' ≤ e) (hexp : e ≤ d.exp) :
    d.scaled e' = d.scaled e * 10 ^ (e - e').toNat := by
  have hsplit : (d.exp - e').toNat = (d.exp - e).toNat + (e - e').toNat := by omega
  rw [scaled, scaled, hsplit, pow_add]
  ring

@[simp] lemma scaled_zero (e : ℤ) : (0 : Decimal).scaled e = 0 := by
  show (⟨false, 0, 0⟩ : Decimal).scaled e = 0
  simp [scaled]

/-- `a < 0`, in hundredths. -/
lemma lt_zero_iff {d : Decimal} (hexp : -2 ≤ d.exp) : d < 0 ↔ d.scaled (-2) < 0 := by
  have hmin : -2 ≤ min d.exp 0 := by omega
  have hpos : (0 : ℤ) < 10 ^ (min d.exp 0 - -2).toNat := by positivity
  have hsign : d.scaled (-2) < 0 ↔ d.scaled (min d.exp 0) < 0 := by
    rw [scaled_mul hmin (min_le_left ..), mul_neg_iff]
    constructor
    · rintro (⟨-, h⟩ | ⟨h, -⟩)
      · omega
      · exact h
    · exact fun h => .inr ⟨h, hpos⟩
  have hlt : d < 0 ↔ d.scaled (min d.exp 0) < (0 : Decimal).scaled (min d.exp 0) := Iff.rfl
  rw [hsign, hlt, scaled_zero]

/-- Two amounts are equal numbers exactly if they are equally many hundredths. -/
lemma numEq_iff {a b : Decimal} (ha : -2 ≤ a.exp) (hb : -2 ≤ b.exp) :
    a.NumEq b ↔ a.scaled (-2) = b.scaled (-2) := by
  have hmin : -2 ≤ min a.exp b.exp := by omega
  rw [NumEq, scaled_mul hmin (min_le_left ..), scaled_mul hmin (min_le_right ..)]
  have hpos : (10 : ℤ) ^ (min a.exp b.exp - -2).toNat ≠ 0 := by positivity
  exact (mul_left_inj' hpos).symm

/-- One amount is at most another exactly if it is at most as many hundredths. -/
lemma le_iff {a b : Decimal} (ha : -2 ≤ a.exp) (hb : -2 ≤ b.exp) :
    a ≤ b ↔ a.scaled (-2) ≤ b.scaled (-2) := by
  have hmin : -2 ≤ min a.exp b.exp := by omega
  have hpos : (0 : ℤ) < 10 ^ (min a.exp b.exp - -2).toNat := by positivity
  have hle : a ≤ b ↔ a.scaled (min a.exp b.exp) ≤ b.scaled (min a.exp b.exp) := Iff.rfl
  rw [hle, scaled_mul hmin (min_le_left ..), scaled_mul hmin (min_le_right ..)]
  exact (mul_le_mul_iff_of_pos_right hpos).symm

/-! ## Euros and cents -/

/-- `d * 100`, for an amount of fewer than 26 digits. -/
lemma mul_hundred {d : Decimal} (hcoeff : d.coeff < 10 ^ 26) (hexp : d.exp + prec ≤ emax) :
    d.mul 100 = some ⟨d.negative, d.coeff * 100, d.exp⟩ := by
  have hnegative : (d.negative != (100 : Decimal).negative) = d.negative := Bool.xor_false _
  have hsum : d.exp + (100 : Decimal).exp = d.exp := Int.add_zero _
  have hlarge : d.coeff * 100 < 10 ^ prec := by
    have hpow : 10 ^ prec = 10 ^ 26 * 100 := rfl
    omega
  rw [mul, hnegative, hsum]
  exact fix_exact hlarge hexp

/-- `d * 100` for a zero, whose exponent may be as large as it likes. -/
lemma mul_hundred_zero {d : Decimal} (hzero : d.coeff = 0) :
    ∃ e, d.mul 100 = some ⟨d.negative, 0, e⟩ := by
  have hnegative : (d.negative != (100 : Decimal).negative) = d.negative := Bool.xor_false _
  have hdigits : numDigits 0 ≤ prec := by decide
  have hround : ∀ e : ℤ, (⟨d.negative, 0, e⟩ : Decimal).roundToPrec = ⟨d.negative, 0, e⟩ :=
    fun e => if_pos hdigits
  refine ⟨min (d.exp + (100 : Decimal).exp) emax, ?_⟩
  rw [mul, hnegative, hzero, Nat.zero_mul, fix, hround]
  exact if_pos rfl

/-- Dropping zeros keeps the value, and does not go beyond the ideal exponent. -/
lemma dropZeros_value (ideal : ℤ) (fuel coeff : ℕ) {e : ℤ} (he : e ≤ ideal) :
    let r := dropZeros ideal fuel coeff e
    e ≤ r.2 ∧ r.2 ≤ ideal ∧ r.1 * 10 ^ (r.2 - e).toNat = coeff := by
  induction fuel generalizing coeff e with
  | zero => simpa [dropZeros] using he
  | succ fuel ih =>
    by_cases h : e < ideal ∧ coeff % 10 = 0
    · obtain ⟨hlow, hhigh, hvalue⟩ := ih (coeff / 10) (e := e + 1) (by omega)
      simp only [dropZeros, if_pos h]
      refine ⟨by omega, hhigh, ?_⟩
      have hstep : ((dropZeros ideal fuel (coeff / 10) (e + 1)).2 - e).toNat =
          ((dropZeros ideal fuel (coeff / 10) (e + 1)).2 - (e + 1)).toNat + 1 := by omega
      rw [hstep, pow_succ, ← mul_assoc, hvalue]
      omega
    · simpa [dropZeros, if_neg h] using he

/-- With enough fuel, all zeros that are known to be there are dropped. -/
lemma le_dropZeros (ideal : ℤ) (fuel j coeff : ℕ) {e : ℤ} (hfuel : j ≤ fuel)
    (he : e + j ≤ ideal) : e + j ≤ (dropZeros ideal fuel (coeff * 10 ^ j) e).2 := by
  induction fuel generalizing j e with
  | zero =>
    have hj : j = 0 := by omega
    simp [dropZeros, hj]
  | succ fuel ih =>
    cases j with
    | zero => simpa using (dropZeros_value ideal (fuel + 1) coeff (e := e) (by omega)).1
    | succ j =>
      have hzero : coeff * 10 ^ (j + 1) % 10 = 0 := by rw [pow_succ, ← mul_assoc]; simp
      have hshort : coeff * 10 ^ (j + 1) / 10 = coeff * 10 ^ j := by
        rw [pow_succ, ← mul_assoc]
        simp
      have hcond : e < ideal ∧ coeff * 10 ^ (j + 1) % 10 = 0 := ⟨by omega, hzero⟩
      simp only [dropZeros, if_pos hcond, hshort]
      have hrest := ih j (e := e + 1) (by omega) (by omega)
      omega

/-- The quotient of a number and 100, before the zeros are dropped. -/
lemma div_hundred_eq {n j : ℕ} (hn : n ≠ 0) (hj : numDigits n + j = 30) :
    (ofInt n).div 100 =
      fix ⟨false, (dropZeros 0 (j + 2) (n * 10 ^ j) (-(j + 2))).1,
        (dropZeros 0 (j + 2) (n * 10 ^ j) (-(j + 2))).2⟩ := by
  have hofInt : ofInt n = ⟨false, n, 0⟩ := by simp [ofInt]
  have hdigits : numDigits 100 = 3 := rfl
  have hshift : (numDigits 100 : ℤ) - numDigits n + prec + 1 = ((j + 2 : ℕ) : ℤ) := by
    have hprec : (prec : ℤ) = 28 := rfl
    omega
  have hnum : n * 10 ^ (j + 2) = 100 * (n * 10 ^ j) := by ring
  have hden : (-((j + 2 : ℕ) : ℤ)).toNat = 0 := by omega
  have hexp : (0 : ℤ) - ((j + 2 : ℕ) : ℤ) = -(j + 2) := by omega
  have hrem : n * 10 ^ (j + 2) % 100 = 0 := by omega
  have hquot : n * 10 ^ (j + 2) / 100 = n * 10 ^ j := by omega
  have hhundred : (100 : Decimal) = ⟨false, 100, 0⟩ := rfl
  rw [hofInt, hhundred, div]
  simp only [if_neg hn, hshift, hden, Int.toNat_natCast, pow_zero, mul_one, hrem, hquot, ne_eq,
    not_true_eq_false, if_false, Int.sub_zero, bne_self_eq_false, hexp]

/-- `Decimal(n) / 100`, for a number of at most 28 digits: `n` hundredths. -/
lemma div_hundred {n : ℕ} (hn : n < 10 ^ prec) :
    ∃ d : Decimal, (ofInt n).div 100 = some d ∧ -2 ≤ d.exp ∧ d.scaled (-2) = n := by
  by_cases hzero : n = 0
  · subst hzero
    exact ⟨0, by decide, by decide, by decide⟩
  · have hdigits : numDigits n ≤ prec := numDigits_le (by decide) hn
    have hprec : prec = 28 := rfl
    obtain ⟨j, hj⟩ : ∃ j, numDigits n + j = 30 := ⟨30 - numDigits n, by omega⟩
    obtain ⟨hlow, hhigh, hvalue⟩ :=
      dropZeros_value 0 (j + 2) (n * 10 ^ j) (e := -(j + 2)) (by omega)
    have hdropped := le_dropZeros 0 (j + 2) j n (e := -(j + 2)) (by omega) (by omega)
    rw [div_hundred_eq hzero hj]
    generalize dropZeros 0 (j + 2) (n * 10 ^ j) (-(j + 2)) = r at *
    obtain ⟨coeff, exp⟩ := r
    simp only at hlow hhigh hvalue hdropped ⊢
    -- The dropped quotient is `n` hundredths, so its coefficient has no more digits than `n`.
    have hsplit : (exp - -(j + 2 : ℤ)).toNat = (exp + 2).toNat + j := by omega
    have hcents : coeff * 10 ^ (exp + 2).toNat = n := by
      rw [hsplit, pow_add, ← mul_assoc] at hvalue
      exact Nat.eq_of_mul_eq_mul_right (by positivity) hvalue
    have hsmall : coeff < 10 ^ prec :=
      lt_of_le_of_lt (hcents ▸ Nat.le_mul_of_pos_right coeff (by positivity)) hn
    refine ⟨_, fix_exact hsmall ?_, by simp only; omega, ?_⟩
    · show exp + (28 : ℤ) ≤ 999999
      omega
    · simp only [scaled, Bool.false_eq_true, if_false, one_mul]
      rw [show exp - -2 = exp + 2 by omega]
      exact_mod_cast hcents

end TicketGenius.Decimal
