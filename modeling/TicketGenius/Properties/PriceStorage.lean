import TicketGenius.Adapters.Orm
import TicketGenius.Language.ExactDecimal
import Mathlib.Tactic.LinearCombination

/-!
# Storing a price

The decoder of a price divides the column by 100, and `SqlAlchemyPlanRepository.update` multiplies
by 100.  The encoder SQLAlchemy uses is the value's own: it returns the amount in euros, and the
column keeps the nearest integer.  A price comes back as a hundredth of that, and the two encoders
disagree, unless it is zero.
-/

namespace TicketGenius.PriceStorage

open Decimal

variable {store : Decimal → ℤ} {m : Money}

/-! ## The property -/

/-- The value in cents fits the column. -/
def Fits (m : Money) : Prop := m.amount.scaled (-2) ≤ integerMax

instance (m : Money) : Decidable (Fits m) := inferInstanceAs (Decidable (_ ≤ _))

/-- Written through the composite and read back, the price is the same. -/
def ComesBack (store : Decimal → ℤ) (m : Money) : Prop :=
  ∃ reread, makeMoney (store m.compositeValues.1) m.compositeValues.2 = .ok reread ∧
    reread.amount.NumEq m.amount ∧ reread.currency = m.currency

/-- The composite stores the same cents as the repository's `update`. -/
def SameCents (store : Decimal → ℤ) (m : Money) : Prop :=
  m.cents = .ok (store m.compositeValues.1)

/-- The price is zero, whatever its exponent is. -/
def IsZero (m : Money) : Prop := m.amount.coeff = 0

instance (m : Money) : Decidable (IsZero m) := inferInstanceAs (Decidable (_ = _))

/-! ## Amounts in cents -/

lemma exp_ge (m : Money) : -2 ≤ m.amount.exp := not_lt.mp m.places

lemma scaled_nonneg (m : Money) : 0 ≤ m.amount.scaled (-2) := by
  have h := m.not_negative
  rw [lt_zero_iff (exp_ge m)] at h
  exact not_lt.mp h

/-- A price above zero has no sign, so its cents are given by coefficient and exponent. -/
lemma scaled_eq (m : Money) :
    m.amount.scaled (-2) = m.amount.coeff * 10 ^ (m.amount.exp + 2).toNat := by
  have hnonneg := scaled_nonneg m
  rw [scaled, show m.amount.exp - -2 = m.amount.exp + 2 by omega] at hnonneg ⊢
  cases hnegative : m.amount.negative with
  | false => simp
  | true =>
    have hmagnitude : (0 : ℤ) ≤ m.amount.coeff * 10 ^ (m.amount.exp + 2).toNat := by positivity
    rw [hnegative, if_pos rfl] at hnonneg
    rw [if_pos rfl]
    omega

lemma isZero_iff : IsZero m ↔ m.amount.scaled (-2) = 0 := by
  rw [scaled_eq]
  simp [IsZero]

/-- `int` of an amount that has been multiplied by 100. -/
lemma toInt_hundredfold (coeff : ℕ) {exp : ℤ} (hexp : -2 ≤ exp) :
    (⟨false, coeff * 100, exp⟩ : Decimal).toInt = coeff * 10 ^ (exp + 2).toNat := by
  simp only [toInt, Bool.false_eq_true, if_false, one_mul]
  by_cases hneg : exp < 0
  · have hcases : exp = -1 ∨ exp = -2 := by omega
    rcases hcases with rfl | rfl
    · have htenth : coeff * 100 * 10 ^ (-1 : ℤ).toNat / 10 ^ (- -1 : ℤ).toNat = coeff * 10 := by
        show coeff * 100 * 1 / 10 = _
        omega
      rw [htenth]
      push_cast
      rfl
    · have hsame : coeff * 100 * 10 ^ (-2 : ℤ).toNat / 10 ^ (- -2 : ℤ).toNat = coeff := by
        show coeff * 100 * 1 / 100 = _
        omega
      rw [hsame]
      simp
  · have hnone : (-exp).toNat = 0 := by omega
    have hsum : (exp + 2).toNat = exp.toNat + 2 := by omega
    rw [hnone, hsum]
    push_cast
    simp
    ring

/-- What fits the column has few digits and a small exponent. -/
lemma small_of_fits (hfits : Fits m) (hzero : ¬ IsZero m) :
    m.amount.negative = false ∧ m.amount.coeff < 10 ^ 26 ∧ m.amount.exp + prec ≤ emax := by
  have hnonneg := scaled_nonneg m
  have hcents := scaled_eq m
  have hpos : 0 < m.amount.coeff := Nat.pos_of_ne_zero hzero
  have hbound : m.amount.coeff * 10 ^ (m.amount.exp + 2).toNat ≤ 2147483647 := by
    have h : m.amount.scaled (-2) ≤ 2147483647 := hfits
    rw [hcents] at h
    exact_mod_cast h
  refine ⟨?_, ?_, ?_⟩
  · cases hnegative : m.amount.negative with
    | false => rfl
    | true =>
      have hminus : m.amount.scaled (-2) < 0 := by
        rw [scaled, hnegative, if_pos rfl]
        have hmagnitude : (0 : ℤ) < m.amount.coeff * 10 ^ (m.amount.exp - -2).toNat := by positivity
        omega
      omega
  · have hle : m.amount.coeff ≤ 2147483647 :=
      (Nat.le_mul_of_pos_right m.amount.coeff (by positivity)).trans hbound
    omega
  · have hpow : 10 ^ (m.amount.exp + 2).toNat ≤ 2147483647 :=
      (Nat.le_mul_of_pos_left _ hpos).trans hbound
    have hdigits : (m.amount.exp + 2).toNat < 10 := by
      by_contra hlarge
      have hmono : 10 ^ 10 ≤ 10 ^ (m.amount.exp + 2).toNat :=
        Nat.pow_le_pow_right (by decide) (not_lt.mp hlarge)
      omega
    show m.amount.exp + (28 : ℤ) ≤ 999999
    omega

/-- The cents of the repository are the value in cents. -/
lemma cents_eq (hfits : Fits m) : m.cents = .ok (m.amount.scaled (-2)) := by
  by_cases hzero : IsZero m
  · obtain ⟨e, hmul⟩ := mul_hundred_zero hzero
    rw [Money.cents, hmul, isZero_iff.mp hzero]
    simp [toInt]
  · obtain ⟨hnegative, hcoeff, hexp⟩ := small_of_fits hfits hzero
    rw [Money.cents, mul_hundred hcoeff hexp, scaled_eq, hnegative]
    exact congrArg Except.ok (toInt_hundredfold m.amount.coeff (exp_ge m))

/-! ## The two halves -/

/-- The price read back has as many cents as the column says. -/
lemma makeMoney_eq {n : ℤ} (hn : 0 ≤ n) (hmax : n ≤ integerMax) (curr : Currency) :
    ∃ reread, makeMoney n curr = .ok reread ∧ reread.amount.scaled (-2) = n ∧
      reread.currency = curr := by
  obtain ⟨k, rfl⟩ := Int.eq_ofNat_of_zero_le hn
  have hsmall : k < 10 ^ prec := by
    have hprec : 10 ^ prec = 10000000000000000000000000000 := rfl
    unfold integerMax at hmax
    omega
  obtain ⟨d, hdiv, hexp, hscaled⟩ := div_hundred hsmall
  have hnonneg : ¬ d < 0 := by
    rw [lt_zero_iff hexp, hscaled]
    omega
  have hplaces : ¬ d.exp < -2 := by omega
  refine ⟨⟨d, curr, hnonneg, hplaces⟩, ?_, hscaled, rfl⟩
  rw [makeMoney, hdiv, Money.ofArith, Money.make, dif_neg hnonneg, dif_neg hplaces]

/-- The column keeps the nearest integer of the euros, which is the number of cents only of a zero
price. -/
lemma store_eq_iff (hstore : RoundsToNearest store) :
    store m.amount = m.amount.scaled (-2) ↔ IsZero m := by
  have hnear := abs_le.mp (hstore m.amount (exp_ge m))
  have hnonneg := scaled_nonneg m
  rw [isZero_iff]
  constructor
  · intro h
    omega
  · intro h
    omega

/-- A price comes back exactly if it is zero. -/
lemma comesBack_iff (hstore : RoundsToNearest store) (hfits : Fits m) :
    ComesBack store m ↔ IsZero m := by
  have hnear := abs_le.mp (hstore m.amount (exp_ge m))
  have hnonneg := scaled_nonneg m
  have hmax : m.amount.scaled (-2) ≤ integerMax := hfits
  obtain ⟨reread, hmake, hscaled, hcurrency⟩ :=
    makeMoney_eq (n := store m.amount) (by omega) (by omega) m.currency
  have hnum : reread.amount.NumEq m.amount ↔ store m.amount = m.amount.scaled (-2) := by
    rw [numEq_iff (exp_ge reread) (exp_ge m), hscaled]
  rw [← store_eq_iff hstore, ← hnum]
  constructor
  · rintro ⟨reread', hmake', hsame, -⟩
    have hunique : (Except.ok reread' : Except PyError Money) = .ok reread :=
      hmake'.symm.trans hmake
    cases hunique
    exact hsame
  · intro hsame
    exact ⟨reread, hmake, hsame, hcurrency⟩

/-- The two encoders agree exactly if the price is zero. -/
lemma sameCents_iff (hstore : RoundsToNearest store) (hfits : Fits m) :
    SameCents store m ↔ IsZero m := by
  rw [SameCents, cents_eq hfits, Except.ok.injEq, ← store_eq_iff hstore]
  exact eq_comm

/-- **Prices that survive storage.**  Only a zero price does. -/
theorem price_survives_iff (hstore : RoundsToNearest store) (hfits : Fits m) :
    ComesBack store m ∧ SameCents store m ↔ IsZero m := by
  rw [comesBack_iff hstore hfits, sameCents_iff hstore hfits, and_self]

/-! ### A column of a database -/

/-- An amount has no digit after the point, one or two. -/
lemma castToInteger_eq {d : Decimal} (hexp : -2 ≤ d.exp) :
    ∃ magnitude unit : ℕ, (unit = 1 ∨ unit = 10 ∨ unit = 100) ∧
      castToInteger d = (if d.negative then -1 else 1) * ((2 * magnitude + unit) / (2 * unit) : ℕ) ∧
      unit * d.scaled (-2) = (if d.negative then -1 else 1) * (100 * magnitude : ℕ) := by
  refine ⟨d.coeff * 10 ^ d.exp.toNat, 10 ^ (-d.exp).toNat, ?_, rfl, ?_⟩
  · have hcases : d.exp = -1 ∨ d.exp = -2 ∨ (-d.exp).toNat = 0 := by omega
    rcases hcases with h | h | h
    · exact .inr (.inl (by rw [h]; rfl))
    · exact .inr (.inr (by rw [h]; rfl))
    · exact .inl (by rw [h]; rfl)
  · have hsplit : (-d.exp).toNat + (d.exp - -2).toNat = d.exp.toNat + 2 := by omega
    have hpow : (10 : ℤ) ^ (-d.exp).toNat * 10 ^ (d.exp - -2).toNat = 10 ^ d.exp.toNat * 100 := by
      rw [← pow_add, hsplit, pow_add]
      rfl
    rw [scaled]
    push_cast
    linear_combination (if d.negative then -1 else 1) * (d.coeff : ℤ) * hpow

lemma roundsToNearest_castToInteger : RoundsToNearest castToInteger := by
  intro d hexp
  obtain ⟨magnitude, unit, hunit, hcast, hscaled⟩ := castToInteger_eq hexp
  rw [hcast, abs_le]
  cases hnegative : d.negative with
  | false =>
    simp only [hnegative, Bool.false_eq_true, if_false, one_mul] at hscaled ⊢
    rcases hunit with rfl | rfl | rfl <;> omega
  | true =>
    simp only [hnegative, if_true] at hscaled ⊢
    rcases hunit with rfl | rfl | rfl <;> omega

/-- 12.50 euros. -/
def twelveFifty : Money := ⟨⟨false, 1250, -2⟩, .eur, by decide, by decide⟩

/-- 12.50 euros do not survive. -/
theorem twelveFifty_lost :
    ¬ (ComesBack castToInteger twelveFifty ∧ SameCents castToInteger twelveFifty) := by
  rw [price_survives_iff roundsToNearest_castToInteger (by decide)]
  decide

/-- They are stored as 13 and come back as 13 cents. -/
theorem price_lost :
    ¬ ∀ store, RoundsToNearest store → ∀ m, Fits m → ComesBack store m ∧ SameCents store m := by
  intro h
  obtain ⟨-, hcents⟩ := h castToInteger roundsToNearest_castToInteger twelveFifty (by decide)
  cases hcents

end TicketGenius.PriceStorage
