import Mathlib.Data.Int.Basic
import Mathlib.Algebra.Order.Ring.Int
import Mathlib.Tactic.Ring

/-!
# `decimal.Decimal`

A finite decimal is a sign, a coefficient and an exponent.  Comparison is exact: both numbers are
brought to a common exponent.  Arithmetic computes exactly and then rounds to the precision of the
default context, 28 significant digits, half to even; a result above the largest exponent raises
`decimal.Overflow`, which is `none` here.
-/

namespace TicketGenius

/-- A finite `decimal.Decimal`: `±coeff * 10 ^ exp`. -/
structure Decimal where
  negative : Bool
  coeff : ℕ
  exp : ℤ
deriving DecidableEq

namespace Decimal

/-- `Decimal(n)` for a Python `int`. -/
def ofInt (n : ℤ) : Decimal := ⟨decide (n < 0), n.natAbs, 0⟩

instance : OfNat Decimal n := ⟨ofInt n⟩

/-! ## Comparison -/

/-- The value in units of `10 ^ e`, exact for `e ≤ d.exp`. -/
def scaled (d : Decimal) (e : ℤ) : ℤ :=
  (if d.negative then -1 else 1) * (d.coeff * 10 ^ (d.exp - e).toNat : ℤ)

instance : LE Decimal :=
  ⟨fun a b => a.scaled (min a.exp b.exp) ≤ b.scaled (min a.exp b.exp)⟩

instance : LT Decimal :=
  ⟨fun a b => a.scaled (min a.exp b.exp) < b.scaled (min a.exp b.exp)⟩

instance (a b : Decimal) : Decidable (a ≤ b) :=
  inferInstanceAs (Decidable (a.scaled (min a.exp b.exp) ≤ b.scaled (min a.exp b.exp)))

instance (a b : Decimal) : Decidable (a < b) :=
  inferInstanceAs (Decidable (a.scaled (min a.exp b.exp) < b.scaled (min a.exp b.exp)))

/-- `a == b`: the numbers are equal, whatever their exponents are. -/
def NumEq (a b : Decimal) : Prop := a.scaled (min a.exp b.exp) = b.scaled (min a.exp b.exp)

instance (a b : Decimal) : Decidable (NumEq a b) :=
  inferInstanceAs (Decidable (a.scaled (min a.exp b.exp) = b.scaled (min a.exp b.exp)))

/-! ## Arithmetic in the default context -/

/-- Number of decimal digits of a coefficient. -/
def numDigits (n : ℕ) : ℕ := (Nat.toDigits 10 n).length

/-- Precision of the default context. -/
def prec : ℕ := 28

/-- Largest adjusted exponent of the default context. -/
def emax : ℤ := 999999

/-- A coefficient without its last `drop` digits, rounded half to even. -/
def roundHalfEven (coeff drop : ℕ) : ℕ :=
  let q := coeff / 10 ^ drop
  let r := coeff % 10 ^ drop
  if 10 ^ drop < 2 * r ∨ (10 ^ drop = 2 * r ∧ q % 2 = 1) then q + 1 else q

/-- Rounding to the precision of the context. -/
def roundToPrec (d : Decimal) : Decimal :=
  if numDigits d.coeff ≤ prec then d
  else
    let drop := numDigits d.coeff - prec
    let q := roundHalfEven d.coeff drop
    if q = 10 ^ prec then { d with coeff := 10 ^ (prec - 1), exp := d.exp + drop + 1 }
    else { d with coeff := q, exp := d.exp + drop }

/-- The result of an operation in the default context; `none` is `decimal.Overflow`. -/
def fix (d : Decimal) : Option Decimal :=
  let d' := d.roundToPrec
  if d'.coeff = 0 then some { d' with exp := min d'.exp emax }
  else if emax < d'.exp + numDigits d'.coeff - 1 then none
  else some d'

/-- `a + b`. -/
def add (a b : Decimal) : Option Decimal :=
  let e := min a.exp b.exp
  let s := a.scaled e + b.scaled e
  fix ⟨if s = 0 then a.negative && b.negative else decide (s < 0), s.natAbs, e⟩

/-- `a * b`. -/
def mul (a b : Decimal) : Option Decimal :=
  fix ⟨a.negative != b.negative, a.coeff * b.coeff, a.exp + b.exp⟩

/-- Drops zeros at the end of a coefficient until the exponent reaches `ideal`. -/
def dropZeros (ideal : ℤ) : ℕ → ℕ → ℤ → ℕ × ℤ
  | 0, coeff, exp => (coeff, exp)
  | fuel + 1, coeff, exp =>
    if exp < ideal ∧ coeff % 10 = 0 then dropZeros ideal fuel (coeff / 10) (exp + 1)
    else (coeff, exp)

/-- `a / b` for `b ≠ 0`: one digit more than the precision, made sticky when a remainder is
left, or the exact quotient with the exponent closest to the ideal one. -/
def div (a b : Decimal) : Option Decimal :=
  let negative := a.negative != b.negative
  let ideal := a.exp - b.exp
  if a.coeff = 0 then fix ⟨negative, 0, ideal⟩
  else
    let shift : ℤ := numDigits b.coeff - numDigits a.coeff + prec + 1
    let num := a.coeff * 10 ^ shift.toNat
    let den := b.coeff * 10 ^ (-shift).toNat
    let q := num / den
    if num % den ≠ 0 then fix ⟨negative, if q % 5 = 0 then q + 1 else q, ideal - shift⟩
    else
      let (coeff, exp) := dropZeros ideal shift.toNat q (ideal - shift)
      fix ⟨negative, coeff, exp⟩

/-- `int(d)`: the digits after the point are cut off. -/
def toInt (d : Decimal) : ℤ :=
  (if d.negative then -1 else 1) *
    ((d.coeff * 10 ^ d.exp.toNat / 10 ^ (-d.exp).toNat : ℕ) : ℤ)

example : (Decimal.mk false 1250 (-2)).mul 8 = some ⟨false, 10000, -2⟩ := by decide

example : (1250 : Decimal).div 100 = some ⟨false, 125, -1⟩ := by decide

end Decimal

end TicketGenius
