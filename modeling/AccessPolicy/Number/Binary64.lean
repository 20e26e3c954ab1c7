/-!
# Finite binary64 numbers

Every finite number of the 64-bit binary format is a whole number of units `2⁻¹⁰⁷⁴`, and
of all those whole numbers the format holds the ones that 53 binary digits followed by
zeros can write. So a finite number is held here as a sign and a count of units, and
comparing two of them is comparing two integers.

## Main definitions

* `Binary64` — a sign, a count of units, and the proof that the format holds it.
* `Binary64.nearest` — the count of units the format holds nearest to a quotient, the
  even one of two that are equally near.
* `Binary64.ofRatio?` — rounding a quotient; `none` is a magnitude beyond the largest finite one.
* `Binary64.ofParts?` — a significand times a power of ten, rounded step by step.
* `Binary64.roundInt` — an integer after rounding, in units.

## Main statements

* `Binary64.fits_nearest` — rounding gives a count that 53 binary digits can write.
-/
namespace AccessPolicy

/-- Fifty-three binary digits, followed by zeros, write the number `units`. -/
def FitsDigits (units : Nat) : Prop := Nat.pow 2 (units.log2 - 52) ∣ units

/-- The first magnitude that is too large for the format, `2¹⁰²⁴` in units. -/
def binary64Bound : Nat := Nat.pow 2 2098

/-- A finite number of the 64-bit binary format. There is a positive and a negative zero. -/
structure Binary64 where
  /-- Whether the sign is a minus. -/
  negative : Bool
  /-- The magnitude, in units of `2⁻¹⁰⁷⁴`. -/
  units : Nat
  /-- The format has 53 binary digits. -/
  fits : FitsDigits units
  /-- The format is finite. -/
  below : units < binary64Bound
deriving DecidableEq

namespace Binary64

/-- The number as a signed count of units; both zeros have the same count. -/
def value (x : Binary64) : Int := if x.negative then -(x.units : Int) else x.units

/-! ## Rounding -/

/-- The whole number nearest to `n / d`; of two that are equally near, the even one. -/
def roundedQuotient (n d : Nat) : Nat :=
  if 2 * (n % d) < d ∨ (2 * (n % d) = d ∧ n / d % 2 = 0) then n / d else n / d + 1

/-- The spacing of the format's numbers around `n / d` units. -/
def spacing (n d : Nat) : Nat := Nat.pow 2 ((n / d).log2 - 52)

/-- The count of units held by the format that is nearest to `n / d` units. -/
def nearest (n d : Nat) : Nat := roundedQuotient n (d * spacing n d) * spacing n d

theorem roundedQuotient_le (n d : Nat) : roundedQuotient n d ≤ n / d + 1 := by
  unfold roundedQuotient; split <;> omega

theorem fitsDigits_mul_two_pow {m : Nat} (hm : m ≤ Nat.pow 2 53) (s : Nat) :
    FitsDigits (m * Nat.pow 2 s) := by
  simp only [FitsDigits, Nat.pow_eq] at hm ⊢
  by_cases h0 : m = 0
  · simp [h0]
  · have hne : m * 2 ^ s ≠ 0 := Nat.mul_ne_zero h0 (Nat.ne_of_gt (Nat.two_pow_pos s))
    rcases Nat.lt_or_ge m (2 ^ 53) with h | h
    · have hlog : (m * 2 ^ s).log2 < 53 + s := by
        rw [Nat.log2_lt hne, Nat.pow_add]
        exact Nat.mul_lt_mul_of_pos_right h (Nat.two_pow_pos s)
      exact Nat.dvd_trans (Nat.pow_dvd_pow 2 (by omega : _ ≤ s)) (Nat.dvd_mul_left _ _)
    · have hm' : m = 2 ^ 53 := Nat.le_antisymm hm h
      rw [hm', ← Nat.pow_add]
      exact Nat.pow_dvd_pow 2 (by rw [Nat.log2_two_pow]; omega)

/-- **Rounding gives a number of the format**, as far as its digits are concerned. -/
theorem fits_nearest (n d : Nat) : FitsDigits (nearest n d) := by
  refine fitsDigits_mul_two_pow (Nat.le_trans (roundedQuotient_le _ _) ?_) _
  rw [← Nat.div_div_eq_div_mul, Nat.add_one_le_iff, spacing, Nat.pow_eq, Nat.pow_eq,
    Nat.div_lt_iff_lt_mul (Nat.two_pow_pos _), ← Nat.pow_add]
  exact Nat.lt_of_lt_of_le Nat.lt_log2_self (Nat.pow_le_pow_right (by decide) (by omega))

/-- The number nearest to `n / d` units, unless it lies beyond the largest finite one. -/
def ofRatio? (negative : Bool) (n d : Nat) : Option Binary64 :=
  if h : nearest n d < binary64Bound then some ⟨negative, nearest n d, fits_nearest n d, h⟩
  else none

/-- An integer after rounding to the format, in units. Every integer of 64 bits is far
below the largest finite number. -/
def roundInt (n : Int) : Int := n.sign * (nearest (n.natAbs * Nat.pow 2 1074) 1 : Nat)

/-! ## Decimal numerals -/

/-- How many decimal digits write `n`; none for zero. -/
def decimalLength (n : Nat) : Nat := if n = 0 then 0 else (Nat.toDigits 10 n).length

/-- Zero with a sign. -/
def zero (negative : Bool) : Binary64 :=
  ⟨negative, 0, Nat.dvd_zero _, by decide +kernel⟩

/-- The power of ten nearest to `10 ^ e`, in units. -/
def tenPower (e : Nat) : Nat := nearest (Nat.pow 10 e * Nat.pow 2 1074) 1

/-- The greatest power of ten whose nearest number is finite. -/
def greatestPower : Nat := 308

/-- Some units divided by a power of ten. The number nearest to the power stands for it, and a power
that is too large for the format is taken in several steps, each of which rounds. -/
def ofQuotient? (negative : Bool) (units e : Nat) : Option Binary64 :=
  if e ≤ greatestPower then ofRatio? negative (units * Nat.pow 2 1074) (tenPower e)
  else if units = 0 then some (zero negative)
  else
    ofQuotient? negative (nearest (units * Nat.pow 2 1074) (tenPower greatestPower))
      (e - greatestPower)
termination_by e
decreasing_by
  rw [greatestPower] at *
  omega

/-- A significand times a power of ten. Both are rounded first and then their product or quotient,
so that the number is not always the nearest one. -/
def ofParts? (negative : Bool) (significand : Nat) (exponent : Int) : Option Binary64 :=
  let units := nearest (significand * Nat.pow 2 1074) 1
  if exponent < 0 then ofQuotient? negative units exponent.natAbs
  else if exponent ≤ greatestPower then
    ofRatio? negative (units * tenPower exponent.natAbs) (Nat.pow 2 1074)
  else if units = 0 then some (zero negative)
  else none

end Binary64

end AccessPolicy
