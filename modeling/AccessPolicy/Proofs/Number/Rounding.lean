import AccessPolicy.Number.Binary64
import Mathlib.Algebra.Group.Nat.Defs
import Mathlib.Data.Int.Basic
import Mathlib.Data.Nat.Log

/-!
# Rounding whole numbers to binary64

Comparison rounds integers, so what it sees of them is what rounding leaves. Rounding goes to a
multiple of the spacing around the number, and the spacing grows with the number of binary digits.
Between two numbers of equally many digits the spacing is the same, and dividing keeps their order;
otherwise a power of two lies between them, which rounding does not cross.

## Main statements

* `Binary64.nearest_eq_self` — a number of the format is left as it is.
* `Binary64.roundInt_mono` — rounding keeps the order, though not the difference.
* `Binary64.roundInt_eq_mul` — integers up to `2⁵³` are left as they are.
-/
namespace AccessPolicy.Binary64

/-! ## Quotients -/

theorem div_le_roundedQuotient (n d : Nat) : n / d ≤ roundedQuotient n d := by
  unfold roundedQuotient
  split <;> omega

/-- Rounding quotients by the same divisor keeps their order. -/
theorem roundedQuotient_mono {n m : Nat} (d : Nat) (h : n ≤ m) :
    roundedQuotient n d ≤ roundedQuotient m d := by
  have hquotient : n / d ≤ m / d := Nat.div_le_div_right h
  rcases Nat.lt_or_eq_of_le hquotient with hlt | heq
  · have hn := roundedQuotient_le n d
    have hm := div_le_roundedQuotient m d
    omega
  · -- Of two numbers with the same quotient the larger one has the larger remainder.
    have hrest : n % d ≤ m % d := by
      have hn := Nat.div_add_mod n d
      have hm := Nat.div_add_mod m d
      rw [heq] at hn
      omega
    unfold roundedQuotient
    rw [heq]
    split <;> split <;> omega

theorem roundedQuotient_mul (k : Nat) {d : Nat} (hd : 0 < d) : roundedQuotient (k * d) d = k := by
  unfold roundedQuotient
  rw [Nat.mul_mod_left, Nat.mul_div_cancel k hd]
  simp [hd]

/-! ## Natural numbers of units -/

theorem nearest_one (n : Nat) :
    nearest n 1 = roundedQuotient n (2 ^ (n.log2 - 52)) * 2 ^ (n.log2 - 52) := by
  simp [nearest, spacing]

/-- **A number of the format** is left as it is. -/
theorem nearest_eq_self {n : Nat} (h : FitsDigits n) : nearest n 1 = n := by
  obtain ⟨k, hk⟩ := h
  rw [Nat.pow_eq, Nat.mul_comm] at hk
  rw [nearest_one]
  generalize n.log2 - 52 = e at hk ⊢
  subst hk
  rw [roundedQuotient_mul k (Nat.two_pow_pos e)]

/-- Rounding does not cross the next power of two. -/
theorem nearest_le_two_pow (n : Nat) : nearest n 1 ≤ 2 ^ (n.log2 + 1) := by
  have hsplit : 2 ^ (n.log2 + 1) = 2 ^ (n.log2 + 1 - (n.log2 - 52)) * 2 ^ (n.log2 - 52) := by
    rw [← Nat.pow_add]
    congr 1
    omega
  have hquotient : n / 2 ^ (n.log2 - 52) < 2 ^ (n.log2 + 1 - (n.log2 - 52)) := by
    rw [Nat.div_lt_iff_lt_mul (Nat.two_pow_pos _), ← hsplit]
    exact Nat.lt_log2_self
  rw [nearest_one, hsplit]
  exact Nat.mul_le_mul_right _ (Nat.le_trans (roundedQuotient_le _ _) hquotient)

/-- Nor does it cross the last one. -/
theorem two_pow_le_nearest {n : Nat} (h : n ≠ 0) : 2 ^ n.log2 ≤ nearest n 1 := by
  have hsplit : 2 ^ n.log2 = 2 ^ (n.log2 - (n.log2 - 52)) * 2 ^ (n.log2 - 52) := by
    rw [← Nat.pow_add]
    congr 1
    omega
  have hquotient : 2 ^ (n.log2 - (n.log2 - 52)) ≤ n / 2 ^ (n.log2 - 52) := by
    rw [Nat.le_div_iff_mul_le (Nat.two_pow_pos _), ← hsplit]
    exact Nat.log2_self_le h
  rw [nearest_one]
  calc 2 ^ n.log2 = 2 ^ (n.log2 - (n.log2 - 52)) * 2 ^ (n.log2 - 52) := hsplit
    _ ≤ roundedQuotient n (2 ^ (n.log2 - 52)) * 2 ^ (n.log2 - 52) :=
      Nat.mul_le_mul_right _ (Nat.le_trans hquotient (div_le_roundedQuotient _ _))

/-- **Rounding keeps the order.** -/
theorem nearest_mono {n m : Nat} (h : n ≤ m) : nearest n 1 ≤ nearest m 1 := by
  have hlog : n.log2 ≤ m.log2 := by
    rw [Nat.log2_eq_log_two, Nat.log2_eq_log_two]
    exact Nat.log_mono_right h
  rcases Nat.lt_or_eq_of_le hlog with hlt | heq
  · have hm : m ≠ 0 := by
      rintro rfl
      simp at hlt
    calc nearest n 1 ≤ 2 ^ (n.log2 + 1) := nearest_le_two_pow n
      _ ≤ 2 ^ m.log2 := Nat.pow_le_pow_right (by decide) hlt
      _ ≤ nearest m 1 := two_pow_le_nearest hm
  · rw [nearest_one, nearest_one, heq]
    exact Nat.mul_le_mul_right _ (roundedQuotient_mono _ h)

/-! ## Integers -/

theorem roundInt_natCast (n : Nat) : roundInt n = (nearest (n * Nat.pow 2 1074) 1 : Nat) := by
  rcases Nat.eq_zero_or_pos n with rfl | hn
  · rw [Nat.zero_mul (Nat.pow 2 1074), nearest_eq_self (Nat.dvd_zero _), roundInt,
      Int.natCast_zero, Int.sign_zero, Int.zero_mul]
  · rw [roundInt, Int.natAbs_natCast, Int.sign_eq_one_of_pos (by omega), Int.one_mul]

theorem roundInt_neg (n : Int) : roundInt (-n) = -roundInt n := by
  rw [roundInt, roundInt, Int.sign_neg, Int.natAbs_neg, Int.neg_mul]

/-- **Rounding keeps the order of integers.** Two different integers may be rounded to the same
number, but never to two numbers in the wrong order. -/
theorem roundInt_mono {a b : Int} (h : a ≤ b) : roundInt a ≤ roundInt b := by
  have hnat : ∀ {n m : Nat}, n ≤ m → roundInt n ≤ roundInt m := by
    intro n m hnm
    rw [roundInt_natCast, roundInt_natCast]
    exact Int.ofNat_le.2 (nearest_mono (Nat.mul_le_mul_right _ hnm))
  have hzero : ∀ n : Nat, 0 ≤ roundInt n := by
    intro n
    rw [roundInt_natCast]
    exact Int.natCast_nonneg _
  obtain ⟨n, rfl | rfl⟩ := a.eq_nat_or_neg
  · obtain ⟨m, rfl | rfl⟩ := b.eq_nat_or_neg
    · exact hnat (by omega)
    · have hn : (n : Int) = -(m : Int) := by omega
      rw [hn]
  · obtain ⟨m, rfl | rfl⟩ := b.eq_nat_or_neg
    · rw [roundInt_neg]
      have hn := hzero n
      have hm := hzero m
      omega
    · rw [roundInt_neg, roundInt_neg]
      exact Int.neg_le_neg (hnat (by omega))

/-- **Integers up to `2⁵³`** are left as they are. -/
theorem roundInt_eq_mul {n : Int} (h : n.natAbs ≤ 2 ^ 53) :
    roundInt n = n * (Nat.pow 2 1074 : Nat) := by
  have hround : ∀ s : Nat, n.sign * (nearest (n.natAbs * Nat.pow 2 s) 1 : Nat) =
      n * (Nat.pow 2 s : Nat) := by
    intro s
    rw [nearest_eq_self (fitsDigits_mul_two_pow h s), Int.natCast_mul, ← Int.mul_assoc,
      Int.sign_mul_natAbs]
  exact hround 1074

end AccessPolicy.Binary64
