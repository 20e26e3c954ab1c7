import AccessPolicy.Number.Shortest
import AccessPolicy.Proofs.Number.Rounding
import Mathlib.Algebra.Order.Field.Power
import Mathlib.Algebra.Order.Ring.Rat
import Mathlib.Tactic.FieldSimp
import Mathlib.Tactic.Linarith
import Mathlib.Tactic.Positivity

/-!
# The shortest decimal rounds back

Around every number of the format there is an interval of magnitudes that rounding takes to it: half
the way to the next number upwards and half the way downwards, where the way is half as long below a
power of two. The ends belong to it if the last binary digit is zero, since a tie goes to the even
number.

The digits of a number are searched among the decimals of one, two and more digits that lie in its
interval. Seventeen digits are enough, because the steps between such decimals are small beside the
interval. So something is always found, and it rounds to the number that it was found for.

## Main definitions

* `Binary64.step`, `Binary64.reach` — how far the interval goes up and down.
* `Binary64.nearestRat` — the number nearest to a rational number of units.

## Main statements

* `Binary64.nearest_of_holds` — what lies in the interval around a number is rounded to it.
* `Binary64.scaled_le`, `Binary64.candidate?_ne_none` — seventeen digits suffice.
* `Binary64.nearestRat_shortest` — the shortest decimal rounds back.
-/
namespace AccessPolicy.Binary64

/-! ## Rounding quotients -/

/-- Rounding gives the whole number that is less than half a divisor away. If it is exactly half a
divisor away, it has to be even. -/
theorem roundedQuotient_eq {n d m : Nat} (hd : 0 < d) (hlow : 2 * (m * d) ≤ 2 * n + d)
    (hhigh : 2 * n ≤ 2 * (m * d) + d)
    (htie : m % 2 = 0 ∨ 2 * (m * d) < 2 * n + d ∧ 2 * n < 2 * (m * d) + d) :
    roundedQuotient n d = m := by
  have hn := Nat.div_add_mod n d
  have hr := Nat.mod_lt n hd
  rw [roundedQuotient]
  generalize n / d = q at hn ⊢
  generalize n % d = r at hn hr ⊢
  rw [Nat.mul_comm] at hn
  have hle : q ≤ m := by
    by_contra hlt
    have hmul : (m + 1) * d ≤ q * d := Nat.mul_le_mul_right d (by omega)
    rw [Nat.add_one_mul] at hmul
    omega
  have hge : m ≤ q + 1 := by
    by_contra hlt
    have hmul : (q + 2) * d ≤ m * d := Nat.mul_le_mul_right d (by omega)
    rw [Nat.add_mul] at hmul
    omega
  obtain rfl | rfl : m = q ∨ m = q + 1 := by omega
  · rw [if_pos]
    omega
  · rw [Nat.add_one_mul q d] at hlow hhigh htie
    rw [if_neg]
    omega

/-! ## The interval around a number -/

section Interval

variable {u n d : Nat}

/-- The distance to the next number of the format. -/
def step (u : Nat) : Nat := 2 ^ (u.log2 - 52)

/-- How far the interval goes down, in quarters of a unit. -/
def reach (u : Nat) : Nat := if u = 2 ^ u.log2 ∧ 1 < step u then step u else 2 * step u

theorem step_pos (u : Nat) : 0 < step u := Nat.two_pow_pos _

theorem step_le (hu : 0 < u) : step u ≤ u := by
  calc step u ≤ 2 ^ u.log2 := Nat.pow_le_pow_right (by decide) (by omega)
    _ ≤ u := Nat.log2_self_le (by omega)

theorem reach_le (u : Nat) : reach u ≤ 2 * step u := by
  rw [reach]
  split <;> omega

theorem reach_mul_le (u d : Nat) : reach u * d ≤ 2 * (step u * d) := by
  rw [← Nat.mul_assoc]
  exact Nat.mul_le_mul_right d (reach_le u)

/-- The interval in terms of its length: half a step upwards, and as far down as it reaches. -/
theorem holds_iff (hu : 0 < u) : (intervalAround u).holds n d = true ↔
    4 * (u * d) ≤ 4 * n + reach u * d ∧ 4 * n ≤ 4 * (u * d) + 2 * (step u * d) ∧
      (u / step u % 2 = 0 ∨
        4 * (u * d) < 4 * n + reach u * d ∧ 4 * n < 4 * (u * d) + 2 * (step u * d)) := by
  have hinterval : intervalAround u =
      ⟨4 * u - reach u, 4 * u + 2 * step u, u / step u % 2 = 0⟩ := rfl
  have hstep : step u * d ≤ u * d := Nat.mul_le_mul_right d (step_le hu)
  have hreach := reach_mul_le u d
  rw [hinterval, Interval.holds]
  split <;>
    simp only [decide_eq_true_eq, Nat.add_mul, Nat.sub_mul, Nat.mul_assoc] at * <;> omega

/-- Where the spacing is that of the number, a quotient in its interval is rounded to it. -/
theorem nearest_of_spacing (hu : 0 < u) (hfits : FitsDigits u) (hd : 0 < d)
    (hspacing : spacing n d = step u) (h : (intervalAround u).holds n d = true) :
    nearest n d = u := by
  obtain ⟨hlow, hhigh, htie⟩ := (holds_iff hu).1 h
  have hreach := reach_mul_le u d
  have hm : u / step u * step u = u := Nat.div_mul_cancel hfits
  have hproduct : u / step u * (d * step u) = u * d := by
    rw [Nat.mul_comm d, ← Nat.mul_assoc, hm]
  rw [nearest, hspacing, roundedQuotient_eq (m := u / step u), hm]
  · exact Nat.mul_pos hd (step_pos u)
  all_goals
    rw [hproduct, Nat.mul_comm d]
    omega

/-- The spacing around a quotient with a given number of binary digits. -/
theorem spacing_eq {k : Nat} (hd : 0 < d) (hlow : 2 ^ k * d ≤ n) (hhigh : n < 2 ^ (k + 1) * d) :
    spacing n d = 2 ^ (k - 52) := by
  have hlow' : 2 ^ k ≤ n / d := (Nat.le_div_iff_mul_le hd).2 hlow
  have hhigh' : n / d < 2 ^ (k + 1) := (Nat.div_lt_iff_lt_mul hd).2 hhigh
  have hne : n / d ≠ 0 := Nat.ne_of_gt (Nat.lt_of_lt_of_le (Nat.two_pow_pos k) hlow')
  rw [spacing, (Nat.log2_eq_iff hne).2 ⟨hlow', hhigh'⟩, Nat.pow_eq]

/-- Two different multiples of the step are at least a step apart. -/
theorem add_step_le {a b : Nat} (ha : step u ∣ a) (hb : step u ∣ b) (hlt : a < b) :
    a + step u ≤ b := by
  by_contra hclose
  have hle : b ≤ a := Nat.le_of_lt_add_of_dvd (by omega) hb ha
  omega

theorem step_dvd_two_pow {k : Nat} (hk : u.log2 ≤ k) : step u ∣ 2 ^ k :=
  Nat.pow_dvd_pow 2 (by omega)

/-- A quotient just below a power of two, where the spacing is half as wide, is rounded to it. -/
theorem nearest_of_below (hu : 0 < u) (hd : 0 < d) (hpow : u = 2 ^ u.log2) (hstep : 1 < step u)
    (hbelow : n < u * d) (h : (intervalAround u).holds n d = true) : nearest n d = u := by
  have hlow := ((holds_iff hu).1 h).1
  rw [reach, if_pos ⟨hpow, hstep⟩] at hlow
  have hk : 53 ≤ u.log2 := by
    by_contra hk
    rw [step, Nat.sub_eq_zero_of_le (by omega)] at hstep
    omega
  obtain ⟨e, he⟩ : ∃ e, u.log2 = e + 53 := ⟨u.log2 - 53, by omega⟩
  have hhalf : step u = 2 * 2 ^ e := by
    rw [step, he, Nat.add_sub_assoc (by decide), Nat.pow_succ, Nat.mul_comm]
  have hdigits : u = 2 ^ 53 * 2 ^ e := by rw [← Nat.pow_add, Nat.add_comm, ← he, ← hpow]
  have hspacing : spacing n d = 2 ^ e := by
    have hquarter : 2 ^ (e + 52) = 2 ^ 52 * 2 ^ e := by rw [Nat.pow_add, Nat.mul_comm]
    have htwice : 2 ^ (e + 52 + 1) = u := by rw [← he, ← hpow]
    rw [spacing_eq (k := e + 52) hd, Nat.add_sub_cancel]
    · rw [hhalf, hdigits] at hlow
      rw [hquarter]
      simp only [Nat.mul_assoc] at hlow ⊢
      omega
    · rwa [htwice]
  have hproduct : 2 ^ 53 * (d * 2 ^ e) = u * d := by
    rw [Nat.mul_comm d, ← Nat.mul_assoc, ← hdigits]
  have hhalf' : step u * d = 2 * (d * 2 ^ e) := by rw [hhalf, Nat.mul_assoc, Nat.mul_comm d]
  rw [nearest, hspacing, roundedQuotient_eq (m := 2 ^ 53), ← hdigits]
  · exact Nat.mul_pos hd (Nat.two_pow_pos e)
  · rw [hproduct]
    omega
  · rw [hproduct]
    omega
  · exact .inl (by decide)

/-- **What lies in the interval around a number is rounded to it.** -/
theorem nearest_of_holds (hu : 0 < u) (hfits : FitsDigits u) (hd : 0 < d)
    (h : (intervalAround u).holds n d = true) : nearest n d = u := by
  have hlog : 2 ^ u.log2 ≤ u := Nat.log2_self_le (by omega)
  have hstep : 0 < step u * d := Nat.mul_pos (step_pos u) hd
  have hreach := reach_mul_le u d
  obtain ⟨hlow, hhigh, -⟩ := (holds_iff hu).1 h
  rcases Nat.lt_or_ge n (2 ^ u.log2 * d) with hbelow | habove
  · -- The quotient has fewer binary digits than the number, which is then a power of two.
    have hpow : u = 2 ^ u.log2 := by
      by_contra hne
      have hnext : 2 ^ u.log2 + step u ≤ u :=
        add_step_le (step_dvd_two_pow (Nat.le_refl _)) hfits (by omega)
      have hmul := Nat.mul_le_mul_right d hnext
      rw [Nat.add_mul] at hmul
      omega
    rw [← hpow] at hbelow
    rcases Nat.lt_or_ge 1 (step u) with hwide | hone
    · exact nearest_of_below hu hd hpow hwide hbelow h
    · refine nearest_of_spacing hu hfits hd ?_ h
      have hquotient : n / d ≤ u := Nat.le_of_lt ((Nat.div_lt_iff_lt_mul hd).2 hbelow)
      have hdigits : (n / d).log2 ≤ u.log2 := by
        rw [Nat.log2_eq_log_two, Nat.log2_eq_log_two]
        exact Nat.log_mono_right hquotient
      have hle : spacing n d ≤ step u := Nat.pow_le_pow_right (by decide) (by omega)
      have hpos : 0 < spacing n d := Nat.two_pow_pos _
      omega
  · -- The quotient has as many binary digits as the number.
    refine nearest_of_spacing hu hfits hd (spacing_eq hd habove ?_) h
    have hnext : u + step u ≤ 2 ^ (u.log2 + 1) :=
      add_step_le hfits (step_dvd_two_pow (Nat.le_succ _)) Nat.lt_log2_self
    have hmul := Nat.mul_le_mul_right d hnext
    rw [Nat.add_mul] at hmul
    omega

end Interval

/-! ## Quotients as rational numbers -/

section Rational

variable {n n' d d' : Nat}

theorem roundedQuotient_mul_right (n d : Nat) {k : Nat} (hk : 0 < k) :
    roundedQuotient (n * k) (d * k) = roundedQuotient n d := by
  have hlt : ∀ a b : Nat, 2 * (a * k) < b * k ↔ 2 * a < b := by
    intro a b
    rw [← Nat.mul_assoc, Nat.mul_lt_mul_right hk]
  have heq : ∀ a b : Nat, 2 * (a * k) = b * k ↔ 2 * a = b := by
    intro a b
    rw [← Nat.mul_assoc, Nat.mul_left_inj hk.ne']
  simp only [roundedQuotient, Nat.mul_div_mul_right n d hk, Nat.mul_mod_mul_right, hlt, heq]

theorem nearest_mul_right (n d : Nat) {k : Nat} (hk : 0 < k) :
    nearest (n * k) (d * k) = nearest n d := by
  have hspacing : spacing (n * k) (d * k) = spacing n d := by
    rw [spacing, spacing, Nat.mul_div_mul_right n d hk]
  rw [nearest, nearest, hspacing, Nat.mul_right_comm d k, roundedQuotient_mul_right _ _ hk]

/-- Rounding depends on the quotient alone. -/
theorem nearest_congr (hd : 0 < d) (hd' : 0 < d') (h : n * d' = n' * d) :
    nearest n d = nearest n' d' := by
  rw [← nearest_mul_right n d hd', h, Nat.mul_comm d, nearest_mul_right n' d' hd]

/-- The count of units held by the format that is nearest to a rational number of them. -/
def nearestRat (q : ℚ) : Nat := nearest q.num.natAbs q.den

theorem nearestRat_div (n : Nat) (hd : 0 < d) : nearestRat (n / d) = nearest n d := by
  have hd' : (d : ℚ) ≠ 0 := Nat.cast_ne_zero.2 hd.ne'
  have hden : ((n / d : ℚ).den : ℚ) ≠ 0 := Nat.cast_ne_zero.2 (Rat.den_ne_zero _)
  have hnum : ((n / d : ℚ).num.natAbs : ℤ) = (n / d : ℚ).num :=
    Int.natAbs_of_nonneg (Rat.num_nonneg.2 (by positivity))
  refine nearest_congr (Rat.den_pos _) hd ?_
  have hquotient := Rat.num_div_den (n / d : ℚ)
  rw [← hnum, div_eq_div_iff hden hd'] at hquotient
  exact_mod_cast hquotient

end Rational

/-! ## The shortest decimal -/

section Shortest

variable {u : Nat}

theorem scaled_fst_pos (e : Int) : 0 < (scaled 1 e).1 := by
  rw [scaled]
  generalize 1074 = k
  exact Nat.mul_pos (Nat.mul_pos Nat.one_pos (Nat.pow_pos (by decide))) (Nat.two_pow_pos k)

theorem scaled_snd_pos (c : Nat) (e : Int) : 0 < (scaled c e).2 := Nat.pow_pos (by decide)

theorem scaled_fst (c : Nat) (e : Int) : (scaled c e).1 = c * (scaled 1 e).1 := by
  rw [scaled, scaled, Nat.one_mul, Nat.mul_assoc]

/-- A decimal as a rational number of units. -/
theorem scaled_div (c : Nat) (e : Int) :
    ((scaled c e).1 : ℚ) / (scaled c e).2 = c * 10 ^ e * (Nat.pow 2 1074 : Nat) := by
  rw [scaled]
  generalize Nat.pow 2 1074 = units
  simp only [Nat.cast_mul, Nat.pow_eq, Nat.cast_pow, Nat.cast_ofNat]
  cases e with
  | ofNat k => simp
  | negSucc k => simp [zpow_negSucc, div_eq_mul_inv, mul_right_comm]

/-! ### Seventeen digits suffice -/

/-- A number of 53 binary digits is not much longer than its interval. -/
theorem le_reach (u : Nat) : u ≤ 2 ^ 52 * reach u := by
  have hlog : u < 2 ^ (u.log2 + 1) := Nat.lt_log2_self
  rw [reach]
  split
  · rename_i hnarrow
    obtain ⟨hpow, hstep⟩ := hnarrow
    have hk : 52 ≤ u.log2 := by
      by_contra hk
      rw [step, Nat.sub_eq_zero_of_le (by omega)] at hstep
      omega
    rw [step, ← Nat.pow_add, Nat.add_sub_cancel' hk, ← hpow]
  · have hle : 2 ^ (u.log2 + 1) ≤ 2 ^ (53 + (u.log2 - 52)) :=
      Nat.pow_le_pow_right (by decide) (by omega)
    rw [Nat.pow_add 2 53] at hle
    rw [step]
    omega

theorem lt_ten_pow_decimalLength (n : Nat) : n < 10 ^ decimalLength n := by
  rw [decimalLength]
  split
  · omega
  · exact (Nat.length_toDigits_le_iff (by decide) Nat.length_toDigits_pos).1 (Nat.le_refl _)

theorem decimalLength_pos {n : Nat} (hn : n ≠ 0) : 0 < decimalLength n := by
  rw [decimalLength, if_neg hn]
  exact Nat.length_toDigits_pos

theorem ten_pow_le {n : Nat} (hn : n ≠ 0) : 10 ^ (decimalLength n - 1) ≤ n := by
  have hpos := decimalLength_pos hn
  rcases Nat.lt_or_ge 1 (decimalLength n) with hlong | hone
  · by_contra hlt
    rw [decimalLength, if_neg hn] at hlong hlt
    have hlength := (Nat.length_toDigits_le_iff (b := 10) (by decide) (by omega)).2
      (Nat.lt_of_not_le hlt)
    omega
  · rw [Nat.sub_eq_zero_of_le hone]
    omega

/-- The first digit stands where it should, or further to the right. -/
theorem ten_zpow_decimalExponent_le (hu : 0 < u) :
    (10 : ℚ) ^ decimalExponent u * (Nat.pow 2 1074 : Nat) ≤ u := by
  rw [decimalExponent]
  generalize 1074 = k
  have hunits : 0 < Nat.pow 2 k := Nat.two_pow_pos k
  generalize Nat.pow 2 k = units at hunits ⊢
  split
  · rename_i hle
    have hne : u / units ≠ 0 := (Nat.div_pos hle hunits).ne'
    have hexponent : ((decimalLength (u / units) : ℕ) : ℤ) - 1 =
        (decimalLength (u / units) - 1 : ℕ) := by
      have hpos := decimalLength_pos hne
      omega
    rw [hexponent, zpow_natCast]
    have hmul : 10 ^ (decimalLength (u / units) - 1) * units ≤ u :=
      (Nat.mul_le_mul_right units (ten_pow_le hne)).trans (Nat.div_mul_le_self u units)
    exact_mod_cast hmul
  · have hlt := lt_ten_pow_decimalLength ((units - 1) / u)
    rw [Nat.div_lt_iff_lt_mul hu] at hlt
    rw [zpow_neg, zpow_natCast, inv_mul_le_iff₀ (by positivity)]
    have hle : units ≤ 10 ^ decimalLength ((units - 1) / u) * u := by omega
    exact_mod_cast hle

/-- Seventeen digits write a number in steps that are small beside its interval. -/
theorem scaled_le (hu : 0 < u) :
    10 ^ 16 * (scaled 1 (decimalExponent u - 16)).1 ≤
      u * (scaled 1 (decimalExponent u - 16)).2 := by
  have hd : (0 : ℚ) < (scaled 1 (decimalExponent u - 16)).2 := Nat.cast_pos.2 (scaled_snd_pos _ _)
  have hvalue := scaled_div 1 (decimalExponent u - 16)
  have hle := ten_zpow_decimalExponent_le hu
  generalize Nat.pow 2 1074 = units at hvalue hle
  generalize (scaled 1 (decimalExponent u - 16)).1 = n at hvalue ⊢
  generalize (scaled 1 (decimalExponent u - 16)).2 = d at hd hvalue ⊢
  rw [div_eq_iff hd.ne', Nat.cast_one, one_mul, zpow_sub₀ (by norm_num)] at hvalue
  have hgrid : (10 : ℚ) ^ 16 * n ≤ u * d := by
    calc (10 : ℚ) ^ 16 * n = 10 ^ decimalExponent u * units * d := by
          rw [hvalue]
          field_simp
      _ ≤ u * d := by gcongr
  exact_mod_cast hgrid

/-! ### What is found -/

/-- What is found lies in the interval. -/
theorem holds_of_candidate? {length : Nat} {r : Nat × Int} (h : candidate? u length = some r) :
    (intervalAround u).holds (scaled r.1 r.2).1 (scaled r.1 r.2).2 = true := by
  simp only [candidate?] at h
  split at h
  · rename_i hbelow
    cases h
    exact hbelow.1
  · split at h
    · rename_i habove
      cases h
      exact habove
    · cases h

/-- One of the two neighbours of a number lies in its interval if the steps are small beside it. -/
theorem candidate?_ne_none {length : Nat} {e : Int} (hu : 0 < u)
    (he : decimalExponent u - length + 1 = e)
    (hgrid : 10 ^ 16 * (scaled 1 e).1 ≤ u * (scaled 1 e).2) : candidate? u length ≠ none := by
  have hn := scaled_fst_pos e
  have hreach := Nat.mul_le_mul_right (scaled 1 e).2 (le_reach u)
  have hstep := reach_mul_le u (scaled 1 e).2
  have hrest := Nat.div_add_mod (u * (scaled 1 e).2) (scaled 1 e).1
  have hlt := Nat.mod_lt (u * (scaled 1 e).2) hn
  rw [Nat.mul_assoc] at hreach
  rw [Nat.mul_comm (scaled 1 e).1] at hrest
  simp only [candidate?, he]
  generalize u * (scaled 1 e).2 / (scaled 1 e).1 = c at hrest ⊢
  have hneighbours : (intervalAround u).holds (scaled c e).1 (scaled 1 e).2 = true ∨
      (intervalAround u).holds (scaled (c + 1) e).1 (scaled 1 e).2 = true := by
    rw [scaled_fst c, scaled_fst (c + 1), Nat.add_one_mul c, holds_iff hu, holds_iff hu]
    omega
  split
  · nofun
  · rename_i hbelow
    split
    · nofun
    · rename_i habove
      simp_all

/-- What is found for a number lies in its interval, and something is found. -/
theorem holds_shortest (hu : 0 < u) :
    (intervalAround u).holds (scaled (shortest u).1 (shortest u).2).1
      (scaled (shortest u).1 (shortest u).2).2 = true := by
  have hlast : candidate? u (16 + 1) ≠ none :=
    candidate?_ne_none hu (by omega) (scaled_le hu)
  have hfound : ((List.range 17).findSome? fun i => candidate? u (i + 1)).isSome = true :=
    List.findSome?_isSome_iff.2 ⟨16, by decide, Option.isSome_iff_ne_none.2 hlast⟩
  obtain ⟨r, hr⟩ := Option.isSome_iff_exists.1 hfound
  obtain ⟨i, -, hi⟩ := List.exists_of_findSome?_eq_some hr
  rw [shortest, hr]
  exact holds_of_candidate? hi

theorem shortest_fst_pos (hu : 0 < u) : 0 < (shortest u).1 := by
  have hd := Nat.mul_pos hu (scaled_snd_pos (shortest u).1 (shortest u).2)
  have hlow := ((holds_iff hu).1 (holds_shortest hu)).1
  rw [scaled_fst] at hlow
  generalize (scaled (shortest u).1 (shortest u).2).2 = d at hd hlow
  have hreach := reach_mul_le u d
  have hstep := Nat.mul_le_mul_right d (step_le hu)
  by_contra hzero
  rw [Nat.eq_zero_of_not_pos hzero, Nat.zero_mul] at hlow
  omega

/-- **The shortest decimal rounds back** to the number that it is written for. -/
theorem nearestRat_shortest (hu : 0 < u) (hfits : FitsDigits u) :
    nearestRat ((shortest u).1 * 10 ^ (shortest u).2 * (Nat.pow 2 1074 : Nat)) = u := by
  have hd := scaled_snd_pos (shortest u).1 (shortest u).2
  rw [← scaled_div, nearestRat_div _ hd]
  exact nearest_of_holds hu hfits hd (holds_shortest hu)

end Shortest

end AccessPolicy.Binary64
