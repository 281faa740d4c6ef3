import EntityQuery.Proofs.Number.DecimalText
import Mathlib.Algebra.Order.Floor.Semifield
import Mathlib.Data.Int.Log
import Mathlib.Data.Rat.Floor
import Mathlib.Tactic.FieldSimp
import Mathlib.Tactic.Linarith
import Mathlib.Tactic.Positivity

/-!
# Decimals are rounded by their value

`nearest` rounds a rational number to a floating point number: the exponent is the one at which the
number has a whole part of 53 bits, or the least one, and the significand is rounded to an even one on a
tie. The fractions of natural numbers that `ofFraction` computes with give that number
(`ofFraction_eq_nearest`), and so does `ofDecimal` with its two shortcuts: what is beyond `2 ^ 1024` is
infinite and what is below `2 ^ -1075` is zero (`ofDecimal_eq_nearest`). Decimals of one value are
therefore rounded to one number. A finite number is itself the nearest to it (`nearest_finite`).
-/

namespace EntityQuery

/-- A power of two, as a fraction. -/
theorem cast_twoTo (n : ℕ) : (twoTo n : ℚ) = 2 ^ n := by simp [twoTo]

/-- A power of ten, as a fraction. -/
theorem cast_tenTo (n : ℕ) : (tenTo n : ℚ) = 10 ^ n := by simp [tenTo]

/-- A power of two is positive. -/
theorem twoTo_pos (n : ℕ) : 0 < twoTo n := Nat.pow_pos (by decide)

/-- So is one with any exponent. -/
theorem two_zpow_pos (q : ℤ) : (0 : ℚ) < 2 ^ q := zpow_pos (by norm_num) q

/-- Numbers below a power of two, both scaled by another one. -/
theorem mul_two_zpow_lt_iff {r : ℚ} {q : ℤ} (n : ℕ) : r * 2 ^ q < 2 ^ (q + n) ↔ r < twoTo n := by
  rw [zpow_add₀ two_ne_zero, zpow_natCast, mul_comm, mul_lt_mul_iff_right₀ (two_zpow_pos q), cast_twoTo]

/-- A power of ten with any exponent is positive. -/
theorem ten_zpow_pos (e : ℤ) : (0 : ℚ) < 10 ^ e := zpow_pos (by norm_num) e

/-- The magnitude that a decimal denotes. -/
def Decimal.magnitude (d : Decimal) : ℚ := d.coefficient * 10 ^ d.exponent

namespace Binary64

/-- A rational number rounded to a whole one; a tie goes to the even one. -/
def roundEven (r : ℚ) : ℕ :=
  let floor := ⌊r⌋₊
  if r - floor < 1 / 2 then floor
  else if 1 / 2 < r - floor then floor + 1
  else if floor % 2 = 0 then floor else floor + 1

/-- The exponent of the floating point numbers around a positive number. -/
def exponentOf (r : ℚ) : ℤ := max leastExponent (Int.log 2 r - 52)

/-- The floating point number nearest to a magnitude; zero for what is no magnitude. -/
def nearest (negative : Bool) (r : ℚ) : Binary64 :=
  if r ≤ 0 then zero negative
  else
    let q := exponentOf r
    let m := roundEven (r / 2 ^ q)
    if m = twoTo 53 then ofParts negative (twoTo 52) (q + 1) else ofParts negative m q

/-! ### Fractions -/

/-- **A quotient is rounded as the fraction that it is.** -/
theorem roundQuotient_eq_roundEven (num : ℕ) {den : ℕ} (hd : 0 < den) :
    roundQuotient num den = roundEven ((num : ℚ) / den) := by
  have den_pos : (0 : ℚ) < den := by exact_mod_cast hd
  have floor : ⌊(num : ℚ) / den⌋₊ = num / den := Nat.floor_div_eq_div num den
  have rest : (num : ℚ) / den - (num / den : ℕ) = (num % den : ℕ) / den := by
    have parts : (num : ℚ) = den * (num / den : ℕ) + (num % den : ℕ) := by
      exact_mod_cast (Nat.div_add_mod num den).symm
    rw [sub_eq_iff_eq_add, div_eq_iff den_pos.ne', add_mul, div_mul_cancel₀ _ den_pos.ne']
    linarith
  have below : ((num % den : ℕ) : ℚ) / den < 1 / 2 ↔ 2 * (num % den) < den := by
    rw [div_lt_div_iff₀ den_pos two_pos, one_mul, mul_comm]
    exact_mod_cast Iff.rfl
  have above : 1 / 2 < ((num % den : ℕ) : ℚ) / den ↔ den < 2 * (num % den) := by
    rw [div_lt_div_iff₀ two_pos den_pos, one_mul, mul_comm]
    exact_mod_cast Iff.rfl
  simp only [roundQuotient, roundEven, floor, rest, below, above]

/-- **A scaled fraction is the fraction divided by the power of two.** -/
theorem scale_eq_div (num den : ℕ) (q : ℤ) :
    ((scale num den q).1 : ℚ) / (scale num den q).2 = (num : ℚ) / den / 2 ^ q := by
  unfold scale
  split
  · next h =>
    obtain ⟨n, rfl⟩ := Int.eq_ofNat_of_zero_le h
    simp only [Int.toNat_natCast, Nat.cast_mul, cast_twoTo, zpow_natCast]
    rw [div_div]
  · next h =>
    obtain ⟨n, rfl⟩ : ∃ n : ℕ, q = -(n : ℤ) := ⟨(-q).toNat, by omega⟩
    simp only [Int.neg_neg, Int.toNat_natCast, Nat.cast_mul, cast_twoTo, zpow_neg, zpow_natCast]
    rw [div_inv_eq_mul, mul_div_right_comm]

/-- Scaling keeps a denominator positive. -/
theorem scale_snd_pos (num : ℕ) {den : ℕ} (hd : 0 < den) (q : ℤ) : 0 < (scale num den q).2 := by
  unfold scale
  split
  · exact Nat.mul_pos hd (twoTo_pos _)
  · exact hd

/-- The logarithm of a number is read off two powers around it. -/
theorem log_eq_of_bounds {r : ℚ} {k : ℤ} (low : (2 : ℚ) ^ k ≤ r) (high : r < 2 ^ (k + 1)) :
    Int.log 2 r = k := by
  have hr : 0 < r := (two_zpow_pos k).trans_le low
  have le := (Int.zpow_le_iff_le_log (b := 2) (by decide) hr).1 low
  have lt := (Int.lt_zpow_iff_log_lt (b := 2) (by decide) hr).1 high
  omega

/-- The logarithms of numerator and denominator enclose a fraction. -/
theorem log2_bounds {num den : ℕ} (hn : 0 < num) (hd : 0 < den) :
    (2 : ℚ) ^ ((num.log2 : ℤ) - den.log2 - 1) ≤ (num : ℚ) / den ∧
      (num : ℚ) / den < 2 ^ ((num.log2 : ℤ) - den.log2 + 1) := by
  have den_pos : (0 : ℚ) < den := by exact_mod_cast hd
  have num_low : (2 : ℚ) ^ (num.log2 : ℤ) ≤ num := by
    exact_mod_cast Nat.log2_self_le hn.ne'
  have num_high : (num : ℚ) < 2 ^ ((num.log2 : ℤ) + 1) := by
    exact_mod_cast Nat.lt_log2_self
  have den_low : (2 : ℚ) ^ (den.log2 : ℤ) ≤ den := by
    exact_mod_cast Nat.log2_self_le hd.ne'
  have den_high : (den : ℚ) < 2 ^ ((den.log2 : ℤ) + 1) := by
    exact_mod_cast Nat.lt_log2_self
  constructor
  · rw [le_div_iff₀ den_pos]
    calc (2 : ℚ) ^ ((num.log2 : ℤ) - den.log2 - 1) * den
        ≤ 2 ^ ((num.log2 : ℤ) - den.log2 - 1) * 2 ^ ((den.log2 : ℤ) + 1) :=
          mul_le_mul_of_nonneg_left den_high.le (two_zpow_pos _).le
      _ = 2 ^ (num.log2 : ℤ) := by
          rw [← zpow_add₀ two_ne_zero]
          congr 1
          ring
      _ ≤ num := num_low
  · rw [div_lt_iff₀ den_pos]
    calc (num : ℚ) < 2 ^ ((num.log2 : ℤ) + 1) := num_high
      _ = 2 ^ ((num.log2 : ℤ) - den.log2 + 1) * 2 ^ (den.log2 : ℤ) := by
          rw [← zpow_add₀ two_ne_zero]
          congr 1
          ring
      _ ≤ 2 ^ ((num.log2 : ℤ) - den.log2 + 1) * den :=
          mul_le_mul_of_nonneg_left den_low (two_zpow_pos _).le

/-- Whether the whole part of a scaled fraction has few bits. -/
theorem scale_lt_iff (num : ℕ) {den : ℕ} (hd : 0 < den) (q : ℤ) (bits : ℕ) :
    (scale num den q).1 / (scale num den q).2 < twoTo bits ↔ (num : ℚ) / den < 2 ^ (q + bits) := by
  have pos : (0 : ℚ) < (scale num den q).2 := by exact_mod_cast scale_snd_pos num hd q
  have value : (num : ℚ) / den = (scale num den q).1 / (scale num den q).2 * 2 ^ q := by
    rw [scale_eq_div, div_mul_cancel₀ _ (two_zpow_pos q).ne']
  rw [value, mul_two_zpow_lt_iff, div_lt_iff₀ pos, Nat.div_lt_iff_lt_mul (scale_snd_pos num hd q)]
  exact_mod_cast Iff.rfl

/-- **The exponent for a fraction is that of its value.** -/
theorem exponentFor_eq {num den : ℕ} (hn : 0 < num) (hd : 0 < den) :
    exponentFor num den = exponentOf ((num : ℚ) / den) := by
  obtain ⟨low, high⟩ := log2_bounds hn hd
  have small := scale_lt_iff num hd ((num.log2 : ℤ) - den.log2 - 52) 52
  rw [Nat.cast_ofNat, sub_add_cancel] at small
  unfold exponentFor exponentOf
  simp only
  split
  · next h =>
    have log := log_eq_of_bounds low (by rwa [sub_add_cancel, ← small])
    rw [log]
    congr 1
    ring
  · next h =>
    have log := log_eq_of_bounds (not_lt.1 (mt small.2 h)) high
    rw [log]

/-- **A fraction is rounded to the number nearest to its value.** -/
theorem ofFraction_eq_nearest (negative : Bool) (num : ℕ) {den : ℕ} (hd : 0 < den) :
    ofFraction negative num den = nearest negative ((num : ℚ) / den) := by
  unfold ofFraction nearest
  by_cases hn : num = 0
  · simp [hn]
  · have num_pos : 0 < num := Nat.pos_of_ne_zero hn
    have pos : 0 < (num : ℚ) / den :=
      div_pos (by exact_mod_cast num_pos) (by exact_mod_cast hd)
    rw [if_neg hn, if_neg (not_le.2 pos)]
    simp only [exponentFor_eq num_pos hd, roundQuotient_eq_roundEven _ (scale_snd_pos num hd _),
      scale_eq_div]

/-! ### Beyond the largest and below the least number -/

/-- A whole number is rounded to itself. -/
theorem roundEven_natCast (n : ℕ) : roundEven n = n := by
  simp [roundEven]

/-- Less than a half is rounded to zero. -/
theorem roundEven_eq_zero {r : ℚ} (h : r < 1 / 2) : roundEven r = 0 := by
  have floor : ⌊r⌋₊ = 0 := Nat.floor_eq_zero.2 (by linarith)
  simp only [roundEven, floor, Nat.cast_zero, sub_zero, if_pos h]

/-- Beyond the greatest exponent a number is infinite. -/
theorem ofParts_of_greatest_lt (negative : Bool) (m : ℕ) {q : ℤ} (h : greatestExponent < q) :
    ofParts negative m q = infinite negative :=
  dif_neg fun canonical => absurd canonical.2.2.1 (not_le.2 h)

/-- **A number of more than 1024 bits is infinite.** -/
theorem nearest_of_le (negative : Bool) {r : ℚ} (h : 2 ^ (1024 : ℤ) ≤ r) :
    nearest negative r = infinite negative := by
  have hr : 0 < r := (two_zpow_pos _).trans_le h
  have log : 1024 ≤ Int.log 2 r := (Int.zpow_le_iff_le_log (b := 2) (by decide) hr).1 h
  have large : greatestExponent < exponentOf r := by
    unfold exponentOf greatestExponent
    omega
  unfold nearest
  rw [if_neg (not_le.2 hr)]
  simp only
  split
  · exact ofParts_of_greatest_lt _ _ (by omega)
  · exact ofParts_of_greatest_lt _ _ large

/-- **A number below half of the least one is zero.** -/
theorem nearest_of_lt (negative : Bool) {r : ℚ} (h : r < 2 ^ (-1075 : ℤ)) :
    nearest negative r = zero negative := by
  unfold nearest
  split
  · rfl
  · next hr =>
    have log : Int.log 2 r < -1075 :=
      (Int.lt_zpow_iff_log_lt (b := 2) (by decide) (not_le.1 hr)).1 h
    have exponent : exponentOf r = leastExponent := by
      unfold exponentOf leastExponent
      omega
    have half : r / 2 ^ leastExponent < 1 / 2 := by
      rw [div_lt_iff₀ (two_zpow_pos _)]
      calc r < 2 ^ (-1075 : ℤ) := h
        _ = 1 / 2 * 2 ^ (-1074 : ℤ) := by
          rw [show (-1075 : ℤ) = -1 + -1074 by norm_num, zpow_add₀ two_ne_zero]
          norm_num
    have significand : roundEven (r / 2 ^ leastExponent) = 0 :=
      roundEven_eq_zero half
    simp only [exponent, significand]
    rfl

/-- **A finite number is the nearest to itself.** -/
theorem nearest_finite (negative : Bool) {m : ℕ} {q : ℤ} (h : IsCanonical m q) :
    nearest negative (m * 2 ^ q) = finite negative m q h := by
  obtain ⟨short, least, -, full⟩ := id h
  by_cases hm : m = 0
  · subst hm
    obtain full | rfl := full
    · exact absurd full (by decide)
    · simp [nearest, zero]
  · have pos : (0 : ℚ) < m * 2 ^ q :=
      mul_pos (by exact_mod_cast Nat.pos_of_ne_zero hm) (two_zpow_pos q)
    have log_lt : Int.log 2 ((m : ℚ) * 2 ^ q) < q + 53 :=
      (Int.lt_zpow_iff_log_lt (b := 2) (by decide) pos).1
        ((mul_two_zpow_lt_iff 53).2 (by exact_mod_cast short))
    have exponent : exponentOf (m * 2 ^ q) = q := by
      unfold exponentOf
      obtain full | rfl := full
      · have le_log : q + 52 ≤ Int.log 2 ((m : ℚ) * 2 ^ q) :=
          (Int.zpow_le_iff_le_log (b := 2) (by decide) pos).1
            (not_lt.1 fun below => full.not_gt (by exact_mod_cast (mul_two_zpow_lt_iff 52).1 below))
        omega
      · omega
    have significand : (m : ℚ) * 2 ^ q / 2 ^ q = m := mul_div_cancel_right₀ _ (two_zpow_pos q).ne'
    unfold nearest
    rw [if_neg (not_le.2 pos)]
    simp only [exponent, significand, roundEven_natCast, if_neg short.ne, ofParts, dif_pos h]

/-! ### Decimals -/

/-- The number of digits of a whole number says between which powers of ten it is. -/
theorem length_toDigits_bounds {c : ℕ} (hc : c ≠ 0) :
    (10 : ℚ) ^ (((Nat.toDigits 10 c).length : ℤ) - 1) ≤ c ∧
      (c : ℚ) < 10 ^ ((Nat.toDigits 10 c).length : ℤ) := by
  have positive : 0 < (Nat.toDigits 10 c).length := List.length_pos_of_ne_nil Nat.toDigits_ne_nil
  obtain ⟨n, hn⟩ : ∃ n, (Nat.toDigits 10 c).length = n + 1 := ⟨_, (Nat.succ_pred positive.ne').symm⟩
  have upper := (Nat.length_toDigits_le_iff (n := c) (b := 10) (by decide) (Nat.succ_pos n)).1 hn.le
  have lower : 10 ^ n ≤ c := by
    rcases Nat.eq_zero_or_pos n with rfl | hn'
    · simpa using Nat.one_le_iff_ne_zero.2 hc
    · refine not_lt.1 fun h => ?_
      have := (Nat.length_toDigits_le_iff (n := c) (b := 10) (by decide) hn').2 h
      omega
  rw [hn, Nat.cast_add_one, add_sub_cancel_right]
  exact ⟨by exact_mod_cast lower, by exact_mod_cast upper⟩

/-- A digit is worth more than three bits. -/
theorem two_zpow_le_ten_zpow (n : ℕ) : (2 : ℚ) ^ (3 * n : ℤ) ≤ 10 ^ (n : ℤ) := by
  rw [zpow_mul, zpow_natCast, zpow_natCast]
  exact pow_le_pow_left₀ (by norm_num) (by norm_num) n

/-- **A decimal is rounded to the number nearest to its value.** -/
theorem ofDecimal_eq_nearest (d : Decimal) : ofDecimal d = nearest d.negative d.magnitude := by
  obtain ⟨negative, c, e⟩ := d
  unfold ofDecimal Decimal.magnitude
  by_cases hc : c = 0
  · simp [hc, nearest]
  · obtain ⟨lower, upper⟩ := length_toDigits_bounds hc
    simp only [hc, false_or]
    split_ifs with small large whole
    · refine (nearest_of_lt negative ?_).symm
      calc (c : ℚ) * 10 ^ e < 10 ^ ((Nat.toDigits 10 c).length : ℤ) * 10 ^ e :=
            mul_lt_mul_of_pos_right upper (ten_zpow_pos e)
        _ = 10 ^ ((Nat.toDigits 10 c).length + e) := (zpow_add₀ (by norm_num) _ _).symm
        _ ≤ 10 ^ (-(400 : ℕ) : ℤ) := zpow_le_zpow_right₀ (by norm_num) (by omega)
        _ ≤ 2 ^ (-(3 * (400 : ℕ)) : ℤ) := by
            rw [zpow_neg, zpow_neg]
            exact inv_anti₀ (two_zpow_pos _) (two_zpow_le_ten_zpow 400)
        _ ≤ 2 ^ (-1075 : ℤ) := zpow_le_zpow_right₀ (by norm_num) (by norm_num)
    · refine (nearest_of_le negative ?_).symm
      calc (2 : ℚ) ^ (1024 : ℤ) ≤ 2 ^ (3 * (400 : ℕ) : ℤ) :=
            zpow_le_zpow_right₀ (by norm_num) (by norm_num)
        _ ≤ 10 ^ ((400 : ℕ) : ℤ) := two_zpow_le_ten_zpow 400
        _ ≤ 10 ^ (((Nat.toDigits 10 c).length : ℤ) - 1 + e) :=
            zpow_le_zpow_right₀ (by norm_num) (by omega)
        _ = 10 ^ (((Nat.toDigits 10 c).length : ℤ) - 1) * 10 ^ e := zpow_add₀ (by norm_num) _ _
        _ ≤ c * 10 ^ e := mul_le_mul_of_nonneg_right lower (ten_zpow_pos e).le
    · obtain ⟨n, rfl⟩ := Int.eq_ofNat_of_zero_le whole
      rw [ofFraction_eq_nearest _ _ Nat.one_pos]
      simp [cast_tenTo]
    · obtain ⟨n, rfl⟩ : ∃ n : ℕ, e = -(n : ℤ) := ⟨(-e).toNat, by omega⟩
      rw [ofFraction_eq_nearest _ _ (tenTo_pos _)]
      simp [cast_tenTo, div_eq_mul_inv]

end Binary64
end EntityQuery
