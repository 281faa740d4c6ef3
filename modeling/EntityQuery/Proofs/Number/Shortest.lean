import EntityQuery.Proofs.Number.Rounding

/-!
# The text of a number is read as the number

The decimal under the text of a finite number (`toDecimal`) is found on a grid, where it was tried that
it reads back, or it is the exact expansion of the number; moving zeros between coefficient and exponent
changes no value. So it is rounded to the number (`ofDecimal_toDecimal`).
-/

namespace EntityQuery
namespace Decimal

/-- The value of a decimal is its magnitude with its sign. -/
theorem value_eq (d : Decimal) : d.value = (if d.negative then -1 else 1) * d.magnitude := by
  rw [value, magnitude, mul_assoc]

/-- Decimals of one sign and one value have one magnitude. -/
theorem magnitude_congr {d d' : Decimal} (sign : d.negative = d'.negative) (value : d.value = d'.value) :
    d.magnitude = d'.magnitude := by
  rw [value_eq, value_eq, sign] at value
  refine mul_left_cancel₀ ?_ value
  split <;> norm_num

/-- A power of ten moved from the exponent into the coefficient. -/
theorem magnitude_mul_tenTo (negative : Bool) (c n : ℕ) (e : ℤ) :
    magnitude ⟨negative, c * tenTo n, e⟩ = magnitude ⟨negative, c, e + n⟩ := by
  simp only [magnitude, Nat.cast_mul, cast_tenTo]
  rw [zpow_add₀ (by norm_num), zpow_natCast]
  ring

end Decimal

namespace Binary64

/-- **Decimals of one sign and one value are read as one number.** -/
theorem ofDecimal_congr {d d' : Decimal} (sign : d.negative = d'.negative)
    (value : d.value = d'.value) : ofDecimal d = ofDecimal d' := by
  rw [ofDecimal_eq_nearest, ofDecimal_eq_nearest, sign, Decimal.magnitude_congr sign value]

/-- The sign does not matter for what a number is rounded to. -/
theorem ofParts_eq_finite {m m' : ℕ} {q q' : ℤ} {h : IsCanonical m' q'} (negative : Bool)
    (hf : ofParts false m q = finite false m' q' h) :
    ofParts negative m q = finite negative m' q' h := by
  unfold ofParts at hf ⊢
  split at hf
  · next hc =>
    simp only [finite.injEq, true_and] at hf
    obtain ⟨rfl, rfl⟩ := hf
    rw [dif_pos hc]
  · cases hf

/-- The sign of a number is that of the decimal. -/
theorem nearest_eq_finite {r : ℚ} {m : ℕ} {q : ℤ} {h : IsCanonical m q} (negative : Bool)
    (hf : nearest false r = finite false m q h) : nearest negative r = finite negative m q h := by
  unfold nearest at hf ⊢
  simp only at hf ⊢
  split at hf
  · next hr =>
    rw [if_pos hr]
    simp only [zero, finite.injEq, true_and] at hf
    obtain ⟨rfl, rfl⟩ := hf
    rfl
  · next hr =>
    rw [if_neg hr]
    split at hf
    · next carry =>
      rw [if_pos carry]
      exact ofParts_eq_finite negative hf
    · next carry =>
      rw [if_neg carry]
      exact ofParts_eq_finite negative hf

/-! ### The shortest decimal -/

/-- **Zeros at the end of a coefficient do not count.** -/
theorem magnitude_dropZeros (negative : Bool) (c : ℕ) (e : ℤ) :
    Decimal.magnitude ⟨negative, (dropZeros c e).1, (dropZeros c e).2⟩ =
      Decimal.magnitude ⟨negative, c, e⟩ := by
  fun_induction dropZeros c e with
  | case1 c e h ih =>
    have tenfold : c / 10 * tenTo 1 = c := by
      rw [show tenTo 1 = 10 from rfl]
      omega
    have moved := Decimal.magnitude_mul_tenTo negative (c / 10) 1 e
    rw [tenfold] at moved
    rw [ih, moved, Nat.cast_one]
  | case2 c e h => rfl

/-- The expansion of a number is exact. -/
theorem magnitude_expansion (negative : Bool) (m : ℕ) (q : ℤ) :
    Decimal.magnitude ⟨negative, (expansion m q).1, (expansion m q).2⟩ = m * 2 ^ q := by
  unfold expansion Decimal.magnitude
  split
  · next h =>
    obtain ⟨n, rfl⟩ := Int.eq_ofNat_of_zero_le h
    simp [cast_twoTo]
  · next h =>
    obtain ⟨n, rfl⟩ : ∃ n : ℕ, q = -(n : ℤ) := ⟨(-q).toNat, by omega⟩
    -- a division by two is one by ten of five times the number
    have halves : (5 : ℚ) ^ n * (10 ^ n)⁻¹ = (2 ^ n)⁻¹ := by
      rw [show (10 : ℚ) = 5 * 2 by norm_num, mul_pow, mul_inv, mul_inv_cancel_left₀ (by positivity)]
    simp [mul_assoc, halves]

/-- What reads back is rounded to the number. -/
theorem nearest_of_readsAs {m : ℕ} {q : ℤ} {c : ℕ} {e : ℤ} (negative : Bool) (h : IsCanonical m q)
    (hr : readsAs m q c e = true) :
    nearest negative (Decimal.magnitude ⟨negative, c, e⟩) = finite negative m q h := by
  unfold readsAs at hr
  split at hr
  · next m' q' h' found =>
    simp only [Bool.and_eq_true, beq_iff_eq] at hr
    obtain ⟨rfl, rfl⟩ := hr
    rw [ofDecimal_eq_nearest] at found
    exact nearest_eq_finite negative found
  · cases hr

/-- **The shortest decimal is rounded to the number.** -/
theorem nearest_shortest (negative : Bool) {m : ℕ} {q : ℤ} (h : IsCanonical m q) :
    nearest negative (Decimal.magnitude ⟨negative, (shortest m q).1, (shortest m q).2⟩) =
      finite negative m q h := by
  unfold shortest
  simp only [magnitude_dropZeros]
  cases found : (List.range 17).findSome? fun n => onGrid? m q (n + 1) with
  | none => rw [Option.getD_none, magnitude_expansion, nearest_finite]
  | some d =>
    obtain ⟨n, -, hit⟩ := List.exists_of_findSome?_eq_some found
    exact nearest_of_readsAs negative h (readsAs_of_onGrid? hit)

/-- The shortest decimal has the sign of the number. -/
theorem negative_toDecimal (negative : Bool) (m : ℕ) (q : ℤ) :
    (toDecimal negative m q).negative = negative := by
  simp only [toDecimal]
  split_ifs <;> rfl

/-- A whole number has one zero after the point, and the same value. -/
theorem magnitude_toDecimal (negative : Bool) {m : ℕ} (hm : m ≠ 0) (q : ℤ) :
    (toDecimal negative m q).magnitude =
      Decimal.magnitude ⟨negative, (shortest m q).1, (shortest m q).2⟩ := by
  simp only [toDecimal, if_neg hm]
  split
  · next whole =>
    have nonneg : 0 ≤ (shortest m q).2 := by simpa using (Bool.and_eq_true_iff.1 whole).2
    rw [Decimal.magnitude_mul_tenTo]
    congr 2
    omega
  · rfl

/-- **The decimal of a finite number is read as the number.** -/
theorem ofDecimal_toDecimal (negative : Bool) {m : ℕ} {q : ℤ} (h : IsCanonical m q) :
    ofDecimal (toDecimal negative m q) = finite negative m q h := by
  rw [ofDecimal_eq_nearest, negative_toDecimal]
  by_cases hm : m = 0
  · subst hm
    obtain ⟨-, -, -, full | rfl⟩ := id h
    · exact absurd full (by decide)
    · simp [toDecimal, Decimal.magnitude, nearest, zero]
  · rw [magnitude_toDecimal negative hm, nearest_shortest negative h]

end Binary64
end EntityQuery
