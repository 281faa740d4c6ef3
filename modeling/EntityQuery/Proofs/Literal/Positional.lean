import EntityQuery.Proofs.Reading.Written

/-!
# The literals of floating point numbers

A finite number has the positional text of its decimal as its literal, whichever form its own text has,
so the two denote one number, and what rounds the literal finds the number again
(`ofInput_literal_float`). A whole number is its own decimal.
-/

namespace EntityQuery
namespace Literal

/-- A whole number has a literal exactly if it has few enough digits, and the literal is its text. -/
theorem ofInt_eq_ok {n : ℤ} {literal : String} :
    ofInt n = .ok literal ↔
      (Nat.toDigits 10 n.natAbs).length ≤ Reading.digitLimit ∧ literal = n.repr := by
  rw [Reading.length_toDigits_le_iff_lt_tenTo (by decide)]
  unfold ofInt Reading.wholeText?
  by_cases short : n.natAbs < tenTo Reading.digitLimit
  · simp [short, eq_comm]
  · simp [short]

/-- The decimal of a whole number is the number. -/
theorem read?_repr (n : ℤ) : ∃ d, Decimal.read? n.repr.toList = some d ∧ d.value = n := by
  refine ⟨_, by rw [Decimal.toList_repr, Decimal.read?_positional], ?_⟩
  have cast : ((n.natAbs : ℤ) : ℚ) = (n.natAbs : ℚ) := Int.cast_natCast _
  rw [Decimal.value_plain, Decimal.value, zpow_zero, mul_one, ← cast]
  by_cases h : n < 0
  · rw [if_pos (by simpa using h), neg_one_mul, ← Int.cast_neg, Int.ofNat_natAbs_of_nonpos h.le,
      neg_neg]
  · rw [if_neg (by simpa using h), one_mul, Int.natAbs_of_nonneg (not_lt.1 h)]

/-- **The literal of a floating point number is exact.** A finite number has a literal of positional
form. It denotes the number that the text of the floating point number denotes, with the sign, and is
read as the floating point number. The literal of a whole number that may be written is its decimal. -/
theorem ofInput_literal_float :
    (∀ x : Binary64, x.isFinite = true →
      ∃ literal, ofValue (.float x) .float = .ok literal ∧ Decimal.IsPositional literal.toList ∧
        (∃ d d', Decimal.read? literal.toList = some d ∧ Decimal.read? x.text.toList = some d' ∧
          d.negative = d'.negative ∧ d.value = d'.value) ∧
        ofInput literal .float = .ok (.float x)) ∧
    ∀ n : ℤ, (Nat.toDigits 10 n.natAbs).length ≤ Reading.digitLimit →
      ofValue (.int n) .float = .ok n.repr ∧ Decimal.IsPositional n.repr.toList ∧
        ∃ d, Decimal.read? n.repr.toList = some d ∧ d.value = n := by
  constructor
  · intro x finite
    cases x with
    | finite negative m q h =>
      obtain ⟨d, read, sign, value⟩ := Binary64.read?_text negative m q h
      have chars := String.toList_ofList (l := (Binary64.toDecimal negative m q).positional)
      refine ⟨_, rfl, ?_, ⟨(Binary64.toDecimal negative m q).plain, d, ?_, read, ?_, ?_⟩,
        ofInput_positional ?_⟩
      · rw [chars]
        exact Decimal.isPositional_positional _
      · rw [chars]
        exact Decimal.read?_positional _
      · rw [Decimal.negative_plain, sign]
      · rw [Decimal.value_plain, value]
      · rw [readAs, Reading.number_positional, Binary64.ofDecimal_toDecimal negative h]
        rfl
    | nan mark => cases finite
    | infinite negative => cases finite
  · intro n short
    have written : ofInt n = .ok n.repr := ofInt_eq_ok.2 ⟨short, rfl⟩
    refine ⟨written, ?_, read?_repr n⟩
    rw [Decimal.toList_repr]
    exact Decimal.isPositional_positional _

/-- The largest finite number, whose text has an exponent, and a whole number of one digit. -/
theorem ofInput_literal_largest :
    (∃ literal, ofValue (.float (.finite false (2 ^ 53 - 1) 971 (by decide))) .float = .ok literal ∧
      Decimal.IsPositional literal.toList ∧
      ofInput literal .float = .ok (.float (.finite false (2 ^ 53 - 1) 971 (by decide)))) ∧
    ofValue (.int 7) .float = .ok "7" := by
  obtain ⟨literal, written, form, -, read⟩ :=
    ofInput_literal_float.1 (.finite false (2 ^ 53 - 1) 971 (by decide)) rfl
  exact ⟨⟨literal, written, form, read⟩, (ofInput_literal_float.2 7 (by decide)).1⟩

end Literal
end EntityQuery
