import EntityQuery.Literal
import EntityQuery.Proofs.Number.DecimalText
import EntityQuery.Proofs.Outcome
import EntityQuery.Proofs.Value.Writable

/-!
# What is read can be written

A whole number is read from at most as many digits as may be written, so it can be written again
(`Reading.isWritable_of_whole`), and so can every value that a user typed
(`Literal.isWritable_of_ofInput`).
-/

namespace EntityQuery

open Outcome

namespace Reading

/-- A run of digits and underscores gives its digits. -/
theorem isDigit_of_digitRun? {cs ds : List Char} (h : digitRun? cs = some ds) :
    ∀ c ∈ ds, c.isDigit = true := by
  fun_induction digitRun? cs generalizing ds with
  | case1 => cases h
  | case2 c digit =>
    obtain rfl := Option.some.inj h
    exact List.forall_mem_singleton.2 digit
  | case3 => cases h
  | case4 c r digit ih =>
    obtain ⟨rest, hr, rfl⟩ := Option.map_eq_some_iff.1 h
    exact List.forall_mem_cons.2 ⟨digit, ih hr⟩
  | case5 => cases h
  | case6 c d r _ digit ih =>
    obtain ⟨rest, hr, rfl⟩ := Option.map_eq_some_iff.1 h
    exact List.forall_mem_cons.2 ⟨digit, ih hr⟩
  | case7 => cases h

/-- **A whole number that is read can be written.** -/
theorem isWritable_of_whole {s : String} {n : ℤ} (h : whole s = .ok n) :
    (Value.int n).isWritable = true := by
  unfold whole at h
  simp only at h
  split at h
  · cases h
  · next ds run =>
    split at h
    · cases h
    · next short =>
      split at h
      · cases h
      · obtain rfl := Except.ok.inj h
        have bound : Nat.ofDigitChars 10 ds 0 < tenTo digitLimit :=
          Decimal.ofDigitChars_lt_tenTo (isDigit_of_digitRun? run) (Nat.le_of_not_lt short)
        rw [Value.isWritable_int, decide_eq_true_iff]
        split
        · rwa [Int.natAbs_neg, Int.natAbs_natCast]
        · rwa [Int.natAbs_natCast]

end Reading

namespace Literal

/-- What is read as a type can be written. -/
theorem isWritable_of_readAs {s : String} {t : FieldType} {v : Value} (h : readAs s t = .ok v) :
    v.isWritable = true := by
  cases t with
  | string =>
    obtain rfl := Except.ok.inj h
    rfl
  | integer =>
    obtain ⟨n, hn, rfl⟩ := map_eq_ok.1 h
    exact Reading.isWritable_of_whole hn
  | float =>
    obtain ⟨x, -, rfl⟩ := map_eq_ok.1 h
    rfl
  | boolean =>
    obtain ⟨b, -, rfl⟩ := map_eq_ok.1 h
    rfl
  | date =>
    simp only [readAs] at h
    split at h
    · obtain rfl := Except.ok.inj h
      rfl
    · obtain ⟨t, -, rfl⟩ := map_eq_ok.1 h
      rfl

/-- **What a user typed can be written,** once it is read as a value. -/
theorem isWritable_of_ofInput {s : String} {t : FieldType} {v : Value} (h : ofInput s t = .ok v) :
    v.isWritable = true := by
  unfold ofInput at h
  simp only at h
  split at h
  · obtain rfl := Except.ok.inj h
    rfl
  · exact isWritable_of_readAs (mapError_eq_ok.1 h)

end Literal
end EntityQuery
