import EntityQuery.Literal
import EntityQuery.Proofs.Number.Shortest
import Mathlib.Data.List.TakeWhile

/-!
# Written numbers are read back

The positional form of a number has a sign, digits and at most one point, with digits on both sides of
it (`isPositional_positional`). No blank and no underscore is in it, so a reader sees the very
characters (`numberChars_ofList`). The text of a whole number is read as the whole number
(`whole_repr`), the positional text of a decimal as the floating point number nearest to it
(`number_positional`).
-/

namespace EntityQuery
namespace Decimal

/-- One digit or more, and nothing else. -/
def IsDigits (cs : List Char) : Prop := cs ≠ [] ∧ ∀ c ∈ cs, c.isDigit = true

/-- Digits, and perhaps a point with more digits behind it. -/
def IsUnsigned (cs : List Char) : Prop :=
  IsDigits cs ∨ ∃ whole fraction, cs = whole ++ '.' :: fraction ∧ IsDigits whole ∧ IsDigits fraction

/-- The positional form: a minus sign or none, digits, and perhaps a point and more digits. -/
def IsPositional (cs : List Char) : Prop :=
  ∃ negative unsigned, cs = signText negative ++ unsigned ∧ IsUnsigned unsigned

/-- A number without a sign begins with a digit. -/
theorem IsUnsigned.exists_cons {cs : List Char} (h : IsUnsigned cs) :
    ∃ c r, cs = c :: r ∧ c.isDigit = true := by
  obtain ⟨hne, digits⟩ | ⟨whole, fraction, rfl, ⟨hne, digits⟩, -⟩ := h
  · obtain ⟨c, r, rfl⟩ := List.exists_cons_of_ne_nil hne
    exact ⟨c, r, rfl, digits c (List.mem_cons_self ..)⟩
  · obtain ⟨c, r, rfl⟩ := List.exists_cons_of_ne_nil hne
    exact ⟨c, _, rfl, digits c (List.mem_cons_self ..)⟩

/-- **The digits of a decimal have a digit on each side of a point.** -/
theorem isUnsigned_positionalDigits (c : ℕ) (e : ℤ) : IsUnsigned (positionalDigits c e) := by
  simp only [positionalDigits]
  split
  · exact .inl ⟨by simp, digits_append (digits_toDigits c) (digits_replicate _)⟩
  · next he =>
    -- the zeros in front leave a digit before the point, the negative exponent one behind it
    generalize hds : List.replicate ((-e).toNat + 1 - (Nat.toDigits 10 c).length) '0' ++
      Nat.toDigits 10 c = ds
    have digits : ∀ c ∈ ds, c.isDigit = true :=
      hds ▸ digits_append (digits_replicate _) (digits_toDigits c)
    have long : (-e).toNat < ds.length := by
      rw [← hds, List.length_append, List.length_replicate]
      omega
    refine .inr ⟨_, _, rfl, ⟨?_, fun c hc => digits c (List.mem_of_mem_take hc)⟩,
      ⟨?_, fun c hc => digits c (List.mem_of_mem_drop hc)⟩⟩
    · rw [← List.length_pos_iff, List.length_take]
      omega
    · rw [← List.length_pos_iff, List.length_drop]
      omega

/-- **The positional text of a decimal has the positional form.** -/
theorem isPositional_positional (d : Decimal) : IsPositional d.positional :=
  ⟨_, _, rfl, isUnsigned_positionalDigits _ _⟩

/-- The sign of a positional text is read, and a digit follows. -/
theorem splitSign_positional (d : Decimal) :
    ∃ c r, splitSign d.positional = (d.negative, c :: r) ∧ c.isDigit = true := by
  obtain ⟨c, r, hcr, digit⟩ := (isUnsigned_positionalDigits d.coefficient d.exponent).exists_cons
  refine ⟨c, r, ?_, digit⟩
  rw [positional, hcr, splitSign_signText d.negative rfl digit]

end Decimal

namespace Text

/-- The characters of a written number. -/
def IsNumberChar (c : Char) : Prop := c.isDigit = true ∨ c = '-' ∨ c = '.'

/-- **A character of a number is no blank.** -/
theorem isBlank_of_isNumberChar {c : Char} (h : IsNumberChar c) : isBlank c = false := by
  rcases h with h | rfl | rfl
  · have bounds := Char.isDigit_iff_toNat.1 h
    have low : 48 ≤ c.toNat := bounds.1
    have high : c.toNat ≤ 57 := bounds.2
    simp only [isBlank, Bool.or_eq_false_iff, Bool.and_eq_false_iff, decide_eq_false_iff_not,
      beq_eq_false_iff_ne]
    omega
  · decide
  · decide

/-- A text whose two ends are no blanks is left as it is. -/
theorem strip_ofList {cs : List Char} (hd : ∀ c, cs.head? = some c → isBlank c = false)
    (lt : ∀ c, cs.getLast? = some c → isBlank c = false) :
    strip (String.ofList cs) = String.ofList cs := by
  rw [strip, trim, String.toList_ofList, trimChars_eq_self hd lt]

/-- **Nothing is trimmed from a written number.** -/
theorem strip_of_isNumberChar {cs : List Char} (h : ∀ c ∈ cs, IsNumberChar c) :
    strip (String.ofList cs) = String.ofList cs :=
  strip_ofList (fun c hc => isBlank_of_isNumberChar (h c (List.mem_of_mem_head? hc)))
    fun c hc => isBlank_of_isNumberChar (h c (List.mem_of_mem_getLast? hc))

end Text

namespace Reading

open Text (IsNumberChar)

/-- The blanks around numbers are blanks. -/
theorem isNumberBlank_of_isNumberChar {c : Char} (h : IsNumberChar c) : isNumberBlank c = false := by
  rcases h with h | rfl | rfl
  · have bounds := Char.isDigit_iff_toNat.1 h
    have low : 48 ≤ c.toNat := bounds.1
    have high : c.toNat ≤ 57 := bounds.2
    have not_control : ¬ c ≤ '\r' := fun le => by
      have : c.toNat ≤ 13 := le
      omega
    have not_blank : c ≠ ' ' := by
      rintro rfl
      exact absurd low (by decide)
    simp [isNumberBlank, not_control, not_blank, show c.toNat < 128 by omega]
  · decide
  · decide

/-- **The characters of a written number are read as they are.** -/
theorem numberChars_ofList {cs : List Char} (h : ∀ c ∈ cs, IsNumberChar c) :
    numberChars (String.ofList cs) = cs := by
  have plain : ∀ c ∈ cs, Text.plainDigit c = c := by
    intro c hc
    rcases h c hc with digit | rfl | rfl
    · exact Text.plainDigit_of_isDigit digit
    · rfl
    · rfl
  rw [numberChars, String.toList_ofList, Text.trimChars_eq_self
    (fun c hc => isNumberBlank_of_isNumberChar (h c (List.mem_of_mem_head? hc)))
    (fun c hc => isNumberBlank_of_isNumberChar (h c (List.mem_of_mem_getLast? hc)))]
  exact (List.map_congr_left plain).trans (List.map_id _)

/-! ### Whole numbers -/

/-- Digits without anything else are a run of digits. -/
theorem digitRun?_of_isDigits {cs : List Char} (h : Decimal.IsDigits cs) :
    digitRun? cs = some cs := by
  obtain ⟨hne, digits⟩ := h
  fun_induction digitRun? cs with
  | case1 => exact absurd rfl hne
  | case2 c digit => rfl
  | case3 c digit => exact absurd (digits c (List.mem_cons_self ..)) digit
  | case4 c r digit ih => exact absurd (digits '_' (by simp)) (by decide)
  | case5 c r digit => exact absurd (digits c (List.mem_cons_self ..)) digit
  | case6 c d r _ digit ih =>
    rw [ih (List.cons_ne_nil _ _) fun a ha => digits a (List.mem_cons_of_mem _ ha)]
    rfl
  | case7 c d r _ digit => exact absurd (digits c (List.mem_cons_self ..)) digit

/-- A number has few digits exactly if it is below a power of ten. -/
theorem length_toDigits_le_iff_lt_tenTo {n digits : ℕ} (h : 0 < digits) :
    (Nat.toDigits 10 n).length ≤ digits ↔ n < tenTo digits :=
  Nat.length_toDigits_le_iff (by decide) h

/-- The sign of a written whole number is read, and its digits follow. -/
theorem splitSign_repr (n : ℤ) :
    Decimal.splitSign n.repr.toList = (decide (n < 0), Nat.toDigits 10 n.natAbs) := by
  obtain ⟨c, r, hcr⟩ := List.exists_cons_of_ne_nil (Nat.toDigits_ne_nil (n := n.natAbs) (b := 10))
  have digit := Decimal.digits_toDigits n.natAbs c (hcr ▸ List.mem_cons_self ..)
  have unsigned : Decimal.positionalDigits n.natAbs 0 = Nat.toDigits 10 n.natAbs := by
    simp [Decimal.positionalDigits]
  rw [Decimal.toList_repr, Decimal.positional, unsigned, hcr,
    Decimal.splitSign_signText _ rfl digit]

/-- **The text of a whole number is read as the number,** unless it has too many digits. -/
theorem whole_repr {n : ℤ} (short : n.natAbs < tenTo digitLimit) : whole n.repr = .ok n := by
  have digits := Decimal.digits_toDigits n.natAbs
  have chars : numberChars n.repr = n.repr.toList := by
    rw [← String.ofList_toList (s := n.repr), String.toList_ofList, Decimal.toList_repr,
      numberChars_ofList fun c hc => Decimal.mem_positional hc]
  have run : (Nat.toDigits 10 n.natAbs).takeWhile (fun c => c.isDigit || c == '_') =
      Nat.toDigits 10 n.natAbs :=
    List.takeWhile_eq_self_iff.2 fun c hc => by rw [digits c hc, Bool.true_or]
  have signed : (if decide (n < 0) then -(n.natAbs : ℤ) else n.natAbs) = n := by
    by_cases h : n < 0
    · rw [if_pos (decide_eq_true h)]
      omega
    · rw [if_neg (by simpa using h)]
      omega
  simp only [whole, chars, splitSign_repr, run,
    digitRun?_of_isDigits ⟨Nat.toDigits_ne_nil, digits⟩,
    if_neg (not_lt.2 ((length_toDigits_le_iff_lt_tenTo (by decide)).2 short)), lt_irrefl, if_false,
    Nat.ofDigitChars_ten_toDigits, signed]

/-! ### Floating point numbers -/

/-- A text without underscores is left as it is. -/
theorem dropUnderscores?_of_not_mem {cs : List Char} (h : '_' ∉ cs) (afterDigit : Bool) :
    dropUnderscores? afterDigit cs = some cs := by
  induction cs generalizing afterDigit with
  | nil => rfl
  | cons c r ih =>
    rw [List.mem_cons, not_or] at h
    rw [dropUnderscores?, if_neg (Ne.symm h.1), ih h.2]
    rfl

/-- What begins with a digit is no word. -/
theorem specialNumber?_of_isDigit (negative : Bool) {c : Char} (r : List Char)
    (h : c.isDigit = true) : specialNumber? negative (c :: r) = none := by
  have lower : c.toLower = c := by
    have upper : c.toNat ≤ 57 := (Char.isDigit_iff_toNat.1 h).2
    refine dif_neg fun capital => ?_
    have : 65 ≤ c.toNat := capital.1
    omega
  have other : ∀ word : String, (∀ a ∈ word.toList.head?, a.isDigit = false) →
      String.ofList (c :: r.map Char.toLower) ≠ word := by
    rintro word letter rfl
    rw [String.toList_ofList] at letter
    exact absurd (h.symm.trans (letter c rfl)) Bool.noConfusion
  simp only [specialNumber?, List.map_cons, lower, decide_eq_true_eq, Bool.or_eq_true]
  rw [if_neg (not_or.2 ⟨other "inf" (by simp), other "infinity" (by simp)⟩),
    if_neg (other "nan" (by simp))]

/-- **The positional text of a decimal is read as the number nearest to the decimal.** -/
theorem number_positional (d : Decimal) :
    number (String.ofList d.positional) = .ok (Binary64.ofDecimal d) := by
  have no_underscore : '_' ∉ d.positional := fun h => by
    rcases Decimal.mem_positional h with h | h | h
    all_goals cases h
  obtain ⟨c, r, sign, digit⟩ := Decimal.splitSign_positional d
  rw [number, numberChars_ofList fun c hc => Decimal.mem_positional hc,
    dropUnderscores?_of_not_mem no_underscore]
  simp only [sign, specialNumber?_of_isDigit _ _ digit, Decimal.read?_positional]
  rw [Binary64.ofDecimal_congr d.negative_plain d.value_plain]

end Reading

namespace Literal

/-- A text without blanks at its ends is read as it is. -/
theorem ofInput_eq_ok {s : String} {t : FieldType} {v : Value} (stripped : Text.strip s = s)
    (hne : s.toList ≠ []) (h : readAs s t = .ok v) : ofInput s t = .ok v := by
  have not_blank : s ≠ "" := by
    rintro rfl
    exact hne rfl
  rw [ofInput]
  simp only [stripped]
  rw [if_neg not_blank, readStripped, h]
  rfl

/-- **A written number that is read as a value** is what a user may type for the value. -/
theorem ofInput_positional {d : Decimal} {t : FieldType} {v : Value}
    (h : readAs (String.ofList d.positional) t = .ok v) :
    ofInput (String.ofList d.positional) t = .ok v :=
  ofInput_eq_ok (Text.strip_of_isNumberChar fun _ hc => Decimal.mem_positional hc)
    (by rw [String.toList_ofList]; exact d.positional_ne_nil) h

end Literal
end EntityQuery
