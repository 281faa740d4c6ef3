import EntityQuery.Proofs.Literal.Table
import EntityQuery.Proofs.Query.OwnErrors
import EntityQuery.Proofs.Reading.Number

/-!
# What a user types and what has a literal

Reading gives a value of the kind of its type (`isOfKind_of_read`), or the absent value, which stands for
blank input alone (`read_eq_null_iff`). The reader and the writer have one limit on the digits of a whole
number, so what is read of the other types has a literal but for three exceptions: a text that holds both
quotes, a floating point number that is not finite, and a point in time with an offset or with a fraction
of a second (`IsInexpressible`). These are refused with a format error (`read_expressible`).
-/

namespace EntityQuery

open Outcome

namespace Text

/-- A text is blank if nothing is left of it. -/
theorem strip_eq_empty_iff {s : String} :
    strip s = "" ↔ ∀ c ∈ s.toList, isBlank c = true := by
  rw [← trimChars_eq_nil_iff, strip, trim]
  constructor
  · intro empty
    simpa using congrArg String.toList empty
  · intro empty
    rw [empty]

end Text

namespace Literal

open Calendar (Date Timestamp)

variable {s : String} {text? : Option String} {t : FieldType} {v : Value}

/-- Whether there is no input, or nothing but blanks. -/
def IsBlankInput (text? : Option String) : Prop :=
  ∀ s, text? = some s → ∀ c ∈ s.toList, Text.isBlank c = true

/-- The values of a type that a user can type. A truth value is no number. -/
inductive IsOfKind : Value → FieldType → Prop
  | text (s : String) : IsOfKind (.text s) .string
  | whole (n : ℤ) : IsOfKind (.int n) .integer
  | number (x : Binary64) : IsOfKind (.float x) .float
  | truth (b : Bool) : IsOfKind (.bool b) .boolean
  | date (d : Date) : IsOfKind (.date d) .date
  | timestamp (t : Timestamp) : IsOfKind (.timestamp t) .date

/-- The values of a type that a user can type although they have no literal. -/
inductive IsInexpressible : Value → FieldType → Prop
  | text (s : String) (quotes : HoldsBothQuotes s) : IsInexpressible (.text s) .string
  | number (x : Binary64) (infinite : x.isFinite = false) : IsInexpressible (.float x) .float
  | zoned (t : Timestamp) (offset : t.offset ≠ none) : IsInexpressible (.timestamp t) .date
  | precise (t : Timestamp) (fraction : t.clock.micros ≠ 0) : IsInexpressible (.timestamp t) .date

/-! ### The kind of what is read -/

/-- What is read as a type is of its kind. -/
theorem isOfKind_of_readAs (h : readAs s t = .ok v) : IsOfKind v t := by
  cases t with
  | string =>
    obtain rfl := Except.ok.inj h
    exact .text s
  | integer =>
    obtain ⟨n, -, rfl⟩ := map_eq_ok.1 h
    exact .whole n
  | float =>
    obtain ⟨x, -, rfl⟩ := map_eq_ok.1 h
    exact .number x
  | boolean =>
    obtain ⟨b, -, rfl⟩ := map_eq_ok.1 h
    exact .truth b
  | date =>
    simp only [readAs] at h
    split at h
    · next d _ =>
      obtain rfl := Except.ok.inj h
      exact .date d
    · obtain ⟨p, -, rfl⟩ := map_eq_ok.1 h
      exact .timestamp p

/-- What is of the kind of a type holds no halves of pairs. -/
theorem IsOfKind.ne_ragged (h : IsOfKind v t) (points : List ℕ) : v ≠ .ragged points := by
  rintro rfl
  cases h

/-- What is of the kind of a type is present. -/
theorem IsOfKind.ne_null (h : IsOfKind v t) : v ≠ .null := by
  rintro rfl
  cases h

/-- Of blank input the absent value is read, and of any other input what stands between its blanks. -/
theorem ofInput_cases (h : ofInput s t = .ok v) :
    (Text.strip s = "" ∧ v = .null) ∨ (Text.strip s ≠ "" ∧ readAs (Text.strip s) t = .ok v) := by
  unfold ofInput at h
  simp only at h
  split at h
  · next blank => exact .inl ⟨blank, (Except.ok.inj h).symm⟩
  · next solid => exact .inr ⟨solid, mapError_eq_ok.1 h⟩

/-- **What is read is a value of its type,** if it is a value. -/
theorem isOfKind_of_read (h : read text? (.fieldType t) = .ok v) (present : v ≠ .null) :
    IsOfKind v t := by
  cases text? with
  | none => exact absurd (Except.ok.inj h).symm present
  | some s =>
    rw [read_some] at h
    obtain ⟨-, rfl⟩ | ⟨-, read⟩ := ofInput_cases h
    · exact absurd rfl present
    · exact isOfKind_of_readAs read

/-- **Blank input is no value,** and only that. -/
theorem read_eq_null_iff : read text? (.fieldType t) = .ok .null ↔ IsBlankInput text? := by
  cases text? with
  | none => simp [read, IsBlankInput]
  | some s =>
    simp only [read_some, IsBlankInput, Option.some.injEq, forall_eq', ← Text.strip_eq_empty_iff]
    constructor
    · intro h
      obtain ⟨blank, -⟩ | ⟨-, read⟩ := ofInput_cases h
      · exact blank
      · exact absurd rfl (isOfKind_of_readAs read).ne_null
    · intro blank
      simp only [ofInput, blank, if_true]

/-- What is read is no empty value, unless the input is blank. -/
theorem isEmpty_of_ofInput (h : ofInput s t = .ok v) : v.isEmpty = true ↔ Text.strip s = "" := by
  obtain ⟨blank, rfl⟩ | ⟨solid, read⟩ := ofInput_cases h
  · simp [blank, Value.isEmpty]
  · refine iff_of_false ?_ solid
    cases t with
    | string =>
      obtain rfl := Except.ok.inj read
      simpa [Value.isEmpty] using solid
    | _ => cases isOfKind_of_readAs read <;> exact Bool.false_ne_true

/-- What is read is empty only if it is absent. -/
theorem isEmpty_of_read (h : read text? (.fieldType t) = .ok v) : v.isEmpty = true ↔ v = .null := by
  cases text? with
  | none =>
    obtain rfl := Except.ok.inj h
    exact iff_of_true rfl rfl
  | some s =>
    rw [read_some] at h
    rw [isEmpty_of_ofInput h]
    obtain ⟨blank, absent⟩ | ⟨solid, read⟩ := ofInput_cases h
    · exact iff_of_true blank absent
    · exact iff_of_false solid (isOfKind_of_readAs read).ne_null

/-! ### The literal of what is read -/

/-- A whole number can be written exactly if it is short. -/
theorem isWritable_int_iff {n : ℤ} : (Value.int n).isWritable = true ↔ IsShort n := by
  rw [Value.isWritable_int, decide_eq_true_iff, IsShort,
    Reading.length_toDigits_le_iff_lt_tenTo (by decide)]

/-- A value of a type that can be written stands in the table of the literals, or among the exceptions. -/
theorem IsOfKind.isExpressible_iff (h : IsOfKind v t) (writable : v.isWritable = true) :
    IsExpressible v t ↔ ¬ IsInexpressible v t := by
  constructor
  · intro expressible inexpressible
    cases inexpressible with
    | text s quotes =>
      cases expressible with
      | text text quotable => exact quotable (Option.some.inj text ▸ quotes)
    | number x infinite =>
      cases expressible with
      | number _ finite => exact Bool.false_ne_true (infinite.symm.trans finite)
    | zoned p offset =>
      cases expressible with
      | timestamp _ naive seconds => exact offset naive
    | precise p fraction =>
      cases expressible with
      | timestamp _ naive seconds => exact fraction seconds
  · -- the table asks for more than the kind, and every exception is one thing it asks for
    intro expressible
    cases h with
    | text s => exact .text rfl fun quotes => expressible (.text s quotes)
    | whole n => exact .whole n (isWritable_int_iff.1 writable)
    | number x =>
      exact .number x (Bool.of_not_eq_false fun infinite => expressible (.number x infinite))
    | truth b => exact .truth b
    | date d => exact .date d
    | timestamp p =>
      refine .timestamp p ?_ ?_
      · exact Decidable.not_not.1 fun offset => expressible (.zoned p offset)
      · exact Decidable.not_not.1 fun fraction => expressible (.precise p fraction)

/-- What is read can be written. -/
theorem isWritable_of_read (h : read text? (.fieldType t) = .ok v) : v.isWritable = true := by
  cases text? with
  | none =>
    obtain rfl := Except.ok.inj h
    rfl
  | some s => exact isWritable_of_ofInput (read_some s t ▸ h)

/-- **What is read has a literal,** unless it is one of the exceptions; these are refused with a format
error. -/
theorem read_expressible (h : read text? (.fieldType t) = .ok v) (present : v ≠ .null) :
    ((∃ literal, format v (.fieldType t) = .ok literal) ↔ ¬ IsInexpressible v t) ∧
      ∀ e, format v (.fieldType t) = .error e → e.kind = .format := by
  have writable := isWritable_of_read h
  exact ⟨(exists_format_iff v t).1.trans ((isOfKind_of_read h present).isExpressible_iff writable),
    format_fails_as_format_iff.2 writable⟩

end Literal
end EntityQuery
