import EntityQuery.Proofs.Literal.Positional

/-!
# Which values have a literal

Five types and the kinds of values make a table: a text without one of the two quotes, a whole number of
few enough digits, a finite number, a truth value, a date, and a point in time to the second without an
offset (`IsExpressible`). A value has a literal of a type exactly if it stands in the table, and the type
may be given by its canonical name (`exists_format_iff`). A truth value is no whole number there, though it
counts as one elsewhere. A text may hold halves of pairs: its literal then has no text itself
(`exists_ofValue_iff`).
-/

namespace EntityQuery
namespace Literal

open Calendar (Date Timestamp)

/-- Whether a text holds both kinds of quotes. -/
def HoldsBothQuotes (s : String) : Prop := '\'' ∈ s.toList ∧ '"' ∈ s.toList

/-- Whether a whole number has few enough digits to be written. -/
def IsShort (n : ℤ) : Prop := (Nat.toDigits 10 n.natAbs).length ≤ Reading.digitLimit

/-- **The table of the literals:** the values that have a literal as a type. -/
inductive IsExpressible : Value → FieldType → Prop
  | text {v : Value} {s : String} (text : v.text? = some s) (quotable : ¬ HoldsBothQuotes s) :
      IsExpressible v .string
  | ragged (points : List ℕ) (quotable : ¬ ('\''.toNat ∈ points ∧ '"'.toNat ∈ points)) :
      IsExpressible (.ragged points) .string
  | whole (n : ℤ) (short : IsShort n) : IsExpressible (.int n) .integer
  | wholeNumber (n : ℤ) (short : IsShort n) : IsExpressible (.int n) .float
  | number (x : Binary64) (finite : x.isFinite = true) : IsExpressible (.float x) .float
  | truth (b : Bool) : IsExpressible (.bool b) .boolean
  | date (d : Date) : IsExpressible (.date d) .date
  | timestamp (t : Timestamp) (naive : t.offset = none) (seconds : t.clock.micros = 0) :
      IsExpressible (.timestamp t) .date

/-! ### One kind of literal each -/

/-- Signs stand between quotes unless they hold both. -/
theorem exists_quote?_iff {α : Type} [BEq α] [LawfulBEq α] {single double : α} {cs : List α} :
    (∃ quoted, quote? single double cs = some quoted) ↔ ¬ (single ∈ cs ∧ double ∈ cs) := by
  unfold quote? quoteFor?
  by_cases one : single ∈ cs
  · by_cases other : double ∈ cs <;> simp [one, other]
  · simp [one]

/-- A text has a literal unless it holds both quotes. -/
theorem exists_ofText_iff {s : String} :
    (∃ literal, ofText s = .ok literal) ↔ ¬ HoldsBothQuotes s := by
  rw [HoldsBothQuotes, ← exists_quote?_iff, ofText]
  cases quote? '\'' '"' s.toList <;> simp

/-- So have code points. -/
theorem exists_ofPoints_iff {points : List ℕ} : (∃ literal, ofPoints points = .ok literal) ↔
    ¬ ('\''.toNat ∈ points ∧ '"'.toNat ∈ points) := by
  rw [← exists_quote?_iff, ofPoints]
  cases quote? '\''.toNat '"'.toNat points <;> simp

/-- A whole number has a literal if it is short. -/
theorem exists_ofInt_iff {n : ℤ} : (∃ literal, ofInt n = .ok literal) ↔ IsShort n := by
  simp [ofInt_eq_ok, IsShort]

/-- A number has a literal if it is finite. -/
theorem exists_ofFloat_iff {x : Binary64} :
    (∃ literal, ofFloat x = .ok literal) ↔ x.isFinite = true := by
  cases x <;> simp [ofFloat, Binary64.isFinite]

/-- A point in time has a literal if it has neither an offset nor a fraction of a second. -/
theorem exists_ofTimestamp_iff {t : Timestamp} :
    (∃ literal, ofTimestamp t = .ok literal) ↔ t.offset = none ∧ t.clock.micros = 0 := by
  unfold ofTimestamp
  cases t.offset with
  | some o => simp
  | none =>
    by_cases seconds : t.clock.micros = 0
    · simp [seconds]
    · have precise : t.clock.micros.val ≠ 0 := fun zero => seconds (Fin.ext zero)
      simp [seconds, precise]

/-! ### The table -/

/-- What has a literal stands in the table. -/
theorem isExpressible_of_ofPlain {v : Value} {t : FieldType} {literal : String}
    (h : ofPlain v t = .ok literal) : IsExpressible v t := by
  cases t with
  | string =>
    simp only [ofPlain] at h
    split at h
    · next s text => exact .text text (exists_ofText_iff.1 ⟨literal, h⟩)
    · cases h
  | integer =>
    simp only [ofPlain] at h
    split at h
    · exact .whole _ (exists_ofInt_iff.1 ⟨literal, h⟩)
    · cases h
  | float =>
    simp only [ofPlain] at h
    split at h
    · exact .wholeNumber _ (exists_ofInt_iff.1 ⟨literal, h⟩)
    · exact .number _ (exists_ofFloat_iff.1 ⟨literal, h⟩)
    · cases h
  | boolean =>
    simp only [ofPlain] at h
    split at h
    · exact .truth _
    · cases h
  | date =>
    simp only [ofPlain] at h
    split at h
    · obtain ⟨naive, seconds⟩ := exists_ofTimestamp_iff.1 ⟨literal, h⟩
      exact .timestamp _ naive seconds
    · exact .date _
    · cases h

/-- What stands in the table has a literal, unless it holds halves. -/
theorem exists_ofPlain {v : Value} {t : FieldType} (h : IsExpressible v t)
    (whole : ∀ points, v ≠ .ragged points) : ∃ literal, ofPlain v t = .ok literal := by
  cases h with
  | @text v s text quotable =>
    simp only [ofPlain, text]
    exact exists_ofText_iff.2 quotable
  | ragged points => exact absurd rfl (whole points)
  | whole n short | wholeNumber n short =>
    simp only [ofPlain]
    exact exists_ofInt_iff.2 short
  | number x finite => exact exists_ofFloat_iff.2 finite
  | truth b => exact ⟨_, rfl⟩
  | date d => exact ⟨_, rfl⟩
  | timestamp t naive seconds => exact exists_ofTimestamp_iff.2 ⟨naive, seconds⟩

/-- A present value without halves has a literal exactly if it stands in the table. -/
theorem exists_ofPlain_iff {v : Value} {t : FieldType} : (∃ literal, ofPlain v t = .ok literal) ↔
    IsExpressible v t ∧ ∀ points, v ≠ .ragged points := by
  constructor
  · rintro ⟨literal, h⟩
    refine ⟨isExpressible_of_ofPlain h, ?_⟩
    rintro points rfl
    cases t <;> cases h
  · rintro ⟨h, whole⟩
    exact exists_ofPlain h whole

/-- **A value has a literal with a text exactly if it stands in the table** and holds no halves. -/
theorem exists_ofValue_iff {v : Value} {t : FieldType} : (∃ literal, ofValue v t = .ok literal) ↔
    IsExpressible v t ∧ ∀ points, v ≠ .ragged points := by
  rw [← exists_ofPlain_iff]
  cases v with
  | null => cases t <;> simp [ofValue, ofPlain, Value.text?]
  | _ => rfl

/-- **Which values have a literal of which type,** whether the type is given as such or by its canonical
name: exactly those of the table. -/
theorem exists_format_iff (v : Value) (t : FieldType) :
    ((∃ literal, format v (.fieldType t) = .ok literal) ↔ IsExpressible v t) ∧
      format v (.text t.name) = format v (.fieldType t) := by
  refine ⟨?_, format_name v t⟩
  by_cases ragged : ∃ points, v = .ragged points
  · obtain ⟨points, rfl⟩ := ragged
    rw [format_ragged]
    by_cases string : t = .string
    · subst string
      rw [if_pos rfl, exists_ofPoints_iff]
      constructor
      · exact .ragged points
      · rintro (⟨⟨⟩, -⟩ | ⟨_, quotable⟩)
        exact quotable
    · rw [if_neg string]
      refine iff_of_false (by simp) ?_
      rintro (_ | _)
      · exact string rfl
      · exact string rfl
  · have whole : ∀ points, v ≠ .ragged points := fun points same => ragged ⟨points, same⟩
    rw [format_eq whole, ← and_iff_left (a := IsExpressible v t) whole, ← exists_ofValue_iff]
    cases ofValue v t <;> simp

end Literal
end EntityQuery
