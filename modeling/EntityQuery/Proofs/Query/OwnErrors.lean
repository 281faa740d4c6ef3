import EntityQuery.Proofs.Query.Invariant
import EntityQuery.Proofs.Value.Entries
import EntityQuery.Proofs.Value.Writable

/-!
# The errors of the core

The errors of literals and builders are the library's own, with one exception: a value that cannot be
written has no literal and no message either, so that it is refused with the error of the limit on
digits. A literal is refused with a format error exactly if the value can be written
(`Literal.fails_as_format_iff`); what a user typed is always refused so
(`Literal.kind_of_read_eq_error`). In every state a builder fails with an error of its own when it is
given values that can be written, and a single assignment fails otherwise exactly if it comes as far
as to check a value that cannot be written (`Builder.failsOwn_run`).
-/

namespace EntityQuery

open Outcome

/-- An outcome that is no success is an error of the library's own. -/
def FailsOwn {α : Type} (r : Except Error α) : Prop := ∀ e, r = .error e → e.isOwn = true

/-- A success is no failure of any kind. -/
theorem failsOwn_ok {α : Type} (a : α) : FailsOwn (.ok a : Except Error α) := by
  intro e h
  cases h

/-- An error is an own one or not. -/
theorem failsOwn_error {α : Type} {e : Error} :
    FailsOwn (.error e : Except Error α) ↔ e.isOwn = true := by
  simp [FailsOwn]

/-- What is made of a result does not matter for the error. -/
theorem failsOwn_map {α β : Type} {f : α → β} {r : Except Error α} :
    FailsOwn (f <$> r) ↔ FailsOwn r := by
  simp only [FailsOwn, map_eq_error]

/-- Two steps in a row fail with own errors if both do. -/
theorem FailsOwn.bind {α β : Type} {r : Except Error α} {f : α → Except Error β} (h : FailsOwn r)
    (hf : ∀ a, r = .ok a → FailsOwn (f a)) : FailsOwn (r >>= f) := by
  intro e he
  obtain he | ⟨a, ha, he⟩ := bind_eq_error.1 he
  · exact h e he
  · exact hf a ha e he

namespace Literal

/-! ### Literals -/

/-- The kind of error with which a value is refused as a literal. -/
def refusalKind (v : Value) : ErrorKind := if v.isWritable then .format else .value

/-- A value of a wrong kind is shown in the message, if it can be. -/
theorem kind_mismatch (v : Value) (t : FieldType) : (mismatch v t).kind = refusalKind v := by
  have shown := v.isSome_inspect?
  unfold mismatch refusalKind Error.showing
  cases h : v.inspect? with
  | some text => simp [← shown, h, Error.kind]
  | none => simp [← shown, h, Error.kind]

/-- A whole number is refused because it cannot be written. -/
theorem kind_of_ofInt {n : Int} {e : Error} (h : ofInt n = .error e) :
    e.kind = refusalKind (.int n) := by
  have written := Value.isSome_wholeText? n
  unfold ofInt at h
  cases hn : Reading.wholeText? n with
  | some s => simp [hn] at h
  | none =>
    rw [hn] at h written
    obtain rfl := Except.error.inj h
    simp [refusalKind, ← written, Error.kind]

/-- A text is refused with a format error. -/
theorem kind_of_ofText {s : String} {e : Error} (h : ofText s = .error e) : e.kind = .format := by
  unfold ofText at h
  split at h
  · cases h
  · obtain rfl := Except.error.inj h
    rfl

/-- So is a number that is not finite. -/
theorem kind_of_ofFloat {x : Binary64} {e : Error} (h : ofFloat x = .error e) :
    e.kind = .format := by
  unfold ofFloat at h
  split at h
  · cases h
  · obtain rfl := Except.error.inj h
    rfl

/-- So is a point in time with an offset or a fraction of a second. -/
theorem kind_of_ofTimestamp {p : Calendar.Timestamp} {e : Error} (h : ofTimestamp p = .error e) :
    e.kind = .format := by
  unfold ofTimestamp at h
  split at h
  · obtain rfl := Except.error.inj h
    rfl
  · split at h
    · obtain rfl := Except.error.inj h
      rfl
    · cases h

/-- A value that has a text can be written. -/
theorem isWritable_of_text? {v : Value} {s : String} (h : v.text? = some s) :
    v.isWritable = true := by
  cases v with
  | text => rfl
  | fieldType => rfl
  | _ => cases h

/-- A value without halves of pairs is refused with a format error, if it can be written. -/
theorem kind_of_ofPlain {v : Value} {t : FieldType} {e : Error} (h : ofPlain v t = .error e) :
    e.kind = refusalKind v := by
  have mismatched : ∀ {t}, (Except.error (mismatch v t) : Except Error String) = .error e →
      e.kind = refusalKind v := fun h => Except.error.inj h ▸ kind_mismatch v _
  cases t with
  | string =>
    simp only [ofPlain] at h
    split at h
    · next s hs =>
      rw [kind_of_ofText h, refusalKind, isWritable_of_text? hs, if_pos rfl]
    · exact mismatched h
  | integer =>
    simp only [ofPlain] at h
    split at h
    · exact kind_of_ofInt h
    · exact mismatched h
  | float =>
    simp only [ofPlain] at h
    split at h
    · exact kind_of_ofInt h
    · exact kind_of_ofFloat h
    · exact mismatched h
  | boolean =>
    simp only [ofPlain] at h
    split at h
    · cases h
    · exact mismatched h
  | date =>
    simp only [ofPlain] at h
    split at h
    · exact kind_of_ofTimestamp h
    · cases h
    · exact mismatched h

/-- **A value that can be written is refused with a format error,** and any other one with the error
of the limit on digits. -/
theorem kind_of_ofValue {v : Value} {t : FieldType} {e : Error} (h : ofValue v t = .error e) :
    e.kind = refusalKind v := by
  unfold ofValue at h
  split at h
  · obtain rfl := Except.error.inj h
    rfl
  · exact kind_of_ofPlain h

/-- A whole number with a literal can be written. -/
theorem isWritable_of_ofInt {n : Int} {s : String} (h : ofInt n = .ok s) :
    (Value.int n).isWritable = true := by
  rw [← Value.isSome_wholeText?]
  unfold ofInt at h
  cases hn : Reading.wholeText? n with
  | some s => rfl
  | none => simp [hn] at h

/-- What has a literal can be written. -/
theorem isWritable_of_ofValue {v : Value} {t : FieldType} {s : String} (h : ofValue v t = .ok s) :
    v.isWritable = true := by
  cases v with
  | int n =>
    cases t with
    | integer => exact isWritable_of_ofInt h
    | float => exact isWritable_of_ofInt h
    | _ => cases h
  -- lists and mappings have no literal of any type
  | list xs => cases t <;> cases h
  | mapping es => cases t <;> cases h
  | _ => rfl

/-- What format errors have and errors of a wrong content lack tells which values can be written. -/
theorem fails_iff {v : Value} {t : FieldType} {P : ErrorKind → Prop} (format : P .format)
    (value : ¬ P .value) :
    (∀ e, ofValue v t = .error e → P e.kind) ↔ v.isWritable = true := by
  constructor
  · intro h
    cases hr : ofValue v t with
    | ok s => exact isWritable_of_ofValue hr
    | error e =>
      by_contra hw
      have kind := kind_of_ofValue hr
      rw [refusalKind, if_neg hw] at kind
      exact value (kind ▸ h e hr)
  · intro hw e h
    rw [kind_of_ofValue h, refusalKind, if_pos hw]
    exact format

/-- **A value is refused with a format error only, exactly if it can be written.** -/
theorem fails_as_format_iff {v : Value} {t : FieldType} :
    (∀ e, ofValue v t = .error e → e.kind = .format) ↔ v.isWritable = true :=
  fails_iff (P := (· = .format)) rfl (by decide)

/-- **So is a value whose type is given as a value.** -/
theorem format_fails_as_format_iff {v : Value} {t : FieldType} :
    (∀ e, format v (.fieldType t) = .error e → e.kind = .format) ↔ v.isWritable = true := by
  by_cases ragged : ∃ points, v = .ragged points
  · obtain ⟨points, rfl⟩ := ragged
    refine iff_of_true (fun e refused => ?_) rfl
    rw [format_ragged] at refused
    split at refused
    · unfold ofPoints at refused
      split at refused
      · cases refused
      · exact Except.error.inj refused ▸ rfl
    · exact Except.error.inj refused ▸ kind_mismatch _ _
  · have whole : ∀ points, v ≠ .ragged points := fun points same => ragged ⟨points, same⟩
    rw [format_eq whole, ← fails_as_format_iff (t := t)]
    simp only [map_eq_error]

/-- **A value is refused with an own error only, exactly if it can be written.** -/
theorem failsOwn_ofValue {v : Value} {t : FieldType} :
    FailsOwn (ofValue v t) ↔ v.isWritable = true :=
  fails_iff (P := fun k => k.categories.contains .own = true) rfl (by decide)

/-- **What a user typed is refused with a format error.** -/
theorem kind_of_read_eq_error {text? : Option String} {t : FieldType} {e : Error}
    (h : read text? (.fieldType t) = .error e) : e.kind = .format := by
  cases text? with
  | none => cases h
  | some s =>
    simp only [read_some, ofInput] at h
    split at h
    · cases h
    · obtain ⟨fault, -, rfl⟩ := mapError_eq_error.1 h
      rfl

end Literal

namespace Builder

/-! ### Builders -/

/-- Looking up the field of a name fails before the start and for an unknown name. -/
theorem failsOwn_field (b : Builder) {name : Value} (h : name.isText = true) :
    FailsOwn (b.field name) := by
  cases b with
  | fresh => exact failsOwn_error.2 rfl
  | ready e fs =>
    simp only [field, lookUp, Value.canBeKey_of_isText h, if_true]
    split
    · exact failsOwn_ok _
    · exact failsOwn_error.2 rfl

/-- A value is checked with own errors only, exactly if it can be written. -/
theorem failsOwn_fieldCheck {v : Value} {t : FieldType} :
    FailsOwn (SearchField.check v t) ↔ v.isWritable = true := by
  unfold SearchField.check
  split
  · next he =>
    obtain rfl | rfl := Value.isEmpty_iff.1 he
    · exact ⟨fun _ => rfl, fun _ => failsOwn_ok _⟩
    · exact ⟨fun _ => rfl, fun _ => failsOwn_ok _⟩
  · exact failsOwn_map.trans Literal.failsOwn_ofValue

/-- The check of an assignment fails with own errors only, unless it comes to check a value that
cannot be written. -/
theorem failsOwn_check {b : Builder} {name v : Value} (h : name.isText = true) :
    FailsOwn (b.check name v) ↔ (v.isWritable = true ∨ ∀ f, b.field name ≠ .ok f) := by
  unfold check
  cases hf : b.field name with
  | error e =>
    have own := failsOwn_error.1 (hf ▸ b.failsOwn_field h)
    exact ⟨fun _ => .inr (fun f => by simp), fun _ => failsOwn_error.2 own⟩
  | ok f =>
    refine ⟨fun hc => .inl (failsOwn_fieldCheck.1 hc), ?_⟩
    rintro (hw | hn)
    · exact failsOwn_fieldCheck.2 hw
    · exact absurd rfl (hn f)

/-- Values that can be written are checked with own errors only. -/
theorem failsOwn_checkAll {b : Builder} {es : Entries}
    (h : ∀ a ∈ es, a.1.isText = true ∧ a.2.isWritable = true) : FailsOwn (b.checkAll es) := by
  induction es with
  | nil => exact failsOwn_ok _
  | cons a es ih =>
    obtain ⟨⟨text, writable⟩, rest⟩ := List.forall_mem_cons.1 h
    exact ((failsOwn_check text).2 (.inl writable)).bind fun _ _ => ih rest

/-- Clearing fails with an own error. -/
theorem failsOwn_reset (b : Builder) : FailsOwn b.reset := by
  cases b with
  | fresh => exact failsOwn_error.2 rfl
  | ready e fs => exact failsOwn_ok _

/-- A sound builder fails to build with an own error only. -/
theorem IsSound.failsOwn_build {b : Builder} (h : b.IsSound) : FailsOwn b.build := by
  cases b with
  | fresh => exact failsOwn_error.2 rfl
  | ready e fs =>
    obtain ⟨query, hq⟩ := h.exists_build
    exact hq ▸ failsOwn_ok query

/-- **The core fails with its own errors only,** as long as no whole number in a value has too many
digits: a value is refused as a literal with a format error, and a builder in any state refuses what
it is asked for with an own error. A value with a larger number is refused with another error
wherever it is looked at, and what a user typed is refused with a format error in any case. Values
are taken to be nested no deeper than the interpreter recurses when it writes them; what it raises
for a deeper one is left out, here and in `Value.isWritable`. -/
theorem failsOwn_run (operations : List Operation) :
    (∀ v t, (∀ e, Literal.format v (.fieldType t) = .error e → e.kind = .format) ↔
      v.isWritable = true) ∧
    (∀ text? t e, Literal.read text? (.fieldType t) = .error e → e.kind = .format) ∧
    (∀ name v, name.isText = true → (FailsOwn ((fresh.run operations).setValue name v) ↔
      v.isWritable = true ∨ ∀ f, (fresh.run operations).field name ≠ .ok f)) ∧
    (∀ es : Entries, (∀ a ∈ es, a.1.isText = true ∧ a.2.isWritable = true) →
      FailsOwn ((fresh.run operations).setValues es)) ∧
    (∀ name, name.isText = true → FailsOwn ((fresh.run operations).getValue name) ∧
      FailsOwn ((fresh.run operations).fieldType name)) ∧
    FailsOwn (fresh.run operations).reset ∧ FailsOwn (fresh.run operations).build := by
  refine ⟨fun v t => ?_, fun _ _ _ => Literal.kind_of_read_eq_error, fun name v h => ?_,
    fun es h => ?_, fun name h => ⟨?_, ?_⟩, failsOwn_reset _, (isSound_run operations).failsOwn_build⟩
  · exact Literal.format_fails_as_format_iff
  · rw [setValue_eq]
    exact failsOwn_map.trans (failsOwn_check h)
  · rw [setValues_eq]
    exact failsOwn_map.2 (failsOwn_checkAll h)
  · exact failsOwn_map.2 (failsOwn_field _ h)
  · exact failsOwn_map.2 (failsOwn_field _ h)

/-- Not every value is refused with an own error: the least whole number of too many digits is not. -/
theorem exists_foreign_refusal :
    ¬ ∀ (v : Value) (t : FieldType), FailsOwn (Literal.format v (.fieldType t)) := by
  intro h
  have own := h .tooLarge .integer
  rw [Literal.format_eq (v := .tooLarge) (by rintro _ ⟨⟩), failsOwn_map, Literal.failsOwn_ofValue,
    Value.isWritable_tooLarge] at own
  cases own

end Builder
end EntityQuery
