import EntityQuery.Proofs.Literal.Table
import EntityQuery.Proofs.Query.Token

/-!
# What is written is read again

A literal holds its value: in a date between the quotes, in a whole number and a truth value as it
stands (`IsContent`). The values that have a literal as a whole number, a truth value or a date are told
by their form (`HasLiteral`), and each of them is read from the content of its literal
(`exists_content`). So a value has one text that stands for it, whichever of its spellings a user typed
(`ofInput_content`).
-/

namespace EntityQuery

open Calendar (Date Timestamp)

namespace Text

/-- **Nothing is trimmed from a written point in time,** which begins and ends with a digit. -/
theorem strip_secondsChars (t : Timestamp) :
    strip (String.ofList t.secondsChars) = String.ofList t.secondsChars := by
  have date_ne : t.date.chars ≠ [] := List.ne_nil_of_length_pos (by rw [t.date.length_chars]; decide)
  have clock_ne : Timestamp.clockChars t.clock ≠ [] :=
    List.ne_nil_of_length_pos (by rw [Timestamp.length_clockChars]; decide)
  refine strip_ofList (fun c hc => ?_) fun c hc => ?_
  · rw [Timestamp.secondsChars, List.head?_append_of_ne_nil _ date_ne] at hc
    exact isBlank_of_isNumberChar ((Date.mem_chars (List.mem_of_mem_head? hc)).imp_right .inl)
  · rw [Timestamp.secondsChars, List.getLast?_append_cons, ← List.singleton_append,
      List.getLast?_append_of_ne_nil _ clock_ne] at hc
    rcases Timestamp.mem_clockChars (List.mem_of_mem_getLast? hc) with digit | rfl
    · exact isBlank_of_isNumberChar (.inl digit)
    · decide

end Text

/-- The day of a date or a point in time. -/
def Value.day? : Value → Option Date
  | .date d => some d
  | .timestamp t => some t.date
  | _ => none

namespace Literal

/-- What of a literal is read again: what stands between the quotes of a date, else all of it. -/
def IsContent (literal content : String) : FieldType → Prop
  | .date => literal = "dt '" ++ content ++ "'"
  | _ => literal = content

/-- The values that have a literal as a whole number, a truth value or a date. -/
inductive HasLiteral : Value → FieldType → Prop
  | whole (n : ℤ) (short : (Nat.toDigits 10 n.natAbs).length ≤ Reading.digitLimit) :
      HasLiteral (.int n) .integer
  | truth (b : Bool) : HasLiteral (.bool b) .boolean
  | date (d : Date) : HasLiteral (.date d) .date
  | timestamp (t : Timestamp) (naive : t.offset = none) (seconds : t.clock.micros = 0) :
      HasLiteral (.timestamp t) .date

/-- A text that begins with the year of a date, in four digits. -/
def BeginsWithYear (content : String) (d : Date) : Prop :=
  ∃ year rest, content.toList = year ++ '-' :: rest ∧ year.length = 4 ∧
    (∀ c ∈ year, c.isDigit = true) ∧ Nat.ofDigitChars 10 year 0 = d.year

/-- A text that begins with a date begins with its year. -/
theorem beginsWithYear_of_chars {content : String} {d : Date} {rest : List Char}
    (h : content.toList = d.chars ++ rest) : BeginsWithYear content d := by
  rw [d.chars_eq, List.append_assoc] at h
  exact ⟨_, _, h, Calendar.length_padded (by decide) d.year_lt,
    fun _ hc => Calendar.isDigit_of_mem_padded hc, Calendar.ofDigitChars_padded 4 d.year⟩

/-- The literal of a point in time, as a text. -/
theorem ofMoment_eq (cs : List Char) : ofMoment cs = "dt '" ++ String.ofList cs ++ "'" := by
  apply String.toList_injective
  rw [Query.toList_ofMoment]
  simp

/-- The content of a literal is one text. -/
theorem IsContent.unique {literal content content' : String} {t : FieldType}
    (h : IsContent literal content t) (h' : IsContent literal content' t) : content = content' := by
  cases t with
  | date =>
    have same := congrArg String.toList (h.symm.trans h')
    exact String.toList_injective (by simpa using same)
  | _ => exact h.symm.trans h'

/-- **A value is read from the content of its literal.** -/
theorem exists_content {v : Value} {t : FieldType} (h : HasLiteral v t) :
    ∃ literal content, ofValue v t = .ok literal ∧ IsContent literal content t ∧
      ofInput content t = .ok v ∧ ∀ d, v.day? = some d → BeginsWithYear content d := by
  cases h with
  | whole n short =>
    have written : ofInt n = .ok n.repr := ofInt_eq_ok.2 ⟨short, rfl⟩
    have read := Reading.whole_repr ((Reading.length_toDigits_le_iff_lt_tenTo (by decide)).1 short)
    refine ⟨_, _, written, rfl, ?_, by simp [Value.day?]⟩
    have chars := Decimal.toList_repr n
    rw [← String.ofList_toList (s := n.repr), chars] at read ⊢
    exact ofInput_positional (by rw [readAs, read]; rfl)
  | truth b =>
    have stripped : Text.strip (ofBool b) = ofBool b := by cases b <;> decide
    have read : Reading.truthValue (ofBool b) = .ok b := by cases b <;> decide
    refine ⟨_, _, rfl, rfl, ofInput_eq_ok stripped ?_ ?_, by simp [Value.day?]⟩
    · cases b <;> decide
    · rw [readAs, read]
      rfl
  | date d =>
    have stripped := Text.strip_of_isNumberChar fun c (hc : c ∈ d.chars) =>
      (Date.mem_chars hc).imp_right .inl
    have day : Reading.date? (String.ofList d.chars) = some d := Reading.date?_text d
    refine ⟨_, _, rfl, ofMoment_eq _, ofInput_eq_ok stripped ?_ ?_, ?_⟩
    · rw [String.toList_ofList]
      exact List.ne_nil_of_length_pos (by rw [d.length_chars]; decide)
    · simp only [readAs, day]
    · rintro _ ⟨⟩
      exact beginsWithYear_of_chars (by rw [String.toList_ofList, List.append_nil])
  | timestamp t naive seconds =>
    have written : ofTimestamp t = .ok (ofMoment t.secondsChars) := by
      simp [ofTimestamp, naive, seconds]
    obtain ⟨no_date, moment⟩ := Reading.timestamp_secondsChars naive seconds
    refine ⟨_, _, written, ofMoment_eq _, ofInput_eq_ok (Text.strip_secondsChars t) ?_ ?_, ?_⟩
    · rw [String.toList_ofList]
      exact List.ne_nil_of_length_pos (by rw [t.length_secondsChars]; decide)
    · simp only [readAs, no_date, moment]
      rfl
    · rintro _ ⟨⟩
      exact beginsWithYear_of_chars (by rw [String.toList_ofList, Timestamp.secondsChars])

/-- A value that has a literal is one of these. -/
theorem hasLiteral_of_ofValue {v : Value} {t : FieldType} {literal : String}
    (ht : t ∈ [FieldType.integer, .boolean, .date]) (h : ofValue v t = .ok literal) :
    HasLiteral v t := by
  cases (exists_ofValue_iff.1 ⟨literal, h⟩).1 with
  | text | ragged | wholeNumber | number => simp at ht
  | whole n short => exact .whole n short
  | truth b => exact .truth b
  | date d => exact .date d
  | timestamp p naive seconds => exact .timestamp p naive seconds

/-- **Reading undoes writing.** Whole numbers of few enough digits, truth values, dates, and points in
time without an offset or a fraction of a second have literals as their types, and no other values have.
Each is read from the content of its literal, of its own kind, where the year of a date has four digits.
So texts that are read as one value have one literal, texts that are read as different values have
different ones, and the content of the literal is read as the value. -/
theorem ofInput_content {t : FieldType} (ht : t ∈ [FieldType.integer, .boolean, .date]) :
    (∀ v, (∃ literal, ofValue v t = .ok literal) ↔ HasLiteral v t) ∧
    (∀ v literal, ofValue v t = .ok literal →
      ∃ content, IsContent literal content t ∧ ofInput content t = .ok v ∧
        ∀ d, v.day? = some d → BeginsWithYear content d) ∧
    ∀ s v literal, ofInput s t = .ok v → ofValue v t = .ok literal →
      (∃ content, IsContent literal content t ∧ ofInput content t = .ok v) ∧
      ∀ s' v', ofInput s' t = .ok v' → (ofValue v' t = .ok literal ↔ v' = v) := by
  have back : ∀ v literal, ofValue v t = .ok literal →
      ∃ content, IsContent literal content t ∧ ofInput content t = .ok v ∧
        ∀ d, v.day? = some d → BeginsWithYear content d := by
    intro v literal h
    obtain ⟨literal', content, written, rest⟩ := exists_content (hasLiteral_of_ofValue ht h)
    obtain rfl := Except.ok.inj (h.symm.trans written)
    exact ⟨content, rest⟩
  refine ⟨fun v => ⟨?_, ?_⟩, back, fun s v literal _ h => ⟨?_, fun s' v' _ => ⟨fun h' => ?_, ?_⟩⟩⟩
  · rintro ⟨literal, h⟩
    exact hasLiteral_of_ofValue ht h
  · intro h
    obtain ⟨literal, -, written, -⟩ := exists_content h
    exact ⟨literal, written⟩
  · obtain ⟨content, holds, read, -⟩ := back v literal h
    exact ⟨content, holds, read⟩
  · obtain ⟨content, holds, read, -⟩ := back v literal h
    obtain ⟨content', holds', read', -⟩ := back v' literal h'
    obtain rfl := holds.unique holds'
    exact Except.ok.inj (read'.symm.trans read)
  · rintro rfl
    exact h

/-- A point in time at midnight, in a year of two digits, typed without hyphens and colons. -/
theorem ofInput_content_midnight :
    ∃ content, IsContent "dt '0033-01-02 00:00:00'" content .date ∧
      ofInput content .date = .ok (.timestamp ⟨⟨33, 1, 2, by decide⟩, ⟨0, 0, 0, 0⟩, none⟩) :=
  ((ofInput_content (by decide)).2.2 "00330102T0000" _ _ rfl rfl).1

end Literal
end EntityQuery
