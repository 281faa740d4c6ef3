import EntityQuery.Reading.Moment
import Mathlib.Algebra.Group.Nat.Defs
import Mathlib.Data.List.TakeWhile
import Mathlib.Tactic.SplitIfs

/-!
# Written moments are read back

A date is written with a year of four digits and a month and a day of two (`Date.chars`), a point in
time with a clock of two digits a part behind it (`Timestamp.secondsChars`). A part in its width is
read as that part and leaves what follows it (`digits?_padded`), so a written date is read as that
date and nothing else (`date?_text`). The text of a point in time is too long for a date, and is read
as that point in time if the point has neither an offset nor a fraction of a second
(`timestamp_secondsChars`).
-/

namespace EntityQuery
namespace Calendar

/-! ### Numbers in a fixed width -/

/-- A number that fits a width is written with that many characters. -/
theorem length_padded {width n : Nat} (hw : 0 < width) (h : n < 10 ^ width) :
    (padded width n).length = width := by
  have := (Nat.length_toDigits_le_iff (b := 10) (n := n) (by decide) hw).2 h
  simp only [padded, List.length_append, List.length_replicate]
  omega

/-- All of them are digits. -/
theorem isDigit_of_mem_padded {width n : Nat} {c : Char} (h : c ∈ padded width n) :
    c.isDigit = true := by
  rcases List.mem_append.1 h with h | h
  · rw [List.eq_of_mem_replicate h]
    rfl
  · exact Nat.isDigit_of_mem_toDigits (by decide) (by decide) h

/-- The number is read back from them. -/
theorem ofDigitChars_padded (width n : Nat) : Nat.ofDigitChars 10 (padded width n) 0 = n := by
  rw [padded, Nat.ofDigitChars_append, Nat.ofDigitChars_replicate_zero, Nat.mul_zero,
    Nat.ofDigitChars_ten_toDigits]

/-- No month has more than 31 days. -/
theorem daysInMonth_le (year month : Nat) : daysInMonth year month ≤ 31 := by
  unfold daysInMonth
  split_ifs <;> omega

/-- A year has at most four digits. -/
theorem Date.year_lt (d : Date) : d.year < 10 ^ 4 := by
  have := d.isDate.1.2
  omega

/-- A month has at most two digits. -/
theorem Date.month_lt (d : Date) : d.month < 10 ^ 2 := by
  have := d.isDate.2.1.2
  omega

/-- A day has at most two digits. -/
theorem Date.day_lt (d : Date) : d.day < 10 ^ 2 := by
  have := d.isDate.2.2.2
  have := daysInMonth_le d.year d.month
  omega

/-- A date is written as year, month and day with dashes between them. -/
theorem Date.chars_eq (d : Date) :
    d.chars = padded 4 d.year ++ '-' :: (padded 2 d.month ++ '-' :: padded 2 d.day) := by
  simp [chars]

/-- A date is written with ten characters. -/
theorem Date.length_chars (d : Date) : d.chars.length = 10 := by
  have hy := length_padded (by decide) d.year_lt
  have hm := length_padded (by decide) d.month_lt
  have hd := length_padded (by decide) d.day_lt
  simp [chars_eq, hy, hm, hd]

/-- A written date has digits and hyphens only. -/
theorem Date.mem_chars {d : Date} {c : Char} (h : c ∈ d.chars) : c.isDigit = true ∨ c = '-' := by
  simp only [chars_eq, List.mem_append, List.mem_cons] at h
  rcases h with h | h | h | h | h
  · exact .inl (isDigit_of_mem_padded h)
  · exact .inr h
  · exact .inl (isDigit_of_mem_padded h)
  · exact .inr h
  · exact .inl (isDigit_of_mem_padded h)

namespace Timestamp

/-- A time of day is written as hour, minute and second with colons between them. -/
theorem clockChars_eq (k : Clock) :
    clockChars k = padded 2 k.hour ++ ':' :: (padded 2 k.minute ++ ':' :: padded 2 k.second) := by
  simp [clockChars]

/-- A part of a time of day has two digits. -/
theorem lt_hundred {n : Nat} (hn : n ≤ 60) (k : Fin n) : k.val < 10 ^ 2 := by
  have := k.isLt
  omega

/-- A time of day is written with eight characters. -/
theorem length_clockChars (k : Clock) : (clockChars k).length = 8 := by
  have hh := length_padded (by decide) (lt_hundred (by decide) k.hour)
  have hm := length_padded (by decide) (lt_hundred (by decide) k.minute)
  have hs := length_padded (by decide) (lt_hundred (by decide) k.second)
  simp [clockChars_eq, hh, hm, hs]

/-- A written time has digits and colons only. -/
theorem mem_clockChars {k : Clock} {c : Char} (h : c ∈ clockChars k) :
    c.isDigit = true ∨ c = ':' := by
  simp only [clockChars_eq, List.mem_append, List.mem_cons] at h
  rcases h with h | h | h | h | h
  · exact .inl (isDigit_of_mem_padded h)
  · exact .inr h
  · exact .inl (isDigit_of_mem_padded h)
  · exact .inr h
  · exact .inl (isDigit_of_mem_padded h)

/-- A point in time is written with nineteen characters. -/
theorem length_secondsChars (t : Timestamp) : t.secondsChars.length = 19 := by
  simp [secondsChars, t.date.length_chars, length_clockChars]

/-- A written point in time has digits, hyphens, colons and a blank only. -/
theorem mem_secondsChars {t : Timestamp} {c : Char} (h : c ∈ t.secondsChars) :
    c.isDigit = true ∨ c = '-' ∨ c = ':' ∨ c = ' ' := by
  simp only [secondsChars, List.mem_append, List.mem_cons] at h
  rcases h with h | h | h
  · exact (Date.mem_chars h).imp_right .inl
  · exact .inr (.inr (.inr h))
  · exact (mem_clockChars h).imp_right fun h => .inr (.inl h)

end Timestamp
end Calendar

namespace Reading

open Calendar

/-- **A number in its width is read,** and what follows it is left. -/
theorem digits?_padded {width n : Nat} (hw : 0 < width) (h : n < 10 ^ width) (rest : List Char) :
    digits? width (padded width n ++ rest) = some (n, rest) := by
  have hl := length_padded hw h
  have ht : (padded width n ++ rest).take width = padded width n := by
    rw [List.take_append_of_le_length (Nat.le_of_eq hl.symm),
      List.take_of_length_le (Nat.le_of_eq hl)]
  have hr : (padded width n ++ rest).drop width = rest := List.drop_left' hl
  have hd : (padded width n).all Char.isDigit = true :=
    List.all_eq_true.2 fun _ hc => isDigit_of_mem_padded hc
  simp only [digits?, ht, hr, hl, hd, decide_true, Bool.and_self, if_true, ofDigitChars_padded]

/-- A number in its width begins with a digit. -/
theorem exists_cons_padded {width n : Nat} (hw : 0 < width) (h : n < 10 ^ width) :
    ∃ c r, padded width n = c :: r ∧ c.isDigit = true := by
  have hl := length_padded hw h
  obtain ⟨c, r, hc⟩ := List.exists_cons_of_length_pos (l := padded width n) (by omega)
  exact ⟨c, r, hc, isDigit_of_mem_padded (hc ▸ List.mem_cons_self ..)⟩

/-- What follows the year of a written date is read. -/
theorem dateAfterYear?_padded {year month day : Nat} (hm : month < 10 ^ 2) (hd : day < 10 ^ 2) :
    dateAfterYear? year true (padded 2 month ++ '-' :: padded 2 day) = some (year, month, day) := by
  have month_read := digits?_padded (by decide) hm ('-' :: padded 2 day)
  have day_read := digits?_padded (by decide) hd []
  obtain ⟨c, r, hc, hcd⟩ := exists_cons_padded (by decide) hm
  rw [List.append_nil] at day_read
  unfold dateAfterYear?
  split
  · next h =>
    -- the mark of a week is no digit
    rw [hc] at h
    obtain ⟨rfl, _⟩ := List.cons.inj h
    simp at hcd
  · simp [month_read, day_read]

/-- The parts of a written date are read. -/
theorem dateParts?_chars (d : Date) : dateParts? d.chars = some (d.year, d.month, d.day) := by
  simp [dateParts?, Date.chars, digits?_padded (by decide) d.year_lt,
    dateAfterYear?_padded d.month_lt d.day_lt]

/-- A text of characters of one byte each has as many bytes as characters. -/
theorem utf8ByteSize_ofList {cs : List Char} (h : ∀ c ∈ cs, c.utf8Size = 1) :
    (String.ofList cs).utf8ByteSize = cs.length := by
  induction cs with
  | nil => rfl
  | cons c cs ih =>
    rw [← List.singleton_append, String.ofList_append, String.utf8ByteSize_append,
      ih fun a ha => h a (List.mem_cons_of_mem _ ha), ← String.singleton_eq_ofList,
      String.utf8ByteSize_singleton, h c (List.mem_cons_self ..), List.length_append]
    rfl

/-- A digit takes one byte. -/
theorem utf8Size_of_isDigit {c : Char} (h : c.isDigit = true) : c.utf8Size = 1 := by
  simp only [Char.isDigit, Bool.and_eq_true, decide_eq_true_eq] at h
  have h9 : c.val.toNat ≤ 57 := h.2
  rw [Char.utf8Size_eq_one_iff, UInt32.le_iff_toNat_le]
  exact Nat.le_trans h9 (by decide)

/-- **A written date is read as that date.** -/
theorem date?_text (d : Date) : date? d.text = some d := by
  have hsize : d.text.utf8ByteSize = 10 := by
    rw [Date.text, utf8ByteSize_ofList fun c hc => ?_, d.length_chars]
    rcases Date.mem_chars hc with h | rfl
    · exact utf8Size_of_isDigit h
    · rfl
  have hyphen : (d.chars.drop 4).head? = some '-' := by
    rw [d.chars_eq, List.drop_left' (length_padded (by decide) d.year_lt)]
    rfl
  have hchars : d.text.toList = d.chars := String.toList_ofList
  simp [date?, hsize, hchars, hyphen, dateParts?_chars, Except.toOption]

/-- A written time of day is read to its end. -/
theorem clock?_chars (k : Clock) :
    clock? (Timestamp.clockChars k) = some (⟨k.hour, k.minute, k.second, 0⟩, true) := by
  have hour_read := digits?_padded (by decide) (Timestamp.lt_hundred (by decide) k.hour)
  have minute_read := digits?_padded (by decide) (Timestamp.lt_hundred (by decide) k.minute)
  have second_read := digits?_padded (by decide) (Timestamp.lt_hundred (by decide) k.second) []
  obtain ⟨c, r, hm, -⟩ := exists_cons_padded (by decide)
    (Timestamp.lt_hundred (by decide) k.minute)
  obtain ⟨c', r', hs, -⟩ := exists_cons_padded (by decide)
    (Timestamp.lt_hundred (by decide) k.second)
  rw [List.append_nil] at second_read
  have after_hour : afterPart? true
      (':' :: (padded 2 k.minute ++ ':' :: padded 2 k.second)) =
        some (.part (padded 2 k.minute ++ ':' :: padded 2 k.second)) := by
    simp [hm, afterPart?]
  have after_minute : afterPart? true (':' :: padded 2 k.second) =
      some (.part (padded 2 k.second)) := by
    simp [hs, afterPart?]
  have after_second : afterPart? true [] = some (.stop true) := rfl
  simp [clock?, Timestamp.clockChars_eq, hour_read, minute_read, second_read, after_hour,
    after_minute, after_second]

/-- A written time of day has no offset. -/
theorem timeParts?_chars (k : Clock) :
    timeParts? (Timestamp.clockChars k) = some (⟨k.hour, k.minute, k.second, 0⟩, none) := by
  have plain : ∀ c ∈ Timestamp.clockChars k,
      (!decide (c = '+') && !decide (c = '-') && !decide (c = 'Z')) = true := by
    intro c hc
    rcases Timestamp.mem_clockChars hc with h | rfl
    · have hp : c ≠ '+' := by rintro rfl; simp at h
      have hh : c ≠ '-' := by rintro rfl; simp at h
      have hz : c ≠ 'Z' := by rintro rfl; simp at h
      simp [hp, hh, hz]
    · decide
  have taken := List.takeWhile_eq_self_iff.2 plain
  have dropped := List.dropWhile_eq_nil_iff.2 plain
  simp [timeParts?, taken, dropped, clock?_chars]

/-- The parts of a written point in time are read. -/
theorem momentParts?_secondsChars (t : Timestamp) : momentParts? t.secondsChars =
    some ((t.date.year, t.date.month, t.date.day),
      ⟨t.clock.hour, t.clock.minute, t.clock.second, 0⟩, none) := by
  have hl := t.length_secondsChars
  have hd := t.date.length_chars
  obtain ⟨c, r, hm, hc⟩ := exists_cons_padded (by decide) t.date.month_lt
  have hdrop : t.secondsChars.drop 4 =
      '-' :: c :: (r ++ '-' :: padded 2 t.date.day ++ ' ' :: Timestamp.clockChars t.clock) := by
    rw [Timestamp.secondsChars, t.date.chars_eq, hm, List.append_assoc,
      List.drop_left' (length_padded (by decide) t.date.year_lt)]
    simp
  have size : dateLength t.secondsChars = 10 := by
    unfold dateLength
    rw [hl, if_neg (by decide), hdrop]
    -- the mark of a week is no digit
    split <;> simp_all
  have date_taken : t.secondsChars.take 10 = t.date.chars := List.take_left' hd
  have time_left : t.secondsChars.drop 10 = ' ' :: Timestamp.clockChars t.clock :=
    List.drop_left' hd
  simp [momentParts?, hl, size, date_taken, time_left, dateParts?_chars, timeParts?_chars]

/-- **A written point in time is read as that point in time,** and is no date. -/
theorem timestamp_secondsChars {t : Timestamp} (ho : t.offset = none) (hm : t.clock.micros = 0) :
    date? (String.ofList t.secondsChars) = none ∧
      timestamp (String.ofList t.secondsChars) = .ok t := by
  have hsize : (String.ofList t.secondsChars).utf8ByteSize = 19 := by
    rw [utf8ByteSize_ofList fun c hc => ?_, t.length_secondsChars]
    rcases Timestamp.mem_secondsChars hc with h | rfl | rfl | rfl
    · exact utf8Size_of_isDigit h
    all_goals rfl
  refine ⟨by simp [date?, hsize], ?_⟩
  have hk := Clock.ofParts_self t.clock
  rw [hm] at hk
  simp only [timestamp, String.toList_ofList, momentParts?_secondsChars, Date.ofParts_self, hk]
  obtain ⟨date, clock, offset⟩ := t
  subst ho
  rfl

end Reading
end EntityQuery
