import EntityQuery.Query.Reader
import EntityQuery.Proofs.Number.DecimalText
import EntityQuery.Proofs.Reading.Moment

/-!
# Literals are read back

A literal is read as a token and leaves what stands behind it (`Reads`): a quoted one because its
quote is not in it, a moment because it has no quote, and a number or a truth value because it has no
blank and no semicolon. The token of the literal of a value stands for that value (`Scalar.Denotes`),
a floating point number for the exact number that its text denotes (`reads_ofValue`).
-/

namespace EntityQuery
namespace Query

/-- A literal is read as a token, whatever stands behind the blank or semicolon that ends it. -/
def Reads (cs : List Char) (token : Token) : Prop :=
  ∀ c rest, isEnd c = true → readToken? (cs ++ c :: rest) = some (token, c :: rest)

/-- The number that a literal stands for. -/
def Scalar.number? : Scalar → Option ℚ
  | whole n => some n
  | decimal d => some d.value
  | _ => none

/-- A literal stands for a value as a field type. -/
def Scalar.Denotes (a : Scalar) (v : Value) : FieldType → Prop
  | .string => ∃ s, v.text? = some s ∧ a = .text s.toList
  | .integer => ∃ n, v = .int n ∧ a = .whole n
  | .float => (∃ n, v = .int n ∧ a = .whole n) ∨
      ∃ x d, v = .float x ∧ Decimal.read? x.text.toList = some d ∧ a.number? = some d.value
  | .boolean => ∃ b, v = .bool b ∧ a = .truth b
  | .date => (∃ d, v = .date d ∧ a = .date d) ∨ ∃ t, v = .timestamp t ∧ a = .timestamp t

/-! ### Where a literal ends -/

/-- What is read up to a character stands before it. -/
theorem upTo?_append {c : Char} {cs : List Char} (h : c ∉ cs) (rest : List Char) :
    upTo? c (cs ++ c :: rest) = some (cs, rest) := by
  have other : ∀ a ∈ cs, (a != c) = true := by
    intro a ha
    rw [bne_iff_ne]
    rintro rfl
    exact h ha
  simp [upTo?, List.takeWhile_append_of_pos other, List.dropWhile_append_of_pos other]

/-- A bare token ends at the first character that ends one. -/
theorem takeWhile_isEnd {cs : List Char} (h : ∀ a ∈ cs, isEnd a = false) {c : Char}
    (hc : isEnd c = true) (rest : List Char) :
    (cs ++ c :: rest).takeWhile (fun a => !isEnd a) = cs ∧
      (cs ++ c :: rest).dropWhile (fun a => !isEnd a) = c :: rest := by
  have inside : ∀ a ∈ cs, (!isEnd a) = true := fun a ha => by rw [h a ha]; rfl
  rw [List.takeWhile_append_of_pos inside, List.dropWhile_append_of_pos inside]
  simp [hc]

/-- **A quoted literal ends with its quote,** whatever other characters it has. -/
theorem reads_quoted {q : Char} {cs : List Char} (hq : isQuote q = true) (hn : q ∉ cs) :
    Reads (q :: cs ++ [q]) (.quoted cs) := by
  intro c rest _
  have hd : q ≠ 'd' := by
    rintro rfl
    cases hq
  simp only [List.cons_append, List.append_assoc, List.nil_append]
  unfold readToken?
  split
  · next h => exact absurd (List.cons.inj h).1 hd
  · next h =>
    obtain ⟨rfl, rfl⟩ := List.cons.inj h
    rw [if_pos hq, upTo?_append hn]
    rfl
  · next h => cases h

/-- A moment ends with its quote. -/
theorem reads_moment {cs : List Char} (hn : '\'' ∉ cs) :
    Reads ("dt '".toList ++ cs ++ ['\'']) (.moment cs) := by
  intro c rest _
  have opened : "dt '".toList ++ cs ++ ['\''] ++ c :: rest =
      'd' :: 't' :: ' ' :: '\'' :: (cs ++ '\'' :: c :: rest) := by simp
  rw [opened, readToken?, upTo?_append hn]
  rfl

/-- Any other literal ends before a blank or a semicolon. -/
theorem reads_bare {cs : List Char} (hne : cs ≠ []) (he : ∀ c ∈ cs, isEnd c = false)
    (hs : ∀ c ∈ cs, isQuote c = false) (hd : cs.head hne ≠ 'd') : Reads cs (.bare cs) := by
  intro c rest hc
  obtain ⟨taken, left⟩ := takeWhile_isEnd he hc rest
  cases cs with
  | nil => exact absurd rfl hne
  | cons a r =>
    rw [List.cons_append] at taken left ⊢
    unfold readToken?
    split
    · next h => exact absurd (List.cons.inj h).1 hd
    · next h =>
      obtain ⟨rfl, rfl⟩ := List.cons.inj h
      rw [if_neg (by rw [hs a (List.mem_cons_self ..)]; exact Bool.false_ne_true), taken, left]
    · next h => cases h

/-! ### Numbers -/

/-- A decimal is read as a bare token. -/
theorem reads_positional (d : Decimal) : Reads d.positional (.bare d.positional) := by
  have plain : ∀ c ∈ d.positional, isEnd c = false ∧ isQuote c = false ∧ c ≠ 'd' := by
    intro c hc
    rcases Decimal.mem_positional hc with h | rfl | rfl
    · have char : ∀ a : Char, a.isDigit = false → c ≠ a := by
        rintro a ha rfl
        rw [ha] at h
        cases h
      simp [isEnd, isQuote, char ' ', char ';', char '\'', char '"', char 'd']
    · decide
    · decide
  exact reads_bare d.positional_ne_nil (fun c hc => (plain c hc).1) (fun c hc => (plain c hc).2.1)
    (plain _ (List.head_mem _)).2.2

/-- **A positional text stands for its number,** a whole one if it has no point. -/
theorem ofBare?_positional (d : Decimal) : Scalar.ofBare? d.positional =
    some (if d.exponent < 0 then .decimal d.plain
      else .whole (if d.negative then -d.plain.coefficient else d.plain.coefficient)) := by
  have letter : ∀ c : Char, c.isDigit = false → c ≠ '-' → c ≠ '.' → c ∉ d.positional := by
    intro c h hm hp hc
    rcases Decimal.mem_positional hc with hd | h' | h'
    · exact absurd (h.symm.trans hd) Bool.false_ne_true
    · exact hm h'
    · exact hp h'
  have not_truth : ∀ cs : List Char, 'e' ∈ cs → d.positional ≠ cs := by
    rintro cs he rfl
    exact letter 'e' (by decide) (by decide) (by decide) he
  have signed : (d.positional.all fun c => c = '-' || c.isDigit) = !decide (d.exponent < 0) := by
    rw [Bool.eq_iff_iff, List.all_eq_true, Bool.not_eq_true', decide_eq_false_iff_not,
      ← Decimal.point_mem_positional]
    constructor
    · intro h hp
      exact absurd (h '.' hp) (by decide)
    · intro h c hc
      rcases Decimal.mem_positional hc with hd | rfl | rfl
      · simp [hd]
      · rfl
      · exact absurd hc h
  rw [Scalar.ofBare?, if_neg (not_truth _ (by decide)), if_neg (not_truth _ (by decide)),
    Decimal.read?_positional, Option.map_some, signed]
  by_cases h : d.exponent < 0 <;> simp [h]

/-- The number of a positional text is the number of the decimal. -/
theorem number?_positional (d : Decimal) :
    (Scalar.ofBare? d.positional).bind Scalar.number? = some d.value := by
  rw [ofBare?_positional, Option.bind_some]
  split
  · exact congrArg some d.value_plain
  · next h =>
    have exponent : d.plain.exponent = 0 := by simp [Decimal.plain, Int.not_lt.1 h]
    have sign := d.negative_plain
    refine congrArg some (Eq.trans ?_ d.value_plain)
    rw [Decimal.value, exponent, zpow_zero, mul_one, sign]
    cases d.negative <;> simp

/-- The text of a whole number stands for the whole number. -/
theorem ofBare?_repr (n : ℤ) : Scalar.ofBare? n.repr.toList = some (.whole n) := by
  rw [Decimal.toList_repr, ofBare?_positional, if_neg (Int.lt_irrefl 0)]
  have plain : (Decimal.plain ⟨decide (n < 0), n.natAbs, 0⟩).coefficient = n.natAbs := by
    simp [Decimal.plain, tenTo]
  have signed : (if decide (n < 0) then -(n.natAbs : ℤ) else n.natAbs) = n := by
    by_cases h : n < 0
    · rw [if_pos (decide_eq_true h)]
      omega
    · rw [if_neg (by simpa using h)]
      omega
  rw [plain, signed]

/-! ### The literals of values -/

/-- The quote for a text is not in it. -/
theorem of_quoteFor? {cs : List Char} {q : Char} (h : Literal.quoteFor? '\'' '"' cs = some q) :
    isQuote q = true ∧ q ∉ cs := by
  unfold Literal.quoteFor? at h
  split at h
  · next hn =>
    obtain rfl := Option.some.inj h
    exact ⟨rfl, by simpa using hn⟩
  · split at h
    · next hn =>
      obtain rfl := Option.some.inj h
      exact ⟨rfl, by simpa using hn⟩
    · cases h

/-- The literal of a text stands for the text. -/
theorem reads_ofText {s literal : String} (h : Literal.ofText s = .ok literal) :
    Reads literal.toList (.quoted s.toList) := by
  unfold Literal.ofText at h
  split at h
  · next cs hcs =>
    obtain ⟨q, hq, rfl⟩ := Option.map_eq_some_iff.1 hcs
    obtain rfl := Except.ok.inj h
    obtain ⟨quotes, outside⟩ := of_quoteFor? hq
    rw [String.toList_ofList]
    exact reads_quoted quotes outside
  · cases h

/-- The literal of a whole number stands for it. -/
theorem reads_ofInt {n : ℤ} {literal : String} (h : Literal.ofInt n = .ok literal) :
    ∃ token, Reads literal.toList token ∧ token.scalar? = some (.whole n) := by
  unfold Literal.ofInt Reading.wholeText? at h
  split at h
  · next hs =>
    obtain rfl := Except.ok.inj h
    split at hs
    · obtain rfl := Option.some.inj hs
      exact ⟨.bare n.repr.toList, Decimal.toList_repr n ▸ reads_positional _, ofBare?_repr n⟩
    · cases hs
  · cases h

/-- The literal of a floating point number stands for the number that its text denotes. -/
theorem reads_ofFloat {x : Binary64} {literal : String} (h : Literal.ofFloat x = .ok literal) :
    ∃ token a d, Reads literal.toList token ∧ token.scalar? = some a ∧
      Decimal.read? x.text.toList = some d ∧ a.number? = some d.value := by
  cases x with
  | finite negative m q canonical =>
    obtain rfl := Except.ok.inj h
    obtain ⟨d, hd, -, hv⟩ := Binary64.read?_text negative m q canonical
    obtain ⟨a, ha, hn⟩ := Option.bind_eq_some_iff.1
      (number?_positional (Binary64.toDecimal negative m q))
    rw [String.toList_ofList]
    exact ⟨_, a, d, reads_positional _, ha, hd, hn.trans (congrArg some hv.symm)⟩
  | _ => cases h

/-- The characters of the literal of a point in time. -/
theorem toList_ofMoment (cs : List Char) :
    (Literal.ofMoment cs).toList = "dt '".toList ++ cs ++ ['\''] := String.toList_ofList

/-- The literal of a date stands for the date. -/
theorem reads_ofMoment (d : Calendar.Date) :
    ∃ token, Reads (Literal.ofMoment d.chars).toList token ∧ token.scalar? = some (.date d) := by
  have plain : '\'' ∉ d.chars := fun h => by
    rcases Calendar.Date.mem_chars h with h | h
    · cases h
    · cases h
  rw [toList_ofMoment]
  refine ⟨_, reads_moment plain, ?_⟩
  have read := Reading.date?_text d
  rw [Calendar.Date.text] at read
  simp [Token.scalar?, Scalar.ofMoment?, read]

/-- The literal of a point in time stands for it. -/
theorem reads_ofTimestamp {t : Calendar.Timestamp} {literal : String}
    (h : Literal.ofTimestamp t = .ok literal) :
    ∃ token, Reads literal.toList token ∧ token.scalar? = some (.timestamp t) := by
  unfold Literal.ofTimestamp at h
  split at h
  · cases h
  · next ho =>
    split at h
    · cases h
    · next hm =>
      obtain rfl := Except.ok.inj h
      have plain : '\'' ∉ t.secondsChars := fun h => by
        rcases Calendar.Timestamp.mem_secondsChars h with h | h | h | h
        all_goals cases h
      have none_offset : t.offset = none := by simpa using ho
      have no_micros : t.clock.micros = 0 := Fin.ext (Decidable.not_not.1 hm)
      obtain ⟨not_date, read⟩ := Reading.timestamp_secondsChars none_offset no_micros
      rw [toList_ofMoment]
      refine ⟨_, reads_moment plain, ?_⟩
      simp [Token.scalar?, Scalar.ofMoment?, not_date, read, Except.toOption]

/-- The literal of a truth value stands for it. -/
theorem reads_ofBool (b : Bool) :
    ∃ token, Reads (Literal.ofBool b).toList token ∧ token.scalar? = some (.truth b) := by
  cases b with
  | true =>
    have text : (Literal.ofBool true).toList = ['t', 'r', 'u', 'e'] := rfl
    rw [text]
    refine ⟨_, reads_bare (List.cons_ne_nil _ _) ?_ ?_ (by simp), rfl⟩
    · simp [isEnd]
    · simp [isQuote]
  | false =>
    have text : (Literal.ofBool false).toList = ['f', 'a', 'l', 's', 'e'] := rfl
    rw [text]
    refine ⟨_, reads_bare (List.cons_ne_nil _ _) ?_ ?_ (by simp), rfl⟩
    · simp [isEnd]
    · simp [isQuote]

/-- **The literal of a value stands for the value.** -/
theorem reads_ofValue {v : Value} {t : FieldType} {literal : String}
    (h : Literal.ofValue v t = .ok literal) :
    ∃ token a, Reads literal.toList token ∧ token.scalar? = some a ∧ a.Denotes v t := by
  have present : Literal.ofPlain v t = .ok literal := by
    cases v with
    | null => cases h
    | _ => exact h
  cases t with
  | string =>
    simp only [Literal.ofPlain] at present
    split at present
    · next s hs => exact ⟨_, _, reads_ofText present, rfl, s, hs, rfl⟩
    · cases present
  | integer =>
    simp only [Literal.ofPlain] at present
    split at present
    · next n =>
      obtain ⟨token, hr, ha⟩ := reads_ofInt present
      exact ⟨token, _, hr, ha, n, rfl, rfl⟩
    · cases present
  | float =>
    simp only [Literal.ofPlain] at present
    split at present
    · next n =>
      obtain ⟨token, hr, ha⟩ := reads_ofInt present
      exact ⟨token, _, hr, ha, .inl ⟨n, rfl, rfl⟩⟩
    · next x =>
      obtain ⟨token, a, d, hr, ha, hd, hn⟩ := reads_ofFloat present
      exact ⟨token, a, hr, ha, .inr ⟨x, d, rfl, hd, hn⟩⟩
    · cases present
  | boolean =>
    simp only [Literal.ofPlain] at present
    split at present
    · next b =>
      obtain rfl := Except.ok.inj present
      obtain ⟨token, hr, ha⟩ := reads_ofBool b
      exact ⟨token, _, hr, ha, b, rfl, rfl⟩
    · cases present
  | date =>
    simp only [Literal.ofPlain] at present
    split at present
    · next t =>
      obtain ⟨token, hr, ha⟩ := reads_ofTimestamp present
      exact ⟨token, _, hr, ha, .inr ⟨t, rfl, rfl⟩⟩
    · next d =>
      obtain rfl := Except.ok.inj present
      obtain ⟨token, hr, ha⟩ := reads_ofMoment d
      exact ⟨token, _, hr, ha, .inl ⟨d, rfl, rfl⟩⟩
    · cases present

end Query
end EntityQuery
