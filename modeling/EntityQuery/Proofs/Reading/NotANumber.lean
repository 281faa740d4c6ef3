import EntityQuery.Proofs.Reading.Written

/-!
# Which texts are read as not-a-number

No decimal is rounded to not-a-number (`Binary64.ofDecimal_ne_nan`), so only its word is read as it: in
any case, perhaps behind a sign, and between blanks (`Reading.number_eq_nan_iff`). Digits of other
scripts and underscores, which a number may hold, cannot make the word of another text: a digit stays
one, and an underscore is dropped between digits only.
-/

namespace EntityQuery

namespace Binary64

/-- What is put together of a sign, digits and an exponent is a number. -/
theorem ofParts_ne_nan (negative : Bool) (m : ℕ) (q : ℤ) (mark : ℕ) :
    ofParts negative m q ≠ .nan mark := by
  unfold ofParts
  split
  · rintro ⟨⟩
  · rintro ⟨⟩

/-- A fraction is a number. -/
theorem ofFraction_ne_nan (negative : Bool) (num den mark : ℕ) :
    ofFraction negative num den ≠ .nan mark := by
  unfold ofFraction
  split
  · rintro ⟨⟩
  · simp only
    split <;> exact ofParts_ne_nan _ _ _ _

/-- **No decimal is rounded to not-a-number.** -/
theorem ofDecimal_ne_nan (d : Decimal) (mark : ℕ) : ofDecimal d ≠ .nan mark := by
  unfold ofDecimal
  simp only
  split
  · rintro ⟨⟩
  · split
    · rintro ⟨⟩
    · split <;> exact ofFraction_ne_nan _ _ _ _

end Binary64

namespace Text

/-- Digits have no case. -/
theorem toLower_of_digit? {c : Char} {d : ℕ} (h : digit? c = some d) : c.toLower = c := by
  have noLetter : ¬ (c.val ≥ 'A'.val ∧ c.val ≤ 'Z'.val) := by
    rintro ⟨low, high⟩
    have low : 65 ≤ c.toNat := low
    have high : c.toNat ≤ 90 := high
    unfold digit? at h
    split at h
    · split at h
      · next digit =>
        have small : c.toNat ≤ 57 := digit.2
        omega
      · cases h
    · omega
  exact dif_neg noLetter

/-- What is a digit of no script is no ASCII digit. -/
theorem isDigit_of_digit? {c : Char} (h : digit? c = none) : c.isDigit = false := by
  rw [← Bool.not_eq_true]
  intro digit
  cases (digit?_of_isDigit digit).symm.trans h

/-- What is no digit as it is read is read as it is. -/
theorem eq_of_plainDigit {c : Char} (h : digit? (plainDigit c) = none) : plainDigit c = c := by
  unfold plainDigit at h ⊢
  split
  · next d digit =>
    have digits : ∀ d < 10, digit? (Nat.digitChar d) ≠ none := by decide
    rw [digit] at h
    exact absurd h (digits d (digit?_lt_ten digit))
  · rfl

end Text

namespace Reading

open Text (plainDigit trimChars digit?)

/-! ### Digits and underscores -/

/-- Characters that are no digits are read as they are. -/
theorem numberChars_eq_iff {s : String} {cs : List Char} (plain : ∀ c ∈ cs, digit? c = none) :
    numberChars s = cs ↔ trimChars isNumberBlank s.toList = cs := by
  have kept : ∀ c, digit? c = none → plainDigit c = c := fun c hc => by rw [plainDigit, hc]
  unfold numberChars
  constructor
  · rintro rfl
    have same : ∀ c ∈ trimChars isNumberBlank s.toList, plainDigit c = c := fun c hc =>
      Text.eq_of_plainDigit (plain _ (List.mem_map_of_mem hc))
    rw [List.map_congr_left same, List.map_id']
  · rintro rfl
    rw [List.map_congr_left fun c hc => kept c (plain c hc), List.map_id']

/-- **What is left without a digit has lost no underscore.** -/
theorem eq_of_dropUnderscores? {afterDigit : Bool} {cs ds : List Char}
    (h : dropUnderscores? afterDigit cs = some ds) (plain : ∀ c ∈ ds, c.isDigit = false) :
    cs = ds := by
  fun_induction dropUnderscores? afterDigit cs generalizing ds with
  | case1 => exact Option.some.inj h
  | case2 afterDigit r between ih =>
    -- the digit behind the underscore would be left
    obtain rfl := ih h plain
    obtain ⟨-, digit⟩ := Bool.and_eq_true_iff.1 between
    cases r with
    | nil => cases digit
    | cons d r => exact absurd digit (by simp [plain d (List.mem_cons_self ..)])
  | case3 => cases h
  | case4 afterDigit c r other ih =>
    obtain ⟨rest, hr, rfl⟩ := Option.map_eq_some_iff.1 h
    rw [ih hr fun d hd => plain d (List.mem_cons_of_mem _ hd)]

/-! ### The word -/

/-- Whether characters are a sign or none. -/
def IsSign (cs : List Char) : Prop := cs = [] ∨ cs = ['+'] ∨ cs = ['-']

/-- Whether a text stands for not-a-number: the word for it in any case, perhaps behind a sign, between
blanks. -/
def IsNotANumber (s : String) : Prop :=
  ∃ sign word, trimChars isNumberBlank s.toList = sign ++ word ∧ IsSign sign ∧
    word.map Char.toLower = ['n', 'a', 'n']

/-- Of the special words only one is not a number, in any case. -/
theorem specialNumber?_eq_nan_iff {negative : Bool} {word : List Char} :
    (∃ mark, specialNumber? negative word = some (.nan mark)) ↔
      word.map Char.toLower = ['n', 'a', 'n'] := by
  have chars : ∀ text : String, String.ofList (word.map Char.toLower) = text ↔
      word.map Char.toLower = text.toList := by
    intro text
    rw [← String.toList_inj, String.toList_ofList]
  simp only [specialNumber?, Bool.or_eq_true, decide_eq_true_eq, chars]
  split
  · next infinite =>
    refine iff_of_false (by rintro ⟨_, ⟨⟩⟩) fun same => ?_
    rw [same] at infinite
    exact absurd infinite (by decide)
  · split
    · next same => exact iff_of_true ⟨0, rfl⟩ same
    · next other => exact iff_of_false (by rintro ⟨_, ⟨⟩⟩) other

/-- A text has a sign in front, perhaps an empty one. -/
theorem exists_sign (cs : List Char) :
    ∃ sign, IsSign sign ∧ cs = sign ++ (Decimal.splitSign cs).2 := by
  unfold Decimal.splitSign
  split
  · exact ⟨['-'], .inr (.inr rfl), rfl⟩
  · exact ⟨['+'], .inr (.inl rfl), rfl⟩
  · exact ⟨[], .inl rfl, rfl⟩

section

variable {sign word : List Char} (hs : IsSign sign) (h : word.map Char.toLower = ['n', 'a', 'n'])

include hs h

/-- The word does not begin with a sign of its own. -/
theorem splitSign_snd : (Decimal.splitSign (sign ++ word)).2 = word := by
  obtain rfl | rfl | rfl := hs
  · obtain ⟨c, r, rfl, first, -⟩ := List.map_eq_cons_iff.1 h
    unfold Decimal.splitSign
    split
    · next same => cases (List.cons.inj same).1 ▸ first
    · next same => cases (List.cons.inj same).1 ▸ first
    · rfl
  · rfl
  · rfl

/-- The characters of a signed word of three letters are few. -/
theorem toLower_mem {c : Char} (hc : c ∈ sign ++ word) : c.toLower ∈ ['+', '-', 'n', 'a'] := by
  obtain hc | hc := List.mem_append.1 hc
  · obtain rfl | rfl | rfl := hs
    · cases hc
    · obtain rfl := List.mem_singleton.1 hc
      decide
    · obtain rfl := List.mem_singleton.1 hc
      decide
  · have letters : ∀ c ∈ ['n', 'a', 'n'], c ∈ ['+', '-', 'n', 'a'] := by simp
    exact letters _ (h ▸ List.mem_map_of_mem hc)

/-- Neither the sign nor the word has a digit of any script. -/
theorem digit?_of_mem {c : Char} (hc : c ∈ sign ++ word) : digit? c = none := by
  have lower := toLower_mem hs h hc
  cases digit : digit? c with
  | none => rfl
  | some d =>
    have other : (['+', '-', 'n', 'a'].all fun c => (digit? c).isNone) = true := by decide
    rw [Text.toLower_of_digit? digit] at lower
    have none := List.all_eq_true.1 other c lower
    rw [digit] at none
    cases none

end

/-- **The texts that are read as not-a-number** are its word in any case, perhaps behind a sign, between
blanks. -/
theorem number_eq_nan_iff {s : String} :
    (∃ mark, number s = .ok (.nan mark)) ↔ IsNotANumber s := by
  constructor
  · rintro ⟨mark, h⟩
    unfold number at h
    split at h
    · cases h
    · next cs dropped =>
      simp only at h
      split at h
      · next x special =>
        obtain rfl := Except.ok.inj h
        have word := specialNumber?_eq_nan_iff.1 ⟨mark, special⟩
        obtain ⟨sign, hs, same⟩ := exists_sign cs
        have plain : ∀ c ∈ cs, digit? c = none := fun c hc => digit?_of_mem hs word (same ▸ hc)
        have read : numberChars s = cs := eq_of_dropUnderscores? dropped fun c hc =>
          Text.isDigit_of_digit? (plain c hc)
        exact ⟨sign, _, ((numberChars_eq_iff plain).1 read).trans same, hs, word⟩
      · split at h
        · next d _ => exact absurd (Except.ok.inj h) (Binary64.ofDecimal_ne_nan d mark)
        · cases h
  · rintro ⟨sign, word, trimmed, hs, lower⟩
    have chars : numberChars s = sign ++ word :=
      (numberChars_eq_iff fun c hc => digit?_of_mem hs lower hc).2 trimmed
    have whole : '_' ∉ sign ++ word := fun inside => by
      have other : '_'.toLower ∉ ['+', '-', 'n', 'a'] := by decide
      exact other (toLower_mem hs lower inside)
    obtain ⟨mark, special⟩ : ∃ mark, specialNumber? (Decimal.splitSign (sign ++ word)).1 word =
        some (.nan mark) := specialNumber?_eq_nan_iff.2 lower
    refine ⟨mark, ?_⟩
    simp only [number, chars, dropUnderscores?_of_not_mem whole, splitSign_snd hs lower, special]

end Reading
end EntityQuery
