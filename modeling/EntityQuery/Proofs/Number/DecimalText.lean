import EntityQuery.Number.Shortest
import Mathlib.Algebra.Order.Field.Rat
import Mathlib.Tactic.NormNum
import Mathlib.Tactic.Ring

/-!
# Decimal texts are read back

A decimal has two written forms, the positional and the scientific one, and both are read back by
`Decimal.read?`. The scientific form gives the very decimal (`read?_scientific`); so does the
positional form if a point is written, and otherwise the zeros it ends with have become part of the
coefficient (`read?_positional`). Both therefore denote the same number (`value_plain`), and the text
of a finite number denotes the number that its positional form denotes (`read?_text`).
-/

namespace EntityQuery

/-- A power of ten is positive. -/
theorem tenTo_pos (n : ℕ) : 0 < tenTo n := Nat.pow_pos (by decide)

namespace Decimal

/-- The number that a decimal denotes. -/
def value (d : Decimal) : ℚ :=
  (if d.negative then -1 else 1) * d.coefficient * (10 : ℚ) ^ d.exponent

/-- The decimal without a positive exponent, of the same number. -/
def plain (d : Decimal) : Decimal :=
  if 0 ≤ d.exponent then ⟨d.negative, d.coefficient * tenTo d.exponent.toNat, 0⟩ else d

/-- The plain form of a decimal has its sign. -/
@[simp] theorem negative_plain (d : Decimal) : d.plain.negative = d.negative := by
  unfold plain
  split <;> rfl

/-- **The plain form denotes the same number.** -/
theorem value_plain (d : Decimal) : d.plain.value = d.value := by
  unfold plain
  split
  · next h =>
    obtain ⟨n, hn⟩ := Int.eq_ofNat_of_zero_le h
    have ht : (tenTo n : ℚ) = (10 : ℚ) ^ n := by simp [tenTo]
    simp only [value, hn, Int.toNat_natCast, Nat.cast_mul, ht, zpow_natCast, zpow_zero, mul_one]
    ring
  · rfl

/-! ### Reading the parts of a text -/

/-- A number is written with digits. -/
theorem digits_toDigits (n : ℕ) : ∀ c ∈ Nat.toDigits 10 n, c.isDigit = true :=
  fun _ h => Nat.isDigit_of_mem_toDigits (by decide) (by decide) h

/-- Zeros are digits. -/
theorem digits_replicate (n : ℕ) : ∀ c ∈ List.replicate n '0', c.isDigit = true := by
  intro c hc
  rw [List.eq_of_mem_replicate hc]
  rfl

/-- Digits behind digits are digits. -/
theorem digits_append {as bs : List Char} (ha : ∀ c ∈ as, c.isDigit = true)
    (hb : ∀ c ∈ bs, c.isDigit = true) : ∀ c ∈ as ++ bs, c.isDigit = true := by
  intro c hc
  rcases List.mem_append.1 hc with h | h
  · exact ha c h
  · exact hb c h

/-- A sign is split off again, if no other sign follows it. -/
theorem splitSign_signText (negative : Bool) {cs : List Char} {c : Char}
    (hc : cs.head? = some c) (hd : c.isDigit = true) :
    splitSign (signText negative ++ cs) = (negative, cs) := by
  cases negative with
  | true => rfl
  | false =>
    cases cs with
    | nil => simp at hc
    | cons a r =>
      obtain rfl : a = c := by simpa using hc
      simp only [signText, Bool.false_eq_true, if_false, List.nil_append]
      unfold splitSign
      split
      · next h => simp_all [Char.isDigit]
      · next h => simp_all [Char.isDigit]
      · rfl

/-- An exponent is read back behind its sign. -/
theorem readExponent?_signed {sign : Char} (negative : Bool) (ds : List Char)
    (hs : sign = if negative then '-' else '+') (hne : ds ≠ []) (hd : ∀ c ∈ ds, c.isDigit = true) :
    readExponent? (sign :: ds) =
      some (if negative then -(Nat.ofDigitChars 10 ds 0 : ℤ) else Nat.ofDigitChars 10 ds 0) := by
  have ha : ds.all Char.isDigit = true := List.all_eq_true.2 hd
  have he : ds.isEmpty = false := by simpa using hne
  subst hs
  cases negative <;> simp [readExponent?, splitSign, ha, he]

/-- **A decimal text is read by its parts:** a sign, digits, perhaps a point and more digits, and
perhaps an exponent. -/
theorem read?_parts (negative : Bool) (ds fs point tail : List Char) {e : ℤ} (hne : ds ≠ [])
    (hd : ∀ c ∈ ds, c.isDigit = true) (hf : ∀ c ∈ fs, c.isDigit = true)
    (hp : (point = [] ∧ fs = []) ∨ point = '.' :: fs)
    (ht : (tail = [] ∧ e = 0) ∨ ∃ r, tail = 'e' :: r ∧ readExponent? r = some e) :
    read? (signText negative ++ (ds ++ (point ++ tail))) =
      some ⟨negative, Nat.ofDigitChars 10 (ds ++ fs) 0, e - fs.length⟩ := by
  -- neither a point nor the mark of an exponent is a digit, so each run of digits ends there
  have tail_digits : tail.takeWhile Char.isDigit = [] ∧ tail.dropWhile Char.isDigit = tail := by
    rcases ht with ⟨rfl, _⟩ | ⟨r, rfl, _⟩ <;> simp
  have point_digits : (point ++ tail).takeWhile Char.isDigit = [] ∧
      (point ++ tail).dropWhile Char.isDigit = point ++ tail := by
    rcases hp with ⟨rfl, _⟩ | rfl
    · simpa using tail_digits
    · simp
  obtain ⟨c, r, rfl⟩ := List.exists_cons_of_ne_nil hne
  have hs := splitSign_signText negative (show ((c :: r) ++ (point ++ tail)).head? = some c from rfl)
    (hd c (List.mem_cons_self ..))
  have whole : ((c :: r) ++ (point ++ tail)).takeWhile Char.isDigit = c :: r := by
    rw [List.takeWhile_append_of_pos hd, point_digits.1, List.append_nil]
  have rest : ((c :: r) ++ (point ++ tail)).dropWhile Char.isDigit = point ++ tail := by
    rw [List.dropWhile_append_of_pos hd, point_digits.2]
  have fraction : (fs ++ tail).takeWhile Char.isDigit = fs ∧
      (fs ++ tail).dropWhile Char.isDigit = tail := by
    rw [List.takeWhile_append_of_pos hf, List.dropWhile_append_of_pos hf, tail_digits.1,
      tail_digits.2, List.append_nil]
    exact ⟨rfl, rfl⟩
  unfold read?
  simp only [hs, whole, rest]
  rcases hp with ⟨rfl, rfl⟩ | rfl <;> rcases ht with ⟨rfl, rfl⟩ | ⟨r', rfl, hr⟩
  · simp
  · simp [hr]
  · rw [List.append_nil] at fraction
    simp [fraction]
  · simp [fraction, hr]

/-- Powers of ten grow with the exponent. -/
theorem tenTo_mono {m n : ℕ} (h : m ≤ n) : tenTo m ≤ tenTo n :=
  Nat.pow_le_pow_right (by decide) h

/-- The number of a run of digits has no more digits than the run. -/
theorem ofDigitChars_lt {ds : List Char} (hd : ∀ c ∈ ds, c.isDigit = true) (init : ℕ) :
    Nat.ofDigitChars 10 ds init < tenTo ds.length * (init + 1) := by
  induction ds generalizing init with
  | nil => simp [tenTo]
  | cons c ds ih =>
    obtain ⟨hc, hds⟩ := List.forall_mem_cons.1 hd
    have digit : c.toNat - '0'.toNat ≤ 9 := by
      have upper : c.toNat ≤ 57 := (Char.isDigit_iff_toNat.1 hc).2
      have zero : '0'.toNat = 48 := rfl
      omega
    calc Nat.ofDigitChars 10 (c :: ds) init
        = Nat.ofDigitChars 10 ds (10 * init + (c.toNat - '0'.toNat)) := Nat.ofDigitChars_cons
      _ < tenTo ds.length * (10 * init + (c.toNat - '0'.toNat) + 1) := ih hds _
      _ ≤ tenTo ds.length * (10 * (init + 1)) := Nat.mul_le_mul_left _ (by omega)
      _ = tenTo (c :: ds).length * (init + 1) := by
        rw [← Nat.mul_assoc]
        rfl

/-- The number of a short run of digits is below a power of ten. -/
theorem ofDigitChars_lt_tenTo {ds : List Char} (hd : ∀ c ∈ ds, c.isDigit = true) {n : ℕ}
    (short : ds.length ≤ n) : Nat.ofDigitChars 10 ds 0 < tenTo n :=
  calc Nat.ofDigitChars 10 ds 0
      < tenTo ds.length * 1 := ofDigitChars_lt hd 0
    _ = tenTo ds.length := Nat.mul_one _
    _ ≤ tenTo n := tenTo_mono short

/-! ### The two written forms -/

/-- Zeros behind a number multiply it by ten each. -/
theorem ofDigitChars_zeros (c n : ℕ) :
    Nat.ofDigitChars 10 (Nat.toDigits 10 c ++ List.replicate n '0') 0 = c * tenTo n := by
  rw [Nat.ofDigitChars_append, Nat.ofDigitChars_ten_toDigits, Nat.ofDigitChars_replicate_zero,
    Nat.mul_comm]
  rfl

/-- **The positional text of a decimal is its plain form.** -/
theorem read?_positional (d : Decimal) : read? d.positional = some d.plain := by
  obtain ⟨negative, c, e⟩ := d
  simp only [positional, positionalDigits, plain]
  split
  · have h := read?_parts negative (Nat.toDigits 10 c ++ List.replicate e.toNat '0') [] [] []
      (by simp) (digits_append (digits_toDigits c) (digits_replicate _)) (by simp)
      (.inl ⟨rfl, rfl⟩) (.inl ⟨rfl, rfl⟩)
    simpa [ofDigitChars_zeros] using h
  · next he =>
    -- the zeros in front make room for a digit before the point
    obtain ⟨places, hp⟩ : ∃ n : ℕ, e = -(n : ℤ) := ⟨(-e).toNat, by omega⟩
    subst hp
    simp only [Int.neg_neg, Int.toNat_natCast]
    generalize hds : List.replicate (places + 1 - (Nat.toDigits 10 c).length) '0' ++
      Nat.toDigits 10 c = ds
    have hd : ∀ c ∈ ds, c.isDigit = true :=
      hds ▸ digits_append (digits_replicate _) (digits_toDigits c)
    have hlen : places < ds.length := by
      rw [← hds, List.length_append, List.length_replicate]
      omega
    have hc : Nat.ofDigitChars 10 ds 0 = c := by
      rw [← hds, Nat.ofDigitChars_append, Nat.ofDigitChars_replicate_zero, Nat.mul_zero,
        Nat.ofDigitChars_ten_toDigits]
    have h := read?_parts negative (ds.take (ds.length - places)) (ds.drop (ds.length - places))
      ('.' :: ds.drop (ds.length - places)) []
      (by
        intro h
        have := congrArg List.length h
        simp only [List.length_take, List.length_nil] at this
        omega)
      (fun c h => hd c (List.mem_of_mem_take h)) (fun c h => hd c (List.mem_of_mem_drop h))
      (.inr rfl) (.inl ⟨rfl, rfl⟩)
    rw [List.append_nil] at h
    rw [h, List.take_append_drop, hc, List.length_drop]
    congr 2
    omega

/-- The positional text of a decimal has digits, signs and points only. -/
theorem mem_positional {d : Decimal} {c : Char} (h : c ∈ d.positional) :
    c.isDigit = true ∨ c = '-' ∨ c = '.' := by
  rcases List.mem_append.1 h with h | h
  · cases hn : d.negative
    · simp [signText, hn] at h
    · exact .inr (.inl (by simpa [signText, hn] using h))
  · simp only [positionalDigits] at h
    split at h
    · exact .inl (digits_append (digits_toDigits _) (digits_replicate _) c h)
    · rcases List.mem_append.1 h with h | h
      · exact .inl (digits_append (digits_replicate _) (digits_toDigits _) c (List.mem_of_mem_take h))
      · rcases List.mem_cons.1 h with h | h
        · exact .inr (.inr h)
        · exact .inl (digits_append (digits_replicate _) (digits_toDigits _) c
            (List.mem_of_mem_drop h))

/-- A point stands in a positional text just if the exponent is negative. -/
theorem point_mem_positional {d : Decimal} : '.' ∈ d.positional ↔ d.exponent < 0 := by
  have hs : '.' ∉ signText d.negative := by cases d.negative <;> decide
  have hd : '.' ∉ Nat.toDigits 10 d.coefficient := fun h => by simpa using digits_toDigits _ _ h
  simp only [positional, positionalDigits, List.mem_append, hs, false_or]
  split
  · next h => simpa [hd] using h
  · next h => simpa using h

/-- The positional form is not empty. -/
theorem positional_ne_nil (d : Decimal) : d.positional ≠ [] := by
  simp only [positional, positionalDigits]
  split <;> simp

/-- The text of a whole number is the positional text of a decimal. -/
theorem toList_repr (n : ℤ) :
    n.repr.toList = positional ⟨decide (n < 0), n.natAbs, 0⟩ := by
  rw [Int.repr_eq_if]
  by_cases h : n < 0
  · have size : (-n).toNat = n.natAbs := by omega
    rw [if_neg (by omega), size, String.toList_append, Nat.toList_repr]
    simp [positional, positionalDigits, signText, h]
  · have size : n.toNat = n.natAbs := by omega
    rw [if_pos (by omega), size, Nat.toList_repr]
    simp [positional, positionalDigits, signText, h]

/-- **The scientific text of a decimal is read back.** -/
theorem read?_scientific (d : Decimal) : read? d.scientific = some d := by
  obtain ⟨negative, c, e⟩ := d
  obtain ⟨a, r, hds⟩ := List.exists_cons_of_ne_nil (Nat.toDigits_ne_nil (n := c) (b := 10))
  have hd := digits_toDigits c
  rw [hds] at hd
  have hc : Nat.ofDigitChars 10 (a :: r) 0 = c := by rw [← hds, Nat.ofDigitChars_ten_toDigits]
  simp only [scientific, hds, List.take_succ_cons, List.take_zero, List.drop_succ_cons,
    List.drop_zero, List.length_cons, Nat.add_sub_cancel]
  generalize hx : e + (r.length : ℤ) = x
  have sign : (if x < 0 then '-' else '+') = if decide (x < 0) then '-' else '+' := by simp
  have hr := readExponent?_signed (decide (x < 0))
    (List.replicate (2 - (Nat.toDigits 10 x.natAbs).length) '0' ++ Nat.toDigits 10 x.natAbs)
    sign (by simp) (digits_append (digits_replicate _) (digits_toDigits _))
  rw [Nat.ofDigitChars_append, Nat.ofDigitChars_replicate_zero, Nat.mul_zero,
    Nat.ofDigitChars_ten_toDigits] at hr
  have hv : (if decide (x < 0) = true then -(x.natAbs : ℤ) else x.natAbs) = x := by
    by_cases h : x < 0 <;> simp only [h, decide_true, decide_false, if_true, if_false,
      Bool.false_eq_true] <;> omega
  rw [hv] at hr
  have h := read?_parts negative [a] r (if r.length + 1 = 1 then [] else '.' :: r) _ (by simp)
    (fun c hc => hd c (by simp_all))
    (fun c hc => hd c (List.mem_cons_of_mem _ hc))
    (by
      by_cases h : r = []
      · exact .inl ⟨by simp [h], h⟩
      · exact .inr (by simp [h]))
    (.inr ⟨_, rfl, hr⟩)
  simp only [List.append_assoc, List.cons_append, List.nil_append] at h ⊢
  rw [h, hc]
  congr 2
  omega

end Decimal

namespace Binary64

/-- **The text of a finite number denotes what its positional text denotes.** -/
theorem read?_text (negative : Bool) (m : ℕ) (q : ℤ) (h : IsCanonical m q) :
    ∃ d, Decimal.read? (finite negative m q h).text.toList = some d ∧
      d.negative = (toDecimal negative m q).negative ∧ d.value = (toDecimal negative m q).value := by
  simp only [text, String.toList_ofList]
  split
  · exact ⟨_, Decimal.read?_positional _, Decimal.negative_plain _, Decimal.value_plain _⟩
  · exact ⟨_, Decimal.read?_scientific _, rfl, rfl⟩

end Binary64
end EntityQuery
