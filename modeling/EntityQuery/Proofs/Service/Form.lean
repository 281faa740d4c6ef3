import EntityQuery.Service.Form

/-!
# Reading a form back

What is written of a name or a value consists of letters, digits and six other characters, none of
them a separator (`isTextChar_of_mem`). So the separators of a form are those that were put there, and
reading undoes writing: byte by byte (`decodeBytes?_encodeByte`), for a text (`decodeText?_encodeText`),
for a parameter (`decodePair?_encodePair`), and for a form with at least one parameter
(`decode?_encode`).
-/

namespace EntityQuery
namespace Form

/-! ### Which characters are written -/

/-- Whether a character can stand in a written name or value. -/
def isTextChar (c : Char) : Bool := c.isAlphanum || ['_', '.', '-', '~', '+', '%'].contains c

/-- Whether a character can stand in a written form. -/
def isFormChar (c : Char) : Bool := isTextChar c || c = '&' || c = '='

/-- No character of an encoded text separates pairs. -/
theorem ne_ampersand_of_isTextChar {c : Char} (h : isTextChar c = true) : c ≠ '&' := by
  rintro rfl
  cases h

/-- No character of an encoded text separates a name from its value. -/
theorem ne_equals_of_isTextChar {c : Char} (h : isTextChar c = true) : c ≠ '=' := by
  rintro rfl
  cases h

/-- A hexadecimal digit is a letter or a digit. -/
theorem isAlphanum_hexDigit : ∀ n < 16, (hexDigit n).isAlphanum = true := by
  decide

/-- A plain byte is written as a character of encoded texts. -/
theorem isTextChar_of_isPlain {b : UInt8} (h : isPlain b = true) :
    isTextChar (Char.ofNat b.toNat) = true := by
  simp only [isPlain, Bool.and_eq_true, Bool.or_eq_true, decide_eq_true_eq] at h
  obtain ⟨-, (((alphanum | h) | h) | h) | h⟩ := h
  · rw [isTextChar, alphanum, Bool.true_or]
  all_goals
    rw [h]
    rfl

/-- So is every other byte. -/
theorem isTextChar_of_mem_encodeByte {b : UInt8} {c : Char} (h : c ∈ encodeByte b) :
    isTextChar c = true := by
  have digit : ∀ n < 16, isTextChar (hexDigit n) = true := fun n hn => by
    rw [isTextChar, isAlphanum_hexDigit n hn, Bool.true_or]
  have byte : b.toNat < 256 := b.toNat_lt
  unfold encodeByte at h
  split at h
  · next plain =>
    rw [List.mem_singleton.1 h]
    exact isTextChar_of_isPlain plain
  · split at h
    · rw [List.mem_singleton.1 h]
      rfl
    · obtain rfl | h := List.mem_cons.1 h
      · rfl
      · obtain rfl | h := List.mem_cons.1 h
        · exact digit _ (by omega)
        · rw [List.mem_singleton.1 h]
          exact digit _ (by omega)

/-- **A written name or value holds no separator.** -/
theorem isTextChar_of_mem {s : String} {c : Char} (h : c ∈ encodeText s) : isTextChar c = true := by
  obtain ⟨b, -, hc⟩ := List.mem_flatMap.1 h
  exact isTextChar_of_mem_encodeByte hc

/-- An encoded pair holds one character more, which separates its name from its value. -/
theorem mem_encodePair {p : String × String} {c : Char} (h : c ∈ encodePair p) :
    isTextChar c = true ∨ c = '=' := by
  rw [encodePair, List.mem_append, List.mem_cons] at h
  obtain h | h | h := h
  · exact .inl (isTextChar_of_mem h)
  · exact .inr h
  · exact .inl (isTextChar_of_mem h)

/-- **Only these characters stand in a written form.** -/
theorem isFormChar_of_mem {ps : List (String × String)} {c : Char} (h : c ∈ encode ps) :
    isFormChar c = true := by
  induction ps with
  | nil => cases h
  | cons p ps ih =>
    have pair : ∀ {d}, d ∈ encodePair p → isFormChar d = true := by
      intro d hd
      obtain text | rfl := mem_encodePair hd
      · simp [isFormChar, text]
      · rfl
    cases ps with
    | nil =>
      rw [encode, List.map_singleton, List.intercalate_singleton] at h
      exact pair h
    | cons q ps =>
      rw [encode, List.map_cons, List.intercalate_cons_of_ne_nil (by simp), List.mem_append,
        List.mem_append] at h
      obtain (h | h) | h := h
      · exact pair h
      · rw [List.mem_singleton.1 h]
        rfl
      · exact ih h

/-! ### Reading undoes writing -/

/-- A hexadecimal digit is read back. -/
theorem hexValue?_hexDigit : ∀ n < 16, hexValue? (hexDigit n) = some n := by
  decide

/-- A character that is no percent sign is read alone. -/
theorem decodeBytes?_cons {c : Char} (h : c ≠ '%') (cs : List Char) : decodeBytes? (c :: cs) =
    (decodeBytes? cs).map ((if c = '+' then [0x20] else String.utf8EncodeChar c) ++ ·) := by
  rw [decodeBytes?.eq_def]
  split
  · next heq => cases heq
  · next heq => exact absurd (List.cons.inj heq).1 h
  · next heq =>
    obtain ⟨rfl, rfl⟩ := List.cons.inj heq
    rw [if_neg h]
    split <;> rfl

/-- A byte that is written as a character is the encoding of that character. -/
theorem utf8EncodeChar_of_isPlain {b : UInt8} (h : isPlain b = true) :
    String.utf8EncodeChar (Char.ofNat b.toNat) = [b] := by
  have ascii : b.toNat < 128 := by
    simp only [isPlain, Bool.and_eq_true, decide_eq_true_eq] at h
    exact h.1
  have point : (Char.ofNat b.toNat).toNat = b.toNat := by
    have valid : b.toNat.isValidChar := .inl (by omega)
    rw [Char.ofNat, dif_pos valid]
    rfl
  have short : (Char.ofNat b.toNat).utf8Size = 1 := by
    rw [Char.utf8Size_eq_one_iff, UInt32.le_iff_toNat_le]
    show (Char.ofNat b.toNat).toNat ≤ 127
    omega
  rw [String.utf8EncodeChar_eq_singleton short]
  congr 1
  show UInt8.ofNat (Char.ofNat b.toNat).toNat = b
  rw [point, UInt8.ofNat_toNat]

/-- **A written byte is read as the byte,** whatever follows it. -/
theorem decodeBytes?_encodeByte (b : UInt8) (cs : List Char) :
    decodeBytes? (encodeByte b ++ cs) = (decodeBytes? cs).map (b :: ·) := by
  have byte : b.toNat < 256 := b.toNat_lt
  unfold encodeByte
  split
  · next plain =>
    have noPercent : Char.ofNat b.toNat ≠ '%' := by
      intro percent
      simp only [isPlain, percent, Bool.and_eq_true] at plain
      exact absurd plain.2 (by decide)
    have noPlus : Char.ofNat b.toNat ≠ '+' := by
      intro plus
      simp only [isPlain, plus, Bool.and_eq_true] at plain
      exact absurd plain.2 (by decide)
    rw [List.singleton_append, decodeBytes?_cons noPercent, if_neg noPlus,
      utf8EncodeChar_of_isPlain plain]
    rfl
  · split
    · next blank =>
      rw [List.singleton_append, decodeBytes?_cons (by decide), if_pos rfl, blank]
      rfl
    · have high := hexValue?_hexDigit (b.toNat / 16) (by omega)
      have low := hexValue?_hexDigit (b.toNat % 16) (by omega)
      show decodeBytes? ('%' :: hexDigit _ :: hexDigit _ :: cs) = _
      rw [decodeBytes?]
      simp only [high, low]
      rw [Nat.div_add_mod, UInt8.ofNat_toNat]

/-- **Bytes are read back** from their encoding. -/
theorem decodeBytes?_flatMap (bs : List UInt8) : decodeBytes? (bs.flatMap encodeByte) = some bs := by
  induction bs with
  | nil => rfl
  | cons b bs ih =>
    rw [List.flatMap_cons, decodeBytes?_encodeByte, ih]
    rfl

/-- **A written text is read as the text.** -/
theorem decodeText?_encodeText (s : String) : decodeText? (encodeText s) = some s := by
  rw [decodeText?, encodeText, decodeBytes?_flatMap]
  exact Text.decode?_encode s

/-- **A written parameter is read as the parameter:** its first equals sign ends the name. -/
theorem decodePair?_encodePair (p : String × String) : decodePair? (encodePair p) = some p := by
  have name : ∀ c ∈ encodeText p.1, (c != '=') = true := fun c hc =>
    bne_iff_ne.2 (ne_equals_of_isTextChar (isTextChar_of_mem hc))
  rw [decodePair?, encodePair, List.takeWhile_append_of_pos name, List.dropWhile_append_of_pos name]
  simp [decodeText?_encodeText]

/-- **A written form is read as its parameters.** -/
theorem decode?_encode {ps : List (String × String)} (h : ps ≠ []) : decode? (encode ps) = some ps := by
  have apart : ∀ cs ∈ ps.map encodePair, '&' ∉ cs := by
    intro cs hcs hc
    obtain ⟨p, -, rfl⟩ := List.mem_map.1 hcs
    obtain text | equals := mem_encodePair hc
    · exact ne_ampersand_of_isTextChar text rfl
    · cases equals
  rw [decode?, encode, List.splitOn_intercalate '&' apart (by simpa using h), List.mapM_map]
  have each : decodePair? ∘ encodePair = fun p => pure p := by
    funext p
    exact decodePair?_encodePair p
  rw [each, List.mapM_pure, List.map_id']
  rfl

end Form
end EntityQuery
