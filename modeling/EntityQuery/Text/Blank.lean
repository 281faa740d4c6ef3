/-!
# Blank characters and trimming

A character is blank if it has the white-space property or is one of the four information
separators. Trimming takes a class of characters away at both ends and leaves the middle alone;
`trimChars_eq_nil_iff` says when nothing is left, `trimChars_eq_self` when nothing is taken, and
`trimChars_append` that characters of the class at the ends do not count.
-/

namespace EntityQuery
namespace Text

/-- White space of every script, and the four information separators. -/
def isBlank (c : Char) : Bool :=
  let n := c.toNat
  (0x09 ≤ n && n ≤ 0x0D) || (0x1C ≤ n && n ≤ 0x20) || n == 0x85 || n == 0xA0 || n == 0x1680 ||
    (0x2000 ≤ n && n ≤ 0x200A) || n == 0x2028 || n == 0x2029 || n == 0x202F || n == 0x205F ||
    n == 0x3000

/-- The characters between the first and the last that is not in the class. -/
def trimChars (p : Char → Bool) (cs : List Char) : List Char :=
  (((cs.dropWhile p).reverse).dropWhile p).reverse

/-- The text without the characters of the class at its ends. -/
def trim (p : Char → Bool) (s : String) : String := String.ofList (trimChars p s.toList)

/-- The text without blanks at its ends. -/
def strip (s : String) : String := trim isBlank s

/-- Nothing is left exactly if everything is dropped. -/
theorem dropWhile_eq_nil_iff {p : Char → Bool} {cs : List Char} :
    cs.dropWhile p = [] ↔ ∀ c ∈ cs, p c = true := by
  induction cs with
  | nil => simp
  | cons c r ih =>
    by_cases h : p c = true
    · simp [h, ih]
    · simp [h]

/-- Dropping leaves a list whose first element is outside the class. -/
theorem head?_dropWhile_false {p : Char → Bool} {cs : List Char} {c : Char}
    (h : (cs.dropWhile p).head? = some c) : p c = false := by
  induction cs with
  | nil => simp at h
  | cons a r ih =>
    by_cases ha : p a = true
    · exact ih (by simpa [List.dropWhile_cons, ha] using h)
    · rw [List.dropWhile_cons, if_neg ha] at h
      cases h
      simpa using ha

/-- **Nothing is left exactly when every character is of the class.** -/
theorem trimChars_eq_nil_iff {p : Char → Bool} {cs : List Char} :
    trimChars p cs = [] ↔ ∀ c ∈ cs, p c = true := by
  rw [trimChars, List.reverse_eq_nil_iff, dropWhile_eq_nil_iff]
  constructor
  · intro h
    cases hd : cs.dropWhile p with
    | nil => exact dropWhile_eq_nil_iff.1 hd
    | cons a r =>
      have := head?_dropWhile_false (show (cs.dropWhile p).head? = some a by rw [hd]; rfl)
      simp [h a (by simp [hd])] at this
  · intro h c hc
    exact h c ((List.dropWhile_sublist p).mem (List.mem_reverse.1 hc))

/-- A list whose two ends are outside the class is left as it is. -/
theorem trimChars_eq_self {p : Char → Bool} {cs : List Char}
    (hd : ∀ c, cs.head? = some c → p c = false) (lt : ∀ c, cs.getLast? = some c → p c = false) :
    trimChars p cs = cs := by
  have keep : ∀ l : List Char, (∀ c, l.head? = some c → p c = false) → l.dropWhile p = l := by
    intro l h
    cases l with
    | nil => rfl
    | cons c r => simp [h c rfl]
  unfold trimChars
  rw [keep cs hd, keep cs.reverse (by simpa using lt), List.reverse_reverse]

/-- The last character that is left is outside the class. -/
theorem getLast?_trimChars_false {p : Char → Bool} {cs : List Char} {c : Char}
    (h : (trimChars p cs).getLast? = some c) : p c = false := by
  rw [trimChars, List.getLast?_reverse] at h
  exact head?_dropWhile_false h

/-- **Characters of the class at the ends do not count.** -/
theorem trimChars_append {p : Char → Bool} {xs ys : List Char} (cs : List Char)
    (hx : ∀ c ∈ xs, p c = true) (hy : ∀ c ∈ ys, p c = true) :
    trimChars p (xs ++ cs ++ ys) = trimChars p cs := by
  have front : (xs ++ cs ++ ys).dropWhile p = (cs ++ ys).dropWhile p := by
    rw [List.append_assoc, List.dropWhile_append_of_pos hx]
  rw [trimChars, front, trimChars, List.dropWhile_append]
  cases hd : cs.dropWhile p with
  | nil => simp [dropWhile_eq_nil_iff.2 hy]
  | cons c r =>
    have back : ∀ d ∈ ys.reverse, p d = true := fun d hd => hy d (List.mem_reverse.1 hd)
    rw [List.isEmpty_cons, if_neg Bool.false_ne_true, List.reverse_append,
      List.dropWhile_append_of_pos back]

end Text
end EntityQuery
