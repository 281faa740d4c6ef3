/-!
# Halves of pairs

Some formats write a character beyond the first 65536 as a pair of halves, and so can write a half
alone, which is no character. What is written is then a list of code points, and a text only if no
half stands among them. Every text is the text of its code points: `ofPoints?_points`. What is no
text cannot be written as bytes, and the first run of halves (`firstRun`) is to blame.
-/

namespace EntityQuery
namespace Text

/-- Whether a code point is the first half of a pair. -/
def isHighHalf (n : Nat) : Bool := 0xD800 ≤ n && n < 0xDC00

/-- Whether a code point is the second half of a pair. -/
def isLowHalf (n : Nat) : Bool := 0xDC00 ≤ n && n < 0xE000

/-- Whether a code point is a half. -/
def isHalf (n : Nat) : Bool := isHighHalf n || isLowHalf n

/-- The code point of a pair. -/
def pairPoint (high low : Nat) : Nat := 0x10000 + (high - 0xD800) * 0x400 + (low - 0xDC00)

/-- The text of code points, if no half stands among them. -/
def ofPoints? (points : List Nat) : Option String :=
  if points.any isHalf then none else some (String.ofList (points.map Char.ofNat))

/-- The code points of a text. -/
def points (s : String) : List Nat := s.toList.map Char.toNat

/-- The text of code points, with a replacement for every half. -/
def replaced (points : List Nat) : String :=
  String.ofList (points.map fun n => if isHalf n then '\uFFFD' else Char.ofNat n)

/-- The first run of halves among code points: the number of code points before it, and the run. -/
def firstRun (points : List Nat) : Nat × List Nat :=
  let before := points.takeWhile fun n => !isHalf n
  (before.length, (points.drop before.length).takeWhile isHalf)

example : firstRun [0x78, 0xD800, 0xDC00, 0x78, 0xD800] = (1, [0xD800, 0xDC00]) := by decide

/-- No character is a half. -/
theorem isHalf_toNat (c : Char) : isHalf c.toNat = false := by
  have h : c.toNat.isValidChar := c.valid
  simp only [isHalf, isHighHalf, isLowHalf, Bool.or_eq_false_iff, Bool.and_eq_false_iff,
    decide_eq_false_iff_not]
  unfold Nat.isValidChar at h
  omega

/-- **Every text is the text of its code points.** -/
@[simp] theorem ofPoints?_points (s : String) : ofPoints? (points s) = some s := by
  have h : (points s).any isHalf = false := by
    simp [points, isHalf_toNat]
  have hm : (points s).map Char.ofNat = s.toList := by
    simp [points, List.map_map, Function.comp_def, Char.ofNat_toNat]
  simp [ofPoints?, h, hm]

end Text
end EntityQuery
