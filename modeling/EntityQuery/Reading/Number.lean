import EntityQuery.Number.Binary64
import EntityQuery.Reading.Fault
import EntityQuery.Text.Blank
import EntityQuery.Text.Digit
import EntityQuery.Text.Letter

/-!
# Reading numbers

Numbers may stand between blanks (the information separators are no blanks here), begin with a
sign, use the decimal digits of any script, and have single underscores between digits. A whole
number has at most `digitLimit` digits. A floating point number may have a point and an exponent,
or be one of the words for infinity and not-a-number in any case; it is rounded to the nearest
number of 64 bits.
-/

namespace EntityQuery
namespace Reading

open Text (plainDigit isBlank trimChars)

/-- The blanks that may surround a number. -/
def isNumberBlank (c : Char) : Bool :=
  if c.toNat < 128 then c = ' ' || ('\t' ≤ c && c ≤ '\r') else isBlank c

/-- A number text without the blanks around it and with plain digits. -/
def numberChars (s : String) : List Char := (trimChars isNumberBlank s.toList).map plainDigit

/-- The digits of a run in which single underscores may stand between two digits. -/
def digitRun? : List Char → Option (List Char)
  | [] => none
  | [c] => if c.isDigit then some [c] else none
  | c :: '_' :: r => if c.isDigit then (digitRun? r).map (c :: ·) else none
  | c :: d :: r => if c.isDigit then (digitRun? (d :: r)).map (c :: ·) else none

/-- The whole number that a text denotes. A run of too many digits is refused for their number,
even if no whole number follows. -/
def whole (s : String) : Except Fault Int :=
  let signed := Decimal.splitSign (numberChars s)
  let run := signed.2.takeWhile fun c => c.isDigit || c == '_'
  match digitRun? run with
  | none => .error (.notWhole s)
  | some ds =>
    if digitLimit < ds.length then .error (.tooManyDigits ds.length)
    else if run.length < signed.2.length then .error (.notWhole s)
    else
      let n : Int := Nat.ofDigitChars 10 ds 0
      .ok (if signed.1 then -n else n)

/-- The text without its underscores, each of which must stand between two digits. The flag says
whether a digit came before. -/
def dropUnderscores? : (afterDigit : Bool) → List Char → Option (List Char)
  | _, [] => some []
  | afterDigit, c :: r =>
    if c = '_' then
      if afterDigit && (r.head?.any Char.isDigit) then dropUnderscores? false r else none
    else (dropUnderscores? c.isDigit r).map (c :: ·)

/-- The words for the numbers that have no digits. -/
def specialNumber? (negative : Bool) (word : List Char) : Option Binary64 :=
  let word := String.ofList (word.map Char.toLower)
  if word = "inf" || word = "infinity" then some (.infinite negative)
  else if word = "nan" then some (.nan 0)
  else none

/-- The floating point number that a text denotes. -/
def number (s : String) : Except Fault Binary64 :=
  match dropUnderscores? false (numberChars s) with
  | none => .error (.notNumber s)
  | some cs =>
    let signed := Decimal.splitSign cs
    match specialNumber? signed.1 signed.2 with
    | some x => .ok x
    | none => match Decimal.read? cs with
      | some d => .ok (Binary64.ofDecimal d)
      | none => .error (.notNumber s)

/-- The words for the two truth values, in any case. -/
def truthValue (s : String) : Except Fault Bool :=
  let word := Text.lower s
  if word = "true" || word = "1" || word = "yes" then .ok true
  else if word = "false" || word = "0" || word = "no" then .ok false
  else .error .notTruthValue

/-- The decimal text of a whole number, none if it has too many digits to be written. -/
def wholeText? (n : Int) : Option String :=
  if n.natAbs < tenTo digitLimit then some n.repr else none

end Reading
end EntityQuery
