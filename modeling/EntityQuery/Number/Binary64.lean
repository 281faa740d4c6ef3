import EntityQuery.Number.Decimal

/-!
# Binary floating point numbers of 64 bits

A number is not-a-number, an infinity, or `± significand · 2 ^ exponent` in its one canonical
form: the significand has at most 53 bits, and exactly 53 unless the exponent is the least one.
Zero has two signs. Not-a-number carries a mark by which one can be told from another; its text
does not show it. All arithmetic here is exact arithmetic on natural numbers.

`ofDecimal` rounds a decimal to the nearest number, and a tie goes to the even significand.
-/

namespace EntityQuery

/-- The least exponent of a finite number. -/
def leastExponent : Int := -1074

/-- The greatest exponent of a finite number. -/
def greatestExponent : Int := 971

/-- The canonical significands and exponents. -/
def IsCanonical (significand : Nat) (exponent : Int) : Prop :=
  significand < twoTo 53 ∧ leastExponent ≤ exponent ∧ exponent ≤ greatestExponent ∧
    (twoTo 52 ≤ significand ∨ exponent = leastExponent)

instance (m : Nat) (q : Int) : Decidable (IsCanonical m q) := by
  unfold IsCanonical; infer_instance

/-- A binary floating point number of 64 bits. -/
inductive Binary64 where
  | nan (mark : Nat)
  | infinite (negative : Bool)
  | finite (negative : Bool) (significand : Nat) (exponent : Int)
      (canonical : IsCanonical significand exponent)
deriving DecidableEq

namespace Binary64

/-- Zero of the given sign. -/
def zero (negative : Bool) : Binary64 := finite negative 0 leastExponent (by decide)

instance : Inhabited Binary64 := ⟨zero false⟩

/-- The finite number of that significand and exponent; what has no canonical form lies beyond the
largest finite number, and is infinite. -/
def ofParts (negative : Bool) (significand : Nat) (exponent : Int) : Binary64 :=
  if h : IsCanonical significand exponent then finite negative significand exponent h
  else infinite negative

/-- The quotient rounded to the nearest whole number; a tie goes to the even one. -/
def roundQuotient (num den : Nat) : Nat :=
  let floor := num / den
  let rest := num % den
  if 2 * rest < den then floor
  else if den < 2 * rest then floor + 1
  else if floor % 2 = 0 then floor else floor + 1

/-- The fraction `num / den` divided by `2 ^ q`. -/
def scale (num den : Nat) (q : Int) : Nat × Nat :=
  if 0 ≤ q then (num, den * twoTo q.toNat) else (num * twoTo (-q).toNat, den)

/-- The exponent at which the positive fraction `num / den` has a whole part of 53 bits, or the
least exponent if that is greater. -/
def exponentFor (num den : Nat) : Int :=
  let q : Int := (num.log2 : Int) - den.log2 - 52
  let s := scale num den q
  max leastExponent (if s.1 / s.2 < twoTo 52 then q - 1 else q)

/-- The number nearest to the fraction `num / den`. -/
def ofFraction (negative : Bool) (num den : Nat) : Binary64 :=
  if num = 0 then zero negative
  else
    let q := exponentFor num den
    let s := scale num den q
    let m := roundQuotient s.1 s.2
    if m = twoTo 53 then ofParts negative (twoTo 52) (q + 1) else ofParts negative m q

/-- The number nearest to a decimal. Far outside the range of the finite numbers the answer does
not depend on the digits, so their power of ten is not computed. -/
def ofDecimal (d : Decimal) : Binary64 :=
  let magnitude := (Nat.toDigits 10 d.coefficient).length + d.exponent
  if d.coefficient = 0 ∨ magnitude < -400 then zero d.negative
  else if 400 < magnitude then infinite d.negative
  else if 0 ≤ d.exponent then ofFraction d.negative (d.coefficient * tenTo d.exponent.toNat) 1
  else ofFraction d.negative d.coefficient (tenTo (-d.exponent).toNat)

/-- Whether the number is neither infinite nor not-a-number. -/
def isFinite : Binary64 → Bool
  | finite .. => true
  | _ => false

/-- Whether the number is a zero of either sign. -/
def isZero : Binary64 → Bool
  | finite _ m _ _ => m == 0
  | _ => false

/-- Whether the number is not above zero, in an order where not-a-number compares with nothing. -/
def atMostZero : Binary64 → Bool
  | nan _ => false
  | infinite negative => negative
  | finite negative m _ _ => negative || m == 0

/-- The whole number that a finite number without a fraction is. -/
def whole? : Binary64 → Option Int
  | finite negative m q _ =>
    let signed (n : Nat) : Int := if negative then -(n : Int) else n
    if 0 ≤ q then some (signed (m * twoTo q.toNat))
    else if m % twoTo (-q).toNat = 0 then some (signed (m / twoTo (-q).toNat)) else none
  | _ => none

/-- Equality of numbers, for which the two zeros are one. Not-a-number is the same only as one of
its own mark. -/
def same (x y : Binary64) : Bool := x == y || (x.isZero && y.isZero)

end Binary64
end EntityQuery
