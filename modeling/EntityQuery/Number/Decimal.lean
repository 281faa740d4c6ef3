/-!
# Decimal numbers as they are written

A decimal is a sign, a coefficient and a power of ten. Two decimals can denote one number
(`1 · 10^1` and `10 · 10^0`), and zero has both signs: the written form keeps them apart.

`positional` writes a decimal without an exponent, with at least one digit on each side of a point.
`read?` reads the digits, the optional point and the optional exponent of a number text.
-/

namespace EntityQuery

/-- A power of two. -/
def twoTo (n : Nat) : Nat := Nat.pow 2 n

/-- A power of ten. -/
def tenTo (n : Nat) : Nat := Nat.pow 10 n

/-- The number `± coefficient · 10 ^ exponent`. -/
structure Decimal where
  negative : Bool
  coefficient : Nat
  exponent : Int
deriving DecidableEq, Repr, Inhabited

namespace Decimal

/-- The digits of `c · 10 ^ e` without an exponent: zeros follow the digits of `c`, or a point
stands before the last `-e` of them. -/
def positionalDigits (c : Nat) (e : Int) : List Char :=
  let ds := Nat.toDigits 10 c
  if 0 ≤ e then ds ++ List.replicate e.toNat '0'
  else
    let places := (-e).toNat
    let padded := List.replicate (places + 1 - ds.length) '0' ++ ds
    padded.take (padded.length - places) ++ '.' :: padded.drop (padded.length - places)

/-- The written form of a sign. -/
def signText (negative : Bool) : List Char := if negative then ['-'] else []

/-- The positional text of a decimal. -/
def positional (d : Decimal) : List Char :=
  signText d.negative ++ positionalDigits d.coefficient d.exponent

/-- The scientific text of `± c · 10 ^ e`: one digit before the point, and an exponent with a sign
and at least two digits. -/
def scientific (d : Decimal) : List Char :=
  let ds := Nat.toDigits 10 d.coefficient
  let e := d.exponent + (ds.length - 1 : Nat)
  let places := Nat.toDigits 10 e.natAbs
  signText d.negative ++ ds.take 1 ++ (if ds.length = 1 then [] else '.' :: ds.drop 1) ++
    'e' :: (if e < 0 then '-' else '+') :: List.replicate (2 - places.length) '0' ++ places

/-- A leading sign, and what follows it. -/
def splitSign : List Char → Bool × List Char
  | '-' :: cs => (true, cs)
  | '+' :: cs => (false, cs)
  | cs => (false, cs)

/-- An exponent: an optional sign and at least one digit. -/
def readExponent? (cs : List Char) : Option Int :=
  let (negative, ds) := splitSign cs
  if ds.isEmpty || !ds.all Char.isDigit then none
  else
    let n : Int := Nat.ofDigitChars 10 ds 0
    some (if negative then -n else n)

/-- A decimal text: an optional sign, digits with an optional point among or beside them, and an
optional exponent. -/
def read? (cs : List Char) : Option Decimal :=
  let (negative, cs) := splitSign cs
  let whole := cs.takeWhile Char.isDigit
  let rest := cs.dropWhile Char.isDigit
  let (fraction, rest) := match rest with
    | '.' :: r => (r.takeWhile Char.isDigit, r.dropWhile Char.isDigit)
    | r => ([], r)
  if whole.isEmpty && fraction.isEmpty then none
  else
    let exponent? := match rest with
      | [] => some 0
      | c :: r => if c = 'e' ∨ c = 'E' then readExponent? r else none
    exponent?.map fun e =>
      ⟨negative, Nat.ofDigitChars 10 (whole ++ fraction) 0, e - fraction.length⟩

example : read? "-12.50e3".toList = some ⟨true, 1250, 1⟩ := by decide
example : read? ".".toList = none ∧ read? "1e".toList = none := by decide
example : positional ⟨false, 15, -1⟩ = "1.5".toList ∧ positional ⟨true, 1, -3⟩ = "-0.001".toList ∧
    positional ⟨false, 12, 3⟩ = "12000".toList := by decide
example : scientific ⟨false, 15, 19⟩ = "1.5e+20".toList ∧ scientific ⟨true, 1, -7⟩ = "-1e-07".toList := by
  decide

end Decimal
end EntityQuery
