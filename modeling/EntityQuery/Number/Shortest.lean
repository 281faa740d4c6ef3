import EntityQuery.Number.Binary64

/-!
# The shortest decimal of a floating point number

A finite number is printed with the fewest significant digits that read back as the same number,
and among those with the nearest; a tie goes to the even last digit. For one, two, … seventeen
digits the two neighbours of the number on the decimal grid are tried, so the first grid with a hit
decides. Seventeen digits always suffice; the exact expansion stands behind them, so that a result
is at hand without that fact.

The main statement is `readsAs_of_onGrid?`: a decimal found on a grid reads back.
-/

namespace EntityQuery
namespace Binary64

/-- `c · 10 ^ e` with the zeros at the end of `c` moved into the exponent. -/
def dropZeros (c : Nat) (e : Int) : Nat × Int :=
  if h : c ≠ 0 ∧ c % 10 = 0 then dropZeros (c / 10) (e + 1) else (c, e)
termination_by c
decreasing_by omega

/-- A fraction divided by `10 ^ g`. -/
def scaleTen (num den : Nat) (g : Int) : Nat × Nat :=
  if 0 ≤ g then (num, den * tenTo g.toNat) else (num * tenTo (-g).toNat, den)

/-- The number of digits before the point of the positive fraction `num / den`, negative if zeros
follow the point. -/
def digitsBefore (num den : Nat) : Int :=
  if den ≤ num then (Nat.toDigits 10 (num / den)).length
  else 1 - ((Nat.toDigits 10 (den / num)).length : Int)

/-- The magnitude `m · 2 ^ q` as a fraction. -/
def fraction (m : Nat) (q : Int) : Nat × Nat :=
  if 0 ≤ q then (m * twoTo q.toNat, 1) else (m, twoTo (-q).toNat)

/-- Whether the positive decimal `c · 10 ^ e` reads as the number `m · 2 ^ q`. -/
def readsAs (m : Nat) (q : Int) (c : Nat) (e : Int) : Bool :=
  match ofDecimal ⟨false, c, e⟩ with
  | finite false m' q' _ => m' == m && q' == q
  | _ => false

/-- Of the two neighbours of a number on a decimal grid, `below` and the next, the one that reads
back, and the nearer if both do; `rest / unit` is the distance from the lower one in grid steps. -/
def pick? (m : Nat) (q g : Int) (below rest unit : Nat) : Option (Nat × Int) :=
  if readsAs m q below g then
    if readsAs m q (below + 1) g && !(2 * rest < unit || (2 * rest == unit && below % 2 == 0)) then
      some (below + 1, g)
    else some (below, g)
  else if readsAs m q (below + 1) g then some (below + 1, g)
  else none

/-- What is picked reads back. -/
theorem readsAs_of_pick? {m : Nat} {q g : Int} {below rest unit c : Nat} {e : Int}
    (h : pick? m q g below rest unit = some (c, e)) : readsAs m q c e = true := by
  unfold pick? at h
  split at h
  · next h1 =>
    split at h <;> simp only [Option.some.injEq, Prod.mk.injEq] at h <;> obtain ⟨rfl, rfl⟩ := h
    · next h2 => exact (Bool.and_eq_true_iff.1 h2).1
    · exact h1
  · split at h
    · next h2 =>
      simp only [Option.some.injEq, Prod.mk.injEq] at h
      obtain ⟨rfl, rfl⟩ := h
      exact h2
    · simp at h

/-- The decimal of that many digits that reads back as `m · 2 ^ q`, the nearer of two. -/
def onGrid? (m : Nat) (q : Int) (digits : Nat) : Option (Nat × Int) :=
  let v := fraction m q
  let g := digitsBefore v.1 v.2 - digits
  let s := scaleTen v.1 v.2 g
  pick? m q g (s.1 / s.2) (s.1 % s.2) s.2

/-- **A decimal found on a grid reads back.** -/
theorem readsAs_of_onGrid? {m n : Nat} {q : Int} {c : Nat} {e : Int}
    (h : onGrid? m q n = some (c, e)) : readsAs m q c e = true :=
  readsAs_of_pick? h

/-- Every digit of the number `m · 2 ^ q`. -/
def expansion (m : Nat) (q : Int) : Nat × Int :=
  if 0 ≤ q then (m * twoTo q.toNat, 0) else (m * Nat.pow 5 (-q).toNat, q)

/-- The shortest coefficient and exponent of the positive number `m · 2 ^ q`. -/
def shortest (m : Nat) (q : Int) : Nat × Int :=
  let d := ((List.range 17).findSome? fun n => onGrid? m q (n + 1)).getD (expansion m q)
  dropZeros d.1 d.2

/-- Whether a decimal with that many digits and that exponent is printed without an exponent:
the first digit stands for a power of ten from `10 ^ -4` below `10 ^ 16`. -/
def isPositional (c : Nat) (e : Int) : Bool :=
  let first := e + (Nat.toDigits 10 c).length - 1
  decide (-4 ≤ first) && decide (first < 16)

/-- The decimal that the text of a finite number denotes, written with the same digits: a whole
number of the positional range has one zero after the point. -/
def toDecimal (negative : Bool) (m : Nat) (q : Int) : Decimal :=
  if m = 0 then ⟨negative, 0, -1⟩
  else
    let d := shortest m q
    if isPositional d.1 d.2 && decide (0 ≤ d.2) then ⟨negative, d.1 * tenTo (d.2.toNat + 1), -1⟩
    else ⟨negative, d.1, d.2⟩

/-- The text of a number. -/
def text : Binary64 → String
  | nan _ => "nan"
  | infinite negative => if negative then "-inf" else "inf"
  | finite negative m q _ =>
    let d := toDecimal negative m q
    String.ofList (if m = 0 || isPositional d.coefficient d.exponent then d.positional
      else d.scientific)

end Binary64
end EntityQuery
