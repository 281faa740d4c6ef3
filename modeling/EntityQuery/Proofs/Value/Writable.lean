import EntityQuery.Value.Text

/-!
# Which values can be written

A value can be written if no whole number in it, however deep, has more digits than may be written.
`isSome_inspect?` and `isSome_display?` say that nothing else stands in the way of its two texts.
The depth of a value is no obstacle here: a value is taken to be nested no deeper than the interpreter
recurses when it writes one, which it refuses beyond that with an error of its own.
-/

namespace EntityQuery
namespace Value

mutual

/-- Whether every whole number in a value has few enough digits to be written. How deep the value is
nested does not count; the interpreter's limit on recursion is left out. -/
def isWritable : Value → Bool
  | int n => n.natAbs < tenTo Reading.digitLimit
  | list xs => itemsWritable xs
  | mapping es => entriesWritable es
  | _ => true

/-- Whether this holds of every item of a list. -/
def itemsWritable : List Value → Bool
  | [] => true
  | x :: xs => isWritable x && itemsWritable xs

/-- Whether this holds of every key and every value of a mapping. -/
def entriesWritable : List (Value × Value) → Bool
  | [] => true
  | (k, v) :: es => isWritable k && isWritable v && entriesWritable es

end

/-- The items of a list can be written exactly if each of them can. -/
theorem itemsWritable_iff {xs : List Value} :
    itemsWritable xs = true ↔ ∀ x ∈ xs, x.isWritable = true := by
  induction xs with
  | nil => simp [itemsWritable]
  | cons x xs ih => simp [itemsWritable, ih]

/-- The entries of a mapping can be written exactly if every key and every value can. -/
theorem entriesWritable_iff {es : Entries} :
    entriesWritable es = true ↔ ∀ e ∈ es, e.1.isWritable = true ∧ e.2.isWritable = true := by
  induction es with
  | nil => simp [entriesWritable]
  | cons e es ih => simp [entriesWritable, ih]

/-- A whole number can be written exactly if it has few enough digits. -/
theorem isWritable_int (n : Int) :
    (int n).isWritable = decide (n.natAbs < tenTo Reading.digitLimit) := by
  rw [isWritable]

/-- A whole number is written unless it has too many digits. -/
theorem isSome_wholeText? (n : Int) : (Reading.wholeText? n).isSome = (int n).isWritable := by
  rw [isWritable_int, Reading.wholeText?]
  split <;> simp_all

/-- The least whole number of too many digits. -/
def tooLarge : Value := int (tenTo Reading.digitLimit : Nat)

/-- It cannot be written. -/
theorem isWritable_tooLarge : tooLarge.isWritable = false := by
  rw [tooLarge, isWritable_int, Int.natAbs_natCast, decide_eq_false_iff_not]
  exact Nat.lt_irrefl _

mutual

/-- **A value has a text that shows its kind exactly if it can be written.** -/
theorem isSome_inspect? : ∀ v : Value, v.inspect?.isSome = v.isWritable
  | int n => isSome_wholeText? n
  | list xs => by
    rw [inspect?, Option.isSome_map, isSome_inspectItems? xs, isWritable]
  | mapping es => by
    rw [inspect?, Option.isSome_map, isSome_inspectEntries? es, isWritable]
  | null | bool _ | float _ | text _ | ragged _ | bytes _ | date _ | timestamp _ | fieldType _ => rfl

/-- The items of a list have a text exactly if they can be written. -/
theorem isSome_inspectItems? : ∀ xs : List Value, (inspectItems? xs).isSome = itemsWritable xs
  | [] => rfl
  | x :: xs => by
    have hx := isSome_inspect? x
    have hxs := isSome_inspectItems? xs
    rw [inspectItems?, itemsWritable, ← hx, ← hxs]
    cases inspect? x <;> simp

/-- The entries of a mapping have a text exactly if they can be written. -/
theorem isSome_inspectEntries? : ∀ es : List (Value × Value),
    (inspectEntries? es).isSome = entriesWritable es
  | [] => rfl
  | (k, v) :: es => by
    have hk := isSome_inspect? k
    have hv := isSome_inspect? v
    have hes := isSome_inspectEntries? es
    rw [inspectEntries?, entriesWritable, ← hk, ← hv, ← hes]
    cases inspect? k <;> cases inspect? v <;> simp

end

/-- **A value has a plain text exactly if it can be written.** -/
theorem isSome_display? (v : Value) : v.display?.isSome = v.isWritable := by
  cases v with
  | text | ragged | fieldType | date | timestamp => rfl
  | _ => exact isSome_inspect? _

/-- A text shows itself. -/
theorem display?_of_text? {v : Value} {s : String} (h : v.text? = some s) :
    v.display? = some s := by
  cases v with
  | text | fieldType => exact h
  | _ => cases h

/-- A whole number that can be written shows its digits. -/
theorem display?_int {n : Int} (h : (int n).isWritable = true) :
    (int n).display? = some n.repr := by
  rw [isWritable_int, decide_eq_true_eq] at h
  show Reading.wholeText? n = _
  rw [Reading.wholeText?, if_pos h]

end Value
end EntityQuery
