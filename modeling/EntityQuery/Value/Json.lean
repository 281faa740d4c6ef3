import EntityQuery.Value.Basic

/-!
# JSON values

A JSON value is null, a truth value, a number or a text, a list of JSON values, or an object: a mapping
whose keys are texts and whose values are JSON values. Raw bytes, dates, field types and texts with
halves of pairs are none. What stands in a JSON value is one (`Value.isJson_of_get?`,
`Value.itemsJson_iff`).
-/

namespace EntityQuery
namespace Value

/-- Whether a value is a text and nothing else. -/
def isPlainText : Value → Bool
  | text _ => true
  | _ => false

mutual

/-- Whether a value is a JSON value. -/
def isJson : Value → Bool
  | null | bool _ | int _ | float _ | text _ => true
  | list xs => itemsJson xs
  | mapping es => entriesJson es
  | ragged _ | bytes _ | date _ | timestamp _ | fieldType _ => false

/-- Whether all items of a list are JSON values. -/
def itemsJson : List Value → Bool
  | [] => true
  | x :: xs => isJson x && itemsJson xs

/-- Whether all keys of a mapping are texts and all its values JSON values. -/
def entriesJson : List (Value × Value) → Bool
  | [] => true
  | (k, v) :: es => isPlainText k && isJson v && entriesJson es

end

/-- The items of a list are JSON values exactly if each of them is. -/
theorem itemsJson_iff {xs : List Value} : itemsJson xs = true ↔ ∀ x ∈ xs, x.isJson = true := by
  induction xs with
  | nil => simp [itemsJson]
  | cons x xs ih => simp [itemsJson, ih]

/-- The entries of a mapping are JSON exactly if every key is a text and every value a JSON value. -/
theorem entriesJson_iff {es : Entries} :
    entriesJson es = true ↔ ∀ e ∈ es, e.1.isPlainText = true ∧ e.2.isJson = true := by
  induction es with
  | nil => simp [entriesJson]
  | cons e es ih => simp [entriesJson, ih]

/-- **What an object holds is a JSON value.** -/
theorem isJson_of_get? {es : Entries} {key : String} {v : Value} (h : (mapping es).isJson = true)
    (hv : Entries.get? es key = some v) : v.isJson = true := by
  rw [isJson, entriesJson_iff] at h
  obtain ⟨e, he, rfl⟩ := Option.map_eq_some_iff.1 hv
  exact (h e (List.mem_of_find?_eq_some he)).2

end Value
end EntityQuery
