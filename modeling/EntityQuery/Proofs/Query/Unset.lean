import EntityQuery.Proofs.Query.History

/-!
# Fields without a value

The query of a builder has one clause for each field that is set, and a field is not set if its value
is the absent one or the empty text. So a field without a clause reads as the absent value, with one
exception: the empty text clears a field too, but it is kept and read back (`reads_null_iff`,
`exists_empty_text_read`).
-/

namespace EntityQuery
namespace Builder

open Outcome

/-- The search fields of which the query of a builder has a clause. -/
def sent (b : Builder) : List SearchField := b.fields.filter (·.isSet)

/-- The field of a name is found under its name, if no name is repeated. -/
theorem fieldOf?_of_mem {fs : List SearchField} {f : SearchField}
    (distinct : (fs.map (·.name)).Nodup) (hf : f ∈ fs) : fieldOf? fs (.text f.name) = some f := by
  have found : (fieldOf? fs (.text f.name)).isSome = true := by
    rw [fieldOf?, Value.text?, Option.bind_some, List.find?_isSome]
    exact ⟨f, hf, beq_self_eq_true _⟩
  obtain ⟨g, hg⟩ := Option.isSome_iff_exists.1 found
  obtain ⟨mem, name⟩ := fieldOf?_eq_some hg
  rw [hg, List.inj_on_of_nodup_map distinct mem hf (Option.some.inj name).symm]

/-- The value of a field is found by its name. -/
theorem getValue_of_mem {e : Entity} {fs : List SearchField} {f : SearchField}
    (distinct : (fs.map (·.name)).Nodup) (hf : f ∈ fs) :
    (ready e fs).getValue (.text f.name) = .ok f.value := by
  have found : lookUp e fs (.text f.name) = .ok f := by
    rw [lookUp, if_pos (by rfl), fieldOf?_of_mem distinct hf]
  rw [getValue, field, found]
  rfl

/-- The query of a sound builder has one clause for each field that is set. -/
theorem IsSound.exists_clauses {e : Entity} {fs : List SearchField} (h : (ready e fs).IsSound) :
    ∃ clauses, List.Forall₂ (fun f clause => f.clause = .ok clause) (ready e fs).sent clauses ∧
      (ready e fs).build = .ok (queryText e.name clauses) := by
  obtain ⟨query, hq⟩ := h.exists_build
  obtain ⟨clauses, hc, rfl⟩ := map_eq_ok.1 hq
  exact ⟨clauses, mapM_eq_ok.1 hc, hq⟩

/-- A field has no clause exactly if its value is the absent one or the empty text. -/
theorem not_mem_sent_iff {b : Builder} {f : SearchField} (hf : f ∈ b.fields) :
    f ∉ b.sent ↔ f.value = .null ∨ f.value = .text "" := by
  rw [sent, List.mem_filter, ← Value.isEmpty_iff, SearchField.isSet]
  simp [hf]

/-- After a history, a field has the empty text as its value exactly if that was assigned last. -/
theorem value_eq_empty_iff {operations : List Operation} {e : Entity} {fs : List SearchField}
    (state : fresh.run operations = ready e fs) {f : SearchField} (hf : f ∈ fs) :
    f.value = .text "" ↔ lastAssigned? (fresh.accepted operations) f.name = some (.text "") := by
  rw [run_eq_ofHistory, ofHistory] at state
  split at state
  · cases state
  · obtain ⟨rfl, rfl⟩ := Builder.ready.inj state
    obtain ⟨g, -, rfl⟩ := List.mem_map.1 hf
    rw [tracedField]
    cases lastAssigned? (fresh.accepted operations) g.name with
    | none => simp
    | some v => simp

/-- **What reads as absent.** After every history of a ready builder, a field has no clause in the query
exactly if it reads as the absent value or as the empty text. So a field reads as absent exactly if it
has no clause, unless the empty text was assigned to it last. -/
theorem reads_null_iff {operations : List Operation} {e : Entity} {fs : List SearchField}
    (state : fresh.run operations = ready e fs) :
    (∃ clauses, List.Forall₂ (fun f clause => f.clause = .ok clause)
        (fresh.run operations).sent clauses ∧
        (fresh.run operations).build = .ok (queryText e.name clauses)) ∧
      (fresh.run operations).searchFields = .ok fs ∧
      fs.map (·.name) = e.searchable.map (·.name) ∧
      ∀ f ∈ fs, (fresh.run operations).getValue (.text f.name) = .ok f.value ∧
        (f ∉ (fresh.run operations).sent ↔ f.isSet = false) ∧
        (f ∉ (fresh.run operations).sent ↔ f.value = .null ∨ f.value = .text "") ∧
        ((f.value = .null ↔ f ∉ (fresh.run operations).sent) ↔
          lastAssigned? (fresh.accepted operations) f.name ≠ some (.text "")) := by
  have sound := isSound_run operations
  rw [state] at sound
  rw [state]
  refine ⟨sound.exists_clauses, rfl, sound.names_eq, fun f hf => ?_⟩
  have unsent : f ∉ (ready e fs).sent ↔ f.value = .null ∨ f.value = .text "" := not_mem_sent_iff hf
  refine ⟨getValue_of_mem sound.nodup hf, ?_, unsent, ?_⟩
  · rw [unsent, ← Value.isEmpty_iff, SearchField.isSet, Bool.not_eq_false']
  · rw [unsent, Ne, ← value_eq_empty_iff state hf]
    constructor
    · intro law read
      cases read.symm.trans (law.2 (.inr read))
    · intro other
      simp [other]

/-- Assignments that leave one field absent, one empty and one set. -/
def clearedHistory : List Operation :=
  [.start customer, .setValue (.text "name") (.text "a"), .setValue (.text "name") (.text ""),
    .setValues [(.text "active", .bool false), (.text "city", .text "x")],
    .setValue (.text "city") .null]

/-- Of the two fields without a clause, the one that was cleared with the absent value reads so. -/
theorem reads_null_clearedHistory :
    ∃ fs, fresh.run clearedHistory = ready customer fs ∧
      (fresh.run clearedHistory).getValue (.text "city") = .ok .null ∧
      (fresh.run clearedHistory).getValue (.text "name") = .ok (.text "") ∧
      (fresh.run clearedHistory).build = .ok "select * from customer where active=false;" := by
  have state : fresh.run clearedHistory = ready customer
      [⟨"name", .string, .text ""⟩, ⟨"active", .boolean, .bool false⟩,
        ⟨"city", .string, .null⟩] := rfl
  obtain ⟨-, -, -, fields⟩ := reads_null_iff state
  refine ⟨_, state, ?_, ?_, rfl⟩
  · exact (fields ⟨"city", .string, .null⟩ (by simp)).1
  · exact (fields ⟨"name", .string, .text ""⟩ (by simp)).1

/-- Not every field without a clause reads as absent: one that is cleared with the empty text does
not. -/
theorem exists_empty_text_read :
    ¬ ∀ (operations : List Operation) (e : Entity) (fs : List SearchField),
      fresh.run operations = ready e fs → ∀ f ∈ fs,
        ((fresh.run operations).getValue (.text f.name) = .ok .null ↔
          f ∉ (fresh.run operations).sent) := by
  intro law
  have state : fresh.run [.start customer, .setValue (.text "name") (.text "")] = ready customer
      [⟨"name", .string, .text ""⟩, ⟨"active", .boolean, .null⟩, ⟨"city", .string, .null⟩] := rfl
  have unsent : ⟨"name", .string, .text ""⟩ ∉
      (fresh.run [.start customer, .setValue (.text "name") (.text "")]).sent := by
    simp [state, sent, fields, SearchField.isSet, Value.isEmpty]
  have reads := (law _ _ _ state ⟨"name", .string, .text ""⟩ (by simp)).2 unsent
  cases reads

end Builder
end EntityQuery
