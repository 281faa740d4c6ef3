import EntityQuery.Proofs.Query.Step
import EntityQuery.Proofs.Schema.Refusal

/-!
# The initialization of builders

A builder is initialized with the description of an entity exactly if the description can be read,
and is refused as the description is (`startFrom_eq_error`). So a malformed description is a metadata
error unless its own complaint or its own name cannot be written (`fails_as_metadata_iff`). A builder
that is not initialized stays as it was.
-/

namespace EntityQuery
namespace Builder

open Outcome

variable {b : Builder} {v : Value} {e : Error}

/-- An entity is refused with a metadata error. -/
theorem kind_of_start {entity : Entity} (h : b.start entity = .error e) : e.kind = .metadata := by
  rw [start_eq] at h
  split at h
  · obtain rfl := Except.error.inj h
    rfl
  · cases h

/-- **A description that is given is refused as it is read:** what is read has a name. -/
theorem startFrom_eq_error (given : v ≠ .null) :
    b.startFrom v = .error e ↔ Entity.read v = .error e := by
  have whole : ¬v.isNull = true := fun absent => given (Value.isNull_iff.1 absent)
  rw [startFrom_eq, if_neg whole, bind_eq_error]
  constructor
  · rintro (refused | ⟨entity, read, unnamed⟩)
    · exact refused
    · have named := start_eq_ok (b := b).2 ⟨Entity.name_ne_of_read read, rfl⟩
      cases unnamed.symm.trans named
  · exact .inl

/-- A builder refuses a description with metadata errors only, exactly if reading it does. -/
theorem startFrom_fails_as_metadata_iff :
    (∀ e, b.startFrom v = .error e → e.kind = .metadata) ↔ Schema.refusalKind v = .metadata := by
  by_cases given : v = .null
  · subst given
    refine iff_of_true (fun e absent => ?_) rfl
    obtain rfl := Except.error.inj absent
    rfl
  · simp only [startFrom_eq_error given]
    exact Entity.read_fails_as_metadata_iff

/-- **Malformed metadata is a metadata error, if it can be told.** A description fails with metadata
errors only, exactly if it names no type with half of a pair and its name can be written. A catalog
does, exactly if the first of its descriptions that is refused does, and a builder in any state does,
exactly if its description does; a builder that is given an entity always does. What is raised otherwise is an
error of the encoding, or of the limit on digits. An initialization that fails, as any operation,
leaves the builder as it was. A name that is no text is taken to be nested no deeper than the
interpreter recurses when it writes it, as in `Value.isWritable`. -/
theorem fails_as_metadata_iff (b : Builder) (v : Value) :
    (∀ e, Entity.read v = .error e → e.kind = Schema.refusalKind v) ∧
    ((∀ e, Entity.read v = .error e → e.kind = .metadata) ↔
      Schema.namesRaggedType v = false ∧ Schema.hasWritableName v = true) ∧
    ((∀ e, Catalog.read v = .error e → e.kind = .metadata) ↔
      ∀ d, Schema.firstRefused? v = some d →
        Schema.namesRaggedType d = false ∧ Schema.hasWritableName d = true) ∧
    ((∀ e, b.startFrom v = .error e → e.kind = .metadata) ↔
      Schema.namesRaggedType v = false ∧ Schema.hasWritableName v = true) ∧
    (∀ entity e, b.start entity = .error e → e.kind = .metadata) ∧
    ∀ o e, (b.step o).1 = .error e → (b.step o).2 = b := by
  refine ⟨fun e => Entity.kind_of_read, ?_, ?_, ?_, fun entity e => kind_of_start, fun o e failed => ?_⟩
  · exact Entity.read_fails_as_metadata_iff.trans Schema.refusalKind_eq_metadata_iff
  · simp only [Catalog.read_fails_as_metadata_iff, Schema.refusalKind_eq_metadata_iff]
  · exact startFrom_fails_as_metadata_iff.trans Schema.refusalKind_eq_metadata_iff
  · exact step_of_refused (isOk_eq_false_iff.2 ⟨e, failed⟩)

/-- A description whose name is a number of too many digits. -/
def longName : Value := .mapping [(.text "name", .tooLarge)]

/-- It is refused with the error of the limit on digits, and so is a builder that is given it. -/
theorem exists_foreign_description :
    ∃ e, Entity.read longName = .error e ∧ fresh.startFrom longName = .error e ∧ e.kind = .value := by
  have fieldless : Entries.get? [(.text "name", .tooLarge)] "fields" = none := rfl
  have plain : Schema.namesRaggedType longName = false := by
    rw [longName, Schema.namesRaggedType, fieldless]
    exact Bool.and_false _
  have unwritable : Schema.hasWritableName longName = false := Value.isWritable_tooLarge
  have kind : Schema.refusalKind longName = .value := by
    rw [Schema.refusalKind, plain, unwritable]
    rfl
  obtain ⟨e, refused⟩ := Entity.exists_read_error (v := longName) (by rw [kind]; decide)
  have given : longName ≠ .null := fun absent => by cases absent
  exact ⟨e, refused, (startFrom_eq_error given).2 refused, (Entity.kind_of_read refused).trans kind⟩

end Builder
end EntityQuery
