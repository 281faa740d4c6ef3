import EntityQuery.Proofs.Schema.Refusal

/-!
# Which element of a list counts

A catalog is read from a list of descriptions, all of them or none: if all can be read, the catalog has
their entities in their order (`Catalog.read_eq_ok_iff`), and otherwise the first description that is
refused decides the error (`Catalog.read_eq_error_iff`). Of several entities of one name the first is
found (`Catalog.find?_eq_some_iff`). What is first is the same in both: an element of a list with a
property that no element before it has (`IsFirst`).
-/

namespace EntityQuery

open Outcome

section

variable {α : Type} {P : α → Prop} {xs : List α} {x : α}

/-- Whether an element has a property, and stands in a list at the least index of those that do. -/
def IsFirst (P : α → Prop) (xs : List α) (x : α) : Prop :=
  P x ∧ ∃ i : ℕ, xs[i]? = some x ∧ ∀ j < i, ∀ y ∈ xs[j]?, ¬ P y

/-- The first item of a kind stands behind items that are not of it. -/
theorem isFirst_iff_append : IsFirst P xs x ↔
    P x ∧ ∃ before after, xs = before ++ x :: after ∧ ∀ a ∈ before, ¬ P a := by
  refine and_congr_right fun _ => ⟨?_, ?_⟩
  · rintro ⟨i, at_i, least⟩
    obtain ⟨inside, rfl⟩ := List.getElem?_eq_some_iff.1 at_i
    refine ⟨xs.take i, xs.drop (i + 1), ?_, fun a ha => ?_⟩
    · rw [List.getElem_cons_drop, List.take_append_drop]
    · obtain ⟨j, hj, at_j⟩ := List.mem_take_iff_getElem.1 ha
      exact least j (hj.trans_le (min_le_left ..)) a (List.getElem?_eq_some_iff.2 ⟨_, at_j⟩)
  · rintro ⟨before, after, rfl, others⟩
    refine ⟨before.length, by simp, fun j hj y at_j => others y ?_⟩
    rw [List.getElem?_append_left hj] at at_j
    exact List.mem_of_getElem? at_j

/-- **The first element of a property is found** by any test of it. -/
theorem find?_eq_some_iff_isFirst {test : α → Bool} (h : ∀ a, test a = true ↔ P a) :
    xs.find? test = some x ↔ IsFirst P xs x := by
  simp only [isFirst_iff_append, List.find?_eq_some_iff_append, h, Bool.not_eq_eq_eq_not,
    Bool.not_true, ← Bool.not_eq_true]

end

namespace Schema

/-- Whether a payload is an object whose entities are a list of descriptions. -/
def Lists (v : Value) (ds : List Value) : Prop :=
  ∃ es, v = .mapping es ∧ Entries.get? es "entities" = some (.list ds)

/-- Whether the description of an entity is refused. -/
def IsRefused (d : Value) : Prop := ∃ err, Entity.read d = .error err

/-- A description that is not refused is read. -/
theorem not_isRefused_iff {d : Value} : ¬ IsRefused d ↔ ∃ e, Entity.read d = .ok e := by
  rw [IsRefused]
  cases Entity.read d <;> simp

variable {v d : Value} {ds : List Value}

/-- The descriptions of a payload are those that it lists. -/
theorem descriptions_of_lists (h : Lists v ds) : descriptions v = ds := by
  obtain ⟨es, rfl, found⟩ := h
  simp [descriptions, found]

/-- The first description that is refused is found. -/
theorem firstRefused?_eq_some_iff (h : Lists v ds) :
    firstRefused? v = some d ↔ IsFirst IsRefused ds d := by
  rw [firstRefused?, descriptions_of_lists h]
  exact find?_eq_some_iff_isFirst fun a => by rw [Bool.not_eq_true', isOk_eq_false_iff, IsRefused]

/-- What is refused is in a list. -/
theorem exists_lists_of_firstRefused? (h : firstRefused? v = some d) : ∃ ds, Lists v ds := by
  have listed := List.mem_of_find?_eq_some h
  unfold descriptions at listed
  split at listed
  · next es =>
    split at listed
    · next ds found => exact ⟨ds, es, rfl, found⟩
    · cases listed
  · cases listed

end Schema

namespace Catalog

open Schema (Lists IsRefused)

variable {v : Value} {c : Catalog} {e : Entity} {err : Error} {name : String}

/-- Why a payload is no catalog: it is no object that has entities, they are no list, or there is a
first description among them that is refused. -/
inductive Refusal : Value → Error → Prop
  | noObject {v : Value} (other : ∀ es, v ≠ .mapping es) : Refusal v (.metadata .noEntities)
  | noEntities {es : Entries} (absent : Entries.get? es "entities" = none) :
      Refusal (.mapping es) (.metadata .noEntities)
  | notList {es : Entries} {w : Value} (found : Entries.get? es "entities" = some w)
      (other : ∀ ds, w ≠ .list ds) : Refusal (.mapping es) (.metadata .entitiesNotList)
  | element {v d : Value} {ds : List Value} {err : Error} (lists : Lists v ds)
      (first : IsFirst IsRefused ds d) (refused : Entity.read d = .error err) : Refusal v err

/-- A payload that lists descriptions is read one by one. -/
theorem read_of_lists {ds : List Value} (h : Lists v ds) :
    read v = Catalog.mk <$> ds.mapM Entity.read := by
  obtain ⟨es, rfl, found⟩ := h
  simp [read, found]

/-- **A catalog is read** from a list of descriptions each of which is read, and has their entities in
their order. -/
theorem read_eq_ok_iff : read v = .ok c ↔
    ∃ ds, Lists v ds ∧ List.Forall₂ (fun d e => Entity.read d = .ok e) ds c.entities := by
  constructor
  · intro h
    obtain ⟨es, ds, rfl, found, entities⟩ := exists_of_read h
    exact ⟨ds, ⟨es, rfl, found⟩, entities⟩
  · rintro ⟨ds, lists, entities⟩
    rw [read_of_lists lists]
    exact map_eq_ok.2 ⟨c.entities, mapM_eq_ok.2 entities, rfl⟩

/-- **All or nothing:** a payload is a catalog exactly if it lists descriptions all of which are
read. -/
theorem exists_read_iff : (∃ c, read v = .ok c) ↔
    ∃ ds, Lists v ds ∧ ∀ d ∈ ds, ∃ e, Entity.read d = .ok e := by
  constructor
  · rintro ⟨c, h⟩
    obtain ⟨ds, lists, entities⟩ := read_eq_ok_iff.1 h
    exact ⟨ds, lists, exists_mapM_iff.1 ⟨_, mapM_eq_ok.2 entities⟩⟩
  · rintro ⟨ds, lists, all⟩
    obtain ⟨entities, read⟩ := exists_mapM_iff.2 all
    exact ⟨⟨entities⟩, read_eq_ok_iff.2 ⟨ds, lists, mapM_eq_ok.1 read⟩⟩

/-- **A payload is refused** for one of these reasons, with its error. -/
theorem read_eq_error_iff : read v = .error err ↔ Refusal v err := by
  constructor
  · intro h
    unfold read at h
    split at h
    · next es =>
      split at h
      · next absent => exact Except.error.inj h ▸ .noEntities absent
      · next ds found =>
        obtain ⟨before, d, after, split, accepted, refused⟩ := mapM_eq_error.1 (map_eq_error.1 h)
        refine .element ⟨es, rfl, found⟩ (isFirst_iff_append.2 ⟨⟨err, refused⟩, ?_⟩) refused
        exact ⟨before, after, split, fun a ha => Schema.not_isRefused_iff.2 (accepted a ha)⟩
      · next w other found => exact Except.error.inj h ▸ .notList found fun ds => other ds
    · next other => exact Except.error.inj h ▸ .noObject other
  · intro h
    cases h with
    | noObject other =>
      cases v with
      | mapping es => exact absurd rfl (other es)
      | _ => rfl
    | noEntities absent => simp [read, absent]
    | @notList _ w found other =>
      cases w with
      | list ds => exact absurd rfl (other ds)
      | _ => simp [read, found]
    | element lists first refused =>
      obtain ⟨-, before, after, split, accepted⟩ := isFirst_iff_append.1 first
      rw [read_of_lists lists]
      refine map_eq_error.2 (mapM_eq_error.2 ⟨before, _, after, split, fun a ha => ?_, refused⟩)
      exact Schema.not_isRefused_iff.1 (accepted a ha)

/-- **A payload that can be written is refused with metadata errors only,** exactly if the first
description that is refused names no type with half of a pair. -/
theorem refused_as_metadata_iff (writable : v.isWritable = true) :
    (∀ err, read v = .error err → err.kind = .metadata) ↔
      ∀ ds d, Lists v ds → IsFirst IsRefused ds d → Schema.namesRaggedType d = false := by
  have kind : ∀ d, Schema.firstRefused? v = some d →
      (Schema.refusalKind d = .metadata ↔ Schema.namesRaggedType d = false) := by
    intro d first
    have listed := Schema.isWritable_of_mem_descriptions writable (List.mem_of_find?_eq_some first)
    rw [Schema.refusalKind_eq_metadata_iff]
    exact and_iff_left (Schema.hasWritableName_of_isWritable listed)
  rw [read_fails_as_metadata_iff]
  constructor
  · intro only ds d lists first
    have found := (Schema.firstRefused?_eq_some_iff lists).2 first
    exact (kind d found).1 (only d found)
  · intro plain d found
    obtain ⟨ds, lists⟩ := Schema.exists_lists_of_firstRefused? found
    exact (kind d found).2 (plain ds d lists ((Schema.firstRefused?_eq_some_iff lists).1 found))

/-- **The first entity of a name is found.** -/
theorem find?_eq_some_iff : c.find? name = some e ↔ IsFirst (·.name = name) c.entities e :=
  find?_eq_some_iff_isFirst fun _ => beq_iff_eq

end Catalog
end EntityQuery
