import EntityQuery.Proofs.Outcome
import EntityQuery.Proofs.Service.Payload
import EntityQuery.Schema.Catalog

/-!
# Refused descriptions

The description of an entity is refused with a metadata error, with two exceptions: a complaint about a
type whose name holds half of a pair cannot be written, and what is raised then is an error of the
encoding; and a name of too many digits cannot be shown, which is the error of the limit on digits
(`Entity.kind_of_read`). A description with one of the two is always refused
(`Entity.read_fails_as_metadata_iff`). The first description that is refused decides for the whole
catalog (`Catalog.read_of_firstRefused`).
-/

namespace EntityQuery

open Outcome

/-- An error that shows a text that exists is the error of that text. -/
theorem Error.kind_showing {shown : Option String} {cause : String → Error} {k : ErrorKind}
    (h : shown.isSome = true) (hk : ∀ text, (cause text).kind = k) :
    (Error.showing shown cause).kind = k := by
  obtain ⟨text, rfl⟩ := Option.isSome_iff_exists.1 h
  exact hk text

/-- An error that is to show a text that does not exist is one of the limit on digits. -/
theorem Error.kind_showing_of_none {shown : Option String} {cause : String → Error}
    (h : shown.isSome = false) : (Error.showing shown cause).kind = .value := by
  obtain rfl := Option.not_isSome_iff_eq_none.1 (Bool.not_eq_true _ ▸ h)
  rfl

/-- What cannot be written is a whole number, a list or a mapping, and not an empty one. -/
theorem Value.isPresent_of_unwritable {v : Value} (h : v.isWritable = false) :
    v.isPresent = true := by
  cases v with
  | int n =>
    have long : ¬ n.natAbs < tenTo Reading.digitLimit := by
      rwa [Value.isWritable_int, decide_eq_false_iff_not] at h
    rw [Value.isPresent, bne_iff_ne]
    rintro rfl
    exact long (tenTo_pos _)
  | list xs =>
    cases xs with
    | nil => cases h
    | cons x xs => rfl
  | mapping es =>
    cases es with
    | nil => cases h
    | cons e es => rfl
  | _ => cases h

namespace Schema

/-- Whether the description of an entity is read as far as its types and one of them has a name
that holds half of a pair. -/
def namesRaggedType : Value → Bool
  | .mapping es =>
    (Entries.get es "name").isPresent && (unwritableType? (Entries.get? es "fields")).isSome
  | _ => false

/-- Whether the name of a description can be written, if it has one. -/
def hasWritableName : Value → Bool
  | .mapping es => (Entries.get es "name").isWritable
  | _ => true

/-- The kind of error with which the description of an entity is refused, if it is. -/
def refusalKind (v : Value) : ErrorKind :=
  if namesRaggedType v then .encoding else if hasWritableName v then .metadata else .value

/-- A description is refused as metadata exactly if all that a complaint is to show can be written. -/
theorem refusalKind_eq_metadata_iff {v : Value} :
    refusalKind v = .metadata ↔ namesRaggedType v = false ∧ hasWritableName v = true := by
  unfold refusalKind
  cases namesRaggedType v <;> cases hasWritableName v <;> simp

/-- The descriptions of entities that a payload lists. -/
def descriptions : Value → List Value
  | .mapping es =>
    match Entries.get? es "entities" with
    | some (.list vs) => vs
    | _ => []
  | _ => []

/-- The first description of a payload that is refused. -/
def firstRefused? [Validation] (v : Value) : Option Value :=
  (descriptions v).find? fun d => !(Entity.read d).isOk

/-- The descriptions in a payload that can be written can be written. -/
theorem isWritable_of_mem_descriptions {v d : Value} (hv : v.isWritable = true)
    (hd : d ∈ descriptions v) : d.isWritable = true := by
  unfold descriptions at hd
  split at hd
  · next es =>
    split at hd
    · next vs found =>
      have listed := Value.isWritable_of_find? (by rwa [Value.isWritable] at hv) found
      rw [Value.isWritable, Value.itemsWritable_iff] at listed
      exact listed d hd
    · cases hd
  · cases hd

/-- The error about a name with halves is one of the encoding. -/
theorem kind_of_unwritableType? {v? : Option Value} {e : Error}
    (h : unwritableType? v? = some e) : e.kind = .encoding := by
  unfold unwritableType? at h
  split at h
  · obtain ⟨points, -, rfl⟩ := Option.map_eq_some_iff.1 h
    rfl
  · cases h

/-- A description that can be written has a name that can. -/
theorem hasWritableName_of_isWritable {v : Value} (h : v.isWritable = true) :
    hasWritableName v = true := by
  cases v with
  | mapping es =>
    rw [Value.isWritable] at h
    exact Value.isWritable_get h "name"
  | _ => rfl

/-- What cannot be written is no name. -/
theorem exists_nameOf_error [Validation] {v : Value} (h : v.isWritable = false) :
    ∃ c, nameOf (some v) = .error c := by
  have foreign : v.isTextual = false := by
    cases v with
    | int | list | mapping => rfl
    | _ => cases h
  cases taken : Validation.text v with
  | error c => exact ⟨c, by rw [nameOf, taken]⟩
  | ok s => cases foreign.symm.trans (Validation.isTextual_of_text taken)

end Schema

/-! ### Entities -/

/-- **A description is refused with a metadata error,** or with one of the encoding if it names a type
with half of a pair, or else with the error of the limit on digits if its name cannot be written. -/
theorem Entity.kind_of_read [Validation] {v : Value} {e : Error} (h : Entity.read v = .error e) :
    e.kind = Schema.refusalKind v := by
  unfold Entity.read at h
  split at h
  · obtain rfl := Except.error.inj h
    rfl
  · next es =>
    rw [Schema.refusalKind, Schema.namesRaggedType, Schema.hasWritableName]
    split at h
    · next present =>
      split at h
      · next err ragged =>
        obtain rfl := Except.error.inj h
        simp [present, ragged, Schema.kind_of_unwritableType? ragged]
      · next plain =>
        obtain ⟨details, -, rfl⟩ := mapError_eq_error.1 h
        have named := Value.isSome_display? (Entries.get es "name")
        rw [plain, Option.isSome_none, Bool.and_false, if_neg Bool.false_ne_true]
        split
        · next writable => exact Error.kind_showing (named.trans writable) fun _ => rfl
        · next unwritable =>
          exact Error.kind_showing_of_none (named.trans (Bool.eq_false_of_not_eq_true unwritable))
    · next absent =>
      obtain rfl := Except.error.inj h
      have writable : (Entries.get es "name").isWritable = true :=
        Bool.of_not_eq_false fun h => absent (Value.isPresent_of_unwritable h)
      simp [absent, writable, Error.kind]
  · next notNull notMapping =>
    obtain rfl := Except.error.inj h
    cases v with
    | mapping es => exact absurd rfl (notMapping es)
    | _ => rfl

/-- A description that names a type with half of a pair, or has a name that cannot be written, is
refused. -/
theorem Entity.exists_read_error [Validation] {v : Value} (h : Schema.refusalKind v ≠ .metadata) :
    ∃ e, Entity.read v = .error e := by
  cases v with
  | mapping es =>
    rw [Schema.refusalKind, Schema.namesRaggedType, Schema.hasWritableName] at h
    rw [Entity.read]
    cases present : (Entries.get es "name").isPresent with
    | false => exact ⟨_, rfl⟩
    | true =>
      cases ragged : Schema.unwritableType? (Entries.get? es "fields") with
      | some e => exact ⟨e, rfl⟩
      | none =>
        cases named : Entries.get? es "name" with
        | none => simp [Entries.get, named, Value.isPresent] at present
        | some name =>
          -- a name that cannot be written is no text, so the complaint is to show it
          have unwritable : name.isWritable = false := by
            simpa [present, ragged, Entries.get, named] using h
          obtain ⟨c, refused⟩ := Schema.exists_nameOf_error unwritable
          simp [Schema.readEntries, named, refused, Except.mapError]
  | _ => exact absurd rfl h

/-- **A description is refused with metadata errors only,** exactly if it names no type with half of a
pair and its name can be written. -/
theorem Entity.read_fails_as_metadata_iff [Validation] {v : Value} :
    (∀ e, Entity.read v = .error e → e.kind = .metadata) ↔ Schema.refusalKind v = .metadata := by
  constructor
  · intro only
    by_contra other
    obtain ⟨e, refused⟩ := Entity.exists_read_error other
    exact other ((Entity.kind_of_read refused).symm.trans (only e refused))
  · exact fun kind e refused => (Entity.kind_of_read refused).trans kind

/-- A name that is read is not empty. -/
theorem Schema.name_ne_of_nameOf [Validation] {v? : Option Value} {name : String}
    (h : nameOf v? = .ok name) : name ≠ "" := by
  unfold nameOf at h
  split at h
  · cases h
  · split at h
    · split at h
      · cases h
      · next named =>
        obtain rfl := Except.ok.inj h
        exact named
    · cases h

/-- An entity has the name that it is put together with. -/
theorem Schema.name_of_assemble {name : String} {fields : List Field} {e : Entity}
    (h : assemble name fields = .ok e) : e.name = name := by
  unfold assemble at h
  split at h
  · exact (Except.ok.inj h) ▸ rfl
  · cases h

/-- Whether the description of an entity gives it a name. -/
def Schema.IsNamed [Validation] (v : Value) (name : String) : Prop :=
  ∃ es, v = .mapping es ∧ nameOf (Entries.get? es "name") = .ok name

/-- The name of an entity is read from its entry. -/
theorem Schema.nameOf_of_readEntries [Validation] {es : Entries} {e : Entity}
    (h : readEntries es = .ok e) :
    nameOf (Entries.get? es "name") = .ok e.name := by
  simp only [readEntries] at h
  split at h
  · next name named =>
    split at h
    · rw [named, name_of_assemble h]
    · cases h
  · cases h

/-- **An entity that is read has the name of its description.** -/
theorem Entity.isNamed_of_read [Validation] {v : Value} {e : Entity} (h : Entity.read v = .ok e) :
    Schema.IsNamed v e.name := by
  unfold Entity.read at h
  split at h
  · cases h
  · next es =>
    split at h
    · split at h
      · cases h
      · exact ⟨es, rfl, Schema.nameOf_of_readEntries (mapError_eq_ok.1 h)⟩
    · cases h
  · cases h

/-- **An entity that is read has a name.** -/
theorem Entity.name_ne_of_read [Validation] {v : Value} {e : Entity} (h : Entity.read v = .ok e) :
    e.name ≠ "" := by
  obtain ⟨es, -, named⟩ := Entity.isNamed_of_read h
  exact Schema.name_ne_of_nameOf named

/-! ### Catalogs -/

/-- **The first description that is refused decides the error of the catalog.** -/
theorem Catalog.read_of_firstRefused [Validation] {v d : Value} (h : Schema.firstRefused? v = some d) :
    ∃ e, Entity.read d = .error e ∧ Catalog.read v = .error e := by
  obtain ⟨refused, before, after, hd, accepted⟩ := List.find?_eq_some_iff_append.1 h
  obtain ⟨e, he⟩ := isOk_eq_false_iff.1 (by simpa using refused)
  refine ⟨e, he, ?_⟩
  have failed : (Schema.descriptions v).mapM Entity.read = .error e :=
    mapM_eq_error.2 ⟨before, d, after, hd, fun a ha => isOk_iff.1 (by simpa using accepted a ha), he⟩
  unfold Schema.descriptions at failed
  split at failed
  · next es =>
    split at failed
    · next vs found => simp [Catalog.read, found, failed]
    · cases failed
  · cases failed

/-- **A catalog is refused with a metadata error,** unless the first description that is refused
is not. -/
theorem Catalog.kind_of_read [Validation] {v : Value} {e : Error} (h : Catalog.read v = .error e) :
    e.kind = ((Schema.firstRefused? v).map Schema.refusalKind).getD .metadata := by
  cases hf : Schema.firstRefused? v with
  | some d =>
    obtain ⟨e', hd, hc⟩ := Catalog.read_of_firstRefused hf
    obtain rfl := Except.error.inj (hc.symm.trans h)
    exact Entity.kind_of_read hd
  | none =>
    have accepted : ∀ d ∈ Schema.descriptions v, ∃ e, Entity.read d = .ok e := fun d hd =>
      isOk_iff.1 (by simpa using List.find?_eq_none.1 hf d hd)
    unfold Catalog.read at h
    split at h
    · next es =>
      split at h
      · obtain rfl := Except.error.inj h
        rfl
      · next vs found =>
        have all : ∀ d ∈ vs, ∃ e, Entity.read d = .ok e := by
          simpa [Schema.descriptions, found] using accepted
        obtain ⟨entities, read⟩ := exists_mapM all
        rw [read] at h
        cases h
      · obtain rfl := Except.error.inj h
        rfl
    · obtain rfl := Except.error.inj h
      rfl

/-- A catalog that can be written is refused with a metadata error, unless the first description that is
refused names a type with half of a pair. -/
theorem Catalog.kind_of_read_of_isWritable [Validation] {v : Value} {e : Error}
    (hw : v.isWritable = true) (h : Catalog.read v = .error e) :
    e.kind = if (Schema.firstRefused? v).any Schema.namesRaggedType then .encoding
      else .metadata := by
  rw [Catalog.kind_of_read h]
  cases hf : Schema.firstRefused? v with
  | none => rfl
  | some d =>
    have writable := Schema.isWritable_of_mem_descriptions hw (List.mem_of_find?_eq_some hf)
    simp [Schema.refusalKind, Schema.hasWritableName_of_isWritable writable]

/-- **A catalog is refused with metadata errors only,** exactly if the first description that is refused
is, if there is one. -/
theorem Catalog.read_fails_as_metadata_iff [Validation] {v : Value} :
    (∀ e, Catalog.read v = .error e → e.kind = .metadata) ↔
      ∀ d, Schema.firstRefused? v = some d → Schema.refusalKind d = .metadata := by
  constructor
  · intro only d first
    obtain ⟨e, refused, spoiled⟩ := Catalog.read_of_firstRefused first
    exact (Entity.kind_of_read refused).symm.trans (only e spoiled)
  · intro first e refused
    rw [Catalog.kind_of_read refused]
    cases found : Schema.firstRefused? v with
    | none => rfl
    | some d => exact first d found

/-- **A catalog is read from a list of descriptions,** each of which is read. -/
theorem Catalog.exists_of_read [Validation] {v : Value} {c : Catalog} (h : Catalog.read v = .ok c) :
    ∃ es ds, v = .mapping es ∧ Entries.get? es "entities" = some (.list ds) ∧
      List.Forall₂ (fun d e => Entity.read d = .ok e) ds c.entities := by
  unfold Catalog.read at h
  split at h
  · next es =>
    split at h
    · cases h
    · next ds found =>
      obtain ⟨entities, read, rfl⟩ := map_eq_ok.1 h
      exact ⟨es, ds, rfl, found, mapM_eq_ok.1 read⟩
    · cases h
  · cases h

/-- **Every entity of a catalog that is read has a name.** -/
theorem Catalog.name_ne_of_read [Validation] {v : Value} {c : Catalog} {e : Entity}
    (h : Catalog.read v = .ok c) (he : e ∈ c.entities) : e.name ≠ "" := by
  obtain ⟨_, ds, -, -, read⟩ := Catalog.exists_of_read h
  obtain ⟨d, -, entity⟩ := exists_of_mem_mapM (mapM_eq_ok.2 read) he
  exact Entity.name_ne_of_read entity

end EntityQuery
