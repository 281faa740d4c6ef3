import EntityQuery.Proofs.Outcome
import EntityQuery.Value.Json
import EntityQuery.Schema.Entity

/-!
# Which descriptions are read

A JSON value describes an entity (`Schema.DescribesEntity`) if it is an object with a name that is not
empty, and fields that are missing or a list of objects, each with a name that is not empty, the name
of a type, and a flag. Of a flag that stands under both keys the one under `searchable` counts. The
relation says which name and which fields a description has; it mentions neither the readers of the
parts nor their complaints. For each reader a lemma says when it succeeds, and `Entity.read_iff` puts
them together: a description is read exactly if it has a name and fields with distinct names, and what
is read is what it describes. Keys that are not known do not matter (`Entity.read_congr`).
-/

namespace EntityQuery

open Outcome

namespace Schema

/-! ### What a description says -/

/-- Whether an entry that may be missing is a flag. Without an entry the flag is not set. -/
def IsFlag (v? : Option Value) (flag : Bool) : Prop :=
  match v? with
  | none => flag = false
  | some v => StandsFor v flag

/-- Whether an entry is a name that is not empty. -/
def IsName (v? : Option Value) (name : String) : Prop := v? = some (.text name) ∧ name ≠ ""

/-- Whether an entry names a type by one of the words of the service, with blanks around it and in any
case. -/
def NamesType (v? : Option Value) (t : FieldType) : Prop :=
  ∃ s, v? = some (.text s) ∧ (Text.lower (Text.strip s), t) ∈ FieldType.aliases

/-- Whether a value describes a field. -/
def DescribesField (v : Value) (f : Field) : Prop :=
  ∃ es, v = .mapping es ∧ IsName (Entries.get? es "name") f.name ∧
    NamesType (Entries.get? es "type") f.type ∧
    IsFlag ((Entries.get? es "searchable").or (Entries.get? es "search")) f.searchable

/-- Whether an entry that may be missing lists descriptions of fields. -/
def DescribesFields (v? : Option Value) (fields : List Field) : Prop :=
  match v? with
  | none => fields = []
  | some v => ∃ vs, v = .list vs ∧ List.Forall₂ DescribesField vs fields

/-- Whether a value describes an entity of that name and those fields. -/
def DescribesEntity (v : Value) (name : String) (fields : List Field) : Prop :=
  ∃ es, v = .mapping es ∧ IsName (Entries.get? es "name") name ∧
    DescribesFields (Entries.get? es "fields") fields

/-! ### Names and types -/

section

variable {v? : Option Value} (json : ∀ v, v? = some v → v.isJson = true)
include json

/-- **A JSON value is read as the name that it is.** -/
theorem nameOf_eq_ok_iff [Validation] {name : String} : nameOf v? = .ok name ↔ IsName v? name := by
  unfold IsName
  cases v? with
  | none => simp [nameOf]
  | some v =>
    simp only [nameOf, Option.some.injEq, ← Validation.text_eq_ok (json v rfl)]
    cases Validation.text v with
    | error => simp
    | ok s =>
      simp only [Except.ok.injEq]
      by_cases empty : s = ""
      · rw [if_pos empty]
        refine iff_of_false nofun ?_
        rintro ⟨rfl, named⟩
        exact named empty
      · rw [if_neg empty, Except.ok.injEq]
        constructor
        · rintro rfl
          exact ⟨rfl, empty⟩
        · exact And.left

omit json in
/-- A word of the service finds the type it stands for. -/
theorem lookup_aliases {word : String} {t : FieldType} :
    FieldType.aliases.lookup word = some t ↔ (word, t) ∈ FieldType.aliases := by
  have distinct : ∀ a ∈ FieldType.aliases, FieldType.aliases.lookup a.1 = some a.2 := by decide
  constructor
  · intro h
    obtain ⟨before, after, split, -⟩ := List.lookup_eq_some_iff.1 h
    rw [split]
    exact List.mem_append_right _ (List.mem_cons_self ..)
  · exact distinct (word, t)

/-- **A JSON value is read as the type that it names.** -/
theorem typeOf_eq_ok_iff {t : FieldType} : typeOf v? = .ok t ↔ NamesType v? t := by
  unfold NamesType
  cases v? with
  | none => simp [typeOf]
  | some v =>
    have jv := json v rfl
    rw [typeOf, mapError_eq_ok]
    cases v with
    | text s =>
      simp only [FieldType.read, Option.some.injEq, Value.text.injEq, exists_eq_left',
        ← lookup_aliases]
      cases FieldType.aliases.lookup (Text.lower (Text.strip s)) <;> simp
    | ragged | bytes | date | timestamp | fieldType => simp [Value.isJson] at jv
    | _ => simp [FieldType.read]

end

/-! ### Flags -/

/-- The flag of an object is that of the key that counts. -/
theorem flagOf_eq_ok_iff [Validation] {es : Entries} {flag : Bool}
    (json : (Value.mapping es).isJson = true) :
    flagOf es = .ok flag ↔
      IsFlag ((Entries.get? es "searchable").or (Entries.get? es "search")) flag := by
  have read : ∀ key, (match Entries.get? es key with
      | none => Except.ok false
      | some v => Validation.flag v) = .ok flag ↔ IsFlag (Entries.get? es key) flag := by
    intro key
    cases found : Entries.get? es key with
    | none => simp [IsFlag, eq_comm]
    | some v => exact Validation.flag_eq_ok (Value.isJson_of_get? json found)
  unfold flagOf flagKey
  cases first : Entries.get? es "searchable" with
  | none =>
    rw [Option.isSome_none, if_neg Bool.false_ne_true, Option.none_or]
    exact read "search"
  | some v =>
    rw [Option.isSome_some, if_pos rfl, Option.some_or, ← first]
    exact read "searchable"

/-! ### Fields -/

/-- **A JSON value is read as the field that it describes.** -/
theorem field_read_eq_ok_iff [Validation] {v : Value} {f : Field} (json : v.isJson = true) :
    Field.read v = .ok f ↔ DescribesField v f := by
  unfold DescribesField
  cases v with
  | mapping es =>
    have entry : ∀ key v, Entries.get? es key = some v → v.isJson = true := fun _ _ =>
      Value.isJson_of_get? json
    simp only [Value.mapping.injEq, exists_eq_left', ← nameOf_eq_ok_iff (entry "name"),
      ← typeOf_eq_ok_iff (entry "type"), ← flagOf_eq_ok_iff json, Field.read]
    cases nameOf (Entries.get? es "name") with
    | error => simp
    | ok name =>
      cases typeOf (Entries.get? es "type") with
      | error => simp
      | ok type =>
        cases flagOf es with
        | error => simp
        | ok searchable =>
          obtain ⟨_, _, _⟩ := f
          simp
  | _ => simp [Field.read]

/-- There is no complaint about a part that is read. -/
theorem detailAt_eq_nil_iff {α : Type} {key : String} {x : Except Complaint α} :
    detailAt key x = [] ↔ ∃ a, x = .ok a := by
  cases x <;> simp [detailAt]

/-- What is refused is refused for a reason. -/
theorem ne_nil_of_read_eq_error [Validation] {v : Value} {details : List Detail}
    (h : Field.read v = .error details) : details ≠ [] := by
  unfold Field.read at h
  split at h
  · split at h
    · cases h
    · next refused =>
      obtain rfl := Except.error.inj h
      simp only [ne_eq, List.append_eq_nil_iff, detailAt_eq_nil_iff]
      rintro ⟨⟨⟨name, named⟩, ⟨type, typed⟩⟩, ⟨flag, flagged⟩⟩
      exact refused name type flag named typed flagged
  · obtain rfl := Except.error.inj h
    exact List.cons_ne_nil _ _

/-- **A list is read as the fields that its items describe.** -/
theorem readFields_eq_iff [Validation] {i : ℕ} {vs : List Value} {fields : List Field}
    (json : ∀ v ∈ vs, v.isJson = true) :
    readFields i vs = (fields, []) ↔ List.Forall₂ DescribesField vs fields := by
  induction vs generalizing i fields with
  | nil => simp [readFields, eq_comm]
  | cons v vs ih =>
    rw [List.forall_mem_cons] at json
    obtain ⟨first, rest⟩ := json
    rw [List.forall₂_cons_left_iff, readFields]
    simp only [← field_read_eq_ok_iff first, ← ih (i := i + 1) rest]
    cases read : Field.read v with
    | error details => simp [ne_nil_of_read_eq_error read]
    | ok f =>
      simp only [Prod.ext_iff, Except.ok.injEq]
      constructor
      · rintro ⟨rfl, silent⟩
        exact ⟨f, _, rfl, ⟨rfl, silent⟩, rfl⟩
      · rintro ⟨_, _, rfl, ⟨rfl, silent⟩, rfl⟩
        exact ⟨rfl, silent⟩

/-- An entry is read as the fields that it describes. -/
theorem fieldsOf_eq_iff [Validation] {v? : Option Value} {fields : List Field}
    (json : ∀ v, v? = some v → v.isJson = true) :
    fieldsOf v? = (fields, []) ↔ DescribesFields v? fields := by
  unfold DescribesFields
  cases v? with
  | none => simp [fieldsOf, eq_comm]
  | some v =>
    have jv := json v rfl
    cases v with
    | list vs =>
      rw [Value.isJson, Value.itemsJson_iff] at jv
      simp [fieldsOf, readFields_eq_iff jv]
    | _ => simp [fieldsOf]

/-! ### Entities -/

/-- An entity is put together of its name and its fields. -/
theorem assemble_eq_ok_iff {name : String} {fields : List Field} {e : Entity} :
    assemble name fields = .ok e ↔ e.name = name ∧ e.fields = fields := by
  unfold assemble
  constructor
  · intro h
    split at h
    · obtain rfl := Except.ok.inj h
      exact ⟨rfl, rfl⟩
    · cases h
  · rintro ⟨rfl, rfl⟩
    have silent : firstRepeated? [] (e.fields.map (·.name)) = none :=
      firstRepeated?_eq_none_iff.2 ⟨e.distinct, fun _ _ => List.not_mem_nil⟩
    split
    · rfl
    · next found => cases silent.symm.trans found

/-- **The entries of an object are read as the entity that they describe.** -/
theorem readEntries_eq_ok_iff [Validation] {es : Entries} {e : Entity}
    (json : (Value.mapping es).isJson = true) :
    readEntries es = .ok e ↔ IsName (Entries.get? es "name") e.name ∧
      DescribesFields (Entries.get? es "fields") e.fields := by
  have entry : ∀ key v, Entries.get? es key = some v → v.isJson = true := fun _ _ =>
    Value.isJson_of_get? json
  rw [← nameOf_eq_ok_iff (entry "name"), ← fieldsOf_eq_iff (entry "fields"), readEntries]
  cases nameOf (Entries.get? es "name") with
  | error => simp
  | ok name =>
    simp only [Except.ok.injEq, List.isEmpty_iff]
    split
    · next silent =>
      simp only [assemble_eq_ok_iff, Prod.ext_iff, silent, and_true]
      exact and_congr eq_comm eq_comm
    · next complaints => simp [Prod.ext_iff, complaints]

/-- No type of a JSON value has a name with halves. -/
theorem unwritableType?_eq_none {v? : Option Value}
    (json : ∀ v, v? = some v → v.isJson = true) : unwritableType? v? = none := by
  unfold unwritableType?
  split
  · next vs =>
    have items := json _ rfl
    rw [Value.isJson, Value.itemsJson_iff] at items
    rw [Option.map_eq_none_iff, List.findSome?_eq_none_iff]
    intro v hv
    unfold raggedType?
    split
    · next es =>
      split
      · next points found => cases Value.isJson_of_get? (items _ hv) found
      · rfl
    · rfl
  · rfl

end Schema

/-- **A JSON value is read as the entity that it describes.** -/
theorem Entity.read_eq_ok_iff [Validation] {v : Value} {e : Entity} (json : v.isJson = true) :
    Entity.read v = .ok e ↔ Schema.DescribesEntity v e.name e.fields := by
  unfold Schema.DescribesEntity
  cases v with
  | mapping es =>
    simp only [Value.mapping.injEq, exists_eq_left', ← Schema.readEntries_eq_ok_iff json,
      Entity.read, Schema.unwritableType?_eq_none fun _ => Value.isJson_of_get? json]
    split
    · exact mapError_eq_ok
    · -- a name that is refused before all else is not described either
      next absent =>
      refine iff_of_false nofun fun read => absent ?_
      obtain ⟨⟨found, named⟩, -⟩ := (Schema.readEntries_eq_ok_iff json).1 read
      simpa [Entries.get, found, Value.isPresent] using named
  | _ => simp [Entity.read]

/-! ### Unknown keys -/

namespace Schema

/-- Whether two mappings hold the same under some keys. -/
def AgreeOn (keys : List String) (es fs : Entries) : Prop :=
  ∀ key ∈ keys, Entries.get? es key = Entries.get? fs key

/-- Descriptions of a field that differ at most in keys that are not known. -/
inductive SameField : Value → Value → Prop
  | refl (v : Value) : SameField v v
  | known {es fs : Entries} (agree : AgreeOn ["name", "type", "searchable", "search"] es fs) :
      SameField (.mapping es) (.mapping fs)

/-- Descriptions of an entity that differ at most in keys that are not known, be it those of the entity
or those of its fields. -/
inductive SameEntity : Value → Value → Prop
  | refl (v : Value) : SameEntity v v
  | known {es fs : Entries} (agree : AgreeOn ["name", "fields"] es fs) :
      SameEntity (.mapping es) (.mapping fs)
  | fields {es fs : Entries} {vs ws : List Value} (agree : AgreeOn ["name"] es fs)
      (left : Entries.get? es "fields" = some (.list vs))
      (right : Entries.get? fs "fields" = some (.list ws)) (same : List.Forall₂ SameField vs ws) :
      SameEntity (.mapping es) (.mapping fs)

/-- A field is read off the keys that are known. -/
theorem SameField.read_eq [Validation] {v w : Value} (h : SameField v w) :
    Field.read v = Field.read w := by
  cases h with
  | refl => rfl
  | @known es fs agree =>
    simp only [AgreeOn, List.forall_mem_cons] at agree
    obtain ⟨name, type, searchable, search, -⟩ := agree
    have key : flagKey es = flagKey fs := by simp only [flagKey, searchable]
    have found : Entries.get? es (flagKey fs) = Entries.get? fs (flagKey fs) := by
      unfold flagKey
      split
      · exact searchable
      · exact search
    have flag : flagOf es = flagOf fs := by simp only [flagOf, key, found]
    simp only [Field.read, name, type, flag, key]

/-- So is a type that cannot be written. -/
theorem SameField.raggedType?_eq {v w : Value} (h : SameField v w) :
    raggedType? v = raggedType? w := by
  cases h with
  | refl => rfl
  | known agree =>
    have type := agree "type" (by simp)
    simp only [raggedType?, type]

/-- Fields are read off the keys that are known. -/
theorem readFields_congr [Validation] {vs ws : List Value} (h : List.Forall₂ SameField vs ws) (i : ℕ) :
    readFields i vs = readFields i ws := by
  induction h generalizing i with
  | nil => rfl
  | cons first _ ih => simp only [readFields, first.read_eq, ih]

/-- So is the first type that cannot be written. -/
theorem findSome?_raggedType?_congr {vs ws : List Value} (h : List.Forall₂ SameField vs ws) :
    vs.findSome? raggedType? = ws.findSome? raggedType? := by
  induction h with
  | nil => rfl
  | cons first _ ih => simp only [List.findSome?_cons, first.raggedType?_eq, ih]

end Schema

/-- An entity is read off its name and its fields. -/
theorem Entity.read_mapping_congr [Validation] {es fs : Entries}
    (name : Entries.get? es "name" = Entries.get? fs "name")
    (fields : Schema.fieldsOf (Entries.get? es "fields") =
      Schema.fieldsOf (Entries.get? fs "fields"))
    (types : Schema.unwritableType? (Entries.get? es "fields") =
      Schema.unwritableType? (Entries.get? fs "fields")) :
    Entity.read (.mapping es) = Entity.read (.mapping fs) := by
  have entries : Schema.readEntries es = Schema.readEntries fs := by
    simp only [Schema.readEntries, name, fields]
  rw [Entity.read, Entity.read, Entries.get, Entries.get, name, types, entries]

/-- **Keys that are not known do not matter,** neither for the entity that is read nor for the error. -/
theorem Entity.read_congr [Validation] {v w : Value} (h : Schema.SameEntity v w) :
    Entity.read v = Entity.read w := by
  cases h with
  | refl => rfl
  | known agree =>
    have name := agree "name" (by simp)
    have fields := agree "fields" (by simp)
    exact Entity.read_mapping_congr name (by rw [fields]) (by rw [fields])
  | fields agree left right same =>
    have types := Schema.findSome?_raggedType?_congr same
    refine Entity.read_mapping_congr (agree "name" (by simp)) ?_ ?_
    · rw [left, right, Schema.fieldsOf, Schema.fieldsOf, Schema.readFields_congr same]
    · rw [left, right, Schema.unwritableType?, Schema.unwritableType?, types]

/-- **Which descriptions are read, and as what.** A JSON value is read as an entity exactly if it is an
object with a name and with fields, or without, whose names are distinct; then the entity has that name
and those fields, in their order, and its searchable fields are those whose flag is set, in the same
order. Keys that are not known do not matter. -/
theorem Entity.read_iff {v : Value} (json : v.isJson = true) :
    ((∃ e, Entity.read v = .ok e) ↔
      ∃ name fields, Schema.DescribesEntity v name fields ∧ (fields.map (·.name)).Nodup) ∧
    (∀ e, Entity.read v = .ok e ↔ Schema.DescribesEntity v e.name e.fields) ∧
    (∀ e, Entity.read v = .ok e → e.searchable.Sublist e.fields ∧
      ∀ f, f ∈ e.searchable ↔ f ∈ e.fields ∧ f.searchable = true) ∧
    ∀ w, Schema.SameEntity v w → Entity.read w = Entity.read v := by
  refine ⟨⟨?_, ?_⟩, fun e => Entity.read_eq_ok_iff json,
    fun e _ => ⟨List.filter_sublist, fun f => List.mem_filter⟩,
    fun w same => (Entity.read_congr same).symm⟩
  · rintro ⟨e, read⟩
    exact ⟨e.name, e.fields, (Entity.read_eq_ok_iff json).1 read, e.distinct⟩
  · rintro ⟨name, fields, described, distinct⟩
    exact ⟨⟨name, fields, distinct⟩, (Entity.read_eq_ok_iff json).2 described⟩

/-- The description of a field with words in other cases and a key that is not known. -/
def emailDescription : Entries := [(.text "name", .text "email"), (.text "type", .text " VarChar\n"),
  (.text "search", .text "YES"), (.text "label", .null)]

/-- The description of a field with a flag under both keys. -/
def ageDescription : Entries := [(.text "name", .text "age"), (.text "type", .text "LONG"),
  (.text "search", .bool true), (.text "searchable", .float (Binary64.zero true))]

/-- The description of an entity with these two fields. -/
def userDescription : Value := .mapping [(.text "name", .text "user"), (.text "version", .int 2),
  (.text "fields", .list [.mapping emailDescription, .mapping ageDescription])]

/-- The entity that it describes. -/
def describedUser : Entity where
  name := "user"
  fields := [⟨"email", .string, true⟩, ⟨"age", .integer, false⟩]
  distinct := by decide

/-- The description is read as an entity of two fields, of which the first can be searched. -/
theorem Entity.read_iff_userDescription : userDescription.isJson = true ∧
    Entity.read userDescription = .ok describedUser := by
  have json : userDescription.isJson = true := by decide
  obtain ⟨-, read, -⟩ := Entity.read_iff json
  have email : Schema.DescribesField (.mapping emailDescription) ⟨"email", .string, true⟩ :=
    ⟨_, rfl, ⟨rfl, by decide⟩, ⟨_, rfl, by decide⟩, Or.inr ⟨_, rfl, by decide⟩⟩
  have age : Schema.DescribesField (.mapping ageDescription) ⟨"age", .integer, false⟩ :=
    ⟨_, rfl, ⟨rfl, by decide⟩, ⟨_, rfl, by decide⟩, Or.inl (by decide +kernel)⟩
  exact ⟨json, (read _).2 ⟨_, rfl, ⟨rfl, by decide⟩, _, rfl, .cons email (.cons age .nil)⟩⟩

end EntityQuery
