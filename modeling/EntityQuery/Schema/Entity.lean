import EntityQuery.Schema.Field

/-!
# Entities

An entity has a name and fields, whose names are pairwise distinct. The order of the fields is the
order in which they are shown and in which the clauses of a query stand. `Entity.read` reads the
description of an entity: it needs a name, and every field must be well described. What is wrong
with the fields is reported together, unless one of the complaints cannot be written.
-/

namespace EntityQuery

/-- An entity and its fields. -/
structure Entity where
  name : String
  fields : List Field
  distinct : (fields.map (·.name)).Nodup
deriving DecidableEq

/-- An entity of that name without fields. -/
def Entity.bare (name : String) : Entity := ⟨name, [], List.nodup_nil⟩

instance : Inhabited Entity := ⟨Entity.bare ""⟩

/-- The fields that can be searched, in their order. -/
def Entity.searchable (e : Entity) : List Field := e.fields.filter (·.searchable)

/-- The names of the searchable fields are pairwise distinct. -/
theorem Entity.searchable_nodup (e : Entity) : (e.searchable.map (·.name)).Nodup :=
  e.distinct.sublist (List.filter_sublist.map _)

namespace Schema

/-- The first name of a list that stands there before. -/
def firstRepeated? (seen : List String) : List String → Option String
  | [] => none
  | name :: names =>
    if seen.contains name then some name else firstRepeated? (seen ++ [name]) names

/-- **No name is found exactly when all are distinct.** -/
theorem firstRepeated?_eq_none_iff {seen names : List String} :
    firstRepeated? seen names = none ↔ names.Nodup ∧ ∀ n ∈ names, n ∉ seen := by
  induction names generalizing seen with
  | nil => simp [firstRepeated?]
  | cons name names ih =>
    by_cases h : name ∈ seen
    · simp [firstRepeated?, h]
    · simp only [firstRepeated?, List.contains_iff_mem, h, if_false, ih, List.nodup_cons,
        List.mem_cons, List.mem_append, List.not_mem_nil, or_false]
      constructor
      · rintro ⟨hn, hs⟩
        refine ⟨⟨fun hm => (hs name hm) (.inr rfl), hn⟩, ?_⟩
        rintro n (rfl | hm)
        · exact h
        · exact fun hs' => hs n hm (.inl hs')
      · rintro ⟨⟨hm, hn⟩, hs⟩
        refine ⟨hn, fun n hn' => ?_⟩
        rintro (hs' | rfl)
        · exact hs n (.inr hn') hs'
        · exact hm hn'

/-- The fields of a list of descriptions, and all complaints about them with their positions,
counted from `i`. -/
def readFields [Validation] (i : Nat) : List Value → List Field × List Detail
  | [] => ([], [])
  | v :: vs =>
    let rest := readFields (i + 1) vs
    match Field.read v with
    | .ok f => (f :: rest.1, rest.2)
    | .error ds =>
      (rest.1, ds.map (fun d => { d with path := .key "fields" :: .index i :: d.path }) ++ rest.2)

/-- The fields of a description; without the key there are none. -/
def fieldsOf [Validation] (v? : Option Value) : List Field × List Detail :=
  match v? with
  | none => ([], [])
  | some (.list vs) => readFields 0 vs
  | some _ => ([], [⟨[.key "fields"], .notList⟩])

/-- The error of the first field whose type has a ragged name: the complaint about it, which cannot
be written. -/
def unwritableType? (v? : Option Value) : Option Error :=
  match v? with
  | some (.list vs) => (vs.findSome? raggedType?).map (.halvesBehind unsupportedTypeText)
  | _ => none

/-- The entity of a name and fields, whose names must be distinct. -/
def assemble (name : String) (fields : List Field) : Except (List Detail) Entity :=
  match h : firstRepeated? [] (fields.map (·.name)) with
  | none => .ok ⟨name, fields, (firstRepeated?_eq_none_iff.1 h).1⟩
  | some field => .error [⟨[], .refused
      ("Duplicate field '" ++ field ++ "' in entity '" ++ name ++ "'")⟩]

/-- The entity of the entries of a description, or everything that is wrong with them. Repeated
field names are looked for only if nothing else is wrong. -/
def readEntries [Validation] (es : Entries) : Except (List Detail) Entity :=
  let fields := fieldsOf (Entries.get? es "fields")
  match nameOf (Entries.get? es "name") with
  | .ok name => if fields.2.isEmpty then assemble name fields.1 else .error fields.2
  | .error c => .error (⟨[.key "name"], c⟩ :: fields.2)

end Schema

/-- **The entity of a description.** A complaint that cannot be written takes the place of all
others. -/
def Entity.read [Validation] (v : Value) : Except Error Entity :=
  match v with
  | .null => .error (.metadata .missing)
  | .mapping es =>
    if (Entries.get es "name").isPresent then
      match Schema.unwritableType? (Entries.get? es "fields") with
      | some e => .error e
      | none => (Schema.readEntries es).mapError fun details =>
        .showing (Entries.get es "name").display? fun name => .metadata (.malformed name details)
    else .error (.metadata .noName)
  | v => .error (.metadata (.notMapping v.kindName))

end EntityQuery
