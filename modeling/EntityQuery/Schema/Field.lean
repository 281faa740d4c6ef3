import EntityQuery.Error
import EntityQuery.Text.Blank
import EntityQuery.Text.Letter
import EntityQuery.Text.Utf8

/-!
# Fields of an entity

A field has a name that is not empty, a type, and a flag whether it can be searched. `Field.read`
reads the description of a field and reports everything that is wrong with it, in the order name,
type, flag. The flag stands under `searchable`, or, if that key is missing, under `search`; without
either the field cannot be searched. Other keys do not matter.
-/

namespace EntityQuery

/-- **The field type that the service means by a name.** Blanks around the name and the case of its
letters do not count. -/
def FieldType.read (v : Value) : Except MetadataFault FieldType :=
  match v with
  | .fieldType t => .ok t
  | .text s =>
    match aliases.lookup (Text.lower (Text.strip s)) with
    | some t => .ok t
    | none => .error (.unsupportedType s)
  | .ragged points => .error (.unsupportedType (Text.replaced points))
  | v => .error (.typeNotText v.kindName)

/-- A field of an entity. -/
structure Field where
  name : String
  type : FieldType
  searchable : Bool
deriving DecidableEq, Repr, Inhabited

namespace Schema

/-- A name: a text that is not empty. -/
def nameOf [Validation] (v? : Option Value) : Except Complaint String :=
  match v? with
  | none => .error .missing
  | some v => match Validation.text v with
    | .ok s => if s = "" then .error .emptyText else .ok s
    | .error c => .error c

/-- The type of a field. -/
def typeOf (v? : Option Value) : Except Complaint FieldType :=
  match v? with
  | none => .error .missing
  | some v => (FieldType.read v).mapError fun fault => .refused fault.message

/-- The name of the type in the description of a field, if it is ragged. A complaint about such a
name cannot be written. -/
def raggedType? (v : Value) : Option (List Nat) :=
  match v with
  | .mapping es => match Entries.get? es "type" with
    | some (.ragged points) => some points
    | _ => none
  | _ => none

/-- The key under which the flag of a description stands. -/
def flagKey (es : Entries) : String :=
  if (Entries.get? es "searchable").isSome then "searchable" else "search"

/-- The flag of a description. -/
def flagOf [Validation] (es : Entries) : Except Complaint Bool :=
  match Entries.get? es (flagKey es) with
  | none => .ok false
  | some v => Validation.flag v

/-- The complaint about a part, placed at its key. -/
def detailAt {α : Type} (key : String) : Except Complaint α → List Detail
  | .ok _ => []
  | .error c => [⟨[.key key], c⟩]

end Schema

open Schema in
/-- **The field of a description,** or everything that is wrong with the description. -/
def Field.read [Validation] (v : Value) : Except (List Detail) Field :=
  match v with
  | .mapping es =>
    match nameOf (Entries.get? es "name"), typeOf (Entries.get? es "type"), flagOf es with
    | .ok name, .ok type, .ok searchable => .ok ⟨name, type, searchable⟩
    | name, type, searchable => .error
        (detailAt "name" name ++ detailAt "type" type ++ detailAt (flagKey es) searchable)
  | _ => .error [⟨[], .notDescription⟩]

end EntityQuery
