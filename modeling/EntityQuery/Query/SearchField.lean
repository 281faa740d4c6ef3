import EntityQuery.Literal
import EntityQuery.Schema.Entity

/-!
# Search fields

A search field is a searchable field of an entity together with the value it is searched for. The
absent value and the empty text mean that the field is not searched for; zero and false are values
like any other.
-/

namespace EntityQuery

/-- Whether a value means that there is nothing to search for. -/
def Value.isEmpty : Value → Bool
  | .null => true
  | .text s => s == ""
  | _ => false

/-- A searchable field and the value it is searched for. -/
structure SearchField where
  name : String
  type : FieldType
  value : Value

namespace SearchField

/-- The search field of a field, without a value. -/
def ofField (f : Field) : SearchField := ⟨f.name, f.type, .null⟩

/-- Whether the field contributes a clause. -/
def isSet (f : SearchField) : Bool := !f.value.isEmpty

/-- The search field without a value. -/
def cleared (f : SearchField) : SearchField := { f with value := .null }

/-- Whether a value can be set as the value of a field of a type: it is empty or has a literal. -/
def check (v : Value) (t : FieldType) : Except Error Unit :=
  if v.isEmpty then .ok () else (fun _ => ()) <$> Literal.ofValue v t

/-- The clause of a field: its name, an equals sign and its literal. -/
def clause (f : SearchField) : Except Error String :=
  (fun literal => f.name ++ "=" ++ literal) <$> Literal.ofValue f.value f.type

end SearchField
end EntityQuery
