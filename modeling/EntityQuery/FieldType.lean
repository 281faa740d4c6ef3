/-!
# Field types

A searchable field holds one of five kinds of value. Each kind has a canonical name, by which the
library prints it and under which a caller may pass it; the service reports the names of its own
column types, which are thirteen words in any case with blanks around them.
-/

namespace EntityQuery

/-- The kinds of value that a field can hold. -/
inductive FieldType where
  | string
  | integer
  | float
  | boolean
  | date
deriving DecidableEq, Repr, Inhabited

namespace FieldType

/-- All five. -/
def all : List FieldType := [.string, .integer, .float, .boolean, .date]

/-- Every type is listed. -/
theorem mem_all (t : FieldType) : t ∈ all := by cases t <;> simp [all]

/-- The canonical name. -/
def name : FieldType → String
  | .string => "string"
  | .integer => "integer"
  | .float => "float"
  | .boolean => "boolean"
  | .date => "date"

/-- The type of exactly that canonical name. -/
def ofName? (s : String) : Option FieldType := all.find? fun t => t.name == s

/-- A type is found by its name. -/
@[simp] theorem ofName?_name (t : FieldType) : ofName? t.name = some t := by
  cases t <;> decide

/-- No two types have one name. -/
theorem name_injective {t u : FieldType} (h : t.name = u.name) : t = u := by
  have := congrArg ofName? h
  simpa using this

/-- The words of the service for the column types, each with the type it stands for. -/
def aliases : List (String × FieldType) := [
  ("string", .string), ("varchar", .string), ("text", .string),
  ("integer", .integer), ("int", .integer), ("long", .integer),
  ("float", .float), ("double", .float),
  ("boolean", .boolean), ("bool", .boolean),
  ("date", .date), ("timestamp", .date), ("datetime", .date)]

/-- Every canonical name is among the words of the service. -/
theorem name_mem_aliases (t : FieldType) : (t.name, t) ∈ aliases := by
  cases t <;> simp [aliases, name]

end FieldType
end EntityQuery
