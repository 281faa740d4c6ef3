import EntityQuery.Query.SearchField

/-!
# Query builders

A builder is fresh, or ready with an entity and one search field for each of its searchable fields,
in their order. A fresh builder refuses everything but to be initialized. A ready builder sets and
clears the values of its fields and builds the query

    select * from <entity>[ where <field>=<literal>[ and <field>=<literal>]*];

with one clause for each field that is set. A value is checked when it is set. A query is a text, so
values with halves of pairs are left out: a builder takes none. Operations that change a builder are
written as they proceed, with the builder that is there after each step, also if a later one fails
(`Builder.Change`). What they come to if they succeed is the builder at their end.
-/

namespace EntityQuery

/-- A builder of queries over one entity. -/
inductive Builder where
  | fresh
  | ready (entity : Entity) (fields : List SearchField)

namespace Builder

/-- Whether the builder has been initialized. -/
def isReady : Builder → Bool
  | fresh => false
  | ready .. => true

/-- The entity of a builder, if it has one. -/
def entity? : Builder → Option Entity
  | fresh => none
  | ready e _ => some e

/-- The search fields of a builder. -/
def fields : Builder → List SearchField
  | fresh => []
  | ready _ fs => fs

/-- The builder that is ready for an entity, with no value set. -/
def ofEntity (e : Entity) : Builder := ready e (e.searchable.map .ofField)

/-- The field of a name among search fields. -/
def fieldOf? (fields : List SearchField) (name : Value) : Option SearchField :=
  name.text?.bind fun n => fields.find? fun f => f.name == n

/-- The search field of a name in a ready builder. -/
def lookUp (e : Entity) (fields : List SearchField) (name : Value) : Except Error SearchField :=
  if name.canBeKey then
    match fieldOf? fields name with
    | some f => .ok f
    | none => .error (.unknownField name (.text e.name))
  else .error (.shape (.unhashable name.kindName))

/-- The search field of a name. -/
def field (b : Builder) (name : Value) : Except Error SearchField :=
  match b with
  | fresh => .error .notInitialized
  | ready e fs => lookUp e fs name

/-- The type of a search field. -/
def fieldType (b : Builder) (name : Value) : Except Error FieldType :=
  (·.type) <$> b.field name

/-- The value of a search field. -/
def getValue (b : Builder) (name : Value) : Except Error Value :=
  (·.value) <$> b.field name

/-- Puts a value into the field of a name, without a check. -/
def put (fields : List SearchField) (name : Value) (v : Value) : List SearchField :=
  fields.map fun f => if name.text? = some f.name then { f with value := v } else f

/-- Whether a value can be set in the field of a name. -/
def check (b : Builder) (name v : Value) : Except Error Unit :=
  b.field name >>= fun f => SearchField.check v f.type

/-- The builder with a value in the field of a name, without a check. -/
def assign (b : Builder) (name v : Value) : Builder :=
  match b with
  | fresh => fresh
  | ready e fs => ready e (put fs name v)

/-- The builder without any value. -/
def cleared : Builder → Builder
  | fresh => fresh
  | ready e fs => ready e (fs.map .cleared)

/-- Fails unless the builder has been initialized. -/
def require : Builder → Except Error Unit
  | fresh => .error .notInitialized
  | ready .. => .ok ()

/-- Something that is done with a builder, step by step: its outcome, and the builder after it, whether it
fails or not. -/
abbrev Change (α : Type) := ExceptT Error (StateM Builder) α

namespace Change

/-- The outcome of a change, and the builder after it. -/
def apply {α : Type} (c : Change α) (b : Builder) : Except Error α × Builder := c.run b

/-- The builder that a change comes to if it succeeds. -/
def result (c : Change Unit) (b : Builder) : Except Error Builder :=
  let r := c.apply b
  (fun _ => r.2) <$> r.1

/-- Looks at the builder. -/
def look {α : Type} (f : Builder → Except Error α) : Change α := ExceptT.mk fun b => (f b, b)

/-- Writes to the builder. -/
def write (f : Builder → Builder) : Change Unit := modify f

/-- Replaces the entity and the fields. An entity must have a name. -/
def start (e : Entity) : Change Unit :=
  if e.name = "" then throw (.metadata .noName) else write fun _ => ofEntity e

/-- Replaces the entity and the fields by those of a description. -/
def startFrom (v : Value) : Change Unit :=
  if v.isNull then throw (.metadata .noMetadata) else do
    let e ← look fun _ => Entity.read v
    start e

/-- **Sets the value of a search field.** -/
def setValue (name v : Value) : Change Unit := do
  look (·.check name v)
  write (·.assign name v)

/-- **Sets the values of several search fields.** All are checked before the first is set. -/
def setValues (es : Entries) : Change Unit := do
  forM es fun e => look (·.check e.1 e.2)
  forM es fun e => write (·.assign e.1 e.2)

/-- Clears every value. -/
def reset : Change Unit := do
  look require
  write cleared

end Change

/-- The builder that is started with an entity. -/
def start (e : Entity) (b : Builder) : Except Error Builder := (Change.start e).result b

/-- The builder that is started with a description. -/
def startFrom (v : Value) (b : Builder) : Except Error Builder := (Change.startFrom v).result b

/-- The builder with a value that is set. -/
def setValue (b : Builder) (name v : Value) : Except Error Builder :=
  (Change.setValue name v).result b

/-- The builder with several values that are set. -/
def setValues (b : Builder) (es : Entries) : Except Error Builder := (Change.setValues es).result b

/-- The builder whose values are cleared. -/
def reset (b : Builder) : Except Error Builder := Change.reset.result b

/-- The clauses of the fields that are set. -/
def clauses (fields : List SearchField) : Except Error (List String) :=
  (fields.filter (·.isSet)).mapM SearchField.clause

/-- The text of a query from the name of an entity and clauses. -/
def queryText (entity : String) (clauses : List String) : String :=
  "select * from " ++ entity ++
    (if clauses = [] then "" else " where " ++ " and ".intercalate clauses) ++ ";"

/-- **The query.** -/
def build : Builder → Except Error String
  | fresh => .error .notInitialized
  | ready e fs => queryText e.name <$> clauses fs

/-- The name of the entity. -/
def entityName : Builder → Except Error String
  | fresh => .error .notInitialized
  | ready e _ => .ok e.name

/-- The names of the search fields. -/
def fieldNames : Builder → Except Error (List String)
  | fresh => .error .notInitialized
  | ready _ fs => .ok (fs.map (·.name))

/-- The search fields and their values. -/
def searchFields : Builder → Except Error (List SearchField)
  | fresh => .error .notInitialized
  | ready _ fs => .ok fs

/-- The element of a list at an index; a negative index counts from the end. -/
def element? {α : Type} (xs : List α) (i : Int) : Option α :=
  if 0 ≤ i then xs[i.toNat]?
  else if -(xs.length : Int) ≤ i then xs[(xs.length + i).toNat]? else none

/-- An element of a copy of the search fields, with its value replaced in the copy. -/
def snapshotField (b : Builder) (i : Int) (v : Value) : Except Error SearchField :=
  b.searchFields >>= fun fs => match element? fs i with
    | some f => .ok { f with value := v }
    | none => .error (if Value.isIndexSized i then .snapshotIndex else .snapshotIndexSize)

/-- What the log says when a builder has been initialized. -/
def initializedText (e : Entity) : String :=
  "Initialized query builder for '" ++ e.name ++ "' with searchable fields [" ++
    ", ".intercalate (e.searchable.map fun f => Text.quoted f.name) ++ "]"

end Builder
end EntityQuery
