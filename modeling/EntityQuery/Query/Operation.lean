import EntityQuery.Query.Builder

/-!
# Histories of a builder

The operations of a builder as data, so that a statement can speak of every history. A step gives
the answer of an operation and the builder after it, also if the operation fails.
-/

namespace EntityQuery
namespace Builder

/-- An operation on a builder. -/
inductive Operation where
  | startFrom (description : Value)
  | start (entity : Entity)
  | setValue (name value : Value)
  | setValues (entries : Entries)
  | getValue (name : Value)
  | fieldType (name : Value)
  | reset
  | build
  | entityName
  | fieldNames
  | searchFields
  | metadata
  | snapshotField (index : Int) (value : Value)

/-- What an operation answers. -/
inductive Answer where
  | done
  | value (v : Value)
  | text (s : String)
  | texts (ss : List String)
  | type (t : FieldType)
  | field (f : SearchField)
  | fields (fs : List SearchField)
  | entity (e? : Option Entity)

/-- The outcome of an operation that changes the builder, and the builder after it. -/
def change (b : Builder) (c : Change Unit) : Except Error Answer × Builder :=
  let r := c.apply b
  ((fun _ => .done) <$> r.1, r.2)

/-- The outcome of an operation that reads the builder. -/
def observe {α : Type} (b : Builder) (answer : α → Answer) (r : Except Error α) :
    Except Error Answer × Builder :=
  (answer <$> r, b)

/-- **One operation:** its answer and the builder after it. -/
def step (b : Builder) : Operation → Except Error Answer × Builder
  | .startFrom v => b.change (.startFrom v)
  | .start e => b.change (.start e)
  | .setValue name v => b.change (.setValue name v)
  | .setValues es => b.change (.setValues es)
  | .getValue name => b.observe .value (b.getValue name)
  | .fieldType name => b.observe .type (b.fieldType name)
  | .reset => b.change .reset
  | .build => b.observe .text b.build
  | .entityName => b.observe .text b.entityName
  | .fieldNames => b.observe .texts b.fieldNames
  | .searchFields => b.observe .fields b.searchFields
  | .metadata => b.observe .entity (.ok b.entity?)
  | .snapshotField i v => b.observe .field (b.snapshotField i v)

/-- The builder after a history. -/
def run (b : Builder) (operations : List Operation) : Builder :=
  operations.foldl (fun b o => (b.step o).2) b

/-- Nothing is done in an empty history. -/
@[simp] theorem run_nil (b : Builder) : b.run [] = b := rfl

/-- A history goes on with the builder after its first operation. -/
@[simp] theorem run_cons (b : Builder) (o : Operation) (os : List Operation) :
    b.run (o :: os) = (b.step o).2.run os := rfl

end Builder
end EntityQuery
