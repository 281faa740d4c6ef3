import EntityQuery.Schema.Entity

/-!
# The catalog of a service

A service publishes its entities as one list. The catalog is read as a whole: one entity that is
not well described spoils it. Entities of one name may follow each other, and the first counts.
-/

namespace EntityQuery

/-- The entities of a service, in the order in which they are published. -/
structure Catalog where
  entities : List Entity
deriving DecidableEq, Inhabited

namespace Catalog

/-- The names of the entities. -/
def names (c : Catalog) : List String := c.entities.map (·.name)

/-- **The first entity of a name.** -/
def find? (c : Catalog) (name : String) : Option Entity := c.entities.find? (·.name == name)

/-- No entity is found exactly when the name is not in the catalog. -/
theorem find?_eq_none_iff {c : Catalog} {name : String} :
    c.find? name = none ↔ name ∉ c.names := by
  simp only [find?, names, List.find?_eq_none, List.mem_map, beq_iff_eq, not_exists, not_and]

/-- **The catalog of a payload;** the first entity that is not well described decides the error. -/
def read [Validation] (v : Value) : Except Error Catalog :=
  match v with
  | .mapping es =>
    match Entries.get? es "entities" with
    | none => .error (.metadata .noEntities)
    | some (.list vs) => Catalog.mk <$> vs.mapM Entity.read
    | some _ => .error (.metadata .entitiesNotList)
  | _ => .error (.metadata .noEntities)

end Catalog
end EntityQuery
