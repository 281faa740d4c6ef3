import EntityQuery.Proofs.Schema.Catalog
import EntityQuery.Proofs.Service.Reports
import EntityQuery.Proofs.Session.Replies

/-!
# The entity that a session loads

A name is looked up in a catalog, by a client in the catalog of a reply, and by a session when it loads
its entity. All of them find the first entity of the name (`Client.outcome_entity_of_catalog`,
`Session.load_eq_true_iff`), and a session that has loaded it has its searchable fields
(`Session.load_of_isFirst`). The catalog of a good reply is read as the value of its body
(`Client.outcome_catalog_of_value?`), all or nothing. `Session.first_counts` puts the layers together.
-/

namespace EntityQuery

open Outcome
open Service (Reply usualLevels)

/-! ### Clients -/

namespace Client

variable {c : Client} {reply : Reply} {v : Value} {catalog : Catalog} {e : Entity} {err : Error}
  {name : String}

/-- **The catalog of a good reply** is read as the value of its body, if that reports no error. -/
theorem outcome_catalog_of_value? (isOpen : c.isClosed = false)
    (address : c.config.baseUrl.isOk = true) (h : reply.value? = some v)
    (silent : reported? v = none) : (c.catalog reply).outcome = Catalog.read v := by
  obtain ⟨base, address⟩ := isOk_iff.1 address
  rw [outcome_catalog, outcome_fetch isOpen, address]
  show payload base _ reply >>= catalogOf = _
  rw [payload_of_value? h]
  show catalogOf v = _
  rw [catalogOf, silent]

/-- Asking for an entity looks it up in the catalog that would be got. -/
theorem outcome_entity_of_catalog (h : (c.catalog reply).outcome = .ok catalog) (name : String) :
    (c.entity name reply).outcome = match catalog.find? name with
      | some e => .ok e
      | none => .error (.metadata (.unknownEntity name)) := by
  rw [outcome_entity, h]
  rfl

/-- **The first entity of a name is got.** -/
theorem entity_eq_ok_iff_isFirst (h : (c.catalog reply).outcome = .ok catalog) :
    (c.entity name reply).outcome = .ok e ↔ IsFirst (·.name = name) catalog.entities e := by
  rw [outcome_entity_of_catalog h, ← Catalog.find?_eq_some_iff]
  cases catalog.find? name <;> simp

/-- **A name is unknown** exactly if it is none of the names in the catalog. -/
theorem entity_unknown_iff (h : (c.catalog reply).outcome = .ok catalog) :
    (c.entity name reply).outcome = .error (.metadata (.unknownEntity name)) ↔
      name ∉ catalog.names := by
  rw [outcome_entity_of_catalog h, ← Catalog.find?_eq_none_iff]
  cases catalog.find? name <;> simp

/-- Without a catalog neither names nor an entity are got, for the same error. -/
theorem outcome_of_no_catalog (h : (c.catalog reply).outcome = .error err) :
    (c.entityNames reply).outcome = .error err ∧
      ∀ name, (c.entity name reply).outcome = .error err := by
  refine ⟨?_, fun name => ?_⟩
  · rw [outcome_entityNames, h]
    rfl
  · rw [outcome_entity, h]
    rfl

end Client

/-! ### Sessions -/

namespace Session

variable {s : Session} {reply : Reply} {catalog : Catalog} {e : Entity}

/-- **A loading succeeds** exactly if its reply is a catalog with a first entity of the name. -/
theorem load_eq_true_iff : (s.load reply).1.outcome = .ok true ↔
    ∃ catalog e, (s.client.catalog reply).outcome = .ok catalog ∧
      IsFirst (·.name = s.entityName) catalog.entities e := by
  have found : (s.load reply).1.outcome = .ok true ↔
      ∃ e, (s.client.entity s.entityName reply).outcome = .ok e := by
    constructor
    · intro returned
      obtain ⟨e, found, -⟩ | ⟨_, -, -, other, -⟩ | ⟨_, failed, -⟩ := load_cases s reply
      · exact ⟨e, found⟩
      · cases other.symm.trans returned
      · cases failed.symm.trans returned
    · rintro ⟨e, found⟩
      exact (load_of_found found (Client.name_ne_of_entity found)).1
  simp only [found, Client.entity_eq_ok, Catalog.find?_eq_some_iff]
  exact exists_comm

/-- **The first entity of the name is loaded:** nothing but the builder and the text of an error is
replaced, and the builder has a field for each searchable field of the entity, none of them set. -/
theorem load_of_isFirst (h : (s.client.catalog reply).outcome = .ok catalog)
    (first : IsFirst (·.name = s.entityName) catalog.entities e) :
    (s.load reply).1.outcome = .ok true ∧
      (s.load reply).2 = { s with builder := .ofEntity e, error? := none } := by
  have found := (Client.entity_eq_ok_iff_isFirst h).2 first
  exact load_of_found found (Client.name_ne_of_entity found)

/-- **A catalog is read as a whole, and its first entity of a name counts.** A payload is a catalog
exactly if it is an object whose entities are a list of descriptions each of which can be read; then the
catalog has what they are read as, in their order. Any other payload is refused, by the first of the
descriptions that is refused if there is a list of them, and with a metadata error unless that
description names a type with half of a pair. The first entity of a name is found, none exactly if the
name is not in the catalog; so it is when a client is asked for it, and whenever a session has loaded
it. Then the search fields are the searchable fields of this entity. -/
theorem first_counts (v : Value) (c : Client) (s : Session) (reply : Reply) :
    (∀ catalog, Catalog.read v = .ok catalog ↔ ∃ ds, Schema.Lists v ds ∧
      List.Forall₂ (fun d e => Entity.read d = .ok e) ds catalog.entities) ∧
    ((∃ catalog, Catalog.read v = .ok catalog) ↔
      ∃ ds, Schema.Lists v ds ∧ ∀ d ∈ ds, ∃ e, Entity.read d = .ok e) ∧
    (∀ err, Catalog.read v = .error err ↔ Catalog.Refusal v err) ∧
    (v.isWritable = true → ((∀ err, Catalog.read v = .error err → err.kind = .metadata) ↔
      ∀ ds d, Schema.Lists v ds → IsFirst Schema.IsRefused ds d →
        Schema.namesRaggedType d = false)) ∧
    (∀ (catalog : Catalog) (name : String),
      (∀ e, catalog.find? name = some e ↔ IsFirst (·.name = name) catalog.entities e) ∧
      (catalog.find? name = none ↔ name ∉ catalog.names)) ∧
    (c.isClosed = false → c.config.baseUrl.isOk = true → reply.value? = some v →
      Client.reported? v = none →
        v.isWritable = true ∧ (c.catalog reply).outcome = Catalog.read v) ∧
    (∀ catalog, (c.catalog reply).outcome = .ok catalog →
      (∃ w, reply.value? = some w ∧ Catalog.read w = .ok catalog) ∧
      (c.entityNames reply).outcome = .ok catalog.names ∧
      ∀ name, (∀ e, (c.entity name reply).outcome = .ok e ↔
          IsFirst (·.name = name) catalog.entities e) ∧
        ((c.entity name reply).outcome = .error (.metadata (.unknownEntity name)) ↔
          name ∉ catalog.names)) ∧
    (∀ err, (c.catalog reply).outcome = .error err → (c.entityNames reply).outcome = .error err ∧
      ∀ name, (c.entity name reply).outcome = .error err) ∧
    ((s.load reply).1.outcome = .ok true ↔
      ∃ catalog e, (s.client.catalog reply).outcome = .ok catalog ∧
        IsFirst (·.name = s.entityName) catalog.entities e) ∧
    ∀ catalog e, (s.client.catalog reply).outcome = .ok catalog →
      IsFirst (·.name = s.entityName) catalog.entities e →
        (s.load reply).2 = { s with builder := .ofEntity e, error? := none } ∧
        (s.load reply).2.builder.searchFields = .ok (e.searchable.map .ofField) := by
  refine ⟨fun catalog => Catalog.read_eq_ok_iff, Catalog.exists_read_iff,
    fun err => Catalog.read_eq_error_iff, Catalog.refused_as_metadata_iff,
    fun catalog name => ⟨fun e => Catalog.find?_eq_some_iff, Catalog.find?_eq_none_iff⟩,
    fun isOpen address value silent => ?_, fun catalog asked => ?_,
    fun err => Client.outcome_of_no_catalog, load_eq_true_iff, fun catalog e asked first => ?_⟩
  · exact ⟨Client.isWritable_of_value? value,
      Client.outcome_catalog_of_value? isOpen address value silent⟩
  · obtain ⟨w, value, -, read⟩ := Client.exists_value?_of_catalog asked
    refine ⟨⟨w, value, read⟩, ?_, fun name =>
      ⟨fun e => Client.entity_eq_ok_iff_isFirst asked, Client.entity_unknown_iff asked⟩⟩
    rw [Client.outcome_entityNames, asked]
    rfl
  · have loaded := (load_of_isFirst asked first).2
    exact ⟨loaded, by rw [loaded]; rfl⟩

/-- A catalog in which two entities have one name. -/
def twinCatalog : Reply := .answered 200 "OK" (Text.encode
  "\x7b\"entities\":[\x7b\"name\":\"order\"\x7d,\x7b\"name\":\"user\",\"fields\":[\x7b\"name\":\"id\",\"type\":\"integer\",\"search\":true\x7d]\x7d,\x7b\"name\":\"user\"\x7d]\x7d")

/-- The first of the two. -/
def firstTwin : Entity := ⟨"user", [⟨"id", .integer, true⟩], by decide⟩

/-- The catalog is read with both, and the first of the two is loaded. -/
theorem first_counts_twin :
    (∃ v, twinCatalog.value? = some v ∧ v.isWritable = true ∧
      (localClient.catalog twinCatalog).outcome = Catalog.read v ∧
      Catalog.read v = .ok ⟨[.bare "order", firstTwin, .bare "user"]⟩) ∧
    (localClient.entity "user" twinCatalog).outcome = .ok firstTwin ∧
    ((start localClient "user").load twinCatalog).1.outcome = .ok true ∧
    ((start localClient "user").load twinCatalog).2.builder.searchFields =
      .ok [⟨"id", .integer, .null⟩] := by
  have asked : (localClient.catalog twinCatalog).outcome =
      .ok ⟨[.bare "order", firstTwin, .bare "user"]⟩ := toOption_eq_some.1 (by decide +kernel)
  have first : IsFirst (·.name = "user") [.bare "order", firstTwin, .bare "user"] firstTwin :=
    isFirst_iff_append.2 ⟨rfl, [.bare "order"], [.bare "user"], rfl, by decide⟩
  have address : localClient.config.baseUrl.isOk = true := by decide +kernel
  obtain ⟨v, value, silent, read⟩ := Client.exists_value?_of_catalog asked
  obtain ⟨-, -, -, -, -, got, looks, -, loads, effect⟩ :=
    first_counts v localClient (start localClient "user") twinCatalog
  obtain ⟨writable, same⟩ := got rfl address value silent
  obtain ⟨-, -, found⟩ := looks _ asked
  exact ⟨⟨v, value, writable, same, read⟩, ((found "user").1 firstTwin).2 first,
    loads.2 ⟨_, _, asked, first⟩, (effect _ _ asked first).2⟩

/-- The text of a catalog whose first entity can be read, while the second names a type with half of a
pair. -/
def halvedCatalog : List UInt8 := Text.encode
  "\x7b\"entities\":[\x7b\"name\":\"user\"\x7d,\x7b\"name\":\"e\",\"fields\":[\x7b\"name\":\"a\",\"type\":\"\\ud800\"\x7d]\x7d]\x7d"

/-- Not every payload that is no catalog is refused with a metadata error. -/
theorem exists_refusal_apart : ¬ ∀ body v, Payload.ofBytes body usualLevels = .ok (some v) →
    ∀ err, Catalog.read v = .error err → err.kind = .metadata := by
  intro only
  have halved : (Payload.ofBytes halvedCatalog usualLevels).toOption.join.any
      (fun v => (Schema.firstRefused? v).any Schema.namesRaggedType) = true := by decide +kernel
  obtain ⟨v, read, halved⟩ := (Option.any_eq_true _ _).1 halved
  obtain ⟨d, first, halved⟩ := (Option.any_eq_true _ _).1 halved
  have payload : Payload.ofBytes halvedCatalog usualLevels = .ok (some v) :=
    toOption_eq_some.1 (Option.join_eq_some_iff.1 read)
  have metadata := Catalog.read_fails_as_metadata_iff.1 (only _ v payload) d first
  rw [(Schema.refusalKind_eq_metadata_iff.1 metadata).1] at halved
  cases halved

end Session
end EntityQuery
