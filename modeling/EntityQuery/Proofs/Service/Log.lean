import EntityQuery.Proofs.Service.Exchange
import EntityQuery.Service.Client

/-!
# Clients under a log

What a client does under a log that may refuse records is what it does under one that takes everything,
up to the first record that is refused. `Client.connect_under` says so of making a client and
`Client.step_under` of every operation, each from the same fact about the request in it
(`Client.fetch_under`). What happens to the client itself does not depend on the log.
-/

namespace EntityQuery
namespace Client

open Logging (Log)
open Service (Endpoint Exchange Reply Settings)

variable (c : Client) (log : Log) (reply : Reply)

/-- **Making a client under a log.** -/
theorem connect_under (s : Settings) : (connect s).under log = connect s log := by
  simp only [connect, Exchange.under_bind, Exchange.under_ofExcept, Exchange.under_tell]
  rfl

/-- **A request under a log.** -/
theorem fetch_under (endpoint : Endpoint) (parameters : List (String × String)) :
    (c.fetch endpoint parameters reply).under log = c.fetch endpoint parameters reply log := by
  unfold fetch
  split
  · rfl
  · simp only [Exchange.under_bind, Exchange.under_ofExcept, Exchange.under_tell,
      Exchange.under_send]

/-- **Asking for the catalog under a log** tells it the same up to the first record that it refuses. -/
theorem catalog_under : (c.catalog reply).under log = c.catalog reply log := by
  rw [catalog, Exchange.under_bind, fetch_under]
  rfl

/-- So does asking for the names. -/
theorem entityNames_under : (c.entityNames reply).under log = c.entityNames reply log := by
  rw [entityNames, Exchange.under_bind, catalog_under]
  rfl

/-- So does asking for an entity. -/
theorem entity_under (name : String) : (c.entity name reply).under log = c.entity name reply log := by
  rw [entity, Exchange.under_bind, catalog_under, entity]
  congr 1
  funext catalog
  cases catalog.find? name <;> rfl

/-- **So does running a query.** -/
theorem execute_under (query : String) (user? : Option String) :
    (c.execute query user? reply).under log = c.execute query user? reply log := by
  rw [execute, Exchange.under_bind, fetch_under]
  rfl

/-- **An operation under a log** does what it does without one, up to the first record that the log
refuses. The client after it is the same. -/
theorem step_under (o : Operation) :
    c.step reply o log = ((c.step reply o).1.under log, (c.step reply o).2) := by
  cases o with
  | catalog => simp only [step, Exchange.under_map, catalog_under]
  | entityNames => simp only [step, Exchange.under_map, entityNames_under]
  | entity name => simp only [step, Exchange.under_map, entity_under]
  | execute query user? => simp only [step, Exchange.under_map, execute_under]
  | baseUrl | close | within => rfl

end Client
end EntityQuery
