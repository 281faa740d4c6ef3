import EntityQuery.Proofs.CommandLine.Console
import EntityQuery.Proofs.CommandLine.Filters
import EntityQuery.Proofs.CommandLine.User
import EntityQuery.Proofs.Service.Content
import EntityQuery.Proofs.Session.Requests

/-!
# What a run asks the service for

A run sends nothing, or asks for the catalog, or asks for the catalog and runs the query. It runs the
query exactly if nothing else is wanted, every stage before it succeeds (`Arguments.Prepares`), and the
run is not a dry one, and if nothing before is refused by the console or the log (`Report.Asks`). The form
that is sent holds the query that the run prints, and the user that was given last (`requests_run`). Only
the text `--` is not sent as the user that it is (`exists_user_changed`).
-/

namespace EntityQuery
namespace CommandLine

open Interruption
open Outcome
open Service (Act Endpoint Exchange Reply Request Seconds)

/-! ### What a run goes through -/

/-- The request for the catalog. -/
def catalogRequest (base : String) (timeout : Seconds) : Request := ⟨base ++ "/entityMeta", timeout⟩

/-- The request for a query, with its form. -/
def queryRequest (base : String) (timeout : Seconds) (form : List Char) : Request :=
  ⟨base ++ "/sql?" ++ String.ofList form, timeout⟩

namespace Arguments

/-- Whether the settings give a client under a base address. -/
structure Reaches (a : Arguments) (c : Client) (base : String) : Prop where
  connected : (Client.connect a.settings).outcome = .ok c
  address : c.config.baseUrl = .ok base

/-- Whether nothing is sent, or the request for the catalog. -/
def SendsNoQuery (a : Arguments) (requests : List Request) : Prop :=
  requests = [] ∨ ∃ c base, a.Reaches c base ∧ requests = [catalogRequest base c.config.timeout]

/-- Whether the request for the catalog is sent, and then that for a query with its form. -/
def SendsQuery (a : Arguments) (form : List Char) (requests : List Request) : Prop :=
  ∃ c base, a.Reaches c base ∧
    requests = [catalogRequest base c.config.timeout, queryRequest base c.config.timeout form]

/-- What a run goes through before its query: it is not about all entities or the fields, the log is
set up, the settings are accepted, an entity is named, its description is loaded, and every filter is
accepted. -/
structure Prepares (a : Arguments) (service : Endpoint → Reply) (c : Client)
    (name : String) (b : Builder) : Prop where
  searches : a.listEntities = false ∧ a.listFields = false
  log : (Logging.Logger.initial.setup a.setup).1 = .ok ()
  connected : (Client.connect a.settings).outcome = .ok c
  named : a.entity? = some name ∧ name ≠ ""
  loaded : ((Session.start c name).load (service .metadata)).1.outcome = .ok true
  filtered : applyFilters ((Session.start c name).load (service .metadata)).2.builder a.filters =
    .ok b

/-- What a run goes through before its filters, with the entity that is loaded. -/
structure Loads (a : Arguments) (service : Endpoint → Reply) (c : Client) (name : String)
    (e : Entity) : Prop where
  searches : a.listEntities = false ∧ a.listFields = false
  log : (Logging.Logger.initial.setup a.setup).1 = .ok ()
  connected : (Client.connect a.settings).outcome = .ok c
  named : a.entity? = some name ∧ name ≠ ""
  found : (c.entity name (service .metadata)).outcome = .ok e

end Arguments

variable {a : Arguments} {c : Client} {entity name query : String} {s : Session} {b : Builder}
  {service : Endpoint → Reply}

/-- The client of the settings asks for the catalog once, if it has an address. -/
theorem sendsNoQuery_catalog (connected : (Client.connect a.settings).outcome = .ok c)
    (reply : Reply) : a.SendsNoQuery (c.catalog reply).requests := by
  have isOpen := Client.isClosed_of_connect connected
  cases address : c.config.baseUrl with
  | ok base =>
    exact .inr ⟨c, base, ⟨connected, address⟩, Client.requests_catalog isOpen address reply⟩
  | error e =>
    have failed : (Exchange.ofExcept c.config.baseUrl).outcome = .error e := address
    refine .inl ?_
    rw [Client.catalog, Exchange.requests_bind_ofExcept, Client.fetch, isOpen,
      if_neg Bool.false_ne_true, Exchange.requests_bind_of_error failed]
    rfl

/-- The form can be told from the requests. -/
theorem Arguments.SendsQuery.form_eq {form form' : List Char} {requests : List Request}
    (h : a.SendsQuery form requests) (h' : a.SendsQuery form' requests) : form = form' := by
  obtain ⟨c, base, ⟨connected, address⟩, sent⟩ := h
  obtain ⟨c', base', ⟨connected', address'⟩, sent'⟩ := h'
  obtain rfl := Except.ok.inj (connected.symm.trans connected')
  obtain rfl := Except.ok.inj (address.symm.trans address')
  obtain ⟨-, query⟩ := List.cons.inj (sent.symm.trans sent')
  have urls := congrArg Request.url (List.cons.inj query).1
  simp only [queryRequest, ← String.toList_inj, String.toList_append, String.toList_ofList] at urls
  exact List.append_cancel_left urls

/-- Requests without a query are not those of a query. -/
theorem Arguments.SendsNoQuery.not_sendsQuery {requests : List Request}
    (h : a.SendsNoQuery requests) (form : List Char) : ¬ a.SendsQuery form requests := by
  rintro ⟨_, _, -, sent⟩
  obtain nothing | ⟨_, _, -, catalog⟩ := h
  · cases nothing.symm.trans sent
  · cases (List.cons.inj (catalog.symm.trans sent)).2

/-- The front of requests without a query is one without a query. -/
theorem Arguments.SendsNoQuery.of_prefix {requests front : List Request}
    (h : a.SendsNoQuery requests) (le : front <+: requests) : a.SendsNoQuery front := by
  obtain rfl | ⟨c, base, reaches, rfl⟩ := h
  · exact .inl (List.prefix_nil.1 le)
  · cases front with
    | nil => exact .inl rfl
    | cons first rest =>
      obtain ⟨rfl, nothing⟩ := List.cons_prefix_cons.1 le
      obtain rfl := List.prefix_nil.1 nothing
      exact .inr ⟨c, base, reaches, rfl⟩

/-! ### The request for a query -/

/-- The request that an event sends. -/
def Event.request? (event : Event) : Option Request := event.act?.bind Act.request?

/-- Whether an event asks the service for a query. -/
def Event.asksQuery : Event → Bool
  | .act (.sent .execution _) => true
  | _ => false

namespace Report

/-- What happens in a run before the service is asked for a query. -/
def beforeQuery (r : Report) : List Event := r.events.takeWhile fun event => !event.asksQuery

/-- Whether a report asks for a query once, behind some requests and some output. -/
structure Asks (r : Report) (prior : List Request) (request : Request) (out : List Output) : Prop where
  exists_split : ∃ after, r.events = r.beforeQuery ++ .act (.sent .execution request) :: after ∧
    after.filterMap Event.request? = []
  prior : r.beforeQuery.filterMap Event.request? = prior
  out : r.beforeQuery.filterMap Event.output? = out

variable {r : Report} {prior : List Request} {request : Request} {out : List Output}
  {console : Console}

/-- The requests of a report are those of its events. -/
theorem requests_eq (r : Report) : r.requests = r.events.filterMap Event.request? :=
  List.filterMap_filterMap ..

/-- On a console no more is sent than without. -/
theorem requests_under_prefix : (r.under console).requests <+: r.requests := by
  rw [requests_eq, requests_eq, events_under]
  exact (List.takeWhile_prefix _).filterMap _

/-- **The requests of a report that asks for a query.** -/
theorem Asks.requests (h : r.Asks prior request out) : r.requests = prior ++ [request] := by
  obtain ⟨after, split, silent⟩ := h.exists_split
  rw [requests_eq, split, List.filterMap_append, List.filterMap_cons, h.prior, silent]
  rfl

/-- What is put before a report that asks for a query comes before the query. -/
theorem Asks.append (h : r.Asks prior request out) (front : List Event)
    (still : ∀ event ∈ front, event.asksQuery = false) : Asks { r with events := front ++ r.events }
      (front.filterMap Event.request? ++ prior) request (front.filterMap Event.output? ++ out) := by
  have before : beforeQuery { r with events := front ++ r.events } = front ++ r.beforeQuery :=
    List.takeWhile_append_of_pos fun event mem => by simp [still event mem]
  obtain ⟨after, split, silent⟩ := h.exists_split
  refine ⟨⟨after, ?_, silent⟩, ?_, ?_⟩
  · rw [before, List.append_assoc]
    exact congrArg (front ++ ·) split
  · rw [before, List.filterMap_append, h.prior]
  · rw [before, List.filterMap_append, h.out]

/-- **An exchange that asks for the query,** in front of a report that asks for nothing. -/
theorem asks_after {α : Type} {x : Exchange α} {first : Logging.Record} {rest : List Act}
    (acts : x.acts = .told first :: .sent .execution request :: rest)
    (last : rest.filterMap Act.request? = []) (silent : r.requests = []) :
    (after x r).Asks [] request [] := by
  have before : (after x r).beforeQuery = [.act (.told first)] := by
    rw [beforeQuery, after, acts]
    rfl
  refine ⟨⟨rest.map .act ++ r.events, ?_, ?_⟩, ?_, ?_⟩
  · rw [before, after, acts]
    rfl
  · rw [requests_eq] at silent
    rw [List.filterMap_append, silent, List.filterMap_map, List.append_nil]
    exact last
  · rw [before]
    rfl
  · rw [before]
    rfl

/-- An exchange that asks for no query comes before the query. -/
theorem Asks.after {α : Type} {x : Exchange α} (h : r.Asks prior request out)
    (still : ∀ act ∈ x.acts, (Event.act act).asksQuery = false) :
    (after x r).Asks (x.requests ++ prior) request out := by
  have asks := h.append (x.acts.map .act) (by simpa using still)
  have sent : (x.acts.map .act).filterMap Event.request? = x.requests := List.filterMap_map
  have silent : (x.acts.map .act).filterMap Event.output? = [] := by
    rw [List.filterMap_map]
    exact List.filterMap_none _
  rwa [sent, silent] at asks

/-- A record comes before the query. -/
theorem Asks.log (h : r.Asks prior request out) (record : Logging.Record) :
    (r.log .recording record).Asks prior request out :=
  h.append [.act (.told record)] (by simp [Event.asksQuery])

/-- Output comes before the query. -/
theorem Asks.print (h : r.Asks prior request []) (first : List Output) :
    (r.print .recording first).Asks prior request first := by
  have asks := h.append (first.map fun o => .shown (.output o)) (by simp [Event.asksQuery])
  have silent : (first.map fun o => Event.shown (.output o)).filterMap Event.request? = [] := by
    rw [List.filterMap_map]
    exact List.filterMap_none _
  have shown : (first.map fun o => Event.shown (.output o)).filterMap Event.output? = first := by
    rw [List.filterMap_map]
    exact List.filterMap_some
  rw [silent, shown, List.append_nil] at asks
  rwa [print_recording]

/-- What stands before the query is all that a console lets through, or the query and what stands before
it are let through. -/
theorem Asks.under_cases (h : r.Asks prior request out) (console : Console) :
    (¬ (∀ event ∈ r.beforeQuery, event.refusal? console = none) ∧
      (r.under console).requests <+: prior) ∨
    (∀ event ∈ r.beforeQuery, event.refusal? console = none) ∧
      (r.under console).requests = prior ++ [request] ∧ out <+: (r.under console).out := by
  obtain ⟨after, split, silent⟩ := h.exists_split
  have events : (r.under console).events = passed (Event.refusal? console) r.events := events_under
  rw [← cause?_eq_none_iff, requests_eq, events, split, passed_append]
  cases cause : cause? (Event.refusal? console) r.beforeQuery with
  | some e =>
    refine .inl ⟨Option.some_ne_none e, ?_⟩
    rw [← h.prior, Option.isNone_some, if_neg Bool.false_ne_true, List.append_nil]
    exact (List.takeWhile_prefix _).filterMap _
  | none =>
    -- no console refuses a request
    have sent : passed (Event.refusal? console) (.act (.sent .execution request) :: after) =
        .act (.sent .execution request) :: passed (Event.refusal? console) after := rfl
    have rest : (passed (Event.refusal? console) after).filterMap Event.request? = [] := by
      have front := (List.takeWhile_prefix (l := after) fun event =>
        (event.refusal? console).isNone).filterMap Event.request?
      exact List.prefix_nil.1 (silent ▸ front)
    refine .inr ⟨rfl, ?_, ?_⟩
    · rw [passed_of_cause?_eq_none cause, Option.isNone_none, if_pos rfl, sent, List.filterMap_append,
        List.filterMap_cons, h.prior, rest]
      rfl
    · rw [Report.out, events, split, passed_append, passed_of_cause?_eq_none cause,
        List.filterMap_append, h.out]
      exact List.prefix_append ..

end Report

/-! ### Stages -/

/-- **From the query on,** it is run once, unless the run is a dry one. -/
theorem requests_runQuery (built : s.builder.build = .ok query) :
    (runQuery a entity s query service).requests = if a.dryRun then [] else
      (s.client.execute query a.user? (service .execution)).requests := by
  simp only [runQuery, log_recording, Report.requests_log, Report.requests_print]
  cases a.dryRun with
  | true => rfl
  | false =>
    rw [if_neg Bool.false_ne_true, if_neg Bool.false_ne_true, Report.requests_after,
      Session.requests_search built]
    split
    · exact List.append_nil _
    · exact List.append_nil _
    · split <;> exact List.append_nil _

/-- **A run that is no dry one asks for its query,** behind the query itself if that is to be shown. -/
theorem asks_runQuery {base : String} (entity : String) (service : Endpoint → Reply)
    (isOpen : s.client.isClosed = false)
    (address : s.client.config.baseUrl = .ok base) (built : s.builder.build = .ok query)
    (wet : a.dryRun = false) : (runQuery a entity s query service).Asks []
      (queryRequest base s.client.config.timeout (Form.encode (Client.parameters query a.user?)))
      (if a.showQuery = true then [.line query] else []) := by
  obtain ⟨records, acts⟩ := Session.acts_search built a.user? (service .execution)
  rw [Client.execute, Exchange.acts_bind_ofExcept, Client.acts_fetch isOpen address,
    Client.address_execution] at acts
  simp only [runQuery, log_recording, wet, Bool.or_false, Bool.false_eq_true, if_false]
  refine .log (.print (Report.asks_after acts (Exchange.filterMap_request?_told records) ?_) _) _
  split
  · rfl
  · rfl
  · split <;> rfl

/-- A query that is to be shown is printed before anything else. -/
theorem head?_runQuery (shown : a.showQuery = true) :
    (runQuery a entity s query service).out.head? = some (.line query) := by
  simp [runQuery, shown]

/-- **From the entity that is loaded on,** nothing is sent unless the query is reached. -/
theorem requests_runLoaded_of_not (h : ∀ b, a.dryRun = false → a.listFields = false →
    applyFilters s.builder a.filters ≠ .ok b) : (runLoaded a entity s service).requests = [] := by
  unfold runLoaded
  cases fields : a.listFields with
  | true =>
    rw [if_pos rfl]
    split <;> rfl
  | false =>
    rw [if_neg Bool.false_ne_true]
    cases applied : applyFilters s.builder a.filters with
    | error e =>
      simp only
      split <;> rfl
    | ok b =>
      simp only
      cases built : b.build with
      | error e => rfl
      | ok query =>
        -- every filter was accepted, so only a dry run is left
        have dry : a.dryRun = true := by
          rw [← Bool.not_eq_false]
          exact fun wet => h b wet fields applied
        simp only
        rw [requests_runQuery (s := { s with builder := b }) built, dry, if_pos rfl]

/-- A run for an entity loads its description first. -/
theorem runClient_of_named (list : a.listEntities = false)
    (named : a.entity? = some name ∧ name ≠ "") : runClient a c service =
      Report.after ((Session.start c name).load (service .metadata)).1
        (match ((Session.start c name).load (service .metadata)).1.outcome with
        | .error e => Report.leave e
        | .ok false => Report.failure .recording "Error"
            (((Session.start c name).load (service .metadata)).2.error?.getD "None")
        | .ok true => runLoaded a name ((Session.start c name).load (service .metadata)).2
            service) := by
  obtain ⟨given, nonempty⟩ := named
  rw [runClient, if_neg (by simp [list])]
  split
  · next missing => cases given.symm.trans missing
  · next empty => exact absurd (Option.some.inj (given.symm.trans empty)) nonempty
  · next _ found =>
    obtain rfl := Option.some.inj (given.symm.trans found)
    rfl

/-- An entity is found under an address only. -/
theorem exists_address_of_entity {reply : Reply} {e : Entity} (isOpen : c.isClosed = false)
    (h : (c.entity name reply).outcome = .ok e) : ∃ base, c.config.baseUrl = .ok base := by
  obtain ⟨catalog, asked, -⟩ := Client.entity_eq_ok.1 h
  exact isOk_iff.1 ((Client.catalog_eq_ok_iff isOpen).1 asked).1

/-! ### The whole run -/

/-- The session of an entity that is loaded. -/
def loadedSession (c : Client) (name : String) (e : Entity) : Session :=
  { Session.start c name with builder := .ofEntity e, error? := none }

/-- **A run that has loaded its entity** goes on from there. -/
theorem runArguments_of_loads {e : Entity} (h : a.Loads service c name e) :
    runArguments a service = Report.after (a.setUp .recording)
      (Report.after (Client.connect a.settings)
        (Report.after ((Session.start c name).load (service .metadata)).1
          (runLoaded a name (loadedSession c name e) service))) := by
  obtain ⟨⟨list, -⟩, log, connected, named, found⟩ := h
  have setUp : (a.setUp .recording).outcome = .ok () := log
  obtain ⟨returned, state⟩ := Session.load_of_found (s := .start c name) found
    (Client.name_ne_of_entity found)
  simp only [runArguments, setUp, Arguments.consoleOf_recording, runSetUp, log_recording, connected,
    runClient_of_named list named, returned, state, loadedSession]

/-- Setting up the log sends nothing. -/
theorem requests_setUp (console : Console) : (a.setUp console).requests = [] :=
  Exchange.filterMap_request?_told _

/-- A loading asks for the catalog. -/
theorem requests_load_start {base : String} (isOpen : c.isClosed = false)
    (address : c.config.baseUrl = .ok base) (name : String) (reply : Reply) :
    ((Session.start c name).load reply).1.requests = [catalogRequest base c.config.timeout] := by
  rw [Session.requests_load, Client.requests_entity]
  exact Client.requests_catalog isOpen address reply

/-- A run that has loaded its entity has asked for the catalog. -/
theorem requests_of_loads {e : Entity} (h : a.Loads service c name e) :
    ∃ base, a.Reaches c base ∧ (runArguments a service).requests =
      catalogRequest base c.config.timeout ::
        (runLoaded a name (loadedSession c name e) service).requests := by
  have isOpen := Client.isClosed_of_connect h.connected
  obtain ⟨base, address⟩ := exists_address_of_entity isOpen h.found
  refine ⟨base, ⟨h.connected, address⟩, ?_⟩
  rw [runArguments_of_loads h, Report.requests_after, requests_setUp, Report.requests_after,
    Client.requests_connect, Report.requests_after, requests_load_start isOpen address]
  rfl

/-- What sends nothing asks for no query. -/
theorem not_asksQuery_of_silent {α : Type} {x : Exchange α} (silent : x.requests = []) :
    ∀ act ∈ x.acts, (Event.act act).asksQuery = false := by
  rintro (⟨endpoint, r⟩ | r) mem
  · have sent : r ∈ x.requests := List.mem_filterMap.2 ⟨_, mem, rfl⟩
    cases silent ▸ sent
  · rfl

/-- A loading asks for no query. -/
theorem not_asksQuery_load {base : String} (isOpen : c.isClosed = false)
    (address : c.config.baseUrl = .ok base) (name : String) (reply : Reply) :
    ∀ act ∈ ((Session.start c name).load reply).1.acts, (Event.act act).asksQuery = false := by
  obtain ⟨records, acts⟩ := (Session.start c name).acts_load reply
  have acts : ((Session.start c name).load reply).1.acts =
      (c.entity name reply).acts ++ records.map .told := acts
  rw [Client.acts_entity, Client.acts_fetch isOpen address] at acts
  intro act mem
  rw [acts] at mem
  obtain mem | mem := List.mem_append.1 mem
  · simp only [List.mem_cons, List.not_mem_nil, or_false] at mem
    obtain rfl | rfl := mem <;> rfl
  · obtain ⟨r, -, rfl⟩ := List.mem_map.1 mem
    rfl

/-- Filters that are all taken lead to the query. -/
theorem runLoaded_of_applied (fields : a.listFields = false)
    (applied : applyFilters s.builder a.filters = .ok b) (built : b.build = .ok query) :
    runLoaded a entity s service = runQuery a entity { s with builder := b } query service := by
  rw [runLoaded, fields, if_neg Bool.false_ne_true]
  simp only [applied, built]

/-- **A run that takes its filters and is no dry one** asks for the catalog and then for its query, for
the user that was given. -/
theorem asks_of_applied {e : Entity} (h : a.Loads service c name e)
    (applied : applyFilters (.ofEntity e) a.filters = .ok b) (built : b.build = .ok query)
    (wet : a.dryRun = false) : ∃ base, a.Reaches c base ∧
      (runArguments a service).Asks [catalogRequest base c.config.timeout]
        (queryRequest base c.config.timeout (Form.encode (Client.parameters query a.user?)))
        (if a.showQuery = true then [.line query] else []) := by
  have isOpen := Client.isClosed_of_connect h.connected
  obtain ⟨base, address⟩ := exists_address_of_entity isOpen h.found
  have asks :=
    asks_runQuery (s := { loadedSession c name e with builder := b }) name service isOpen address
      built wet
  rw [← runLoaded_of_applied (s := loadedSession c name e) h.searches.2 applied built] at asks
  have asks := ((asks.after (not_asksQuery_load isOpen address name (service .metadata))).after
    (not_asksQuery_of_silent (Client.requests_connect a.settings))).after
    (not_asksQuery_of_silent (requests_setUp (a := a) .recording))
  rw [requests_setUp, Client.requests_connect, requests_load_start isOpen address,
    ← runArguments_of_loads h] at asks
  exact ⟨base, ⟨h.connected, address⟩, asks⟩

/-- So it sends both requests. -/
theorem sendsQuery_of_applied {e : Entity} (h : a.Loads service c name e)
    (applied : applyFilters (.ofEntity e) a.filters = .ok b) (built : b.build = .ok query)
    (wet : a.dryRun = false) : a.SendsQuery (Form.encode (Client.parameters query a.user?))
      (runArguments a service).requests := by
  obtain ⟨base, reaches, asks⟩ := asks_of_applied h applied built wet
  exact ⟨c, base, reaches, asks.requests⟩

/-- **A run that is prepared and no dry one** asks for the catalog and runs the query that it builds. -/
theorem asks_of_prepares (h : a.Prepares service c name b) (wet : a.dryRun = false) :
    ∃ query base, a.Reaches c base ∧
      (runArguments a service).Asks [catalogRequest base c.config.timeout]
        (queryRequest base c.config.timeout (Form.encode (Client.parameters query a.user?)))
        (if a.showQuery = true then [.line query] else []) := by
  obtain ⟨searches, log, connected, named, loaded, filtered⟩ := h
  obtain ⟨e, found, -, -, state⟩ | ⟨_, -, -, refused, -⟩ | ⟨_, failed, -⟩ :=
    Session.load_cases (.start c name) (service .metadata)
  · rw [state] at filtered
    obtain ⟨query, built⟩ := exists_build_of_applyFilters filtered
    exact ⟨query, asks_of_applied ⟨searches, log, connected, named, found⟩ filtered built wet⟩
  · cases refused.symm.trans loaded
  · cases failed.symm.trans loaded

/-- From the client on, any other run asks for the catalog at most. -/
theorem sendsNoQuery_runClient (log : (Logging.Logger.initial.setup a.setup).1 = .ok ())
    (connected : (Client.connect a.settings).outcome = .ok c)
    (h : ∀ name b, a.dryRun = false → ¬ a.Prepares service c name b) :
    a.SendsNoQuery (runClient a c service).requests := by
  have short := sendsNoQuery_catalog connected (service .metadata)
  cases list : a.listEntities with
  | true =>
    rw [runClient, list, if_pos rfl, log_recording, Report.requests_after,
      Client.requests_entityNames]
    split
    · simpa using short
    · split <;> simpa using short
  | false =>
    by_cases named : ∃ name, a.entity? = some name ∧ name ≠ ""
    · -- the catalog is asked for, and nothing is sent after it
      obtain ⟨name, named⟩ := named
      rw [runClient_of_named list named, Report.requests_after, Session.requests_load,
        Client.requests_entity]
      show a.SendsNoQuery ((c.catalog _).requests ++ _)
      cases loaded : ((Session.start c name).load (service .metadata)).1.outcome with
      | error e => simpa using short
      | ok flag =>
        cases flag with
        | false => simpa using short
        | true =>
          have silent : (runLoaded a name
              ((Session.start c name).load (service .metadata)).2 service).requests = [] :=
            requests_runLoaded_of_not fun b wet fields filtered =>
              h name b wet ⟨⟨list, fields⟩, log, connected, named, loaded, filtered⟩
          simpa [silent] using short
    · rw [runClient, if_neg (by simp [list])]
      split
      · exact .inl rfl
      · exact .inl rfl
      · next name nonempty given => exact absurd ⟨name, given, nonempty⟩ named

/-- **Any other run** sends nothing or asks for the catalog. -/
theorem sendsNoQuery_of_not (h : ∀ c name b, a.dryRun = false → ¬ a.Prepares service c name b) :
    a.SendsNoQuery (runArguments a service).requests := by
  have setUp : (a.setUp .recording).outcome = (Logging.Logger.initial.setup a.setup).1 := rfl
  simp only [runArguments, setUp, Arguments.consoleOf_recording, Report.requests_after, requests_setUp,
    List.nil_append]
  cases log : (Logging.Logger.initial.setup a.setup).1 with
  | error e => exact .inl rfl
  | ok =>
    simp only [runSetUp, log_recording, Report.requests_after, Client.requests_connect,
      List.nil_append]
    cases connected : (Client.connect a.settings).outcome with
    | error e => exact .inl rfl
    | ok c => exact sendsNoQuery_runClient log connected (h c)

/-- **What a run asks the service for.** A command line that is used rightly makes the run send
nothing, or the request for the catalog, or that and the request for a query, to the service of its
settings. The query is run exactly if the run is prepared for it and no dry one, and the console and the
log take all that the run shows and tells before. The form that is sent is then read as the query that is
printed if it is to be shown, and as the user that was given last, if one was given. -/
theorem requests_run {argv : List String} {a : Arguments} (accepted : Arguments.ofList argv = .ok a)
    (service : Endpoint → Reply) (console : Console) :
    (a.SendsNoQuery (run argv service console).requests ∨
      ∃ form, a.SendsQuery form (run argv service console).requests) ∧
    ((∃ form, a.SendsQuery form (run argv service console).requests) ↔
      (a.dryRun = false ∧ ∃ c name b, a.Prepares service c name b) ∧
        ∀ event ∈ (run argv service).beforeQuery, event.refusal? (a.consoleOf console) = none) ∧
    ∃ ts, tokens argv = .ok ts ∧ ∀ form, a.SendsQuery form (run argv service console).requests →
      ∃ query, Form.decode? form =
          some (("sql", query) :: ((usersOf ts).getLast?.map fun user => ("user", user)).toList) ∧
        (a.showQuery = true → (run argv service console).out.head? = some (.line query)) := by
  have same : run argv service = runArguments a service := by simp only [run, accepted]
  obtain ⟨ts, read, user⟩ := Arguments.user?_of_ofList accepted
  by_cases prepared : a.dryRun = false ∧ ∃ c name b, a.Prepares service c name b
  · obtain ⟨wet, c, name, b, prepares⟩ := prepared
    obtain ⟨query, base, reaches, asks⟩ := asks_of_prepares prepares wet
    rw [← same] at asks
    obtain ⟨refused, front⟩ | ⟨taken, requests, shown⟩ :=
      asks.under_cases (a.consoleOf console)
    · rw [← run_under accepted] at front
      have alone : a.SendsNoQuery [catalogRequest base c.config.timeout] :=
        .inr ⟨c, base, reaches, rfl⟩
      have unsent := (alone.of_prefix front).not_sendsQuery
      exact ⟨.inl (alone.of_prefix front),
        iff_of_false (not_exists.2 unsent) fun met => refused met.2, ts, read,
        fun form sent => absurd sent (unsent form)⟩
    · rw [← run_under accepted] at requests shown
      have sent : a.SendsQuery (Form.encode (Client.parameters query a.user?))
          (run argv service console).requests := ⟨c, base, reaches, requests⟩
      refine ⟨.inr ⟨_, sent⟩, iff_of_true ⟨_, sent⟩ ⟨⟨wet, c, name, b, prepares⟩, taken⟩, ts, read,
        fun form sent' => ⟨query, ?_, fun show_ => ?_⟩⟩
      · rw [sent'.form_eq sent, ← user, Form.decode?_encode (by simp [Client.parameters])]
        rfl
      · rw [if_pos show_] at shown
        obtain ⟨rest, out⟩ := shown
        rw [← out]
        rfl
  · have quiet : a.SendsNoQuery (run argv service).requests := by
      rw [same]
      exact sendsNoQuery_of_not fun c name b wet prepares => prepared ⟨wet, c, name, b, prepares⟩
    have front : (run argv service console).requests <+: (run argv service).requests := by
      rw [run_under accepted]
      exact Report.requests_under_prefix
    have unsent := (quiet.of_prefix front).not_sendsQuery
    exact ⟨.inl (quiet.of_prefix front),
      iff_of_false (not_exists.2 unsent) fun met => prepared met.1, ts, read,
      fun form sent => absurd sent (unsent form)⟩

/-- A service that has a catalog and no rows. -/
def userService : Endpoint → Reply
  | .metadata => Session.userCatalog
  | .execution => .answered 200 "OK" (Text.encode "\x7b\"result\": []\x7d")

/-- A search for a user, whose query is shown. -/
def shownSearch : Arguments :=
  { entity? := some "user", user? := some "me & you", showQuery := true }

/-- The query that is run is the one that is shown, for the user that was given. -/
theorem requests_run_shown :
    Arguments.ofList ["user", "--show-query", "-u", "me & you"] = .ok shownSearch ∧
      ∃ form query, shownSearch.SendsQuery form
          (run ["user", "--show-query", "-u", "me & you"] userService).requests ∧
        Form.decode? form = some [("sql", query), ("user", "me & you")] ∧
        (run ["user", "--show-query", "-u", "me & you"] userService).out.head? =
          some (.line query) := by
  have accepted : Arguments.ofList ["user", "--show-query", "-u", "me & you"] = .ok shownSearch :=
    rfl
  have two : (run ["user", "--show-query", "-u", "me & you"] userService).requests.length = 2 := by
    decide +kernel
  obtain ⟨sends, -, ts, read, reads⟩ := requests_run accepted userService .recording
  obtain rfl : [.plain "user", .bare .showQuery, .bare .user, .plain "me & you"] = ts :=
    Except.ok.inj read
  obtain (nothing | ⟨_, _, -, catalog⟩) | ⟨form, sent⟩ := sends
  · rw [nothing] at two
    cases two
  · rw [catalog] at two
    cases two
  · obtain ⟨query, decoded, shown⟩ := reads form sent
    exact ⟨accepted, form, query, sent, decoded, shown rfl⟩

/-- Not every user is sent as it is given: the text `--` is sent as an empty list is shown. -/
theorem exists_user_changed : ¬ ∀ (text : String) (service : Endpoint → Reply) (base : String)
    (timeout : Seconds) (form : List Char), (run ["user", "--user=" ++ text] service).requests =
      [catalogRequest base timeout, queryRequest base timeout form] →
    ∃ query, Form.decode? form = some [("sql", query), ("user", text)] := by
  intro h
  have sent : (run ["user", "--user=" ++ "--"] userService).requests =
      [catalogRequest "http://localhost:7070/cosyan" (.whole 5),
        queryRequest "http://localhost:7070/cosyan" (.whole 5)
          "sql=select+%2A+from+user%3B&user=%5B%5D".toList] := by
    decide +kernel
  have decoded : Form.decode? "sql=select+%2A+from+user%3B&user=%5B%5D".toList =
      some [("sql", "select * from user;"), ("user", "[]")] := by
    decide +kernel
  obtain ⟨query, user⟩ := h "--" userService _ _ _ sent
  rw [decoded] at user
  simp at user

end CommandLine
end EntityQuery
