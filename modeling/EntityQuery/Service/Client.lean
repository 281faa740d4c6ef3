import EntityQuery.Schema.Catalog
import EntityQuery.Service.Exchange
import EntityQuery.Service.Form
import EntityQuery.Table

/-!
# Clients of the service

A client keeps the configuration of its connection, and is open until it is closed. An open
client sends one request for each operation and reads the reply: for the catalog of entities, or
for the result of a query. The service may report an error in the body of any reply, also of one that
refuses; then the status does not matter. A closed client sends nothing. Every operation tells what it
does to a log, which takes everything unless another one is given.
-/

namespace EntityQuery

/-- A client of a service. -/
structure Client where
  config : Service.Config
  isClosed : Bool

namespace Client

open Service
open Logging (Log)

/-- The logger of clients. -/
def logger : String := "entitysearch.comm.entity_client"

/-- **A client for the service of the settings.** -/
def connect (s : Settings) (log : Log := .quiet) : Exchange Client := do
  let host ← Exchange.ofExcept (shown s.host)
  let port ← Exchange.ofExcept (shown s.port)
  Exchange.tell log ⟨logger, Logging.debug, "Creating client for '" ++ host ++ ":" ++ port ++ "'"⟩
  let config ← Exchange.ofExcept (Config.ofSettings s)
  return ⟨config, false⟩

/-- The client when it is closed. -/
def close (c : Client) : Client := { c with isClosed := true }

/-- The address of a request under a base address. -/
def address (baseUrl : String) (endpoint : Endpoint) (parameters : List (String × String)) :
    String :=
  baseUrl ++ "/" ++ endpoint.name ++
    (if parameters = [] then "" else "?" ++ String.ofList (Form.encode parameters))

/-- The entry of a payload in which the service reports an error. -/
def reported? (v : Value) : Option Value :=
  match v with
  | .mapping es => Entries.get? es "error"
  | _ => none

/-- What is wrong with a body that cannot be read to its end. -/
def unreadable : Payload.Obstacle → Error
  | .tooManyDigits digits => .number (.tooManyDigits digits)
  | .tooDeep container => .nesting container.name

/-- What a reply to a request for an address says: the payload of a good reply, or of one that
reports an error. -/
def payload (baseUrl url : String) (reply : Reply) : Except Error Value :=
  match reply with
  | .failed failure =>
    failure.text >>= fun cause => .error (.connection (.unreachable baseUrl cause))
  | .good body levels =>
    match Payload.ofBytes body levels with
    | .error obstacle => .error (unreadable obstacle)
    | .ok none | .ok (some .null) => .error (.connection (.notJson url))
    | .ok (some v) => .ok v
  | .refused status reason body levels =>
    match Payload.ofBytes body levels with
    | .error obstacle => .error (unreadable obstacle)
    | .ok v? =>
      match v?.bind fun v => (reported? v).map fun _ => v with
      | some v => .ok v
      | none => .error (.connection (.refused url status reason))

/-- One request and the payload of its reply. -/
def fetch (c : Client) (endpoint : Endpoint) (parameters : List (String × String))
    (reply : Reply) (log : Log := .quiet) : Exchange Value := do
  if c.isClosed then Exchange.fail .closed
  else
    let baseUrl ← Exchange.ofExcept c.config.baseUrl
    let url := address baseUrl endpoint parameters
    Exchange.tell log ⟨logger, Logging.debug, "GET '" ++ url ++ "'"⟩
    Exchange.send endpoint ⟨url, c.config.timeout⟩
    Exchange.ofExcept (payload baseUrl url reply)

/-- What a report says: its message, if it is an object that has one, or else all of it. -/
def reportText? (v : Value) : Option String :=
  match v with
  | .mapping es =>
    let message := Entries.get es "msg"
    let other := Entries.get es "message"
    if message.isPresent then message.display?
    else if other.isPresent then other.display?
    else v.display?
  | v => v.display?

/-- The catalog of a payload that may report an error. -/
def catalogOf (v : Value) : Except Error Catalog :=
  match reported? v with
  | some report => .error (.showing (reportText? report) fun s => .metadata (.requestFailed s))
  | none => Catalog.read v

/-- **The entities of the service.** -/
def catalog (c : Client) (reply : Reply) (log : Log := .quiet) : Exchange Catalog := do
  Exchange.ofExcept (catalogOf (← c.fetch .metadata [] reply log))

/-- The names of the entities of the service. -/
def entityNames (c : Client) (reply : Reply) (log : Log := .quiet) : Exchange (List String) := do
  return (← c.catalog reply log).names

/-- The first entity of a name. -/
def entity (c : Client) (name : String) (reply : Reply) (log : Log := .quiet) : Exchange Entity := do
  match (← c.catalog reply log).find? name with
  | some e => pure e
  | none => Exchange.fail (.metadata (.unknownEntity name))

/-- The parameters of the request for a query. -/
def parameters (query : String) (user? : Option String) : List (String × String) :=
  ("sql", query) :: (user?.map fun user => ("user", user)).toList

/-- What a client reports for an error of a response: errors about a value or its kind blame the
response, all others are passed on. -/
def responseError (e : Error) : Error :=
  if e.isIn .value || e.isIn .type then .connection (.malformed e.message) else e

/-- The table of a payload that may report an error about a query. -/
def tableOf (query : String) (v : Value) : Except Error Table :=
  match v with
  | .mapping es =>
    match reported? v with
    | some report =>
      .error (.showing (reportText? report) fun s => .execution (.text s) (.text query))
    | none => (Table.ofResponse es).mapError responseError
  | v => .error (.connection (.unexpected v.kindName))

/-- **The result of a query.** -/
def execute (c : Client) (query : String) (user? : Option String) (reply : Reply)
    (log : Log := .quiet) : Exchange Table := do
  Exchange.ofExcept (tableOf query (← c.fetch .execution (parameters query user?) reply log))

/-- An operation on a client. -/
inductive Operation where
  | catalog
  | entityNames
  | entity (name : String)
  | execute (query : String) (user? : Option String)
  | baseUrl
  | close
  | within

/-- What an operation answers. -/
inductive Answer where
  | done
  | catalog (c : Catalog)
  | names (ns : List String)
  | entity (e : Entity)
  | table (t : Table)
  | text (s : String)
  | flag (b : Bool)

/-- **One operation,** with the reply that its request would get, and the client after it. To work
within a client closes it at the end. -/
def step (c : Client) (reply : Reply) (o : Operation) (log : Log := .quiet) :
    Exchange Answer × Client :=
  match o with
  | .catalog => (Answer.catalog <$> c.catalog reply log, c)
  | .entityNames => (Answer.names <$> c.entityNames reply log, c)
  | .entity name => (Answer.entity <$> c.entity name reply log, c)
  | .execute query user? => (Answer.table <$> c.execute query user? reply log, c)
  | .baseUrl => (Exchange.ofExcept (Answer.text <$> c.config.baseUrl), c)
  | .close => (pure .done, c.close)
  | .within => (pure (.flag c.isClosed), c.close)

end Client
end EntityQuery
