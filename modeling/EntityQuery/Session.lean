import EntityQuery.Query.Builder
import EntityQuery.Service.Client

/-!
# Search sessions

A session searches one entity over a client: it loads the description of the entity, collects the
values of its fields, and runs the query. What the service does wrong does not fail the operation:
it is kept as the text to be shown, until the next success. A failed loading changes nothing else;
a failed search also drops the last result. Mistakes in the use of the builder fail. What is kept is
told to the log first, so if the log refuses that, the operation fails and the session is as before.
-/

namespace EntityQuery

open Service (Exchange Reply)
open Logging (Log)

/-- A session over one entity. -/
structure Session where
  entityName : String
  client : Client
  builder : Builder
  error? : Option String
  table? : Option Table

namespace Session

/-- The logger of sessions. -/
def logger : String := "entitysearch.handlers.search_handler"

/-- The logger of builders. -/
def builderLogger : String := "entitysearch.query.builder"

/-- A session before anything has been done. -/
def start (c : Client) (entityName : String) : Session := ⟨entityName, c, .fresh, none, none⟩

/-- Whether an error of the loading is kept as a text. -/
def isLoadFailure (e : Error) : Bool := e.kind = .connection || e.kind = .metadata

/-- Whether an error of a search is kept as a text. -/
def isSearchFailure (e : Error) : Bool := e.kind = .connection || e.kind = .execution

/-- An answer behind an exchange and a record, with the session to go on with, or the session as it is
if the log refuses the record. -/
def conclude {α β : Type} (x : Exchange α) (log : Log) (r : Logging.Record) (answer : β)
    (after before : Session) : Exchange β × Session :=
  let y : Exchange Unit := Exchange.tell log r
  (⟨(fun _ => answer) <$> y.outcome, x.acts ++ y.acts⟩, if y.outcome.isOk then after else before)

/-- A log that takes every record lets the session go on. -/
@[simp] theorem conclude_quiet {α β : Type} (x : Exchange α) (r : Logging.Record) (answer : β)
    (after before : Session) : conclude x .quiet r answer after before =
      (⟨.ok answer, x.acts ++ [.told r]⟩, after) := rfl

/-- What a loading makes of the exchange that asks for the entity. The builder is ready before that is
told, and the text of an error is dropped behind it. -/
def finishLoad (s : Session) (x : Exchange Entity) (log : Log) : Exchange Bool × Session :=
  match x.outcome with
  | .ok e =>
    match s.builder.start e with
    | .ok b =>
      let started := { s with builder := b }
      conclude x log ⟨builderLogger, Logging.debug, Builder.initializedText e⟩ true
        { started with error? := none } started
    | .error err => (⟨.error err, x.acts⟩, s)
  | .error err =>
    if isLoadFailure err then
      conclude x log ⟨logger, Logging.error,
        "Loading metadata for '" ++ s.entityName ++ "' failed: '" ++ err.message ++ "'"⟩ false
        { s with error? := some err.message } s
    else (⟨.error err, x.acts⟩, s)

/-- **Loads the description of the entity:** whether that succeeded, and the session after it. -/
def load (s : Session) (reply : Reply) (log : Log := .quiet) : Exchange Bool × Session :=
  s.finishLoad (s.client.entity s.entityName reply log) log

/-- What a search makes of the exchange that runs its query. -/
def finishSearch (s : Session) (query : String) (x : Exchange Table) (log : Log) :
    Exchange (Option Table) × Session :=
  match x.outcome with
  | .ok t => (⟨.ok (some t), x.acts⟩, { s with table? := some t, error? := none })
  | .error err =>
    if isSearchFailure err then
      conclude x log ⟨logger, Logging.error,
        "Query '" ++ query ++ "' failed: '" ++ err.message ++ "'"⟩ none
        { s with table? := none, error? := some err.message } s
    else (⟨.error err, x.acts⟩, s)

/-- **Runs the query:** its result if that succeeded, and the session after it. -/
def search (s : Session) (user? : Option String) (reply : Reply) (log : Log := .quiet) :
    Exchange (Option Table) × Session :=
  match s.builder.build with
  | .error err => (Exchange.fail err, s)
  | .ok query => s.finishSearch query (s.client.execute query user? reply log) log

/-- The value that a user typed for a field type, or none. -/
def typed (text? : Option String) (type : FieldType) : Except Error Value :=
  match text? with
  | none => .ok .null
  | some s => Literal.ofInput s type

/-- Sets the value that a user typed into a field. -/
def textChange (name : Value) (text? : Option String) : Builder.Change Unit := do
  let type ← Builder.Change.look (·.fieldType name)
  let v ← Builder.Change.look fun _ => typed text? type
  Builder.Change.setValue name v

/-- The builder with the value that a user typed into a field. -/
def setText (b : Builder) (name : Value) (text? : Option String) : Except Error Builder :=
  (textChange name text?).result b

/-- An operation on a session. -/
inductive Operation where
  | load
  | search (user? : Option String)
  | setValue (name value : Value)
  | setValues (entries : Entries)
  | setText (name : Value) (text? : Option String)
  | reset
  | buildQuery
  | searchFields
  | metadata
  | entityName
  | close

/-- What an operation answers. -/
inductive Answer where
  | done
  | flag (b : Bool)
  | table (t? : Option Table)
  | text (s : String)
  | fields (fs : List SearchField)
  | entity (e? : Option Entity)

/-- The outcome of an operation that changes the builder, and the session with the builder after it. -/
def change (s : Session) (c : Builder.Change Unit) : Exchange Answer × Session :=
  let r := c.apply s.builder
  (Exchange.ofExcept ((fun _ => .done) <$> r.1), { s with builder := r.2 })

/-- **One operation,** with the reply that its request would get, and the session after it. -/
def step (s : Session) (reply : Reply) (o : Operation) (log : Log := .quiet) :
    Exchange Answer × Session :=
  match o with
  | .load => let r := s.load reply log; (Answer.flag <$> r.1, r.2)
  | .search user? => let r := s.search user? reply log; (Answer.table <$> r.1, r.2)
  | .setValue name v => s.change (.setValue name v)
  | .setValues es => s.change (.setValues es)
  | .setText name text? => s.change (textChange name text?)
  | .reset => s.change .reset
  | .buildQuery => (Exchange.ofExcept (Answer.text <$> s.builder.build), s)
  | .searchFields => (Exchange.ofExcept (Answer.fields <$> s.builder.searchFields), s)
  | .metadata => (pure (.entity s.builder.entity?), s)
  | .entityName => (pure (.text s.entityName), s)
  | .close => (pure .done, { s with client := s.client.close })

end Session
end EntityQuery
