import EntityQuery.CommandLine.Arguments
import EntityQuery.CommandLine.Console
import EntityQuery.Session

/-!
# Running a command line

A run loads the description of the entity, applies the filters in their order, runs the query and
shows the rows; or it ends earlier: with the list of entities, with the list of fields, with the
query alone, or with the first failure. What can go wrong with the service and the filters is
printed to the error console and makes the exit code 1. A wrong use of the command line makes it 2.

What the console or the log refuses to show leaves the run with its error, and nothing behind it is
done. What a run does is kept in its order: requests, records, and what is shown.
-/

namespace EntityQuery
namespace CommandLine

open Service (Act Endpoint Exchange Reply Request)

/-- What happens in a run: something is done with the service or told to the log, or something is
shown. -/
inductive Event where
  | act (a : Act)
  | shown (i : Item)

namespace Event

/-- The act that an event is. -/
def act? : Event → Option Act
  | act a => some a
  | shown _ => none

/-- The output that an event prints. -/
def output? : Event → Option Output
  | shown (.output o) => some o
  | _ => none

/-- What failed and why, if an event tells it on the error console. -/
def message? : Event → Option (String × String)
  | shown (.message what why) => some (what, why)
  | _ => none

/-- Why a console and its log refuse an event. -/
def refusal? (console : Console) : Event → Option Error
  | act a => a.refusal? console.log
  | shown i => console.refuses i

end Event

/-- What a run comes to. Without an exit code an error has left it. -/
structure Report where
  exit : Except Error Nat
  usage? : Option String := none
  events : List Event := []

namespace Report

/-- What is printed to the console. -/
def out (r : Report) : List Output := r.events.filterMap Event.output?

/-- What failed and why, as it is told on the error console. -/
def messages (r : Report) : List (String × String) := r.events.filterMap Event.message?

/-- What is seen on the error console, apart from the log. -/
def err (r : Report) (console : Console := .recording) : List String :=
  r.messages.map fun m => console.shows (console.messageMarkup m.1 m.2)

/-- What is done with the service and told to the log. -/
def acts (r : Report) : List Act := r.events.filterMap Event.act?

/-- The requests of a run. -/
def requests (r : Report) : List Request := r.acts.filterMap Act.request?

/-- The records of a run. -/
def records (r : Report) : List Logging.Record := r.acts.filterMap Act.record?

/-- The report of a wrong use. -/
def misuse (message : String) : Report :=
  { exit := .ok 2, usage? := some ("entity-search: error: " ++ message) }

/-- The report of an error that leaves the run. -/
def leave (e : Error) : Report := { exit := .error e }

/-- The report of a success. -/
def success : Report := { exit := .ok 0 }

/-- The report with an event before its own, unless the console refuses it. -/
def emit (console : Console) (event : Event) (r : Report) : Report :=
  match event.refusal? console with
  | none => { r with events := event :: r.events }
  | some e => leave e

/-- The report with output before its own. -/
def print (console : Console) (out : List Output) (r : Report) : Report :=
  out.foldr (fun o => emit console (.shown (.output o))) r

/-- The report with a record before its own. -/
def log (console : Console) (record : Logging.Record) (r : Report) : Report :=
  emit console (.act (.told record)) r

/-- The report of a failure: what failed, and why. -/
def failure (console : Console) (what why : String) : Report :=
  emit console (.shown (.message what why)) { exit := .ok 1 }

/-- The report with the acts of an exchange before its own. -/
def after {α : Type} (x : Exchange α) (r : Report) : Report :=
  { r with events := x.acts.map .act ++ r.events }

/-- What is left of a report on a console: it ends where an event is refused, with the error of that. -/
def under (console : Console) (r : Report) : Report :=
  match Interruption.cause? (Event.refusal? console) r.events with
  | none => r
  | some e =>
    { exit := .error e, events := Interruption.passed (Event.refusal? console) r.events }

end Report

/-- The logger of command lines. -/
def logger : String := "entitysearch.cli"

/-- The cell of a row in a column. -/
def cell (row : Entries) (column : Value) : Except Error Value :=
  if column.canBeKey then Error.written ((row.find? column).getD .null).cell?
  else .error (.shape (.unhashable column.kindName))

/-- A result as it is printed. A table without columns shows no rows. -/
def resultTable (entity : String) (t : Table) : Except Error Output := do
  let rows ← t.rows.mapM fun row => t.header.mapM (cell row)
  return .table (entity ++ " (" ++ t.size.repr ++ " rows)") t.header
    (if t.header.isEmpty then [] else rows)

/-- The search fields as they are printed. -/
def fieldsTable (entity : String) (fields : List SearchField) : Output :=
  .table (entity ++ " searchable fields") [.text "field", .text "type"]
    (fields.map fun f => [.text f.name, .text f.type.name])

/-- The builder with the values that the filters give it, one after the other. -/
def applyFilters (b : Builder) : List (Option (String × String)) → Except Error Builder
  | [] => .ok b
  | none :: _ => .error .filterParts
  | some f :: fs => Session.setText b (.text f.1) (some f.2) >>= fun b => applyFilters b fs

/-- What is left to do with the query of a session. -/
def runQuery (a : Arguments) (entity : String) (s : Session) (query : String)
    (service : Endpoint → Reply) (console : Console := .recording) : Report :=
  let shown := if a.showQuery || a.dryRun then [Output.line query] else []
  Report.log console ⟨logger, Logging.debug, "Generated query '" ++ query ++ "'"⟩ <|
    Report.print console shown <|
      if a.dryRun then Report.success
      else
        let r := s.search a.user? (service .execution) console.log
        Report.after r.1 <| match r.1.outcome with
          | .error e => Report.leave e
          | .ok none => Report.failure console "Search failed" (r.2.error?.getD "None")
          | .ok (some t) => match resultTable entity t with
            | .ok table => Report.print console [table] Report.success
            | .error e => Report.leave e

/-- What is left to do with a session that has loaded its entity. -/
def runLoaded (a : Arguments) (entity : String) (s : Session) (service : Endpoint → Reply)
    (console : Console := .recording) : Report :=
  if a.listFields then
    match s.builder.searchFields with
    | .ok fields => Report.print console [fieldsTable entity fields] Report.success
    | .error e => Report.leave e
  else
    match applyFilters s.builder a.filters with
    | .error e =>
      if e.isOwn then Report.failure console "Invalid filter" e.message else Report.leave e
    | .ok b =>
      match b.build with
      | .error e => Report.leave e
      | .ok query => runQuery a entity { s with builder := b } query service console

/-- What is left to do with a client. -/
def runClient (a : Arguments) (c : Client) (service : Endpoint → Reply)
    (console : Console := .recording) : Report :=
  if a.listEntities then
    let x := c.entityNames (service .metadata) console.log
    Report.after x <| match x.outcome with
      | .ok names => Report.print console (names.map .name) Report.success
      | .error e =>
        if Session.isLoadFailure e then Report.failure console "Error" e.message else Report.leave e
  else
    match a.entity? with
    | none | some "" =>
      Report.misuse "the entity name is required unless --list-entities is given"
    | some entity =>
      let r := (Session.start c entity).load (service .metadata) console.log
      Report.after r.1 <| match r.1.outcome with
        | .error e => Report.leave e
        | .ok false => Report.failure console "Error" (r.2.error?.getD "None")
        | .ok true => runLoaded a entity r.2 service console

/-- The setup of the log of a command line. -/
def Arguments.setup (a : Arguments) : Logging.Setup := { level := a.logLevel, pretty := true }

/-- The logger after that setup. -/
def Arguments.logger (a : Arguments) : Logging.Logger :=
  (Logging.Logger.initial.setup a.setup).2.1

/-- **A console as a run uses it:** its log shows what the logger of the command line lets through. -/
def Arguments.consoleOf (a : Arguments) (console : Console) : Console :=
  { console with log := a.logger.shownOn console.log }

/-- The setup of the log, with its own record. -/
def Arguments.setUp (a : Arguments) (console : Console) : Exchange Unit :=
  let s := Logging.Logger.initial.setup a.setup console.log
  ⟨s.1, (s.2.2.filterMap Logging.Output.pretty?).map .told⟩

/-- What is left to do with a log that is set up. -/
def runSetUp (a : Arguments) (service : Endpoint → Reply) (console : Console := .recording) :
    Report :=
  let x := Client.connect a.settings console.log
  Report.after x <| match x.outcome with
    | .error e => Report.leave e
    | .ok c => runClient a c service console

/-- What a command line that is used rightly comes to. The log is set up before anything else. -/
def runArguments (a : Arguments) (service : Endpoint → Reply) (console : Console := .recording) :
    Report :=
  let x := a.setUp console
  Report.after x <| match x.outcome with
    | .error e => Report.leave e
    | .ok () => runSetUp a service (a.consoleOf console)

/-- **What a command line comes to,** if the service answers so and the console shows what it can. -/
def run (argv : List String) (service : Endpoint → Reply) (console : Console := .recording) :
    Report :=
  match Arguments.ofList argv with
  | .error .help => Report.success
  | .error (.usage message) => Report.misuse message
  | .ok a => runArguments a service console

/-- What the log of a command line shows, with the name of the level of each record. -/
def shownLog (argv : List String) (records : List Logging.Record) : List (String × String) :=
  match Arguments.ofList argv with
  | .error _ => []
  | .ok a => (records.flatMap a.logger.deliver).filterMap Logging.Output.shown?

end CommandLine
end EntityQuery
