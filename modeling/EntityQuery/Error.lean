import EntityQuery.Schema.Validation
import EntityQuery.Value.Text

/-!
# Errors

Every failure is a cause, and `Error.message` is the wording of all of them. The first six causes
are the library's own (`Error.isOwn`): a caller can catch them together, or each by its kind. The
others report what is wrong with the outside: the service, its payloads, the settings, and what a
console does not show.

Where a message shows a value, the cause holds the text that is shown. A value that holds a whole
number of too many digits has no such text; the error is then `tooManyDigits` (`Error.showing`).
-/

namespace EntityQuery

open Calendar (Timestamp)

/-- Why a value is no literal of a field type, or a text no value of it. -/
inductive FormatFault where
  | absent (type : String)
  | unsupportedType (shown : String)
  | mismatch (shown kind : String) (type : FieldType)
  | bothQuotes (shown : String)
  | notFinite (x : Binary64)
  | zoned (t : Timestamp)
  | tooPrecise (t : Timestamp)
  | unreadable (text : String) (type : FieldType) (fault : Reading.Fault)

/-- The wording of a fault. -/
def FormatFault.message : FormatFault → String
  | absent type => "Cannot format an absent value as '" ++ type ++ "'"
  | unsupportedType shown => "Unsupported field type " ++ shown
  | mismatch shown kind type =>
      "Value " ++ shown ++ " of type '" ++ kind ++ "' is not a valid '" ++ type.name ++ "' value"
  | bothQuotes shown => "String value " ++ shown ++
      " contains both quote characters and cannot be expressed as a literal"
  | notFinite x => "Non-finite value " ++ x.text ++ " has no literal form"
  | zoned t => "Timezone-aware value " ++ t.inspect ++ " has no 'date' literal form"
  | tooPrecise t =>
      "Value " ++ t.inspect ++ " is more precise than the one-second 'date' literal"
  | unreadable text type fault =>
      "Cannot read " ++ Text.quoted text ++ " as a '" ++ type.name ++ "' value: " ++ fault.message

/-- A step from a description to a part of it. -/
inductive Step where
  | key (name : String)
  | index (i : Nat)
deriving DecidableEq, Repr

/-- A complaint about the part of a description at the end of a path. -/
structure Detail where
  path : List Step
  complaint : Complaint
deriving DecidableEq, Repr

/-- The path of a detail with dots between its steps. -/
def Detail.place (d : Detail) : String :=
  ".".intercalate (d.path.map fun
    | .key name => name
    | .index i => i.repr)

/-- The report of all details of a description: their number, then each with its place. -/
def report [Validation] (subject : String) (details : List Detail) : String :=
  details.length.repr ++ " validation error" ++ (if details.length = 1 then "" else "s") ++
    " for " ++ subject ++
    String.join (details.map fun d => "\n" ++ d.place ++ "\n  " ++ Validation.message d.complaint)

/-- Why a description of entities is refused. -/
inductive MetadataFault where
  | noMetadata
  | missing
  | notMapping (kind : String)
  | noName
  | typeNotText (kind : String)
  | unsupportedType (name : String)
  | malformed (entity : String) (details : List Detail)
  | noEntities
  | entitiesNotList
  | requestFailed (reason : String)
  | unknownEntity (name : String)

/-- What the wording of an unsupported type begins with. -/
def unsupportedTypeText : String := "Unsupported field type '"

/-- The wording of a fault. -/
def MetadataFault.message [Validation] : MetadataFault → String
  | noMetadata => "Cannot initialize QueryBuilder without entity metadata"
  | missing => "Entity metadata is missing"
  | notMapping kind => "Entity metadata must be a mapping, got '" ++ kind ++ "'"
  | noName => "Entity metadata has no name"
  | typeNotText kind => "Field type must be a string, got '" ++ kind ++ "'"
  | unsupportedType name => unsupportedTypeText ++ name ++ "'"
  | malformed entity details => "Malformed metadata for entity '" ++ entity ++ "'.\nInner err: " ++
      report "EntityMetadata" details
  | noEntities => "Metadata payload has no 'entities' list"
  | entitiesNotList => "Metadata payload 'entities' is not a list"
  | requestFailed reason => "Metadata request failed: " ++ reason
  | unknownEntity name => "Unknown entity '" ++ name ++ "'"

/-- Why a response is no table of rows, or a header no labels of a frame. A fault concerns the
content or the kind of a part of it. -/
inductive ShapeFault where
  | noResult
  | notList (kind : String)
  | unexpected (shown : String)
  | rowWidth (row header : Nat)
  | entryLength (position length : Nat)
  | notIterable (kind : String)
  | noLength (kind : String)
  | entryNotSequence (position : Nat)
  | levelLengths
  | repeatedParts
  | notLabel (shown : String)
  | unhashable (kind : String)

/-- The wording of a fault. -/
def ShapeFault.message : ShapeFault → String
  | noResult => "Query response has no 'result' entry"
  | notList kind => "Query response 'result' must be a list, got '" ++ kind ++ "'"
  | unexpected shown => "Unexpected statement result '" ++ shown ++ "'"
  | rowWidth row header =>
      "Row width " ++ row.repr ++ " does not match header width " ++ header.repr
  | entryLength position length => "dictionary update sequence element #" ++ position.repr ++
      " has length " ++ length.repr ++ "; 2 is required"
  | notIterable kind => "'" ++ kind ++ "' object is not iterable"
  | noLength kind => "object of type '" ++ kind ++ "' has no len()"
  | entryNotSequence position =>
      "cannot convert dictionary update sequence element #" ++ position.repr ++ " to a sequence"
  | levelLengths => "all arrays must be same length"
  | repeatedParts => "Categorical categories must be unique"
  | notLabel shown => shown
  | unhashable kind => "unhashable type: '" ++ kind ++ "'"

/-- Why settings are refused, or give no address. -/
inductive SettingFault where
  | scheme (shown : String)
  | timeout
  | timeoutKind (kind : String)
  | pathBytes
  | pathKind (kind : String)

/-- The wording of a fault. -/
def SettingFault.message : SettingFault → String
  | scheme shown => "Unsupported scheme '" ++ shown ++ "'"
  | timeout => "'timeout' must be a positive number of seconds"
  | timeoutKind kind => "'<=' not supported between instances of '" ++ kind ++ "' and 'int'"
  | pathBytes => "a bytes-like object is required, not 'str'"
  | pathKind kind => "'" ++ kind ++ "' object has no attribute 'strip'"

/-- Why the service gave no answer that can be used. -/
inductive ConnectionFault where
  | refused (url : String) (status : Int) (reason : String)
  | unreachable (baseUrl cause : String)
  | notJson (url : String)
  | unexpected (kind : String)
  | malformed (cause : String)

/-- The wording of a fault. -/
def ConnectionFault.message : ConnectionFault → String
  | refused url status reason => "Request to '" ++ url ++ "' failed with HTTP " ++ status.repr ++
      ".\nInner err: 'HTTP Error " ++ status.repr ++ ": " ++ reason ++ "'"
  | unreachable baseUrl cause =>
      "Service at '" ++ baseUrl ++ "' is unreachable.\nInner err: '" ++ cause ++ "'"
  | notJson url => "Response from '" ++ url ++ "' is not valid JSON"
  | unexpected kind => "Unexpected query response of type '" ++ kind ++ "'"
  | malformed cause => "Malformed query response.\nInner err: '" ++ cause ++ "'"

/-- The kinds of errors by which a caller tells them apart. The first six are the library's own. -/
inductive ErrorKind where
  | general
  | metadata
  | unknownField
  | notInitialized
  | format
  | execution
  | connection
  | closed
  | value
  | type
  | index
  | label
  | member
  | encoding
  | nesting
  | markup
  | rendering
deriving DecidableEq, Repr

/-- The wider kinds that an own error also belongs to. -/
inductive Category where
  | own
  | lookup
  | state
  | type
  | value
deriving DecidableEq, Repr

/-- The kind of error that a fault of the settings is. -/
def SettingFault.kind : SettingFault → ErrorKind
  | scheme _ | timeout => .value
  | timeoutKind _ | pathBytes => .type
  | pathKind _ => .member

/-- The kind of error that a fault of a shape is: some faults concern the kind of a part and not its
content. -/
def ShapeFault.kind : ShapeFault → ErrorKind
  | notIterable _ | noLength _ | entryNotSequence _ | unhashable _ => .type
  | notLabel _ => .label
  | _ => .value

/-- The categories of a kind. -/
def ErrorKind.categories : ErrorKind → List Category
  | general | execution => [.own]
  | metadata => [.own, .value]
  | unknownField => [.own, .lookup]
  | notInitialized => [.own, .state]
  | format => [.own, .type, .value]
  | connection | index | label | member | markup | rendering => []
  | closed | nesting => [.state]
  | value | encoding => [.value]
  | type => [.type]

/-- An error. -/
inductive Error where
  | format (fault : FormatFault)
  | metadata (fault : MetadataFault)
  | unknownField (field entity : Value)
  | notInitialized
  | execution (message query : Value)
  | stated (kind : ErrorKind) (arguments : List Value)
  | connection (fault : ConnectionFault)
  | closed
  | shape (fault : ShapeFault)
  | number (fault : Reading.Fault)
  | tooManyDigits
  | setting (fault : SettingFault)
  | nesting (container : String)
  | argumentCount (callee parameter : String) (given : Nat)
  | filterParts
  | snapshotIndex
  | snapshotIndexSize
  | countSize
  | countKind (kind : String)
  | unwritable (position : Nat) (halves : List Nat)
  | unknownLevel (shown : String)
  | notLevel (shown : String)
  | markup (cause : String)
  | unrenderable (shown : String)

namespace Error

/-- The kind of an error. -/
def kind : Error → ErrorKind
  | format _ => .format
  | metadata _ => .metadata
  | unknownField .. => .unknownField
  | notInitialized => .notInitialized
  | execution .. => .execution
  | stated k _ => k
  | connection _ => .connection
  | closed => .closed
  | shape fault => fault.kind
  | number _ | tooManyDigits | filterParts | countSize | unknownLevel _ => .value
  | setting fault => fault.kind
  | nesting _ => .nesting
  | snapshotIndex | snapshotIndexSize => .index
  | unwritable .. => .encoding
  | notLevel _ | argumentCount .. | countKind _ => .type
  | markup _ => .markup
  | unrenderable _ => .rendering

/-- Whether the error is one of the library's own. -/
def isOwn (e : Error) : Bool := e.kind.categories.contains .own

/-- Whether the error belongs to a category. -/
def isIn (c : Category) (e : Error) : Bool := e.kind.categories.contains c

/-- The wording of the limit on written numbers. -/
def digitsMessage : String :=
  "Exceeds the limit (" ++ Reading.digitLimit.repr ++ " digits) for integer string conversion; " ++
  "use sys.set_int_max_str_digits() to increase the limit"

/-- The text of the arguments of an error: nothing, the one argument, or all between
parentheses. -/
def argumentsText? : List Value → Option String
  | [] => some ""
  | [v] => v.display?
  | vs => (Value.inspectItems? vs).map fun ts => "(" ++ ", ".intercalate ts ++ ")"

/-- Where the halves stand for which a text cannot be written: a single one is shown, of several the
first and the last place. -/
def placeText (position : Nat) : List Nat → String
  | [half] => "character '\\u" ++ String.ofList (Text.hexDigits 4 half) ++ "' in position " ++
      position.repr
  | halves => "characters in position " ++ position.repr ++ "-" ++
      (position + halves.length - 1).repr

/-- The wording of an error. -/
def message [Validation] : Error → String
  | format fault => fault.message
  | metadata fault => fault.message
  | unknownField field entity =>
      match field.display?, entity with
      | some f, .null => "'" ++ f ++ "' is not a searchable field"
      | some f, e => match e.display? with
        | some e => "'" ++ f ++ "' is not a searchable field of entity '" ++ e ++ "'"
        | none => digitsMessage
      | none, _ => digitsMessage
  | notInitialized => "QueryBuilder has no entity metadata: call initialize() first."
  | execution message _ => (argumentsText? [message]).getD digitsMessage
  | stated _ arguments => (argumentsText? arguments).getD digitsMessage
  | connection fault => fault.message
  | closed => "EntityClient is closed"
  | shape fault => fault.message
  | number fault => fault.message
  | tooManyDigits => digitsMessage
  | setting fault => fault.message
  | nesting container => "maximum recursion depth exceeded while decoding a JSON " ++ container ++
      " from a unicode string"
  | argumentCount callee parameter 0 =>
      callee ++ ".__init__() missing 1 required positional argument: '" ++ parameter ++ "'"
  | argumentCount callee _ n =>
      callee ++ ".__init__() takes from 2 to 3 positional arguments but " ++ (n + 1).repr ++
        " were given"
  | filterParts => "not enough values to unpack (expected 2, got 0)"
  | snapshotIndex => "tuple index out of range"
  | snapshotIndexSize | countSize => "cannot fit 'int' into an index-sized integer"
  | countKind kind => "'" ++ kind ++ "' object cannot be interpreted as an integer"
  | unwritable position halves => "'utf-8' codec can't encode " ++ placeText position halves ++
      ": surrogates not allowed"
  | unknownLevel shown => "Unknown level: " ++ shown
  | notLevel shown => "Level not an integer or a valid string: " ++ shown
  | markup cause => cause
  | unrenderable shown => "Unable to get render width for " ++ shown ++
      "; a str, Segment, or object with __rich_console__ method is required"

/-- The error whose message shows a text, if the text exists. -/
def showing (shown : Option String) (cause : String → Error) : Error :=
  match shown with
  | some text => cause text
  | none => tooManyDigits

/-- The error of a text that cannot be written for the halves among its code points, which stand
behind some text. -/
def halvesBehind (before : String) (points : List Nat) : Error :=
  let run := Text.firstRun points
  unwritable (before.length + run.1) run.2

/-- What shows values, unless a whole number among them has too many digits. -/
def written {α : Type} (shown : Option α) : Except Error α :=
  match shown with
  | some text => .ok text
  | none => .error tooManyDigits

/-- The error of a kind with arguments of the caller's choice. An unknown field takes the field and
perhaps the entity, and a failed execution the message and perhaps the query. -/
def ofArguments (kind : ErrorKind) (arguments : List Value) : Except Error Error :=
  match kind, arguments with
  | .unknownField, [field] => .ok (unknownField field .null)
  | .unknownField, [field, entity] => .ok (unknownField field entity)
  | .unknownField, vs => .error (argumentCount "UnknownFieldError" "field_name" vs.length)
  | .execution, [message] => .ok (execution message .null)
  | .execution, [message, query] => .ok (execution message query)
  | .execution, vs => .error (argumentCount "QueryExecutionError" "message" vs.length)
  | kind, vs => .ok (stated kind vs)

end Error
end EntityQuery
