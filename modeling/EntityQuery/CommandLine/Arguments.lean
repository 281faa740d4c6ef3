import EntityQuery.Reading.Number
import EntityQuery.Service.Config

/-!
# Command-line arguments

The command line names an entity and gives options. An option may be shortened as long as it stays
unambiguous, and its value may follow as the next argument, after an equals sign, or directly
behind a one-letter option. After `--` everything is a plain argument, and as a value in the same
argument `--` gives the option an empty list. An argument that looks like a negative number or
holds a blank is no option either.

Arguments are taken in their order, and the first mistake is the one that is reported; only an
ambiguous option is found before any of them, and what nothing can be made of after all.
-/

namespace EntityQuery
namespace CommandLine

/-- The options. -/
inductive Switch where
  | help
  | filter
  | user
  | host
  | port
  | basePath
  | timeout
  | listEntities
  | listFields
  | showQuery
  | dryRun
  | log
deriving DecidableEq, Repr

/-- The written forms of the options. -/
def switches : List (String × Switch) := [
  ("-h", .help), ("--help", .help), ("--filter", .filter), ("-f", .filter), ("--user", .user),
  ("-u", .user), ("--host", .host), ("--port", .port), ("--base-path", .basePath),
  ("--timeout", .timeout), ("--list-entities", .listEntities), ("--list-fields", .listFields),
  ("--show-query", .showQuery), ("--dry-run", .dryRun), ("--log", .log), ("-l", .log)]

/-- Whether an option has a value. -/
def Switch.takesValue : Switch → Bool
  | filter | user | host | port | basePath | timeout | log => true
  | _ => false

/-- The name of an option in messages: all its written forms. -/
def Switch.label (s : Switch) : String :=
  "/".intercalate ((switches.filter fun w => w.2 == s).map (·.1))

/-- What a command line asks for. A filter is a field and a text, or nothing if it was given an
empty list. -/
structure Arguments where
  entity? : Option String := none
  filters : List (Option (String × String)) := []
  user? : Option String := none
  settings : Service.Settings := {}
  listEntities : Bool := false
  listFields : Bool := false
  showQuery : Bool := false
  dryRun : Bool := false
  logLevel : Value := .text "WARNING"

/-- Why a command line is not run: help is asked for, or it is used wrongly. -/
inductive Stop where
  | help
  | usage (message : String)
deriving DecidableEq, Repr

/-- A mistake about an option. -/
def mistake (s : Switch) (message : String) : Stop :=
  .usage ("argument " ++ s.label ++ ": " ++ message)

/-- What an argument is: plain, the mark after which all are plain, or an option. An option may be
unknown; it may have a value in the same argument, joined to its one letter or after the equals sign
of a long form. -/
inductive Token where
  | plain (text : String)
  | mark
  | unknown (text : String)
  | bare (s : Switch)
  | joined (s : Switch) (value : String)
  | equals (s : Switch) (value : String)
deriving DecidableEq, Repr

/-- Splits a text at its first equals sign. -/
def splitEquals (s : String) : Option (String × String) :=
  match s.toList.dropWhile (· != '=') with
  | [] => none
  | _ :: value => some (String.ofList (s.toList.takeWhile (· != '=')), String.ofList value)

/-- Whether a text is a minus sign and a decimal number without exponent; a line may end there. -/
def isNegativeNumber (s : String) : Bool :=
  let isDigit := fun c => (Text.digit? c).isSome
  match s.toList with
  | '-' :: cs =>
    let cs := if cs.getLast? = some '\n' then cs.dropLast else cs
    match cs.dropWhile isDigit with
    | [] => !cs.isEmpty
    | '.' :: ds => !ds.isEmpty && ds.all isDigit
    | _ => false
  | _ => false

/-- The options that an argument can be a short form of, with their written forms. -/
def candidates (s : String) : List (String × Token) :=
  match s.toList with
  | '-' :: '-' :: _ =>
    match splitEquals s with
    | some (name, value) => (switches.filter fun w => name.toList.isPrefixOf w.1.toList).map
        fun w => (w.1, .equals w.2 value)
    | none => (switches.filter fun w => s.toList.isPrefixOf w.1.toList).map
        fun w => (w.1, .bare w.2)
  | '-' :: c :: value => (switches.filter fun w => w.1.toList == ['-', c]).map
      fun w => (w.1, .joined w.2 (String.ofList value))
  | _ => []

/-- The option whose whole form stands before the first equals sign, with what follows as its
value. -/
def withEquals? (s : String) : Option Token := do
  let (name, value) ← splitEquals s
  let w ← switches.lookup name
  return if "--".toList.isPrefixOf name.toList then .equals w value else .joined w value

/-- What an argument before any mark is. -/
def token (s : String) : Except Stop Token :=
  if s.toList.head? ≠ some '-' then .ok (.plain s)
  else match switches.lookup s with
  | some w => .ok (.bare w)
  | none =>
    if s = "-" then .ok (.plain s)
    else match withEquals? s with
    | some t => .ok t
    | none => match candidates s with
      | [(_, t)] => .ok t
      | [] =>
        if isNegativeNumber s || s.toList.contains ' ' then .ok (.plain s) else .ok (.unknown s)
      | ts => .error (.usage ("ambiguous option: " ++ s ++ " could match " ++
          ", ".intercalate (ts.map (·.1))))

/-- What the arguments are. -/
def tokens : List String → Except Stop (List Token)
  | [] => .ok []
  | s :: ss =>
    if s = "--" then .ok (.mark :: ss.map .plain)
    else do return (← token s) :: (← tokens ss)

/-- The field and the text of a filter argument: the field stands before the first equals sign,
without blanks around it. -/
def filterOf (s : String) : Except String (String × String) :=
  match splitEquals s with
  | some (name, text) =>
    let name := Text.strip name
    if name = "" then .error ("Filter '" ++ s ++ "' is not of the form FIELD=VALUE")
    else .ok (name, text)
  | none => .error ("Filter '" ++ s ++ "' is not of the form FIELD=VALUE")

/-- The levels of the log that can be chosen. -/
def logLevels : List String := ["DEBUG", "INFO", "WARNING", "ERROR", "CRITICAL"]

/-- Takes an option with its value. -/
def Arguments.setValue (a : Arguments) (s : Switch) (value : String) : Except Stop Arguments :=
  match s with
  | .filter => match filterOf value with
    | .ok f => .ok { a with filters := a.filters ++ [some f] }
    | .error message => .error (mistake s message)
  | .user => .ok { a with user? := some value }
  | .host => .ok { a with settings.host := .text value }
  | .port => match Reading.whole value with
    | .ok n => .ok { a with settings.port := .int n }
    | .error _ => .error (mistake s ("invalid int value: " ++ Text.quoted value))
  | .basePath => .ok { a with settings.basePath := .text value }
  | .timeout => match Reading.number value with
    | .ok x => .ok { a with settings.timeout := .float x }
    | .error _ => .error (mistake s ("invalid float value: " ++ Text.quoted value))
  | .log =>
    let level := Text.upper value
    if logLevels.contains level then .ok { a with logLevel := .text level }
    else .error (mistake s ("invalid choice: " ++ Text.quoted level ++ " (choose from " ++
      ", ".intercalate (logLevels.map Text.quoted) ++ ")"))
  | _ => .ok a

/-- Takes an option with an empty list as its value; the user is sent as the list is shown. -/
def Arguments.setEmpty (a : Arguments) : Switch → Arguments
  | .filter => { a with filters := a.filters ++ [none] }
  | .user => { a with user? := some "[]" }
  | .host => { a with settings.host := .list [] }
  | .port => { a with settings.port := .list [] }
  | .basePath => { a with settings.basePath := .list [] }
  | .timeout => { a with settings.timeout := .list [] }
  | .log => { a with logLevel := .list [] }
  | _ => a

/-- Takes an option with a value from the same argument. -/
def Arguments.setJoined (a : Arguments) (s : Switch) (value : String) : Except Stop Arguments :=
  if value = "--" then .ok (a.setEmpty s) else a.setValue s value

/-- Takes an option without a value. -/
def Arguments.setFlag (a : Arguments) (s : Switch) : Except Stop Arguments :=
  match s with
  | .help => .error .help
  | .listEntities => .ok { a with listEntities := true }
  | .listFields => .ok { a with listFields := true }
  | .showQuery => .ok { a with showQuery := true }
  | .dryRun => .ok { a with dryRun := true }
  | _ => .ok a

/-- The one-letter option of a letter. -/
def letter? (c : Char) : Option Switch := switches.lookup (String.ofList ['-', c])

/-- The mistake of a value for an option that has none. -/
def superfluous (s : Switch) (value : String) : Stop :=
  mistake s ("ignored explicit argument " ++ Text.quoted value)

/-- The mistake of an option without its value. -/
def valueMissing (s : Switch) : Stop := mistake s "expected one argument"

/-- What comes of the letters behind the one-letter option for help, which are options themselves.
Help is given unless they are used wrongly. The flag says whether a plain argument follows. -/
def lettersAfterHelp (follows : Bool) : List Char → Stop
  | [] => .help
  | c :: r =>
    match letter? c with
    | none => superfluous .help (String.ofList (c :: r))
    | some .help => lettersAfterHelp follows r
    | some s => if r = [] && !follows then valueMissing s else .help

/-- Whether a plain argument stands at the front. -/
def plainFollows : List Token → Bool
  | .plain _ :: _ => true
  | _ => false

/-- The arguments that have been taken, what nothing could be made of, and whether the entity is
still to come. -/
structure Progress where
  arguments : Arguments := {}
  extras : List String := []
  entityPending : Bool := true

/-- Takes a plain argument: the first is the entity. -/
def Progress.plain (p : Progress) (s : String) : Progress :=
  if p.entityPending then
    { p with arguments := { p.arguments with entity? := some s }, entityPending := false }
  else { p with extras := p.extras ++ [s] }

/-- Takes a mark. It belongs to the entity if that stands right before or after it, or is still to
come. -/
def Progress.mark (p : Progress) (afterEntity : Bool) : Progress :=
  if p.entityPending || afterEntity then p else { p with extras := p.extras ++ ["--"] }

/-- Takes all arguments. The flag says whether the one before was the entity. -/
def take (p : Progress) (afterEntity : Bool) : List Token → Except Stop Progress
  | [] => .ok p
  | .plain s :: ts => take (p.plain s) p.entityPending ts
  | .mark :: ts => take (p.mark afterEntity) false ts
  | .unknown s :: ts => take { p with extras := p.extras ++ [s] } false ts
  | .bare s :: ts =>
    if s.takesValue then
      match ts with
      | .plain value :: ts => do
        take { p with arguments := ← p.arguments.setValue s value } false ts
      | _ => .error (valueMissing s)
    else do take { p with arguments := ← p.arguments.setFlag s } false ts
  | .equals s value :: ts =>
    if s.takesValue then do
      take { p with arguments := ← p.arguments.setJoined s value } false ts
    else .error (superfluous s value)
  | .joined s value :: ts =>
    if s.takesValue then do
      take { p with arguments := ← p.arguments.setJoined s value } false ts
    else if value = "" then .error (superfluous s value)
    else .error (lettersAfterHelp (plainFollows ts) value.toList)

/-- **What a command line asks for.** -/
def Arguments.ofList (argv : List String) : Except Stop Arguments := do
  let p ← take {} false (← tokens argv)
  if p.extras.isEmpty then .ok p.arguments
  else .error (.usage ("unrecognized arguments: " ++ " ".intercalate p.extras))

end CommandLine
end EntityQuery
