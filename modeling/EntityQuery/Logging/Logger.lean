import EntityQuery.Interruption
import EntityQuery.Logging.Record

/-!
# Delivery of log records

Records of the library's own namespace, that is of its logger and of every logger below it, go to
the handlers of the library's logger, and from there to the root if the logger propagates. Records
of other names go to the root alone. A record is dropped if its level is below that of the logger,
or below that of the root if the logger has none.

Loggers exist once they are asked for. The parent of a logger is the nearest existing one whose name
is the front of its name up to a dot, and the root if there is none. Of two dots in a row only the
last counts for that (`places`), so a name may begin like that of the library's logger and lie
outside of its namespace.

`setup` replaces the handlers of the library's logger by one of the chosen kind and sets its level.
The level is looked at late, so a refused level can leave the logger changed. Whether records of a
name and a level are taken is decided when the first of them arrives, and holds until a level is
set, even if the logger gets another parent meanwhile.

The handler with markup shows a record on a log, which may refuse it for its markup. The error leaves
the call that told the record, and nothing behind that handler gets it.
-/

namespace EntityQuery
namespace Logging

/-- The names of levels; two levels have a second name. -/
def levels : List (String × Int) := [
  ("CRITICAL", critical), ("FATAL", critical), ("ERROR", error), ("WARN", warning),
  ("WARNING", warning), ("INFO", info), ("DEBUG", debug), ("NOTSET", 0)]

/-- The name under which a level is shown. -/
def levelName (n : Int) : String :=
  if n = critical then "CRITICAL"
  else if n = error then "ERROR"
  else if n = warning then "WARNING"
  else if n = info then "INFO"
  else if n = debug then "DEBUG"
  else if n = 0 then "NOTSET"
  else "Level " ++ n.repr

/-- The level of a logger: a number, or a truth value that serves as one. -/
inductive Level where
  | number (n : Int)
  | flag (b : Bool)
deriving DecidableEq, Repr

/-- The number of a level. -/
def Level.toInt : Level → Int
  | number n => n
  | flag b => if b then 1 else 0

/-- The level that a value stands for: a whole number, a truth value, or the name of a level. -/
def levelOf (v : Value) : Except Error Level :=
  match v with
  | .int n => .ok (.number n)
  | .bool b => .ok (.flag b)
  | v =>
    match v.text? with
    | some s => match levels.lookup s with
      | some n => .ok (.number n)
      | none => .error (.showing v.inspect? .unknownLevel)
    | none => .error (.showing v.inspect? .notLevel)

/-- What takes the records of a logger: nothing happens to them, or they are shown with markup from
a level on, or written as plain lines. -/
inductive Handler where
  | silent
  | pretty (threshold : Int)
  | plain
deriving DecidableEq, Repr

/-- The library's logger, the names that have been asked for besides its own, and what has been
decided about names and levels since a level was set. -/
structure Logger where
  handlers : List Handler
  level : Level
  propagates : Bool
  known : List String := []
  decided : List ((String × Int) × Bool) := []
deriving DecidableEq, Repr

/-- The logger before any setup. -/
def Logger.initial : Logger := { handlers := [.silent], level := .number 0, propagates := true }

/-- The name of the library's logger. -/
def packageName : String := "entitysearch"

/-- The name of the root. -/
def rootName : String := "root"

/-- The level of the root. -/
def rootLevel : Int := warning

/-- The name of the logger that is asked for: the library's own if no name is given. -/
def resolveName (name? : Option String) : String :=
  match name? with
  | none => packageName
  | some name => if name = "" then rootName else name

/-- The places of the dots among the first `n` characters before which the name of a parent may end,
from the last to the first. A dot right before another does not count, nor does one at the front. -/
def places (cs : List Char) : Nat → List Nat
  | 0 | 1 => []
  | n + 2 => if cs[n + 1]? = some '.' then (n + 1) :: places cs n else places cs (n + 1)

/-- A parent's name ends before the end of the name. -/
theorem lt_of_mem_places {cs : List Char} {n i : Nat} (h : i ∈ places cs n) : i < n := by
  fun_induction places cs n with
  | case1 => simp at h
  | case2 => simp at h
  | case3 n hdot ih =>
    rcases List.mem_cons.1 h with rfl | h
    · omega
    · have := ih h
      omega
  | case4 n hdot ih =>
    have := ih h
    omega

/-- The name of the parent of a logger among known names; without one, the parent is the root. -/
def parent? (known : List String) (name : String) : Option String :=
  ((places name.toList name.length).map fun i => String.ofList (name.toList.take i)).find?
    fun candidate => candidate = packageName || known.contains candidate

/-- Whether the library's logger is found among a logger and so many of its ancestors. -/
def isWithin (known : List String) : Nat → String → Bool
  | 0, name => name = packageName
  | n + 1, name => name = packageName || (parent? known name).any (isWithin known n)

/-- Whether a logger belongs to the library's namespace. Every parent has a shorter name
(`lt_of_mem_places`), so its length bounds the number of its ancestors. -/
def isInside (known : List String) (name : String) : Bool := isWithin known name.length name

example : isInside [] "entitysearch.a.b" ∧ ¬isInside [] "entitysearcher" := by decide +kernel
example : ¬isInside [] "entitysearch..a" ∧ isInside ["entitysearch."] "entitysearch..a" := by
  decide +kernel

/-- Where a record arrives: it is shown, written, written for want of any handler, or it reaches
the root. -/
inductive Output where
  | pretty (r : Record)
  | plain (r : Record)
  | unhandled (r : Record)
  | root (r : Record)
deriving DecidableEq, Repr

/-- Why a log refuses an output: only those with markup are shown there. -/
def Output.refusal? (markup : Log) : Output → Option Error
  | pretty r => markup.refuses r
  | _ => none

/-- What a handler makes of a record. -/
def Handler.handle (r : Record) : Handler → List Output
  | silent => []
  | pretty threshold => if threshold ≤ r.level then [.pretty r] else []
  | plain => [.plain r]

namespace Logger

/-- The level from which records of the library's namespace are taken. -/
def effectiveLevel (l : Logger) : Int :=
  if l.level.toInt = 0 then rootLevel else l.level.toInt

/-- The level from which records of a name are taken. -/
def threshold (l : Logger) (name : String) : Int :=
  if isInside l.known name then l.effectiveLevel else rootLevel

/-- Whether records of a name and a level are taken. Those without a level are not. -/
def takes (l : Logger) (name : String) (level : Int) : Bool :=
  0 < level && (l.decided.lookup (name, level)).getD (l.threshold name ≤ level)

/-- **Where a record arrives,** as long as nothing refuses it. -/
def deliver (l : Logger) (r : Record) : List Output :=
  if !l.takes r.logger r.level then []
  else if isInside l.known r.logger then
    if l.handlers.isEmpty && !l.propagates then
      if warning ≤ r.level then [.unhandled r] else []
    else l.handlers.flatMap (·.handle r) ++ (if l.propagates then [.root r] else [])
  else [.root r]

/-- The logger when a name has been asked for. -/
def ask (l : Logger) (name : String) : Logger := { l with known := name :: l.known }

/-- The logger when it remembers what it decided about a record. -/
def remember (l : Logger) (r : Record) : Logger :=
  { l with decided := ((r.logger, r.level), l.takes r.logger r.level) :: l.decided }

/-- Outputs up to the first that is refused: whether there is none, the logger after them, and those
before it. -/
def emit (l : Logger) (markup : Log) (outputs : List Output) :
    Except Error Unit × Logger × List Output :=
  (Interruption.outcome (Output.refusal? markup) outputs (.ok ()), l,
    Interruption.passed (Output.refusal? markup) outputs)

/-- **A record of a name that is asked for:** its outcome, the logger after it, and where it
arrives. -/
def log (l : Logger) (r : Record) (markup : Log := .quiet) :
    Except Error Unit × Logger × List Output :=
  let asked := l.ask r.logger
  (asked.remember r).emit markup (asked.deliver r)

/-- The log that takes the records of a logger and shows those with markup on another log. -/
def shownOn (l : Logger) (markup : Log) : Log where
  refuses r := Interruption.cause? (Output.refusal? markup) (l.deliver r)
  kind_of_refuses := by
    intro r e h
    obtain ⟨output, -, refused⟩ := List.exists_of_findSome?_eq_some h
    cases output with
    | pretty r => exact markup.kind_of_refuses refused
    | _ => cases refused

end Logger

/-- The choices of a setup. -/
structure Setup where
  level : Value := .text "INFO"
  pretty : Bool := false
  propagate : Bool := false

/-- The handler that a setup chooses. -/
def Setup.handler (s : Setup) (level : Level) : Handler :=
  if s.pretty then .pretty level.toInt else .plain

/-- What the log says after a setup. -/
def Setup.message (s : Setup) (level : String) : String :=
  "Logging initialized at level: " ++ (if s.pretty then "[bold]" ++ level ++ "[/bold]" else level)

/-- **A setup:** its outcome, the logger after it, and where its own record arrives. The handler
with markup looks at the level itself, before it takes the place of the handlers that have been
removed; the plain one leaves that to the logger. -/
def Logger.setup (l : Logger) (s : Setup) (markup : Log := .quiet) :
    Except Error Unit × Logger × List Output :=
  match levelOf s.level, s.level.display? with
  | .error e, shown? =>
    match s.pretty, shown? with
    | false, some _ => (.error e, { l with handlers := [.plain] }, [])
    | _, _ => (.error e, { l with handlers := [] }, [])
  | .ok _, none => (.error .tooManyDigits, { l with handlers := [] }, [])
  | .ok level, some shown =>
    let l' : Logger := ⟨[s.handler level], level, s.propagate, l.known, []⟩
    l'.emit markup (l'.deliver ⟨packageName, debug, s.message shown⟩)

/-- A record as a line of the plain handler, after the time. -/
def Record.plainText (r : Record) : String :=
  "[" ++ levelName r.level ++ "] " ++ r.logger ++ ": " ++ r.message ++ "\n"

/-- A record as the handler with markup shows it. -/
def Record.prettyText (r : Record) : String :=
  "[dim white]" ++ r.logger ++ "[/dim white]: " ++ r.message

/-- The text that is written of an output. -/
def Output.written : Output → String
  | plain r => r.plainText
  | unhandled r => r.message ++ "\n"
  | _ => ""

/-- The name of the level and the text that are shown of an output. -/
def Output.shown? : Output → Option (String × String)
  | pretty r => some (levelName r.level, r.prettyText)
  | _ => none

/-- The record of an output that reaches the root. -/
def Output.root? : Output → Option Record
  | root r => some r
  | _ => none

/-- The record of an output that is shown with markup. -/
def Output.pretty? : Output → Option Record
  | pretty r => some r
  | _ => none

end Logging
end EntityQuery
