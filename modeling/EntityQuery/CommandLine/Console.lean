import EntityQuery.Logging.Logger
import EntityQuery.Text.Markup
import EntityQuery.Value.Text

/-!
# Consoles

A run prints to a console and to an error console, and its log is shown on the latter. Names, tables
and messages are taken for markup there, queries are not. `Console` gathers what the program needs of
a package that does this: a way to escape text of unknown origin, and what is seen of markup and of
other lines. Nothing is assumed of these, nor of what is refused, but that a record is refused for its
markup and nothing else (`Logging.Log.kind_of_refuses`). So what is said of a run is what it gives to
the console. What is seen of that is the matter of the console, which may drop control codes or put
pictures in the place of their short names.

`Console.recording` takes everything. `Console.terminal` is the package that is run: it refuses
closing tags that close nothing and columns that are no text, and writes to a stream that has a
replacement for halves of pairs. On a stream without one a console refuses what holds them. How lines
are broken and aligned is left out.
-/

namespace EntityQuery
namespace CommandLine

/-- What is printed to the console: a line that is no markup, a name that is taken for markup, or a
table of columns and cells under a title, which are taken for markup too. Cells are texts, which may
hold halves of pairs. -/
inductive Output where
  | line (text : String)
  | name (text : String)
  | table (title : String) (columns : List Value) (rows : List (List Value))

/-- What is shown: an output, or a message on the error console that says what failed, and why. -/
inductive Item where
  | output (o : Output)
  | message (what why : String)

/-- **A package that prints,** and what is assumed of it. -/
structure Console where
  /-- The markup that is to show a text. -/
  escape : String → String
  /-- What is seen of markup. -/
  shows : String → String
  /-- What is seen of a line that is no markup. -/
  line : String → String
  /-- Why an item is refused, if it is. -/
  refuses : Item → Option Error
  /-- The log, whose records are taken for markup. It refuses them with errors of markup only. -/
  log : Logging.Log

namespace Console

/-- The markup of a message. -/
def messageMarkup (console : Console) (what why : String) : String :=
  "[bold red]" ++ what ++ ":[/bold red] " ++ console.escape why

/-- **The console that takes everything.** -/
def recording : Console where
  escape := Markup.escape
  shows := Markup.plain
  line := id
  refuses _ := none
  log := .quiet

/-- Why markup is refused. -/
def markupRefusal? (s : String) : Option Error := (Markup.fault? s).map .markup

/-- Why a part of a table, the head of a column or a cell, is refused: its markup is at fault, or it is
no text. -/
def partRefusal? (part : Value) : Option Error :=
  if part.isText then part.display?.bind markupRefusal?
  else some (.showing part.inspect? .unrenderable)

/-- Why a table is refused. It is looked at column by column, each from its head down, and its title
comes last; without a column nothing is looked at. -/
def tableRefusal? (title : String) (columns : List Value) (rows : List (List Value)) :
    Option Error :=
  if columns.isEmpty then none
  else (columns.zipIdx.findSome? fun (column, i) => (partRefusal? column).or
    (rows.findSome? fun row => row[i]?.bind partRefusal?)).or (markupRefusal? title)

/-- The log that refuses records whose markup is at fault. -/
def markupLog : Logging.Log where
  refuses r := markupRefusal? r.prettyText
  kind_of_refuses := by
    intro r e h
    obtain ⟨_, -, rfl⟩ := Option.map_eq_some_iff.1 h
    rfl

/-- **The console of a terminal.** -/
def terminal : Console where
  escape := Markup.escape
  shows := Markup.plain
  line := Markup.line
  refuses
    | .output (.line _) => none
    | .output (.name text) => markupRefusal? text
    | .output (.table title columns rows) => tableRefusal? title columns rows
    | .message what why =>
      markupRefusal? ("[bold red]" ++ what ++ ":[/bold red] " ++ Markup.escape why)
  log := markupLog

example : terminal.shows "user[admin]" = "user" ∧
    (terminal.refuses (.output (.name "user[/admin]"))).isSome = true := by decide +kernel

end Console
end CommandLine
end EntityQuery
