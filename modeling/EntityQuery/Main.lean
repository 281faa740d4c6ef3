import EntityQuery.CommandLine.Run

/-!
# The program

The program runs a command line. The replies of the service are read from the standard input, the
body of each on a line of its own: first the description of the entities, then the result of the
query. Without a line the service does not answer.
-/

namespace EntityQuery
namespace CommandLine

/-- The reply of a line of input. -/
def replyOfLine (line : String) : Service.Reply :=
  if line = "" then .none else .answered 200 "OK" (Text.encode line)

/-- The line that shows the parts of a table side by side, with bars between them. -/
def lineOf (parts : List Value) : String :=
  " | ".intercalate (parts.map fun part => part.display?.getD "")

/-- The lines that show an output: a table as its title, its columns and its rows. -/
def Output.lines : Output → List String
  | line text => [Console.terminal.line text]
  | name text => [Console.terminal.shows text]
  | table title columns rows =>
    (title :: lineOf columns :: rows.map lineOf).map Console.terminal.shows

/-- What a report prints as an error. -/
def Report.errorLines (r : Report) : List String :=
  r.usage?.toList ++ r.err .terminal ++ match r.exit with
    | .error e => [e.message]
    | .ok _ => []

/-- The exit code of a report; an error that left the run counts as a failure. -/
def Report.exitCode (r : Report) : UInt32 :=
  match r.exit with
  | .ok code => UInt32.ofNat code
  | .error _ => 1

end CommandLine
end EntityQuery

open EntityQuery in
def main (argv : List String) : IO UInt32 := do
  let input ← IO.getStdin
  let metadata := CommandLine.replyOfLine (← input.getLine)
  let execution := CommandLine.replyOfLine (← input.getLine)
  let service : Service.Endpoint → Service.Reply := fun
    | .metadata => metadata
    | .execution => execution
  let report := CommandLine.run argv service .terminal
  for record in CommandLine.shownLog argv report.records do
    IO.eprintln record.2
  for output in report.out do
    for line in output.lines do
      IO.println line
  for line in report.errorLines do
    IO.eprintln line
  return report.exitCode
