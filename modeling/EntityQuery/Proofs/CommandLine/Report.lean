import EntityQuery.CommandLine.Run
import EntityQuery.Proofs.Service.Exchange

/-!
# Reports in a row

A report is put together from its end: an event, a record, output and the acts of an exchange are put
before those of the rest. The lemmas say what that adds to each part of a report, on the console that takes
everything.
-/

namespace EntityQuery
namespace CommandLine

open Service (Act Exchange)

/-- The log of the console that takes everything takes every record. -/
@[simp] theorem log_recording : Console.recording.log = .quiet := rfl

/-- The console that takes everything refuses no event. -/
@[simp] theorem Event.refusal?_recording (event : Event) : event.refusal? .recording = none := by
  rcases event with (_ | _) | _ <;> rfl

namespace Report

variable {α : Type} (r : Report)

/-- The console that takes everything takes an event. -/
theorem emit_recording (event : Event) :
    r.emit .recording event = { r with events := event :: r.events } := by
  rw [emit, Event.refusal?_recording]

/-- It takes output, each in its place. -/
theorem print_recording (out : List Output) : r.print .recording out =
    { r with events := out.map (fun o => .shown (.output o)) ++ r.events } := by
  induction out with
  | nil => rfl
  | cons o out ih =>
    have first : r.print .recording (o :: out) =
        (r.print .recording out).emit .recording (.shown (.output o)) := rfl
    rw [first, emit_recording, ih]
    rfl

/-! ### The exit code -/

/-- Output is no complaint about the use. -/
@[simp] theorem usage?_print (out : List Output) : (r.print .recording out).usage? = r.usage? := by
  rw [print_recording]

/-- What is done before does not change the exit code. -/
@[simp] theorem exit_after (x : Exchange α) : (after x r).exit = r.exit := rfl

/-- Nor does a record. -/
@[simp] theorem exit_log (record : Logging.Record) : (r.log .recording record).exit = r.exit := rfl

/-- Nor does output. -/
@[simp] theorem exit_print (out : List Output) : (r.print .recording out).exit = r.exit := by
  rw [print_recording]

/-- A wrong use has the code 2. -/
@[simp] theorem exit_misuse (message : String) : (misuse message).exit = .ok 2 := rfl

/-- An error that leaves a run takes the place of the code. -/
@[simp] theorem exit_leave (e : Error) : (leave e).exit = .error e := rfl

/-- A success has the code 0. -/
@[simp] theorem exit_success : success.exit = .ok 0 := rfl

/-- A failure has the code 1. -/
@[simp] theorem exit_failure (what why : String) :
    (failure .recording what why).exit = .ok 1 := rfl

/-! ### Requests -/

/-- The requests of an exchange come before those of the report. -/
@[simp] theorem requests_after (x : Exchange α) :
    (after x r).requests = x.requests ++ r.requests := by
  simp [requests, acts, after, Exchange.requests, Event.act?, List.filterMap_map, Function.comp_def]

/-- A record is no request. -/
@[simp] theorem requests_log (record : Logging.Record) :
    (r.log .recording record).requests = r.requests := rfl

/-- Output is no request. -/
@[simp] theorem requests_print (out : List Output) :
    (r.print .recording out).requests = r.requests := by
  simp [print_recording, requests, acts, Event.act?, List.filterMap_map, Function.comp_def]

/-- Nothing is sent when an error leaves a run. -/
@[simp] theorem requests_leave (e : Error) : (leave e).requests = [] := rfl

/-- A success sends nothing. -/
@[simp] theorem requests_success : success.requests = [] := rfl

/-- A failure sends nothing. -/
@[simp] theorem requests_failure (what why : String) :
    (failure .recording what why).requests = [] := rfl

/-! ### Output -/

/-- An exchange prints nothing. -/
@[simp] theorem out_after (x : Exchange α) : (after x r).out = r.out := by
  simp [out, after, Event.output?, List.filterMap_map, Function.comp_def]

/-- A record is no output. -/
@[simp] theorem out_log (record : Logging.Record) : (r.log .recording record).out = r.out := rfl

/-- Output comes before that of the report. -/
@[simp] theorem out_print (out : List Output) : (r.print .recording out).out = out ++ r.out := by
  simp [print_recording, Report.out, Event.output?, List.filterMap_map, Function.comp_def]

/-- A success prints nothing of itself. -/
@[simp] theorem out_success : success.out = [] := rfl

/-- A failure prints nothing to the console. -/
@[simp] theorem out_failure (what why : String) : (failure .recording what why).out = [] := rfl

/-! ### Messages -/

/-- An exchange is no message. -/
@[simp] theorem messages_after (x : Exchange α) : (after x r).messages = r.messages := by
  simp [messages, after, Event.message?, List.filterMap_map, Function.comp_def]

/-- A record is no message. -/
@[simp] theorem messages_log (record : Logging.Record) :
    (r.log .recording record).messages = r.messages := rfl

/-- Output is no message. -/
@[simp] theorem messages_print (out : List Output) :
    (r.print .recording out).messages = r.messages := by
  simp [print_recording, messages, Event.message?, List.filterMap_map, Function.comp_def]

/-- A success tells nothing. -/
@[simp] theorem messages_success : success.messages = [] := rfl

/-- A failure tells its message. -/
@[simp] theorem messages_failure (what why : String) :
    (failure .recording what why).messages = [(what, why)] := rfl

end Report
end CommandLine
end EntityQuery
