import EntityQuery.Proofs.CommandLine.Report
import EntityQuery.Proofs.Logging.Delivery
import EntityQuery.Proofs.Session.Log

/-!
# Runs on a console

On a console that may refuse what it is to show, and with a log that may refuse records, a run does what it
does on the console that takes everything, up to the first event that is refused (`run_under`). Each stage
of a run is of that kind if the stages behind it are. So a run comes to an exit code exactly if it does so
on the console that takes everything and all its events are taken (`isOk_exit_run_iff`), and it is the same
run then (`run_of_exit`).
-/

namespace EntityQuery

open Interruption
open Logging (Log)
open Outcome
open Service (Act Endpoint Exchange Reply)

namespace Logging
namespace Logger

/-- A log on the log that takes everything takes everything. -/
theorem shownOn_quiet (l : Logger) : l.shownOn .quiet = .quiet := by
  ext1
  funext r
  exact cause?_eq_none (by rintro (_ | _ | _ | _) <;> rfl) (l.deliver r)

/-- **A setup on a log** does what it does without one, up to its own record. -/
theorem setup_on (l : Logger) (s : Setup) (markup : Log) : l.setup s markup =
    (outcome (Output.refusal? markup) (l.setup s).2.2 (l.setup s).1, (l.setup s).2.1,
      passed (Output.refusal? markup) (l.setup s).2.2) := by
  unfold setup
  split
  · split <;> rfl
  · rfl
  · rw [emit_quiet]
    rfl

/-- The record of a setup with markup that does not propagate is shown or dropped, as the logger behind
it does with it. -/
theorem setup_cases_of_pretty (l : Logger) {s : Setup} (pretty : s.pretty = true)
    (propagate : s.propagate = false) : (l.setup s).2.2 = [] ∨
      ∃ r, (l.setup s).2.2 = [.pretty r] ∧ (l.setup s).2.1.deliver r = [.pretty r] := by
  unfold setup
  split
  · split <;> exact .inl rfl
  · exact .inl rfl
  · next level shown _ _ =>
    rw [emit_quiet]
    have inside : isInside l.known packageName = true := isInside_of_isOwn l.known (.inl rfl)
    generalize made : (⟨[s.handler level], level, s.propagate, l.known, []⟩ : Logger) = l'
    have delivered : ∀ r, r.logger = packageName → l'.deliver r = [] ∨ l'.deliver r = [.pretty r] := by
      rintro r named
      subst made
      rw [deliver_eq (List.cons_ne_nil _ _), receivers, named, inside]
      simp only [propagate, Setup.handler, pretty, Bool.and_true, Bool.not_true, Bool.or_self,
        Bool.and_false, Bool.false_eq_true, if_false, if_true, List.append_nil]
      split
      · rw [List.flatMap_singleton, Handler.handle]
        split
        · exact .inr rfl
        · exact .inl rfl
      · exact .inl rfl
    obtain none | one := delivered ⟨packageName, debug, s.message shown⟩ rfl
    · exact .inl none
    · exact .inr ⟨_, one, one⟩

end Logger
end Logging

namespace CommandLine

variable {a : Arguments} {service : Endpoint → Reply} {console : Console} {s : Session}

/-! ### Reports -/

namespace Report

variable {α : Type} {r : Report}

/-- A run that an error leaves at once shows nothing that could be refused. -/
@[simp] theorem under_leave (e : Error) : (leave e).under console = leave e := rfl

/-- Nor does one that is used wrongly. -/
@[simp] theorem under_misuse (message : String) :
    (misuse message).under console = misuse message := rfl

/-- Nor does a bare success. -/
@[simp] theorem under_success : success.under console = success := rfl

/-- **A report whose events are all taken** is left as it is. -/
theorem under_of_taken (h : ∀ event ∈ r.events, event.refusal? console = none) :
    r.under console = r := by
  rw [under, cause?_eq_none_iff.2 h]

/-- A report with an event that is refused is left by the error of the first. -/
theorem under_of_refused {e : Error} (h : cause? (Event.refusal? console) r.events = some e) :
    r.under console = { exit := .error e, events := passed (Event.refusal? console) r.events } := by
  rw [under, h]

/-- The events of a report on a console are those before the first that is refused. -/
theorem events_under : (r.under console).events = passed (Event.refusal? console) r.events := by
  unfold under
  split
  · next taken => exact (passed_of_cause?_eq_none taken).symm
  · rfl

/-- **An event on a console** is put before the report on it. -/
theorem under_emit (event : Event) :
    (r.emit .recording event).under console = (r.under console).emit console event := by
  rw [emit_recording, emit, under, under, cause?, cause?, List.findSome?_cons, passed,
    List.takeWhile_cons]
  cases refused : event.refusal? console with
  | some e => rfl
  | none => cases List.findSome? (Event.refusal? console) r.events <;> rfl

/-- **A record on a console** is told before the report on it. -/
theorem under_log (record : Logging.Record) :
    (r.log .recording record).under console = (r.under console).log console record :=
  under_emit _

/-- **Output on a console** is printed before the report on it. -/
theorem under_print (out : List Output) :
    (r.print .recording out).under console = (r.under console).print console out := by
  induction out with
  | nil => rfl
  | cons o out ih =>
    show ((r.print .recording out).emit .recording (.shown (.output o))).under console =
      ((r.under console).print console out).emit console (.shown (.output o))
    rw [under_emit, ih]

/-- **A failure on a console** tells its message there. -/
theorem under_failure (what why : String) :
    (failure .recording what why).under console = failure console what why :=
  under_emit _

/-- The acts of an exchange are refused by the log of a console. -/
theorem cause?_acts (acts : List Act) : cause? (Event.refusal? console) (acts.map .act) =
    cause? (Act.refusal? console.log) acts :=
  cause?_map

/-- **Behind an exchange whose records are taken** the report goes on. -/
theorem under_after_of_taken {x : Exchange α}
    (h : cause? (Act.refusal? console.log) x.acts = none) :
    (after x r).under console = after x (r.under console) := by
  have front : cause? (Event.refusal? console) (x.acts.map .act) = none := (cause?_acts _).trans h
  rw [after, under, under, cause?_append, front, Option.none_or, passed_append, front,
    passed_of_cause?_eq_none front]
  cases cause? (Event.refusal? console) r.events <;> rfl

/-- **Behind an exchange with a record that is refused** the error of that leaves the report. -/
theorem under_after_of_refused {x : Exchange α} {e : Error}
    (h : cause? (Act.refusal? console.log) x.acts = some e) :
    (after x r).under console = after (x.under console.log) (leave e) := by
  have front : cause? (Event.refusal? console) (x.acts.map .act) = some e := (cause?_acts _).trans h
  have cause : cause? (Event.refusal? console) (after x r).events = some e := by
    rw [after, cause?_append, front, Option.some_or]
  rw [under_of_refused cause, Exchange.under_of_refused h, after, passed_append, front, passed_map]
  simp [after, leave, Event.refusal?]

/-- **A report behind an exchange** is on a console the one behind the exchange under its log: the same
on the console if all records are taken, and left by the error of the first that is not. -/
theorem under_after {x x' : Exchange α} {r' : Report} (same : x' = x.under console.log)
    (taken : cause? (Act.refusal? console.log) x.acts = none → r' = r.under console)
    (refused : ∀ e, cause? (Act.refusal? console.log) x.acts = some e → r' = leave e) :
    (after x r).under console = after x' r' := by
  cases cause : cause? (Act.refusal? console.log) x.acts with
  | none => rw [under_after_of_taken cause, same, Exchange.under_of_taken cause, taken cause]
  | some e => rw [under_after_of_refused cause, same, refused e cause]

end Report

/-! ### Stages -/

/-- **From the query on.** -/
theorem runQuery_under (entity query : String) : (runQuery a entity s query service).under console =
    runQuery a entity s query service console := by
  unfold runQuery
  rw [Report.under_log, Report.under_print, log_recording]
  congr 2
  split
  · rfl
  · refine Report.under_after (Session.search_under ..) (fun taken => ?_) fun e refused => ?_
    · simp only [Session.search_of_taken taken]
      split
      · rfl
      · exact (Report.under_failure _ _).symm
      · split
        · exact (Report.under_print (r := .success) _).symm
        · rfl
    · simp only [Session.search_under _ _ _ console.log, Exchange.under_of_refused refused]

/-- **From the loaded entity on.** -/
theorem runLoaded_under (entity : String) : (runLoaded a entity s service).under console =
    runLoaded a entity s service console := by
  unfold runLoaded
  split
  · split
    · exact Report.under_print _
    · rfl
  · split
    · split
      · exact Report.under_failure _ _
      · rfl
    · split
      · rfl
      · exact runQuery_under ..

/-- **From the client on.** -/
theorem runClient_under (c : Client) : (runClient a c service).under console =
    runClient a c service console := by
  unfold runClient
  rw [log_recording]
  split
  · rw [← Client.entityNames_under _ console.log]
    refine Report.under_after rfl (fun taken => ?_) fun e refused => ?_
    · simp only [Exchange.under_of_taken taken]
      split
      · exact (Report.under_print (r := .success) _).symm
      · split
        · exact (Report.under_failure _ _).symm
        · rfl
    · -- an error of markup is none that a list of the entities takes
      have lost := Session.isLoadFailure_of_cause? refused
      simp [Exchange.under_of_refused refused, lost]
  · split
    · rfl
    · rfl
    · next entity _ _ =>
      refine Report.under_after (Session.load_under ..) (fun taken => ?_) fun e refused => ?_
      · simp only [Session.load_of_taken taken]
        split
        · rfl
        · exact (Report.under_failure _ _).symm
        · exact (runLoaded_under entity).symm
      · simp only [Session.load_under _ _ console.log, Exchange.under_of_refused refused]

/-- **From the log on.** -/
theorem runSetUp_under : (runSetUp a service).under console = runSetUp a service console := by
  unfold runSetUp
  rw [log_recording, ← Client.connect_under console.log]
  refine Report.under_after rfl (fun taken => ?_) fun e refused => ?_
  · simp only [Exchange.under_of_taken taken]
    split
    · rfl
    · exact (runClient_under _).symm
  · simp only [Exchange.under_of_refused refused]

/-- The console that takes everything takes it for every command line. -/
@[simp] theorem Arguments.consoleOf_recording (a : Arguments) : a.consoleOf .recording = .recording := by
  rw [consoleOf, Console.recording, Logging.Logger.shownOn_quiet]

/-- **The setup of the log on a console.** -/
theorem Arguments.setUp_under (a : Arguments) (console : Console) :
    (a.setUp .recording).under (a.consoleOf console).log = a.setUp console := by
  unfold setUp
  rw [Logging.Logger.setup_on _ _ console.log, log_recording]
  obtain none | ⟨r, shown, delivered⟩ :=
    Logging.Logger.setup_cases_of_pretty .initial (s := a.setup) rfl rfl
  · simp only [none]
    rfl
  · have same : (a.consoleOf console).log.refuses r = console.log.refuses r := by
      show cause? _ (a.logger.deliver r) = _
      rw [Arguments.logger, delivered]
      cases refused : console.log.refuses r <;> simp [cause?, Logging.Output.refusal?, refused]
    simp only [shown]
    cases refused : console.log.refuses r <;>
      simp [Exchange.under, outcome, cause?, passed, Act.refusal?, Act.record?, same, refused,
        Logging.Output.refusal?, Logging.Output.pretty?]

/-- **A run on a console** does what it does on the console that takes everything, up to the first event
that is refused. -/
theorem run_under {argv : List String} (accepted : Arguments.ofList argv = .ok a)
    (service : Endpoint → Reply) (console : Console) :
    run argv service console = (run argv service).under (a.consoleOf console) := by
  simp only [run, accepted, runArguments, Arguments.consoleOf_recording]
  rw [← Arguments.setUp_under a console]
  refine (Report.under_after rfl (fun taken => ?_) fun e refused => ?_).symm
  · simp only [Exchange.under_of_taken taken]
    split
    · rfl
    · exact runSetUp_under.symm
  · simp only [Exchange.under_of_refused refused]

variable {argv : List String}

/-- **A run comes to an exit code on a console** exactly if it does on the console that takes everything
and all its events are taken. -/
theorem isOk_exit_run_iff (accepted : Arguments.ofList argv = .ok a) :
    (run argv service console).exit.isOk = true ↔ (run argv service).exit.isOk = true ∧
      ∀ event ∈ (run argv service).events, event.refusal? (a.consoleOf console) = none := by
  rw [run_under accepted, ← cause?_eq_none_iff]
  cases cause : cause? (Event.refusal? (a.consoleOf console)) (run argv service).events with
  | none => simp [Report.under, cause]
  | some e => simp [Report.under_of_refused cause, isOk_iff]

/-- **A run that comes to an exit code on a console** is the one on the console that takes everything. -/
theorem run_of_exit (accepted : Arguments.ofList argv = .ok a) {code : ℕ}
    (h : (run argv service console).exit = .ok code) : run argv service console = run argv service := by
  obtain ⟨-, taken⟩ := (isOk_exit_run_iff accepted).1 (isOk_iff.2 ⟨code, h⟩)
  rw [run_under accepted, Report.under_of_taken taken]

end CommandLine
end EntityQuery
