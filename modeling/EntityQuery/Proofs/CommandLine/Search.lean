import EntityQuery.Proofs.CommandLine.Exit
import EntityQuery.Proofs.CommandLine.FilterQuery
import EntityQuery.Proofs.CommandLine.Requests

/-!
# A search with filters

What a run makes of its filters, once its entity is loaded, is decided by what each of them sets. If
all of them set something, the run poses the query of the last text of each field
(`poses_of_applied`). If not, it ends with the error of the first that does not, and poses no query
(`refused_of_error`). `run_filters` puts this together with what the arguments of the command line
say. On a console or with a log that refuses some of that, the run does so up to there. The text
`--`, which is taken for an empty list, is neither split nor refused
(`exists_filter_without_pair`).
-/

namespace EntityQuery
namespace CommandLine

open Outcome
open Service (Endpoint Reply Request)

namespace Arguments

/-- Whether a report is that of a run with a query: it is printed if it is to be shown, and sent with the
user that was given unless the run is a dry one, which does nothing else. -/
structure Poses (a : Arguments) (query : String) (r : Report) : Prop where
  shown : a.showQuery = true ∨ a.dryRun = true → r.out.head? = some (.line query)
  dry : a.dryRun = true → r.exit = .ok 0 ∧ r.out = [.line query] ∧ a.SendsNoQuery r.requests
  sent : a.dryRun = false → ∃ form, a.SendsQuery form r.requests ∧
    Form.decode? form = some (("sql", query) :: (a.user?.map fun user => ("user", user)).toList)

/-- Whether a report is that of a run that is refused for a filter: its error is all that is printed,
and no query is sent. -/
structure Refuses (a : Arguments) (err : Error) (r : Report) : Prop where
  exit : r.exit = .ok 1
  out : r.out = []
  messages : r.messages = [("Invalid filter", err.message)]
  requests : a.SendsNoQuery r.requests

end Arguments

variable {a : Arguments} {service : Endpoint → Reply} {c : Client} {name : String} {e : Entity}

/-- A run that goes no further than the loaded entity has asked for the catalog alone. -/
theorem sendsNoQuery_of_loads (h : a.Loads service c name e)
    (silent : (runLoaded a name (loadedSession c name e) service).requests = []) :
    a.SendsNoQuery (runArguments a service).requests := by
  obtain ⟨base, reaches, sent⟩ := requests_of_loads h
  exact .inr ⟨c, base, reaches, by rw [sent, silent]⟩

/-- **A run poses the query of its filters.** -/
theorem poses_of_applied {b : Builder} {query : String} (h : a.Loads service c name e)
    (applied : applyFilters (.ofEntity e) a.filters = .ok b) (built : b.build = .ok query) :
    a.Poses query (runArguments a service) := by
  have queried : runLoaded a name (loadedSession c name e) service =
      runQuery a name { loadedSession c name e with builder := b } query service :=
    runLoaded_of_applied h.searches.2 applied built
  have run := runArguments_of_loads h
  rw [queried] at run
  refine ⟨fun shown => ?_, fun dry => ⟨?_, ?_, ?_⟩, fun wet => ⟨_,
    sendsQuery_of_applied h applied built wet, Form.decode?_encode (by simp [Client.parameters])⟩⟩
  · simp only [run, Report.out_after]
    obtain shown | dry := shown
    · exact head?_runQuery shown
    · simp [runQuery, dry]
  · simp only [run, Report.exit_after]
    simp [runQuery, dry]
  · simp only [run, Report.out_after]
    simp [runQuery, dry]
  · refine sendsNoQuery_of_loads h ?_
    rw [queried, requests_runQuery (s := { loadedSession c name e with builder := b }) built, dry,
      if_pos rfl]

/-- Filters that are not all taken end the run. -/
theorem runLoaded_of_error {err : Error} {s : Session} (fields : a.listFields = false)
    (refused : applyFilters s.builder a.filters = .error err) :
    runLoaded a name s service =
      if err.isOwn then Report.failure .recording "Invalid filter" err.message
      else Report.leave err := by
  rw [runLoaded, fields, if_neg Bool.false_ne_true]
  simp only [refused]

/-- **A run is refused for its first filter that sets nothing.** -/
theorem refused_of_error {err : Error} (h : a.Loads service c name e)
    (refused : applyFilters (.ofEntity e) a.filters = .error err) (own : err.isOwn = true) :
    a.Refuses err (runArguments a service) := by
  have failed : runLoaded a name (loadedSession c name e) service =
      Report.failure .recording "Invalid filter" err.message := by
    rw [runLoaded_of_error (s := loadedSession c name e) h.searches.2 refused, if_pos own]
  have run := runArguments_of_loads h
  rw [failed] at run
  refine ⟨?_, ?_, ?_, sendsNoQuery_of_loads h (by rw [failed]; rfl)⟩ <;> simp [run]

/-- An error that is no own one leaves the run. -/
theorem left_of_error {err : Error} (h : a.Loads service c name e)
    (refused : applyFilters (.ofEntity e) a.filters = .error err) (foreign : err.isOwn = false) :
    (runArguments a service).exit = .error err := by
  simp only [runArguments_of_loads h, Report.exit_after,
    runLoaded_of_error (s := loadedSession c name e) h.searches.2 refused, foreign]
  rfl

/-- **What a run makes of its filters.** A filter argument is accepted exactly if it has an equals sign
with something before the first one that is not blank, and it is split there, so the filters of a
command line that is used rightly are those of its arguments. Let the entity be loaded.

If each filter names a searchable field and has a text that its type takes, the run poses the query that
has a clause for each searchable field whose last filter has a text that is not blank, in the order of
the fields, with the literal of what is read from that text. If not, it is refused with the error of the
first filter that does not, whatever is behind it. An empty list there leaves the run with an error. On a
console or with a log that may refuse something, the run is this one up to what is refused first, and the
error of that leaves it. -/
theorem run_filters {argv : List String} (accepted : Arguments.ofList argv = .ok a)
    (loads : a.Loads service c name e) :
    (∀ s field text, filterOf s = .ok (field, text) ↔ Splits s field text) ∧
    (∃ ts, tokens argv = .ok ts ∧ List.Forall₂ IsFilter (filtersOf ts) a.filters) ∧
    (∀ console, run argv service console = (run argv service).under (a.consoleOf console)) ∧
    ((∀ f ∈ a.filters, ∃ entry, e.entryOf f = .ok entry) →
      ∃ clauses, List.Forall₂ IsFilterClause (searchedTexts e a.filters) clauses ∧
        a.Poses (Builder.queryText e.name clauses) (run argv service)) ∧
    ∀ before after, (∀ f ∈ before, ∃ entry, e.entryOf f = .ok entry) →
      (∀ f err, a.filters = before ++ some f :: after → e.entryOf (some f) = .error err →
        a.Refuses err (run argv service)) ∧
      (a.filters = before ++ none :: after → (run argv service).exit = .error .filterParts) := by
  have same : run argv service = runArguments a service := by simp only [run, accepted]
  refine ⟨fun _ _ _ => filterOf_eq_ok_iff, Arguments.filters_of_ofList accepted,
    run_under accepted service, ?_⟩
  rw [same]
  refine ⟨fun taken => ?_,
    fun before after passed => ⟨fun f err split refused => ?_, fun split => ?_⟩⟩
  · obtain ⟨b, clauses, applied, written, built⟩ := build_applyFilters taken
    exact ⟨clauses, written, poses_of_applied loads applied built⟩
  · have failed : applyFilters (.ofEntity e) a.filters = .error err := by
      rw [split]
      exact applyFilters_eq_error passed refused
    exact refused_of_error loads failed (isOwn_of_entryOf refused)
  · have failed : applyFilters (.ofEntity e) a.filters = .error .filterParts := by
      rw [split]
      exact applyFilters_eq_error passed rfl
    exact left_of_error loads failed rfl

/-- A user has a number and an address. -/
def userEntity : Entity :=
  ⟨"user", [⟨"id", .integer, true⟩, ⟨"email", .string, true⟩], by decide⟩

/-- A service whose catalog has the users. -/
def usersService : Endpoint → Reply
  | .metadata => .answered 200 "OK" <| Text.encode <|
      "\x7b\"entities\":[\x7b\"name\":\"user\",\"fields\":[" ++
      "\x7b\"name\":\"id\",\"type\":\"integer\",\"search\":true\x7d," ++
      "\x7b\"name\":\"email\",\"type\":\"string\",\"search\":true\x7d]\x7d]\x7d"
  | .execution => .none

/-- The users are loaded whatever the filters are. -/
theorem exists_loads_user (filters : List (Option (String × String))) :
    ∃ c, Arguments.Loads { entity? := some "user", filters } usersService c "user" userEntity := by
  have reached : ((Client.connect (Arguments.settings {})).outcome.toOption.bind fun c =>
      (c.entity "user" (usersService .metadata)).outcome.toOption) = some userEntity := by
    decide +kernel
  have log : (Logging.Logger.initial.setup (Arguments.setup {})).1.toOption = some () := by
    decide +kernel
  obtain ⟨c, connected, found⟩ := Option.bind_eq_some_iff.1 reached
  exact ⟨c, ⟨rfl, rfl⟩, toOption_eq_some.1 log, toOption_eq_some.1 connected, ⟨rfl, by decide⟩,
    toOption_eq_some.1 found⟩

/-- A search with two filters for one field. -/
def repeatedSearch : Arguments :=
  { entity? := some "user", filters := [some ("id", "1"), some ("id", "+02")] }

/-- The last text of a field is searched for. -/
theorem run_filters_repeated :
    Arguments.ofList ["user", "--filter", "id=1", "--filter", " id =+02"] = .ok repeatedSearch ∧
      ∃ form, repeatedSearch.SendsQuery form
          (run ["user", "--filter", "id=1", "--filter", " id =+02"] usersService).requests ∧
        Form.decode? form = some [("sql", "select * from user where id=2;")] := by
  have accepted : Arguments.ofList ["user", "--filter", "id=1", "--filter", " id =+02"] =
      .ok repeatedSearch := rfl
  obtain ⟨c, loads⟩ := exists_loads_user repeatedSearch.filters
  obtain ⟨-, -, -, taken, -⟩ := run_filters accepted loads
  have each : repeatedSearch.filters.all (fun f => (userEntity.entryOf f).isOk) = true := by
    decide +kernel
  obtain ⟨clauses, written, poses⟩ := taken fun f hf => isOk_iff.1 (List.all_eq_true.1 each f hf)
  have texts : searchedTexts userEntity repeatedSearch.filters =
      [(⟨"id", .integer, true⟩, "+02")] := by
    decide +kernel
  have literal : (Literal.ofInput "+02" .integer >>= (Literal.ofValue · .integer)).toOption =
      some "2" := by
    decide +kernel
  rw [texts] at written
  cases written with
  | cons one rest =>
    cases rest
    obtain ⟨v, two, read, shown, rfl⟩ := one
    obtain rfl : two = "2" := Except.ok.inj <|
      (bind_eq_ok.2 ⟨v, read, shown⟩).symm.trans (toOption_eq_some.1 literal)
    obtain ⟨form, sent, decoded⟩ := poses.sent rfl
    exact ⟨accepted, form, sent, decoded.trans rfl⟩

/-- Not every filter argument is refused that has no equals sign, and not every search with a filter that
sets nothing is: the text `--` in the same argument as the option is taken for an empty list. -/
theorem exists_filter_without_pair :
    (¬ ∀ text, (Arguments.ofList ["user", "--filter=" ++ text]).isOk = true → '=' ∈ text.toList) ∧
    ¬ ∀ (argv : List String) (a : Arguments) (service : Endpoint → Reply) (c : Client) (name : String)
      (e : Entity), Arguments.ofList argv = .ok a → a.Loads service c name e →
        (∃ f ∈ a.filters, (e.entryOf f).isOk = false) → (run argv service).exit = .ok 1 := by
  have accepted : Arguments.ofList ["user", "--filter=" ++ "--"] =
      .ok { entity? := some "user", filters := [none] } := rfl
  refine ⟨fun h => ?_, fun h => ?_⟩
  · have sign := h "--" (by rw [accepted]; rfl)
    revert sign
    decide
  · obtain ⟨c, loads⟩ := exists_loads_user [none]
    have exit := h _ _ _ _ _ _ accepted loads ⟨none, List.mem_singleton.2 rfl, rfl⟩
    simp only [run, accepted] at exit
    cases exit.symm.trans (left_of_error loads rfl rfl)

end CommandLine
end EntityQuery
