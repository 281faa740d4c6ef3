import EntityQuery.Proofs.CommandLine.Console
import EntityQuery.Proofs.CommandLine.Filters
import EntityQuery.Proofs.CommandLine.Startup
import EntityQuery.Proofs.Service.Reports
import EntityQuery.Proofs.Session.Replies

/-!
# When a run comes to an exit code

A run goes through stages: the log, the client, the catalog, the filters, the search and the table. For
each stage a lemma says when the run comes to an exit code from there on: exactly if the stage does not
raise an error that nobody takes, and neither do the later ones that are reached. `exits_iff` puts them
together for every command line that is used rightly and every pair of replies.
-/

namespace EntityQuery
namespace CommandLine

open Outcome
open Service (Endpoint Exchange Reply)

/-! ### The table -/

/-- Whether the rows of a table can be printed: their cells are looked up in the columns. -/
def canPrint (t : Table) : Bool := t.isEmpty || t.header.all Value.canBeKey

/-- What can be written has a text in a cell. -/
theorem isSome_cellText? {v : Value} (h : v.isWritable = true) : v.cellText?.isSome = true := by
  unfold Value.cellText?
  split
  · rfl
  · rfl
  · exact (Value.isSome_display? v).trans h

/-- What can be written can be shown in a cell. -/
theorem isSome_cell? {v : Value} (h : v.isWritable = true) : v.cell?.isSome = true := by
  unfold Value.cell?
  split
  · rfl
  · rw [Option.isSome_map]
    exact isSome_cellText? h

/-- The cell of a row in a column holds the text of what the row has there. -/
theorem cell_eq_ok_iff {row : Entries} {column part : Value} :
    cell row column = .ok part ↔ column.canBeKey = true ∧
      ((row.find? column).getD .null).cell? = some part := by
  unfold cell
  cases column.canBeKey with
  | false => simp
  | true => cases ((row.find? column).getD .null).cell? <;> simp [Error.written]

/-- The cell of a row that can be written is shown exactly if the column can be a key. -/
theorem exists_cell_iff {row : Entries} {column : Value} (h : Value.entriesWritable row = true) :
    (∃ part, cell row column = .ok part) ↔ column.canBeKey = true := by
  have writable : ((row.find? column).getD .null).isWritable = true := by
    cases found : row.find? column with
    | none => rfl
    | some v => exact Value.isWritable_of_find? h found
  obtain ⟨part, shown⟩ := Option.isSome_iff_exists.1 (isSome_cell? writable)
  simp [cell_eq_ok_iff, shown]

/-- **A table whose rows can be written is printed** exactly if it has no rows or all its columns can be
keys. -/
theorem exists_resultTable_iff {entity : String} {t : Table}
    (h : ∀ row ∈ t.rows, Value.entriesWritable row = true) :
    (∃ table, resultTable entity t = .ok table) ↔ canPrint t = true := by
  have printed : (∃ table, resultTable entity t = .ok table) ↔
      ∀ row ∈ t.rows, ∀ column ∈ t.header, column.canBeKey = true := by
    have rows : (∃ table, resultTable entity t = .ok table) ↔
        ∃ cells, (t.rows.mapM fun row => t.header.mapM (cell row)) = .ok cells := by
      unfold resultTable
      cases t.rows.mapM fun row => t.header.mapM (cell row) <;>
        simp [bind, Except.bind, pure, Except.pure]
    rw [rows, exists_mapM_iff]
    refine forall₂_congr fun row hrow => ?_
    rw [exists_mapM_iff]
    exact forall₂_congr fun column _ => exists_cell_iff (h row hrow)
  rw [printed, canPrint, Bool.or_eq_true, Table.isEmpty, List.isEmpty_iff, List.all_eq_true]
  constructor
  · intro keys
    cases rows : t.rows with
    | nil => exact .inl rfl
    | cons row _ => exact .inr (keys row (rows ▸ List.mem_cons_self ..))
  · rintro (none | keys) row hrow
    · cases none ▸ hrow
    · exact keys

/-! ### The search -/

variable {a : Arguments} {entity query : String} {s : Session} {service : Endpoint → Reply}

/-- **From the query on,** a run comes to an exit code exactly if the query is not run, or its reply is
legible and no table that cannot be printed. -/
theorem exits_runQuery (isOpen : s.client.isClosed = false)
    (address : s.client.config.baseUrl.isOk = true) (built : s.builder.build = .ok query) :
    (runQuery a entity s query service).exit.isOk = true ↔ (a.dryRun = false →
      (service .execution).isLegible = true ∧
        ∀ t, (service .execution).table? = some t → canPrint t = true) := by
  have raises : (∀ e, (s.client.execute query a.user? (service .execution)).outcome = .error e →
      e.kind = .connection ∨ e.kind = .execution) ↔
      s.client.config.baseUrl.isOk = true ∧ (service .execution).isLegible = true :=
    Client.execute_raises_iff isOpen
  have taken : ∀ t, (s.client.execute query a.user? (service .execution)).outcome = .ok t ↔
      (service .execution).table? = some t := fun _ => Client.execute_eq_ok_iff isOpen address
  simp only [runQuery, log_recording, Report.exit_log, Report.exit_print]
  cases a.dryRun with
  | true => simp [isOk_iff]
  | false =>
    simp only [Bool.false_eq_true, if_false, Report.exit_after, forall_const]
    cases hx : (s.client.execute query a.user? (service .execution)).outcome with
    | ok t =>
      rw [(Session.search_of_found built hx).1]
      have legible : (service .execution).isLegible = true := (raises.1 (by simp [hx])).2
      have table := (taken t).1 hx
      rw [legible, table]
      simp only [true_and, Option.some.injEq, forall_eq']
      rw [← exists_resultTable_iff (Client.entriesWritable_of_table? table)]
      cases resultTable entity t <;> simp [isOk_iff]
    | error err =>
      have none? : ∀ t, (service .execution).table? ≠ some t := by
        intro t table
        cases hx.symm.trans ((taken t).2 table)
      cases kept : Session.isSearchFailure err with
      | true =>
        rw [(Session.search_of_kept built hx kept).1]
        have legible := (raises.1 (by simpa [hx, Session.isSearchFailure_iff] using kept)).2
        simp [isOk_iff, legible, none?]
      | false =>
        rw [(Session.search_of_lost built hx kept).1]
        have illegible : (service .execution).isLegible ≠ true := by
          intro legible
          have taken := Session.isSearchFailure_iff.2 (raises.2 ⟨address, legible⟩ err hx)
          cases kept.symm.trans taken
        simp [isOk_iff, illegible]

/-! ### The filters -/

/-- What a run for an entity that is loaded needs to come to an exit code, unless it lists the fields.
No empty list stands behind filters that are all taken. If all filters are taken and the query is run,
its reply is legible and no table that cannot be printed. -/
def Arguments.Completes (a : Arguments) (service : Endpoint → Reply) (e : Entity) : Prop :=
  a.listFields = false →
    (∀ before after, a.filters = before ++ none :: after →
      (applyFilters (.ofEntity e) before).isOk = false) ∧
    ((applyFilters (.ofEntity e) a.filters).isOk = true → a.dryRun = false →
      (service .execution).isLegible = true ∧
        ∀ t, (service .execution).table? = some t → canPrint t = true)

/-- **From the loaded entity on.** -/
theorem exits_runLoaded {e : Entity} (state : s.builder = .ofEntity e)
    (isOpen : s.client.isClosed = false) (address : s.client.config.baseUrl.isOk = true) :
    (runLoaded a entity s service).exit.isOk = true ↔ a.Completes service e := by
  unfold runLoaded Arguments.Completes
  rw [state]
  cases a.listFields with
  | true => simp [Builder.ofEntity, Builder.searchFields, isOk_iff]
  | false =>
    simp only [Bool.false_eq_true, if_false, forall_const]
    rw [← failsOwn_applyFilters]
    cases applied : applyFilters (.ofEntity e) a.filters with
    | error err =>
      rw [failsOwn_error]
      cases own : err.isOwn <;> simp [own, isOk_iff]
    | ok b =>
      obtain ⟨query, built⟩ := exists_build_of_applyFilters applied
      simp only [built]
      rw [exits_runQuery (s := { s with builder := b }) isOpen address built]
      simp [failsOwn_ok, isOk_iff]

/-! ### The catalog -/

/-- The name of the entity that a command line is about, unless it asks for all entities. -/
def Arguments.name? (a : Arguments) : Option String :=
  if a.listEntities then none else a.entity?.filter (· != "")

/-- Whether a command line asks the service for anything: for all entities or for one. -/
def Arguments.asks (a : Arguments) : Bool := a.listEntities || a.name?.isSome

/-- The name that a run searches for is the one that is given, unless the entities are listed. -/
theorem Arguments.name?_eq_some {name : String} :
    a.name? = some name ↔ a.listEntities = false ∧ a.entity? = some name ∧ name ≠ "" := by
  cases list : a.listEntities <;> simp [name?, list, Option.filter_eq_some_iff]

/-- A run that asks for nothing is a wrong use. -/
theorem runClient_of_not_asks {c : Client} (h : a.asks = false) : runClient a c service =
    Report.misuse "the entity name is required unless --list-entities is given" := by
  rw [Arguments.asks, Bool.or_eq_false_iff] at h
  obtain ⟨list, nameless⟩ := h
  rw [runClient, if_neg (by simp [list])]
  split
  · rfl
  · rfl
  · next name unnamed found =>
    rw [Arguments.name?_eq_some.2 ⟨list, found, unnamed⟩] at nameless
    cases nameless

section

variable {c : Client}

/-- The names of the entities are asked for with the errors of the catalog. -/
theorem entityNames_eq_error {reply : Reply} {e : Error} :
    (c.entityNames reply).outcome = .error e ↔ (c.catalog reply).outcome = .error e := by
  rw [Client.outcome_entityNames, map_eq_error]

/-- **A list of the entities** comes to an exit code exactly if the catalog can be asked for. -/
theorem exits_listEntities (isOpen : c.isClosed = false) (list : a.listEntities = true) :
    (runClient a c service).exit.isOk = true ↔ c.config.baseUrl.isOk = true ∧
      (service .metadata).isLegible = true ∧ (service .metadata).namesRaggedType = false := by
  rw [← Client.catalog_raises_iff isOpen]
  simp only [runClient, list, if_true, log_recording, Report.exit_after, ← entityNames_eq_error]
  cases (c.entityNames (service .metadata)).outcome with
  | ok names => simp [isOk_iff]
  | error e =>
    simp only [Except.error.injEq, forall_eq', ← Session.isLoadFailure_iff]
    cases Session.isLoadFailure e <;> simp [isOk_iff]

/-- **A search** comes to an exit code exactly if the catalog can be asked for and, if it has the entity,
the run does so from there on. -/
theorem exits_search {name : String} (isOpen : c.isClosed = false)
    (sought : a.name? = some name) :
    (runClient a c service).exit.isOk = true ↔
      (c.config.baseUrl.isOk = true ∧ (service .metadata).isLegible = true ∧
        (service .metadata).namesRaggedType = false) ∧
      ∀ e, (service .metadata).entity? name = some e → a.Completes service e := by
  obtain ⟨list, given, named⟩ := Arguments.name?_eq_some.1 sought
  have loads : (∃ loaded, ((Session.start c name).load (service .metadata)).1.outcome = .ok loaded) ↔
      c.config.baseUrl.isOk = true ∧ (service .metadata).isLegible = true ∧
        (service .metadata).namesRaggedType = false :=
    Session.load_returns_iff.trans (Client.entity_raises_iff isOpen)
  rw [runClient, if_neg (by simp [list]), given]
  simp only [log_recording, Report.exit_after]
  obtain ⟨e, found, -, returned, state⟩ | ⟨err, raised, kept, returned, -⟩ | ⟨err, failed, -⟩ :=
    Session.load_cases (.start c name) (service .metadata)
  · have asked := loads.1 ⟨true, returned⟩
    have entity : (service .metadata).entity? name = some e :=
      (Client.entity_eq_ok_iff isOpen asked.1).1 found
    rw [returned, state]
    simp only [entity, Option.some.injEq, forall_eq']
    rw [exits_runLoaded rfl isOpen asked.1, and_iff_right asked]
  · have asked := loads.1 ⟨false, returned⟩
    have missing : ∀ e, (service .metadata).entity? name ≠ some e := by
      intro e entity
      cases raised.symm.trans ((Client.entity_eq_ok_iff isOpen asked.1).2 entity)
    rw [returned]
    simp [isOk_iff, asked, missing]
  · rw [failed]
    have unasked := mt loads.2 (by simp [failed])
    exact iff_of_false (by simp [isOk_iff]) fun h => unasked h.1

/-- **From the client on,** whatever is asked for. -/
theorem exits_runClient (isOpen : c.isClosed = false) :
    (runClient a c service).exit.isOk = true ↔
      (a.asks = true → c.config.baseUrl.isOk = true ∧ (service .metadata).isLegible = true ∧
        (service .metadata).namesRaggedType = false) ∧
      ∀ name, a.name? = some name → ∀ e, (service .metadata).entity? name = some e →
        a.Completes service e := by
  cases sought : a.name? with
  | some name =>
    have asks : a.asks = true := by simp [Arguments.asks, sought]
    simp [exits_search isOpen sought, asks]
  | none =>
    cases list : a.listEntities with
    | true => simp [exits_listEntities isOpen list, Arguments.asks, list]
    | false =>
      have nothing : a.asks = false := by simp [Arguments.asks, sought, list]
      simp [runClient_of_not_asks nothing, nothing, isOk_iff]

end

/-! ### The exit code -/

/-- From the query on, an exit code is 0 or 1. -/
theorem code_runQuery {code : ℕ} (h : (runQuery a entity s query service).exit = .ok code) :
    code = 0 ∨ code = 1 := by
  simp only [runQuery, Report.exit_log, Report.exit_print] at h
  split at h
  · exact .inl (Except.ok.inj h).symm
  · rw [Report.exit_after] at h
    split at h
    · cases h
    · exact .inr (Except.ok.inj h).symm
    · split at h
      · exact .inl (Except.ok.inj h).symm
      · cases h

/-- From the loaded entity on, an exit code is 0 or 1. -/
theorem code_runLoaded {code : ℕ} (h : (runLoaded a entity s service).exit = .ok code) :
    code = 0 ∨ code = 1 := by
  unfold runLoaded at h
  split at h
  · split at h
    · exact .inl (Except.ok.inj h).symm
    · cases h
  · split at h
    · split at h
      · exact .inr (Except.ok.inj h).symm
      · cases h
    · split at h
      · cases h
      · exact code_runQuery h

/-- **The exit code is that of a wrong use** exactly if the run asks for nothing. -/
theorem code_runClient {c : Client} {code : ℕ} (h : (runClient a c service).exit = .ok code) :
    if a.asks = true then code = 0 ∨ code = 1 else code = 2 := by
  split
  · next asks =>
    unfold runClient at h
    split at h
    · rw [Report.exit_after] at h
      split at h
      · rw [Report.exit_print] at h
        exact .inl (Except.ok.inj h).symm
      · split at h
        · exact .inr (Except.ok.inj h).symm
        · cases h
    · next list =>
      rw [Bool.not_eq_true] at list
      split at h
      · next missing => simp [Arguments.asks, Arguments.name?, list, missing] at asks
      · next missing => simp [Arguments.asks, Arguments.name?, list, missing] at asks
      · rw [Report.exit_after] at h
        split at h
        · cases h
        · exact .inr (Except.ok.inj h).symm
        · exact code_runLoaded h
  · next nothing =>
    rw [runClient_of_not_asks (Bool.eq_false_of_not_eq_true nothing)] at h
    exact (Except.ok.inj h).symm

/-! ### The whole run -/

/-- A run of typed arguments sets up the log, makes a client and goes on from there, unless an error of
either leaves it. -/
theorem runArguments_cases (typed : a.IsTyped) (service : Endpoint → Reply) :
    (a.logLevel ≠ .list [] ∧ a.waits = true ∧ ∃ c : Client, c.isClosed = false ∧
      (c.config.baseUrl.isOk = true ↔ a.settings.basePath ≠ .list []) ∧
      (runArguments a service).exit = (runClient a c service).exit) ∨
    (¬ (a.logLevel ≠ .list [] ∧ a.waits = true) ∧ ∃ e, (runArguments a service).exit = .error e) := by
  have level := typed.isOk_setup_iff
  have setUp : (a.setUp .recording).outcome = (Logging.Logger.initial.setup a.setup).1 := rfl
  simp only [runArguments, setUp, Arguments.consoleOf_recording, Report.exit_after]
  cases log : (Logging.Logger.initial.setup a.setup).1 with
  | error e =>
    rw [log] at level
    exact .inr ⟨fun h => absurd (level.2 h.1) Bool.false_ne_true, e, rfl⟩
  | ok =>
    rw [log] at level
    simp only [runSetUp, log_recording, Report.exit_after]
    obtain ⟨waits, c, connected, isOpen, host, port, basePath⟩ | ⟨waits, e, failed⟩ :=
      typed.connect_cases
    · rw [connected]
      exact .inl ⟨level.1 rfl, waits, c, isOpen, typed.isOk_baseUrl_iff host port basePath, rfl⟩
    · rw [failed]
      exact .inr ⟨fun h => Bool.false_ne_true (waits.symm.trans h.2), e, rfl⟩

/-- A run comes to an exit code on the console that takes everything, and to which. -/
theorem exits_run_iff {argv : List String} (accepted : Arguments.ofList argv = .ok a)
    (service : Endpoint → Reply) :
    ((run argv service).exit.isOk = true ↔
      a.logLevel ≠ .list [] ∧ a.waits = true ∧
      (a.asks = true → a.settings.basePath ≠ .list [] ∧ (service .metadata).isLegible = true ∧
        (service .metadata).namesRaggedType = false) ∧
      ∀ name, a.name? = some name → ∀ e, (service .metadata).entity? name = some e →
        a.Completes service e) ∧
    ∀ code, (run argv service).exit = .ok code →
      if a.asks = true then code = 0 ∨ code = 1 else code = 2 := by
  have same : run argv service = runArguments a service := by simp only [run, accepted]
  rw [same]
  obtain ⟨level, waits, c, isOpen, address, exit⟩ | ⟨refused, e, exit⟩ :=
    runArguments_cases (Arguments.isTyped_ofList accepted) service
  · rw [exit, exits_runClient isOpen, address]
    exact ⟨by simp [level, waits], fun code => code_runClient⟩
  · rw [exit]
    refine ⟨iff_of_false Bool.false_ne_true fun h => refused ⟨h.1, h.2.1⟩, ?_⟩
    intro code returned
    cases returned

/-- **When a run comes to an exit code, and to which.** A command line that is used rightly comes to an
exit code exactly if neither the level of the log nor, where the service is asked, the path is an empty
list, its seconds are more than zero, the reply with the catalog is legible and no catalog whose first
refused entity names a type with half of a pair, the run for the entity that is found in it completes,
and the console takes all that the run shows and its log all that it tells. The code is 2 if no entity is
named and none are listed, and else 0 or 1. -/
theorem exits_iff {argv : List String} (accepted : Arguments.ofList argv = .ok a)
    (service : Endpoint → Reply) (console : Console) :
    ((run argv service console).exit.isOk = true ↔
      (a.logLevel ≠ .list [] ∧ a.waits = true ∧
      (a.asks = true → a.settings.basePath ≠ .list [] ∧ (service .metadata).isLegible = true ∧
        (service .metadata).namesRaggedType = false) ∧
      ∀ name, a.name? = some name → ∀ e, (service .metadata).entity? name = some e →
        a.Completes service e) ∧
      ∀ event ∈ (run argv service).events, event.refusal? (a.consoleOf console) = none) ∧
    ∀ code, (run argv service console).exit = .ok code →
      if a.asks = true then code = 0 ∨ code = 1 else code = 2 := by
  obtain ⟨exits, codes⟩ := exits_run_iff accepted service
  refine ⟨(isOk_exit_run_iff accepted).trans (and_congr_left' exits), fun code exit => ?_⟩
  exact codes code (run_of_exit accepted exit ▸ exit)

/-- The search for a user of a number. -/
def userSearch : Arguments := { entity? := some "user", filters := [some ("id", "1")] }

/-- A service that has a catalog and refuses the query. -/
def refusingService : Endpoint → Reply
  | .metadata => Session.userCatalog
  | .execution => .answered 500 "Internal Server Error" []

/-- A search that is refused comes to an exit code. -/
theorem exits_refused : Arguments.ofList ["user", "--filter", "id=1"] = .ok userSearch ∧
    ∃ code, (run ["user", "--filter", "id=1"] refusingService).exit = .ok code ∧
      (code = 0 ∨ code = 1) := by
  have accepted : Arguments.ofList ["user", "--filter", "id=1"] = .ok userSearch := rfl
  obtain ⟨exits, codes⟩ := exits_iff accepted refusingService .recording
  have catalog : (refusingService .metadata).isLegible = true ∧
      (refusingService .metadata).namesRaggedType = false := by decide +kernel
  have complete : ∀ e, userSearch.Completes refusingService e := by
    intro e _
    refine ⟨fun before after split => ?_, fun _ _ => ⟨rfl, nofun⟩⟩
    have mem : none ∈ userSearch.filters := split ▸ List.mem_append_right _ (List.mem_cons_self ..)
    cases List.mem_singleton.1 mem
  have exit := exits.2 ⟨⟨nofun, rfl, fun _ => ⟨nofun, catalog⟩, fun _ _ e _ => complete e⟩,
    fun event _ => by simp⟩
  obtain ⟨code, hcode⟩ := isOk_iff.1 exit
  exact ⟨accepted, code, hcode, codes code hcode⟩

/-- Not every command line that is used rightly comes to an exit code: a timeout of zero raises an error
that nobody takes. -/
theorem exists_no_exit :
    ¬ ∀ (argv : List String) (a : Arguments) (service : Endpoint → Reply),
      Arguments.ofList argv = .ok a → ∃ code, (run argv service).exit = .ok code ∧ code ≤ 2 := by
  intro h
  have accepted : (Arguments.ofList ["user", "--timeout", "0"]).isOk = true := by decide +kernel
  have left : (run ["user", "--timeout", "0"] fun _ => .none).exit.isOk = false := by
    decide +kernel
  obtain ⟨a, ha⟩ := isOk_iff.1 accepted
  obtain ⟨code, exit, -⟩ := h _ a _ ha
  rw [exit] at left
  cases left

end CommandLine
end EntityQuery
