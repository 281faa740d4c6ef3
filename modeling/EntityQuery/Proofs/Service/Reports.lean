import EntityQuery.Proofs.Service.Content
import EntityQuery.Proofs.Service.Requests

/-!
# Which replies report an error and which give a result

The service may report an error in the body of any reply. An open client raises it as the error of the
query or of the catalog, with one message for every status (`Client.outcome_of_report`). A result
needs the opposite: a good reply whose body is an object without a report (`Service.Reply.IsClean`).
Nothing else gives one, be it a refusal, a failure on the way, or a body that is no object
(`Client.isClean_of_step`). `Client.reports_decide` puts both together. It is not the status 200 alone
that is good, and without an address a client fails before it asks (`Client.exists_result_created`).
-/

namespace EntityQuery

open Outcome
open Service (Exchange Reply Endpoint)

namespace Service

/-- Whether a body is the JSON text of an object, in UTF-8, if so many containers may stand inside one
another. -/
def IsObject (body : List UInt8) (levels : Nat) (es : Entries) : Prop :=
  ∃ s, Text.decode? body = some s ∧ Payload.ofChars s.toList levels = .ok (.mapping es)

/-- Whether a reply is good, and its body an object that reports no error. -/
def Reply.IsClean (reply : Reply) : Prop :=
  ∃ body levels es, reply = .good body levels ∧ IsObject body levels es ∧
    Entries.get? es "error" = Option.none

/-- A good reply whose value is an object without a report is clean. -/
theorem Reply.isClean_of_value? {reply : Reply} {es : Entries}
    (h : reply.value? = some (.mapping es)) (silent : Entries.get? es "error" = Option.none) :
    reply.IsClean := by
  obtain ⟨body, levels, good, read, -⟩ := Reply.value?_eq_some.1 h
  exact ⟨body, levels, es, good, Payload.ofBytes_eq_some_iff.1 read, silent⟩

/-- **An answer is clean** exactly if its status is good and its body an object without a report. -/
theorem Reply.isClean_answered_iff {status : ℤ} {reason : String} {body : List UInt8} {levels : ℕ} :
    (answered status reason body levels).IsClean ↔ (200 ≤ status ∧ status < 300) ∧
      ∃ es, IsObject body levels es ∧ Entries.get? es "error" = Option.none := by
  unfold answered IsClean
  split
  · next good =>
    rw [and_iff_right good]
    constructor
    · rintro ⟨_, _, es, ⟨⟩, object⟩
      exact ⟨es, object⟩
    · rintro ⟨es, object⟩
      exact ⟨body, levels, es, rfl, object⟩
  · next refused =>
    constructor
    · rintro ⟨_, _, _, ⟨⟩, -⟩
    · rintro ⟨good, -⟩
      exact absurd good refused

end Service

namespace Client

open Service (IsObject usualLevels)

/-- The error that an operation raises for a report: that of the query, or that of the catalog. -/
def Operation.reported (message : String) : Operation → Error
  | .execute query _ => .execution (.text message) (.text query)
  | _ => .metadata (.requestFailed message)

variable {c : Client} {body : List UInt8} {levels : ℕ} {es : Entries} {report : Value}
  {reply : Reply}

/-- The names of the entities are those of the catalog. -/
theorem outcome_entityNames (c : Client) (reply : Reply) :
    (c.entityNames reply).outcome = Catalog.names <$> (c.catalog reply).outcome := by
  rw [entityNames, Exchange.outcome_bind]
  cases (c.catalog reply).outcome <;> rfl

/-! ### Reports -/

/-- A body that reports an error is a payload, whatever the status. -/
theorem payload_of_report (object : IsObject body levels es)
    (found : Entries.get? es "error" = some report) (base url : String) (status : ℤ)
    (reason : String) :
    payload base url (.answered status reason body levels) = .ok (.mapping es) := by
  have read := Payload.ofBytes_eq_some_iff.2 object
  unfold Reply.answered
  split
  · simp [payload, read]
  · simp [payload, read, reported?, found]

/-- What is reported stands in an object. -/
theorem exists_object_of_reported
    (h : (Payload.ofBytes body levels).toOption.join.bind reported? = some report) :
    ∃ es, IsObject body levels es ∧ Entries.get? es "error" = some report := by
  obtain ⟨v, read, found⟩ := Option.bind_eq_some_iff.1 h
  rw [Option.join_eq_some_iff, toOption_eq_some, Payload.ofBytes_eq_some_iff] at read
  cases v with
  | mapping es => exact ⟨es, read, found⟩
  | _ => cases found

/-- What is reported has a text. -/
theorem exists_reportText (object : IsObject body levels es)
    (found : Entries.get? es "error" = some report) :
    ∃ message, reportText? report = some message :=
  have read := Payload.ofBytes_eq_some_iff.2 object
  Option.isSome_iff_exists.1
    (isSome_reportText? (v := .mapping es) (Payload.isWritable_of_ofBytes read) found)

/-- What follows a request gets the report, once there is an address to send the request to. -/
theorem fetch_of_report {α : Type} {f : Value → Except Error α} {e : Error}
    (isOpen : c.isClosed = false) (object : IsObject body levels es)
    (found : Entries.get? es "error" = some report) (raised : f (.mapping es) = .error e)
    (endpoint : Endpoint) (parameters : List (String × String)) (status : ℤ) (reason : String) :
    (c.fetch endpoint parameters (.answered status reason body levels)).outcome >>= f =
      c.config.baseUrl >>= fun _ => .error e := by
  rw [outcome_fetch isOpen]
  cases c.config.baseUrl with
  | error e => rfl
  | ok base =>
    have read := payload_of_report object found base (address base endpoint parameters) status reason
    exact bind_eq_error.2 (.inr ⟨_, read, raised⟩)

/-- **A report is raised with one message for every status,** once there is an address. -/
theorem outcome_of_report {message : String} {o : Operation} (isOpen : c.isClosed = false)
    (object : IsObject body levels es) (found : Entries.get? es "error" = some report)
    (told : reportText? report = some message) (remote : o.isRemote = true) (status : ℤ)
    (reason : String) : (c.step (.answered status reason body levels) o).1.outcome =
      c.config.baseUrl >>= fun _ => .error (o.reported message) := by
  have catalog : (c.catalog (.answered status reason body levels)).outcome =
      c.config.baseUrl >>= fun _ => .error (.metadata (.requestFailed message)) := by
    rw [outcome_catalog]
    refine fetch_of_report isOpen object found ?_ ..
    simp [catalogOf, reported?, found, told, Error.showing]
  have table : ∀ query user?, (c.execute query user? (.answered status reason body levels)).outcome =
      c.config.baseUrl >>= fun _ => .error (.execution (.text message) (.text query)) := by
    intro query user?
    rw [outcome_execute]
    refine fetch_of_report isOpen object found ?_ ..
    simp [tableOf, reported?, found, told, Error.showing]
  cases o with
  | catalog =>
    rw [step, Exchange.outcome_map, catalog]
    cases c.config.baseUrl <;> rfl
  | entityNames =>
    rw [step, Exchange.outcome_map, outcome_entityNames, catalog]
    cases c.config.baseUrl <;> rfl
  | entity name =>
    rw [step, Exchange.outcome_map, outcome_entity, catalog]
    cases c.config.baseUrl <;> rfl
  | execute query user? =>
    rw [step, Exchange.outcome_map, table]
    cases c.config.baseUrl <;> rfl
  | baseUrl | close | within => cases remote

/-! ### Results -/

/-- A payload is that of a reply to an address. -/
theorem payload_of_fetch {endpoint : Endpoint} {parameters : List (String × String)} {v : Value}
    (h : (c.fetch endpoint parameters reply).outcome = .ok v) :
    ∃ base url, payload base url reply = .ok v := by
  cases state : c.isClosed with
  | true =>
    rw [fetch_of_closed state] at h
    cases h
  | false =>
    rw [outcome_fetch state] at h
    obtain ⟨base, -, h⟩ := bind_eq_ok.1 h
    exact ⟨base, _, h⟩

/-- A result comes from a clean reply. -/
theorem isClean_of_execute {query : String} {user? : Option String} {t : Table}
    (h : (c.execute query user? reply).outcome = .ok t) : reply.IsClean := by
  rw [outcome_execute] at h
  obtain ⟨v, fetched, h⟩ := bind_eq_ok.1 h
  obtain ⟨base, url, hv⟩ := payload_of_fetch fetched
  obtain ⟨es, rfl, silent, -⟩ := tableOf_eq_ok.1 h
  exact Reply.isClean_of_value? (value?_of_payload hv silent) silent

/-- What is taken for a catalog is the value of a good reply, and reports no error. -/
theorem exists_value?_of_catalog {catalog : Catalog} (h : (c.catalog reply).outcome = .ok catalog) :
    ∃ v, reply.value? = some v ∧ reported? v = none ∧ Catalog.read v = .ok catalog := by
  rw [outcome_catalog] at h
  obtain ⟨v, fetched, taken⟩ := bind_eq_ok.1 h
  obtain ⟨base, url, hv⟩ := payload_of_fetch fetched
  obtain ⟨silent, read⟩ := catalogOf_eq_ok_iff.1 taken
  exact ⟨v, value?_of_payload hv silent, silent, read⟩

/-- So does a catalog. -/
theorem isClean_of_catalog {catalog : Catalog} (h : (c.catalog reply).outcome = .ok catalog) :
    reply.IsClean := by
  obtain ⟨v, value, silent, read⟩ := exists_value?_of_catalog h
  obtain ⟨es, ds, rfl, -⟩ := Catalog.exists_of_read read
  exact Reply.isClean_of_value? value silent

/-- **Only a clean reply gives a result.** -/
theorem isClean_of_step {o : Operation} {a : Answer} (remote : o.isRemote = true)
    (h : (c.step reply o).1.outcome = .ok a) : reply.IsClean := by
  cases o with
  | catalog =>
    rw [step, Exchange.outcome_map] at h
    obtain ⟨catalog, asked, -⟩ := map_eq_ok.1 h
    exact isClean_of_catalog asked
  | entityNames =>
    rw [step, Exchange.outcome_map, outcome_entityNames] at h
    obtain ⟨names, listed, -⟩ := map_eq_ok.1 h
    obtain ⟨catalog, asked, -⟩ := map_eq_ok.1 listed
    exact isClean_of_catalog asked
  | entity name =>
    rw [step, Exchange.outcome_map] at h
    obtain ⟨e, found, -⟩ := map_eq_ok.1 h
    obtain ⟨catalog, asked, -⟩ := entity_eq_ok.1 found
    exact isClean_of_catalog asked
  | execute query user? =>
    rw [step, Exchange.outcome_map] at h
    obtain ⟨t, run, -⟩ := map_eq_ok.1 h
    exact isClean_of_execute run
  | baseUrl | close | within => cases remote

/-- **A report decides, and a result needs a clean reply.** If the body of a reply is an object with
the key `error`, then an open client raises what it reports, with one message for every status: as the
error of the query, together with the query, or as that of the catalog. (Without an address it fails
before it asks.) If a reply gives a result, then it is good and its body is an object without that key;
if it was an answer with a status, that is one from 200 to 299. So neither an answer with another status
gives one nor a failure on the way. -/
theorem reports_decide (c : Client) :
    (∀ body levels es report, c.isClosed = false → IsObject body levels es →
      Entries.get? es "error" = some report → ∃ message, reportText? report = some message ∧
        ∀ o : Operation, o.isRemote = true → ∀ status reason,
          (c.step (.answered status reason body levels) o).1.outcome =
            c.config.baseUrl >>= fun _ => .error (o.reported message)) ∧
    (∀ o reply a, o.isRemote = true → (c.step reply o).1.outcome = .ok a → reply.IsClean) ∧
    (∀ o status reason body levels a, o.isRemote = true →
      (c.step (.answered status reason body levels) o).1.outcome = .ok a →
        (200 ≤ status ∧ status < 300) ∧
          ∃ es, IsObject body levels es ∧ Entries.get? es "error" = none) ∧
    (∀ o status reason body levels, o.isRemote = true → ¬ (200 ≤ status ∧ status < 300) →
      ∃ e, (c.step (.answered status reason body levels) o).1.outcome = .error e) ∧
    ∀ o failure, o.isRemote = true → ∃ e, (c.step (.failed failure) o).1.outcome = .error e := by
  have answered : ∀ o status reason body levels a, o.isRemote = true →
      (c.step (.answered status reason body levels) o).1.outcome = .ok a →
        (200 ≤ status ∧ status < 300) ∧
          ∃ es, IsObject body levels es ∧ Entries.get? es "error" = none :=
    fun _ _ _ _ _ _ remote h => Reply.isClean_answered_iff.1 (isClean_of_step remote h)
  refine ⟨?_, fun o reply a remote h => isClean_of_step remote h, answered, ?_, ?_⟩
  · intro body levels es report isOpen object found
    obtain ⟨message, told⟩ := exists_reportText object found
    exact ⟨message, told, fun o remote => outcome_of_report isOpen object found told remote⟩
  · intro o status reason body levels remote refused
    rw [← isOk_eq_false_iff, ← Bool.not_eq_true, isOk_iff]
    rintro ⟨a, h⟩
    exact refused (answered o status reason body levels a remote h).1
  · intro o failure remote
    rw [← isOk_eq_false_iff, ← Bool.not_eq_true, isOk_iff]
    rintro ⟨a, h⟩
    obtain ⟨_, _, _, good, -⟩ := isClean_of_step remote h
    cases good

/-- The body of a reply that reports an error beside the rows of a table. -/
def reportBody : List UInt8 :=
  Text.encode "\x7b\"error\": \x7b\"msg\": \"no such table\"\x7d, \"result\": []\x7d"

/-- It is raised as the error of the query, be the status good or not. -/
theorem reports_decide_remote : ∀ status ∈ [(200 : ℤ), 201, 500],
    (Session.remoteClient.step (.answered status "" reportBody) (.execute "q" none)).1.outcome =
      .error (.execution (.text "no such table") (.text "q")) := by
  have reads : ((Payload.ofBytes reportBody usualLevels).toOption.join.bind reported?).bind
      reportText? = some "no such table" := by decide +kernel
  have address : Session.remoteClient.config.baseUrl.isOk = true := by decide +kernel
  obtain ⟨report, holds, text⟩ := Option.bind_eq_some_iff.1 reads
  obtain ⟨es, object, found⟩ := exists_object_of_reported holds
  obtain ⟨base, address⟩ := isOk_iff.1 address
  obtain ⟨message, told, raised⟩ :=
    (reports_decide Session.remoteClient).1 reportBody usualLevels es report rfl object found
  obtain rfl := Option.some.inj (text.symm.trans told)
  intro status _
  have refused := raised (.execute "q" none) rfl status ""
  rw [address] at refused
  exact refused

/-- A client whose path is a number, which is no part of an address. -/
def pathlessClient : Client :=
  { Session.remoteClient with config := { Session.remoteClient.config with basePath := .int 5 } }

/-- **It is not the status 200 alone that gives a result,** since every answer from 200 to 299 does. And
not every open client raises the error of the query for a report: one without an address raises another
error, before it asks. -/
theorem exists_result_created :
    (¬ ∀ (c : Client) (query : String) (status : ℤ) (reason : String) (body : List UInt8) (levels : ℕ)
      (t : Table), (c.execute query none (.answered status reason body levels)).outcome = .ok t →
        status = 200) ∧
    ¬ ∀ (c : Client) (query : String) (body : List UInt8) (levels : ℕ) (es : Entries) (report : Value),
      c.isClosed = false → IsObject body levels es → Entries.get? es "error" = some report →
        ∀ status reason, ∃ e,
          (c.execute query none (.answered status reason body levels)).outcome = .error e ∧
            e.kind = .execution := by
  constructor
  · intro only
    have taken : (Session.remoteClient.execute "q" none
        (.answered 201 "Created" (Text.encode "\x7b\"result\": []\x7d"))).outcome.isOk = true := by
      decide +kernel
    obtain ⟨t, taken⟩ := isOk_iff.1 taken
    exact absurd (only _ _ _ _ _ _ _ taken) (by decide)
  · intro every
    have reads : ((Payload.ofBytes reportBody usualLevels).toOption.join.bind reported?).isSome =
        true := by decide +kernel
    obtain ⟨report, holds⟩ := Option.isSome_iff_exists.1 reads
    obtain ⟨es, object, found⟩ := exists_object_of_reported holds
    obtain ⟨e, raised, kind⟩ := every pathlessClient "q" _ _ es report rfl object found 500 ""
    have pathless : (pathlessClient.execute "q" none
        (.answered 500 "" reportBody)).outcome = .error (.setting (.pathKind "int")) := rfl
    obtain rfl := Except.error.inj (raised.symm.trans pathless)
    cases kind

end Client
end EntityQuery
