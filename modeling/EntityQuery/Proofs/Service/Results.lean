import EntityQuery.Proofs.Service.Reports

/-!
# What a good reply comes to

The body of a good reply is a value that nobody has looked at. A client makes a table of it or raises one
of two errors: that of the query if the value is an object with a report, and otherwise a connection error
that tells what is wrong with the response. It passes on any error of a response that is not about a value
or its kind (`Client.responseError`), but no response has another one (`Table.kind_of_ofResponse`), so no
third error leaves it, whatever the value is (`Client.results_of_decoded`).
-/

namespace EntityQuery

open Outcome
open Service (Reply usualLevels)

namespace Client

variable {c : Client} {v : Value} {query : String}

/-- **The table of a value is refused with the error of the query exactly if a report is in it.** -/
theorem kind_of_tableOf_iff {e : Error} (hv : v.isWritable = true) (h : tableOf query v = .error e) :
    e.kind = .execution ↔ (reported? v).isSome = true := by
  unfold tableOf at h
  split at h
  · split at h
    · next report found =>
      obtain rfl := Except.error.inj h
      rw [found]
      exact iff_of_true (Error.kind_showing (isSome_reportText? hv found) fun _ => rfl) rfl
    · next silent =>
      obtain ⟨fault, refused, rfl⟩ := mapError_eq_error.1 h
      rw [silent, responseError_of_ofResponse refused]
      constructor <;> rintro ⟨⟩
  · next other =>
    obtain rfl := Except.error.inj h
    have silent : reported? v = none := by
      cases v with
      | mapping es => exact absurd rfl (other es)
      | _ => rfl
    rw [silent]
    constructor <;> rintro ⟨⟩

/-- What is reported stands under the key `error` of an object. -/
theorem isSome_reported?_iff : (reported? v).isSome = true ↔
    ∃ es report, v = .mapping es ∧ Entries.get? es "error" = some report := by
  rw [Option.isSome_iff_exists]
  cases v with
  | mapping es => simp [reported?]
  | _ => simp [reported?]

/-- **The outcome of a query is that of its payload,** unless the payload is the absent value. -/
theorem outcome_execute_of_decoded {base : String} {body : List UInt8} {levels : ℕ}
    (isOpen : c.isClosed = false) (address? : c.config.baseUrl = .ok base)
    (read : Payload.ofBytes body levels = .ok (some v)) (reason : String) (user? : Option String) :
    (c.execute query user? (.answered 200 reason body levels)).outcome =
      if v.isNull then
        .error (.connection (.notJson (address base .execution (parameters query user?))))
      else tableOf query v := by
  rw [outcome_execute, outcome_fetch isOpen, address?]
  show payload base _ (.good body levels) >>= tableOf query = _
  cases v with
  | null =>
    simp only [payload, read]
    rfl
  | _ =>
    simp only [payload, read]
    rfl

section

variable {base : String} {body : List UInt8} {levels : ℕ} (isOpen : c.isClosed = false)
  (address? : c.config.baseUrl = .ok base) (read : Payload.ofBytes body levels = .ok (some v))

include isOpen address? read

/-- A table comes of an object without a report. -/
theorem execute_of_decoded_eq_ok (reason : String) (user? : Option String) (t : Table) :
    (c.execute query user? (.answered 200 reason body levels)).outcome = .ok t ↔
      ∃ es, v = .mapping es ∧ Entries.get? es "error" = none ∧ Table.ofResponse es = .ok t := by
  rw [outcome_execute_of_decoded isOpen address? read]
  split
  · next absent =>
    constructor
    · rintro ⟨⟩
    · rintro ⟨es, rfl, -⟩
      cases absent
  · rw [tableOf_eq_ok]
    refine exists_congr fun es => and_congr_right ?_
    rintro rfl
    exact Iff.rfl

/-- **The error of the query comes of an object with a report,** and of nothing else. -/
theorem execute_of_decoded_reports_iff (reason : String) (user? : Option String) :
    (∃ e, (c.execute query user? (.answered 200 reason body levels)).outcome = .error e ∧
      e.kind = .execution) ↔ ∃ es report, v = .mapping es ∧ Entries.get? es "error" = some report := by
  have writable := Payload.isWritable_of_ofBytes read
  rw [outcome_execute_of_decoded isOpen address? read, ← isSome_reported?_iff]
  split
  · next absent =>
    constructor
    · rintro ⟨e, h, kind⟩
      obtain rfl := Except.error.inj h
      cases kind
    · cases v with
      | null => nofun
      | _ => cases absent
  · constructor
    · rintro ⟨e, h, kind⟩
      exact (kind_of_tableOf_iff writable h).1 kind
    · intro report
      cases h : tableOf query v with
      | ok t =>
        obtain ⟨es, -, silent, -⟩ := tableOf_eq_ok.1 h
        rw [silent] at report
        cases report
      | error e => exact ⟨e, rfl, (kind_of_tableOf_iff writable h).2 report⟩

end

/-- **A response comes to a table, the error that it reports, or a connection error.** Whatever a
response is, reading it as a table fails, if it fails, for a value or for the kind of a value. So a query
whose reply is good and has been decoded gives a table exactly if the value is an object without a report
that can be read as one, and raises the error of the query or a connection error otherwise: that of the
query exactly if the value is an object with the key `error`. -/
theorem results_of_decoded :
    (∀ (es : Entries) (e : Error), Table.ofResponse es = .error e →
      e.kind = .value ∨ e.kind = .type) ∧
    ∀ (c : Client) (reason : String) (body : List UInt8) (levels : ℕ) (v : Value) (query : String)
      (user? : Option String), c.isClosed = false → c.config.baseUrl.isOk = true →
      Payload.ofBytes body levels = .ok (some v) →
      let outcome := (c.execute query user? (.answered 200 reason body levels)).outcome
      (∀ t, outcome = .ok t ↔ ∃ es, v = .mapping es ∧ Entries.get? es "error" = none ∧
        Table.ofResponse es = .ok t) ∧
      (∀ e, outcome = .error e → e.kind = .execution ∨ e.kind = .connection) ∧
      ((∃ e, outcome = .error e ∧ e.kind = .execution) ↔
        ∃ es report, v = .mapping es ∧ Entries.get? es "error" = some report) := by
  refine ⟨fun _ _ h => Table.kind_of_ofResponse h, ?_⟩
  intro c reason body levels v query user? isOpen address read outcome
  obtain ⟨base, address?⟩ := isOk_iff.1 address
  have legible : (Reply.answered 200 reason body levels).isLegible = true := by
    rw [Reply.isLegible_answered, isOk_iff]
    exact ⟨_, read⟩
  exact ⟨execute_of_decoded_eq_ok isOpen address? read reason user?,
    fun e h => ((execute_raises_iff isOpen).2 ⟨address, legible⟩ e h).symm,
    execute_of_decoded_reports_iff isOpen address? read reason user?⟩

/-- The body of a reply with a row that is wider than the header. -/
def wideBody : List UInt8 :=
  Text.encode "\x7b\"result\": [\x7b\"header\": [\"id\"], \"values\": [[1, 2]]\x7d]\x7d"

/-- It raises a connection error. -/
theorem results_of_wideBody : ∃ e,
    (Session.remoteClient.execute "q" none (.answered 200 "" wideBody)).outcome = .error e ∧
      e.kind = .connection := by
  have read : (Payload.ofBytes wideBody usualLevels).toOption.join.isSome = true := by decide +kernel
  have silent : ((Payload.ofBytes wideBody usualLevels).toOption.join.bind reported?).isSome = false := by
    decide +kernel
  have no_table : (Reply.answered 200 "" wideBody).table?.isSome = false := by decide +kernel
  have address : Session.remoteClient.config.baseUrl.isOk = true := by decide +kernel
  obtain ⟨v, read⟩ := Option.isSome_iff_exists.1 read
  rw [read, Option.bind_some] at silent
  rw [Option.join_eq_some_iff, toOption_eq_some] at read
  obtain ⟨-, kinds, reports⟩ :=
    results_of_decoded.2 Session.remoteClient "" wideBody usualLevels v "q" none rfl address read
  cases h : (Session.remoteClient.execute "q" none (.answered 200 "" wideBody)).outcome with
  | ok t =>
    rw [execute_eq_ok_iff rfl address] at h
    rw [h] at no_table
    cases no_table
  | error e =>
    refine ⟨e, rfl, (kinds e h).resolve_left fun kind => ?_⟩
    have report := isSome_reported?_iff.2 (reports.1 ⟨e, h, kind⟩)
    rw [silent] at report
    cases report

end Client
end EntityQuery
