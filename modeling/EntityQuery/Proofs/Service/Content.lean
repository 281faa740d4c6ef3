import EntityQuery.Proofs.Service.Legible
import EntityQuery.Proofs.Table.Writable

/-!
# What a good reply holds

A client that is open and has an address finds an entity exactly if the reply is good and its catalog
has the entity (`Client.entity_eq_ok_iff`), and takes a table exactly if the reply is good and its body
is one (`Client.execute_eq_ok_iff`). Neither depends on what was asked: a reply that is not good can
only report an error.
-/

namespace EntityQuery

open Outcome
open Service (Endpoint Reply)

namespace Service

/-- The value of a good reply, unless it is the absent one. -/
def Reply.value? : Reply → Option Value
  | .good body levels => (Payload.ofBytes body levels).toOption.join.filter fun v => !v.isNull
  | _ => .none

/-- The first entity of a name in the catalog that a reply is. -/
def Reply.entity? (name : String) (reply : Reply) : Option Entity :=
  reply.value?.bind fun v => (Client.catalogOf v).toOption.bind (·.find? name)

/-- The table that a reply is. -/
def Reply.table? (reply : Reply) : Option Table :=
  reply.value?.bind fun
    | .mapping es =>
      if (Entries.get? es "error").isSome then .none else (Table.ofResponse es).toOption
    | _ => .none

/-- The value of a reply is that of the body of a good one. -/
theorem Reply.value?_eq_some {reply : Reply} {v : Value} : reply.value? = some v ↔
    ∃ body levels, reply = .good body levels ∧ Payload.ofBytes body levels = .ok (some v) ∧
      v.isNull = false := by
  cases reply with
  | failed failure => simp [value?]
  | good body levels =>
    simp [value?, Option.filter_eq_some_iff, Option.join_eq_some_iff, toOption_eq_some]
  | refused status reason body levels => simp [value?]

end Service

namespace Client

variable {baseUrl url : String} {reply : Reply} {v : Value}

/-! ### Payloads -/

/-- The payload of a reply with a value is that value. -/
theorem payload_of_value? (h : reply.value? = some v) : payload baseUrl url reply = .ok v := by
  obtain ⟨body, levels, rfl, read, present⟩ := Reply.value?_eq_some.1 h
  cases v with
  | null => cases present
  | _ => simp [payload, read]

/-- The value of a good reply can be written. -/
theorem isWritable_of_value? (h : reply.value? = some v) : v.isWritable = true := by
  obtain ⟨_, _, -, read, -⟩ := Reply.value?_eq_some.1 h
  exact Payload.isWritable_of_ofBytes read

/-- A payload that reports no error is the value of a good reply. -/
theorem value?_of_payload (h : payload baseUrl url reply = .ok v) (silent : reported? v = none) :
    reply.value? = some v := by
  obtain ⟨body, levels, read, ⟨rfl, present⟩ | ⟨_, _, -, report⟩⟩ := payload_eq_ok h
  · exact Reply.value?_eq_some.2 ⟨body, levels, rfl, read, present⟩
  · rw [silent] at report
    cases report

/-- **What takes no reports takes the value of a good reply or nothing.** -/
theorem payload_bind_eq_ok {α : Type} {f : Value → Except Error α} {a : α}
    (silent : ∀ v, f v = .ok a → reported? v = none) :
    payload baseUrl url reply >>= f = .ok a ↔ ∃ v, reply.value? = some v ∧ f v = .ok a := by
  rw [bind_eq_ok]
  constructor
  · rintro ⟨v, hv, hf⟩
    exact ⟨v, value?_of_payload hv (silent v hf), hf⟩
  · rintro ⟨v, hv, hf⟩
    exact ⟨v, payload_of_value? hv, hf⟩

/-- A value without a report is read as a table. -/
theorem tableOf_eq_ok {query : String} {t : Table} : tableOf query v = .ok t ↔
    ∃ es, v = .mapping es ∧ reported? v = none ∧ Table.ofResponse es = .ok t := by
  unfold tableOf
  split
  · next es =>
    cases reported? (.mapping es) with
    | some report => simp
    | none => simp [mapError_eq_ok]
  · next other =>
    constructor
    · rintro ⟨⟩
    · rintro ⟨es, rfl, -⟩
      exact absurd rfl (other es)

/-! ### Requests -/

variable {c : Client}

/-- **A catalog is taken exactly if there is an address and the reply is one.** -/
theorem catalog_eq_ok_iff {catalog : Catalog} (h : c.isClosed = false) :
    (c.catalog reply).outcome = .ok catalog ↔ c.config.baseUrl.isOk = true ∧
      ∃ v, reply.value? = some v ∧ catalogOf v = .ok catalog := by
  rw [outcome_catalog, outcome_fetch h]
  cases c.config.baseUrl with
  | error e => exact iff_of_false nofun fun address => Bool.false_ne_true address.1
  | ok baseUrl =>
    show payload baseUrl _ reply >>= catalogOf = .ok catalog ↔ _
    rw [payload_bind_eq_ok fun _ taken => (catalogOf_eq_ok_iff.1 taken).1]
    exact (and_iff_right rfl).symm

/-- **An entity is found exactly if the catalog that the reply is has it.** -/
theorem entity_eq_ok_iff {name : String} {e : Entity} (h : c.isClosed = false)
    (address : c.config.baseUrl.isOk = true) :
    (c.entity name reply).outcome = .ok e ↔ reply.entity? name = some e := by
  simp only [entity_eq_ok, catalog_eq_ok_iff h, and_iff_right address, Reply.entity?,
    Option.bind_eq_some_iff, toOption_eq_some]
  tauto

/-- **A table is taken exactly if the reply is one.** -/
theorem execute_eq_ok_iff {query : String} {user? : Option String} {t : Table}
    (h : c.isClosed = false) (address : c.config.baseUrl.isOk = true) :
    (c.execute query user? reply).outcome = .ok t ↔ reply.table? = some t := by
  obtain ⟨baseUrl, hb⟩ := isOk_iff.1 address
  rw [outcome_execute, outcome_fetch h, hb]
  show payload baseUrl _ reply >>= tableOf query = .ok t ↔ _
  rw [payload_bind_eq_ok fun v hv => (tableOf_eq_ok.1 hv).choose_spec.2.1, Reply.table?,
    Option.bind_eq_some_iff]
  refine exists_congr fun v => and_congr_right fun _ => ?_
  rw [tableOf_eq_ok]
  cases v with
  | mapping es =>
    cases found : Entries.get? es "error" with
    | some report => simp [reported?, found]
    | none => simp [reported?, found, toOption_eq_some]
  | _ => simp

/-- The rows of the table that a reply is can be written. -/
theorem entriesWritable_of_table? {t : Table} (h : reply.table? = some t) :
    ∀ row ∈ t.rows, Value.entriesWritable row = true := by
  obtain ⟨v, hv, ht⟩ := Option.bind_eq_some_iff.1 h
  have writable := isWritable_of_value? hv
  split at ht
  · next es =>
    split at ht
    · cases ht
    · rw [Value.isWritable] at writable
      exact Table.entriesWritable_of_ofResponse writable (toOption_eq_some.1 ht)
  · cases ht

end Client
end EntityQuery
