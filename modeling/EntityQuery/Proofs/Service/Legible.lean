import EntityQuery.Proofs.Schema.Refusal
import EntityQuery.Proofs.Service.Exchange
import EntityQuery.Proofs.Service.Obstacle
import EntityQuery.Proofs.Table.Faults
import EntityQuery.Service.Client

/-!
# What a reply can raise

A reply is legible if its failure can be told, or its body can be read to its end. A legible reply
makes a client raise connection errors, errors that the service reports, and metadata errors, with one
exception: a catalog whose first refused entity names a type with half of a pair
(`Reply.namesRaggedType`). What an illegible reply raises is none of these. `Client.catalog_raises_iff`
and `Client.execute_raises_iff` say so of the two requests of a client that is open.
-/

namespace EntityQuery

open Outcome
open Service (Exchange Reply Endpoint Failure)

namespace Service

/-- Whether a reply can be told: its failure has a wording, or its body can be read to its end. -/
def Reply.isLegible : Reply → Bool
  | .good body levels | .refused _ _ body levels => (Payload.ofBytes body levels).isOk
  | .failed failure => failure.text.isOk

/-- Whether a good reply is a catalog whose first refused entity names a type with half of a pair. -/
def Reply.namesRaggedType : Reply → Bool
  | .good body levels =>
    match Payload.ofBytes body levels with
    | .ok (some v) => (Client.reported? v).isNone &&
        (Schema.firstRefused? v).any Schema.namesRaggedType
    | _ => false
  | _ => false

/-- **An answer is legible exactly if its body is,** whatever its status. -/
theorem Reply.isLegible_answered (status : Int) (reason : String) (body : List UInt8) (levels : Nat) :
    (answered status reason body levels).isLegible = (Payload.ofBytes body levels).isOk := by
  unfold answered
  split <;> rfl

/-- The kinds of errors that sessions do not keep as a text. -/
def isLost (k : ErrorKind) : Bool := k = .value || k = .type || k = .nesting || k = .member ||
  k = .encoding

/-! ### Failures and addresses -/

/-- A text that does not exist is an error of the limit on digits. -/
theorem kind_of_written {shown : Option String} {e : Error} (h : Error.written shown = .error e) :
    e.kind = .value := by
  unfold Error.written at h
  split at h
  · cases h
  · exact Except.error.inj h ▸ rfl

/-- A failure on the way that cannot be shown is not raised as one of the connection. -/
theorem isLost_of_subjectsOfBlocked {about : List Value} {e : Error}
    (h : subjectsOfBlocked about = .error e) : isLost e.kind = true := by
  unfold subjectsOfBlocked at h
  split at h
  · exact Except.error.inj h ▸ rfl
  · split at h
    · split at h
      · cases h
      · exact Except.error.inj h ▸ rfl
    · cases h
  · cases h

/-- A failure that cannot be told raises something else. -/
theorem isLost_of_text {failure : Failure} {e : Error} (h : failure.text = .error e) :
    isLost e.kind = true := by
  have written : ∀ {shown}, Error.written shown = .error e → isLost e.kind = true := fun h => by
    rw [kind_of_written h]
    rfl
  unfold Failure.text at h
  split at h
  · exact written h
  · exact written h
  · exact Except.error.inj h ▸ rfl
  · split at h
    · exact written h
    · split at h
      · obtain h | ⟨about, -, h⟩ := bind_eq_error.1 h
        · exact isLost_of_subjectsOfBlocked h
        · exact written h
      · exact written h
  · exact written h

/-- Settings that give no address raise something else. -/
theorem Config.isLost_of_baseUrl {c : Config} {e : Error} (h : c.baseUrl = .error e) :
    isLost e.kind = true := by
  have written : ∀ {v}, shown v = .error e → isLost e.kind = true := fun h => by
    rw [kind_of_written h]
    rfl
  unfold Config.baseUrl at h
  obtain h | ⟨path, -, h⟩ := bind_eq_error.1 h
  · unfold pathOf at h
    split at h
    · cases h
    · exact Except.error.inj h ▸ rfl
    · exact Except.error.inj h ▸ rfl
  · obtain h | ⟨host, -, h⟩ := bind_eq_error.1 h
    · exact written h
    · obtain h | ⟨port, -, h⟩ := bind_eq_error.1 h
      · exact written h
      · cases h

end Service

namespace Client

/-! ### Payloads -/

/-- A body that is not read to its end raises something else. -/
theorem isLost_unreadable (o : Payload.Obstacle) : Service.isLost (unreadable o).kind = true := by
  cases o <;> rfl

variable {baseUrl url : String} {reply : Reply}

/-- What an illegible reply raises, whatever was asked. -/
theorem payload_of_not_isLegible (baseUrl url : String) (h : reply.isLegible = false) :
    ∃ e, payload baseUrl url reply = .error e ∧ Service.isLost e.kind = true := by
  cases reply with
  | failed failure =>
    obtain ⟨e, he⟩ := isOk_eq_false_iff.1 h
    exact ⟨e, bind_eq_error.2 (.inl he), Service.isLost_of_text he⟩
  | good body levels | refused status reason body levels =>
    obtain ⟨o, ho⟩ := isOk_eq_false_iff.1 h
    exact ⟨unreadable o, by simp [payload, ho], isLost_unreadable o⟩

/-- A legible reply without a payload raises a connection error. -/
theorem kind_of_payload {e : Error} (h : reply.isLegible = true)
    (he : payload baseUrl url reply = .error e) : e.kind = .connection := by
  cases reply with
  | failed failure =>
    obtain ⟨cause, hc⟩ := isOk_iff.1 h
    rw [payload, hc] at he
    exact Except.error.inj he ▸ rfl
  | good body levels =>
    obtain ⟨v?, hv⟩ := isOk_iff.1 h
    simp only [payload, hv] at he
    split at he
    · next unread => cases unread
    · exact Except.error.inj he ▸ rfl
    · exact Except.error.inj he ▸ rfl
    · cases he
  | refused status reason body levels =>
    obtain ⟨v?, hv⟩ := isOk_iff.1 h
    simp only [payload, hv] at he
    split at he
    · cases he
    · exact Except.error.inj he ▸ rfl

/-- **The payload of a reply** is the value of its body, which reports an error if the reply refuses,
and is not the absent value if it does not. -/
theorem payload_eq_ok {v : Value} (h : payload baseUrl url reply = .ok v) :
    ∃ body levels, Payload.ofBytes body levels = .ok (some v) ∧
      ((reply = .good body levels ∧ v.isNull = false) ∨
        ∃ status reason, reply = .refused status reason body levels ∧ (reported? v).isSome = true) := by
  cases reply with
  | failed failure =>
    obtain ⟨cause, -, h⟩ := bind_eq_ok.1 h
    cases h
  | good body levels =>
    unfold payload at h
    simp only at h
    split at h
    · cases h
    · cases h
    · cases h
    · next v' present hv =>
      obtain rfl := Except.ok.inj h
      refine ⟨body, levels, hv, .inl ⟨rfl, ?_⟩⟩
      cases v' with
      | null => exact absurd rfl present
      | _ => rfl
  | refused status reason body levels =>
    unfold payload at h
    simp only at h
    split at h
    · cases h
    · next v? hv =>
      split at h
      · next v' found =>
        obtain rfl := Except.ok.inj h
        obtain ⟨w, rfl, hw⟩ := Option.bind_eq_some_iff.1 found
        obtain ⟨report, hr, rfl⟩ := Option.map_eq_some_iff.1 hw
        have reports := Option.isSome_iff_exists.2 ⟨report, hr⟩
        exact ⟨body, levels, hv, .inr ⟨status, reason, rfl, reports⟩⟩
      · cases h

/-- Whether a reply is such a catalog can be seen from its payload. -/
theorem namesRaggedType_of_payload {v : Value} (h : payload baseUrl url reply = .ok v) :
    reply.namesRaggedType = ((reported? v).isNone &&
      (Schema.firstRefused? v).any Schema.namesRaggedType) := by
  obtain ⟨body, levels, read, ⟨rfl, -⟩ | ⟨status, reason, rfl, report⟩⟩ := payload_eq_ok h
  · simp [Reply.namesRaggedType, read]
  · have silent : (reported? v).isNone = false := by
      rw [Option.isNone_eq_false_iff]
      exact report
    simp [Reply.namesRaggedType, silent]

/-- Such a catalog is the payload of its reply. -/
theorem exists_payload_of_namesRaggedType (h : reply.namesRaggedType = true) :
    ∃ v, payload baseUrl url reply = .ok v := by
  unfold Reply.namesRaggedType at h
  split at h
  · next body levels =>
    split at h
    · next v read =>
      obtain ⟨-, ragged⟩ := Bool.and_eq_true_iff.1 h
      refine ⟨v, ?_⟩
      cases v with
      | null => cases ragged
      | _ => simp [payload, read]
    · cases h
  · cases h

/-- What is read from a reply can be written. -/
theorem isWritable_of_payload {v : Value} (h : payload baseUrl url reply = .ok v) :
    v.isWritable = true := by
  obtain ⟨_, _, read, -⟩ := payload_eq_ok h
  exact Payload.isWritable_of_ofBytes read

/-! ### Reports -/

/-- What a payload reports has a text. -/
theorem isSome_reportText? {v report : Value} (hv : v.isWritable = true)
    (h : reported? v = some report) : (reportText? report).isSome = true := by
  have writable : report.isWritable = true := by
    unfold reported? at h
    split at h
    · exact Value.isWritable_of_find? (by rwa [Value.isWritable] at hv) h
    · cases h
  have display : ∀ w : Value, w.isWritable = true → w.display?.isSome = true := fun w hw =>
    (Value.isSome_display? w).trans hw
  unfold reportText?
  split
  · next es =>
    have entries : Value.entriesWritable es = true := by rwa [Value.isWritable] at writable
    simp only
    split
    · exact display _ (Value.isWritable_get entries "msg")
    · split
      · exact display _ (Value.isWritable_get entries "message")
      · exact display _ writable
  · exact display _ writable

/-- **The catalog of a payload is refused with a metadata error,** unless it is no report and its
first refused entity names a type with half of a pair. -/
theorem kind_of_catalogOf {v : Value} {e : Error} (hv : v.isWritable = true)
    (h : catalogOf v = .error e) :
    e.kind = if (reported? v).isNone && (Schema.firstRefused? v).any Schema.namesRaggedType then
      .encoding else .metadata := by
  unfold catalogOf at h
  split at h
  · next report hr =>
    obtain rfl := Except.error.inj h
    rw [hr, Option.isNone_some, Bool.false_and, if_neg Bool.false_ne_true]
    exact Error.kind_showing (isSome_reportText? hv hr) fun _ => rfl
  · next hr =>
    rw [hr, Option.isNone_none, Bool.true_and]
    exact Catalog.kind_of_read_of_isWritable hv h

/-- A value without a report is read as a catalog. -/
theorem catalogOf_eq_ok_iff {v : Value} {catalog : Catalog} :
    catalogOf v = .ok catalog ↔ reported? v = none ∧ Catalog.read v = .ok catalog := by
  rw [catalogOf]
  cases reported? v <;> simp

/-- Such a payload gives no catalog. -/
theorem catalogOf_of_namesRaggedType {v : Value} {catalog : Catalog}
    (h : ((reported? v).isNone && (Schema.firstRefused? v).any Schema.namesRaggedType) = true) :
    catalogOf v ≠ .ok catalog := by
  rw [Bool.and_eq_true, Option.isNone_iff_eq_none] at h
  obtain ⟨silent, ragged⟩ := h
  obtain ⟨d, hd, -⟩ := (Option.any_eq_true _ _).1 ragged
  obtain ⟨e, -, he⟩ := Catalog.read_of_firstRefused hd
  simp [catalogOf, silent, he]

/-- **An error of a response is reported as that of a malformed one,** since it is always about a value
or its kind. -/
theorem responseError_of_ofResponse {es : Entries} {e : Error} (h : Table.ofResponse es = .error e) :
    responseError e = .connection (.malformed e.message) := by
  obtain value | type := Table.kind_of_ofResponse h
  · simp [responseError, Error.isIn, value, ErrorKind.categories]
  · simp [responseError, Error.isIn, type, ErrorKind.categories]

/-- **The table of a payload is refused with a connection error or with the error of a report.** -/
theorem kind_of_tableOf {query : String} {v : Value} {e : Error} (hv : v.isWritable = true)
    (h : tableOf query v = .error e) : e.kind = .connection ∨ e.kind = .execution := by
  unfold tableOf at h
  split at h
  · split at h
    · next report hr =>
      obtain rfl := Except.error.inj h
      exact .inr (Error.kind_showing (isSome_reportText? hv hr) fun _ => rfl)
    · obtain ⟨e, refused, rfl⟩ := mapError_eq_error.1 h
      rw [responseError_of_ofResponse refused]
      exact .inl rfl
  · exact .inl (Except.error.inj h ▸ rfl)

/-! ### Requests -/

variable {c : Client}

/-- The outcome of a request of an open client. -/
theorem outcome_fetch (h : c.isClosed = false) (endpoint : Endpoint)
    (parameters : List (String × String)) (reply : Reply) :
    (c.fetch endpoint parameters reply).outcome =
      c.config.baseUrl >>= fun baseUrl =>
        payload baseUrl (address baseUrl endpoint parameters) reply := by
  unfold fetch
  rw [h, if_neg Bool.false_ne_true, Exchange.outcome_bind]
  rfl

/-- What follows a request raises errors of some kinds only, among them connection errors and none of
those that are lost, exactly if there is an address, the reply is legible, and its payload raises
none but such errors. -/
theorem raises_iff {α : Type} {f : Value → Except Error α} {P : ErrorKind → Prop}
    {endpoint : Endpoint} {parameters : List (String × String)} (h : c.isClosed = false)
    (connection : P .connection) (lost : ∀ k, Service.isLost k = true → ¬ P k) :
    (∀ e, (c.fetch endpoint parameters reply).outcome >>= f = .error e → P e.kind) ↔
      c.config.baseUrl.isOk = true ∧ reply.isLegible = true ∧
        ∀ baseUrl, c.config.baseUrl = .ok baseUrl →
          ∀ v, payload baseUrl (address baseUrl endpoint parameters) reply = .ok v →
            ∀ e, f v = .error e → P e.kind := by
  rw [outcome_fetch h]
  constructor
  · intro raises
    cases hb : c.config.baseUrl with
    | error e =>
      have raised := raises e (by rw [hb]; rfl)
      exact absurd raised (lost _ (Service.Config.isLost_of_baseUrl hb))
    | ok baseUrl =>
      rw [hb] at raises
      refine ⟨rfl, ?_, ?_⟩
      · cases legible : reply.isLegible with
        | true => rfl
        | false =>
          obtain ⟨e, he, hl⟩ :=
            payload_of_not_isLegible baseUrl (address baseUrl endpoint parameters) legible
          exact absurd (raises e (bind_eq_error.2 (.inl he))) (lost _ hl)
      · rintro _ ⟨⟩ v hv e he
        exact raises e (bind_eq_error.2 (.inr ⟨v, hv, he⟩))
  · rintro ⟨address, legible, rest⟩ e he
    obtain ⟨baseUrl, hb⟩ := isOk_iff.1 address
    rw [hb] at he
    obtain he | ⟨v, hv, he⟩ := bind_eq_error.1 he
    · exact (kind_of_payload legible he) ▸ connection
    · exact rest baseUrl hb v hv e he

/-- The outcome of asking for the catalog, from its request on. -/
theorem outcome_catalog (c : Client) (reply : Reply) :
    (c.catalog reply).outcome = (c.fetch .metadata [] reply).outcome >>= catalogOf := by
  rw [catalog, Exchange.outcome_bind]
  rfl

/-- The outcome of asking for an entity is looked up in the catalog. -/
theorem outcome_entity (c : Client) (name : String) (reply : Reply) :
    (c.entity name reply).outcome = (c.catalog reply).outcome >>= fun catalog =>
      match catalog.find? name with
      | some e => .ok e
      | none => .error (.metadata (.unknownEntity name)) := by
  rw [entity, Exchange.outcome_bind]
  congr 1
  funext catalog
  cases catalog.find? name <;> rfl

/-- An entity is got if it is found in the catalog. -/
theorem entity_eq_ok {name : String} {e : Entity} :
    (c.entity name reply).outcome = .ok e ↔
      ∃ catalog, (c.catalog reply).outcome = .ok catalog ∧ catalog.find? name = some e := by
  rw [outcome_entity, bind_eq_ok]
  refine exists_congr fun catalog => and_congr_right fun _ => ?_
  cases catalog.find? name <;> simp

/-- An entity that is found has a name. -/
theorem name_ne_of_entity {name : String} {e : Entity}
    (h : (c.entity name reply).outcome = .ok e) : e.name ≠ "" := by
  obtain ⟨catalog, asked, found⟩ := entity_eq_ok.1 h
  rw [outcome_catalog] at asked
  obtain ⟨v, -, taken⟩ := bind_eq_ok.1 asked
  obtain ⟨-, read⟩ := catalogOf_eq_ok_iff.1 taken
  exact Catalog.name_ne_of_read read (List.mem_of_find?_eq_some found)

/-- **Asking for the catalog raises connection and metadata errors only,** exactly if there is an
address and the reply is legible and no catalog whose first refused entity names a type with half of a
pair. -/
theorem catalog_raises_iff (h : c.isClosed = false) :
    (∀ e, (c.catalog reply).outcome = .error e → e.kind = .connection ∨ e.kind = .metadata) ↔
      c.config.baseUrl.isOk = true ∧ reply.isLegible = true ∧ reply.namesRaggedType = false := by
  have apart : ∀ k, Service.isLost k = true → ¬ (k = .connection ∨ k = .metadata) := by
    rintro k hk (rfl | rfl) <;> cases hk
  rw [outcome_catalog, raises_iff (P := fun k => k = .connection ∨ k = .metadata) h (.inl rfl) apart]
  refine and_congr_right fun address => and_congr_right fun _ => ?_
  constructor
  · intro raises
    rw [← Bool.not_eq_true]
    intro ragged
    obtain ⟨baseUrl, hb⟩ := isOk_iff.1 address
    obtain ⟨v, hv⟩ := exists_payload_of_namesRaggedType ragged
    rw [namesRaggedType_of_payload hv] at ragged
    -- the catalog is refused, with an error of the encoding
    cases hc : catalogOf v with
    | ok catalog => exact absurd hc (catalogOf_of_namesRaggedType ragged)
    | error e =>
      have kind := kind_of_catalogOf (isWritable_of_payload hv) hc
      rw [if_pos ragged] at kind
      exact apart _ (kind ▸ rfl) (raises baseUrl hb v hv e hc)
  · intro plain baseUrl _ v hv e he
    rw [namesRaggedType_of_payload hv] at plain
    have kind := kind_of_catalogOf (isWritable_of_payload hv) he
    rw [plain, if_neg Bool.false_ne_true] at kind
    exact .inr kind

/-- **Asking for an entity raises connection and metadata errors only** under the same condition, since
a catalog without the entity is a metadata error. -/
theorem entity_raises_iff {name : String} (h : c.isClosed = false) :
    (∀ e, (c.entity name reply).outcome = .error e → e.kind = .connection ∨ e.kind = .metadata) ↔
      c.config.baseUrl.isOk = true ∧ reply.isLegible = true ∧ reply.namesRaggedType = false := by
  rw [← catalog_raises_iff h, outcome_entity]
  constructor
  · intro raises e he
    exact raises e (bind_eq_error.2 (.inl he))
  · intro raises e he
    obtain he | ⟨catalog, -, he⟩ := bind_eq_error.1 he
    · exact raises e he
    · split at he
      · cases he
      · exact .inr (Except.error.inj he ▸ rfl)

/-- The outcome of running a query, from its request on. -/
theorem outcome_execute (c : Client) (query : String) (user? : Option String) (reply : Reply) :
    (c.execute query user? reply).outcome =
      (c.fetch .execution (parameters query user?) reply).outcome >>= tableOf query := by
  rw [execute, Exchange.outcome_bind]
  rfl

/-- **Running a query raises connection errors and the errors of reports only,** exactly if there is an
address and the reply is legible. -/
theorem execute_raises_iff {query : String} {user? : Option String} (h : c.isClosed = false) :
    (∀ e, (c.execute query user? reply).outcome = .error e →
      e.kind = .connection ∨ e.kind = .execution) ↔
      c.config.baseUrl.isOk = true ∧ reply.isLegible = true := by
  have apart : ∀ k, Service.isLost k = true → ¬ (k = .connection ∨ k = .execution) := by
    rintro k hk (rfl | rfl) <;> cases hk
  rw [outcome_execute, raises_iff (P := fun k => k = .connection ∨ k = .execution) h (.inl rfl) apart]
  refine and_congr_right fun _ => and_iff_left ?_
  intro baseUrl _ v hv e he
  exact kind_of_tableOf (isWritable_of_payload hv) he

end Client
end EntityQuery
