import EntityQuery.Proofs.Number.DecimalText
import EntityQuery.Proofs.Service.Exchange
import EntityQuery.Proofs.Service.Form
import EntityQuery.Proofs.Value.Writable
import EntityQuery.Session

/-!
# Where a request goes and what it says

The base address of a configuration does not end in a slash and does not depend on the slashes at the
ends of its path (`Service.Config.getLast?_baseUrl`, `Service.Config.baseUrl_slashes`). The request for
a query goes to one address below it, and the form behind the question mark is read back as the query
and the user, whatever characters they hold. A search sends the query that the builder builds
(`Session.search_sends`).
-/

namespace EntityQuery

open Outcome

namespace Service

/-! ### The base address -/

/-- What can be written can be shown. -/
theorem exists_shown_iff {v : Value} : (∃ text, shown v = .ok text) ↔ v.isWritable = true := by
  rw [← Value.isSome_display?, shown]
  cases v.display? <;> simp [Error.written]

/-- So many slashes. -/
def slashes (n : Nat) : String := String.ofList (List.replicate n '/')

/-- The part of the address that a path makes does not end in a slash. -/
theorem getLast?_pathPart (path : String) : (pathPart path).getLast? ≠ some '/' := by
  unfold pathPart
  split
  · exact Option.some_ne_none _ ∘ Eq.symm
  · next kept =>
    intro last
    rw [List.getLast?_cons_of_ne_nil kept] at last
    cases Text.getLast?_trimChars_false last

/-- Slashes at the ends of a path do not count. -/
theorem pathPart_slashes (m n : Nat) (path : String) :
    pathPart (slashes m ++ path ++ slashes n) = pathPart path := by
  have slash : ∀ k, ∀ c ∈ List.replicate k '/', decide (c = '/') = true := by
    intro k c hc
    exact decide_eq_true (List.eq_of_mem_replicate hc)
  have trimmed : Text.trimChars (· = '/') (slashes m ++ path ++ slashes n).toList =
      Text.trimChars (· = '/') path.toList := by
    rw [String.toList_append, String.toList_append, slashes, slashes, String.toList_ofList,
      String.toList_ofList, Text.trimChars_append _ (slash m) (slash n)]
  rw [pathPart, pathPart, trimmed]

namespace Config

variable {c : Config} {host path : String} {port : Int}

/-- The base address of a configuration of texts and a number that can be written. -/
theorem baseUrl_eq (hhost : c.host.text? = some host) (hport : c.port = .int port)
    (short : (Value.int port).isWritable = true) (hpath : c.basePath.text? = some path) :
    c.baseUrl = .ok (c.scheme.name ++ "://" ++ host ++ ":" ++ port.repr ++
      String.ofList (pathPart path)) := by
  have hostText : shown c.host = .ok host := by
    rw [shown, Value.display?_of_text? hhost, Error.written]
  have portText : shown c.port = .ok port.repr := by
    rw [shown, hport, Value.display?_int short, Error.written]
  have pathText : pathOf c.basePath = .ok (pathPart path) := by
    simp only [pathOf, hpath]
  rw [baseUrl, pathText, hostText, portText]
  rfl

/-- **The base address does not end in a slash.** -/
theorem getLast?_baseUrl {baseUrl : String} (hhost : c.host.text? = some host)
    (hport : c.port = .int port) (short : (Value.int port).isWritable = true)
    (hpath : c.basePath.text? = some path) (h : c.baseUrl = .ok baseUrl) :
    baseUrl.toList.getLast? ≠ some '/' := by
  rw [baseUrl_eq hhost hport short hpath] at h
  obtain rfl := Except.ok.inj h
  rw [String.toList_append, String.toList_ofList, List.getLast?_append]
  cases hp : (pathPart path).getLast? with
  | some last =>
    rw [Option.some_or]
    exact hp ▸ getLast?_pathPart path
  | none =>
    -- without a path the address ends in the port
    rw [Option.none_or, String.toList_append, List.getLast?_append]
    intro slash
    obtain last | ⟨empty, -⟩ := Option.or_eq_some_iff.1 slash
    · rw [Decimal.toList_repr] at last
      obtain digit | sign | point := Decimal.mem_positional (List.mem_of_getLast? last)
      · cases digit
      · cases sign
      · cases point
    · rw [List.getLast?_eq_none_iff, Decimal.toList_repr] at empty
      exact Decimal.positional_ne_nil _ empty

/-- The configuration with another path. -/
def withPath (c : Config) (path : String) : Config := { c with basePath := .text path }

/-- **The slashes at the ends of a path do not count.** -/
theorem baseUrl_slashes {core : String} (hhost : c.host.text? = some host)
    (hport : c.port = .int port) (short : (Value.int port).isWritable = true) {m n : Nat}
    (hpath : c.basePath.text? = some (slashes m ++ core ++ slashes n)) (k l : Nat) :
    (c.withPath (slashes k ++ core ++ slashes l)).baseUrl = c.baseUrl := by
  have other : (c.withPath (slashes k ++ core ++ slashes l)).basePath.text? =
      some (slashes k ++ core ++ slashes l) := rfl
  have there := baseUrl_eq (c := c.withPath (slashes k ++ core ++ slashes l)) hhost hport short other
  rw [there, baseUrl_eq hhost hport short hpath, pathPart_slashes, pathPart_slashes]
  rfl

end Config
end Service

/-! ### Requests -/

namespace Client

open Service (Exchange Reply Endpoint Request)

variable {c : Client} {baseUrl : String}

/-- An open client that has an address tells what it asks for, and sends the request. -/
theorem acts_fetch (isOpen : c.isClosed = false) (address? : c.config.baseUrl = .ok baseUrl)
    (endpoint : Endpoint) (parameters : List (String × String)) (reply : Reply) :
    (c.fetch endpoint parameters reply).acts =
      [.told ⟨logger, Logging.debug, "GET '" ++ address baseUrl endpoint parameters ++ "'"⟩,
        .sent endpoint ⟨address baseUrl endpoint parameters, c.config.timeout⟩] := by
  have based : (Exchange.ofExcept c.config.baseUrl).outcome = .ok baseUrl := address?
  unfold fetch
  rw [isOpen, if_neg Bool.false_ne_true, Exchange.acts_bind_of_ok based,
    Exchange.acts_bind_of_ok (Exchange.outcome_tell_quiet _),
    Exchange.acts_bind_of_ok (Exchange.outcome_send ..)]
  rfl

/-- It sends one request. -/
theorem requests_fetch (isOpen : c.isClosed = false) (address? : c.config.baseUrl = .ok baseUrl)
    (endpoint : Endpoint) (parameters : List (String × String)) (reply : Reply) :
    (c.fetch endpoint parameters reply).requests =
      [⟨address baseUrl endpoint parameters, c.config.timeout⟩] := by
  rw [Exchange.requests, acts_fetch isOpen address?]
  rfl

/-- The address of a query has the form of its parameters behind a question mark. -/
theorem address_execution (baseUrl query : String) (user? : Option String) :
    address baseUrl .execution (parameters query user?) =
      baseUrl ++ "/sql?" ++ String.ofList (Form.encode (parameters query user?)) := by
  rw [address, if_neg (by simp [parameters])]
  apply String.toList_inj.1
  simp [Endpoint.name]

/-- The request for a query holds the form of its parameters behind a question mark. -/
theorem requests_execute (isOpen : c.isClosed = false) (address? : c.config.baseUrl = .ok baseUrl)
    (query : String) (user? : Option String) (reply : Reply) :
    (c.execute query user? reply).requests = [⟨baseUrl ++ "/sql?" ++
      String.ofList (Form.encode (parameters query user?)), c.config.timeout⟩] := by
  rw [execute, Exchange.requests_bind_ofExcept, requests_fetch isOpen address?, address_execution]

end Client

namespace Session

open Service (Exchange Reply)

/-- A search does what running the query that is built does, and may tell how that failed. -/
theorem acts_search {s : Session} {query : String} (built : s.builder.build = .ok query)
    (user? : Option String) (reply : Reply) : ∃ records : List Logging.Record,
      (s.search user? reply).1.acts =
        (s.client.execute query user? reply).acts ++ records.map .told := by
  simp only [search, finishSearch, built]
  split
  · exact ⟨[], (List.append_nil _).symm⟩
  · split
    · exact ⟨[_], rfl⟩
    · exact ⟨[], (List.append_nil _).symm⟩

/-- A search sends what running the query that is built sends. -/
theorem requests_search {s : Session} {query : String} (built : s.builder.build = .ok query)
    (user? : Option String) (reply : Reply) :
    (s.search user? reply).1.requests = (s.client.execute query user? reply).requests := by
  obtain ⟨records, acts⟩ := acts_search built user? reply
  rw [Exchange.requests, acts, List.filterMap_append, Exchange.filterMap_request?_told,
    List.append_nil]
  rfl

/-- **What the service receives is what was built.** An open client whose host and path are texts and
whose port can be written sends one request for a query, whatever the reply is. It goes to the base
address, which does not end in a slash and stays the same if the path gets more or fewer slashes at
its ends. The form behind the question mark has no characters but those of forms, and it is read as
the query and the user. A search of a session over the client sends the same for the query that its
builder builds. -/
theorem search_sends {c : Client} {host path : String} {port : ℤ} (isOpen : c.isClosed = false)
    (hhost : c.config.host.text? = some host) (hport : c.config.port = .int port)
    (short : (Value.int port).isWritable = true) (hpath : c.config.basePath.text? = some path)
    (query : String) (user? : Option String) (reply : Reply) :
    ∃ baseUrl form, c.config.baseUrl = .ok baseUrl ∧
      (c.execute query user? reply).requests =
        [⟨baseUrl ++ "/sql?" ++ String.ofList form, c.config.timeout⟩] ∧
      (∀ char ∈ form, Form.isFormChar char = true) ∧
      Form.decode? form = some (match user? with
        | none => [("sql", query)]
        | some user => [("sql", query), ("user", user)]) ∧
      baseUrl.toList.getLast? ≠ some '/' ∧
      (∀ (m n : ℕ) (core : String), path = Service.slashes m ++ core ++ Service.slashes n →
        ∀ k l, (c.config.withPath (Service.slashes k ++ core ++ Service.slashes l)).baseUrl =
          .ok baseUrl) ∧
      ∀ s : Session, s.client = c → s.builder.build = .ok query →
        (s.search user? reply).1.requests =
          [⟨baseUrl ++ "/sql?" ++ String.ofList form, c.config.timeout⟩] := by
  have based := Service.Config.baseUrl_eq hhost hport short hpath
  have sent := Client.requests_execute isOpen based query user? reply
  refine ⟨_, _, based, sent, fun char h => Form.isFormChar_of_mem h, ?_,
    Service.Config.getLast?_baseUrl hhost hport short hpath based, ?_, ?_⟩
  · rw [Form.decode?_encode (by simp [Client.parameters])]
    cases user? <;> rfl
  · rintro m n core rfl k l
    rw [Service.Config.baseUrl_slashes hhost hport short hpath, based]
  · rintro s rfl built
    rw [requests_search built, sent]

/-- A client of a service behind a path with slashes. -/
def remoteClient : Client :=
  ⟨⟨.https, .text "db.example", .int 443, .text "//api/v1/", .whole 30, rfl⟩, false⟩

/-- A text that looks like more parameters is read as one text. -/
theorem search_sends_remote : ∃ form,
    (remoteClient.execute "a=1&b %é+'" (some "") .none).requests =
      [⟨"https://db.example:443/api/v1" ++ "/sql?" ++ String.ofList form, .whole 30⟩] ∧
    Form.decode? form = some [("sql", "a=1&b %é+'"), ("user", "")] := by
  have short : (Value.int 443).isWritable = true := by
    rw [Value.isWritable_int]
    decide +kernel
  obtain ⟨baseUrl, form, based, sent, -, read, -⟩ :=
    search_sends (c := remoteClient) rfl rfl rfl short rfl "a=1&b %é+'" (some "") .none
  have address : remoteClient.config.baseUrl = .ok "https://db.example:443/api/v1" := by
    rw [Service.Config.baseUrl_eq (c := remoteClient.config) rfl rfl short rfl]
    exact congrArg Except.ok (by decide +kernel)
  obtain rfl := Except.ok.inj (based.symm.trans address)
  exact ⟨form, sent, read⟩

end Session

end EntityQuery
