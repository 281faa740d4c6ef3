import EntityQuery.Proofs.CommandLine.Requests
import EntityQuery.Proofs.Reading.NotANumber
import EntityQuery.Proofs.Service.Wait

/-!
# Every request waits for some time, unless the seconds are not-a-number

Requests are sent by clients, by sessions over them and by runs of a command line; each waits for the
seconds that were set (`Session.timeout_of_mem_sent`, `exists_client_of_mem_run`). The seconds of a
command line are what its last text for them is read as (`Arguments.timeout_of_ofList`). So every
request waits for more than zero seconds, except that not-a-number is accepted and sent
(`every_request_waits`, `exists_wait_not_positive`).
-/

namespace EntityQuery

open Outcome
open Service (Config Endpoint Reply Request Seconds Settings)

/-! ### Sessions -/

namespace Session

variable {s : Session} {r : Request}

/-- The requests that are sent in the course of a history. -/
def sent (s : Session) : List (Operation × Reply) → List Request
  | [] => []
  | (o, reply) :: history => (s.step reply o).1.requests ++ sent (s.step reply o).2 history

/-- A session sends with the seconds of its client. -/
theorem timeout_of_mem_step {reply : Reply} {o : Operation} (h : r ∈ (s.step reply o).1.requests) :
    r.timeout = s.client.config.timeout := by
  rw [requests_step] at h
  cases asked : s.asks? o with
  | none =>
    rw [asked] at h
    cases h
  | some p =>
    rw [asked] at h
    exact Client.timeout_of_mem_step h

/-- **Every request of a session waits for the seconds of its client.** -/
theorem timeout_of_mem_sent {history : List (Operation × Reply)} (h : r ∈ s.sent history) :
    r.timeout = s.client.config.timeout := by
  induction history generalizing s with
  | nil => cases h
  | cons head history ih =>
    obtain ⟨o, reply⟩ := head
    obtain now | later := List.mem_append.1 h
    · exact timeout_of_mem_step now
    · rw [ih later, client_step]

end Session

namespace CommandLine

variable {argv : List String} {service : Endpoint → Reply} {console : Console} {r : Request}

/-! ### Runs -/

/-- **Every request of a run waits for the seconds of a client of its settings,** on any console. -/
theorem exists_client_of_mem_run (h : r ∈ (run argv service console).requests) :
    ∃ a c, Arguments.ofList argv = .ok a ∧ (Client.connect a.settings).outcome = .ok c ∧
      r.timeout = c.config.timeout := by
  cases accepted : Arguments.ofList argv with
  | error refusal =>
    rw [run, accepted] at h
    cases refusal <;> cases h
  | ok a =>
    have same : run argv service = runArguments a service := by simp only [run, accepted]
    rw [run_under accepted, same] at h
    have h := Report.requests_under_prefix.subset h
    by_cases prepared : ∃ c name b, a.dryRun = false ∧ a.Prepares service c name b
    · obtain ⟨c, name, b, wet, prepares⟩ := prepared
      obtain ⟨query, base, reaches, asks⟩ := asks_of_prepares prepares wet
      rw [asks.requests] at h
      refine ⟨a, c, rfl, reaches.connected, ?_⟩
      obtain rfl | h := List.mem_cons.1 h
      · rfl
      · exact List.mem_singleton.1 h ▸ rfl
    · have short := sendsNoQuery_of_not fun c name b wet prepares =>
        prepared ⟨c, name, b, wet, prepares⟩
      obtain nothing | ⟨c, base, reaches, sent⟩ := short
      · rw [nothing] at h
        cases h
      · rw [sent] at h
        exact ⟨a, c, rfl, reaches.connected, List.mem_singleton.1 h ▸ rfl⟩

/-! ### The seconds of a command line -/

/-- The texts that the arguments give for the seconds, one after the other. -/
def timeoutsOf : List Token → List String
  | .bare .timeout :: .plain text :: ts => text :: timeoutsOf ts
  | .joined .timeout text :: ts => text :: timeoutsOf ts
  | .equals .timeout text :: ts => text :: timeoutsOf ts
  | _ :: ts => timeoutsOf ts
  | [] => []

/-- What a text for the seconds is taken for: the number that it stands for. The only other text that is
taken is `--` in the same argument, which is an empty list. -/
def timeoutOf (text : String) : Value :=
  match Reading.number text with
  | .ok x => .float x
  | .error _ => .list []

/-- What several texts are taken for: the last one counts. -/
def lastTimeout (texts : List String) (before : Value) : Value :=
  (texts.getLast?.map timeoutOf).getD before

/-- The last option for the seconds counts. -/
theorem lastTimeout_cons (text : String) (texts : List String) (before : Value) :
    lastTimeout (text :: texts) before = lastTimeout texts (timeoutOf text) := by
  rw [lastTimeout, List.getLast?_cons, lastTimeout]
  cases texts.getLast? <;> rfl

/-- **Not-a-number** is set by a text that stands for it. -/
theorem timeoutOf_eq_nan_iff {text : String} :
    (∃ mark, timeoutOf text = .float (.nan mark)) ↔ Reading.IsNotANumber text := by
  rw [← Reading.number_eq_nan_iff, timeoutOf]
  cases Reading.number text <;> simp

namespace Arguments

variable {a b : Arguments}

/-- Only the option for the seconds changes them. -/
theorem timeout_setValue {s : Switch} {value : String} (h : a.setValue s value = .ok b) :
    b.settings.timeout = if s = .timeout then timeoutOf value else a.settings.timeout := by
  cases s with
  | timeout =>
    simp only [setValue] at h
    split at h
    · next x read =>
      rw [timeoutOf, read]
      exact Except.ok.inj h ▸ rfl
    · cases h
  | filter | port | log =>
    simp only [setValue] at h
    split at h
    · exact Except.ok.inj h ▸ rfl
    · cases h
  | _ => exact Except.ok.inj h ▸ rfl

/-- It may stand in the same argument as its value. -/
theorem timeout_setJoined {s : Switch} {value : String} (h : a.setJoined s value = .ok b) :
    b.settings.timeout = if s = .timeout then timeoutOf value else a.settings.timeout := by
  unfold setJoined at h
  split at h
  · next empty =>
    obtain rfl := Except.ok.inj h
    have list : timeoutOf "--" = .list [] := rfl
    cases s <;> first | rfl | exact empty ▸ list.symm
  · exact timeout_setValue h

/-- A flag does not change the seconds. -/
theorem timeout_setFlag {s : Switch} (h : a.setFlag s = .ok b) :
    b.settings.timeout = a.settings.timeout := by
  cases s with
  | help => cases h
  | _ => exact Except.ok.inj h ▸ rfl

end Arguments

/-- **Taking arguments sets the seconds that were given last,** or leaves them as they are. -/
theorem timeout_take {p q : Progress} {afterEntity : Bool} {ts : List Token}
    (h : take p afterEntity ts = .ok q) : q.arguments.settings.timeout =
      lastTimeout (timeoutsOf ts) p.arguments.settings.timeout := by
  refine take_induction (P := fun a ts =>
    q.arguments.settings.timeout = lastTimeout (timeoutsOf ts) a.settings.timeout) rfl ?_ ?_ ?_ ?_ h
  · intro a entity? t ts other last
    cases t <;> first | exact last | cases other
  · intro a b s text ts hb last
    rw [last, Arguments.timeout_setValue hb]
    cases s <;> first | rfl | exact (lastTimeout_cons ..).symm
  · intro a b s ts valueless hb last
    rw [last, Arguments.timeout_setFlag hb]
    cases s <;> first | rfl | cases valueless
  · intro a b s text ts hb last
    rw [last, Arguments.timeout_setJoined hb]
    cases s <;> first
      | exact ⟨rfl, rfl⟩
      | exact ⟨(lastTimeout_cons ..).symm, (lastTimeout_cons ..).symm⟩

/-- **The seconds of a command line** are those that were given last, or five. -/
theorem Arguments.timeout_of_ofList {a : Arguments} (h : ofList argv = .ok a) :
    ∃ ts, tokens argv = .ok ts ∧ a.settings.timeout = lastTimeout (timeoutsOf ts) (.int 5) := by
  obtain ⟨ts, p, read, taken, rfl⟩ := exists_take_of_ofList h
  exact ⟨ts, read, timeout_take taken⟩

/-- The seconds are a number unless the last text for them stands for not-a-number. -/
theorem lastTimeout_ne_nan_iff {texts : List String} {n : ℤ} :
    (∀ mark, lastTimeout texts (.int n) ≠ .float (.nan mark)) ↔
      ∀ text ∈ texts.getLast?, ¬ Reading.IsNotANumber text := by
  rw [lastTimeout]
  cases texts.getLast? with
  | none => simp
  | some text => simp [← timeoutOf_eq_nan_iff]

/-! ### All requests -/

/-- **Every request waits for more than zero seconds,** unless the seconds are not-a-number. Settings
are accepted exactly if the scheme is known and the seconds, if they are a number, are above zero, and a
client is made of them exactly if besides the host and the port can be written. Whatever is done with a
client then, and with sessions over it, every request waits for the seconds that were set, and they are
above zero exactly if they are a number. The requests of a command line wait for the seconds of the last
text that is given for them, or for five, whatever the console shows; they are above zero exactly if that
text does not stand for not-a-number. -/
theorem every_request_waits (s : Settings) (argv : List String) (service : Endpoint → Reply)
    (console : Console) :
    ((∃ config, Config.ofSettings s = .ok config) ↔
      (∃ scheme : Service.Scheme, s.scheme.text? = some scheme.name) ∧
        ∃ t : Seconds, s.timeout = t.value ∧ ∀ x ∈ t.amount?, 0 < x) ∧
    (∀ c : Client, (Client.connect s).outcome = .ok c ↔
      s.host.isWritable = true ∧ s.port.isWritable = true ∧ Config.ofSettings s = .ok c.config ∧
        c.isClosed = false) ∧
    (∀ (c : Client) (r : Request), Config.ofSettings s = .ok c.config →
      ((∃ history, r ∈ c.sent history) ∨
        ∃ (session : Session) (history : List (Session.Operation × Reply)),
          session.client = c ∧ r ∈ session.sent history) →
      r.timeout.value = s.timeout ∧
        (r.timeout.IsPositive ↔ ∀ mark, s.timeout ≠ .float (.nan mark))) ∧
    ∀ r ∈ (run argv service console).requests, ∃ ts, tokens argv = .ok ts ∧
      r.timeout.value = lastTimeout (timeoutsOf ts) (.int 5) ∧
      (r.timeout.IsPositive ↔ ∀ text ∈ (timeoutsOf ts).getLast?, ¬ Reading.IsNotANumber text) := by
  have waits : ∀ {s : Settings} {c : Client} {r : Request}, Config.ofSettings s = .ok c.config →
      r.timeout = c.config.timeout → r.timeout.value = s.timeout ∧
        (r.timeout.IsPositive ↔ ∀ mark, s.timeout ≠ .float (.nan mark)) := by
    intro s c r accepted same
    obtain ⟨-, timeout, -⟩ := Config.ofSettings_eq_ok_iff.1 accepted
    rw [same]
    exact ⟨timeout.symm, Config.isPositive_timeout_iff accepted⟩
  refine ⟨Config.exists_ofSettings_iff, fun c => Client.connect_eq_ok_iff, ?_, ?_⟩
  · rintro c r accepted (⟨history, sent⟩ | ⟨session, history, rfl, sent⟩)
    · exact waits accepted (Client.timeout_of_mem_sent sent)
    · exact waits accepted (Session.timeout_of_mem_sent sent)
  · intro r sent
    obtain ⟨a, c, read, connected, same⟩ := exists_client_of_mem_run sent
    obtain ⟨ts, tokens, timeout⟩ := Arguments.timeout_of_ofList read
    obtain ⟨-, -, accepted, -⟩ := Client.connect_eq_ok_iff.1 connected
    obtain ⟨value, positive⟩ := waits accepted same
    rw [timeout] at value positive
    exact ⟨ts, tokens, value, positive.trans lastTimeout_ne_nan_iff⟩

/-- The last text counts, with blanks around it, and a client that nothing is set for waits whatever is
done with it. -/
theorem every_request_waits_shortly :
    (run ["--list-entities", "--timeout", "nan", "--timeout= 2.5e-3 "] userService).requests.length =
        1 ∧
      (∀ r ∈ (run ["--list-entities", "--timeout", "nan", "--timeout= 2.5e-3 "] userService).requests,
        r.timeout.IsPositive) ∧
      ∀ history, ∀ r ∈ Session.localClient.sent history, r.timeout.IsPositive := by
  obtain ⟨-, -, clients, runs⟩ := every_request_waits {}
    ["--list-entities", "--timeout", "nan", "--timeout= 2.5e-3 "] userService .recording
  refine ⟨by decide +kernel, fun r sent => ?_, fun history r sent => ?_⟩
  · obtain ⟨ts, read, -, positive⟩ := runs r sent
    obtain rfl : [.bare .listEntities, .bare .timeout, .plain "nan", .equals .timeout " 2.5e-3 "] =
        ts := Except.ok.inj read
    have finite : (Reading.number " 2.5e-3 ").toOption.any Binary64.isFinite = true := by
      decide +kernel
    rw [positive]
    rintro _ ⟨⟩ notANumber
    obtain ⟨mark, isNan : Reading.number " 2.5e-3 " = .ok (.nan mark)⟩ :=
      Reading.number_eq_nan_iff.2 notANumber
    rw [isNan] at finite
    cases finite
  · have accepted : Config.ofSettings {} = .ok Session.localClient.config :=
      Config.ofSettings_eq_ok_iff.2 ⟨rfl, rfl, rfl, rfl, rfl⟩
    exact (clients _ r accepted (.inl ⟨history, sent⟩)).2.2 fun mark => nofun

/-- A client whose requests are to wait for not-a-number. -/
def timelessClient : Client :=
  ⟨⟨.http, .text "localhost", .int 7070, .text "/cosyan", .float (.nan 0), rfl⟩, false⟩

/-- Not every request waits for more than zero seconds: not-a-number is accepted, and sent. -/
theorem exists_wait_not_positive : ¬ ∀ (s : Settings) (c : Client),
    (Client.connect s).outcome = .ok c → ∀ history, ∀ r ∈ c.sent history, r.timeout.IsPositive := by
  intro h
  have short : (Value.int 7070).isWritable = true := by
    rw [Value.isWritable_int]
    decide +kernel
  have accepted : Config.ofSettings { timeout := .float (.nan 0) } = .ok timelessClient.config :=
    Config.ofSettings_eq_ok_iff.2 ⟨rfl, rfl, rfl, rfl, rfl⟩
  have sent : timelessClient.sent [(.catalog, Session.userCatalog)] =
      [⟨"http://localhost:7070/cosyan/entityMeta", .float (.nan 0)⟩] := by decide +kernel
  have made : (Client.connect { timeout := .float (.nan 0) }).outcome = .ok timelessClient :=
    Client.connect_eq_ok_iff.2 ⟨rfl, short, accepted, rfl⟩
  obtain ⟨x, number, -⟩ := h _ _ made _ _ (sent ▸ List.mem_singleton_self _)
  cases number

end CommandLine
end EntityQuery
