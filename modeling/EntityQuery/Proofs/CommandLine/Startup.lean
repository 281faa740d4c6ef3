import EntityQuery.CommandLine.Run
import EntityQuery.Proofs.CommandLine.Arguments
import EntityQuery.Proofs.Service.Address

/-!
# What a run starts with

Of the arguments that a command line can give, the log takes every level but the empty list
(`Arguments.IsTyped.isOk_setup_iff`), and a client is made of all settings whose seconds are more than
zero (`Arguments.IsTyped.connect_cases`). Only then it shows in the address whether the path was one:
there is an address unless the path is the empty list (`Arguments.IsTyped.isOk_baseUrl_iff`).
-/

namespace EntityQuery

open Outcome

namespace Service

/-- There is an address if the host and the port can be written and the path is one. -/
theorem Config.isOk_baseUrl {c : Config} (host : c.host.isWritable = true)
    (port : c.port.isWritable = true) : c.baseUrl.isOk = (pathOf c.basePath).isOk := by
  obtain ⟨hostText, hhost⟩ := exists_shown_iff.2 host
  obtain ⟨portText, hport⟩ := exists_shown_iff.2 port
  rw [Config.baseUrl, hhost, hport]
  cases pathOf c.basePath <;> rfl

end Service

namespace CommandLine

open Service (Config Seconds)

namespace Arguments

variable {a : Arguments}

/-- Whether requests wait for a number of seconds that is more than zero. -/
def waits (a : Arguments) : Bool :=
  (Seconds.ofValue? a.settings.timeout).any fun seconds => !seconds.atMostZero

/-- **The log is set up** unless the level is the empty list. -/
theorem IsTyped.isOk_setup_iff (h : a.IsTyped) :
    (Logging.Logger.initial.setup a.setup).1.isOk = true ↔ a.logLevel ≠ .list [] := by
  obtain empty | ⟨level, mem, text⟩ := h.logLevel
  · have refused : (Logging.Logger.initial.setup a.setup).1.isOk = false := by
      rw [Arguments.setup, empty]
      rfl
    simp [refused, empty]
  · have taken : (Logging.Logger.initial.setup a.setup).1.isOk = true := by
      rw [Arguments.setup, text]
      have each : ∀ level ∈ logLevels, (Logging.Logger.initial.setup
          { level := .text level, pretty := true }).1.isOk = true := by
        decide +kernel
      exact each level mem
    simp [taken, text]

/-- **A client is made** exactly if requests wait; it is open and keeps the host, the port and the
path. -/
theorem IsTyped.connect_cases (h : a.IsTyped) :
    (a.waits = true ∧ ∃ c, (Client.connect a.settings).outcome = .ok c ∧ c.isClosed = false ∧
      c.config.host = a.settings.host ∧ c.config.port = a.settings.port ∧
      c.config.basePath = a.settings.basePath) ∨
    (a.waits = false ∧ ∃ e, (Client.connect a.settings).outcome = .error e) := by
  obtain ⟨host, hhost⟩ := Service.exists_shown_iff.2 h.host
  obtain ⟨port, hport⟩ := Service.exists_shown_iff.2 h.port
  have connected : (Client.connect a.settings).outcome =
      (fun config => ⟨config, false⟩) <$> Config.ofSettings a.settings := by
    simp only [Client.connect, Service.Exchange.outcome_bind, Service.Exchange.outcome_ofExcept,
      hhost, hport]
    cases Config.ofSettings a.settings <;> rfl
  have scheme : Service.schemeOf a.settings.scheme = .ok .http := by
    rw [h.scheme]
    rfl
  rw [connected, waits, Config.ofSettings, scheme, Service.secondsOf]
  cases Seconds.ofValue? a.settings.timeout with
  | none => exact .inr ⟨rfl, _, rfl⟩
  | some seconds =>
    by_cases positive : seconds.atMostZero = false
    · refine .inl ⟨by simp [positive], ?_⟩
      simp [bind, Except.bind, Functor.map, Except.map, positive]
    · refine .inr ⟨by simpa using positive, ?_⟩
      simp [bind, Except.bind, Functor.map, Except.map, positive]

/-- **A client has an address** unless the path is the empty list. -/
theorem IsTyped.isOk_baseUrl_iff (h : a.IsTyped) {c : Config} (host : c.host = a.settings.host)
    (port : c.port = a.settings.port) (basePath : c.basePath = a.settings.basePath) :
    c.baseUrl.isOk = true ↔ a.settings.basePath ≠ .list [] := by
  rw [Config.isOk_baseUrl (host ▸ h.host) (port ▸ h.port), basePath]
  obtain empty | ⟨path, text⟩ := h.basePath
  · simp [empty, Service.pathOf, Value.text?, Except.isOk, Except.toBool]
  · simp [text, Service.pathOf, Value.text?, Except.isOk, Except.toBool]

end Arguments
end CommandLine
end EntityQuery
