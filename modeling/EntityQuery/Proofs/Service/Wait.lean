import EntityQuery.Proofs.Service.Requests
import Mathlib.Data.EReal.Basic

/-!
# How long requests wait

Seconds are an extended real number, unless they are not-a-number (`Seconds.amount?`). Settings are
accepted if that number is above zero, or if there is none: not-a-number is not below zero either
(`Config.exists_ofSettings_iff`). Every request of a client waits for the seconds of its configuration
(`Client.timeout_of_mem_sent`), so it waits for a time above zero exactly if the settings held a number
(`Config.isPositive_timeout_iff`).
-/

namespace EntityQuery

open Outcome

/-- The number that a floating point number is, none for not-a-number. -/
noncomputable def Binary64.amount? : Binary64 → Option EReal
  | nan _ => none
  | infinite negative => some (if negative then ⊥ else ⊤)
  | finite negative m q _ => some (((if negative then -1 else 1) * (m * 2 ^ q) : ℝ) : EReal)

/-- **What counts as at most zero** is a number that is. -/
theorem Binary64.atMostZero_iff {x : Binary64} : x.atMostZero = true ↔ ∃ r ∈ x.amount?, r ≤ 0 := by
  cases x with
  | nan => simp [atMostZero, amount?]
  | infinite negative => cases negative <;> simp [atMostZero, amount?]
  | finite negative m q =>
    have power : (0 : ℝ) < 2 ^ q := zpow_pos two_pos q
    have low : (0 : ℝ) ≤ m * 2 ^ q := mul_nonneg m.cast_nonneg power.le
    have zero : (m : ℝ) * 2 ^ q ≤ 0 ↔ m = 0 := by
      rw [← not_lt, mul_pos_iff_of_pos_right power, not_lt, Nat.cast_nonpos]
    simp only [atMostZero, amount?, Option.mem_some_iff, exists_eq_left', EReal.coe_nonpos]
    cases negative with
    | true => simpa using low
    | false => simpa using zero.symm

namespace Service

namespace Seconds

/-! ### Seconds -/

/-- The number of seconds, none for not-a-number. -/
noncomputable def amount? : Seconds → Option EReal
  | whole n => some ((n : ℝ) : EReal)
  | float x => x.amount?
  | truth b => some (if b then 1 else 0)

/-- Whether the seconds are a number above zero. -/
def IsPositive (s : Seconds) : Prop := ∃ r ∈ s.amount?, 0 < r

variable {s : Seconds}

/-- Seconds are at most zero exactly if they amount to that. -/
theorem atMostZero_iff : s.atMostZero = true ↔ ∃ r ∈ s.amount?, r ≤ 0 := by
  cases s with
  | whole n => simp [atMostZero, amount?, EReal.coe_nonpos]
  | float x => exact Binary64.atMostZero_iff
  | truth b => cases b <;> simp [atMostZero, amount?]

/-- Seconds that amount to nothing are not at most zero. -/
theorem atMostZero_eq_false_iff : s.atMostZero = false ↔ ∀ r ∈ s.amount?, 0 < r := by
  rw [← Bool.not_eq_true, atMostZero_iff]
  push Not
  rfl

/-- Seconds amount to nothing exactly if they are not a number. -/
theorem amount?_eq_none_iff : s.amount? = none ↔ ∃ mark, s = float (.nan mark) := by
  cases s with
  | float x => cases x <;> simp [amount?, Binary64.amount?]
  | _ => simp [amount?]

/-- **Seconds that do not count as at most zero** are above zero or not-a-number. -/
theorem isPositive_iff :
    s.IsPositive ↔ s.atMostZero = false ∧ ∀ mark, s ≠ float (.nan mark) := by
  have number : (∀ mark, s ≠ float (.nan mark)) ↔ s.amount? ≠ none := by
    rw [Ne, amount?_eq_none_iff, not_exists]
  rw [number, atMostZero_eq_false_iff, IsPositive]
  cases s.amount? <;> simp

/-- Seconds have the value that they are read from. -/
theorem value_of_ofValue? {v : Value} (h : ofValue? v = some s) : s.value = v := by
  cases v with
  | int | float | bool => exact Option.some.inj h ▸ rfl
  | _ => cases h

end Seconds

/-! ### Settings -/

/-- A scheme is found by its name alone. -/
theorem Scheme.ofName?_eq_some_iff {name : String} {scheme : Scheme} :
    ofName? name = some scheme ↔ name = scheme.name := by
  constructor
  · intro h
    unfold ofName? at h
    split at h
    · next http => exact Option.some.inj h ▸ http
    · split at h
      · next https => exact Option.some.inj h ▸ https
      · cases h
  · rintro rfl
    cases scheme <;> decide

/-- A scheme is read from the text that is its name. -/
theorem schemeOf_eq_ok_iff {v : Value} {scheme : Scheme} :
    schemeOf v = .ok scheme ↔ v.text? = some scheme.name := by
  have named : v.text?.bind Scheme.ofName? = some scheme ↔ v.text? = some scheme.name := by
    simp [Option.bind_eq_some_iff, Scheme.ofName?_eq_some_iff]
  rw [← named, schemeOf]
  cases v.text?.bind Scheme.ofName? <;> simp

/-- Seconds are read from their value. -/
theorem secondsOf_eq_ok_iff {v : Value} {s : Seconds} : secondsOf v = .ok s ↔ v = s.value := by
  constructor
  · intro h
    unfold secondsOf at h
    split at h
    · next found => exact Except.ok.inj h ▸ (Seconds.value_of_ofValue? found).symm
    · cases h
  · rintro rfl
    rw [secondsOf, Seconds.ofValue?_value]

namespace Config

variable {s : Settings} {c : Config}

/-- What accepted settings are taken for. -/
theorem ofSettings_eq_ok_iff : ofSettings s = .ok c ↔
    s.scheme.text? = some c.scheme.name ∧ s.timeout = c.timeout.value ∧
      c.host = s.host ∧ c.port = s.port ∧ c.basePath = s.basePath := by
  rw [← schemeOf_eq_ok_iff, ← secondsOf_eq_ok_iff]
  constructor
  · intro h
    obtain ⟨scheme, hs, h⟩ := bind_eq_ok.1 h
    obtain ⟨seconds, ht, h⟩ := bind_eq_ok.1 h
    split at h
    · obtain rfl := Except.ok.inj h
      exact ⟨hs, ht, rfl, rfl, rfl⟩
    · cases h
  · rintro ⟨hs, ht, host, port, path⟩
    obtain ⟨scheme, host', port', path', timeout, accepted⟩ := c
    obtain rfl : host' = s.host := host
    obtain rfl : port' = s.port := port
    obtain rfl : path' = s.basePath := path
    rw [ofSettings, hs, ht]
    exact dif_pos accepted

/-- **Settings are accepted** exactly if the scheme is known and the seconds are above zero, if they are
a number. -/
theorem exists_ofSettings_iff : (∃ c, ofSettings s = .ok c) ↔
    (∃ scheme : Scheme, s.scheme.text? = some scheme.name) ∧
      ∃ t : Seconds, s.timeout = t.value ∧ ∀ r ∈ t.amount?, 0 < r := by
  constructor
  · rintro ⟨c, h⟩
    obtain ⟨scheme, timeout, -⟩ := ofSettings_eq_ok_iff.1 h
    exact ⟨⟨_, scheme⟩, _, timeout, Seconds.atMostZero_eq_false_iff.1 c.accepted⟩
  · rintro ⟨⟨scheme, named⟩, t, timeout, above⟩
    exact ⟨⟨scheme, s.host, s.port, s.basePath, t, Seconds.atMostZero_eq_false_iff.2 above⟩,
      ofSettings_eq_ok_iff.2 ⟨named, timeout, rfl, rfl, rfl⟩⟩

/-- **The seconds of accepted settings are above zero** exactly if they are a number. -/
theorem isPositive_timeout_iff (h : ofSettings s = .ok c) :
    c.timeout.IsPositive ↔ ∀ mark, s.timeout ≠ .float (.nan mark) := by
  obtain ⟨-, timeout, -⟩ := ofSettings_eq_ok_iff.1 h
  rw [Seconds.isPositive_iff, and_iff_right c.accepted, timeout]
  cases c.timeout <;> simp [Seconds.value]

end Config
end Service

/-! ### Requests -/

namespace Client

open Service (Config Endpoint Exchange Reply Request Settings)

variable {c : Client} {r : Request} {reply : Reply}

/-- **A client is made** exactly if the settings are accepted and the host and the port can be written;
it is open. -/
theorem connect_eq_ok_iff {s : Settings} : (connect s).outcome = .ok c ↔
    s.host.isWritable = true ∧ s.port.isWritable = true ∧ Config.ofSettings s = .ok c.config ∧
      c.isClosed = false := by
  simp only [connect, Exchange.outcome_bind, Exchange.outcome_ofExcept, Exchange.outcome_tell_quiet,
    Exchange.outcome_pure, bind_eq_ok, ← Service.exists_shown_iff]
  obtain ⟨config, isClosed⟩ := c
  constructor
  · rintro ⟨host, hhost, port, hport, _, -, config', accepted, made⟩
    obtain ⟨rfl, rfl⟩ := Client.mk.inj (Except.ok.inj made)
    exact ⟨⟨host, hhost⟩, ⟨port, hport⟩, accepted, rfl⟩
  · rintro ⟨⟨host, hhost⟩, ⟨port, hport⟩, accepted, rfl⟩
    exact ⟨host, hhost, port, hport, (), trivial, config, accepted, rfl⟩

/-- A client sends with its seconds. -/
theorem timeout_of_mem_fetch {endpoint : Endpoint} {parameters : List (String × String)}
    (h : r ∈ (c.fetch endpoint parameters reply).requests) : r.timeout = c.config.timeout := by
  cases closed : c.isClosed with
  | true =>
    rw [fetch_of_closed closed] at h
    cases h
  | false =>
    cases address : c.config.baseUrl with
    | error e =>
      have failed : (Exchange.ofExcept c.config.baseUrl).outcome = .error e := address
      rw [fetch, closed, if_neg Bool.false_ne_true, Exchange.requests_bind_of_error failed] at h
      cases h
    | ok base =>
      rw [requests_fetch closed address, List.mem_singleton] at h
      exact h ▸ rfl

/-- A request of an operation waits for the seconds of the client. -/
theorem timeout_of_mem_step {o : Operation} (h : r ∈ (c.step reply o).1.requests) :
    r.timeout = c.config.timeout := by
  have catalog : r ∈ (c.catalog reply).requests → r.timeout = c.config.timeout := by
    rw [Client.catalog, Exchange.requests_bind_ofExcept]
    exact timeout_of_mem_fetch
  cases o with
  | catalog =>
    rw [step, Exchange.requests_map] at h
    exact catalog h
  | entityNames =>
    rw [step, Exchange.requests_map, requests_entityNames] at h
    exact catalog h
  | entity name =>
    rw [step, Exchange.requests_map, requests_entity] at h
    exact catalog h
  | execute query user? =>
    rw [step, Exchange.requests_map, execute, Exchange.requests_bind_ofExcept] at h
    exact timeout_of_mem_fetch h
  | baseUrl | close | within => cases h

/-- **Every request of a history waits for the seconds of the client.** -/
theorem timeout_of_mem_sent {history : List (Operation × Reply)} (h : r ∈ c.sent history) :
    r.timeout = c.config.timeout := by
  induction history generalizing c with
  | nil => cases h
  | cons head history ih =>
    obtain ⟨o, reply⟩ := head
    obtain now | later := List.mem_append.1 h
    · exact timeout_of_mem_step now
    · rw [ih later, step_snd]

end Client
end EntityQuery
