import EntityQuery.Proofs.Interruption
import EntityQuery.Proofs.Outcome
import EntityQuery.Service.Exchange

/-!
# Exchanges in a row

The outcome of exchanges that follow one another is that of their outcomes in a row
(`outcome_bind`), whatever is sent and told on the way. The requests of the second follow those of
the first if that succeeds (`requests_bind_of_ok`), and are not sent if it fails
(`requests_bind_of_error`).

Under a log that may refuse records an exchange does what it does without one, up to the first record
that is refused (`under_bind`, `under_tell`). So it is the same exchange if the log takes all its records
(`under_of_taken`), and else fails with the error of the first that it does not (`under_of_refused`).
-/

namespace EntityQuery
namespace Service

open Interruption
open Logging (Log Record)

namespace Exchange

variable {α β : Type}

/-- An outcome alone is an exchange with that outcome. -/
@[simp] theorem outcome_ofExcept (r : Except Error α) : (ofExcept r).outcome = r := rfl

/-- A failure comes to its error. -/
@[simp] theorem outcome_fail (e : Error) : (fail e : Exchange α).outcome = .error e := rfl

/-- The log that takes every record takes one. -/
@[simp] theorem outcome_tell_quiet (r : Record) : (tell .quiet r).outcome = .ok () := rfl

/-- Sending does not fail by itself. -/
@[simp] theorem outcome_send (endpoint : Endpoint) (r : Request) :
    (send endpoint r).outcome = .ok () := rfl

/-- An answer alone comes to that answer. -/
@[simp] theorem outcome_pure (a : α) : (pure a : Exchange α).outcome = .ok a := rfl

/-- Two exchanges in a row come to what their outcomes come to in a row. -/
@[simp] theorem outcome_bind (x : Exchange α) (f : α → Exchange β) :
    (x >>= f).outcome = x.outcome >>= fun a => (f a).outcome := by
  show (Exchange.bind x f).outcome = _
  unfold Exchange.bind
  cases x.outcome <;> rfl

/-- What is made of an answer is made of the outcome. -/
@[simp] theorem outcome_map (f : α → β) (x : Exchange α) : (f <$> x).outcome = f <$> x.outcome := by
  show (Exchange.bind x fun a => pure (f a)).outcome = _
  unfold Exchange.bind
  cases x.outcome <;> rfl

/-! ### Acts and requests -/

/-- What follows a success adds its acts. -/
theorem acts_bind_of_ok {x : Exchange α} {f : α → Exchange β} {a : α} (h : x.outcome = .ok a) :
    (x >>= f).acts = x.acts ++ (f a).acts := by
  show (Exchange.bind x f).acts = _
  unfold Exchange.bind
  rw [h]

/-- What would follow a failure adds nothing. -/
theorem acts_bind_of_error {x : Exchange α} {f : α → Exchange β} {e : Error}
    (h : x.outcome = .error e) : (x >>= f).acts = x.acts := by
  show (Exchange.bind x f).acts = _
  unfold Exchange.bind
  rw [h]

/-- What does nothing itself adds no act. -/
theorem acts_bind_of_still (x : Exchange α) {f : α → Exchange β}
    (still : ∀ a, (f a).acts = []) : (x >>= f).acts = x.acts := by
  cases h : x.outcome with
  | error e => exact acts_bind_of_error h
  | ok a => rw [acts_bind_of_ok h, still, List.append_nil]

/-- What only looks at the outcome of an exchange does nothing more. -/
@[simp] theorem acts_bind_ofExcept (x : Exchange α) (f : α → Except Error β) :
    (x >>= fun a => ofExcept (f a)).acts = x.acts :=
  acts_bind_of_still x fun _ => rfl

/-- What is made of an answer does nothing more. -/
@[simp] theorem acts_map (f : α → β) (x : Exchange α) : (f <$> x).acts = x.acts :=
  acts_bind_of_still x fun _ => rfl

/-- Requests are sent in the order of the exchanges. -/
theorem requests_bind_of_ok {x : Exchange α} {f : α → Exchange β} {a : α} (h : x.outcome = .ok a) :
    (x >>= f).requests = x.requests ++ (f a).requests := by
  rw [requests, acts_bind_of_ok h, List.filterMap_append]
  rfl

/-- What would follow a failure sends nothing. -/
theorem requests_bind_of_error {x : Exchange α} {f : α → Exchange β} {e : Error}
    (h : x.outcome = .error e) : (x >>= f).requests = x.requests := by
  rw [requests, acts_bind_of_error h]
  rfl

/-- What sends nothing itself adds no request. -/
theorem requests_bind_of_silent (x : Exchange α) {f : α → Exchange β}
    (silent : ∀ a, (f a).requests = []) : (x >>= f).requests = x.requests := by
  cases h : x.outcome with
  | error e => exact requests_bind_of_error h
  | ok a => rw [requests_bind_of_ok h, silent, List.append_nil]

/-- What only looks at the outcome of an exchange sends nothing more. -/
@[simp] theorem requests_bind_ofExcept (x : Exchange α) (f : α → Except Error β) :
    (x >>= fun a => ofExcept (f a)).requests = x.requests :=
  requests_bind_of_silent x fun _ => rfl

/-- What is made of an answer sends nothing more. -/
@[simp] theorem requests_map (f : α → β) (x : Exchange α) : (f <$> x).requests = x.requests :=
  requests_bind_of_silent x fun _ => rfl

/-- Records send nothing. -/
@[simp] theorem filterMap_request?_told (records : List Record) :
    (records.map Act.told).filterMap Act.request? = [] := by
  rw [List.filterMap_map]
  exact List.filterMap_none _

/-! ### Under a log -/

variable {log : Log} {x : Exchange α}

/-- An outcome alone tells nothing that could be refused. -/
@[simp] theorem under_ofExcept (r : Except Error α) : (ofExcept r).under log = ofExcept r := rfl

/-- Nor does a request. -/
@[simp] theorem under_send (endpoint : Endpoint) (r : Request) :
    (send endpoint r).under log = send endpoint r := rfl

/-- **Telling a record to a log** is telling it, as far as the log takes it. -/
theorem under_tell (r : Record) : (tell .quiet r).under log = tell log r := by
  show Exchange.under log ⟨.ok (), [.told r]⟩ = _
  unfold under tell Interruption.outcome cause? passed
  cases h : log.refuses r with
  | none => simp [Act.refusal?, Act.record?, h]
  | some e => simp [Act.refusal?, Act.record?, h, fail, ofExcept]

/-- **Exchanges in a row under a log** are the exchanges under the log in a row. -/
theorem under_bind (x : Exchange α) (f : α → Exchange β) :
    (x >>= f).under log = x.under log >>= fun a => (f a).under log := by
  show Exchange.under log (Exchange.bind x f) = Exchange.bind (x.under log) _
  obtain ⟨outcome, acts⟩ := x
  cases outcome with
  | error e =>
    cases cause : cause? (Act.refusal? log) acts <;>
      simp [Exchange.bind, under, Interruption.outcome, cause]
  | ok a =>
    cases cause : cause? (Act.refusal? log) acts <;>
      simp [Exchange.bind, under, Interruption.outcome, passed_append, cause?_append, cause]

/-- What is made of an answer is made of it under a log. -/
@[simp] theorem under_map (f : α → β) (x : Exchange α) : (f <$> x).under log = f <$> x.under log :=
  under_bind x fun a => pure (f a)

/-- A log that takes all records of an exchange changes nothing. -/
theorem under_of_taken (h : cause? (Act.refusal? log) x.acts = none) : x.under log = x := by
  rw [under, outcome_of_cause?_eq_none h, passed_of_cause?_eq_none h]

/-- A log that refuses a record ends the exchange with the first error. -/
theorem under_of_refused {e : Error} (h : cause? (Act.refusal? log) x.acts = some e) :
    x.under log = ⟨.error e, passed (Act.refusal? log) x.acts⟩ := by
  rw [under, outcome_of_cause?_eq_some h]

/-- The log that takes everything changes nothing. -/
@[simp] theorem under_quiet (x : Exchange α) : x.under .quiet = x :=
  under_of_taken (cause?_eq_none (by rintro (_ | _) <;> rfl) _)

/-- A log interrupts no acts exactly if it takes all their records. -/
theorem cause?_acts_eq_none_iff {acts : List Act} : cause? (Act.refusal? log) acts = none ↔
    ∀ r ∈ acts.filterMap Act.record?, log.refuses r = none := by
  simp only [cause?_eq_none_iff, Act.refusal?, Option.bind_eq_none_iff, List.mem_filterMap]
  constructor
  · rintro h r ⟨act, mem, told⟩
    exact h act mem r told
  · intro h act mem r told
    exact h r ⟨act, mem, told⟩

/-- **An exchange succeeds under a log** exactly if it succeeds without one and the log takes all its
records. -/
theorem exists_under_iff : (∃ a, (x.under log).outcome = .ok a) ↔
    (∃ a, x.outcome = .ok a) ∧ ∀ r ∈ x.records, log.refuses r = none := by
  rw [records, ← cause?_acts_eq_none_iff]
  cases cause : cause? (Act.refusal? log) x.acts with
  | none => simp [under_of_taken cause]
  | some e => simp [under_of_refused cause]

/-- A record is refused for its markup. -/
theorem kind_of_cause? {acts : List Act} {e : Error} (h : cause? (Act.refusal? log) acts = some e) :
    e.kind = .markup := by
  obtain ⟨act, -, refused⟩ := List.exists_of_findSome?_eq_some h
  obtain ⟨r, -, refused⟩ := Option.bind_eq_some_iff.1 refused
  exact log.kind_of_refuses refused

end Exchange

end Service
end EntityQuery
