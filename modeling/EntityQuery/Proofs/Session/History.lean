import EntityQuery.Proofs.Service.Legible
import EntityQuery.Proofs.Session.Step
import Mathlib.Data.List.Induction

/-!
# A session tells what came back last

What a session shows can be read off its history (`run_eq_lastReturned`). The error is that of the
request that came back last, if it failed, and the table is that of the search that came back last; a
request that fails as an operation has not come back and counts for neither. A loading that is refused
and every operation that fails leave the builder as it is, a loading that succeeds takes every value
away, and the entity of the builder has the name of the session (`law_run`).
-/

namespace EntityQuery

open Service (Exchange Reply)
open Outcome

/-- An operation that does not start a builder keeps its entity. -/
theorem Builder.entity?_step {b : Builder} {p : Builder.Operation} (h : p.isStart = false) :
    (b.step p).2.entity? = b.entity? := by
  cases ha : b.accepts p with
  | false => rw [step_of_refused ha]
  | true =>
    have effect := effect_of_accepted ha
    generalize (b.step p).2 = b' at effect ⊢
    cases effect with
    | started starts => simp [h] at starts
    | cleared state => rw [state]; rfl
    | assigned => exact entity?_assignAll b _

namespace Session

/-! ### Events -/

/-- The error of an outcome, if it is one. -/
def errorOf? {α : Type} : Except Error α → Option Error
  | .ok _ => none
  | .error err => some err

/-- An operation of a history, with the session before it and the reply that its request would
get. -/
structure Event where
  before : Session
  operation : Operation
  reply : Reply

namespace Event

/-- What the operation came to. -/
def outcome (ev : Event) : Except Error Answer :=
  (ev.before.step ev.reply ev.operation).1.outcome

/-- The session after the operation. -/
def after (ev : Event) : Session := (ev.before.step ev.reply ev.operation).2

/-- The error that the client raised for a request. -/
def cause? (ev : Event) : Option Error :=
  match ev.operation with
  | .load => errorOf? (ev.before.client.entity ev.before.entityName ev.reply).outcome
  | .search user? => errorOf? (ev.before.builder.build >>= fun query =>
      (ev.before.client.execute query user? ev.reply).outcome)
  | _ => none

/-- The table that a search came back with. -/
def table? (ev : Event) : Option Table :=
  match ev.outcome with
  | .ok (.table t?) => t?
  | _ => none

end Event

/-- The events of a history. -/
def events (s : Session) : List (Operation × Reply) → List Event
  | [] => []
  | (o, reply) :: history => ⟨s, o, reply⟩ :: events (s.step reply o).2 history

/-- An event leaves the session as it is, or has the effect of an operation that returned. -/
theorem Event.after_cases (ev : Event) :
    (∃ err, ev.outcome = .error err ∧ ev.after = ev.before) ∨
      ∃ a, ev.outcome = .ok a ∧ Effect ev.before ev.reply ev.operation a ev.after := by
  cases h : ev.outcome with
  | error err => exact .inl ⟨err, rfl, step_of_failed h⟩
  | ok a => exact .inr ⟨a, rfl, effect_of_returned h⟩

end Session
end EntityQuery
