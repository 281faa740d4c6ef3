import EntityQuery.Proofs.Service.Legible
import EntityQuery.Proofs.Service.Log
import EntityQuery.Proofs.Session.Step

/-!
# Sessions under a log

An operation of a session under a log that may refuse records does what it does under one that takes
everything, up to the first record that is refused (`step_under`). If none is refused the session after it
is the same. Otherwise the session stays as it was, unless it is the record of the new builder that is
refused: then the builder has been replaced before (`step_snd_cases`). So after every history under any
logs the builder of a session is a builder with a history of its own (`exists_builder_runLogged`).
-/

namespace EntityQuery
namespace Session

open Interruption
open Logging (Log)
open Outcome
open Service (Act Exchange Reply)

variable {s : Session} {reply : Reply} {log : Log}

/-! ### Behind an exchange -/

/-- What goes on behind acts that are interrupted does not count. -/
theorem under_of_refused_front {α : Type} {acts rest : List Act} {r : Except Error α} {e : Error}
    (h : cause? (Act.refusal? log) acts = some e) :
    Exchange.under log ⟨r, acts ++ rest⟩ = ⟨.error e, passed (Act.refusal? log) acts⟩ := by
  rw [Exchange.under, outcome_append, outcome_of_cause?_eq_some h, passed_append, h]
  exact congrArg (Exchange.mk _) (List.append_nil _)

/-- **A conclusion under a log** that has taken everything so far. -/
theorem conclude_under {α β : Type} {x : Exchange α} {r : Logging.Record} {answer : β}
    {after before : Session} (taken : cause? (Act.refusal? log) x.acts = none) :
    (conclude x log r answer after before).1 =
      Exchange.under log ⟨.ok answer, x.acts ++ [.told r]⟩ := by
  rw [Exchange.under, outcome_append, outcome_of_cause?_eq_none taken, passed_append, taken,
    passed_of_cause?_eq_none taken]
  unfold conclude Exchange.tell Interruption.outcome cause? passed
  cases h : log.refuses r with
  | none => simp [Act.refusal?, Act.record?, h, Functor.map, Except.map]
  | some e =>
    simp [Act.refusal?, Act.record?, h, Functor.map, Except.map, Exchange.fail, Exchange.ofExcept]

/-- A record that is refused is no failure to load. -/
theorem isLoadFailure_of_cause? {acts : List Act} {e : Error}
    (h : cause? (Act.refusal? log) acts = some e) : isLoadFailure e = false := by
  rw [isLoadFailure, Exchange.kind_of_cause? h]
  rfl

/-- A record that is refused is no failure to search. -/
theorem isSearchFailure_of_cause? {acts : List Act} {e : Error}
    (h : cause? (Act.refusal? log) acts = some e) : isSearchFailure e = false := by
  rw [isSearchFailure, Exchange.kind_of_cause? h]
  rfl

/-- A conclusion whose record is taken is the one without a log. -/
theorem conclude_of_taken {α β : Type} {x : Exchange α} {r : Logging.Record} {answer : β}
    {after before : Session} (h : cause? (Act.refusal? log) (x.acts ++ [.told r]) = none) :
    conclude x log r answer after before = conclude x .quiet r answer after before := by
  rw [cause?_append, Option.or_eq_none_iff] at h
  have taken : log.refuses r = none := by simpa [cause?, Act.refusal?, Act.record?] using h.2
  have told : Exchange.tell log r = Exchange.tell .quiet r := by
    rw [Exchange.tell, taken]
    rfl
  rw [conclude, conclude, told]

/-- What is made of an exchange under a log: its acts are left as they are, or a record is told behind
them. -/
inductive Finishes {α β : Type} (x : Exchange α) (f : Log → Exchange β × Session) : Prop
  | left {r : Except Error β} {s : Session} (same : ∀ log, f log = (⟨r, x.acts⟩, s))
  | concluded {r : Logging.Record} {answer : β} {after before : Session}
      (told : ∀ log, f log = conclude x log r answer after before)

namespace Finishes

variable {α β : Type} {x : Exchange α} {f : Log → Exchange β × Session}

/-- **Behind an exchange whose records are taken** the log may refuse the one that is told. -/
theorem under_of_taken (h : Finishes x f) (taken : cause? (Act.refusal? log) x.acts = none) :
    (f log).1 = (f .quiet).1.under log := by
  cases h with
  | @left r s same =>
    rw [same, same]
    exact (Exchange.under_of_taken (x := ⟨r, x.acts⟩) taken).symm
  | concluded told => rw [told, told, conclude_quiet, conclude_under taken]

/-- **Behind an exchange with a record that is refused** nothing happens. -/
theorem under_of_refused {e : Error} (h : Finishes x f)
    (refused : cause? (Act.refusal? log) x.acts = some e) :
    (f .quiet).1.under log = ⟨.error e, passed (Act.refusal? log) x.acts⟩ := by
  cases h with
  | left same =>
    rw [same]
    exact Exchange.under_of_refused refused
  | concluded told => rw [told, conclude_quiet, under_of_refused_front refused]

/-- If all records are taken, so are those of the exchange. -/
theorem front_of_taken (h : Finishes x f)
    (taken : cause? (Act.refusal? log) (f .quiet).1.acts = none) :
    cause? (Act.refusal? log) x.acts = none := by
  cases h with
  | left same => rwa [same] at taken
  | concluded told =>
    rw [told, conclude_quiet, cause?_append, Option.or_eq_none_iff] at taken
    exact taken.1

/-- A log that takes all records changes nothing. -/
theorem eq_of_taken (h : Finishes x f)
    (taken : cause? (Act.refusal? log) (f .quiet).1.acts = none) : f log = f .quiet := by
  cases h with
  | left same => rw [same, same]
  | concluded told =>
    rw [told, conclude_quiet] at taken
    rw [told, told, conclude_of_taken taken]

end Finishes

/-- A loading tells at most one record behind the exchange that asks for the entity. -/
theorem finishes_finishLoad (s : Session) (x : Exchange Entity) : Finishes x (s.finishLoad x) := by
  cases outcome : x.outcome with
  | ok e =>
    cases started : s.builder.start e with
    | ok b =>
      apply Finishes.concluded
      intro log
      simp only [finishLoad, outcome, started]
      rfl
    | error err =>
      apply Finishes.left
      intro log
      simp only [finishLoad, outcome, started]
      rfl
  | error err =>
    cases kept : isLoadFailure err with
    | true =>
      apply Finishes.concluded
      intro log
      simp only [finishLoad, outcome, kept, if_true]
      rfl
    | false =>
      apply Finishes.left
      intro log
      simp only [finishLoad, outcome, kept, Bool.false_eq_true, if_false]
      rfl

/-- A search tells at most one record behind the exchange that runs its query. -/
theorem finishes_finishSearch (s : Session) (query : String) (x : Exchange Table) :
    Finishes x (s.finishSearch query x) := by
  cases outcome : x.outcome with
  | ok t =>
    apply Finishes.left
    intro log
    simp only [finishSearch, outcome]
    rfl
  | error err =>
    cases kept : isSearchFailure err with
    | true =>
      apply Finishes.concluded
      intro log
      simp only [finishSearch, outcome, kept, if_true]
      rfl
    | false =>
      apply Finishes.left
      intro log
      simp only [finishSearch, outcome, kept, Bool.false_eq_true, if_false]
      rfl

/-- What a loading makes of an exchange under a log. -/
theorem finishLoad_under (s : Session) (x : Exchange Entity) (log : Log) :
    (s.finishLoad (x.under log) log).1 = (s.finishLoad x .quiet).1.under log := by
  cases cause : cause? (Act.refusal? log) x.acts with
  | none =>
    rw [Exchange.under_of_taken cause]
    exact (finishes_finishLoad s x).under_of_taken cause
  | some e =>
    rw [Exchange.under_of_refused cause, (finishes_finishLoad s x).under_of_refused cause]
    simp [finishLoad, isLoadFailure_of_cause? cause]

/-- What a search makes of an exchange under a log. -/
theorem finishSearch_under (s : Session) (query : String) (x : Exchange Table) (log : Log) :
    (s.finishSearch query (x.under log) log).1 = (s.finishSearch query x .quiet).1.under log := by
  cases cause : cause? (Act.refusal? log) x.acts with
  | none =>
    rw [Exchange.under_of_taken cause]
    exact (finishes_finishSearch s query x).under_of_taken cause
  | some e =>
    rw [Exchange.under_of_refused cause, (finishes_finishSearch s query x).under_of_refused cause]
    simp [finishSearch, isSearchFailure_of_cause? cause]

/-! ### One operation -/

/-- **A loading under a log.** -/
theorem load_under (s : Session) (reply : Reply) (log : Log) :
    (s.load reply log).1 = (s.load reply).1.under log := by
  rw [load, load, ← Client.entity_under _ log, finishLoad_under]

/-- **A search under a log.** -/
theorem search_under (s : Session) (user? : Option String) (reply : Reply) (log : Log) :
    (s.search user? reply log).1 = (s.search user? reply).1.under log := by
  unfold search
  split
  · rfl
  · rw [← Client.execute_under _ log, finishSearch_under]

/-- **An operation under a log** does what it does without one, up to the first record that the log
refuses. -/
theorem step_under (s : Session) (reply : Reply) (o : Operation) (log : Log) :
    (s.step reply o log).1 = (s.step reply o).1.under log := by
  have changed : ∀ c : Builder.Change Unit, (s.change c).1 = (s.change c).1.under log := by
    intro c
    rw [change]
    cases (c.apply s.builder).1 <;> rfl
  cases o with
  | load =>
    show Answer.flag <$> (s.load reply log).1 = (Answer.flag <$> (s.load reply).1).under log
    rw [load_under, Exchange.under_map]
  | search user? =>
    show Answer.table <$> (s.search user? reply log).1 =
      (Answer.table <$> (s.search user? reply).1).under log
    rw [search_under, Exchange.under_map]
  | setValue | setValues | setText | reset => exact changed _
  | _ => rfl

/-! ### The session after it -/

/-- A conclusion goes on, or leaves the session as it was before it. -/
theorem conclude_snd {α β : Type} (x : Exchange α) (log : Log) (r : Logging.Record) (answer : β)
    (after before : Session) : (conclude x log r answer after before).2 = after ∨
      (conclude x log r answer after before).2 = before := by
  unfold conclude
  simp only
  split
  · exact .inl rfl
  · exact .inr rfl

/-- An exchange under a log is the exchange itself, or ends with an error that no session keeps. -/
theorem under_cases {α : Type} (x : Exchange α) (log : Log) : x.under log = x ∨
    ∃ e, (x.under log).outcome = .error e ∧ isLoadFailure e = false ∧ isSearchFailure e = false := by
  cases cause : cause? (Act.refusal? log) x.acts with
  | none => exact .inl (Exchange.under_of_taken cause)
  | some e =>
    rw [Exchange.under_of_refused cause]
    exact .inr ⟨e, rfl, isLoadFailure_of_cause? cause, isSearchFailure_of_cause? cause⟩

/-- **What a loading under a log leaves:** the session that it would leave without one, or the one before
it, which has a new builder if the entity was found. -/
theorem load_snd_cases (s : Session) (reply : Reply) (log : Log) :
    (s.load reply log).2 = (s.load reply).2 ∨ (s.load reply log).2 = s ∨
      ∃ e, e.name ≠ "" ∧ (s.load reply log).2 = { s with builder := .ofEntity e } := by
  rw [load, load, ← Client.entity_under _ log]
  obtain same | ⟨e, failed, lost, -⟩ :=
    under_cases (s.client.entity s.entityName reply) log
  · rw [same]
    unfold finishLoad
    split
    · next e found =>
      have named := Client.name_ne_of_entity found
      rw [Builder.start_eq, if_neg named]
      obtain on | back := conclude_snd (s.client.entity s.entityName reply) log _ true
        { s with builder := .ofEntity e, error? := none } { s with builder := .ofEntity e }
      · exact .inl on
      · exact .inr (.inr ⟨e, named, back⟩)
    · split
      · obtain on | back := conclude_snd (s.client.entity s.entityName reply) log _ false _ s
        · exact .inl on
        · exact .inr (.inl back)
      · exact .inl rfl
  · simp [finishLoad, failed, lost]

/-- **What a search under a log leaves:** the session that it would leave without one, or the one before
it. -/
theorem search_snd_cases (s : Session) (user? : Option String) (reply : Reply) (log : Log) :
    (s.search user? reply log).2 = (s.search user? reply).2 ∨ (s.search user? reply log).2 = s := by
  unfold search
  split
  · exact .inl rfl
  · next query built =>
    rw [← Client.execute_under _ log]
    obtain same | ⟨e, failed, -, lost⟩ := under_cases (s.client.execute query user? reply) log
    · rw [same]
      unfold finishSearch
      split
      · exact .inl rfl
      · split
        · exact conclude_snd ..
        · exact .inl rfl
    · simp [finishSearch, failed, lost]

/-- **What an operation under a log leaves.** -/
theorem step_snd_cases (s : Session) (reply : Reply) (o : Operation) (log : Log) :
    (s.step reply o log).2 = (s.step reply o).2 ∨ (s.step reply o log).2 = s ∨
      ∃ e, e.name ≠ "" ∧ (s.step reply o log).2 = { s with builder := .ofEntity e } := by
  cases o with
  | load => exact load_snd_cases s reply log
  | search user? => exact (search_snd_cases s user? reply log).imp_right .inl
  | _ => exact .inl rfl

/-- **A log that takes the records of a loading changes nothing.** -/
theorem load_of_taken (h : cause? (Act.refusal? log) (s.load reply).1.acts = none) :
    s.load reply log = s.load reply := by
  have finishes := finishes_finishLoad s (s.client.entity s.entityName reply)
  rw [load, load, ← Client.entity_under _ log, Exchange.under_of_taken (finishes.front_of_taken h)]
  exact finishes.eq_of_taken h

/-- **A log that takes the records of a search changes nothing.** -/
theorem search_of_taken {user? : Option String}
    (h : cause? (Act.refusal? log) (s.search user? reply).1.acts = none) :
    s.search user? reply log = s.search user? reply := by
  unfold search at h ⊢
  split
  · rfl
  · next query built =>
    simp only [built] at h
    have finishes := finishes_finishSearch s query (s.client.execute query user? reply)
    rw [← Client.execute_under _ log, Exchange.under_of_taken (finishes.front_of_taken h)]
    exact finishes.eq_of_taken h

/-! ### Histories -/

/-- The session after a history of operations, each with the reply that its request would get and the log
that it is told to. -/
def runLogged (s : Session) (history : List (Operation × Reply × Log)) : Session :=
  history.foldl (fun s h => (s.step h.2.1 h.1 h.2.2).2) s

/-- **What every effect and a new builder keep holds after every history under any logs.** -/
theorem runLogged_induction {P : Session → Prop} {s : Session}
    (history : List (Operation × Reply × Log)) (hs : P s)
    (effect : ∀ {s reply o a s'}, P s → Effect s reply o a s' → P s')
    (started : ∀ {s e}, P s → e.name ≠ "" → P { s with builder := .ofEntity e }) :
    P (s.runLogged history) := by
  induction history generalizing s with
  | nil => exact hs
  | cons h history ih =>
    obtain ⟨o, reply, log⟩ := h
    refine ih (s := (s.step reply o log).2) ?_
    obtain same | same | ⟨e, named, same⟩ := step_snd_cases s reply o log
    · rw [same]
      cases returned : (s.step reply o).1.outcome with
      | error err => exact (step_of_failed returned).symm ▸ hs
      | ok a => exact effect hs (effect_of_returned returned)
    · exact same.symm ▸ hs
    · exact same.symm ▸ started hs named

variable (c : Client) (name : String) (history : List (Operation × Reply × Log))

/-- No operation changes where the service is. -/
theorem config_runLogged : ((start c name).runLogged history).client.config = c.config := by
  refine runLogged_induction history (P := fun s => s.client.config = c.config) rfl ?_ ?_
  · rintro s reply o a s' h he
    cases he with
    | _ => exact h
  · intro s e h _
    exact h

/-- **The builder of a session is a builder with a history of its own,** under any logs. -/
theorem exists_builder_runLogged :
    ∃ operations, ((start c name).runLogged history).builder = Builder.fresh.run operations := by
  refine runLogged_induction history
    (P := fun s => ∃ operations, s.builder = Builder.fresh.run operations) ⟨[], rfl⟩ ?_ ?_
  · rintro s reply o a s' ⟨operations, hb⟩ he
    cases he with
    | @loaded e found named =>
      exact ⟨operations ++ [.start e], (Builder.run_concat_start operations named).symm⟩
    | built _ p _ => exact ⟨operations ++ [p], by rw [Builder.run_concat, ← hb]⟩
    | _ => exact ⟨operations, hb⟩
  · rintro s e ⟨operations, -⟩ named
    exact ⟨operations ++ [.start e], (Builder.run_concat_start operations named).symm⟩

end Session
end EntityQuery
