import EntityQuery.Proofs.Query.Step
import EntityQuery.Proofs.Service.Exchange
import EntityQuery.Session

/-!
# What one operation does to a session

An operation that fails leaves the session as it is (`step_of_failed`). One that returns has one of
six effects (`effect_of_returned`): a loading and a search keep what the client's request came to, an
operation on the builder is an operation of the builder itself, and closing closes the client.
-/

namespace EntityQuery
namespace Session

open Service (Exchange Reply)
open Outcome

namespace Operation

/-- Whether an operation sends a request. -/
def isRemote : Operation → Bool
  | load | search _ => true
  | _ => false

end Operation

/-! ### The effect of an operation -/

/-- What an operation that returned an answer makes of a session. -/
inductive Effect (s : Session) (reply : Reply) : Operation → Answer → Session → Prop
  | loaded {e : Entity} (found : (s.client.entity s.entityName reply).outcome = .ok e)
      (named : e.name ≠ "") :
      Effect s reply .load (.flag true) { s with builder := .ofEntity e, error? := none }
  | loadFailed {err : Error} (raised : (s.client.entity s.entityName reply).outcome = .error err)
      (kept : isLoadFailure err = true) :
      Effect s reply .load (.flag false) { s with error? := some err.message }
  | searched {user? : Option String} {query : String} {t : Table}
      (built : s.builder.build = .ok query)
      (found : (s.client.execute query user? reply).outcome = .ok t) :
      Effect s reply (.search user?) (.table (some t)) { s with table? := some t, error? := none }
  | searchFailed {user? : Option String} {query : String} {err : Error}
      (built : s.builder.build = .ok query)
      (raised : (s.client.execute query user? reply).outcome = .error err)
      (kept : isSearchFailure err = true) :
      Effect s reply (.search user?) (.table none)
        { s with table? := none, error? := some err.message }
  | built {o : Operation} {a : Answer} (stays : o.isRemote = false) (p : Builder.Operation)
      (keeps : p.isStart = false) :
      Effect s reply o a { s with builder := (s.builder.step p).2 }
  | closed : Effect s reply .close .done { s with client := s.client.close }

/-! ### Loading -/

section

variable {s : Session} {reply : Reply}

/-- An entity that is found is loaded. -/
theorem load_of_found {e : Entity} (h : (s.client.entity s.entityName reply).outcome = .ok e)
    (named : e.name ≠ "") : (s.load reply).1.outcome = .ok true ∧
      (s.load reply).2 = { s with builder := .ofEntity e, error? := none } := by
  have started : s.builder.start e = .ok (.ofEntity e) := by
    rw [Builder.start_eq, if_neg named]
  simp [load, finishLoad, h, started]

/-- An entity without a name would make the loading fail. -/
theorem load_of_unnamed {e : Entity} (h : (s.client.entity s.entityName reply).outcome = .ok e)
    (unnamed : e.name = "") :
    (s.load reply).1.outcome = .error (.metadata .noName) ∧ (s.load reply).2 = s := by
  have refused : s.builder.start e = .error (.metadata .noName) := by
    rw [Builder.start_eq, if_pos unnamed]
  simp [load, finishLoad, h, refused]

/-- An error of a loading that is kept is kept as a text. -/
theorem load_of_kept {err : Error} (h : (s.client.entity s.entityName reply).outcome = .error err)
    (kept : isLoadFailure err = true) : (s.load reply).1.outcome = .ok false ∧
      (s.load reply).2 = { s with error? := some err.message } := by
  simp [load, finishLoad, h, kept]

/-- Any other error makes the loading fail. -/
theorem load_of_lost {err : Error} (h : (s.client.entity s.entityName reply).outcome = .error err)
    (lost : isLoadFailure err = false) :
    (s.load reply).1.outcome = .error err ∧ (s.load reply).2 = s := by
  simp [load, finishLoad, h, lost]

/-- A loading finds an entity, keeps an error, or fails and changes nothing. -/
theorem load_cases (s : Session) (reply : Reply) :
    (∃ e, (s.client.entity s.entityName reply).outcome = .ok e ∧ e.name ≠ "" ∧
      (s.load reply).1.outcome = .ok true ∧
      (s.load reply).2 = { s with builder := .ofEntity e, error? := none }) ∨
    (∃ err, (s.client.entity s.entityName reply).outcome = .error err ∧ isLoadFailure err = true ∧
      (s.load reply).1.outcome = .ok false ∧
      (s.load reply).2 = { s with error? := some err.message }) ∨
    ∃ err, (s.load reply).1.outcome = .error err ∧ (s.load reply).2 = s := by
  cases hx : (s.client.entity s.entityName reply).outcome with
  | ok e =>
    by_cases unnamed : e.name = ""
    · exact .inr (.inr ⟨_, load_of_unnamed hx unnamed⟩)
    · exact .inl ⟨e, rfl, unnamed, load_of_found hx unnamed⟩
  | error err =>
    cases kept : isLoadFailure err with
    | true => exact .inr (.inl ⟨err, rfl, kept, load_of_kept hx kept⟩)
    | false => exact .inr (.inr ⟨err, load_of_lost hx kept⟩)

/-! ### Searching -/

variable {user? : Option String}

/-- Without a query a search fails. -/
theorem search_of_unbuilt {err : Error} (h : s.builder.build = .error err) :
    (s.search user? reply).1.outcome = .error err ∧ (s.search user? reply).2 = s := by
  simp [search, h]

variable {query : String}

/-- A result that is found is kept. -/
theorem search_of_found {t : Table} (built : s.builder.build = .ok query)
    (h : (s.client.execute query user? reply).outcome = .ok t) :
    (s.search user? reply).1.outcome = .ok (some t) ∧
      (s.search user? reply).2 = { s with table? := some t, error? := none } := by
  simp [search, finishSearch, built, h]

/-- An error of a search that is kept is kept as a text, and the last result is dropped. -/
theorem search_of_kept {err : Error} (built : s.builder.build = .ok query)
    (h : (s.client.execute query user? reply).outcome = .error err)
    (kept : isSearchFailure err = true) : (s.search user? reply).1.outcome = .ok none ∧
      (s.search user? reply).2 = { s with table? := none, error? := some err.message } := by
  simp [search, finishSearch, built, h, kept]

/-- Any other error makes the search fail. -/
theorem search_of_lost {err : Error} (built : s.builder.build = .ok query)
    (h : (s.client.execute query user? reply).outcome = .error err)
    (lost : isSearchFailure err = false) :
    (s.search user? reply).1.outcome = .error err ∧ (s.search user? reply).2 = s := by
  simp [search, finishSearch, built, h, lost]

/-- A search finds a table, keeps an error, or fails and changes nothing. -/
theorem search_cases (s : Session) (user? : Option String) (reply : Reply) :
    (∃ query t, s.builder.build = .ok query ∧
      (s.client.execute query user? reply).outcome = .ok t ∧
      (s.search user? reply).1.outcome = .ok (some t) ∧
      (s.search user? reply).2 = { s with table? := some t, error? := none }) ∨
    (∃ query err, s.builder.build = .ok query ∧
      (s.client.execute query user? reply).outcome = .error err ∧ isSearchFailure err = true ∧
      (s.search user? reply).1.outcome = .ok none ∧
      (s.search user? reply).2 = { s with table? := none, error? := some err.message }) ∨
    ∃ err, (s.search user? reply).1.outcome = .error err ∧ (s.search user? reply).2 = s := by
  cases built : s.builder.build with
  | error err => exact .inr (.inr ⟨err, search_of_unbuilt built⟩)
  | ok query =>
    cases hx : (s.client.execute query user? reply).outcome with
    | ok t => exact .inl ⟨query, t, rfl, hx, search_of_found built hx⟩
    | error err =>
      cases kept : isSearchFailure err with
      | true => exact .inr (.inl ⟨query, err, rfl, hx, kept, search_of_kept built hx kept⟩)
      | false => exact .inr (.inr ⟨err, search_of_lost built hx kept⟩)

end

/-! ### One operation -/

section

variable {b b' : Builder} {name : Value} {text? : Option String}

/-- What a user typed is read for the type of the field, and then set as a value. -/
theorem apply_textChange (name : Value) (text? : Option String) (b : Builder) :
    (textChange name text?).apply b = match b.fieldType name >>= typed text? with
      | .ok v => (Builder.Change.setValue name v).apply b
      | .error e => (.error e, b) := by
  rw [textChange, Builder.Change.apply_look_bind]
  cases b.fieldType name with
  | error e => rfl
  | ok type =>
    refine (Builder.Change.apply_look_bind (fun _ => typed text? type) _ b).trans ?_
    show _ = match typed text? type with
      | .ok v => (Builder.Change.setValue name v).apply b
      | .error e => (.error e, b)
    cases typed text? type <;> rfl

/-- What a user typed leaves no trace if it is refused. -/
theorem keeps_textChange (name : Value) (text? : Option String) : (textChange name text?).Keeps := by
  intro b e failed
  rw [apply_textChange] at failed ⊢
  cases read : b.fieldType name >>= typed text? with
  | ok v =>
    rw [read] at failed
    exact Builder.Change.keeps_setValue name v b e failed
  | error e => rfl

/-- The builder with what a user typed is the one with the value that it is read as. -/
theorem setText_eq (b : Builder) (name : Value) (text? : Option String) : setText b name text? =
    b.fieldType name >>= fun type => typed text? type >>= fun v => b.setValue name v := by
  rw [setText, textChange, Builder.Change.result_look_bind]
  refine congrArg (b.fieldType name >>= ·) (funext fun type => ?_)
  exact Builder.Change.result_look_bind (fun _ => typed text? type) _ b

/-- What a user typed is set as a value, if it is set. -/
theorem setText_eq_ok (h : setText b name text? = .ok b') : ∃ v, b.setValue name v = .ok b' := by
  rw [setText_eq] at h
  obtain ⟨type, -, h⟩ := bind_eq_ok.1 h
  obtain ⟨v, -, h⟩ := bind_eq_ok.1 h
  exact ⟨v, h⟩

end

/-- What a change of the builder comes to in a session. -/
theorem outcome_change (s : Session) (c : Builder.Change Unit) :
    (s.change c).1.outcome = (fun _ => .done) <$> (c.apply s.builder).1 := rfl

/-- **A change that keeps the builder when it fails** is told by the builder that it comes to. -/
theorem change_of_keeps {c : Builder.Change Unit} (keeps : c.Keeps) (s : Session) :
    s.change c = match c.result s.builder with
      | .ok b => (pure .done, { s with builder := b })
      | .error e => (Exchange.fail e, s) := by
  rw [change]
  cases result : c.result s.builder with
  | ok b => rw [Builder.Change.result_eq_ok.1 result]; rfl
  | error e => rw [Builder.Change.apply_of_refused keeps result]; rfl

/-- What a text that is typed comes to as an operation. -/
theorem step_setText (s : Session) (reply : Reply) (name : Value) (text? : Option String) :
    s.step reply (.setText name text?) = match setText s.builder name text? with
      | .ok b => (pure .done, { s with builder := b })
      | .error e => (Exchange.fail e, s) :=
  change_of_keeps (keeps_textChange name text?) s

/-- **An operation that fails changes nothing.** -/
theorem step_of_failed {s : Session} {reply : Reply} {o : Operation} {err : Error}
    (h : (s.step reply o).1.outcome = .error err) : (s.step reply o).2 = s := by
  have kept : ∀ c : Builder.Change Unit, c.Keeps → (s.change c).1.outcome = .error err →
      (s.change c).2 = s := by
    intro c keeps failed
    have same := keeps s.builder err (map_eq_error.1 ((outcome_change s c).symm.trans failed))
    rw [change, same]
  cases o with
  | load =>
    have failed := map_eq_error.1 ((Exchange.outcome_map ..).symm.trans h)
    obtain ⟨_, -, -, returned, -⟩ | ⟨_, -, -, returned, -⟩ | ⟨_, -, same⟩ := load_cases s reply
    · cases returned.symm.trans failed
    · cases returned.symm.trans failed
    · exact same
  | search user? =>
    have failed := map_eq_error.1 ((Exchange.outcome_map ..).symm.trans h)
    obtain ⟨_, _, -, -, returned, -⟩ | ⟨_, _, -, -, -, returned, -⟩ | ⟨_, -, same⟩ :=
      search_cases s user? reply
    · cases returned.symm.trans failed
    · cases returned.symm.trans failed
    · exact same
  | setValue name v => exact kept _ (Builder.Change.keeps_setValue name v) h
  | setValues es => exact kept _ (Builder.Change.keeps_setValues es) h
  | setText name text? => exact kept _ (keeps_textChange name text?) h
  | reset => exact kept _ Builder.Change.keeps_reset h
  | close => cases h
  | _ => rfl

/-- **An operation that returns has one of six effects.** -/
theorem effect_of_returned {s : Session} {reply : Reply} {o : Operation} {a : Answer}
    (h : (s.step reply o).1.outcome = .ok a) : Effect s reply o a (s.step reply o).2 := by
  -- a change of the builder is the same operation of the builder
  have changed : ∀ {o : Operation} {c : Builder.Change Unit} (p : Builder.Operation),
      o.isRemote = false → p.isStart = false →
      (s.builder.step p).2 = (c.apply s.builder).2 → Effect s reply o a (s.change c).2 := by
    intro o c p stays keeps same
    rw [change, ← same]
    exact .built stays p keeps
  cases o with
  | load =>
    obtain ⟨flag, hl, rfl⟩ := map_eq_ok.1 ((Exchange.outcome_map ..).symm.trans h)
    show Effect s reply .load _ (s.load reply).2
    obtain ⟨e, found, named, returned, state⟩ | ⟨err, raised, kept, returned, state⟩ |
      ⟨err, failed, -⟩ := load_cases s reply
    · obtain rfl := Except.ok.inj (returned.symm.trans hl)
      exact state ▸ .loaded found named
    · obtain rfl := Except.ok.inj (returned.symm.trans hl)
      exact state ▸ .loadFailed raised kept
    · cases failed.symm.trans hl
  | search user? =>
    obtain ⟨t?, hs, rfl⟩ := map_eq_ok.1 ((Exchange.outcome_map ..).symm.trans h)
    show Effect s reply (.search user?) _ (s.search user? reply).2
    obtain ⟨query, t, built, found, returned, state⟩ |
      ⟨query, err, built, raised, kept, returned, state⟩ | ⟨err, failed, -⟩ :=
      search_cases s user? reply
    · obtain rfl := Except.ok.inj (returned.symm.trans hs)
      exact state ▸ .searched built found
    · obtain rfl := Except.ok.inj (returned.symm.trans hs)
      exact state ▸ .searchFailed built raised kept
    · cases failed.symm.trans hs
  | setValue name v => exact changed (.setValue name v) rfl rfl rfl
  | setValues es => exact changed (.setValues es) rfl rfl rfl
  | setText name text? =>
    obtain ⟨⟨⟩, done, -⟩ := map_eq_ok.1 ((outcome_change ..).symm.trans h)
    have set : setText s.builder name text? = .ok _ := Builder.Change.result_eq_ok.2 (Prod.ext done rfl)
    obtain ⟨v, typed⟩ := setText_eq_ok set
    refine changed (.setValue name v) rfl rfl ?_
    rw [Builder.step, Builder.change_of_ok typed]
  | reset => exact changed .reset rfl rfl rfl
  | close =>
    obtain rfl := Except.ok.inj h
    exact .closed
  | _ => exact .built rfl .metadata rfl

/-! ### Histories -/

/-- The session after a history of operations, each with the reply that its request would get. -/
def run (s : Session) (history : List (Operation × Reply)) : Session :=
  history.foldl (fun s h => (s.step h.2 h.1).2) s

/-- A history ends with its last operation. -/
theorem run_concat (s : Session) (history : List (Operation × Reply)) (o : Operation)
    (reply : Reply) : s.run (history ++ [(o, reply)]) = ((s.run history).step reply o).2 := by
  simp [run]

/-- **What every effect keeps holds after every history.** -/
theorem run_induction {P : Session → Prop} {s : Session} (history : List (Operation × Reply))
    (hs : P s) (heffect : ∀ {s reply o a s'}, P s → Effect s reply o a s' → P s') :
    P (s.run history) := by
  induction history generalizing s with
  | nil => exact hs
  | cons h history ih =>
    refine ih (s := (s.step h.2 h.1).2) ?_
    cases hr : (s.step h.2 h.1).1.outcome with
    | error err => exact (step_of_failed hr).symm ▸ hs
    | ok a => exact heffect hs (effect_of_returned hr)

end Session
end EntityQuery
